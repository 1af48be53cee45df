import ClusterClient.Entry.Index
import ClusterClient.Proofs.Decimal
import ClusterClient.Proofs.Rounding
import Mathlib.Algebra.Order.Field.Power
import Mathlib.Algebra.Order.Floor.Semifield
import Mathlib.Data.Nat.Log
namespace ClusterClient

namespace Json

def Exponent.power (e : Exponent) : ℤ :=
  if e.negative then -(Decimal.value e.digits : ℤ) else Decimal.value e.digits

def Number.size (n : Number) : ℚ :=
  (Decimal.value n.whole + Decimal.value (n.fraction.getD []) / 10 ^ n.places) *
    10 ^ (n.exponent.elim 0 Exponent.power)

def Number.rational (n : Number) : ℚ := if n.negative then -n.size else n.size

theorem Number.size_nonneg (n : Number) : 0 ≤ n.size := by
  unfold size
  positivity

theorem Number.size_eq (n : Number) : n.size = Decimal.value n.digits * (10 : ℚ) ^ n.scale := by
  have scaled : n.scale = n.exponent.elim 0 Exponent.power - n.places := by
    unfold scale
    cases n.exponent with
    | none => simp
    | some e => rfl
  have shifted : (Decimal.value n.whole + Decimal.value (n.fraction.getD []) / 10 ^ n.places : ℚ) =
      Decimal.value n.digits / 10 ^ n.places := by
    rw [digits,Decimal.value_append,← places]
    push_cast
    field_simp
  rw [size,shifted,scaled,zpow_sub₀ (by norm_num),zpow_natCast]
  ring

end Json

namespace Index
open Rounding Decimal

def wholeWord? (x : ℚ) : Option UInt64 := if -1 < x ∧ x < limit then some (UInt64.ofNat ⌊x⌋₊) else none

theorem roundHalfEven_eq (num : Nat) {den : Nat} (divides : 0 < den) :
    (roundHalfEven num den : ℤ) = toWhole (num / den) := by
  have positive : (0 : ℚ) < den := by exact_mod_cast divides
  have floor : ⌊(num / den : ℚ)⌋ = ((num / den : ℕ) : ℤ) := by
    rw [Rat.floor_natCast_div_natCast]
    rfl
  have left : (num / den : ℚ) - ((num / den : ℕ) : ℚ) = ((num % den : ℕ) : ℚ) / den := by
    have whole : (num : ℚ) = den * (num / den : ℕ) + (num % den : ℕ) := by
      exact_mod_cast (Nat.div_add_mod num den).symm
    rw [eq_div_iff positive.ne',sub_mul,div_mul_cancel₀ _ positive.ne']
    linarith
  have below : ((num % den : ℕ) : ℚ) / den < 1 / 2 ↔ 2 * (num % den) < den := by
    rw [div_lt_div_iff₀ positive (by norm_num),mul_comm,one_mul]
    norm_cast
  have above : (1 / 2 : ℚ) < ((num % den : ℕ) : ℚ) / den ↔ den < 2 * (num % den) := by
    rw [div_lt_div_iff₀ (by norm_num) positive,mul_comm _ (2 : ℚ),one_mul]
    norm_cast
  unfold roundHalfEven toWhole
  rw [floor,Int.cast_natCast,left]
  simp only [below,above]
  split_ifs <;> push_cast <;> rfl

theorem log_bitLength {num den : Nat} (half : (1 / 2 : ℚ) ≤ num / den) :
    Int.log 2 (num / den : ℚ) = bitLength (num / den) - 1 := by
  have positive : (0 : ℚ) < num / den := lt_of_lt_of_le (by norm_num) half
  have floor : ⌊(num / den : ℚ)⌋₊ = num / den := Nat.floor_div_eq_div num den
  unfold bitLength
  split_ifs with none
  · have below : (num / den : ℚ) < 1 := Nat.floor_eq_zero.mp (floor.trans none)
    have least : -1 ≤ Int.log 2 (num / den : ℚ) :=
      (Int.zpow_le_iff_le_log (by decide) positive).mp (by norm_num; linarith)
    have most : Int.log 2 (num / den : ℚ) < 0 :=
      (Int.lt_zpow_iff_log_lt (by decide) positive).mp (by norm_num; linarith)
    push_cast
    omega
  · have reaches : (1 : ℚ) ≤ num / den := by
      refine (Nat.one_le_floor_iff _).mp ?_
      omega
    rw [Int.log_of_one_le_right 2 reaches,floor,Nat.log2_eq_log_two]
    push_cast
    ring

theorem pow_split (bits : Nat) : (2 : ℚ) ^ ((bits : ℤ) - 53) = 2 ^ (bits - 53) / 2 ^ (53 - bits) := by
  rcases Nat.le_total bits 53 with few | many
  · obtain ⟨rest,same⟩ := Nat.exists_eq_add_of_le few
    have exponent : (bits : ℤ) - 53 = -(rest : ℤ) := by omega
    rw [exponent,Nat.sub_eq_zero_of_le few,zpow_neg,zpow_natCast,pow_zero,one_div]
    congr
    omega
  · obtain ⟨more,same⟩ := Nat.exists_eq_add_of_le many
    have exponent : (bits : ℤ) - 53 = (more : ℤ) := by omega
    rw [exponent,Nat.sub_eq_zero_of_le many,zpow_natCast,pow_zero,div_one]
    congr
    omega

theorem nearest_no_whole {x : ℚ} (nonneg : 0 ≤ x) (small : x < 1 / 2) : ⌊nearest x⌋₊ = 0 :=
  Nat.floor_eq_zero.mpr (nearest_lt_one nonneg small)

theorem roundedWhole_small {num den : Nat} (divides : 0 < den) (small : (num / den : ℚ) < 1 / 2) :
    roundedWhole num den = 0 := by
  have none : num / den = 0 := by
    rw [← Nat.floor_div_eq_div (K := ℚ),Nat.floor_eq_zero]
    linarith
  have scaled : (((num * 2 ^ 53 : ℕ) : ℚ) / den) ≤ ((2 ^ 52 : ℤ) : ℚ) := by
    push_cast
    rw [mul_div_right_comm]
    linarith
  have rounded := toWhole_le scaled
  rw [← roundHalfEven_eq _ divides] at rounded
  unfold roundedWhole
  simp only [none,bitLength,if_true,Nat.pow_eq,Nat.zero_sub,pow_zero,Nat.sub_zero,Nat.mul_one]
  exact Nat.div_eq_of_lt (by omega)

-- Below one half there is no whole part before or after rounding, and from there on the grid is the
-- one that the leading bit asks for.
theorem roundedWhole_eq (num : Nat) {den : Nat} (divides : 0 < den) :
    roundedWhole num den = ⌊nearest (num / den)⌋₊ := by
  have nonneg : (0 : ℚ) ≤ num / den := by positivity
  rcases lt_or_ge (num / den : ℚ) (1 / 2) with small | half
  · rw [roundedWhole_small divides small,nearest_no_whole nonneg small]
  · have step : unit (num / den) = 2 ^ (bitLength (num / den) - 53) / 2 ^ (53 - bitLength (num / den)) := by
      rw [unit,abs_of_nonneg nonneg,log_bitLength half,← pow_split]
      congr 1
      ring
    unfold roundedWhole
    simp only [Nat.pow_eq]
    generalize bitLength (num / den) = bits at step
    have scaled : (num / den : ℚ) / unit (num / den) =
        ((num * 2 ^ (53 - bits) : ℕ) : ℚ) / ((den * 2 ^ (bits - 53) : ℕ) : ℚ) := by
      rw [step]
      push_cast
      rw [div_div_div_eq]
    rw [nearest,scaled,← roundHalfEven_eq _ (by positivity),step,← Nat.floor_div_eq_div (K := ℚ)]
    push_cast
    congr 1
    ring

theorem scaled_lt (digits : Digits) (scale : ℤ) :
    (value digits : ℚ) * 10 ^ scale < 10 ^ (digits.length + scale) := by
  have bounded : (value digits : ℚ) < 10 ^ digits.length := by exact_mod_cast value_lt digits
  rw [zpow_add₀ (by norm_num),zpow_natCast]
  exact mul_lt_mul_of_pos_right bounded (zpow_pos (by norm_num) _)

theorem le_scaled {d : Fin 10} (counts : d.val ≠ 0) (rest : Digits) (scale : ℤ) :
    (10 : ℚ) ^ ((d :: rest).length + scale - 1) ≤ value (d :: rest) * 10 ^ scale := by
  have bounded : (10 : ℚ) ^ rest.length ≤ value (d :: rest) := by exact_mod_cast le_value counts
  have shifted : ((d :: rest).length + scale - 1 : ℤ) = rest.length + scale := by
    rw [List.length_cons]
    push_cast
    ring
  rw [shifted,zpow_add₀ (by norm_num),zpow_natCast]
  exact mul_le_mul_of_nonneg_right bounded (zpow_pos (by norm_num) _).le

-- A number that is not worked out is past every word, rounded or not.
theorem scaledWhole?_eq (digits : Digits) (scale : ℤ) :
    match scaledWhole? digits scale with
    | none => (limit : ℚ) ≤ nearest (value digits * 10 ^ scale)
    | some whole => whole = ⌊nearest (value digits * 10 ^ scale)⌋₊ := by
  have nonneg : (0 : ℚ) ≤ value digits * 10 ^ scale := by positivity
  rw [← value_dropWhile digits] at nonneg ⊢
  have leading := List.head?_dropWhile_not (fun d : Fin 10 => d.val == 0) digits
  unfold scaledWhole?
  dsimp only
  generalize digits.dropWhile (fun d => d.val == 0) = significant at nonneg leading
  cases significant with
  | nil =>
    change 0 = ⌊nearest (((0 : ℕ) : ℚ) * 10 ^ scale)⌋₊
    rw [Nat.cast_zero,zero_mul,nearest_zero,Nat.floor_zero]
  | cons d rest =>
    have counts : d.val ≠ 0 := by simpa using leading
    have upper := scaled_lt (d :: rest) scale
    have lower := le_scaled counts rest scale
    simp only [List.isEmpty_cons,Bool.false_or,decide_eq_true_eq]
    generalize ((d :: rest).length + scale : ℤ) = top at upper lower
    -- The leading digit settles the size where nothing is worked out: below a tenth rounding does not
    -- come up to one, and past 10^20 its error does not reach down to the words.
    split_ifs with tiny huge whole
    · have least : (10 : ℚ) ^ top ≤ 10 ^ (-1 : ℤ) := zpow_le_zpow_right₀ (by norm_num) (by omega)
      refine (nearest_no_whole nonneg ?_).symm
      refine (upper.trans_le least).trans ?_
      norm_num
    · have most : (10 : ℚ) ^ (20 : ℤ) ≤ 10 ^ (top - 1) := zpow_le_zpow_right₀ (by norm_num) (by omega)
      have error := (abs_le.mp (nearest_error (value (d :: rest) * 10 ^ scale))).2
      rw [abs_of_nonneg nonneg] at error
      norm_num [limit] at most ⊢
      linarith
    · obtain ⟨k,rfl⟩ := Int.eq_ofNat_of_zero_le whole
      dsimp only
      rw [roundedWhole_eq _ Nat.one_pos]
      simp [Nat.pow_eq]
    · obtain ⟨k,rfl⟩ : ∃ k : ℕ, scale = -k := ⟨scale.natAbs,by omega⟩
      dsimp only
      rw [neg_neg,Int.toNat_natCast,Nat.pow_eq,roundedWhole_eq _ (Nat.pow_pos (by decide)),zpow_neg,zpow_natCast]
      push_cast
      rw [div_eq_mul_inv]

theorem wholeWord?_nonneg {x : ℚ} (nonneg : 0 ≤ x) : wholeWord? x = ofNat? ⌊x⌋₊ := by
  have bounds : (-1 < x ∧ x < limit) ↔ ⌊x⌋₊ < limit := by
    rw [Nat.floor_lt nonneg]
    exact ⟨fun both => both.2,fun less => ⟨by linarith,less⟩⟩
  unfold wholeWord? ofNat?
  simp only [bounds]

theorem wholeWord?_neg {x : ℚ} (nonneg : 0 ≤ x) : wholeWord? (-x) = if ⌊x⌋₊ = 0 then some 0 else none := by
  have bounds : (-1 < -x ∧ -x < limit) ↔ ⌊x⌋₊ = 0 := by
    rw [Nat.floor_eq_zero]
    constructor
    · intro both
      linarith [both.1]
    · intro less
      have : (0 : ℚ) < limit := by norm_num [limit]
      constructor <;> linarith
  have none : ⌊-x⌋₊ = 0 := Nat.floor_of_nonpos (by linarith)
  unfold wholeWord?
  simp only [bounds,none]
  rfl

theorem size_whole {n : Json.Number} (plain : n.exponent = none) : ⌊n.size⌋₊ = value n.whole := by
  have fraction : (value (n.fraction.getD []) : ℚ) / 10 ^ n.places < 1 := by
    rw [div_lt_one (by positivity)]
    exact_mod_cast value_lt (n.fraction.getD [])
  have nonneg : (0 : ℚ) ≤ value (n.fraction.getD []) / 10 ^ n.places := by positivity
  rw [Json.Number.size,plain,Option.elim_none,zpow_zero,mul_one,Nat.floor_eq_iff (by positivity)]
  constructor <;> linarith

theorem ofNumber?_plain {n : Json.Number} (plain : n.exponent = none) : ofNumber? n = wholeWord? n.rational := by
  unfold ofNumber? Json.Number.rational
  rw [plain]
  dsimp only
  split_ifs with negative none
  · rw [wholeWord?_neg n.size_nonneg,size_whole plain,if_pos none]
  · rw [wholeWord?_neg n.size_nonneg,size_whole plain,if_neg none]
  · rw [wholeWord?_nonneg n.size_nonneg,size_whole plain]

theorem ofNumber?_scaled {n : Json.Number} (scaled : n.exponent ≠ none) :
    ofNumber? n = wholeWord? (nearest n.rational) := by
  obtain ⟨power,given⟩ := Option.ne_none_iff_exists'.mp scaled
  have found := scaledWhole?_eq n.digits n.scale
  rw [← n.size_eq] at found
  have nonneg := nearest_nonneg n.size_nonneg
  unfold ofNumber? Json.Number.rational
  rw [given]
  dsimp only
  generalize scaledWhole? n.digits n.scale = whole? at found
  cases whole? with
  | none =>
    have large : ¬⌊nearest n.size⌋₊ < limit := by
      rw [not_lt]
      exact Nat.le_floor found
    split_ifs with negative
    · rw [nearest_neg,wholeWord?_neg nonneg,if_neg]
      have : limit = 18446744073709551616 := rfl
      omega
    · rw [wholeWord?_nonneg nonneg,ofNat?,if_neg large]
  | some whole =>
    dsimp only at found ⊢
    subst found
    split_ifs with negative none
    · rw [nearest_neg,wholeWord?_neg nonneg,if_pos none]
    · rw [nearest_neg,wholeWord?_neg nonneg,if_neg none]
    · rw [wholeWord?_nonneg nonneg]

end Index

end ClusterClient
