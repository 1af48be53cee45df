import Mathlib.Data.Int.Log
import Mathlib.Data.Rat.Floor
import Mathlib.Tactic.FieldSimp
import Mathlib.Tactic.Linarith
import Mathlib.Tactic.NormNum
import Mathlib.Tactic.Positivity
import Mathlib.Tactic.Ring
namespace ClusterClient.Rounding

-- So many bits are enough for a number, up to a power of two.
def Short (bits : Nat) (x : ℚ) : Prop := ∃ m e : ℤ, |m| < 2 ^ bits ∧ x = m * 2 ^ e

-- No number of 53 bits is nearer, and if another is as near, this one gets by with a bit less.
structure RoundsTo (x y : ℚ) : Prop where
  short : Short 53 y
  nearest : ∀ z, Short 53 z → |x - y| ≤ |x - z|
  tie : ∀ z, Short 53 z → z ≠ y → |x - z| = |x - y| → Short 52 y ∧ ¬Short 52 z

def toWhole (x : ℚ) : ℤ :=
  if x - ⌊x⌋ < 1 / 2 then ⌊x⌋ else if 1 / 2 < x - ⌊x⌋ then ⌊x⌋ + 1 else ⌊x⌋ + ⌊x⌋ % 2

theorem toWhole_error (x : ℚ) : |x - toWhole x| ≤ 1 / 2 := by
  have low := Int.floor_le x
  have high := Int.lt_floor_add_one x
  rw [abs_le,toWhole]
  split_ifs with below above
  · constructor <;> linarith
  · push_cast
    constructor <;> linarith
  · rcases Int.emod_two_eq ⌊x⌋ with even | odd
    · rw [even]
      push_cast
      constructor <;> linarith
    · rw [odd]
      push_cast
      constructor <;> linarith

theorem toWhole_even {x : ℚ} (tie : |x - toWhole x| = 1 / 2) : toWhole x % 2 = 0 := by
  have low := Int.floor_le x
  have high := Int.lt_floor_add_one x
  unfold toWhole at tie ⊢
  split_ifs at tie ⊢ with below above
  · rw [abs_of_nonneg (by linarith)] at tie
    exact absurd tie below.ne
  · push_cast at tie
    rw [abs_of_nonpos (by linarith)] at tie
    linarith
  · omega

theorem midway {x : ℚ} {k l : ℤ} (less : k < l) (left : |x - k| ≤ 1 / 2) (right : |x - l| ≤ 1 / 2) :
    l = k + 1 ∧ |x - k| = 1 / 2 ∧ |x - l| = 1 / 2 := by
  have apart : (k : ℚ) + 1 ≤ l := by exact_mod_cast less
  obtain ⟨_,above⟩ := abs_le.mp left
  obtain ⟨below,_⟩ := abs_le.mp right
  have next : l = k + 1 := by
    have : (l : ℚ) ≤ k + 1 := by linarith
    exact le_antisymm (by exact_mod_cast this) less
  subst next
  push_cast at below ⊢
  refine ⟨rfl,?_,?_⟩
  · rw [abs_of_nonneg (by linarith)]
    linarith
  · rw [abs_of_nonpos (by linarith)]
    linarith

theorem toWhole_eq {x : ℚ} {k : ℤ} (near : |x - k| ≤ 1 / 2) (even : |x - k| = 1 / 2 → k % 2 = 0) :
    toWhole x = k := by
  by_contra other
  rcases lt_or_gt_of_ne other with less | greater
  · obtain ⟨next,left,right⟩ := midway less (toWhole_error x) near
    have := toWhole_even left
    have := even right
    omega
  · obtain ⟨next,right,left⟩ := midway greater near (toWhole_error x)
    have := toWhole_even left
    have := even right
    omega

theorem toWhole_neg (x : ℚ) : toWhole (-x) = -toWhole x := by
  have flipped : |-x - ((-toWhole x : ℤ) : ℚ)| = |x - toWhole x| := by
    rw [Int.cast_neg,neg_sub_neg,abs_sub_comm]
  refine toWhole_eq ?_ ?_
  · rw [flipped]
    exact toWhole_error x
  · intro tie
    rw [flipped] at tie
    have := toWhole_even tie
    omega

theorem toWhole_zero : toWhole 0 = 0 := toWhole_eq (by norm_num) (by norm_num)

theorem toWhole_nearest (x : ℚ) (k : ℤ) : |x - toWhole x| ≤ |x - k| := by
  by_contra farther
  rw [not_le] at farther
  have half := toWhole_error x
  rcases lt_trichotomy (toWhole x) k with less | same | greater
  · have tie := midway less half (by linarith)
    linarith [tie.2.1,tie.2.2]
  · rw [same] at farther
    exact lt_irrefl _ farther
  · have tie := midway greater (by linarith) half
    linarith [tie.2.1,tie.2.2]

theorem toWhole_tie {x : ℚ} {k : ℤ} (other : k ≠ toWhole x) (tie : |x - k| = |x - toWhole x|) :
    toWhole x % 2 = 0 ∧ k % 2 = 1 := by
  have half := toWhole_error x
  rcases lt_or_gt_of_ne other with less | greater
  · obtain ⟨next,_,left⟩ := midway less (by linarith) half
    have := toWhole_even left
    omega
  · obtain ⟨next,left,_⟩ := midway greater half (by linarith)
    have := toWhole_even left
    omega

theorem toWhole_le {x : ℚ} {k : ℤ} (bounded : x ≤ k) : toWhole x ≤ k := by
  have near := (abs_le.mp (toWhole_error x)).1
  have below : (toWhole x : ℚ) < k + 1 := by linarith
  exact Int.lt_add_one_iff.mp (by exact_mod_cast below)

def unit (x : ℚ) : ℚ := 2 ^ (Int.log 2 |x| - 52)

def nearest (x : ℚ) : ℚ := toWhole (x / unit x) * unit x

theorem unit_pos (x : ℚ) : 0 < unit x := zpow_pos (by norm_num) _

theorem unit_neg (x : ℚ) : unit (-x) = unit x := by
  rw [unit,unit,abs_neg]

theorem nearest_neg (x : ℚ) : nearest (-x) = -nearest x := by
  rw [nearest,nearest,unit_neg,neg_div,toWhole_neg]
  push_cast
  ring

theorem nearest_zero : nearest 0 = 0 := by
  rw [nearest,zero_div,toWhole_zero]
  simp

theorem unit_below {x : ℚ} (other : x ≠ 0) : 2 ^ 52 * unit x ≤ |x| := by
  have low := Int.zpow_log_le_self (b := 2) (by decide) (abs_pos.mpr other)
  have shifted : (2 : ℚ) ^ 52 * unit x = 2 ^ Int.log 2 |x| := by
    rw [unit,zpow_sub₀ (by norm_num)]
    norm_num
    ring
  rw [shifted]
  exact low

theorem unit_above (x : ℚ) : |x| < 2 ^ 53 * unit x := by
  have high := Int.lt_zpow_succ_log_self (b := 2) (by decide) |x|
  have shifted : (2 : ℚ) ^ 53 * unit x = 2 ^ (Int.log 2 |x| + 1) := by
    rw [unit,zpow_sub₀ (by norm_num),zpow_add₀ (by norm_num)]
    norm_num
    ring
  rw [shifted]
  exact high

theorem off_grid (x : ℚ) (k : ℤ) : |x - k * unit x| = |x / unit x - k| * unit x := by
  have step := unit_pos x
  rw [← abs_of_pos step,← abs_mul,abs_of_pos step,sub_mul,div_mul_cancel₀ _ step.ne']

theorem nearest_on_grid (x : ℚ) (k : ℤ) : |x - nearest x| ≤ |x - k * unit x| := by
  rw [nearest,off_grid,off_grid]
  exact mul_le_mul_of_nonneg_right (toWhole_nearest _ k) (unit_pos x).le

theorem nearest_within (x : ℚ) : |x - nearest x| ≤ unit x / 2 := by
  rw [nearest,off_grid]
  have half := mul_le_mul_of_nonneg_right (toWhole_error (x / unit x)) (unit_pos x).le
  linarith

theorem nearest_error (x : ℚ) : |x - nearest x| ≤ |x| / 2 ^ 53 := by
  by_cases zero : x = 0
  · rw [zero,nearest_zero]
    norm_num
  · have within := nearest_within x
    have below := unit_below zero
    linarith

theorem nearest_lt_one {x : ℚ} (nonneg : 0 ≤ x) (small : x < 1 / 2) : nearest x < 1 := by
  have error := nearest_error x
  rw [abs_of_nonneg nonneg] at error
  linarith [(abs_le.mp error).1]

theorem Short.neg {bits : Nat} {x : ℚ} (short : Short bits x) : Short bits (-x) := by
  obtain ⟨m,e,small,rfl⟩ := short
  refine ⟨-m,e,?_,?_⟩
  · rw [abs_neg]
    exact small
  · push_cast
    ring

theorem RoundsTo.neg {x y : ℚ} (rounds : RoundsTo x y) : RoundsTo (-x) (-y) := by
  have mirrored : ∀ z, |-x - z| = |x - -z| := by
    intro z
    rw [← abs_neg]
    congr 1
    ring
  refine ⟨rounds.short.neg,?_,?_⟩
  · intro z short
    rw [mirrored,mirrored,neg_neg]
    exact rounds.nearest (-z) short.neg
  · intro z short other same
    rw [mirrored,mirrored,neg_neg] at same
    have distinct : -z ≠ y := fun equal => other (by rw [← equal,neg_neg])
    obtain ⟨left,right⟩ := rounds.tie (-z) short.neg distinct same
    exact ⟨left.neg,fun shorter => right shorter.neg⟩

theorem short_units {bits : Nat} {k a : ℤ} (listed : 0 < bits) (bounded : |k| ≤ 2 ^ bits) :
    Short bits (k * 2 ^ a) := by
  have room : (1 : ℤ) < 2 ^ bits := one_lt_pow₀ (by decide) listed.ne'
  rcases bounded.lt_or_eq with small | full
  · exact ⟨k,a,small,rfl⟩
  · have carried : (2 : ℚ) ^ (a + bits) = 2 ^ bits * 2 ^ a := by
      rw [zpow_add₀ (by norm_num),zpow_natCast,mul_comm]
    rcases (abs_eq (by positivity)).mp full with rfl | rfl
    · refine ⟨1,a + bits,by rwa [abs_one],?_⟩
      rw [carried]
      push_cast
      ring
    · refine ⟨-1,a + bits,by rwa [abs_neg,abs_one],?_⟩
      rw [carried]
      push_cast
      ring

theorem short_even {bits : Nat} {k a : ℤ} (listed : 0 < bits) (bounded : |k| ≤ 2 ^ (bits + 1)) (even : k % 2 = 0) :
    Short bits (k * 2 ^ a) := by
  obtain ⟨half,rfl⟩ := Int.dvd_of_emod_eq_zero even
  have small : |half| ≤ 2 ^ bits := by
    rw [abs_mul,pow_succ] at bounded
    norm_num at bounded
    linarith
  have halved := short_units (a := a + 1) listed small
  rw [zpow_add₀ (by norm_num),zpow_one] at halved
  convert halved using 1
  push_cast
  ring

theorem Short.units {bits : Nat} {a : ℤ} {z : ℚ} (short : Short (bits + 1) z) (large : 2 ^ bits * 2 ^ a ≤ |z|) :
    ∃ k : ℤ, z = k * 2 ^ a := by
  obtain ⟨m,e,small,rfl⟩ := short
  have scale : (0 : ℚ) < 2 ^ e := zpow_pos (by norm_num) _
  have above : (2 : ℚ) ^ bits * 2 ^ a < 2 ^ bits * 2 ^ (e + 1) := by
    calc (2 : ℚ) ^ bits * 2 ^ a ≤ |(m : ℚ) * 2 ^ e| := large
      _ = |(m : ℚ)| * 2 ^ e := by rw [abs_mul,abs_of_pos scale]
      _ < 2 ^ (bits + 1) * 2 ^ e := by
        refine mul_lt_mul_of_pos_right ?_ scale
        exact_mod_cast small
      _ = 2 ^ bits * 2 ^ (e + 1) := by
        rw [zpow_add₀ (by norm_num),pow_succ]
        norm_num
        ring
  have lower : a < e + 1 :=
    (zpow_lt_zpow_iff_right₀ (by norm_num)).mp (lt_of_mul_lt_mul_left above (by norm_num))
  obtain ⟨d,same⟩ := Int.le.dest (Int.lt_add_one_iff.mp lower)
  refine ⟨m * 2 ^ d,?_⟩
  rw [← same,zpow_add₀ (by norm_num),zpow_natCast]
  push_cast
  ring

theorem not_short_odd {bits : Nat} {k a : ℤ} (odd : k % 2 = 1) (large : 2 ^ bits ≤ |k|) :
    ¬Short bits (k * 2 ^ a) := by
  rintro ⟨m,e,small,same⟩
  rcases le_or_gt e a with below | above
  · obtain ⟨d,rfl⟩ := Int.le.dest below
    have spread : m = k * 2 ^ d := by
      have scaled : (m : ℚ) * 2 ^ e = k * 2 ^ d * 2 ^ e := by
        rw [← same,zpow_add₀ (by norm_num),zpow_natCast]
        ring
      exact_mod_cast mul_right_cancel₀ (zpow_pos (by norm_num) e).ne' scaled
    have grown : |k| ≤ |m| := by
      rw [spread,abs_mul]
      exact le_mul_of_one_le_right (abs_nonneg k) (one_le_pow₀ (by decide) |>.trans (le_abs_self _))
    linarith
  -- A power above the unit would make the odd number even.
  · obtain ⟨d,rfl⟩ := Int.le.dest above
    have spread : k = 2 * (m * 2 ^ d) := by
      have scaled : (k : ℚ) * 2 ^ a = 2 * (m * 2 ^ d) * 2 ^ a := by
        rw [same,zpow_add₀ (by norm_num),zpow_add₀ (by norm_num),zpow_natCast,zpow_one]
        ring
      exact_mod_cast mul_right_cancel₀ (zpow_pos (by norm_num) a).ne' scaled
    omega

theorem units_bounded (x : ℚ) : |toWhole (x / unit x)| ≤ 2 ^ 53 := by
  have fewer : |x / unit x| < 2 ^ 53 := by
    rw [abs_div,abs_of_pos (unit_pos x)]
    exact (div_lt_iff₀ (unit_pos x)).mpr (unit_above x)
  have off := toWhole_error (x / unit x)
  have bounded : (|toWhole (x / unit x)| : ℚ) < 2 ^ 53 + 1 := by
    have := abs_sub_abs_le_abs_sub (toWhole (x / unit x) : ℚ) (x / unit x)
    rw [abs_sub_comm] at off
    linarith
  exact Int.lt_add_one_iff.mp (by exact_mod_cast bounded)

-- Above zero a number of 53 bits stands on the grid, or it is below all of the grid that is near.
theorem nearest_roundsTo_pos {x : ℚ} (positive : 0 < x) : RoundsTo x (nearest x) := by
  have step := unit_pos x
  have below := unit_below positive.ne'
  rw [abs_of_pos positive] at below
  -- Below the grid numbers are denser, but the lowest point of the grid is nearer than any of them.
  have lowest : ∀ z, z < 2 ^ 52 * unit x → |x - nearest x| < |x - z| := by
    intro z less
    have least := nearest_on_grid x (2 ^ 52)
    rw [Int.cast_pow,Int.cast_ofNat,abs_of_nonneg (by linarith : 0 ≤ x - 2 ^ 52 * unit x)] at least
    rw [abs_of_pos (by linarith : 0 < x - z)]
    linarith
  refine ⟨short_units (by decide) (units_bounded x),?_,?_⟩
  · intro z short
    rcases lt_or_ge z (2 ^ 52 * unit x) with less | large
    · exact (lowest z less).le
    · obtain ⟨k,rfl⟩ := short.units (large.trans (le_abs_self z))
      exact nearest_on_grid x k
  · intro z short other same
    rcases lt_or_ge z (2 ^ 52 * unit x) with less | large
    · exact absurd same (lowest z less).ne'
    · obtain ⟨k,rfl⟩ := short.units (large.trans (le_abs_self z))
      -- On the grid there is a tie, of which the even point was taken.
      have distinct : k ≠ toWhole (x / unit x) := fun equal => other (by rw [nearest,equal,unit])
      have tie : |x / unit x - k| = |x / unit x - toWhole (x / unit x)| := by
        refine mul_right_cancel₀ step.ne' ?_
        rw [← off_grid,← off_grid]
        exact same
      obtain ⟨even,odd⟩ := toWhole_tie distinct tie
      have large : 2 ^ 52 ≤ k := by
        have counted : (2 : ℚ) ^ 52 ≤ k := le_of_mul_le_mul_right large step
        exact_mod_cast counted
      exact ⟨short_even (by decide) (units_bounded x) even,not_short_odd odd (large.trans (le_abs_self k))⟩

theorem nearest_roundsTo (x : ℚ) : RoundsTo x (nearest x) := by
  rcases lt_trichotomy x 0 with negative | rfl | positive
  · have mirrored := (nearest_roundsTo_pos (neg_pos.mpr negative)).neg
    rw [nearest_neg,neg_neg,neg_neg] at mirrored
    exact mirrored
  · rw [nearest_zero]
    refine ⟨⟨0,0,by norm_num,by norm_num⟩,?_,?_⟩
    · intro z _
      simp
    · intro z _ other same
      simp at same
      exact absurd same other
  · exact nearest_roundsTo_pos positive

theorem roundsTo_iff {x y : ℚ} : RoundsTo x y ↔ y = nearest x := by
  constructor
  · intro rounds
    by_contra other
    have found := nearest_roundsTo x
    have same : |x - y| = |x - nearest x| :=
      le_antisymm (rounds.nearest _ found.short) (found.nearest y rounds.short)
    have left := rounds.tie _ found.short (Ne.symm other) same.symm
    have right := found.tie y rounds.short other same
    exact left.2 right.1
  · rintro rfl
    exact nearest_roundsTo x

theorem nearest_nonneg {x : ℚ} (nonneg : 0 ≤ x) : 0 ≤ nearest x := by
  have origin := (nearest_roundsTo x).nearest 0 ⟨0,0,by norm_num,by norm_num⟩
  rw [sub_zero,abs_of_nonneg nonneg] at origin
  linarith [(abs_le.mp origin).2]

theorem nearest_short {x : ℚ} (short : Short 53 x) : nearest x = x := by
  have none := (nearest_roundsTo x).nearest x short
  rw [sub_self,abs_zero] at none
  exact (sub_eq_zero.mp (abs_nonpos_iff.mp none)).symm

end ClusterClient.Rounding
