import ClusterClient.Text.Decimal
import Mathlib.Data.List.Basic
import Mathlib.Data.List.Induction
import Mathlib.Tactic.Ring
namespace ClusterClient.Decimal

theorem value_concat (digits : Digits) (d : Fin 10) : value (digits ++ [d]) = 10 * value digits + d.val := by
  simp [value]

theorem value_append (left right : Digits) :
    value (left ++ right) = value left * 10 ^ right.length + value right := by
  induction right using List.reverseRecOn with
  | nil => simp [value]
  | append_singleton front d ih =>
    rw [← List.append_assoc,value_concat,value_concat,ih,List.length_append,List.length_singleton,Nat.pow_succ]
    ring

theorem value_lt (digits : Digits) : value digits < 10 ^ digits.length := by
  induction digits using List.reverseRecOn with
  | nil => decide
  | append_singleton front d ih =>
    have := d.isLt
    rw [value_concat,List.length_append,List.length_singleton,Nat.pow_succ]
    omega

theorem value_dropWhile (digits : Digits) : value (digits.dropWhile fun d => d.val == 0) = value digits := by
  induction digits with
  | nil => rfl
  | cons d rest ih =>
    rw [List.dropWhile_cons]
    split
    · rename_i zero
      have none : value [d] = 0 := by simpa [value] using zero
      rw [ih,← List.singleton_append,value_append,none,Nat.zero_mul,Nat.zero_add]
    · rfl

theorem le_value {d : Fin 10} {rest : Digits} (counts : d.val ≠ 0) : 10 ^ rest.length ≤ value (d :: rest) := by
  have first : value [d] = d.val := by simp [value]
  rw [← List.singleton_append,value_append,first]
  exact (Nat.le_mul_of_pos_left _ (Nat.pos_of_ne_zero counts)).trans (Nat.le_add_right _ _)

theorem value_ofNat (n : Nat) : value (ofNat n) = n := by
  fun_induction ofNat n with
  | case1 n small => simp [value]
  | case2 n large ih =>
    rw [value_concat,ih]
    exact Nat.div_add_mod n 10

theorem ofNat_ne_nil (n : Nat) : ofNat n ≠ [] := by
  rw [ofNat]
  split
  · exact List.cons_ne_nil _ _
  · exact List.append_ne_nil_of_right_ne_nil _ (List.cons_ne_nil _ _)

theorem ofNat_head {n : Nat} (zero : (ofNat n).head? = some 0) : ofNat n = [0] := by
  fun_induction ofNat n with
  | case1 n small =>
    simp only [List.head?_cons,Option.some.injEq] at zero
    rw [zero]
  | case2 n large ih =>
    rw [List.head?_append_of_ne_nil _ (ofNat_ne_nil _)] at zero
    have whole := congrArg value (ih zero)
    rw [value_ofNat] at whole
    have : value [0] = 0 := rfl
    omega

theorem ofNat_zero : ofNat 0 = [0] := by
  rw [ofNat,dif_pos (by decide)]
  rfl

theorem ofNat_value {digits : Digits} (listed : digits ≠ []) (alone : digits.head? = some 0 → digits = [0]) :
    ofNat (value digits) = digits := by
  -- By the last digit, which is the one that dividing by ten splits off.
  induction digits using List.reverseRecOn with
  | nil => exact absurd rfl listed
  | append_singleton front d ih =>
    have := d.isLt
    by_cases single : front = []
    · subst single
      have same : value ([] ++ [d]) = d.val := by simp [value]
      rw [same,ofNat,dif_pos d.isLt]
      rfl
    · have leading : front.head? ≠ some 0 := by
        intro zero
        have whole := alone (by rw [List.head?_append_of_ne_nil _ single,zero])
        have lengths := congrArg List.length whole
        simp [single] at lengths
      have spelled := ih single (fun zero => absurd zero leading)
      have positive : value front ≠ 0 := by
        intro zero
        rw [zero,ofNat_zero] at spelled
        rw [← spelled] at leading
        exact leading rfl
      have quotient : value (front ++ [d]) / 10 = value front := by
        rw [value_concat]
        omega
      have remainder : value (front ++ [d]) % 10 = d.val := by
        rw [value_concat]
        omega
      have large : ¬value (front ++ [d]) < 10 := by
        rw [value_concat]
        omega
      rw [ofNat,dif_neg large,quotient,spelled]
      simp only [remainder]

theorem digitChar_ne_plus (d : Fin 10) : digitChar d ≠ '+' := by
  revert d; decide

theorem digit?_of_mem {digits : Digits} {c : Char} (member : c ∈ chars digits) : digit? c ≠ none := by
  obtain ⟨d,_,rfl⟩ := List.mem_map.mp member
  rw [digit?_digitChar]
  exact Option.some_ne_none d

theorem natural?_chars (digits : Digits) (some_digit : digits ≠ []) :
    natural? (chars digits) = some (value digits) := by
  cases digits with
  | nil => exact absurd rfl some_digit
  | cons d rest =>
    have read := ofChars?_chars (d :: rest)
    simp only [chars,List.map_cons] at read ⊢
    unfold natural?
    split
    · rename_i plus
      exact absurd (List.cons.inj plus).1 (digitChar_ne_plus d)
    · dsimp only
      rw [read]

theorem natural?_text (n : Nat) : natural? (text n).toList = some n := by
  rw [text,String.toList_ofList,natural?_chars _ (ofNat_ne_nil n),value_ofNat]

theorem text_injective {m n : Nat} (same : text m = text n) : m = n := by
  have read := natural?_text m
  rw [same,natural?_text] at read
  exact (Option.some.inj read).symm

theorem word64?_text (n : UInt64) : word64? (text n.toNat) = some n := by
  have := n.toNat_lt
  rw [word64?,natural?_text]
  simp only
  rw [if_pos (by omega),UInt64.ofNat_toNat]

theorem span_chars (digits : Digits) {rest : List Char} (ends : ∀ c ∈ rest.head?, digit? c = none) :
    span (chars digits ++ rest) = (digits,rest) := by
  induction digits with
  | nil =>
    cases rest with
    | nil => rfl
    | cons c others => simp [chars,span,ends c rfl]
  | cons d others ih =>
    simp only [chars,List.map_cons,List.cons_append] at ih ⊢
    rw [span,digit?_digitChar]
    simp only [ih]

theorem digit?_eq_some {c : Char} {d : Fin 10} : digit? c = some d ↔ c = digitChar d := by
  constructor
  · intro read
    unfold digit? at read
    split at read
    · rename_i bounds
      obtain ⟨low,high⟩ := bounds
      cases read
      rw [digitChar,Nat.add_sub_cancel' low,Char.ofNat_toNat]
    · cases read
  · rintro rfl
    exact digit?_digitChar d

theorem ofChars?_eq_some {cs : List Char} {digits : Digits} : ofChars? cs = some digits ↔ cs = chars digits := by
  constructor
  · intro read
    induction cs generalizing digits with
    | nil =>
      cases read
      rfl
    | cons c rest ih =>
      rw [ofChars?] at read
      split at read
      · rename_i d others first later
        cases read
        rw [digit?_eq_some.mp first,ih later]
        rfl
      · cases read
  · rintro rfl
    exact ofChars?_chars digits

def Spells (cs : List Char) (n : Nat) : Prop :=
  ∃ digits : Digits, digits ≠ [] ∧ value digits = n ∧ (cs = chars digits ∨ cs = '+' :: chars digits)

theorem natural?_exact {cs : List Char} {n : Nat} : natural? cs = some n ↔ Spells cs n := by
  constructor
  · intro read
    unfold natural? at read
    dsimp only at read
    split at read
    · rename_i d ds found
      have spelled := ofChars?_eq_some.mp found
      refine ⟨d :: ds,List.cons_ne_nil d ds,Option.some.inj read,?_⟩
      split at spelled
      · exact Or.inr (congrArg _ spelled)
      · exact Or.inl spelled
    · cases read
  · rintro ⟨digits,listed,rfl,rfl | rfl⟩
    · exact natural?_chars digits listed
    · cases digits with
      | nil => exact absurd rfl listed
      | cons d ds => simp only [natural?,ofChars?_chars]

theorem spells_ofNat (n : Nat) : Spells (chars (ofNat n)) n :=
  ⟨ofNat n,ofNat_ne_nil n,value_ofNat n,Or.inl rfl⟩

theorem Spells.unique {cs : List Char} {m n : Nat} (left : Spells cs m) (right : Spells cs n) : m = n := by
  rw [← natural?_exact] at left right
  rw [left] at right
  exact Option.some.inj right

theorem word16?_exact {text : String} {n : UInt16} : word16? text = some n ↔ Spells text.toList n.toNat := by
  rw [word16?,← natural?_exact]
  cases natural? text.toList with
  | none => simp
  | some m =>
    simp only [Option.some.injEq]
    split
    · rename_i small
      rw [Option.some.injEq]
      constructor
      · rintro rfl
        rw [UInt16.toNat_ofNat',Nat.mod_eq_of_lt small]
      · rintro rfl
        exact UInt16.ofNat_toNat
    · rename_i large
      constructor
      · intro impossible
        cases impossible
      · rintro rfl
        exact absurd n.toNat_lt large

theorem word16?_none {text : String} : word16? text = none ↔ ∀ n ≤ 65535, ¬Spells text.toList n := by
  constructor
  · intro none n small spelled
    have word : word16? text = some (UInt16.ofNat n) := by
      rw [word16?_exact,UInt16.toNat_ofNat_of_lt' (by exact Nat.lt_succ_of_le small)]
      exact spelled
    simp [none] at word
  · intro none
    cases word : word16? text with
    | none => rfl
    | some n => exact absurd (word16?_exact.mp word) (none n.toNat (Nat.le_of_lt_succ n.toNat_lt))

theorem word16?_cases (text : String) :
    (∃ n ≤ 65535, Spells text.toList n ∧ word16? text = some (UInt16.ofNat n)) ∨
    (∀ n ≤ 65535, ¬Spells text.toList n) ∧ word16? text = none := by
  cases word : word16? text with
  | none => exact Or.inr ⟨word16?_none.mp word,rfl⟩
  | some n => exact Or.inl ⟨n.toNat,Nat.le_of_lt_succ n.toNat_lt,word16?_exact.mp word,by simp⟩

theorem spells_padded (zeros n : Nat) : Spells (List.replicate zeros '0' ++ (text n).toList) n := by
  refine ⟨List.replicate zeros 0 ++ ofNat n,List.append_ne_nil_of_right_ne_nil _ (ofNat_ne_nil n),?_,Or.inl ?_⟩
  · have none : ∀ d ∈ List.replicate zeros (0 : Fin 10), (d.val == 0) = true := by simp
    rw [← value_dropWhile,List.dropWhile_append_of_pos none,value_dropWhile,value_ofNat]
  · simp only [text,String.toList_ofList,chars,List.map_append,List.map_replicate]
    rfl

end ClusterClient.Decimal
