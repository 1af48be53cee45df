import ClusterClient.Proofs.Utf8
import ClusterClient.Text.Percent
import Mathlib.Data.List.Basic
namespace ClusterClient.Percent

def Unreserved (c : Char) : Prop :=
  ('A' ≤ c ∧ c ≤ 'Z') ∨ ('a' ≤ c ∧ c ≤ 'z') ∨ ('0' ≤ c ∧ c ≤ '9') ∨ c = '-' ∨ c = '_' ∨ c = '.' ∨ c = '~'

instance : DecidablePred Unreserved := fun _ => inferInstanceAs (Decidable (_ ∨ _))

def HexDigit (c : Char) : Prop := ('0' ≤ c ∧ c ≤ '9') ∨ ('A' ≤ c ∧ c ≤ 'F')

instance : DecidablePred HexDigit := fun _ => inferInstanceAs (Decidable (_ ∨ _))

inductive Coded (Allowed : Char → Prop) : List Char → Prop where
  | nil : Coded Allowed []
  | plain : Allowed c → Coded Allowed rest → Coded Allowed (c :: rest)
  | triplet : HexDigit high → HexDigit low → Coded Allowed rest → Coded Allowed ('%' :: high :: low :: rest)

section
variable {Allowed : Char → Prop} {cs ds : List Char}

theorem Coded.append (first : Coded Allowed cs) (second : Coded Allowed ds) : Coded Allowed (cs ++ ds) := by
  induction first with
  | nil => exact second
  | plain allowed _ ih => exact .plain allowed ih
  | triplet high low _ ih => exact .triplet high low ih

theorem Coded.mem (coded : Coded Allowed cs) {c : Char} (member : c ∈ cs) : Allowed c ∨ c = '%' ∨ HexDigit c := by
  induction coded with
  | nil => cases member
  | plain allowed _ ih =>
    rcases List.mem_cons.mp member with rfl | later
    · exact Or.inl allowed
    · exact ih later
  | triplet high low _ ih =>
    simp only [List.mem_cons] at member
    rcases member with rfl | rfl | rfl | later
    · exact Or.inr (Or.inl rfl)
    · exact Or.inr (Or.inr high)
    · exact Or.inr (Or.inr low)
    · exact ih later

end

theorem isUnreserved_iff {c : Char} : isUnreserved c = true ↔ Unreserved c := by
  have upper : c.isUpper = decide ('A' ≤ c ∧ c ≤ 'Z') := rfl
  have lower : c.isLower = (decide ('a' ≤ c) && decide (c ≤ 'z')) := rfl
  have digit : c.isDigit = (decide ('0' ≤ c) && decide (c ≤ '9')) := rfl
  have alphanumeric : c.isAlphanum = (c.isUpper || c.isLower || c.isDigit) := rfl
  rw [isUnreserved,alphanumeric,upper,lower,digit]
  simp only [Unreserved,Bool.or_eq_true,Bool.and_eq_true,decide_eq_true_eq,beq_iff_eq,or_assoc]

theorem hexDigit_digit {n : Nat} (small : n < 16) : HexDigit (hexDigit n) := by
  have all : ∀ k : Fin 16, HexDigit (hexDigit k.val) := by decide
  exact all ⟨n,small⟩

theorem hexValue?_hexDigit {n : Nat} (small : n < 16) : hexValue? (hexDigit n) = some n := by
  have all : ∀ k : Fin 16, hexValue? (hexDigit k.val) = some k.val := by decide
  exact all ⟨n,small⟩

theorem bytes_coded (Allowed : Char → Prop) (bytes : List UInt8) : Coded Allowed (bytes.flatMap encodeByte) := by
  induction bytes with
  | nil => exact .nil
  | cons b rest ih =>
    have := b.toNat_lt
    exact .triplet (hexDigit_digit (by omega)) (hexDigit_digit (by omega)) ih

theorem encode_cons (keep : Char → Bool) (c : Char) (cs : List Char) :
    encode keep (c :: cs) = (if keep c then [c] else (String.utf8EncodeChar c).flatMap encodeByte) ++ encode keep cs :=
  List.flatMap_cons

theorem encode_coded {keep : Char → Bool} {Allowed : Char → Prop} (kept : ∀ c, keep c = true → Allowed c)
    (cs : List Char) : Coded Allowed (encode keep cs) := by
  induction cs with
  | nil => exact .nil
  | cons c rest ih =>
    rw [encode_cons]
    refine Coded.append ?_ ih
    split
    · rename_i keeps
      exact .plain (kept c keeps) .nil
    · exact bytes_coded Allowed _

theorem encode_kept {keep : Char → Bool} {cs : List Char} (kept : ∀ c ∈ cs, keep c = true) : encode keep cs = cs := by
  induction cs with
  | nil => rfl
  | cons c rest ih =>
    obtain ⟨here,later⟩ := List.forall_mem_cons.mp kept
    rw [encode_cons,if_pos here,ih later,List.singleton_append]

theorem decode?_byte (b : UInt8) (rest : List Char) :
    decode? (encodeByte b ++ rest) = (decode? rest).map (b :: ·) := by
  have := b.toNat_lt
  have whole : b.toNat / 16 * 16 + b.toNat % 16 = b.toNat := by omega
  simp only [encodeByte,List.cons_append,List.nil_append]
  rw [decode?,hexValue?_hexDigit (by omega),hexValue?_hexDigit (by omega)]
  cases decode? rest with
  | none => rfl
  | some more => simp only [whole,UInt8.ofNat_toNat,Option.map_some]

theorem decode?_bytes (bytes : List UInt8) (rest : List Char) :
    decode? (bytes.flatMap encodeByte ++ rest) = (decode? rest).map (bytes ++ ·) := by
  induction bytes with
  | nil => simp
  | cons b more ih =>
    rw [List.flatMap_cons,List.append_assoc,decode?_byte,ih,Option.map_map]
    rfl

theorem decode?_plain {c : Char} (plain : c ≠ '%') (rest : List Char) :
    decode? (c :: rest) = (decode? rest).map (String.utf8EncodeChar c ++ ·) := by
  rw [decode?.eq_def]
  split
  · rename_i impossible
    cases impossible
  · rename_i percent
    exact absurd (List.cons.inj percent).1 plain
  · rename_i same
    obtain ⟨rfl,rfl⟩ := List.cons.inj same
    rw [if_neg plain]
    cases decode? rest <;> rfl

theorem decode?_encode {keep : Char → Bool} (percent : keep '%' = false) (cs : List Char) :
    decode? (encode keep cs) = some (Utf8.encode cs) := by
  induction cs with
  | nil => rfl
  | cons c rest ih =>
    have whole : Utf8.encode (c :: rest) = String.utf8EncodeChar c ++ Utf8.encode rest := List.flatMap_cons
    rw [encode_cons,whole]
    split
    · rename_i keeps
      have plain : c ≠ '%' := by
        rintro rfl
        rw [percent] at keeps
        cases keeps
      rw [List.singleton_append,decode?_plain plain,ih,Option.map_some]
    · rw [decode?_bytes,ih,Option.map_some]

theorem encode_injective {keep : Char → Bool} (percent : keep '%' = false) : Function.Injective (encode keep) := by
  intro cs ds same
  have read := decode?_encode percent cs
  rw [same,decode?_encode percent,Option.some.injEq] at read
  rw [← Utf8.decodeFrom_encode cs,← read,Utf8.decodeFrom_encode]

end ClusterClient.Percent
