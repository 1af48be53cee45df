import ClusterClient.Proofs.Json.Printing
import ClusterClient.Proofs.Json.Written
namespace ClusterClient.Json

namespace Reading
open Decimal (Digits digit?)
open Grammar Reader
variable {cs rest : List Char}

theorem wholePart_grammatical {whole : Digits} (got : wholePart cs = .ok (whole,rest)) :
    ∃ ws, WholeSpelled whole ws := by
  unfold wholePart at got
  split at got
  · cases got
  · split at got
    · cases got
    · rename_i tail _ d _
      dsimp only at got
      split at got
      · cases got
      · rename_i plain
        cases got
        by_cases zero : d = 0
        · have alone : (Decimal.span tail).1 = [] := by
            by_contra more
            exact plain ⟨congrArg Fin.val zero,more⟩
          rw [alone,zero]
          exact ⟨_,.zero⟩
        · exact ⟨_,.digits d _ zero⟩

theorem fractionPart_grammatical {fraction : Option Digits} (got : fractionPart cs = .ok (fraction,rest)) :
    ∃ fs, FractionSpelled fraction fs := by
  unfold fractionPart at got
  split at got
  · split at got
    · cases got
    · cases got
    · rename_i digits _ _ digitless _
      cases got
      cases digits with
      | nil => exact absurd rfl digitless
      | cons d more => exact ⟨_,.some d more⟩
  · cases got
    exact ⟨_,.none⟩

theorem exponentDigits_grammatical {negative : Bool} {exponent : Option Exponent}
    (got : exponentDigits negative cs = .ok (exponent,rest)) : ∃ es, ExponentSpelled exponent es := by
  unfold exponentDigits at got
  split at got
  · cases got
  · split at got
    · cases got
    · cases got
      exact ⟨_,.signed negative _ _ (Or.inl rfl)⟩

theorem exponentPart_grammatical {exponent : Option Exponent} (got : exponentPart cs = .ok (exponent,rest)) :
    ∃ es, ExponentSpelled exponent es := by
  have signed : ∀ tail, exponentSign tail = .ok (exponent,rest) → ∃ es, ExponentSpelled exponent es := by
    intro tail got
    unfold exponentSign at got
    split at got <;> exact exponentDigits_grammatical got
  unfold exponentPart at got
  split at got
  · exact signed _ got
  · exact signed _ got
  · cases got
    exact ⟨_,.none⟩

-- What is read as a number has a spelling, if not the one that was read.
theorem number_grammatical {negative : Bool} {n : Number} (got : Reader.number negative cs = .ok (n,rest)) :
    ∃ ns, NumberSpelled n ns := by
  unfold Reader.number at got
  obtain ⟨⟨whole,_⟩,wholeRead,got⟩ := bind_eq_ok.mp got
  obtain ⟨⟨fraction,_⟩,fractionRead,got⟩ := bind_eq_ok.mp got
  obtain ⟨⟨exponent,_⟩,exponentRead,got⟩ := bind_eq_ok.mp got
  cases got
  obtain ⟨ws,wholeSpelled⟩ := wholePart_grammatical wholeRead
  obtain ⟨fs,fractionSpelled⟩ := fractionPart_grammatical fractionRead
  obtain ⟨es,exponentSpelled⟩ := exponentPart_grammatical exponentRead
  exact ⟨_,.parts negative wholeSpelled fractionSpelled exponentSpelled⟩

theorem wholeNumber_grammatical {s : String} {n : Number} (got : wholeNumber s = .ok n) : ∃ ns, NumberSpelled n ns := by
  unfold wholeNumber at got
  dsimp only at got
  split at got
  · cases got
  · rename_i read
    cases got
    unfold signedNumber at read
    split at read
    · cases read
    · exact number_grammatical read
    · split at read
      · exact number_grammatical read
      · cases read
  · cases got

theorem spelledNumber_grammatical {n : Number} (got : spelledNumber cs = .ok (.number n,rest)) :
    ∃ ns, NumberSpelled n ns := by
  unfold spelledNumber at got
  obtain ⟨after,_,got⟩ := bind_eq_ok.mp got
  split at got
  · obtain ⟨⟨s,after⟩,_,got⟩ := bind_eq_ok.mp got
    obtain ⟨m,spelled,got⟩ := bind_eq_ok.mp got
    split at got
    · cases got
      exact wholeNumber_grammatical spelled
    · cases got
    · cases got
    · cases got
  · obtain ⟨⟨found,after⟩,_,got⟩ := bind_eq_ok.mp got
    cases got

theorem object_number {read : Read Json} {n : Number} (got : Reader.object read cs = .ok (.number n,rest)) :
    ∃ ns, NumberSpelled n ns := by
  unfold Reader.object at got
  split at got
  · cases got
  · cases got
  · obtain ⟨⟨key,after⟩,_,got⟩ := bind_eq_ok.mp got
    dsimp only at got
    split at got
    · exact spelledNumber_grammatical got
    · obtain ⟨_,_,got⟩ := bind_eq_ok.mp got
      obtain ⟨_,_,got⟩ := bind_eq_ok.mp got
      obtain ⟨_,_,got⟩ := bind_eq_ok.mp got
      cases got
  · cases got

theorem valueWith_number {inner : Option (Read Json)} {n : Number} (got : valueWith inner cs = .ok (.number n,rest)) :
    ∃ ns, NumberSpelled n ns := by
  unfold valueWith at got
  split at got
  · cases got
  -- Words.
  iterate 3
    · obtain ⟨_,_,got⟩ := bind_eq_ok.mp got
      cases got
  · obtain ⟨⟨m,after⟩,read,got⟩ := bind_eq_ok.mp got
    cases got
    exact number_grammatical read
  · obtain ⟨_,_,got⟩ := bind_eq_ok.mp got
    cases got
  · split at got
    · cases got
    · obtain ⟨_,_,got⟩ := bind_eq_ok.mp got
      cases got
  · split at got
    · cases got
    · exact object_number got
  · split at got
    · obtain ⟨⟨m,after⟩,read,got⟩ := bind_eq_ok.mp got
      cases got
      exact number_grammatical read
    · cases got

-- Where no bracket may open there are no values inside values.
theorem valueWith_flat {v : Json} (got : valueWith none cs = .ok (v,rest)) : v.kind ≠ .array ∧ v.kind ≠ .object := by
  unfold valueWith at got
  split at got
  · cases got
  iterate 5
    · obtain ⟨_,_,got⟩ := bind_eq_ok.mp got
      cases got
      exact ⟨nofun,nofun⟩
  · cases got
  · cases got
  · split at got
    · obtain ⟨_,_,got⟩ := bind_eq_ok.mp got
      cases got
      exact ⟨nofun,nofun⟩
    · cases got

theorem list_all {ε α : Type} {lift : Fault → ε} {read : List Char → Except ε (α × List Char)} {P : α → Prop}
    (each : ∀ cs x rest, read cs = .ok (x,rest) → P x) {xs : List α}
    (got : Reader.list lift read cs = .ok (xs,rest)) : ∀ x ∈ xs, P x := by
  have same : ∀ cs y rest, read cs = .ok (y,rest) ↔ ∃ x, read cs = .ok (x,rest) ∧ x = y ∧ P y := by
    intro cs y rest
    constructor
    · exact fun got => ⟨y,got,rfl,each cs y rest got⟩
    · rintro ⟨x,got,rfl,_⟩
      exact got
  have matched : ∃ ys, Reader.list lift read cs = .ok (ys,rest) ∧ List.Forall₂ (fun x y => x = y ∧ P y) ys xs :=
    (list_related same).mp got
  obtain ⟨ys,-,matching⟩ := matched
  clear got
  induction matching with
  | nil => exact nofun
  | cons here _ ih => exact List.forall_mem_cons.mpr ⟨here.2,ih⟩

theorem Standing.all {read : Read Json} {P : Json → Prop} (each : ∀ cs v rest, read cs = .ok (v,rest) → P v)
    {pairs : List (String × Json)} (stand : Standing read pairs cs rest) : ∀ pair ∈ pairs, P pair.2 := by
  have held : ∀ {quoted mid pair}, member read quoted = .ok (pair,mid) → P pair.2 := by
    intro quoted mid pair got
    obtain ⟨⟨key,afterKey⟩,_,got⟩ := bind_eq_ok.mp got
    obtain ⟨afterColon,_,got⟩ := bind_eq_ok.mp got
    obtain ⟨⟨v,after⟩,read,got⟩ := bind_eq_ok.mp got
    cases got
    exact each _ _ _ read
  induction stand with
  | last _ got _ => exact List.forall_mem_singleton.mpr (held got)
  | more _ got _ _ ih => exact List.forall_mem_cons.mpr ⟨held got,ih⟩

end Reading

open Grammar

def Formed : Nat → Json → Prop
  | _, .null | _, .bool _ | _, .string _ => True
  | _, .number n => ∃ cs, NumberSpelled n cs
  | 0, .array _ | 0, .object _ => False
  | depth + 1, .array items => ∀ v ∈ items, Formed depth v
  | depth + 1, .object members => Members.Sorted members ∧ ∀ pair ∈ members, Formed depth pair.2

inductive HoldsKey (key : String) : Json → Prop where
  | here : (key, v) ∈ members → HoldsKey key (.object members)
  | item : v ∈ items → HoldsKey key v → HoldsKey key (.array items)
  | member : (other, v) ∈ members → HoldsKey key v → HoldsKey key (.object members)

theorem value_formed {depth : Nat} {cs rest : List Char} {v : Json} (got : Reader.value depth cs = .ok (v,rest)) :
    Formed depth v := by
  -- By the depth of brackets that the reader was allowed, one less for what stands inside.
  induction depth generalizing cs rest v with
  | zero =>
    obtain ⟨notArray,notObject⟩ := Reading.valueWith_flat got
    cases v with
    | number n => exact Reading.valueWith_number got
    | array items => exact absurd rfl notArray
    | object members => exact absurd rfl notObject
    | _ => trivial
  | succ depth ih =>
    cases v with
    | number n => exact Reading.valueWith_number got
    | array items =>
      obtain ⟨tail,_,listed⟩ := Reading.valueWith_array.mp got
      exact Reading.list_all (fun _ _ _ => ih) listed
    | object members =>
      obtain ⟨tail,_,object⟩ := Reading.valueWith_object got
      rcases Reading.object_stand object with ⟨_,rfl⟩ | ⟨pairs,stand,rfl⟩
      · exact ⟨List.Pairwise.nil,nofun⟩
      · have each := stand.all fun _ _ _ => ih
        exact ⟨Members.ofList_sorted pairs,fun pair member => each pair (Members.mem_ofList member)⟩
    | _ => trivial

theorem parse_formed {source : String} {v : Json} (parsed : parse source = .ok v) : Formed Reader.maxDepth v := by
  obtain ⟨rest,read,_⟩ := Reading.parse_ok.mp parsed
  exact value_formed read

namespace Formed
variable {depth : Nat} {v : Json}

theorem deeper (formed : Formed depth v) : Formed (depth + 1) v := by
  induction depth generalizing v with
  | zero =>
    cases v with
    | array items => exact formed.elim
    | object members => exact formed.elim
    | _ => exact formed
  | succ depth ih =>
    cases v with
    | array items => exact fun w member => ih (formed w member)
    | object members => exact ⟨formed.1,fun pair member => ih (formed.2 pair member)⟩
    | _ => exact formed

theorem settled_same (formed : Formed depth v) : settled v = v := by
  induction depth generalizing v with
  | zero =>
    cases v with
    | array items => exact formed.elim
    | object members => exact formed.elim
    | _ => rfl
  | succ depth ih =>
    cases v with
    | array items => exact Printing.settled_array fun w member => ih (formed w member)
    | object members => exact Printing.settled_object formed.1 fun pair member => ih (formed.2 pair member)
    | _ => rfl

theorem printable (formed : Formed depth v) (plain : ¬HoldsKey Reader.numberKey v) : Printing.Printable depth v := by
  induction depth generalizing v with
  | zero =>
    cases v with
    | array items => exact formed.elim
    | object members => exact formed.elim
    | _ => exact formed
  | succ depth ih =>
    cases v with
    | array items => exact fun w member => ih (formed w member) fun inside => plain (.item member inside)
    | object members =>
      refine ⟨?_,fun pair member => ih (formed.2 pair member) fun inside => plain (.member member inside)⟩
      rintro ⟨key,v⟩ first rfl
      exact plain (.here (List.mem_of_mem_head? first))
    | _ => exact formed

theorem parse_printed (formed : Formed Reader.maxDepth v) (printable : Printing.Printable Reader.maxDepth v) :
    parse v.text = .ok v := by
  rw [Printing.parse_text printable,formed.settled_same]

theorem parse_text (formed : Formed Reader.maxDepth v) (plain : ¬HoldsKey Reader.numberKey v) :
    parse v.text = .ok v := formed.parse_printed (formed.printable plain)

end Formed

end ClusterClient.Json
