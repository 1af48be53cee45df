import ClusterClient.Entry.Decode
import Mathlib.Data.List.Forall2
namespace ClusterClient
variable {α β : Type}

def Failure.Bare (failure : Failure) : Prop := ∀ context source, failure ≠ .within context source

-- The first element that cannot be decoded, and why. What follows it is left open.
def FirstFault (decode : Json → Except Failure α) (items : List Json) (inner : Failure) : Prop :=
  ∃ front item back, items = front ++ item :: back ∧ (∀ earlier ∈ front, ∃ x, decode earlier = .ok x) ∧
    decode item = .error inner

-- A reader of lists, some of which it may refuse as a whole, that leaves each element to a decoder.
structure AllOrNothing (context : String) (allowed : List Json → Prop) (decode : Json → Except Failure α)
    (read : String → Except Failure β) (elements : β → List α) : Prop where
  accepts : ∀ text, (∃ whole, read text = .ok whole) ↔
    ∃ items, Json.parse text = .ok (.array items) ∧ allowed items ∧ ∀ item ∈ items, ∃ x, decode item = .ok x
  inOrder : ∀ text whole items, read text = .ok whole → Json.parse text = .ok (.array items) →
    (elements whole).length = items.length ∧
      ∀ (i : Nat) item, items[i]? = some item → ∃ x, (elements whole)[i]? = some x ∧ decode item = .ok x
  faulty : ∀ items, (∃ item ∈ items, ∃ failure, decode item = .error failure) → ∃ inner, FirstFault decode items inner
  blames : ∀ text items inner, Json.parse text = .ok (.array items) → FirstFault decode items inner →
    ∃ failure, read text = .error failure ∧ failure = .within context inner ∧ inner.Bare ∧
      failure.kind = inner.kind ∧ failure.exitCode = inner.exitCode ∧
      failure.message = context ++ ": " ++ inner.message

section
variable {context : String} {decode : Json → Except Failure α} {items : List Json}

theorem decodeAll_eq_ok {xs : List α} :
    decodeAll context decode items = .ok xs ↔ List.Forall₂ (fun item x => decode item = .ok x) items xs := by
  induction items generalizing xs with
  | nil =>
    rw [decodeAll,Except.ok.injEq,List.forall₂_nil_left_iff]
    exact eq_comm
  | cons item rest ih =>
    constructor
    · intro decoded
      rw [decodeAll] at decoded
      cases first : decode item with
      | error failure => simp [first] at decoded
      | ok x =>
        cases others : decodeAll context decode rest with
        | error failure => simp [first,others] at decoded
        | ok ys =>
          simp only [first,others] at decoded
          cases decoded
          exact .cons first (ih.mp others)
    · intro matching
      cases matching with
      | cons first others =>
        rw [decodeAll,first,ih.mpr others]

theorem decodeAll_eq_error {failure : Failure} : decodeAll context decode items = .error failure ↔
    ∃ inner, FirstFault decode items inner ∧ failure = .within context inner := by
  constructor
  · intro decoded
    induction items with
    | nil => cases decoded
    | cons first rest ih =>
      rw [decodeAll] at decoded
      cases found : decode first with
      | error inner =>
        rw [found] at decoded
        cases decoded
        exact ⟨inner,⟨[],first,rest,rfl,by simp,found⟩,rfl⟩
      | ok x =>
        -- A failure further on is wrapped already, and not once more for each element before it.
        cases others : decodeAll context decode rest with
        | ok xs => simp [found,others] at decoded
        | error other =>
          simp only [found,others] at decoded
          cases decoded
          obtain ⟨inner,⟨front,item,back,rfl,before,blamed⟩,rfl⟩ := ih others
          exact ⟨inner,⟨first :: front,item,back,rfl,List.forall_mem_cons.mpr ⟨⟨x,found⟩,before⟩,blamed⟩,rfl⟩
  · rintro ⟨inner,⟨front,item,back,rfl,before,blamed⟩,rfl⟩
    induction front with
    | nil => rw [List.nil_append,decodeAll,blamed]
    | cons first front ih =>
      obtain ⟨⟨x,found⟩,before⟩ := List.forall_mem_cons.mp before
      rw [List.cons_append,decodeAll,found,ih before]

theorem decodeAll_accepts :
    (∃ xs, decodeAll context decode items = .ok xs) ↔ ∀ item ∈ items, ∃ x, decode item = .ok x := by
  constructor
  · rintro ⟨xs,decoded⟩
    have each := decodeAll_eq_ok.mp decoded
    exact ((List.forall₂_and_left _ _).mp (each.imp fun _ x here => ⟨⟨x,here⟩,here⟩)).1
  · intro each
    cases decoded : decodeAll context decode items with
    | ok xs => exact ⟨xs,rfl⟩
    | error failure =>
      obtain ⟨inner,⟨front,item,back,rfl,_,blamed⟩,_⟩ := decodeAll_eq_error.mp decoded
      obtain ⟨x,here⟩ := each item (by simp)
      simp [blamed] at here

theorem firstFault_exists (bad : ∃ item ∈ items, ∃ failure, decode item = .error failure) :
    ∃ inner, FirstFault decode items inner := by
  obtain ⟨item,member,failure,refused⟩ := bad
  cases decoded : decodeAll "" decode items with
  | ok xs =>
    obtain ⟨x,here⟩ := decodeAll_accepts.mp ⟨xs,decoded⟩ item member
    simp [refused] at here
  | error failure =>
    obtain ⟨inner,first,_⟩ := decodeAll_eq_error.mp decoded
    exact ⟨inner,first⟩

theorem decodeAll_inOrder {xs : List α} (decoded : decodeAll context decode items = .ok xs) :
    xs.length = items.length ∧ ∀ (i : Nat) item, items[i]? = some item → ∃ x, xs[i]? = some x ∧ decode item = .ok x := by
  have each := decodeAll_eq_ok.mp decoded
  refine ⟨each.length_eq.symm,?_⟩
  intro i item here
  obtain ⟨inside,rfl⟩ := List.getElem?_eq_some_iff.mp here
  have insideToo : i < xs.length := each.length_eq ▸ inside
  exact ⟨xs[i],List.getElem?_eq_getElem insideToo,each.get inside insideToo⟩

end

theorem AllOrNothing.of_decodeAll {context : String} {allowed : List Json → Prop} {decode : Json → Except Failure α}
    {read : String → Except Failure β} {elements : β → List α} (onto : ∀ xs, ∃ whole, elements whole = xs)
    (reads : ∀ text whole, read text = .ok whole ↔ ∃ items, Json.parse text = .ok (.array items) ∧ allowed items ∧
      decodeAll context decode items = .ok (elements whole))
    (refuses : ∀ text items failure, Json.parse text = .ok (.array items) →
      decodeAll context decode items = .error failure → read text = .error failure)
    (bare : ∀ item failure, decode item = .error failure → failure.Bare) :
    AllOrNothing context allowed decode read elements where
  accepts text := by
    constructor
    · rintro ⟨whole,got⟩
      obtain ⟨items,parsed,taken,decoded⟩ := (reads text whole).mp got
      exact ⟨items,parsed,taken,decodeAll_accepts.mp ⟨_,decoded⟩⟩
    · rintro ⟨items,parsed,taken,each⟩
      obtain ⟨xs,decoded⟩ := decodeAll_accepts.mpr each
      obtain ⟨whole,rfl⟩ := onto xs
      exact ⟨whole,(reads text whole).mpr ⟨items,parsed,taken,decoded⟩⟩
  inOrder text whole items got parsed := by
    obtain ⟨others,again,_,decoded⟩ := (reads text whole).mp got
    rw [parsed] at again
    cases again
    exact decodeAll_inOrder decoded
  faulty _ := firstFault_exists
  blames text items inner parsed first := by
    have refused := refuses text items _ parsed (decodeAll_eq_error.mpr ⟨inner,first,rfl⟩)
    obtain ⟨_,item,_,_,_,blamed⟩ := first
    exact ⟨_,refused,rfl,bare item inner blamed,rfl,rfl,rfl⟩

end ClusterClient
