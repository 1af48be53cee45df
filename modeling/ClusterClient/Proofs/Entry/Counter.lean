import ClusterClient.Proofs.Entry.Checks
import ClusterClient.Proofs.Entry.Index
namespace ClusterClient

namespace Entry
open Json (Members)
open Rounding

def counter (e : Entry) : String → UInt64
  | "CreateIndex" => e.createIndex
  | "ModifyIndex" => e.modifyIndex
  | "LockIndex" => e.lockIndex
  | _ => e.flags

theorem counters_cases {field : String} (counted : field ∈ counters) :
    field = "CreateIndex" ∨ field = "ModifyIndex" ∨ field = "LockIndex" ∨ field = "Flags" := by
  simpa [counters] using counted

theorem ReadFrom.counter {members : Members} {e : Entry} {field : String} (read : ReadFrom members e)
    (counted : field ∈ counters) : indexField members field = .ok (e.counter field) := by
  rcases counters_cases counted with rfl | rfl | rfl | rfl
  · exact read.createIndex
  · exact read.modifyIndex
  · exact read.lockIndex
  · exact read.flags

theorem indexField_number {members : Members} {field : String} {n : Json.Number}
    (held : members.get? field = some (.number n)) : indexField members field =
      (Index.ofNumber? n).elim (.error (.range field "64-bit unsigned integer" n.text)) .ok := by
  unfold indexField
  rw [held]
  dsimp only
  cases Index.ofNumber? n <;> rfl

theorem ofJson_rewritten {members : Members} {field : String} {v : Json} (listed : members ≠ [])
    (counted : field ∈ counters) (alike : indexField (members.insert field v) field = indexField members field)
    (policy : MissingFields) : ofJson policy (.object (members.insert field v)) = ofJson policy (.object members) := by
  rw [ofJson_object listed,ofJson_object (Members.insert_ne_nil _ _ _)]
  refine ofMembers_congr ?_ ?_ policy
  · intro other _
    by_cases same : field = other
    · rw [← same,alike]
    · rw [indexField,indexField,Members.get?_insert,if_neg same]
  · intro other typed
    have distinct : field ≠ other := by
      rintro rfl
      rcases counters_cases counted with rfl | rfl | rfl | rfl <;> simp [texts] at typed
    rw [Members.get?_insert,if_neg distinct]

theorem ofJson_counter_error {members : Members} {field : String} {failure : Failure} (listed : members ≠ [])
    (counted : field ∈ counters)
    (before : ∀ earlier ∈ counters.takeWhile (· ≠ field), ∃ word, indexField members earlier = .ok word)
    (refused : indexField members field = .error failure) (policy : MissingFields) :
    ofJson policy (.object members) = .error failure := by
  have order : ∃ rest, Check.order =
      (.object :: .filled :: (counters.takeWhile (· ≠ field)).map .counter) ++ .counter field :: rest := by
    rcases counters_cases counted with rfl | rfl | rfl | rfl <;> exact ⟨_,rfl⟩
  obtain ⟨rest,order⟩ := order
  refine ofJson_error.mpr ⟨_,_,rest,order,?_,said?_refuses.mp (fault?_eq_some.mpr refused)⟩
  simp only [List.forall_mem_cons,List.forall_mem_map,← said?_eq_none]
  refine ⟨rfl,?_,?_⟩
  · cases members with
    | nil => exact absurd rfl listed
    | cons pair others => rfl
  · intro earlier member
    exact fault?_eq_none.mpr (before earlier member)

theorem ofJson_counter {members : Members} {policy : MissingFields} {e : Entry} {field : String} {n : Json.Number}
    (read : ofJson policy (.object members) = .ok e) (counted : field ∈ counters)
    (held : members.get? field = some (.number n)) : Index.ofNumber? n = some (e.counter field) := by
  have found := (ofJson_readFrom read).counter counted
  rw [indexField_number held] at found
  cases word? : Index.ofNumber? n with
  | none => simp [word?] at found
  | some word => simpa [word?] using found

theorem ofJson_same_word {members : Members} {field : String} {n m : Json.Number} (counted : field ∈ counters)
    (held : members.get? field = some (.number n)) (same : Index.ofNumber? m = Index.ofNumber? n)
    (policy : MissingFields) (e : Entry) : ofJson policy (.object (members.insert field (.number m))) = .ok e ↔
      ofJson policy (.object members) = .ok e := by
  have listed : members ≠ [] := Members.ne_nil_of_get? held
  have rewritten : (members.insert field (.number m)).get? field = some (.number m) := by
    rw [Members.get?_insert,if_pos rfl]
  cases word? : Index.ofNumber? n with
  | some word =>
    rw [ofJson_rewritten listed counted ?_ policy]
    rw [indexField_number rewritten,indexField_number held,same,word?]
    rfl
  | none =>
    constructor
    · intro read
      have found := ofJson_counter read counted rewritten
      rw [same,word?] at found
      cases found
    · intro read
      have found := ofJson_counter read counted held
      rw [word?] at found
      cases found

-- A counter written with an exponent is rounded before it is cut at the point. Where 53 bits are
-- enough that changes nothing, and then the exponent makes no difference.
theorem scaled_counter_rounds (policy : MissingFields) (members : Members) (field : String) (n : Json.Number)
    (counted : field ∈ counters) (held : members.get? field = some (.number n)) (scaled : n.exponent ≠ none) :
    (∀ y, RoundsTo n.rational y ↔ y = nearest n.rational) ∧
    (∀ e, ofJson policy (.object members) = .ok e →
      Index.wholeWord? (nearest n.rational) = some (e.counter field)) ∧
    (∀ word, Index.wholeWord? (nearest n.rational) = some word → ofJson policy (.object members) =
      ofJson policy (.object (members.insert field (.number (.ofNat word.toNat))))) ∧
    (Index.wholeWord? (nearest n.rational) = none →
      (∀ earlier ∈ counters.takeWhile (· ≠ field), ∃ word, indexField members earlier = .ok word) →
      ofJson policy (.object members) = .error (.range field "64-bit unsigned integer" n.text)) ∧
    (Short 53 n.rational → nearest n.rational = n.rational ∧
      ∀ m : Json.Number, m.exponent = none → m.rational = n.rational → ∀ e,
        ofJson policy (.object (members.insert field (.number m))) = .ok e ↔
          ofJson policy (.object members) = .ok e) := by
  have listed : members ≠ [] := by
    rintro rfl
    cases held
  have word := Index.ofNumber?_scaled scaled
  refine ⟨fun _ => roundsTo_iff,?_,?_,?_,?_⟩
  · intro e read
    rw [← word]
    exact ofJson_counter read counted held
  · intro w whole
    refine (ofJson_rewritten listed counted ?_ policy).symm
    rw [indexField_found (by rw [Members.get?_insert,if_pos rfl]),indexField_number held,word,whole]
    rfl
  · intro none before
    refine ofJson_counter_error listed counted before ?_ policy
    rw [indexField_number held,word,none]
    rfl
  · intro short
    refine ⟨nearest_short short,?_⟩
    intro m plain same e
    refine ofJson_same_word counted held ?_ policy e
    rw [Index.ofNumber?_plain plain,same,word,nearest_short short]

-- Twenty nines behind the point are more than 53 bits tell from the next whole number.
def nearlyEight (exponent : Option Json.Exponent) : Json.Number :=
  ⟨false, [7], some (List.replicate 20 9), exponent⟩

def lastWord : Json.Number := ⟨false, Decimal.ofNat 18446744073709551615, some (List.replicate 30 9), none⟩

def minusOne : Json.Number := ⟨true, [1], some [0], none⟩

theorem scaled_counter_rounds_up : Index.wholeWord? (nearest (nearlyEight (some ⟨false,[0]⟩)).rational) = some 8 :=
  (scaled_counter_rounds .tolerant [("Flags",.number (nearlyEight (some ⟨false,[0]⟩))),("Key",.string "k")] "Flags"
    (nearlyEight (some ⟨false,[0]⟩)) (by decide) rfl (by decide)).2.1 { flags := 8, key := "k" } (by decide +kernel)

-- So the whole part is not kept, and without the exponent the same number keeps it.
theorem scaled_counter_loses_whole :
    Index.wholeWord? (nearlyEight (some ⟨false,[0]⟩)).rational = some 7 ∧
      ofJson .tolerant (.object [("Flags",.number (nearlyEight (some ⟨false,[0]⟩))),("Key",.string "k")]) =
        .ok { flags := 8, key := "k" } ∧
      ofText .tolerant "\x7b\"Key\":\"k\",\"Flags\":7.99999999999999999999e0\x7d" =
        .ok { flags := 8, key := "k" } ∧
      ofText .tolerant "\x7b\"Key\":\"k\",\"Flags\":7.99999999999999999999\x7d" =
        .ok { flags := 7, key := "k" } := by
  have power : Json.Exponent.power ⟨false,[0]⟩ = 0 := rfl
  have same : (nearlyEight (some ⟨false,[0]⟩)).rational = (nearlyEight none).rational := by
    simp [nearlyEight,Json.Number.rational,Json.Number.size,Json.Number.places,power]
  refine ⟨?_,by decide +kernel,by decide +kernel,by decide +kernel⟩
  rw [same,← Index.ofNumber?_plain rfl]
  decide +kernel

end Entry
end ClusterClient
