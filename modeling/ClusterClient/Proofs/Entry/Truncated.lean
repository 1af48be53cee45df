import ClusterClient.Proofs.Entry.Counter
import ClusterClient.Proofs.Json.Numeral
namespace ClusterClient

namespace Index

def truncated (x : ℚ) : ℤ := if x < 0 then ⌈x⌉ else ⌊x⌋

theorem truncated_floor {x : ℚ} (above : -1 < x) : truncated x = ⌊x⌋₊ := by
  unfold truncated
  split_ifs with negative
  · have ceil : ⌈x⌉ = 0 := Int.ceil_eq_zero_iff.mpr ⟨above,negative.le⟩
    simp [ceil,Nat.floor_of_nonpos negative.le]
  · simp [Int.natCast_floor_eq_floor (not_lt.mp negative)]

theorem wholeWord?_fits {x : ℚ} (above : -1 < x) (below : x < limit) :
    ∃ word, wholeWord? x = some word ∧ (word.toNat : ℤ) = truncated x := by
  have small : ⌊x⌋₊ < UInt64.size := by
    by_cases negative : x < 0
    · simp [Nat.floor_of_nonpos negative.le]
    · exact (Nat.floor_lt (not_lt.mp negative)).mpr below
  refine ⟨UInt64.ofNat ⌊x⌋₊,by simp [wholeWord?,above,below],?_⟩
  simp [truncated_floor above,UInt64.toNat_ofNat_of_lt' small]

end Index

namespace Entry
open Json (Members)

def withCounter (e : Entry) (word : UInt64) : String → Entry
  | "CreateIndex" => { e with createIndex := word }
  | "ModifyIndex" => { e with modifyIndex := word }
  | "LockIndex" => { e with lockIndex := word }
  | _ => { e with flags := word }

theorem map_bind {ε α β γ : Type} (word : Except ε α) (next : α → Except ε β) (f : β → γ) :
    (word >>= next).map f = word >>= fun x => (next x).map f := by
  cases word <;> rfl

theorem ofMembers_withCounter {members others : Members} {field : String} {word before : UInt64}
    (counted : field ∈ counters) (read : indexField members field = .ok word)
    (held : indexField others field = .ok before)
    (same : ∀ other, other ≠ field → members.get? other = others.get? other) (policy : MissingFields) :
    ofMembers members policy = (ofMembers others policy).map (·.withCounter word field) := by
  have indices : ∀ other, other ≠ field → indexField members other = indexField others other := by
    intro other distinct
    simp [indexField,same other distinct]
  have texts : ∀ other, other ≠ field → stringField members other = stringField others other := by
    intro other distinct
    simp [stringField,same other distinct]
  have wanted : ∀ other, other ≠ field → requiredField members other policy = requiredField others other policy := by
    intro other distinct
    unfold requiredField
    simp [texts other distinct]
  rcases counters_cases counted with rfl | rfl | rfl | rfl
  all_goals
    unfold ofMembers
    simp (disch := decide) only [map_bind,ok_bind,read,held,indices,texts,wanted]
    rfl

theorem ofJson_withCounter {members : Members} {field : String} {word before : UInt64} {v : Json}
    (counted : field ∈ counters) (listed : members ≠ []) (read : indexField members field = .ok word)
    (held : indexField (members.insert field v) field = .ok before) (policy : MissingFields) :
    ofJson policy (.object members) =
      (ofJson policy (.object (members.insert field v))).map (·.withCounter word field) := by
  rw [ofJson_object listed,ofJson_object (Members.insert_ne_nil _ _ _)]
  apply ofMembers_withCounter counted read held
  intro other distinct
  simp [Members.get?_insert,distinct.symm]

section
variable {members : Members} {field : String} {n : Json.Number}

theorem indexField_plain (held : members.get? field = some (.number n)) (plain : n.exponent = none) :
    indexField members field =
      (Index.wholeWord? n.rational).elim (.error (.range field "64-bit unsigned integer" n.text)) .ok := by
  rw [indexField_number held,Index.ofNumber?_plain plain]

theorem ofJson_plain {policy : MissingFields} {e : Entry} (read : ofJson policy (.object members) = .ok e)
    (counted : field ∈ counters) (held : members.get? field = some (.number n)) (plain : n.exponent = none) :
    Index.wholeWord? n.rational = some (e.counter field) := by
  simpa [Index.ofNumber?_plain plain] using ofJson_counter read counted held

theorem ofJson_plain_word {word : UInt64} (counted : field ∈ counters) (held : members.get? field = some (.number n))
    (plain : n.exponent = none) (whole : Index.wholeWord? n.rational = some word) (policy : MissingFields) :
    ofJson policy (.object members) =
      (ofJson policy (.object (members.insert field (.number (.ofNat 0))))).map (·.withCounter word field) := by
  have read : indexField members field = .ok word := by simp [indexField_plain held plain,whole]
  have zero : indexField (members.insert field (.number (.ofNat 0))) field = .ok 0 :=
    indexField_found (n := 0) (by simp [Members.get?_insert])
  exact ofJson_withCounter counted (Members.ne_nil_of_get? held) read zero policy

end

-- A counter without an exponent is cut towards zero if that leaves a word, whatever its length, and
-- nothing else depends on it. Past a word it is refused, and told as it was written.
theorem plain_counter_truncates (policy : MissingFields) (members : Members) (field : String) (n : Json.Number)
    (counted : field ∈ counters) (held : members.get? field = some (.number n)) (plain : n.exponent = none) :
    (-1 < n.rational ∧ n.rational < 2 ^ 64 → ∃ word : UInt64, (word.toNat : ℤ) = Index.truncated n.rational ∧
      ofJson policy (.object members) =
        (ofJson policy (.object (members.insert field (.number (.ofNat 0))))).map (·.withCounter word field) ∧
      ∀ e, ofJson policy (.object members) = .ok e → e.counter field = word) ∧
    (¬(-1 < n.rational ∧ n.rational < 2 ^ 64) →
      (∃ failure, ofJson policy (.object members) = .error failure) ∧
      ((∀ earlier ∈ counters.takeWhile (· ≠ field), ∃ word, indexField members earlier = .ok word) →
        ofJson policy (.object members) = .error (.range field "64-bit unsigned integer" n.text))) ∧
    (∀ negative cs rest, Json.Reader.number negative cs = .ok (n,rest) →
      Json.Grammar.sign negative ++ cs = n.text.toList ++ rest) := by
  have size : ((Index.limit : ℕ) : ℚ) = 2 ^ 64 := by norm_num [Index.limit]
  refine ⟨?_,?_,?_⟩
  · rintro ⟨above,below⟩
    obtain ⟨word,whole,cut⟩ := Index.wholeWord?_fits above (size ▸ below)
    refine ⟨word,cut,ofJson_plain_word counted held plain whole policy,?_⟩
    intro e read
    simpa [whole,eq_comm] using ofJson_plain read counted held plain
  · intro outside
    -- Without an exponent nothing is rounded, so the bounds are those of the rational itself.
    have none : Index.wholeWord? n.rational = none := by
      simp only [Index.wholeWord?,size]
      exact if_neg outside
    constructor
    · cases read : ofJson policy (.object members) with
      | error failure => exact ⟨failure,rfl⟩
      | ok e => simpa [none] using ofJson_plain read counted held plain
    · intro before
      apply ofJson_counter_error (Members.ne_nil_of_get? held) counted before
      simp [indexField_plain held plain,none]
  · intro negative cs rest read
    simpa [Json.Number.text] using Json.Reading.number_written read plain

theorem plain_counter_truncates_edges :
    Index.truncated lastWord.rational = 18446744073709551615 ∧
      ofJson .strict (.object [("LockIndex",.number minusOne),("Value",.null)]) =
        .error (.range "LockIndex" "64-bit unsigned integer" "-1.0") := by
  have last : lastWord.rational = 18446744073709551615 + (10 ^ 30 - 1) / 10 ^ 30 := by
    have nines : Decimal.value (List.replicate 30 9) = 10 ^ 30 - 1 := by decide
    norm_num [lastWord,Json.Number.rational,Json.Number.size,Json.Number.places,Decimal.value_ofNat,nines,
      -List.reduceReplicate]
  have minus : minusOne.rational = -1 := by
    simp [minusOne,Json.Number.rational,Json.Number.size,Json.Number.places,Decimal.value]
  have before : ∀ earlier ∈ counters.takeWhile (· ≠ "LockIndex"),
      indexField [("LockIndex",.number minusOne),("Value",.null)] earlier = .ok 0 := by
    decide +kernel
  constructor
  · obtain ⟨word,cut,_,told⟩ := (plain_counter_truncates .tolerant [("Flags",.number lastWord)] "Flags" lastWord
      (by decide) rfl rfl).1 (by rw [last]; norm_num)
    rw [← cut,← told { flags := 18446744073709551615 } (by decide +kernel)]
    rfl
  · exact ((plain_counter_truncates .strict [("LockIndex",.number minusOne),("Value",.null)] "LockIndex" minusOne
      (by decide) rfl rfl).2.1 (by simp [minus])).2 fun earlier member => ⟨0,before earlier member⟩

end Entry
end ClusterClient
