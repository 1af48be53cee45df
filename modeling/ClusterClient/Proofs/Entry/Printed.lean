import ClusterClient.Proofs.Entry.WireForm
namespace ClusterClient
namespace Entry
open Json (Members)

structure Shows (members : Members) (e : Entry) : Prop where
  keys : members.map (·.1) =
    ["CreateIndex", "Flags", "Key", "LockIndex", "ModifyIndex", "Session", "Value"]
  createIndex : ∃ s, members.get? "CreateIndex" = some (.string s) ∧ Decimal.word64? s = some e.createIndex
  modifyIndex : ∃ s, members.get? "ModifyIndex" = some (.string s) ∧ Decimal.word64? s = some e.modifyIndex
  lockIndex : ∃ s, members.get? "LockIndex" = some (.string s) ∧ Decimal.word64? s = some e.lockIndex
  flags : ∃ s, members.get? "Flags" = some (.string s) ∧ Decimal.word64? s = some e.flags
  session : members.get? "Session" = some (.string e.session)
  key : members.get? "Key" = some (.string e.key)
  value : ∃ s, members.get? "Value" = some (.string s) ∧ Value.decode s = .ok e.value

def printed (e : Entry) : Members :=
  [("CreateIndex", .string (word e.createIndex)), ("Flags", .string (word e.flags)), ("Key", .string e.key),
    ("LockIndex", .string (word e.lockIndex)), ("ModifyIndex", .string (word e.modifyIndex)),
    ("Session", .string e.session), ("Value", .string (Value.encode e.value))]

theorem toJson_eq_printed (e : Entry) : e.toJson = .object e.printed := by
  simp [-String.lt_iff_ltb,toJson,printed,Members.ofList,Members.insert]

theorem printed_sorted (e : Entry) : e.printed.Sorted := by
  simp [-String.lt_iff_ltb,printed,Members.Sorted]

theorem printed_shows (e : Entry) : Shows e.printed e where
  keys := rfl
  createIndex := ⟨_,rfl,Decimal.word64?_text _⟩
  modifyIndex := ⟨_,rfl,Decimal.word64?_text _⟩
  lockIndex := ⟨_,rfl,Decimal.word64?_text _⟩
  flags := ⟨_,rfl,Decimal.word64?_text _⟩
  session := rfl
  key := rfl
  value := ⟨_,rfl,Value.decode_encode _⟩

theorem same_reading {members : Members} {key : String} {β : Type} {read : String → β} {x y : β}
    (left : ∃ s, members.get? key = some (.string s) ∧ read s = x)
    (right : ∃ s, members.get? key = some (.string s) ∧ read s = y) : x = y := by
  obtain ⟨s,found,readLeft⟩ := left
  obtain ⟨t,found',readRight⟩ := right
  rw [found] at found'
  cases found'
  exact readLeft.symm.trans readRight

theorem Shows.unique {members : Members} {e f : Entry} (left : Shows members e) (right : Shows members f) :
    e = f := by
  have createIndex := Option.some.inj (same_reading left.createIndex right.createIndex)
  have modifyIndex := Option.some.inj (same_reading left.modifyIndex right.modifyIndex)
  have lockIndex := Option.some.inj (same_reading left.lockIndex right.lockIndex)
  have flags := Option.some.inj (same_reading left.flags right.flags)
  have session := Json.string.inj (Option.some.inj (left.session.symm.trans right.session))
  have key := Json.string.inj (Option.some.inj (left.key.symm.trans right.key))
  have value := Except.ok.inj (same_reading left.value right.value)
  cases e
  cases f
  simp only at createIndex modifyIndex lockIndex flags session key value
  rw [createIndex,modifyIndex,lockIndex,flags,session,key,value]

theorem toJson_injective {e f : Entry} (same : e.toJson = f.toJson) : e = f := by
  rw [toJson_eq_printed,toJson_eq_printed,Json.object.injEq] at same
  have shows := f.printed_shows
  rw [← same] at shows
  exact e.printed_shows.unique shows

theorem toJson_printable (depth : Nat) (e : Entry) : Json.Printing.Printable (depth + 1) e.toJson := by
  rw [toJson_eq_printed]
  refine ⟨by simp [printed,Json.Reader.numberKey],?_⟩
  intro pair member
  simp only [printed,List.mem_cons,List.not_mem_nil,or_false] at member
  rcases member with rfl | rfl | rfl | rfl | rfl | rfl | rfl <;> simp [Json.Printing.Printable]

theorem toJson_settled (e : Entry) : Json.Grammar.settled e.toJson = e.toJson := by
  rw [toJson_eq_printed]
  refine Json.Printing.settled_object e.printed_sorted ?_
  intro pair member
  simp only [printed,List.mem_cons,List.not_mem_nil,or_false] at member
  rcases member with rfl | rfl | rfl | rfl | rfl | rfl | rfl <;> rfl

theorem parse_json (e : Entry) : Json.parse e.json = .ok e.toJson := by
  rw [json,Json.Printing.parse_text (e.toJson_printable 126),toJson_settled]

theorem json_injective {e f : Entry} (same : e.json = f.json) : e = f := by
  have parsed := e.parse_json
  rw [same,parse_json,Except.ok.injEq] at parsed
  exact (toJson_injective parsed).symm

theorem ofJson_toJson (policy : MissingFields) (e : Entry) :
    ofJson policy e.toJson = .error (.fieldType "CreateIndex" .number .string) := by
  rw [toJson_eq_printed]
  rfl

end Entry

namespace Batch

theorem parse_json (batch : Batch) : Json.parse batch.json = .ok batch.toJson := by
  have printable : Json.Printing.Printable (125 + 2) batch.toJson := by
    intro v member
    obtain ⟨e,_,rfl⟩ := List.mem_map.mp member
    exact e.toJson_printable 125
  rw [json,Json.Printing.parse_text printable,toJson,Json.Printing.settled_array]
  intro v member
  obtain ⟨e,_,rfl⟩ := List.mem_map.mp member
  exact e.toJson_settled

theorem json_injective {entries others : List Entry} (same : json ⟨entries⟩ = json ⟨others⟩) :
    entries = others := by
  have parsed := parse_json ⟨entries⟩
  rw [same,parse_json,Except.ok.injEq,toJson,toJson,Json.array.injEq] at parsed
  exact (List.map_injective_iff.mpr (fun _ _ equal => Entry.toJson_injective equal) parsed).symm

end Batch

namespace Entry

-- Printing loses nothing, alone or in a list, and yet no printed entry is read as an entry.
theorem printing_faithful :
    (∀ e : Entry, ∃ members, Json.parse e.json = .ok (.object members) ∧ Shows members e) ∧
    (∀ e f : Entry, e.json = f.json ↔ e = f) ∧
    (∀ entries others : List Entry, Batch.json ⟨entries⟩ = Batch.json ⟨others⟩ ↔ entries = others) ∧
    (∀ (policy : MissingFields) (e : Entry),
      ofJson policy e.toJson = .error (.fieldType "CreateIndex" .number .string)) := by
  refine ⟨?_,?_,?_,ofJson_toJson⟩
  · intro e
    refine ⟨e.printed,?_,e.printed_shows⟩
    rw [parse_json,toJson_eq_printed]
  · intro e f
    exact ⟨json_injective,fun same => congrArg json same⟩
  · intro entries others
    exact ⟨Batch.json_injective,fun same => by rw [same]⟩

end Entry
end ClusterClient
