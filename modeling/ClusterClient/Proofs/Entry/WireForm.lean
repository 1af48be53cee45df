import ClusterClient.Entry.Decode
import ClusterClient.Proofs.Base64
import ClusterClient.Proofs.Elements
import ClusterClient.Proofs.Json.Printing
namespace ClusterClient

theorem Index.ofNumber?_ofNat (n : UInt64) : ofNumber? (Json.Number.ofNat n.toNat) = some n := by
  have small := n.toNat_lt
  rw [ofNumber?,Json.Number.ofNat]
  simp only [Bool.false_eq_true,if_false,Decimal.value_ofNat]
  rw [ofNat?,limit,if_pos (by omega),UInt64.ofNat_toNat]

namespace Entry
open Json (Members)

def wire (e : Entry) : Members :=
  [("CreateIndex", .number (.ofNat e.createIndex.toNat)), ("ModifyIndex", .number (.ofNat e.modifyIndex.toNat)),
    ("LockIndex", .number (.ofNat e.lockIndex.toNat)), ("Flags", .number (.ofNat e.flags.toNat)),
    ("Session", .string e.session), ("Key", .string e.key), ("Value", .string (Value.encode e.value))]

theorem indexField_found {members : Members} {field : String} {n : UInt64}
    (found : members.get? field = some (.number (.ofNat n.toNat))) : indexField members field = .ok n := by
  rw [indexField,found]
  simp only [Index.ofNumber?_ofNat]

theorem stringField_found {members : Members} {field s : String}
    (found : members.get? field = some (.string s)) : stringField members field = .ok (some s) := by
  rw [stringField,found]

theorem requiredField_found {members : Members} {field s : String} (policy : MissingFields)
    (found : members.get? field = some (.string s)) : requiredField members field policy = .ok (some s) := by
  unfold requiredField
  rw [stringField_found found]

theorem ofMembers_found {members : Members} {e : Entry} (policy : MissingFields)
    (found : ∀ pair ∈ e.wire, members.get? pair.1 = some pair.2) : ofMembers members policy = .ok e := by
  simp only [wire,List.forall_mem_cons] at found
  obtain ⟨createIndex,modifyIndex,lockIndex,flags,session,key,value,_⟩ := found
  unfold ofMembers
  rw [indexField_found createIndex,indexField_found modifyIndex,indexField_found lockIndex,
    indexField_found flags,stringField_found session,requiredField_found policy key,
    requiredField_found policy value]
  simp only [ok_bind,Option.getD_some,Value.decode_encode]
  rfl

theorem ofJson_object {members : Members} (listed : members ≠ []) (policy : MissingFields) :
    ofJson policy (.object members) = ofMembers members policy := by
  cases members with
  | nil => exact absurd rfl listed
  | cons pair rest => rfl

theorem wire_keys_nodup (e : Entry) : (e.wire.map (·.1)).Nodup := by
  change ["CreateIndex","ModifyIndex","LockIndex","Flags","Session","Key","Value"].Nodup
  decide

theorem wire_settled (e : Entry) : ∀ pair ∈ e.wire, Json.Grammar.settled pair.2 = pair.2 := by
  intro pair listed
  simp only [wire,List.mem_cons,List.not_mem_nil,or_false] at listed
  rcases listed with rfl | rfl | rfl | rfl | rfl | rfl | rfl <;> rfl

theorem ofJson_wire {e : Entry} {members : Members} (anyOrder : members.Perm e.wire) (policy : MissingFields) :
    ofJson policy (Json.Grammar.settled (.object members)) = .ok e := by
  have once : (members.map (·.1)).Nodup := (anyOrder.map _).nodup_iff.mpr e.wire_keys_nodup
  have listed : members ≠ [] := by
    rintro rfl
    cases anyOrder.length_eq
  rw [Json.Grammar.settled,Json.Printing.settledMembers_same
    (fun pair member => e.wire_settled pair (anyOrder.mem_iff.mp member)),
    ofJson_object (Members.ofList_ne_nil listed)]
  exact ofMembers_found policy (fun pair member => Members.get?_of_mem once (anyOrder.mem_iff.mpr member))

theorem wire_printable {e : Entry} {members : Members} (anyOrder : members.Perm e.wire) (depth : Nat) :
    Json.Printing.Printable (depth + 1) (.object members) := by
  have each : ∀ pair ∈ e.wire, pair.1 ≠ Json.Reader.numberKey ∧ Json.Printing.Printable depth pair.2 := by
    intro pair listed
    simp only [wire,List.mem_cons,List.not_mem_nil,or_false] at listed
    rcases listed with rfl | rfl | rfl | rfl | rfl | rfl | rfl
    · exact ⟨by simp [Json.Reader.numberKey],Json.Printing.ofNat_printable _ _⟩
    · exact ⟨by simp [Json.Reader.numberKey],Json.Printing.ofNat_printable _ _⟩
    · exact ⟨by simp [Json.Reader.numberKey],Json.Printing.ofNat_printable _ _⟩
    · exact ⟨by simp [Json.Reader.numberKey],Json.Printing.ofNat_printable _ _⟩
    · exact ⟨by simp [Json.Reader.numberKey],by simp [Json.Printing.Printable]⟩
    · exact ⟨by simp [Json.Reader.numberKey],by simp [Json.Printing.Printable]⟩
    · exact ⟨by simp [Json.Reader.numberKey],by simp [Json.Printing.Printable]⟩
  refine ⟨?_,fun pair member => (each pair (anyOrder.mem_iff.mp member)).2⟩
  intro pair first
  exact (each pair (anyOrder.mem_iff.mp (List.mem_of_mem_head? first))).1

end Entry

namespace Batch

-- What the agent sends is read as the entries it sent, in their order, under either policy.
theorem ofText_wire (policy : MissingFields) (entries : List Entry) (objects : List Json.Members)
    (text : String) (anyOrder : List.Forall₂ (fun e members => members.Perm e.wire) entries objects)
    (spelled : Json.Grammar.TextSpelled (.array (objects.map .object)) text) :
    ofText policy text = .ok ⟨entries⟩ := by
  -- A spelled tree keeps its members as they were written; what it settles to has them sorted.
  have decoded : List.Forall₂ (fun item e => Entry.ofJson policy item = .ok e)
      ((objects.map Json.object).map Json.Grammar.settled) entries := by
    rw [List.map_map,List.forall₂_map_left_iff]
    exact anyOrder.flip.imp (fun _ _ order => Entry.ofJson_wire order policy)
  rw [ofText,Json.ofText,Json.Reading.parse_spelled spelled]
  simp only [Json.Grammar.settled,Json.Grammar.settledItems_eq_map,ofJson]
  rw [decodeAll_eq_ok.mpr decoded]

-- There is such a text for all entries and every order of their members.
theorem text_wire_spelled {entries : List Entry} {objects : List Json.Members}
    (anyOrder : List.Forall₂ (fun e members => members.Perm e.wire) entries objects) :
    Json.Grammar.TextSpelled (.array (objects.map .object)) (Json.array (objects.map .object)).text := by
  refine Json.Printing.text_printed ?_
  change Json.Printing.Printable (125 + 2) _
  intro v member
  obtain ⟨members,listed,rfl⟩ := List.mem_map.mp member
  clear member
  induction anyOrder with
  | nil => cases listed
  | cons order _ ih =>
    cases listed with
    | head => exact Entry.wire_printable order 125
    | tail _ later => exact ih later

def awkward : Entry :=
  { createIndex := 18446744073709551615, lockIndex := 7, session := "s\"1", key := "a/é\n", value := [0, 255] }

theorem ofText_wire_reversed :
    ofText .strict ("[\x7b\"Value\":\"AP8=\",\"Key\":\"a/é\\n\",\"Session\":\"s\\\"1\",\"Flags\":0,\"LockIndex\":7," ++
      "\"ModifyIndex\":0,\"CreateIndex\":18446744073709551615\x7d]") = .ok ⟨[awkward]⟩ := by
  have order : List.Forall₂ (fun e members => members.Perm e.wire) [awkward] [awkward.wire.reverse] :=
    .cons (List.reverse_perm _) .nil
  have printed : (Json.array ([awkward.wire.reverse].map .object)).text =
      ("[\x7b\"Value\":\"AP8=\",\"Key\":\"a/é\\n\",\"Session\":\"s\\\"1\",\"Flags\":0,\"LockIndex\":7," ++
        "\"ModifyIndex\":0,\"CreateIndex\":18446744073709551615\x7d]") := by
    decide +kernel
  rw [← printed]
  exact ofText_wire .strict [awkward] [awkward.wire.reverse] _ order (text_wire_spelled order)

end Batch
end ClusterClient
