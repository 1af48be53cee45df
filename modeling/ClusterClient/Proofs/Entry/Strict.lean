import ClusterClient.Proofs.Entry.Checks
import ClusterClient.Proofs.Rows.Agreement
namespace ClusterClient

namespace Entry
open Json (Members)

-- The member that a value lacks and the strict policy insists on; of two the key.
def missing? (v : Json) : Option String :=
  required.find? fun field => ((membersOf v).get? field).isNone

theorem missing?_eq_none {v : Json} :
    missing? v = none ↔ ∀ field ∈ required, (membersOf v).get? field ≠ none := by
  simp [missing?]

theorem ofMembers_present {members : Members} (present : ∀ field ∈ required, members.get? field ≠ none)
    (policy other : MissingFields) : ofMembers members policy = ofMembers members other := by
  unfold ofMembers
  simp only [requiredField_present _ (present "Key" (by simp [required])),
    requiredField_present _ (present "Value" (by simp [required]))]

theorem ofJson_present {v : Json} (present : missing? v = none) (policy other : MissingFields) :
    ofJson policy v = ofJson other v := by
  cases v with
  | object members =>
    cases members with
    | nil => rfl
    | cons pair rest => exact ofMembers_present (missing?_eq_none.mp present) policy other
  | _ => rfl

theorem findSome?_congr {f g : α → Option β} {l : List α} (same : ∀ x ∈ l, f x = g x) :
    l.findSome? f = l.findSome? g := by
  induction l with
  | nil => rfl
  | cons x rest ih =>
    obtain ⟨first,later⟩ := List.forall_mem_cons.mp same
    rw [findSome?_or,findSome?_or,first,ih later]

def Check.insists? (v : Json) : Check → Option Failure
  | .present field => if (membersOf v).get? field = none then some (.shape (.missingField field)) else none
  | _ => none

theorem said?_strict {v : Json} {check : Check} (passes : check.said? .tolerant v = none) :
    check.said? .strict v = check.insists? v := by
  cases check with
  | present field => simp [Check.said?,Check.insists?]
  | _ => exact passes

theorem ofJson_strict_fault {v : Json} {e : Entry} (read : ofJson .tolerant v = .ok e) :
    fault? (ofJson .strict v) = (missing? v).map fun field => .shape (.missingField field) := by
  have passes : ∀ check ∈ Check.order, check.said? .tolerant v = none := by
    rw [← List.findSome?_eq_none_iff,← ofJson_fault,read]
    rfl
  rw [ofJson_fault,findSome?_congr fun check listed => said?_strict (passes check listed)]
  simp only [Check.order,List.findSome?_cons,List.findSome?_nil,Check.insists?,missing?,required,List.find?_cons,
    List.find?_nil]
  cases (membersOf v).get? "Key" <;> cases (membersOf v).get? "Value" <;> rfl

theorem ofJson_strict_ok {v : Json} {e : Entry} :
    ofJson .strict v = .ok e ↔ missing? v = none ∧ ofJson .tolerant v = .ok e := by
  constructor
  · intro read
    obtain ⟨members,rfl,acceptable⟩ := ofJson_accepts.mp ⟨e,read⟩
    have present : missing? (.object members) = none := missing?_eq_none.mpr (acceptable.present rfl)
    exact ⟨present,(ofJson_present present _ _).symm.trans read⟩
  · rintro ⟨present,read⟩
    exact (ofJson_present present _ _).trans read

theorem ofJson_strict_error {v : Json} {e : Entry} {failure : Failure} (read : ofJson .tolerant v = .ok e) :
    ofJson .strict v = .error failure ↔
      ∃ field, missing? v = some field ∧ failure = .shape (.missingField field) := by
  rw [← fault?_eq_some,ofJson_strict_fault read,Option.map_eq_some_iff]
  simp only [eq_comm]

end Entry

namespace Batch

theorem ofText_eq_ok {policy : MissingFields} {text : String} {batch : Batch} :
    ofText policy text = .ok batch ↔ ∃ items, Json.parse text = .ok (.array items) ∧
      List.Forall₂ (fun item e => Entry.ofJson policy item = .ok e) items batch.entries := by
  have elements : ∀ items, List.Forall₂ (fun item e => Entry.ofJson policy item = .ok e) items batch.entries ↔
      decodeAll context (Entry.ofJson policy) items = .ok batch.entries := fun _ => decodeAll_eq_ok.symm
  rw [ofText,Json.ofText]
  simp only [elements]
  cases Json.parse text with
  | error fault => simp
  | ok v =>
    cases v with
    | array items =>
      simp only [ofJson,Except.ok.injEq,Json.array.injEq,exists_eq_left']
      cases decodeAll context (Entry.ofJson policy) items with
      | error failure => simp
      | ok entries =>
        obtain ⟨others⟩ := batch
        simp
    | _ => simp [ofJson]

theorem ofText_array {policy : MissingFields} {text : String} {items : List Json} {failure : Failure}
    (parsed : Json.parse text = .ok (.array items)) :
    ofText policy text = .error failure ↔ decodeAll context (Entry.ofJson policy) items = .error failure := by
  rw [ofText,Json.ofText,parsed]
  simp only [ofJson]
  cases decodeAll context (Entry.ofJson policy) items <;> simp

theorem ofText_strict_ok {text : String} {batch : Batch} :
    ofText .strict text = .ok batch ↔ ofText .tolerant text = .ok batch ∧
      ∃ items, Json.parse text = .ok (.array items) ∧ ∀ item ∈ items, Entry.missing? item = none := by
  simp only [ofText_eq_ok,Entry.ofJson_strict_ok,List.forall₂_and_left]
  constructor
  · rintro ⟨items,parsed,present,read⟩
    exact ⟨⟨items,parsed,read⟩,items,parsed,present⟩
  · rintro ⟨⟨items,parsed,read⟩,others,again,present⟩
    rw [parsed] at again
    cases again
    exact ⟨items,parsed,present,read⟩

theorem ofText_strict_error {text : String} {batch : Batch} {failure : Failure}
    (read : ofText .tolerant text = .ok batch) : ofText .strict text = .error failure ↔
      ∃ front item back field, Json.parse text = .ok (.array (front ++ item :: back)) ∧
        (∀ earlier ∈ front, Entry.missing? earlier = none) ∧ Entry.missing? item = some field ∧
        failure = .within context (.shape (.missingField field)) := by
  obtain ⟨items,parsed,each⟩ := ofText_eq_ok.mp read
  have found : ∀ item ∈ items, ∃ e, Entry.ofJson .tolerant item = .ok e :=
    ((List.forall₂_and_left _ _).mp (each.imp fun _ e here => ⟨⟨e,here⟩,here⟩)).1
  rw [ofText_array parsed,decodeAll_eq_error,parsed]
  -- Every element is read by the tolerant policy, so to be refused by the strict one is to lack a
  -- member.
  constructor
  · rintro ⟨inner,⟨front,item,back,rfl,before,blamed⟩,rfl⟩
    obtain ⟨e,here⟩ := found item (by simp)
    obtain ⟨field,missing,rfl⟩ := (Entry.ofJson_strict_error here).mp blamed
    refine ⟨front,item,back,field,rfl,?_,missing,rfl⟩
    intro earlier member
    obtain ⟨other,accepted⟩ := before earlier member
    exact (Entry.ofJson_strict_ok.mp accepted).1
  · rintro ⟨front,item,back,field,same,before,missing,rfl⟩
    cases same
    obtain ⟨e,here⟩ := found item (by simp)
    refine ⟨_,⟨front,item,back,rfl,?_,(Entry.ofJson_strict_error here).mpr ⟨field,missing,rfl⟩⟩,rfl⟩
    intro earlier member
    obtain ⟨other,accepted⟩ := found earlier (by simp [member])
    exact ⟨other,Entry.ofJson_strict_ok.mpr ⟨before earlier member,accepted⟩⟩

theorem ofBody_strict_ok {recurse : Bool} {body : String} {batch : Batch}
    (read : ofBody .strict recurse body = .ok batch) : ofBody .tolerant recurse body = .ok batch := by
  unfold ofBody at read ⊢
  obtain ⟨found,accepted,rest⟩ := bind_eq_ok.mp read
  rw [(ofText_strict_ok.mp accepted).1]
  exact rest

end Batch

namespace Client
open Http (Reply)

theorem play_get (client : Client) (files : String → Found) (script : List (Option Reply)) (key : String)
    (query : Query) :
    ((client.get key query).run.play files script).result =
        ((client.getText key query).run.play files script).result >>= Batch.ofBody client.policy query.recurse ∧
      ((client.get key query).run.play files script).exchanges =
        ((client.getText key query).run.play files script).exchanges := by
  rw [get_eq_read]
  cases got : ((client.getText key query).run.play files script).result with
  | error failure =>
    rw [Exchange.play_error got]
    exact ⟨rfl,List.append_nil _⟩
  | ok body =>
    rw [Exchange.play_ok got,play_decoded]
    exact ⟨rfl,List.append_nil _⟩

theorem getText_policy (client : Client) (policy : MissingFields) (key : String) (query : Query) :
    { client with policy }.getText key query = client.getText key query := by
  simp only [getText,send,reply?,entryUrl,url]

-- The strict policy refuses more and reads nothing otherwise, be it a text or whatever an agent
-- replies. What it alone refuses it refuses for the first member that is missing.
theorem strict_only_refuses :
    (∀ text batch, Batch.ofText .strict text = .ok batch ↔ Batch.ofText .tolerant text = .ok batch ∧
      ∃ items, Json.parse text = .ok (.array items) ∧
        ∀ item ∈ items, ∀ field ∈ Entry.required, (Entry.membersOf item).get? field ≠ none) ∧
    (∀ text failure, Batch.ofText .tolerant text = .error failure →
      ∃ other, Batch.ofText .strict text = .error other) ∧
    (∀ text batch failure, Batch.ofText .tolerant text = .ok batch → Batch.ofText .strict text = .error failure →
      failure.kind = .shape ∧ ∃ front item back field,
        Json.parse text = .ok (.array (front ++ item :: back)) ∧
        (∀ earlier ∈ front, Entry.missing? earlier = none) ∧ Entry.missing? item = some field ∧
        failure = .within Batch.context (.shape (.missingField field))) ∧
    (∀ (client : Client) (key : String) (query : Query) (files : String → Found) (script : List (Option Reply)),
      let strict := ({ client with policy := .strict }.get key query).run.play files script
      let tolerant := ({ client with policy := .tolerant }.get key query).run.play files script
      strict.exchanges = tolerant.exchanges ∧ ∀ batch, strict.result = .ok batch → tolerant.result = .ok batch) := by
  refine ⟨?_,?_,?_,?_⟩
  · intro text batch
    simp only [Batch.ofText_strict_ok,Entry.missing?_eq_none]
  · intro text failure refused
    cases read : Batch.ofText .strict text with
    | error other => exact ⟨other,rfl⟩
    | ok batch =>
      rw [(Batch.ofText_strict_ok.mp read).1] at refused
      cases refused
  · intro text batch failure read refused
    obtain ⟨front,item,back,field,parsed,before,missing,rfl⟩ := (Batch.ofText_strict_error read).mp refused
    exact ⟨rfl,front,item,back,field,parsed,before,missing,rfl⟩
  · intro client key query files script
    dsimp only
    obtain ⟨strictResult,strictAsked⟩ := { client with policy := .strict }.play_get files script key query
    obtain ⟨tolerantResult,tolerantAsked⟩ := { client with policy := .tolerant }.play_get files script key query
    -- Both ask for one text, so they can differ only in what they make of it.
    rw [getText_policy client] at strictResult strictAsked tolerantResult tolerantAsked
    rw [strictResult,strictAsked,tolerantResult,tolerantAsked]
    refine ⟨rfl,?_⟩
    intro batch came
    obtain ⟨body,got,read⟩ := bind_eq_ok.mp came
    rw [got]
    exact Batch.ofBody_strict_ok read

example :
    Batch.ofText .tolerant "[\x7b\"Value\":\"?\"\x7d]" =
        .error (.within Batch.context (.range "Value" "base64 string" "?")) ∧
      Batch.ofText .strict "[\x7b\"Value\":\"?\"\x7d]" =
        .error (.within Batch.context (.shape (.missingField "Key"))) := by
  decide +kernel

end Client
end ClusterClient
