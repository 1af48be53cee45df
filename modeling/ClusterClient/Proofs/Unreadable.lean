import ClusterClient.Client
namespace ClusterClient

def Failure.Unreadable (failure : Failure) : Prop := failure.kind ≠ .transport ∧ failure.kind ≠ .usage

theorem Failure.exitCode_unreadable {failure : Failure} (unreadable : failure.Unreadable) :
    failure.exitCode = ExitCode.protocol := by
  obtain ⟨notTransport,notUsage⟩ := unreadable
  induction failure with
  | status code url => exact absurd rfl notTransport
  | transport url => exact absurd rfl notTransport
  | usage cause => exact absurd rfl notUsage
  | within context source ih => exact ih notTransport notUsage
  | parse detail => rfl
  | shape cause => rfl
  | fieldType field expected found => rfl
  | range field expected text => rfl
  | format cause => rfl

def Reads (word : Except Failure α) : Prop := ∀ failure, word = .error failure → failure.Unreadable

namespace Reads

theorem ok (x : α) : Reads (.ok x) := by
  intro failure impossible
  cases impossible

theorem error {failure : Failure} (unreadable : failure.Unreadable) : Reads (.error failure : Except Failure α) := by
  intro other same
  cases same
  exact unreadable

theorem parse (detail : String) : Reads (.error (.parse detail) : Except Failure α) := error ⟨nofun,nofun⟩

theorem shape (cause : ShapeCause) : Reads (.error (.shape cause) : Except Failure α) := error ⟨nofun,nofun⟩

theorem fieldType (field : String) (expected found : Json.Kind) :
    Reads (.error (.fieldType field expected found) : Except Failure α) := error ⟨nofun,nofun⟩

theorem range (field expected text : String) : Reads (.error (.range field expected text) : Except Failure α) :=
  error ⟨nofun,nofun⟩

theorem format (cause : FormatCause) : Reads (.error (.format cause) : Except Failure α) := error ⟨nofun,nofun⟩

theorem bind {word : Except Failure α} {next : α → Except Failure β} (first : Reads word)
    (later : ∀ x, Reads (next x)) : Reads (word >>= next) := by
  cases word with
  | error failure => exact error (first failure rfl)
  | ok x => exact later x

theorem map {word : Except Failure α} (reads : Reads word) (f : α → β) : Reads (word.map f) := by
  cases word with
  | error failure => exact error (reads failure rfl)
  | ok x => exact ok (f x)

end Reads

theorem Json.ofText_reads (body : String) : Reads (Json.ofText body) := by
  unfold Json.ofText
  split
  · exact .ok _
  · exact .parse _

theorem decodeAll_reads {context : String} {decode : Json → Except Failure α} (each : ∀ item, Reads (decode item))
    (items : List Json) : Reads (decodeAll context decode items) := by
  induction items with
  | nil => exact .ok _
  | cons item rest ih =>
    rw [decodeAll]
    split
    · rename_i failure failed
      exact .error (each item failure failed)
    · split
      · rename_i failure failed
        exact .error (ih failure failed)
      · exact .ok _

namespace Entry
open Json (Members)

theorem indexField_reads (members : Members) (field : String) : Reads (indexField members field) := by
  unfold indexField
  split
  · exact .ok _
  · split
    · exact .ok _
    · exact .range _ _ _
  · exact .fieldType _ _ _

theorem stringField_reads (members : Members) (field : String) : Reads (stringField members field) := by
  unfold stringField
  split
  · exact .ok _
  · exact .ok _
  · exact .fieldType _ _ _

theorem requiredField_reads (members : Members) (field : String) (policy : MissingFields) :
    Reads (requiredField members field policy) := by
  unfold requiredField
  split
  · exact .shape _
  · exact stringField_reads members field

theorem ofMembers_reads (members : Members) (policy : MissingFields) : Reads (ofMembers members policy) := by
  have value_reads : ∀ encoded, Reads (Value.decode encoded) := by
    intro encoded
    unfold Value.decode
    split
    · exact .ok _
    · exact .range _ _ _
  refine (indexField_reads members _).bind fun _ => ?_
  refine (indexField_reads members _).bind fun _ => ?_
  refine (indexField_reads members _).bind fun _ => ?_
  refine (indexField_reads members _).bind fun _ => ?_
  refine (stringField_reads members _).bind fun _ => ?_
  refine (requiredField_reads members _ policy).bind fun _ => ?_
  refine (requiredField_reads members _ policy).bind fun _ => ?_
  exact (value_reads _).bind fun _ => .ok _

theorem ofJson_reads (policy : MissingFields) (v : Json) : Reads (ofJson policy v) := by
  unfold ofJson
  split
  · exact .shape _
  · exact ofMembers_reads _ policy
  · exact .shape _

end Entry

namespace Batch

theorem ofText_reads (policy : MissingFields) (text : String) : Reads (ofText policy text) := by
  unfold ofText
  split
  · unfold ofJson
    split
    · split
      · exact .ok _
      · rename_i failure failed
        exact .error (decodeAll_reads (Entry.ofJson_reads policy) _ failure failed)
    · exact .shape _
  · rename_i failure failed
    exact .error (Json.ofText_reads text failure failed)

theorem checkRecurse_reads (batch : Batch) (recurse : Bool) : Reads (batch.checkRecurse recurse) := by
  unfold checkRecurse
  split
  · exact .shape _
  · exact .ok _

end Batch

namespace Peer

theorem ofText_reads (text : String) : Reads (ofText text) := by
  unfold ofText
  split
  · split
    · exact .ok _
    · exact .format _
  · exact .format _

theorem ofJson_reads (v : Json) : Reads (ofJson v) := by
  unfold ofJson
  split
  · exact ofText_reads _
  · exact .shape _

theorem leaderOfText_reads (body : String) : Reads (leaderOfText body) := by
  unfold leaderOfText
  split
  · unfold leaderOfJson
    split
    · split
      · exact .ok _
      · split
        · exact .ok _
        · rename_i failure failed
          exact .error (ofText_reads _ failure failed)
    · exact .shape _
  · rename_i failure failed
    exact .error (Json.ofText_reads body failure failed)

end Peer

theorem PeerSet.ofText_reads (body : String) : Reads (PeerSet.ofText body) := by
  unfold PeerSet.ofText
  split
  · unfold PeerSet.ofJson
    split
    · exact .shape _
    · split
      · exact .ok _
      · rename_i failure failed
        exact .error (decodeAll_reads Peer.ofJson_reads _ failure failed)
    · exact .shape _
  · rename_i failure failed
    exact .error (Json.ofText_reads body failure failed)

theorem Client.verdict_reads (emptyIsYes : Bool) (body : String) : Reads (Client.verdict emptyIsYes body) := by
  unfold Client.verdict
  dsimp only
  split
  · exact .ok _
  · split
    · exact .ok _
    · split
      · exact .ok _
      · exact .format _

end ClusterClient
