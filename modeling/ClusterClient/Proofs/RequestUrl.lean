import ClusterClient.Client
import ClusterClient.Proofs.Entry.Query
namespace ClusterClient

namespace Agent

def PlainInKey (c : Char) : Prop := Percent.Unreserved c ∨ c = '/'

instance : DecidablePred PlainInKey := fun _ => inferInstanceAs (Decidable (_ ∨ _))

theorem keepsInKey_plain {c : Char} (kept : keepsInKey c = true) : PlainInKey c :=
  (Bool.or_eq_true_iff.mp kept).imp Percent.isUnreserved_iff.mp beq_iff_eq.mp

theorem encodeKey_toList (key : String) : (encodeKey key).toList = Percent.encode keepsInKey key.toList := by
  rw [encodeKey,String.toList_ofList]

theorem encodeKey_coded (key : String) : Percent.Coded PlainInKey (encodeKey key).toList := by
  rw [encodeKey_toList]
  exact Percent.encode_coded (fun _ kept => keepsInKey_plain kept) _

theorem encodeKey_free (key : String) : '?' ∉ (encodeKey key).toList := by
  intro member
  have allowed := (encodeKey_coded key).mem member
  revert allowed
  decide

theorem encodeKey_decoded (key : String) : Percent.decode? (encodeKey key).toList = some (Utf8.bytes key) := by
  rw [encodeKey_toList]
  exact Percent.decode?_encode (by decide) _

theorem encodeKey_injective : Function.Injective encodeKey := by
  intro key other same
  have lists := congrArg String.toList same
  rw [encodeKey_toList,encodeKey_toList] at lists
  exact String.toList_injective (Percent.encode_injective (by decide) lists)

theorem split_encodeKey (key : String) :
    Text.split '/' (encodeKey key).toList = (Text.split '/' key.toList).map (Percent.encode keepsInKey) := by
  rw [encodeKey_toList]
  refine Text.split_flatMap (by rfl) ?_ _
  intro c other
  split
  · rw [List.mem_singleton]
    exact Ne.symm other
  · intro member
    have coded := (Percent.bytes_coded (fun _ => False) (String.utf8EncodeChar c)).mem member
    revert coded
    decide

theorem levels_decoded (key : String) :
    (Text.split '/' (encodeKey key).toList).map Percent.decode? =
      (Text.split '/' key.toList).map (fun level => some (Utf8.encode level)) := by
  rw [split_encodeKey,List.map_map]
  refine List.map_congr_left ?_
  intro level _
  exact Percent.decode?_encode (by decide) level

theorem url_keyValue (agent : Agent) (key : String) :
    (agent.url (.keyValue key)).1 = agent.keyValueFront.1 ++ encodeKey key := by
  have empty : encodeKey "" = "" := rfl
  simp only [url,keyValueFront,empty,String.append_empty]

end Agent

namespace Client

-- What a query asks of this client's agent: the agent's cluster stands in for one that is not set,
-- and an empty text counts as not set.
def asked (client : Client) (query : Query) : Query :=
  { query with
    cluster := Query.setText (query.cluster.or client.agent.cluster)
    acquire := Query.setText query.acquire
    release := Query.setText query.release }

def tail (client : Client) (query : Query) : String :=
  if client.asked query = {} then "" else "?" ++ (client.asked query).text

theorem asked_eq_meant (client : Client) (query : Query) :
    client.asked query = (query.withDefaultCluster client.agent.cluster).meant := by
  unfold Query.withDefaultCluster
  split
  · rename_i cluster named
    rw [asked,Query.meant,named]
    rfl
  · rename_i unnamed
    rw [asked,unnamed]
    rfl

theorem asked_text (client : Client) (query : Query) :
    (query.withDefaultCluster client.agent.cluster).text = (client.asked query).text := by
  rw [asked_eq_meant,Query.text_meant]

theorem asked_empty {client : Client} {query : Query} : (client.asked query).text = "" ↔ client.asked query = {} := by
  rw [← asked_text,Query.text_eq_empty,Query.given_eq_nil,asked_eq_meant]

theorem apply_tail (client : Client) (query : Query) (url : String) :
    (query.withDefaultCluster client.agent.cluster).apply url = url ++ client.tail query := by
  rw [Query.apply,asked_text,tail]
  by_cases empty : client.asked query = {}
  · rw [if_pos (asked_empty.mpr empty),if_pos empty,String.append_empty]
  · rw [if_neg (mt asked_empty.mp empty),if_neg empty,String.append_assoc]

theorem entryUrl_eq (client : Client) (key : String) (query : Query) :
    client.entryUrl key query = client.agent.keyValueFront.1 ++ (Agent.encodeKey key ++ client.tail query) := by
  rw [entryUrl,apply_tail,url,Agent.url_keyValue,String.append_assoc]

theorem tail_cut (client : Client) (query : Query) : Text.Cut '?' (client.tail query).toList := by
  intro c first
  rw [tail] at first
  split at first
  · cases first
  · rw [String.toList_append] at first
    exact (Option.some.inj first).symm

theorem tail_toList (client : Client) (query : Query) :
    (client.tail query).toList.drop 1 = (client.asked query).text.toList := by
  rw [tail]
  split
  · rename_i nothing
    rw [asked_empty.mpr nothing]
    rfl
  · rw [String.toList_append]
    rfl

theorem tail_eq_iff {client : Client} {query other : Query} :
    client.tail query = client.tail other ↔ client.asked query = client.asked other := by
  constructor
  · intro same
    have lists := client.tail_toList query
    rw [same,tail_toList] at lists
    have texts := String.toList_injective lists
    rw [← asked_text,← asked_text,Query.text_eq_iff] at texts
    rw [asked_eq_meant,asked_eq_meant,texts]
  · intro same
    rw [tail,tail,same]

theorem entryUrl_eq_iff {client : Client} {key other : String} {query query' : Query} :
    client.entryUrl key query = client.entryUrl other query' ↔
      key = other ∧ client.asked query = client.asked query' := by
  constructor
  · intro same
    have lists := congrArg String.toList same
    simp only [entryUrl_eq,String.toList_append] at lists
    have behind := List.append_cancel_left lists
    obtain ⟨keys,tails⟩ := (Text.cut_unique (Agent.encodeKey_free key) (Agent.encodeKey_free other)
      (client.tail_cut query) (client.tail_cut query')).mp behind
    exact ⟨Agent.encodeKey_injective (String.toList_injective keys),tail_eq_iff.mp (String.toList_injective tails)⟩
  · rintro ⟨rfl,asks⟩
    rw [entryUrl_eq,entryUrl_eq,tail_eq_iff.mpr asks]

-- A URL is the agent's front, the coded key, and a question mark with the parameters if there are
-- any. The first question mark behind the front ends the key, so the URL tells both apart.
theorem entryUrl_identifies (client : Client) :
    (∀ key query, client.entryUrl key query =
      client.agent.keyValueFront.1 ++ (Agent.encodeKey key ++
        if client.asked query = {} then "" else "?" ++ (client.asked query).text)) ∧
    (∀ key, Percent.Coded Agent.PlainInKey (Agent.encodeKey key).toList ∧
      Percent.decode? (Agent.encodeKey key).toList = some (Utf8.bytes key) ∧
      (Text.split '/' (Agent.encodeKey key).toList).map Percent.decode? =
        (Text.split '/' key.toList).map (fun level => some (Utf8.encode level))) ∧
    (∀ query, '?' ∉ (client.asked query).text.toList) ∧
    (∀ key other query query', client.entryUrl key query = client.entryUrl other query' ↔
      key = other ∧ client.asked query = client.asked query') := by
  refine ⟨client.entryUrl_eq,?_,?_,fun _ _ _ _ => entryUrl_eq_iff⟩
  · intro key
    exact ⟨Agent.encodeKey_coded key,Agent.encodeKey_decoded key,Agent.levels_decoded key⟩
  · intro query
    exact Query.text_free _

example : Client.entryUrl { agent := Agent.loopback.setCluster "dc1" } "a/b?dc=x" {} =
    "http://127.0.0.1:8500/v1/kv/a/b%3Fdc%3Dx?dc=dc1" := by
  decide +kernel

end Client
end ClusterClient
