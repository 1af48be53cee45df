import ClusterClient.Proofs.Calls
import ClusterClient.Proofs.Server
namespace ClusterClient
open Http (Method Request Reply)

def silent (decode : String → Except Failure α) (text : String) : Except Failure Unit :=
  (decode text).map fun _ => ()

theorem silent_ok {decode : String → Except Failure α} {text : String} :
    silent decode text = .ok () ↔ ∃ x, decode text = .ok x := by
  unfold silent
  cases decode text <;> simp [Except.map]

namespace Client

def entryCall (client : Client) (method : Method) (key : String) (query : Query) (body : List UInt8)
    (decode : String → Except Failure α) : Call :=
  { endpoint := .keyValue key
    method
    url := client.entryUrl key query
    naming := client.naming
    body
    reads := silent decode }

def plainCall (client : Client) (endpoint : Endpoint) (decode : String → Except Failure α) : Call :=
  { endpoint, method := .get, url := client.url endpoint, naming := client.naming, reads := silent decode }

def anyText : String → Except Failure String := .ok

end Client

-- A call as clients make them. Whether it is sent depends on the address of the agent alone, and a
-- reply of success is refused for what it says alone.
structure Call.Proper (call : Call) (client : Client) : Prop where
  named : client.agent.Current → (Http.cut? call.naming call.url).isSome = client.agent.namesServer client.naming
  reads : ∀ text, Reads (call.reads text)

theorem attempts_named {client : Client} {calls : List Call} (proper : ∀ call ∈ calls, call.Proper client)
    (current : client.agent.Current) {script : List (Option Reply)} :
    ∀ attempt ∈ attempts calls script, (attempt.exchange? client).isSome = client.agent.namesServer client.naming := by
  intro attempt made
  simp only [Attempt.exchange?,Call.request?,Option.isSome_map]
  exact (proper attempt.call (mem_attempts made)).named current

theorem Batch.ofBody_reads (policy : MissingFields) (recurse : Bool) (body : String) :
    Reads (Batch.ofBody policy recurse body) := by
  refine (Batch.ofText_reads policy body).bind fun batch => ?_
  exact (batch.checkRecurse_reads recurse).bind fun _ => .ok batch

namespace Client

theorem entryCall_proper (client : Client) (method : Method) (key : String) (query : Query) (body : List UInt8)
    {decode : String → Except Failure α} (reads : ∀ text, Reads (decode text)) :
    (client.entryCall method key query body decode).Proper client := by
  constructor
  · intro current
    dsimp only [entryCall]
    exact cut?_entryUrl current key query
  · exact fun text => (reads text).map _

theorem entryCall_reads (client : Client) (method : Method) (key : String) (query : Query) (body : List UInt8)
    (decode : String → Except Failure α) : (client.entryCall method key query body decode).reads = silent decode := rfl

theorem entryCall_passed {client : Client} {method : Method} {key : String} {query : Query} {body : List UInt8}
    {decode : String → Except Failure α} {attempt : Attempt}
    (made : attempt.call = client.entryCall method key query body decode) :
    attempt.fate = .passed ↔
      ∃ reply, attempt.answer = some reply ∧ reply.isSuccess = true ∧ ∃ x, decode reply.text = .ok x := by
  simp only [Attempt.fate_passed,made,entryCall_reads,silent_ok]

theorem plainCall_proper (client : Client) (endpoint : Endpoint) {decode : String → Except Failure α}
    (reads : ∀ text, Reads (decode text)) : (client.plainCall endpoint decode).Proper client := by
  constructor
  · exact fun current => cut?_url current endpoint
  · exact fun text => (reads text).map _

theorem anyText_reads (text : String) : Reads (anyText text) := .ok text

theorem makes_text (client : Client) (method : Method) (endpoint : Endpoint) (url : String) (body : List UInt8) :
    client.Makes (client.send method endpoint url body) [⟨endpoint,method,url,client.naming,body,silent anyText⟩] := by
  rw [← bind_pure (client.send method endpoint url body)]
  refine makes_counted ?_
  intro text files script
  exact ⟨rfl,rfl,rfl⟩

theorem countedDecode_silent (decode : String → Except Failure α) (text : String) :
    countedDecode (silent decode text) = countedDecode (decode text) := by
  rw [silent]
  cases decode text <;> rfl

theorem makes_decoded (client : Client) (method : Method) (endpoint : Endpoint) (url : String) (body : List UInt8)
    (decode : String → Except Failure α) :
    client.Makes (client.send method endpoint url body >>= fun text => decoded (decode text))
      [⟨endpoint,method,url,client.naming,body,silent decode⟩] := by
  refine makes_counted ?_
  intro text files script
  rw [play_decoded]
  exact ⟨rfl,(countedDecode_silent decode text).symm,rfl⟩

theorem makes_entry (client : Client) (method : Method) (key : String) (query : Query) (body : List UInt8)
    (decode : String → Except Failure α) :
    client.Makes
      (client.send method (.keyValue key) (client.entryUrl key query) body >>= fun text => decoded (decode text))
      [client.entryCall method key query body decode] :=
  client.makes_decoded method (.keyValue key) (client.entryUrl key query) body decode

theorem makes_plain (client : Client) (endpoint : Endpoint) (decode : String → Except Failure α) :
    client.Makes (client.send .get endpoint (client.url endpoint) [] >>= fun text => decoded (decode text))
      [client.plainCall endpoint decode] :=
  client.makes_decoded .get endpoint (client.url endpoint) [] decode

end Client

inductive Operation where
  | getText (key : String) (query : Query)
  | get (key : String) (query : Query)
  | put (key : String) (value : List UInt8) (query : Query)
  | delete (key : String) (query : Query)
  | leaderText
  | leader
  | peersText
  | peers
  | clusterPeers
  | selfText
  | self
  | selfLines
  | ping

inductive Word where
  | text (text : String)
  | batch (batch : Batch)
  | verdict (b : Bool)
  | peer (peer : Peer)
  | peers (set : PeerSet)
  | document (doc : Json)
  | lines (lines : List String)

namespace Operation

def carryOut (client : Client) : Operation → Exchange Word
  | .getText key query => do return .text (← client.getText key query)
  | .get key query => do return .batch (← client.get key query)
  | .put key value query => do return .verdict (← client.put key value query)
  | .delete key query => do return .verdict (← client.delete key query)
  | .leaderText => do return .text (← client.leaderText)
  | .leader => do return .peer (← client.leader)
  | .peersText => do return .text (← client.peersText)
  | .peers => do return .peers (← client.peers)
  | .clusterPeers => do return .peers (← client.clusterPeers)
  | .selfText => do return .text (← client.selfText)
  | .self => do return .document (← client.self)
  | .selfLines => do return .lines (← client.selfLines)
  | .ping => do return .verdict (← (client.ping : Dialog Bool))

def calls (client : Client) : Operation → List Call
  | .getText key query => [client.entryCall .get key query [] Client.anyText]
  | .get key query => [client.entryCall .get key query [] (Batch.ofBody client.policy query.recurse)]
  | .put key value query => [client.entryCall .put key query value (Client.verdict false)]
  | .delete key query => [client.entryCall .delete key query [] (Client.verdict true)]
  | .leaderText => [client.plainCall .leader Client.anyText]
  | .leader => [client.plainCall .leader Peer.leaderOfText]
  | .peersText => [client.plainCall .peers Client.anyText]
  | .peers => [client.plainCall .peers PeerSet.ofText]
  | .clusterPeers => [client.plainCall .leader Peer.leaderOfText, client.plainCall .peers PeerSet.ofText]
  | .selfText => [client.plainCall .self Client.anyText]
  | .self => [client.plainCall .self Json.ofText]
  | .selfLines => [client.plainCall .self Json.ofText]
  | .ping => [client.plainCall .self Client.anyText]

theorem calls_proper (client : Client) (operation : Operation) :
    ∀ call ∈ operation.calls client, call.Proper client := by
  have one : ∀ call : Call, call.Proper client → ∀ other ∈ [call], other.Proper client :=
    fun call proper => List.forall_mem_singleton.mpr proper
  have leader := client.plainCall_proper .leader Peer.leaderOfText_reads
  have peers := client.plainCall_proper .peers PeerSet.ofText_reads
  cases operation with
  | getText key query => exact one _ (client.entryCall_proper .get key query [] Client.anyText_reads)
  | get key query => exact one _ (client.entryCall_proper .get key query [] (Batch.ofBody_reads _ _))
  | put key value query => exact one _ (client.entryCall_proper .put key query value (Client.verdict_reads false))
  | delete key query => exact one _ (client.entryCall_proper .delete key query [] (Client.verdict_reads true))
  | leaderText => exact one _ (client.plainCall_proper .leader Client.anyText_reads)
  | leader => exact one _ leader
  | peersText => exact one _ (client.plainCall_proper .peers Client.anyText_reads)
  | peers => exact one _ peers
  | clusterPeers => exact List.forall_mem_cons.mpr ⟨leader,one _ peers⟩
  | selfText => exact one _ (client.plainCall_proper .self Client.anyText_reads)
  | self => exact one _ (client.plainCall_proper .self Json.ofText_reads)
  | selfLines => exact one _ (client.plainCall_proper .self Json.ofText_reads)
  | ping => exact one _ (client.plainCall_proper .self Client.anyText_reads)

end Operation

namespace Client
variable {client : Client}

theorem Makes.returning {exchange : Exchange α} {calls : List Call} {counts : Attempt → List Measure}
    (makes : client.Makes exchange calls counts) (f : α → β) :
    client.Makes (exchange >>= fun x => pure (f x)) calls counts := by
  rw [← List.append_nil calls]
  exact makes.bind fun _ => makes_nothing fun _ _ => ⟨rfl,rfl,rfl⟩

theorem makes_leader (client : Client) : client.Makes client.leader [client.plainCall .leader Peer.leaderOfText] :=
  client.makes_plain .leader Peer.leaderOfText

theorem makes_peers (client : Client) : client.Makes client.peers [client.plainCall .peers PeerSet.ofText] :=
  client.makes_plain .peers PeerSet.ofText

theorem makes_self (client : Client) : client.Makes client.self [client.plainCall .self Json.ofText] :=
  client.makes_plain .self Json.ofText

theorem makes_clusterPeers (client : Client) :
    client.Makes client.clusterPeers
      [client.plainCall .leader Peer.leaderOfText, client.plainCall .peers PeerSet.ofText] :=
  client.makes_leader.bind fun leader => client.makes_peers.returning fun peers => (peers.markLeader leader).2

theorem makes_get (client : Client) (key : String) (query : Query) :
    client.Makes (client.get key query) [client.entryCall .get key query [] (Batch.ofBody client.policy query.recurse)] := by
  rw [get_eq_read]
  exact client.makes_entry .get key query [] (Batch.ofBody client.policy query.recurse)

theorem makes_put (client : Client) (key : String) (value : List UInt8) (query : Query) :
    client.Makes (client.put key value query) [client.entryCall .put key query value (verdict false)] := by
  rw [put]
  exact client.makes_entry .put key query value (verdict false)

theorem makes_delete (client : Client) (key : String) (query : Query) :
    client.Makes (client.delete key query) [client.entryCall .delete key query [] (verdict true)] := by
  rw [delete]
  exact client.makes_entry .delete key query [] (verdict true)

theorem makes_getText (client : Client) (key : String) (query : Query) :
    client.Makes (client.getText key query) [client.entryCall .get key query [] anyText] :=
  client.makes_text .get (.keyValue key) (client.entryUrl key query) []

theorem makes_leaderText (client : Client) : client.Makes client.leaderText [client.plainCall .leader anyText] :=
  client.makes_text .get .leader (client.url .leader) []

theorem makes_peersText (client : Client) : client.Makes client.peersText [client.plainCall .peers anyText] :=
  client.makes_text .get .peers (client.url .peers) []

theorem makes_selfText (client : Client) : client.Makes client.selfText [client.plainCall .self anyText] :=
  client.makes_text .get .self (client.url .self) []

-- A ping tells whether a call passed, and keeps why it did not to itself.
theorem ping_eq (client : Client) : client.ping = client.selfText.run >>= fun word => pure word.isOk := by
  unfold ping
  congr 1
  funext word
  cases word <;> rfl

theorem play_ping (client : Client) (files : String → Found) (script : List (Option Reply)) :
    client.ping.play files script =
      { client.selfText.run.play files script with
        result := (ended (attempts [client.plainCall .self anyText] script)).isOk } := by
  rw [ping_eq,Dialog.play_map,← (client.makes_selfText files script).result]
  cases (client.selfText.run.play files script).result <;> rfl

end Client

namespace Operation
variable {client : Client}

theorem carryOut_ping (client : Client) :
    (carryOut client .ping).run = client.ping >>= fun b => pure (.ok (.verdict b)) :=
  ExceptT.run_bind_lift client.ping fun b => pure (Word.verdict b)

theorem carryOut_makes (client : Client) {operation : Operation} (other : operation ≠ .ping) :
    client.Makes (operation.carryOut client) (operation.calls client) := by
  unfold carryOut calls
  cases operation with
  | getText key query => exact (client.makes_getText key query).returning Word.text
  | get key query => exact (client.makes_get key query).returning Word.batch
  | put key value query => exact (client.makes_put key value query).returning Word.verdict
  | delete key query => exact (client.makes_delete key query).returning Word.verdict
  | leaderText => exact client.makes_leaderText.returning Word.text
  | leader => exact client.makes_leader.returning Word.peer
  | peersText => exact client.makes_peersText.returning Word.text
  | peers => exact client.makes_peers.returning Word.peers
  | clusterPeers => exact client.makes_clusterPeers.returning Word.peers
  | selfText => exact client.makes_selfText.returning Word.text
  | self => exact client.makes_self.returning Word.document
  | selfLines => exact (client.makes_self.returning SelfReport.lines).returning Word.lines
  | ping => exact absurd rfl other

theorem play_ping (client : Client) (files : String → Found) (script : List (Option Reply)) :
    (carryOut client .ping).run.play files script =
      { client.selfText.run.play files script with
        result := .ok (.verdict (ended (attempts [client.plainCall .self Client.anyText] script)).isOk) } := by
  rw [carryOut_ping,Dialog.play_map,Client.play_ping]

theorem carryOut_calls (client : Client) (operation : Operation) (files : String → Found)
    (script : List (Option Reply)) :
    let t := (operation.carryOut client).run.play files script
    t.exchanges = (attempts (operation.calls client) script).filterMap (·.exchange? client) ∧
      t.measures = (attempts (operation.calls client) script).flatMap Attempt.measures := by
  dsimp only
  by_cases ping : operation = .ping
  · subst ping
    obtain ⟨sent,counted,_⟩ := client.makes_selfText files script
    rw [play_ping]
    exact ⟨sent,counted⟩
  · obtain ⟨sent,counted,_⟩ := carryOut_makes client ping files script
    exact ⟨sent,counted⟩

end Operation

namespace Client

-- Operations one after another. A failure of one does not keep the next from being carried out.
def carryOutAll (client : Client) : List Operation → Dialog (List (Except Failure Word))
  | [] => return []
  | operation :: later => do
    let word ← (operation.carryOut client).run
    let words ← client.carryOutAll later
    return word :: words

def made (client : Client) : List Operation → List (Option Reply) → List Attempt
  | [], _ => []
  | operation :: later, script =>
    let here := attempts (operation.calls client) script
    here ++ client.made later (script.drop (here.filterMap (·.exchange? client)).length)

theorem play_carryOutAll (client : Client) (operation : Operation) (later : List Operation)
    (files : String → Found) (script : List (Option Reply)) :
    let first := (operation.carryOut client).run.play files script
    let rest := (client.carryOutAll later).play files (script.drop first.exchanges.length)
    (client.carryOutAll (operation :: later)).play files script =
      first.followedBy { rest with result := first.result :: rest.result } := by
  rw [carryOutAll,Dialog.play_bind,Dialog.play_map]

theorem carryOutAll_calls (client : Client) (operations : List Operation) (files : String → Found)
    (script : List (Option Reply)) :
    ((client.carryOutAll operations).play files script).exchanges =
        (client.made operations script).filterMap (·.exchange? client) ∧
      ((client.carryOutAll operations).play files script).measures =
        (client.made operations script).flatMap Attempt.measures := by
  induction operations generalizing script with
  | nil => exact ⟨rfl,rfl⟩
  | cons operation later ih =>
    obtain ⟨sent,counted⟩ := operation.carryOut_calls client files script
    obtain ⟨restSent,restCounted⟩ :=
      ih (script.drop ((attempts (operation.calls client) script).filterMap (·.exchange? client)).length)
    rw [play_carryOutAll,made,List.filterMap_append,List.flatMap_append,← restSent,← restCounted,← sent,← counted]
    exact ⟨rfl,rfl⟩

end Client

end ClusterClient
