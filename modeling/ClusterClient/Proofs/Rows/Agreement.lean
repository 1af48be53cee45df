import ClusterClient.Proofs.Decimal
import ClusterClient.Proofs.Dialog
import ClusterClient.Proofs.Rows.Drain
import ClusterClient.Rows.Table
namespace ClusterClient

def Batch.ofBody (policy : MissingFields) (recurse : Bool) (body : String) : Except Failure Batch := do
  let batch ← Batch.ofText policy body
  batch.checkRecurse recurse
  return batch

def PeerSet.ofBodies (leaderBody peersBody : String) : Except Failure PeerSet := do
  let leader ← Peer.leaderOfText leaderBody
  let set ← PeerSet.ofText peersBody
  return (set.markLeader leader).2

def Batch.rows (batch : Batch) : List EntryRow := batch.entries.map EntryRow.ofEntry

def PeerSet.rows (set : PeerSet) : List PeerRow := set.peers.map PeerRow.ofPeer

namespace Client
open Http (Reply)
variable {client : Client} {files : String → Found} {more : List (Option Reply)}

theorem get_eq_read (client : Client) (key : String) (query : Query) :
    client.get key query =
      client.getText key query >>= fun body => decoded (Batch.ofBody client.policy query.recurse body) := by
  unfold get
  congr 1
  funext body
  unfold Batch.ofBody
  cases Batch.ofText client.policy body with
  | error failure => rfl
  | ok batch =>
    change _ = decoded (batch.checkRecurse query.recurse >>= fun _ => .ok batch)
    change (decoded (batch.checkRecurse query.recurse) >>= fun _ => pure batch) = _
    cases batch.checkRecurse query.recurse <;> rfl

theorem get_answered {key : String} {query : Query} {reply : Reply} {body : String}
    (server : (Http.cut? client.naming (client.entryUrl key query)).isSome) (carries : Carries reply body) :
    ((client.get key query).run.play files (some reply :: more)).result =
      Batch.ofBody client.policy query.recurse body := by
  obtain ⟨⟨authority,target⟩,cut⟩ := Option.isSome_iff_exists.mp server
  rw [get_eq_read,getText,play_read cut carries]

theorem clusterPeers_answered {leaderReply peersReply : Reply} {leaderBody peersBody : String}
    (leaderServer : (Http.cut? client.naming (client.url .leader)).isSome)
    (peersServer : (Http.cut? client.naming (client.url .peers)).isSome)
    (carriesLeader : Carries leaderReply leaderBody) (carriesPeers : Carries peersReply peersBody) :
    (client.clusterPeers.run.play files (some leaderReply :: some peersReply :: more)).result =
      PeerSet.ofBodies leaderBody peersBody := by
  obtain ⟨⟨leaderAuthority,leaderTarget⟩,leaderCut⟩ := Option.isSome_iff_exists.mp leaderServer
  obtain ⟨⟨peersAuthority,peersTarget⟩,peersCut⟩ := Option.isSome_iff_exists.mp peersServer
  have leaderRead : client.leader.run.play files (some leaderReply :: some peersReply :: more) = _ :=
    play_read leaderCut carriesLeader Peer.leaderOfText
  have peersRead : client.peers.run.play files (some peersReply :: more) = _ :=
    play_read peersCut carriesPeers PeerSet.ofText
  have leaderResult := congrArg Transcript.result leaderRead
  have peersResult := congrArg Transcript.result peersRead
  unfold clusterPeers PeerSet.ofBodies
  cases readLeader : Peer.leaderOfText leaderBody with
  | error failure =>
    rw [readLeader] at leaderResult
    rw [Exchange.play_error leaderResult,Transcript.followedBy_result]
    rfl
  | ok leader =>
    rw [readLeader] at leaderResult
    rw [Exchange.play_ok leaderResult,leaderRead,Transcript.followedBy_result]
    simp only [List.length_singleton,List.drop_succ_cons,List.drop_zero]
    -- The leader's reply has been used up, so this is the second one.
    cases readPeers : PeerSet.ofText peersBody with
    | error failure =>
      rw [readPeers] at peersResult
      rw [Exchange.play_error peersResult,Transcript.followedBy_result]
      rfl
    | ok set =>
      rw [readPeers] at peersResult
      rw [Exchange.play_ok peersResult,Transcript.followedBy_result]
      rfl

end Client

namespace RowSet

theorem decodeEntries_eq_map (body : String) (recurse : Bool) (policy : MissingFields) :
    decodeEntries body recurse policy = (Batch.ofBody policy recurse body).map Batch.rows := by
  unfold decodeEntries Batch.ofBody
  cases Batch.ofText policy body with
  | error failure => rfl
  | ok batch =>
    change (batch.checkRecurse recurse >>= fun _ => .ok batch.rows) =
      (batch.checkRecurse recurse >>= fun _ => .ok batch).map Batch.rows
    cases batch.checkRecurse recurse <;> rfl

theorem decodePeers_eq_map (leaderBody peersBody : String) :
    decodePeers leaderBody peersBody = (PeerSet.ofBodies leaderBody peersBody).map PeerSet.rows := by
  unfold decodePeers PeerSet.ofBodies
  cases Peer.leaderOfText leaderBody with
  | error failure => rfl
  | ok leader =>
    cases PeerSet.ofText peersBody <;> rfl

end RowSet

-- A value is shown as text, and that is all of an entry that its row may lose.
theorem EntryRow.ofEntry_unique {e other : Entry} (shown : Utf8.replacement ∉ e.valueText.toList)
    (same : ofEntry other = ofEntry e) : other = e := by
  have word : ∀ {n m : UInt64}, Entry.word n = Entry.word m → n = m :=
    fun same => UInt64.toNat_inj.mp (Decimal.text_injective same)
  obtain ⟨created,modified,locked,flags,session,key,value⟩ := e
  obtain ⟨created',modified',locked',flags',session',key',value'⟩ := other
  simp only [ofEntry,EntryRow.mk.injEq] at same
  obtain ⟨sameKey,sameValue,sameFlags,sameCreated,sameModified,sameLocked,sameSession⟩ := same
  rw [sameKey,(Utf8.decode_unique_iff value).mpr shown value' sameValue,word sameFlags,word sameCreated,
    word sameModified,word sameLocked,sameSession]

theorem EntryRow.map_unique {entries others : List Entry}
    (shown : ∀ e ∈ entries, Utf8.replacement ∉ e.valueText.toList)
    (same : others.map ofEntry = entries.map ofEntry) : others = entries := by
  induction entries generalizing others with
  | nil => exact List.map_eq_nil_iff.mp same
  | cons e rest ih =>
    obtain ⟨here,there⟩ := List.forall_mem_cons.mp shown
    obtain ⟨other,later,rfl,first,behind⟩ := List.map_eq_cons_iff.mp same
    rw [ofEntry_unique here first,ih there behind]

theorem Batch.rows_unique_iff (batch : Batch) :
    (∀ other : Batch, other.rows = batch.rows → other = batch) ↔
      ∀ e ∈ batch.entries, Utf8.replacement ∉ e.valueText.toList := by
  obtain ⟨entries⟩ := batch
  constructor
  · intro unique e member
    refine (Utf8.decode_unique_iff e.value).mp ?_
    intro value same
    -- The entry with another value of the same text makes a batch with the same rows.
    obtain ⟨front,back,rfl⟩ := List.append_of_mem member
    have alike : EntryRow.ofEntry { e with value } = EntryRow.ofEntry e := by
      simp only [EntryRow.ofEntry,Entry.valueText,same]
    have equal := unique ⟨front ++ { e with value } :: back⟩ (by simp only [Batch.rows,List.map_append,List.map_cons,alike])
    have tail := List.append_cancel_left (congrArg Batch.entries equal)
    exact congrArg Entry.value (List.head_eq_of_cons_eq tail)
  · intro shown other same
    obtain ⟨others⟩ := other
    exact congrArg Batch.mk (EntryRow.map_unique shown same)

theorem PeerRow.ofPeer_injective : Function.Injective PeerRow.ofPeer := by
  intro peer other same
  obtain ⟨host,port,leader⟩ := peer
  obtain ⟨otherHost,otherPort,otherLeader⟩ := other
  simp only [PeerRow.ofPeer,Peer.portText,Agent.portText,PeerRow.mk.injEq] at same
  obtain ⟨sameHost,samePort,sameLeader⟩ := same
  rw [sameHost,sameLeader,UInt16.toNat_inj.mp (Decimal.text_injective samePort)]

theorem PeerSet.rows_injective : Function.Injective PeerSet.rows := by
  intro set other same
  obtain ⟨peers⟩ := set
  obtain ⟨otherPeers⟩ := other
  have equal : peers = otherPeers := List.map_injective_iff.mpr PeerRow.ofPeer_injective same
  rw [equal]

namespace Client
open Http (Reply)

-- The URLs name a server, or nothing would be asked. Rows give back the entries up to what they show
-- of the values, so entries whole if no value has a part that is no text; peers they give back whole.
theorem rows_tell :
    (∀ (client : Client) (key : String) (query : Query) (files : String → Found) (body : String)
        (reply : Reply) (more : List (Option Reply)),
      (Http.cut? client.naming (client.entryUrl key query)).isSome → Carries reply body →
      let result := ((client.get key query).run.play files (some reply :: more)).result
      let set := RowSet.entries body query.recurse client.policy
      set.Tells Batch.rows result ∧ (∀ batch, result = .ok batch → set.Yields batch.rows) ∧
        ∀ batch : Batch, (∀ e ∈ batch.entries, Utf8.replacement ∉ e.valueText.toList) →
          (result = .ok batch ↔ set.Yields batch.rows)) ∧
    (∀ batch : Batch, (∀ other : Batch, other.rows = batch.rows → other = batch) ↔
      ∀ e ∈ batch.entries, Utf8.replacement ∉ e.valueText.toList) ∧
    (∀ (client : Client) (files : String → Found) (leaderBody peersBody : String)
        (leaderReply peersReply : Reply) (more : List (Option Reply)),
      (Http.cut? client.naming (client.url .leader)).isSome → (Http.cut? client.naming (client.url .peers)).isSome →
      Carries leaderReply leaderBody → Carries peersReply peersBody →
      let result := (client.clusterPeers.run.play files (some leaderReply :: some peersReply :: more)).result
      (RowSet.peers leaderBody peersBody).Tells PeerSet.rows result ∧
        ∀ set, result = .ok set ↔ (RowSet.peers leaderBody peersBody).Yields set.rows) := by
  refine ⟨?_,Batch.rows_unique_iff,?_⟩
  · intro client key query files body reply more server carries
    dsimp only
    rw [get_answered server carries]
    have tells : (RowSet.entries body query.recurse client.policy).Tells Batch.rows
        (Batch.ofBody client.policy query.recurse body) :=
      RowSet.fresh_tells _ (RowSet.decodeEntries_eq_map _ _ _)
    have yields : ∀ batch, Batch.ofBody client.policy query.recurse body = .ok batch →
        (RowSet.entries body query.recurse client.policy).Yields batch.rows :=
      fun batch came => (tells.yields _).mpr ⟨batch,came,rfl⟩
    refine ⟨tells,yields,?_⟩
    intro batch shown
    refine ⟨yields batch,?_⟩
    -- The rows are those of some batch that was read. That it is this one hangs on the values alone.
    intro handed
    obtain ⟨other,came,same⟩ := (tells.yields _).mp handed
    rw [came,batch.rows_unique_iff.mpr shown other same]
  · intro client files leaderBody peersBody leaderReply peersReply more leaderServer peersServer
      carriesLeader carriesPeers
    dsimp only
    rw [clusterPeers_answered leaderServer peersServer carriesLeader carriesPeers]
    have tells : (RowSet.peers leaderBody peersBody).Tells PeerSet.rows (PeerSet.ofBodies leaderBody peersBody) :=
      RowSet.fresh_tells _ (RowSet.decodePeers_eq_map _ _)
    refine ⟨tells,?_⟩
    intro set
    rw [tells.yields]
    constructor
    · intro came
      exact ⟨set,came,rfl⟩
    · rintro ⟨other,came,same⟩
      rw [came,PeerSet.rows_injective same]

theorem rows_tell_loopback :
    let client : Client := { agent := Agent.loopback }
    let body := "[\x7b\"Key\":\"a\",\"Value\":\"AA==\"\x7d]"
    (RowSet.entries body false .tolerant).Yields [⟨"a","\x00","0","0","0","0",""⟩] ∧
      ((client.get "a" {}).run.play (fun _ => .nothing) [some (carrying body)]).result =
        .ok ⟨[{ key := "a", value := [0] }]⟩ ∧
      (RowSet.peers "\"h:1\"" "[\"g:1\",\"h:1\"]").Yields [⟨"g","1",false⟩,⟨"h","1",true⟩] := by
  intro client body
  obtain ⟨entriesTold,_,whole⟩ := rows_tell.1 client "a" {} (fun _ => .nothing) body _ [] (by decide +kernel)
    (carrying_carries body)
  have peersTold := rows_tell.2.2 client (fun _ => .nothing) "\"h:1\"" "[\"g:1\",\"h:1\"]" _ _ []
    (by decide +kernel) (by decide +kernel) (carrying_carries _) (carrying_carries _)
  let batch : Batch := ⟨[{ key := "a", value := [0] }]⟩
  have shown : batch.rows = [⟨"a","\x00","0","0","0","0",""⟩] := by decide +kernel
  have handed := (entriesTold.yields batch.rows).mpr ⟨batch,by decide +kernel,rfl⟩
  refine ⟨?_,(whole batch (by decide +kernel)).mpr handed,?_⟩
  · rw [← shown]
    exact handed
  · refine (peersTold.1.yields _).mpr ⟨⟨[⟨"g",1,false⟩,⟨"h",1,true⟩]⟩,?_,?_⟩
    · decide +kernel
    · decide +kernel

-- Neither of these bytes is text, so the two values share a row. It is handed out for the one that is
-- listed and might as well stand for the other.
theorem rows_blur :
    let client : Client := { agent := Agent.loopback }
    let body := "[\x7b\"Key\":\"k\",\"Value\":\"/w==\"\x7d]"
    let reply : Reply := { status := 200, body := Utf8.bytes body }
    let result := ((client.get "k" {}).run.play (fun _ => .nothing) [some reply]).result
    let other : Batch := ⟨[{ key := "k", value := [0xFE] }]⟩
    result = .ok ⟨[{ key := "k", value := [0xFF] }]⟩ ∧
      ¬(result = .ok other ↔ (RowSet.entries body false .tolerant).Yields other.rows) := by
  intro client body reply result other
  have came : result = .ok ⟨[{ key := "k", value := [0xFF] }]⟩ := by decide +kernel
  have handed : (RowSet.entries body false .tolerant).Yields other.rows := by
    unfold RowSet.Yields
    decide +kernel
  refine ⟨came,?_⟩
  intro told
  have same := came.symm.trans (told.mpr handed)
  revert same
  decide

end Client
end ClusterClient
