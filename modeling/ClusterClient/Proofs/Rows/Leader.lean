import ClusterClient.Proofs.Json.Outline
import ClusterClient.Proofs.Peer.Marking
import ClusterClient.Proofs.Rows.Agreement
namespace ClusterClient

def PeerRow.address (row : PeerRow) : String := row.host ++ ":" ++ row.port

def PeerRow.leaderColumn (row : PeerRow) : String := row.fields.getLast (List.cons_ne_nil _ _)

theorem PeerRow.leaderColumn_eq (row : PeerRow) : row.leaderColumn = if row.leader then "t" else "f" := rfl

namespace Peer

theorem leaderOfJson_ok {v : Json} {leader : Peer} (read : leaderOfJson v = .ok leader) :
    ∃ text, v = .string text ∧
      (leader.leader = true → ∃ peer, ofText text = .ok peer ∧ leader = PeerSet.elect peer) := by
  cases v with
  | string text =>
    refine ⟨text,rfl,?_⟩
    simp only [leaderOfJson] at read
    split at read
    · cases read
      exact fun impossible => absurd impossible Bool.false_ne_true
    · cases addressed : ofText text with
      | error failure => simp [addressed] at read
      | ok peer =>
        simp only [addressed,Except.ok.injEq] at read
        exact fun _ => ⟨peer,rfl,read.symm⟩
  | _ => cases read

theorem leaderOfText_ok {body : String} {leader : Peer} (read : leaderOfText body = .ok leader) :
    ∃ text, Json.parse body = .ok (.string text) ∧ (leader.leader = true → ':' ∉ leader.host.toList) := by
  unfold leaderOfText Json.ofText at read
  cases parsed : Json.parse body with
  | error fault => simp [parsed] at read
  | ok v =>
    simp only [parsed] at read
    obtain ⟨text,rfl,found⟩ := leaderOfJson_ok read
    refine ⟨text,rfl,fun elected => ?_⟩
    obtain ⟨peer,addressed,rfl⟩ := found elected
    have free := free_of_ofText addressed
    exact free

theorem not_blank_of_string {body text : String} (parsed : Json.parse body = .ok (.string text)) :
    Text.allBlank body = false := by
  refine Bool.eq_false_iff.mpr fun blank => ?_
  have quote := List.all_eq_true.mp blank _ (Json.Reading.mem_of_parse_string parsed)
  exact absurd quote (by decide)

theorem leaderAddress_read {body : String} {leader : Peer} (read : leaderOfText body = .ok leader) :
    leaderAddress body = .ok (if leader.leader then some leader.text else none) := by
  obtain ⟨text,parsed,_⟩ := leaderOfText_ok read
  rw [leaderAddress,not_blank_of_string parsed,if_neg Bool.false_ne_true,read]

end Peer

namespace PeerSet

theorem findIdx_text {leader : Peer} (freeLeader : ':' ∉ leader.host.toList) {peers : List Peer}
    (free : ∀ peer ∈ peers, ':' ∉ peer.host.toList) :
    (peers.map Peer.text).findIdx (· == leader.text) = peers.findIdx (·.sameAddress leader) := by
  induction peers with
  | nil => rfl
  | cons peer rest ih =>
    obtain ⟨here,later⟩ := List.forall_mem_cons.mp free
    have same : (peer.text == leader.text) = peer.sameAddress leader := by
      rw [Bool.eq_iff_iff,beq_iff_eq,Peer.text_inj here freeLeader]
    rw [List.map_cons,List.findIdx_cons,List.findIdx_cons,same,ih later]

theorem rows_addresses (set : PeerSet) (leader : Peer) :
    (set.markLeader leader).2.rows.map PeerRow.address = set.peers.map Peer.text := by
  apply List.ext_getElem?
  intro i
  simp only [rows,List.getElem?_map,markLeader_getElem,Option.map_map]
  congr 1
  funext peer
  simp only [Function.comp_apply]
  split <;> rfl

theorem marked_column {body : String} {set : PeerSet} (decoded : ofText body = .ok set) {leader : Peer} {i : Nat}
    {row : PeerRow} (here : (set.markLeader leader).2.rows[i]? = some row) :
    row.leaderColumn = if leader.leader = true ∧ set.place leader = i then "t" else "f" := by
  rw [rows,List.getElem?_map,← markAll_single,flagged_marked decoded,Option.map_map] at here
  obtain ⟨peer,_,rfl⟩ := Option.map_eq_some_iff.mp here
  simp [PeerRow.leaderColumn_eq,PeerRow.ofPeer,elects_single]

theorem marked_once {body : String} {set : PeerSet} (decoded : ofText body = .ok set) (leader : Peer) :
    (set.markLeader leader).2.rows.countP (·.leaderColumn == "t") ≤ 1 := by
  have flagged : (fun peer => (PeerRow.ofPeer peer).leaderColumn == "t") = fun peer : Peer => peer.leader := by
    funext peer
    rw [PeerRow.leaderColumn_eq,PeerRow.ofPeer]
    cases peer.leader <;> rfl
  rw [rows,List.countP_map,Function.comp_def,flagged,← markAll_single,single_marked decoded]
  intro i j before _ both
  simp only [elects_single] at both
  omega

end PeerSet

namespace RowSet
variable {leaderBody peersBody : String} {rows : List PeerRow}

theorem peers_yield (drained : (peers leaderBody peersBody).Yields rows) :
    ∃ leader set, Peer.leaderOfText leaderBody = .ok leader ∧ PeerSet.ofText peersBody = .ok set ∧
      rows = (set.markLeader leader).2.rows := by
  have decoded := (yields_exact _ _ _).mp drained
  change decodePeers leaderBody peersBody = .ok rows at decoded
  obtain ⟨leader,readLeader,decoded⟩ := bind_eq_ok.mp decoded
  obtain ⟨set,readSet,decoded⟩ := bind_eq_ok.mp decoded
  cases decoded
  exact ⟨leader,set,readLeader,readSet,rfl⟩

-- Of the rows at the leader's address the first one is marked, and no other row is.
theorem peers_tell_leader (drained : (peers leaderBody peersBody).Yields rows) :
    ∃ told set, Peer.leaderAddress leaderBody = .ok told ∧ PeerSet.ofText peersBody = .ok set ∧
      rows.map PeerRow.address = set.peers.map Peer.text ∧
      (told = none → ∀ row ∈ rows, row.leaderColumn = "f") ∧
      (∀ address, told = some address → ∀ (i : Nat) row, rows[i]? = some row →
        row.leaderColumn = if rows.findIdx (·.address == address) = i then "t" else "f") ∧
      rows.countP (·.leaderColumn == "t") ≤ 1 := by
  obtain ⟨leader,set,readLeader,readSet,rfl⟩ := peers_yield drained
  have addresses := set.rows_addresses leader
  refine ⟨_,set,Peer.leaderAddress_read readLeader,readSet,addresses,?_,?_,PeerSet.marked_once readSet leader⟩
  · intro none row member
    obtain ⟨i,here⟩ := List.getElem?_of_mem member
    have unelected : leader.leader ≠ true := fun elected => by simp [elected] at none
    simp [PeerSet.marked_column readSet here,unelected]
  · intro address told i row here
    have elected : leader.leader = true := by
      by_contra unelected
      simp [unelected] at told
    rw [if_pos elected,Option.some.injEq] at told
    subst told
    obtain ⟨_,_,free⟩ := Peer.leaderOfText_ok readLeader
    -- The mark was put by host and port. No host here holds a colon, so the addresses agree where
    -- those do.
    have place : (set.markLeader leader).2.rows.findIdx (·.address == leader.text) = set.place leader := by
      rw [PeerSet.place,← PeerSet.findIdx_text (free elected) (PeerSet.decoded_free readSet),← addresses,
        List.findIdx_map]
      rfl
    rw [PeerSet.marked_column readSet here,place]
    simp [elected]

theorem peers_tell_leader_twice :
    let rows : List PeerRow := [⟨"b","1",false⟩, ⟨"a","1",true⟩, ⟨"a","1",false⟩]
    (peers "\"a::1\"" "[\"b:1\",\"a:01\",\"a:::+1\"]").Yields rows ∧
      Peer.leaderAddress "\"a::1\"" = .ok (some "a:1") ∧
      ∀ (i : Nat) row, rows[i]? = some row → row.leaderColumn = if i = 1 then "t" else "f" := by
  intro rows
  have drained : (peers "\"a::1\"" "[\"b:1\",\"a:01\",\"a:::+1\"]").Yields rows :=
    (yields_exact _ _ _).mpr (by decide +kernel)
  have address : Peer.leaderAddress "\"a::1\"" = .ok (some "a:1") := by decide +kernel
  refine ⟨drained,address,?_⟩
  intro i row here
  obtain ⟨told,_,read,_,_,_,marked,_⟩ := peers_tell_leader drained
  rw [address,Except.ok.injEq] at read
  have second : rows.findIdx (·.address == "a:1") = 1 := by decide
  rw [marked _ read.symm i row here,second]
  simp only [eq_comm]

end RowSet
end ClusterClient
