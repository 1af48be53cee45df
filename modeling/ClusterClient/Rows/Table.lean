import ClusterClient.Entry.Decode
import ClusterClient.Peer.Lists
import ClusterClient.Rows.Basic
namespace ClusterClient

structure EntryRow where
  key : String
  value : String
  flags : String
  createIndex : String
  modifyIndex : String
  lockIndex : String
  session : String
deriving DecidableEq

namespace EntryRow

def columns : List String :=
  ["key", "value", "flags", "create_index", "modify_index", "lock_index", "session"]

def fields (row : EntryRow) : List String :=
  [row.key, row.value, row.flags, row.createIndex, row.modifyIndex, row.lockIndex, row.session]

def ofEntry (e : Entry) : EntryRow where
  key := e.key
  value := e.valueText
  flags := Entry.word e.flags
  createIndex := Entry.word e.createIndex
  modifyIndex := Entry.word e.modifyIndex
  lockIndex := Entry.word e.lockIndex
  session := e.session

end EntryRow

structure PeerRow where
  host : String
  port : String
  leader : Bool
deriving DecidableEq

namespace PeerRow

def columns : List String := ["host", "port", "leader"]

def fields (row : PeerRow) : List String := [row.host, row.port, if row.leader then "t" else "f"]

def ofPeer (peer : Peer) : PeerRow := ⟨peer.host, peer.portText, peer.leader⟩

end PeerRow

namespace RowSet

def decodeEntries (body : String) (recurse : Bool) (policy : MissingFields) :
    Except Failure (List EntryRow) := do
  let batch ← Batch.ofText policy body
  batch.checkRecurse recurse
  return batch.entries.map EntryRow.ofEntry

def entries (body : String) (recurse : Bool) (policy : MissingFields) : RowSet Id EntryRow :=
  fresh "kv_get" (pure (decodeEntries body recurse policy))

def decodePeers (leaderBody peersBody : String) : Except Failure (List PeerRow) := do
  let leader ← Peer.leaderOfText leaderBody
  let set ← PeerSet.ofText peersBody
  return (set.markLeader leader).2.peers.map PeerRow.ofPeer

def peers (leaderBody peersBody : String) : RowSet Id PeerRow :=
  fresh "status_peers" (pure (decodePeers leaderBody peersBody))

end RowSet
end ClusterClient
