import ClusterClient.Entry.Decode
import ClusterClient.Peer.Basic
namespace ClusterClient

structure PeerSet where
  peers : List Peer
deriving DecidableEq

namespace PeerSet

def context : String := "Unable to set peer in peers"

def ofJson : Json → Except Failure PeerSet
  | .array [] => .error (.shape .noPeers)
  | .array items =>
    match decodeAll context Peer.ofJson items with
    | .ok peers => .ok ⟨peers⟩
    | .error failure => .error failure
  | other => .error (.shape (.notAnArray other.kind))

def ofText (body : String) : Except Failure PeerSet :=
  match Json.ofText body with
  | .ok v => ofJson v
  | .error failure => .error failure

def flag (leader : Peer) : List Peer → Bool × List Peer
  | [] => (false, [])
  | peer :: rest =>
    if peer.sameAddress leader then (true, { peer with leader := true } :: rest)
    else ((flag leader rest).1, peer :: (flag leader rest).2)

-- A peer that is not elected marks nothing. Marks that are there stay.
def markLeader (set : PeerSet) (leader : Peer) : Bool × PeerSet :=
  if leader.leader then ((flag leader set.peers).1, ⟨(flag leader set.peers).2⟩) else (false, set)

def leader? (set : PeerSet) : Option Peer := set.peers.find? (fun peer => peer.leader)

end PeerSet

namespace PeerListing
open Json (Fault Cause)
open Json.Reader (Read)

inductive Fault where
  | json (fault : Json.Fault)
  | address (failure : Failure)

def Fault.message : Fault → String
  | .json fault => fault.cause.text
  | .address failure => failure.message

def lift {α : Type} : Except Json.Fault α → Except Fault α
  | .ok x => .ok x
  | .error fault => .error (.json fault)

def refuse {α : Type} (wanted : String) (cs : List Char) : Except Fault α := do
  let (found, rest) ← lift (Json.Reader.describe cs)
  .error (.json (.here (.wrongType found wanted) rest))

def element (cs : List Char) : Except Fault (Peer × List Char) :=
  match Json.Reader.skipSpaces cs with
  | '"' :: rest => do
    let (text, rest) ← lift (Json.Reader.string rest)
    match Peer.ofText text with
    | .ok peer => return (peer, rest)
    | .error failure => .error (.address failure)
  | rest => refuse "a string" rest

-- Elements are checked while reading, so the first fault in the text is the one reported, be it one
-- of JSON or of an address.
def ofText (body : String) : Except Fault (List Peer) :=
  match Json.Reader.skipSpaces body.toList with
  | '[' :: rest => do
    let (peers, rest) ← Json.Reader.list Fault.json element rest
    lift (Json.Reader.finish rest)
    return peers
  | rest => refuse "a sequence" rest

def json (peers : List Peer) : String := (Json.array (peers.map Peer.toJson)).text

end PeerListing
end ClusterClient
