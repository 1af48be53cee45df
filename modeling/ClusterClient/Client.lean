import ClusterClient.Dialog
import ClusterClient.Entry.Query
import ClusterClient.Peer.Lists
import ClusterClient.SelfReport
namespace ClusterClient

structure Client where
  agent : Agent
  policy : MissingFields := .tolerant
  naming : Http.Naming := Http.asciiNaming

abbrev Exchange (α : Type) := ExceptT Failure Dialog α

namespace Client
open Http (Method Request Reply)

def counting (endpoint : Endpoint) (method : Method) (status : String) : Exchange Unit :=
  (Dialog.noting (.request endpoint.name method.name status) : Dialog Unit)

-- A URL without a host is never sent.
def reply? (client : Client) (method : Method) (url : String) (body : List UInt8) : Dialog (Option Reply) :=
  match Http.cut? client.naming url with
  | some (authority, target) =>
    Dialog.asking { method, authority, target, body, timeoutMs := client.agent.timeoutMs }
  | none => pure none

def send (client : Client) (method : Method) (endpoint : Endpoint) (url : String) (body : List UInt8) :
    Exchange String := do
  match ← client.reply? method url body with
  | none =>
    counting endpoint method Measure.noStatus
    throw (.transport url)
  | some reply =>
    counting endpoint method (Decimal.text reply.status)
    if reply.isSuccess then return reply.text else throw (.status reply.status url)

def decoded {α : Type} : Except Failure α → Exchange α
  | .ok x => pure x
  | .error failure => do
    (Dialog.noting (.decodeError failure.kind) : Dialog Unit)
    throw failure

def url (client : Client) (endpoint : Endpoint) : String := (client.agent.url endpoint).1

def entryUrl (client : Client) (key : String) (query : Query) : String :=
  (query.withDefaultCluster client.agent.cluster).apply (client.url (.keyValue key))

def getText (client : Client) (key : String) (query : Query) : Exchange String :=
  client.send .get (.keyValue key) (client.entryUrl key query) []

def get (client : Client) (key : String) (query : Query) : Exchange Batch := do
  let body ← client.getText key query
  let batch ← decoded (Batch.ofText client.policy body)
  decoded (batch.checkRecurse query.recurse)
  return batch

-- The word of an agent on a change. What it says is trimmed before it is read or reported.
def verdict (emptyIsYes : Bool) (body : String) : Except Failure Bool :=
  let word := Text.trim body
  if word = "true" then .ok true
  else if word = "false" then .ok false
  else if word = "" && emptyIsYes then .ok true
  else .error (.format (.notAVerdict word))

def put (client : Client) (key : String) (value : List UInt8) (query : Query) : Exchange Bool := do
  let body ← client.send .put (.keyValue key) (client.entryUrl key query) value
  decoded (verdict false body)

def delete (client : Client) (key : String) (query : Query) : Exchange Bool := do
  let body ← client.send .delete (.keyValue key) (client.entryUrl key query) []
  decoded (verdict true body)

def leaderText (client : Client) : Exchange String := client.send .get .leader (client.url .leader) []

def leader (client : Client) : Exchange Peer := do
  let body ← client.leaderText
  decoded (Peer.leaderOfText body)

def peersText (client : Client) : Exchange String := client.send .get .peers (client.url .peers) []

def peers (client : Client) : Exchange PeerSet := do
  let body ← client.peersText
  decoded (PeerSet.ofText body)

def clusterPeers (client : Client) : Exchange PeerSet := do
  let leader ← client.leader
  let peers ← client.peers
  return (peers.markLeader leader).2

def selfText (client : Client) : Exchange String := client.send .get .self (client.url .self) []

def self (client : Client) : Exchange Json := do
  let body ← client.selfText
  decoded (Json.ofText body)

def selfLines (client : Client) : Exchange (List String) := do
  let doc ← client.self
  return SelfReport.lines doc

def ping (client : Client) : Dialog Bool := do
  match ← client.selfText.run with
  | .ok _ => return true
  | .error _ => return false

end Client
end ClusterClient
