import ClusterClient.Agent
import ClusterClient.Json.Reader
import ClusterClient.Json.Basic
import ClusterClient.Text.Basic
namespace ClusterClient

structure Peer where
  host : String
  port : UInt16
  leader : Bool := false
deriving DecidableEq

namespace Peer

def loopback : Peer := { host := Agent.defaultHost, port := Agent.defaultPort }

def portText (peer : Peer) : String := Agent.portText peer.port

def text (peer : Peer) : String := peer.host ++ ":" ++ peer.portText

def toJson (peer : Peer) : Json := .string peer.text

def json (peer : Peer) : String := peer.toJson.text

def sameAddress (a b : Peer) : Bool := a.host == b.host && a.port == b.port

def setHost (peer : Peer) (host : String) : Peer := { peer with host }

-- Set in place: what is answered, and the peer that is left, also where the port is refused. No
-- blanks are dropped, and zero is a port like any other.
def putPortText (peer : Peer) (port : String) : Except Failure Unit × Peer :=
  match Decimal.word16? port with
  | some n => (.ok (), { peer with port := n })
  | none => (.error (.format (.portRefused port)), peer)

def dropInner : List (List Char) → List (List Char)
  | [] => []
  | [piece] => [piece]
  | piece :: next :: pieces =>
    if piece = [] then dropInner (next :: pieces) else piece :: dropInner (next :: pieces)

-- The pieces between colons. A run of colons counts as one, but a piece at either end stays
-- even if it is empty.
def pieces (text : String) : List (List Char) :=
  match Text.split ':' text.toList with
  | [] => []
  | first :: rest => first :: dropInner rest

def ofText (text : String) : Except Failure Peer :=
  match pieces text with
  | [host, port] =>
    match Decimal.word16? (String.ofList port) with
    | some n => .ok { host := String.ofList host, port := n }
    | none => .error (.format (.portRefusedIn (String.ofList port) text))
  | _ => .error (.format (.notAnAddress text))

def ofJson : Json → Except Failure Peer
  | .string s => ofText s
  | other => .error (.shape (.notAText other.kind))

def leaderOfJson : Json → Except Failure Peer
  | .string s =>
    if s = "" then .ok loopback
    else
      match ofText s with
      | .ok peer => .ok { peer with leader := true }
      | .error failure => .error failure
  | other => .error (.shape (.notAText other.kind))

def leaderOfText (body : String) : Except Failure Peer :=
  match Json.ofText body with
  | .ok v => leaderOfJson v
  | .error failure => .error failure

def leaderAddress (body : String) : Except Failure (Option String) :=
  if Text.allBlank body then .ok none
  else
    match leaderOfText body with
    | .ok peer => .ok (if peer.leader then some peer.text else none)
    | .error failure => .error failure

end Peer
end ClusterClient
