import ClusterClient.Failure
import ClusterClient.Text.Basic
import ClusterClient.Text.Percent
namespace ClusterClient

inductive Endpoint where
  | keyValue (key : String)
  | leader
  | peers
  | self
deriving DecidableEq

def Endpoint.name : Endpoint → String
  | .keyValue _ => "kv"
  | .leader => "status_leader"
  | .peers => "status_peers"
  | .self => "agent_self"

-- A URL that has been asked for is kept, and a new host or port drops all that are kept. Keys share
-- what stands before them.
structure KeptUrls where
  keyValue : Option String := none
  leader : Option String := none
  peers : Option String := none
  self : Option String := none
deriving DecidableEq

structure Agent where
  host : String
  port : UInt16
  cluster : Option String := none
  timeoutMs : UInt32 := 1000
  leader : Bool := false
  kept : KeptUrls := {}
deriving DecidableEq

namespace Agent

def defaultHost : String := "127.0.0.1"

def defaultPort : UInt16 := 8500

def loopback : Agent := { host := defaultHost, port := defaultPort }

def portText (port : UInt16) : String := Decimal.text port.toNat

def text (agent : Agent) : String := agent.host ++ ":" ++ portText agent.port

def sameAddress (a b : Agent) : Bool := a.host == b.host && a.port == b.port

def setHost (agent : Agent) (host : String) : Agent := { agent with host, kept := {} }

def setPort (agent : Agent) (port : UInt16) : Agent := { agent with port, kept := {} }

-- The port an operator gave: blanks around it are dropped and zero is refused. What is refused
-- is reported as it came.
def setPortText (agent : Agent) (port : String) : Except Failure Agent :=
  match Decimal.word16? (Text.trim port) with
  | some n => if n = 0 then .error (.usage (.port port)) else .ok (agent.setPort n)
  | none => .error (.usage (.port port))

def putPortText (agent : Agent) (port : String) : Except Failure Unit × Agent :=
  match Decimal.word16? (Text.trim port) with
  | some n => if n = 0 then (.error (.usage (.port port)), agent) else (.ok (), agent.setPort n)
  | none => (.error (.usage (.port port)), agent)

def setCluster (agent : Agent) (cluster : String) : Agent :=
  { agent with cluster := if cluster = "" then none else some cluster }

def leastTimeout : UInt32 := 1

def mostTimeout : UInt32 := 65535

def setTimeoutMs (agent : Agent) (ms : UInt32) : Agent :=
  { agent with timeoutMs := if ms < leastTimeout then leastTimeout else if mostTimeout < ms then mostTimeout else ms }

def setLeader (agent : Agent) (leader : Bool) : Agent := { agent with leader }

def base (agent : Agent) (path : String) : String := "http://" ++ agent.text ++ "/v1/" ++ path

-- Slashes stay, so that a key keeps its levels.
def keepsInKey (c : Char) : Bool := Percent.isUnreserved c || c == '/'

def encodeKey (key : String) : String := String.ofList (Percent.encode keepsInKey key.toList)

def freshUrl (agent : Agent) : Endpoint → String
  | .keyValue key => agent.base "kv/" ++ encodeKey key
  | .leader => agent.base "status/leader"
  | .peers => agent.base "status/peers"
  | .self => agent.base "agent/self"

def url (agent : Agent) : Endpoint → String × Agent
  | .keyValue key =>
    let front := agent.kept.keyValue.getD (agent.base "kv/")
    (front ++ encodeKey key, { agent with kept := { agent.kept with keyValue := some front } })
  | .leader =>
    let url := agent.kept.leader.getD (agent.base "status/leader")
    (url, { agent with kept := { agent.kept with leader := some url } })
  | .peers =>
    let url := agent.kept.peers.getD (agent.base "status/peers")
    (url, { agent with kept := { agent.kept with peers := some url } })
  | .self =>
    let url := agent.kept.self.getD (agent.base "agent/self")
    (url, { agent with kept := { agent.kept with self := some url } })

def keyValueFront (agent : Agent) : String × Agent := agent.url (.keyValue "")

end Agent
end ClusterClient
