import ClusterClient.Agent
import ClusterClient.Entry.Decode
import ClusterClient.Text.Pattern
namespace ClusterClient

inductive LogFormat where
  | text | json
deriving DecidableEq

structure Settings where
  host : String := Agent.defaultHost
  port : UInt16 := Agent.defaultPort
  cluster : Option String := none
  timeoutMs : UInt32 := 1000
  missingFields : MissingFields := .tolerant
  level : String := "info"
  format : LogFormat := .text
  metrics : Bool := true
deriving DecidableEq

def Settings.agent (settings : Settings) : Agent :=
  let agent := ({ host := settings.host, port := settings.port : Agent }).setTimeoutMs settings.timeoutMs
  match settings.cluster with
  | some cluster => agent.setCluster cluster
  | none => agent

namespace HostName

def edge : List (Char × Char) := [('A', 'Z'), ('a', 'z'), ('0', '9')]

def inner : List (Char × Char) := edge ++ [('-', '-')]

def label : Pattern := .both (.among edge) (.optional (.both (.atMost 61 inner) (.among edge)))

def name : Pattern := .both label (.many (.both (.exactly '.') label))

def isName (host : String) : Bool := name.accepts host

def pattern : String := "^" ++ name.text ++ "$"

example : pattern =
    "^[A-Za-z0-9]([A-Za-z0-9-]\x7b0,61\x7d[A-Za-z0-9])?(\\.[A-Za-z0-9]([A-Za-z0-9-]\x7b0,61\x7d[A-Za-z0-9])?)*$" := by
  decide +kernel

end HostName

inductive Violation where
  | hostEmpty | hostTooLong | hostPattern | portZero | timeoutZero | timeoutTooLong
deriving DecidableEq

def Violation.text : Violation → String
  | .hostEmpty => "agent.host: length is lower than 1"
  | .hostTooLong => "agent.host: length is greater than 255"
  | .hostPattern => "agent.host: does not match pattern /" ++ HostName.pattern ++ "/"
  | .portZero => "agent.port: lower than 1"
  | .timeoutZero => "agent.timeout_ms: lower than 1"
  | .timeoutTooLong => "agent.timeout_ms: greater than 65535"

namespace Settings

-- The length of a host is counted in bytes.
def violations (settings : Settings) : List Violation :=
  (if settings.host.utf8ByteSize < 1 then [.hostEmpty] else []) ++
    (if 255 < settings.host.utf8ByteSize then [.hostTooLong] else []) ++
    (if HostName.isName settings.host then [] else [.hostPattern]) ++
    (if settings.port < 1 then [.portZero] else []) ++
    (if settings.timeoutMs < 1 then [.timeoutZero] else []) ++
    (if 65535 < settings.timeoutMs then [.timeoutTooLong] else [])

end Settings

inductive SettingsFault where
  | unreadable (path : String)
  | malformed (path : String)
  | invalid (path : String) (violations : List Violation)

namespace SettingsFault

def message : SettingsFault → String
  | .unreadable path => "Failed to read config file " ++ path
  | .malformed path => "Failed to parse config file " ++ path
  | .invalid path violations =>
    "Invalid config file " ++ path ++ ": " ++ String.join (violations.map fun v => v.text ++ "\n")

end SettingsFault
end ClusterClient
