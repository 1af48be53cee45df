import ClusterClient.Settings.Basic
import ClusterClient.Text.Quoted
namespace ClusterClient

inductive Report where
  | all | leader | peers | self
deriving DecidableEq

namespace Report

def every : List Report := [.all, .leader, .peers, .self]

def name : Report → String
  | .all => "all"
  | .leader => "leader"
  | .peers => "peers"
  | .self => "self"

def lowered (s : String) : String := String.ofList (s.toList.map Char.toLower)

-- Only ASCII letters have two cases here.
def ofName? (ignoreCase : Bool) (source : String) : Option Report :=
  every.find? fun report => if ignoreCase then lowered source == report.name else source == report.name

def unknown (source : String) : String := "invalid variant: " ++ source

end Report

structure Reports where
  leader : Bool := false
  peers : Bool := false
  self : Bool := false
deriving DecidableEq

namespace Reports

def none : Reports := {}

def all : Reports := ⟨true, true, true⟩

def isEmpty (set : Reports) : Bool := !(set.leader || set.peers || set.self)

def insert (set : Reports) : Report → Reports
  | .all => all
  | .leader => { set with leader := true }
  | .peers => { set with peers := true }
  | .self => { set with self := true }

def only (report : Report) : Reports := none.insert report

def ofList (reports : List Report) : Reports := reports.foldl insert none

end Reports

namespace Command

inductive Action where
  | get (keys : List String) (recurse rows : Bool)
  | put (key value : String) (flags cas : Option UInt64) (acquire release : Option String)
  | delete (key : String) (recurse : Bool) (cas : Option UInt64)
  | encode (text : String)
  | decode (encoded : String)
  | leader
  | peers
  | status (reports : List Report)
  | ping
deriving DecidableEq

structure Overrides where
  host : Option String := none
  port : Option String := none
  cluster : Option String := none
  timeoutMs : Option UInt32 := none
deriving DecidableEq

structure Invocation where
  overrides : Overrides
  verbose : Bool
  config : Option String
  action : Action
deriving DecidableEq

def Overrides.agent (overrides : Overrides) (settings : Settings) : Except Failure Agent := do
  let agent := settings.agent
  let agent ← match overrides.host with
    | none => .ok agent
    | some host =>
      if Text.allBlank host then .error (.usage (.host (Text.quoted host))) else .ok (agent.setHost (Text.trim host))
  let agent ← match overrides.port with
    | none => .ok agent
    | some port => agent.setPortText port
  let agent := match overrides.cluster with
    | none => agent
    | some cluster => agent.setCluster cluster
  return match overrides.timeoutMs with
    | none => agent
    | some ms => agent.setTimeoutMs ms

end Command
end ClusterClient
