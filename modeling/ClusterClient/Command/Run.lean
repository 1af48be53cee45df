import ClusterClient.Client
import ClusterClient.Command.Arguments
import ClusterClient.Rows.Table
import ClusterClient.Settings.File
namespace ClusterClient.Command

inductive Ending where
  | ended (code : UInt8)
  | failed (code : UInt8) (message : String)
  | helped
  | misused (m : Misuse)
deriving DecidableEq

namespace Ending

def code : Ending → UInt8
  | .ended code => code
  | .failed code _ => code
  | .helped => ExitCode.ok
  | .misused _ => ExitCode.usage

def complaint : Ending → Option String
  | .ended _ => some ""
  | .failed _ message => some ("error: " ++ message ++ "\n")
  | .helped => some ""
  | .misused m => m.complaint

end Ending

def say (line : String) : Exchange Unit := (Dialog.saying line : Dialog Unit)

def entryLines (verbose : Bool) (e : Entry) : List String :=
  ["Key: " ++ e.key, "Value: " ++ e.valueText] ++
    (if e.session = "" then [] else ["Session: " ++ e.session]) ++
    (if verbose then
      ["CreateIndex: " ++ Entry.word e.createIndex, "ModifyIndex: " ++ Entry.word e.modifyIndex,
        "LockIndex: " ++ Entry.word e.lockIndex, "Flags: " ++ Entry.word e.flags, e.armoredValue,
        "JSON: " ++ e.json]
    else [])

def leaderLines (verbose : Bool) (leader : Peer) : List String :=
  if leader.leader then
    ("Leader: " ++ leader.text) ::
      (if verbose then ["Host: " ++ leader.host, "Port: " ++ leader.portText, "JSON: " ++ leader.json] else [])
  else ["Leader: none"]

def peerLine (peer : Peer) : String :=
  "JSON Peer: " ++ peer.json ++ if peer.leader then " (leader)" else ""

def resultLine (b : Bool) : String := "Result: " ++ if b then "true" else "false"

def tabbed (fields : List String) : String := String.intercalate "\t" fields

def sayRow : Except Failure EntryRow → Exchange Unit
  | .ok row => say (tabbed row.fields)
  | .error failure => throw failure

-- The rows of one key. They are decoded while they are written, so a failure is not counted.
def getRows (client : Client) (recurse : Bool) (key : String) : Exchange Unit := do
  let body ← client.getText key { recurse }
  (RowSet.entries body recurse client.policy).rest.1.forM sayRow

def getEntries (client : Client) (verbose recurse : Bool) (key : String) : Exchange Unit := do
  let batch ← client.get key { recurse }
  (batch.entries.flatMap (entryLines verbose)).forM say

def sayLeader (client : Client) (verbose : Bool) : Exchange Unit := do
  (leaderLines verbose (← client.leader)).forM say

def sayPeers (client : Client) : Exchange Unit := do
  ((← client.clusterPeers).peers.map peerLine).forM say

def wanted (reports : List Report) : Reports :=
  if (Reports.ofList reports).isEmpty then Reports.all else Reports.ofList reports

def sayReports (client : Client) (verbose : Bool) (reports : Reports) : Exchange Unit := do
  if reports.leader then sayLeader client verbose
  if reports.peers then sayPeers client
  if reports.self then (← client.selfLines).forM say

def perform (client : Client) (verbose : Bool) : Action → Exchange UInt8
  | .get keys recurse rows => do
    if rows then
      say (tabbed EntryRow.columns)
      keys.forM (getRows client recurse)
    else keys.forM (getEntries client verbose recurse)
    return ExitCode.ok
  | .put key value flags cas acquire release => do
    say (resultLine (← client.put key (Utf8.bytes value) { flags, cas, acquire, release }))
    return ExitCode.ok
  | .delete key recurse cas => do
    say (resultLine (← client.delete key { recurse, cas }))
    return ExitCode.ok
  | .encode _ => return ExitCode.ok
  | .decode _ => return ExitCode.ok
  | .leader => do
    sayLeader client verbose
    return ExitCode.ok
  | .peers => do
    sayPeers client
    return ExitCode.ok
  | .status reports => do
    sayReports client verbose (wanted reports)
    return ExitCode.ok
  | .ping => do
    if ← (client.ping : Dialog Bool) then
      say "Ping: ok"
      return ExitCode.ok
    else
      say "Ping: failed"
      return ExitCode.temporary

-- Converting a text needs no agent, so a bad host or port does no harm there.
def carryOut (naming : Http.Naming) (invocation : Invocation) (settings : Settings) : Exchange UInt8 :=
  match invocation.action with
  | .encode text => do
    say (Value.armor (Value.encode (Utf8.bytes text)))
    return ExitCode.ok
  | .decode encoded => do
    let value ← (Value.decode encoded : Except Failure (List UInt8))
    say ("Result: \"" ++ Utf8.decode value ++ "\"")
    return ExitCode.ok
  | action => do
    let agent ← (invocation.overrides.agent settings : Except Failure Agent)
    perform { agent, policy := settings.missingFields, naming } invocation.verbose action

def programVersion : String := "pgconsul 0.1.0"

structure Readers where
  document : Yaml.Reader
  naming : Http.Naming

def Readers.plain : Readers := ⟨.plain, Http.asciiNaming⟩

def run (readers : Readers) (words : List String) : Dialog Ending := do
  match Invocation.ofWords words with
  | .error .helped => return .helped
  | .error .version =>
    Dialog.saying programVersion
    return .ended ExitCode.ok
  | .error (.misused m) => return .misused m
  | .ok invocation =>
    match ← Settings.load readers.document invocation.config with
    | .error fault => return .failed ExitCode.config fault.message
    | .ok settings =>
      match ← (carryOut readers.naming invocation settings).run with
      | .ok code => return .ended code
      | .error failure => return .failed failure.exitCode failure.message

end ClusterClient.Command
