import ClusterClient.Entry.Basic
import ClusterClient.Entry.Index
import ClusterClient.Json.Reader
namespace ClusterClient

inductive MissingFields where
  | tolerant | strict
deriving DecidableEq

namespace Entry
open Json (Members)

def indexField (members : Members) (field : String) : Except Failure UInt64 :=
  match members.get? field with
  | none => .ok 0
  | some (.number n) =>
    match Index.ofNumber? n with
    | some word => .ok word
    | none => .error (.range field "64-bit unsigned integer" n.text)
  | some other => .error (.fieldType field .number other.kind)

def stringField (members : Members) (field : String) : Except Failure (Option String) :=
  match members.get? field with
  | none => .ok none
  | some (.string s) => .ok (some s)
  | some other => .error (.fieldType field .string other.kind)

def requiredField (members : Members) (field : String) (policy : MissingFields) :
    Except Failure (Option String) :=
  match stringField members field, policy with
  | .ok none, .strict => .error (.shape (.missingField field))
  | result, _ => result

-- The first fault in this order is the one reported. Other members are never looked at.
def ofMembers (members : Members) (policy : MissingFields) : Except Failure Entry := do
  let createIndex ← indexField members "CreateIndex"
  let modifyIndex ← indexField members "ModifyIndex"
  let lockIndex ← indexField members "LockIndex"
  let flags ← indexField members "Flags"
  let session ← stringField members "Session"
  let key ← requiredField members "Key" policy
  let encoded ← requiredField members "Value" policy
  let value ← Value.decode (encoded.getD "")
  return { createIndex, modifyIndex, lockIndex, flags, session := session.getD "", key := key.getD "", value }

def ofJson (policy : MissingFields) : Json → Except Failure Entry
  | .object [] => .error (.shape .emptyEntry)
  | .object members => ofMembers members policy
  | other => .error (.shape (.notAnEntry other.kind))

def ofText (policy : MissingFields) (text : String) : Except Failure Entry := do
  ofJson policy (← Json.ofText text)

end Entry

structure Batch where
  entries : List Entry
deriving DecidableEq

def decodeAll {α : Type} (context : String) (decode : Json → Except Failure α) :
    List Json → Except Failure (List α)
  | [] => .ok []
  | item :: rest =>
    match decode item with
    | .error failure => .error (.within context failure)
    | .ok x =>
      match decodeAll context decode rest with
      | .error failure => .error failure
      | .ok xs => .ok (x :: xs)

namespace Batch

def context : String := "Parsing JSON Objects failed"

def ofJson (policy : MissingFields) : Json → Except Failure Batch
  | .array items =>
    match decodeAll context (Entry.ofJson policy) items with
    | .ok entries => .ok ⟨entries⟩
    | .error failure => .error failure
  | other => .error (.shape (.notAnArray other.kind))

def ofText (policy : MissingFields) (text : String) : Except Failure Batch :=
  match Json.ofText text with
  | .ok v => ofJson policy v
  | .error failure => .error failure

def checkRecurse (batch : Batch) (recurse : Bool) : Except Failure Unit :=
  if !recurse && 1 < batch.entries.length then .error (.shape (.severalEntries batch.entries.length))
  else .ok ()

def toJson (batch : Batch) : Json := .array (batch.entries.map Entry.toJson)

def json (batch : Batch) : String := batch.toJson.text

end Batch
end ClusterClient
