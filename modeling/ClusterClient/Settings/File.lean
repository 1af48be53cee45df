import ClusterClient.Dialog
import ClusterClient.Settings.Basic
import ClusterClient.Yaml.Reader
namespace ClusterClient.Settings
open Yaml (Reader)

section
variable (reader : Reader)

def natBelow? (limit : Nat) (node : reader.Node) : Option Nat :=
  match reader.natural? node with
  | some n => if n < limit then some n else none
  | none => none

def missingFieldsOf? (node : reader.Node) : Option MissingFields :=
  match reader.name? node with
  | some "tolerant" => some .tolerant
  | some "strict" => some .strict
  | _ => none

def formatOf? (node : reader.Node) : Option LogFormat :=
  match reader.name? node with
  | some "text" => some .text
  | some "json" => some .json
  | _ => none

structure Field (σ : Type) where
  name : String
  set : σ → reader.Node → Option σ

-- The pairs of a section in their order. Names that are not known are passed over, and a known one
-- that comes again is refused.
def readPairs {σ : Type} (fields : List (Field reader σ)) :
    List String → σ → List (reader.Node × reader.Node) → Option σ
  | _, state, [] => some state
  | seen, state, (key, value) :: rest =>
    match reader.text? key with
    | none => none
    | some name =>
      match fields.find? (fun f => f.name == name) with
      | none => readPairs fields seen state rest
      | some f =>
        if seen.contains name then none
        else
          match f.set state value with
          | some state => readPairs fields (name :: seen) state rest
          | none => none

def readSection {σ : Type} (fields : List (Field reader σ)) (state : σ) (node : reader.Node) : Option σ :=
  (reader.pairs? node).bind (readPairs reader fields [] state)

def agentFields : List (Field reader Settings) :=
  [⟨"host", fun s v => do return { s with host := ← reader.text? v }⟩,
   ⟨"port", fun s v => do return { s with port := UInt16.ofNat (← natBelow? reader 65536 v) }⟩,
   ⟨"cluster", fun s v => do return { s with cluster := ← reader.optionalText? v }⟩,
   ⟨"timeout_ms", fun s v => do return { s with timeoutMs := UInt32.ofNat (← natBelow? reader 4294967296 v) }⟩]

def decodeFields : List (Field reader Settings) :=
  [⟨"missing_fields", fun s v => do return { s with missingFields := ← missingFieldsOf? reader v }⟩]

def loggingFields : List (Field reader Settings) :=
  [⟨"level", fun s v => do return { s with level := ← reader.text? v }⟩,
   ⟨"format", fun s v => do return { s with format := ← formatOf? reader v }⟩]

def observabilityFields : List (Field reader Settings) :=
  [⟨"metrics", fun s v => do return { s with metrics := ← reader.bool? v }⟩]

def sections : List (Field reader Settings) :=
  [⟨"agent", readSection reader (agentFields reader)⟩, ⟨"decode", readSection reader (decodeFields reader)⟩,
   ⟨"logging", readSection reader (loggingFields reader)⟩,
   ⟨"observability", readSection reader (observabilityFields reader)⟩]

def ofText? (source : String) : Option Settings :=
  if Text.allBlank source then some {} else (reader.ofText? source).bind (readSection reader (sections reader) {})

def ofFile (path : String) (content : List UInt8) : Except SettingsFault Settings :=
  match Utf8.decode? content with
  | none => .error (.unreadable path)
  | some source =>
    match ofText? reader source with
    | none => .error (.malformed path)
    | some settings =>
      if settings.violations = [] then .ok settings else .error (.invalid path settings.violations)

def defaultPath : String := "pgconsul.yaml"

-- A file that is named has to be there; the default one need not.
def load : Option String → Dialog (Except SettingsFault Settings)
  | some path => do
    match ← Dialog.looking path with
    | .content bytes => return ofFile reader path bytes
    | _ => return .error (.unreadable path)
  | none => do
    match ← Dialog.looking defaultPath with
    | .nothing => return .ok {}
    | .unreadable => return .error (.unreadable defaultPath)
    | .content bytes => return ofFile reader defaultPath bytes

end

end ClusterClient.Settings
