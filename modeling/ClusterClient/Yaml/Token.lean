import ClusterClient.Yaml.Scalar
namespace ClusterClient.Yaml

inductive Token where
  | documentStart | documentEnd
  | blockSequence | blockMapping | blockEnd | entry
  | flowSequence | flowMapping | flowSequenceEnd | flowMappingEnd | comma
  | key | value
  | scalar (plain : Bool) (text : String)
deriving DecidableEq

-- Something that is a key if a colon follows on its line, at most 1024 characters on.
structure KeyCandidate where
  position : Nat
  line : Nat
  column : Nat
  index : Nat
  required : Bool

structure Scan where
  cursor : Cursor
  -- The last token comes first.
  tokens : List Token
  count : Nat
  indents : List Nat
  candidate : Option KeyCandidate
  outer : List (Option KeyCandidate)
  keyAllowed : Bool

namespace Scan

def start (source : List Char) : Scan := ⟨Cursor.start source, [], 0, [], none, [], true⟩

def inFlow (s : Scan) : Bool := !s.outer.isEmpty

def emit (s : Scan) (t : Token) : Scan := { s with tokens := t :: s.tokens, count := s.count + 1 }

def insertAt (s : Scan) (position : Nat) (ts : List Token) : Scan :=
  let later := s.count - position
  { s with tokens := s.tokens.take later ++ ts.reverse ++ s.tokens.drop later, count := s.count + ts.length }

def skipComment (c : Cursor) : Nat → Cursor
  | 0 => c
  | turns + 1 => if c.atEnd || c.at? isBreak then c else skipComment c.next turns

-- Blanks, comments and line ends before a token. In block context no tab may stand where a key
-- may start. A byte order mark may start any line.
def skipSpaces : Nat → Scan → Scan
  | 0, s => s
  | turns + 1, s =>
    let c := s.cursor
    if c.column == 0 && c.at? (fun x => x == '\uFEFF') then skipSpaces turns { s with cursor := c.next }
    else if c.at? (fun x => x == ' ') || ((s.inFlow || !s.keyAllowed) && c.at? (fun x => x == '\t')) then
      skipSpaces turns { s with cursor := c.next }
    else
      let c := if c.at? (fun x => x == '#') then skipComment c (c.rest.length + 1) else c
      if c.at? isBreak then
        skipSpaces turns { s with cursor := c.nextLine, keyAllowed := s.keyAllowed || !s.inFlow }
      else { s with cursor := c }

def isStale (c : Cursor) (k : KeyCandidate) : Bool := k.line < c.line || k.index + 1024 < c.index

-- A candidate that can no longer be a key is given up. None if it had to be one.
def expire (c : Cursor) : Option KeyCandidate → Option (Option KeyCandidate)
  | none => some none
  | some k => if isStale c k then (if k.required then none else some none) else some (some k)

def expireAll (s : Scan) : Option Scan := do
  let candidate ← expire s.cursor s.candidate
  let outer ← s.outer.mapM (expire s.cursor)
  return { s with candidate, outer }

def popIndents (column : Nat) : List Nat → List Nat × List Token
  | [] => ([], [])
  | i :: rest => if column < i then ((popIndents column rest).1, .blockEnd :: (popIndents column rest).2) else (i :: rest, [])

def emitAll (s : Scan) (ts : List Token) : Scan := ts.foldl emit s

def unroll (s : Scan) (column : Nat) : Scan :=
  if s.inFlow then s
  else emitAll { s with indents := (popIndents column s.indents).1 } (popIndents column s.indents).2

def unrollAll (s : Scan) : Scan :=
  if s.inFlow then s else emitAll { s with indents := [] } (s.indents.map fun _ => .blockEnd)

def opensBlock (s : Scan) (column : Nat) : Bool :=
  !s.inFlow && match s.indents with
    | [] => true
    | i :: _ => i < column

def roll (s : Scan) (column : Nat) (t : Token) : Scan :=
  if s.opensBlock column then { s with indents := column :: s.indents }.emit t else s

def dropCandidate (s : Scan) : Option Scan :=
  match s.candidate with
  | some k => if k.required then none else some { s with candidate := none }
  | none => some s

def saveCandidate (s : Scan) : Option Scan :=
  if s.keyAllowed then do
    let required := !s.inFlow && s.indents.head? == some s.cursor.column
    let s ← s.dropCandidate
    return { s with candidate := some ⟨s.count, s.cursor.line, s.cursor.column, s.cursor.index, required⟩ }
  else some s

def documentMark (s : Scan) (t : Token) : Option Scan := do
  let s ← s.unrollAll.dropCandidate
  return { s with keyAllowed := false, cursor := s.cursor.skip 3 }.emit t

def openFlow (s : Scan) (t : Token) : Option Scan := do
  let s ← s.saveCandidate
  return { s with outer := s.candidate :: s.outer, candidate := none, keyAllowed := true, cursor := s.cursor.next }.emit t

def closeFlow (s : Scan) (t : Token) : Option Scan := do
  let s ← s.dropCandidate
  let s := match s.outer with
    | [] => s
    | k :: rest => { s with candidate := k, outer := rest }
  return { s with keyAllowed := false, cursor := s.cursor.next }.emit t

def comma (s : Scan) : Option Scan := do
  let s ← s.dropCandidate
  return { s with keyAllowed := true, cursor := s.cursor.next }.emit .comma

def blockEntry (s : Scan) : Option Scan :=
  if !s.inFlow && !s.keyAllowed then none
  else do
    let s ← (s.roll s.cursor.column .blockSequence).dropCandidate
    return { s with keyAllowed := true, cursor := s.cursor.next }.emit .entry

def keyMark (s : Scan) : Option Scan :=
  if !s.inFlow && !s.keyAllowed then none
  else do
    let s ← (s.roll s.cursor.column .blockMapping).dropCandidate
    return { s with keyAllowed := !s.inFlow, cursor := s.cursor.next }.emit .key

def valueMark (s : Scan) : Option Scan :=
  match s.candidate with
  | some k =>
    let opens := s.opensBlock k.column
    let s := s.insertAt k.position (if opens then [.blockMapping, .key] else [.key])
    let indents := if opens then k.column :: s.indents else s.indents
    some ({ s with indents, candidate := none, keyAllowed := false, cursor := s.cursor.next }.emit .value)
  | none =>
    if !s.inFlow && !s.keyAllowed then none
    else
      let s := s.roll s.cursor.column .blockMapping
      some ({ s with keyAllowed := !s.inFlow, cursor := s.cursor.next }.emit .value)

def margin (s : Scan) : Nat :=
  match s.indents with
  | [] => 0
  | i :: _ => i + 1

def quoted (s : Scan) (single : Bool) : Option Scan := do
  let s ← s.saveCandidate
  let r ← quotedScalar single s.cursor.next
  return { s with keyAllowed := false, cursor := r.after }.emit (.scalar false (String.ofList r.text))

def plain (s : Scan) : Option Scan := do
  let s ← s.saveCandidate
  let r ← plainScalar s.inFlow s.margin s.cursor
  return { s with keyAllowed := r.broken, cursor := r.after }.emit (.scalar true (String.ofList r.text))

-- These start no plain scalar: the marks above, and those of anchors, aliases, tags, directives
-- and block scalars, which are refused.
def isIndicator (c : Char) : Bool := "-?:,[]\x7b\x7d#&*!|>'\"%@`".toList.contains c

def startsPlain (s : Scan) (x : Char) : Bool :=
  !isIndicator x && !isBlank x && !isBreak x ||
    (x == '-' && !isBlank ((s.cursor.rest.drop 1).headD 'x')) ||
    (!s.inFlow && (x == '?' || x == ':') && !s.cursor.spaceAt 1)

def token (s : Scan) (x : Char) : Option Scan :=
  if s.cursor.startsDocument then s.documentMark .documentStart
  else if s.cursor.endsDocument then s.documentMark .documentEnd
  else if x == '[' then s.openFlow .flowSequence
  else if x == '\x7b' then s.openFlow .flowMapping
  else if x == ']' then s.closeFlow .flowSequenceEnd
  else if x == '\x7d' then s.closeFlow .flowMappingEnd
  else if x == ',' then s.comma
  else if x == '-' && s.cursor.spaceAt 1 then s.blockEntry
  else if x == '?' && (s.inFlow || s.cursor.spaceAt 1) then s.keyMark
  else if x == ':' && (s.inFlow || s.cursor.spaceAt 1) then s.valueMark
  else if x == '\'' then s.quoted true
  else if x == '"' then s.quoted false
  else if s.startsPlain x then s.plain
  else none

-- Every token takes one character at least, so there are no more turns than characters.
def run : Nat → Scan → Option (List Token)
  | 0, _ => none
  | turns + 1, s => do
    let s ← (skipSpaces (s.cursor.rest.length + 1) s).expireAll
    let s := s.unroll s.cursor.column
    match s.cursor.rest with
    | [] =>
      let s ← s.unrollAll.dropCandidate
      return s.tokens.reverse
    | x :: _ => run turns (← s.token x)

end Scan

def tokens? (source : String) : Option (List Token) :=
  if source.toList.all isAllowed then Scan.run (source.toList.length + 1) (Scan.start source.toList) else none

end ClusterClient.Yaml
