import ClusterClient.Failure
import ClusterClient.Json.Fault
import ClusterClient.Text.Percent
import ClusterClient.Text.Quoted
namespace ClusterClient.Json.Reader
open Decimal

-- A reader is given the characters that are left, and a place is a number of bytes counted from the
-- end of the text, so no reader has to be told where it stands.
abbrev Read (α : Type) := List Char → Except Fault (α × List Char)

def isSpace (c : Char) : Bool := c == ' ' || c == '\t' || c == '\n' || c == '\r'

def skipSpaces (cs : List Char) : List Char := cs.dropWhile isSpace

def word : List Char → List Char → Except Fault (List Char)
  | [], rest => .ok rest
  | _ :: _, [] => .error (.here .valueEnds [])
  | letter :: letters, c :: rest =>
    if c = letter then word letters rest else .error (.past 1 .wordExpected (c :: rest))

def wholePart : Read Digits
  | [] => .error (.here .valueEnds [])
  | c :: rest =>
    match digit? c with
    | none => .error (.past 1 .badNumber (c :: rest))
    | some d =>
      let (more, after) := span rest
      if d.val = 0 ∧ more ≠ [] then .error (.next .badNumber rest) else .ok (d :: more, after)

def fractionPart : Read (Option Digits)
  | '.' :: rest =>
    match span rest with
    | ([], []) => .error (.next .valueEnds [])
    | ([], after) => .error (.next .badNumber after)
    | (digits, after) => .ok (some digits, after)
  | rest => .ok (none, rest)

def exponentDigits (negative : Bool) : Read (Option Exponent)
  | [] => .error (.here .valueEnds [])
  | c :: rest =>
    match digit? c with
    | none => .error (.past 1 .badNumber (c :: rest))
    | some d => .ok (some ⟨negative, d :: (span rest).1⟩, (span rest).2)

def exponentSign : Read (Option Exponent)
  | '+' :: rest => exponentDigits false rest
  | '-' :: rest => exponentDigits true rest
  | rest => exponentDigits false rest

def exponentPart : Read (Option Exponent)
  | 'e' :: rest => exponentSign rest
  | 'E' :: rest => exponentSign rest
  | rest => .ok (none, rest)

def number (negative : Bool) : Read Number := fun cs => do
  let (whole, rest) ← wholePart cs
  let (fraction, rest) ← fractionPart rest
  let (exponent, rest) ← exponentPart rest
  return (⟨negative, whole, fraction, exponent⟩, rest)

def fourHex (cs : List Char) : Except Fault (Nat × List Char) :=
  let faulty : Except Fault (Nat × List Char) :=
    if byteSize cs < 4 then .error (.here .stringEnds []) else .error (.past 4 .badEscape cs)
  match cs with
  | a :: b :: c :: d :: rest =>
    match Percent.hexValue? a, Percent.hexValue? b, Percent.hexValue? c, Percent.hexValue? d with
    | some w, some x, some y, some z => .ok (((w * 16 + x) * 16 + y) * 16 + z, rest)
    | _, _, _, _ => faulty
  | _ => faulty

def isLowSurrogate (n : Nat) : Bool := 0xDC00 ≤ n && n ≤ 0xDFFF

def isHighSurrogate (n : Nat) : Bool := 0xD800 ≤ n && n ≤ 0xDBFF

def lowHalf (high : Nat) : Read Char
  | [] => .error (.here .stringEnds [])
  | '\\' :: [] => .error (.here .stringEnds [])
  | '\\' :: 'u' :: rest => do
    let (low, rest) ← fourHex rest
    if isLowSurrogate low then
      return (Char.ofNat (0x10000 + (high - 0xD800) * 0x400 + (low - 0xDC00)), rest)
    else .error (.here .loneSurrogate rest)
  | '\\' :: rest => .error (.past 1 .escapeEnds rest)
  | rest => .error (.past 1 .escapeEnds rest)

def unicodeEscape : Read Char := fun cs => do
  let (n, rest) ← fourHex cs
  if isLowSurrogate n then .error (.here .loneSurrogate rest)
  else if isHighSurrogate n then lowHalf n rest
  else return (Char.ofNat n, rest)

def escape : Read Char
  | [] => .error (.here .stringEnds [])
  | '"' :: rest => .ok ('"', rest)
  | '\\' :: rest => .ok ('\\', rest)
  | '/' :: rest => .ok ('/', rest)
  | 'b' :: rest => .ok ('\x08', rest)
  | 'f' :: rest => .ok ('\x0c', rest)
  | 'n' :: rest => .ok ('\n', rest)
  | 'r' :: rest => .ok ('\r', rest)
  | 't' :: rest => .ok ('\t', rest)
  | 'u' :: rest => unicodeEscape rest
  | rest => .error (.past 1 .badEscape rest)

-- The characters up to the closing quote. Each turn reads one character at least, so as many
-- turns as there are characters are enough.
def stringTail : Nat → Read (List Char)
  | 0, rest => .error (.here .stringEnds rest)
  | _ + 1, [] => .error (.here .stringEnds [])
  | _ + 1, '"' :: rest => .ok ([], rest)
  | turns + 1, '\\' :: rest => do
    let (c, rest) ← escape rest
    let (cs, rest) ← stringTail turns rest
    return (c :: cs, rest)
  | turns + 1, c :: rest =>
    if c.toNat < 0x20 then .error (.past 1 .controlCharacter (c :: rest))
    else do
      let (cs, rest) ← stringTail turns rest
      return (c :: cs, rest)

def string : Read String := fun cs => do
  let (content, rest) ← stringTail (cs.length + 1) cs
  return (String.ofList content, rest)

def elements {ε α : Type} (lift : Fault → ε) (element : List Char → Except ε (α × List Char)) :
    Nat → List Char → Except ε (List α × List Char)
  | 0, rest => .error (lift (.next .listEnds rest))
  | turns + 1, cs => do
    let (x, rest) ← element cs
    match skipSpaces rest with
    | [] => .error (lift (.next .listEnds []))
    | ']' :: rest => return ([x], rest)
    | ',' :: rest =>
      match skipSpaces rest with
      | [] => .error (lift (.next .valueEnds []))
      | ']' :: rest => .error (lift (.next .trailingComma (']' :: rest)))
      | rest => do
        let (xs, rest) ← elements lift element turns rest
        return (x :: xs, rest)
    | rest => .error (lift (.next .listSeparator rest))

def list {ε α : Type} (lift : Fault → ε) (element : List Char → Except ε (α × List Char)) (cs : List Char) :
    Except ε (List α × List Char) :=
  match skipSpaces cs with
  | [] => .error (lift (.next .listEnds []))
  | ']' :: rest => .ok ([], rest)
  | rest => elements lift element (rest.length + 1) rest

def colon (cs : List Char) : Except Fault (List Char) :=
  match skipSpaces cs with
  | [] => .error (.next .objectEnds [])
  | ':' :: rest => .ok rest
  | rest => .error (.next .colonExpected rest)

def member (value : Read Json) : Read (String × Json) := fun cs => do
  let (key, rest) ← string cs
  let rest ← colon rest
  let (v, rest) ← value rest
  return ((key, v), rest)

def moreMembers (value : Read Json) : Nat → Read (List (String × Json))
  | 0, rest => .error (.next .objectEnds rest)
  | turns + 1, cs =>
    match skipSpaces cs with
    | [] => .error (.next .objectEnds [])
    | '\x7d' :: rest => .ok ([], rest)
    | ',' :: rest =>
      match skipSpaces rest with
      | [] => .error (.next .valueEnds [])
      | '\x7d' :: rest => .error (.next .trailingComma ('\x7d' :: rest))
      | '"' :: rest => do
        let (pair, rest) ← member value rest
        let (pairs, rest) ← moreMembers value turns rest
        return (pair :: pairs, rest)
      | rest => .error (.next .keyExpected rest)
    | rest => .error (.next .objectSeparator rest)

-- An object whose first key is this one is a number, spelled by a string.
def numberKey : String := "$serde_json::private::Number"

def describe : Read String := fun cs =>
  match skipSpaces cs with
  | [] => .error (.next .valueEnds [])
  | 'n' :: rest => do return ("null", ← word ['u', 'l', 'l'] rest)
  | 't' :: rest => do return ("boolean `true`", ← word ['r', 'u', 'e'] rest)
  | 'f' :: rest => do return ("boolean `false`", ← word ['a', 'l', 's', 'e'] rest)
  | '-' :: rest => do
    let (n, rest) ← number true rest
    return (numberName n, rest)
  | '"' :: rest => do
    let (s, rest) ← string rest
    return ("string " ++ Text.quoted s, rest)
  | '[' :: rest => .ok ("sequence", '[' :: rest)
  | '\x7b' :: rest => .ok ("map", '\x7b' :: rest)
  | c :: rest =>
    if (digit? c).isSome then do
      let (n, rest) ← number false (c :: rest)
      return (numberName n, rest)
    else .error (.next .valueExpected (c :: rest))
where
  -- A whole number that fits 64 bits is an integer; a zero with a sign is none.
  numberName (n : Number) : String :=
    let size := value n.whole
    let fits := if n.negative then 0 < size && size ≤ 9223372036854775808 else size < 18446744073709551616
    if n.fraction.isNone && n.exponent.isNone && fits then "integer `" ++ n.text ++ "`" else "number"

-- What is wrong with a text that is to be a number: if anything is left where reading stopped, it
-- is that.
def wholeFault (fault : Fault) : Fault :=
  match fault.place with
  | .left (n + 1) _ => ⟨.badNumber, .left (n + 1) true⟩
  | _ => fault

def signedNumber : Read Number
  | [] => .error (.next .valueEnds [])
  | '-' :: rest => number true rest
  | cs => if (cs.head?.bind digit?).isSome then number false cs else .error (.next .badNumber cs)

def wholeNumber (s : String) : Except Fault Number :=
  let settle (fault : Fault) : Fault := ⟨fault.cause, .fixed (fault.location s.toList)⟩
  match signedNumber s.toList with
  | .error fault => .error (settle (wholeFault fault))
  | .ok (n, []) => .ok n
  | .ok (_, rest) => .error (settle (.next .badNumber rest))

def spelledNumber : Read Json := fun cs => do
  let rest ← colon cs
  match skipSpaces rest with
  | '"' :: rest => do
    let (s, rest) ← string rest
    let n ← wholeNumber s
    match skipSpaces rest with
    | '\x7d' :: rest => return (.number n, rest)
    | ',' :: rest => .error (.next .trailingComma (',' :: rest))
    | [] => .error (.next .objectEnds [])
    | rest => .error (.next .trailingCharacters rest)
  | rest => do
    let (found, rest) ← describe rest
    .error (.here (.wrongType found "string containing a number") rest)

def object (value : Read Json) : Read Json := fun cs =>
  match skipSpaces cs with
  | [] => .error (.next .objectEnds [])
  | '\x7d' :: rest => .ok (.object [], rest)
  | '"' :: rest => do
    let (key, rest) ← string rest
    if key = numberKey then spelledNumber rest
    else do
      let rest ← colon rest
      let (v, rest) ← value rest
      let (pairs, rest) ← moreMembers value (rest.length + 1) rest
      return (.object (Members.ofList ((key, v) :: pairs)), rest)
  | rest => .error (.next .keyExpected rest)

-- A value, given the reader for the values inside it; without one no bracket may open.
def valueWith (inner : Option (Read Json)) : Read Json := fun cs =>
  match skipSpaces cs with
  | [] => .error (.next .valueEnds [])
  | 'n' :: rest => do return (.null, ← word ['u', 'l', 'l'] rest)
  | 't' :: rest => do return (.bool true, ← word ['r', 'u', 'e'] rest)
  | 'f' :: rest => do return (.bool false, ← word ['a', 'l', 's', 'e'] rest)
  | '-' :: rest => do
    let (n, rest) ← number true rest
    return (.number n, rest)
  | '"' :: rest => do
    let (s, rest) ← string rest
    return (.string s, rest)
  | '[' :: rest =>
    match inner with
    | none => .error (.next .tooDeep ('[' :: rest))
    | some value => do
      let (items, rest) ← list id value rest
      return (.array items, rest)
  | '\x7b' :: rest =>
    match inner with
    | none => .error (.next .tooDeep ('\x7b' :: rest))
    | some value => object value rest
  | c :: rest =>
    if (digit? c).isSome then do
      let (n, rest) ← number false (c :: rest)
      return (.number n, rest)
    else .error (.next .valueExpected (c :: rest))

def value : Nat → Read Json
  | 0 => valueWith none
  | depth + 1 => valueWith (some (value depth))

def maxDepth : Nat := 127

def finish (rest : List Char) : Except Fault Unit :=
  match skipSpaces rest with
  | [] => .ok ()
  | rest => .error (.next .trailingCharacters rest)

def read (cs : List Char) : Except Fault Json := do
  let (v, rest) ← value maxDepth cs
  finish rest
  return v

end ClusterClient.Json.Reader

namespace ClusterClient.Json

def parse (source : String) : Except Fault Json := Reader.read source.toList

def ofText (body : String) : Except Failure Json :=
  match parse body with
  | .ok v => .ok v
  | .error fault => .error (.parse (fault.message body))

end ClusterClient.Json
