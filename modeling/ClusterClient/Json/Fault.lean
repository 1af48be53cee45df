import ClusterClient.Text.Decimal
import ClusterClient.Text.Encoding
namespace ClusterClient.Json

inductive Cause where
  | valueEnds | stringEnds | listEnds | objectEnds
  | valueExpected | wordExpected | keyExpected | colonExpected
  | listSeparator | objectSeparator
  | trailingComma | trailingCharacters
  | badNumber | controlCharacter | badEscape | loneSurrogate | escapeEnds
  | tooDeep
  | wrongType (found wanted : String)

def Cause.text : Cause → String
  | .valueEnds => "EOF while parsing a value"
  | .stringEnds => "EOF while parsing a string"
  | .listEnds => "EOF while parsing a list"
  | .objectEnds => "EOF while parsing an object"
  | .valueExpected => "expected value"
  | .wordExpected => "expected ident"
  | .keyExpected => "key must be a string"
  | .colonExpected => "expected `:`"
  | .listSeparator => "expected `,` or `]`"
  | .objectSeparator => "expected `,` or `\x7d`"
  | .trailingComma => "trailing comma"
  | .trailingCharacters => "trailing characters"
  | .badNumber => "invalid number"
  | .controlCharacter => "control character (\\u0000-\\u001F) found while parsing a string"
  | .badEscape => "invalid escape"
  | .loneSurrogate => "lone leading surrogate in hex escape"
  | .escapeEnds => "unexpected end of hex escape"
  | .tooDeep => "recursion limit exceeded"
  | .wrongType found wanted => "invalid type: " ++ found ++ ", expected " ++ wanted

structure Location where
  line : Nat
  column : Nat

-- Lines count from one. The column is the number of bytes after the last line feed.
def Location.after (bytes : List UInt8) : Location :=
  bytes.foldl (fun at_ b => if b = 10 then ⟨at_.line + 1, 0⟩ else ⟨at_.line, at_.column + 1⟩) ⟨1, 0⟩

-- The fault lies where reading stands, so many bytes before the end, or on the byte ahead of it.
inductive Place where
  | left (bytes : Nat) (ahead : Bool)
  | fixed (location : Location)

structure Fault where
  cause : Cause
  place : Place

def byteSize : List Char → Nat
  | [] => 0
  | c :: rest => c.utf8Size + byteSize rest

def Fault.here (cause : Cause) (rest : List Char) : Fault := ⟨cause, .left (byteSize rest) false⟩

def Fault.past (n : Nat) (cause : Cause) (rest : List Char) : Fault := ⟨cause, .left (byteSize rest - n) false⟩

def Fault.next (cause : Cause) (rest : List Char) : Fault := ⟨cause, .left (byteSize rest) true⟩

def Fault.location (source : List Char) (fault : Fault) : Location :=
  match fault.place with
  | .fixed location => location
  | .left n ahead =>
    Location.after ((Utf8.encode source).take (byteSize source - if ahead then n - 1 else n))

def Fault.message (source : String) (fault : Fault) : String :=
  let location := fault.location source.toList
  fault.cause.text ++ " at line " ++ Decimal.text location.line ++ " column " ++ Decimal.text location.column

end ClusterClient.Json
