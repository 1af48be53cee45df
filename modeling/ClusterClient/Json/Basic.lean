import ClusterClient.Text.Decimal
namespace ClusterClient
namespace Json
open Decimal

structure Exponent where
  negative : Bool
  digits : Digits
deriving DecidableEq

-- The digits are kept, so that a number prints back as it came; only the exponent has one spelling, a
-- small e and always a sign.
structure Number where
  negative : Bool
  whole : Digits
  fraction : Option Digits
  exponent : Option Exponent
deriving DecidableEq

def Exponent.chars (e : Exponent) : List Char :=
  'e' :: (if e.negative then '-' else '+') :: Decimal.chars e.digits

def Number.chars (n : Number) : List Char :=
  (if n.negative then ['-'] else []) ++ Decimal.chars n.whole ++
    (match n.fraction with
      | some digits => '.' :: Decimal.chars digits
      | none => []) ++
    (match n.exponent with
      | some e => e.chars
      | none => [])

def Number.text (n : Number) : String := String.ofList n.chars

def Number.ofNat (n : Nat) : Number := ⟨false, Decimal.ofNat n, none, none⟩

def Number.digits (n : Number) : Digits := n.whole ++ n.fraction.getD []

def Number.places (n : Number) : Nat := (n.fraction.getD []).length

def Number.scale (n : Number) : Int :=
  match n.exponent with
  | some e => (if e.negative then -(value e.digits : Int) else (value e.digits : Int)) - n.places
  | none => -(n.places : Int)

end Json

inductive Json where
  | null
  | bool (b : Bool)
  | number (n : Json.Number)
  | string (s : String)
  | array (items : List Json)
  | object (members : List (String × Json))

namespace Json

inductive Kind where
  | null | bool | number | string | array | object
deriving DecidableEq

def Kind.name : Kind → String
  | .null => "null"
  | .bool => "bool"
  | .number => "number"
  | .string => "string"
  | .array => "array"
  | .object => "object"

def kind : Json → Kind
  | .null => .null
  | .bool _ => .bool
  | .number _ => .number
  | .string _ => .string
  | .array _ => .array
  | .object _ => .object

abbrev Members := List (String × Json)

def Members.insert (key : String) (value : Json) : Members → Members
  | [] => [(key, value)]
  | (k, v) :: rest =>
    if key < k then (key, value) :: (k, v) :: rest
    else if key = k then (key, value) :: rest
    else (k, v) :: Members.insert key value rest

-- Of a key that is listed more than once the last value stays.
def Members.ofList (pairs : List (String × Json)) : Members :=
  pairs.foldl (fun members pair => Members.insert pair.1 pair.2 members) []

def Members.get? (key : String) : Members → Option Json
  | [] => none
  | (k, v) :: rest => if k = key then some v else Members.get? key rest

def field (key : String) : Json → Json
  | .object members => (Members.get? key members).getD .null
  | _ => .null


def lowHexDigit (n : Nat) : Char := if n < 10 then Char.ofNat (48 + n) else Char.ofNat (87 + n)

def escapeChar (c : Char) : List Char :=
  if c = '"' then ['\\', '"']
  else if c = '\\' then ['\\', '\\']
  else if c = '\x08' then ['\\', 'b']
  else if c = '\x0c' then ['\\', 'f']
  else if c = '\n' then ['\\', 'n']
  else if c = '\r' then ['\\', 'r']
  else if c = '\t' then ['\\', 't']
  else if c.toNat < 0x20 then
    ['\\', 'u', '0', '0', lowHexDigit (c.toNat / 16), lowHexDigit (c.toNat % 16)]
  else [c]

def stringChars (s : String) : List Char := '"' :: (s.toList.flatMap escapeChar ++ ['"'])

mutual

def chars : Json → List Char
  | .null => ['n', 'u', 'l', 'l']
  | .bool true => ['t', 'r', 'u', 'e']
  | .bool false => ['f', 'a', 'l', 's', 'e']
  | .number n => n.chars
  | .string s => stringChars s
  | .array items => '[' :: (itemChars items ++ [']'])
  | .object members => '\x7b' :: (memberChars members ++ ['\x7d'])

def itemChars : List Json → List Char
  | [] => []
  | [v] => chars v
  | v :: w :: rest => chars v ++ ',' :: itemChars (w :: rest)

def memberChars : List (String × Json) → List Char
  | [] => []
  | [(k, v)] => stringChars k ++ ':' :: chars v
  | (k, v) :: w :: rest => stringChars k ++ ':' :: (chars v ++ ',' :: memberChars (w :: rest))

end

def text (v : Json) : String := String.ofList (chars v)

end Json
end ClusterClient
