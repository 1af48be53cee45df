namespace ClusterClient
namespace Utf8

def encode (cs : List Char) : List UInt8 := cs.flatMap String.utf8EncodeChar

def bytes (s : String) : List UInt8 := encode s.toList

def replacement : Char := '\uFFFD'

-- A sequence that has begun: how many bytes it still needs, what the bytes read so far spell,
-- and the range the next byte has to lie in. The idle state needs none.
structure Pending where
  needed : Nat
  value : Nat
  low : Nat
  high : Nat

def idle : Pending := ⟨0, 0, 0x80, 0xBF⟩

-- The ranges after E0, ED, F0 and F4 keep out overlong forms, surrogates and values past 10FFFF.
def start (b : Nat) : List Char × Pending :=
  if b < 0x80 then ([Char.ofNat b], idle)
  else if b < 0xC2 then ([replacement], idle)
  else if b < 0xE0 then ([], ⟨1, b - 0xC0, 0x80, 0xBF⟩)
  else if b < 0xF0 then
    ([], ⟨2, b - 0xE0, if b = 0xE0 then 0xA0 else 0x80, if b = 0xED then 0x9F else 0xBF⟩)
  else if b < 0xF5 then
    ([], ⟨3, b - 0xF0, if b = 0xF0 then 0x90 else 0x80, if b = 0xF4 then 0x8F else 0xBF⟩)
  else ([replacement], idle)

def feed (p : Pending) (b : Nat) : List Char × Pending :=
  match p.needed with
  | 0 => start b
  | more + 1 =>
    if p.low ≤ b ∧ b ≤ p.high then
      let value := p.value * 64 + (b - 0x80)
      match more with
      | 0 => ([Char.ofNat value], idle)
      | _ => ([], ⟨more, value, 0x80, 0xBF⟩)
    else (replacement :: (start b).1, (start b).2)

def decodeFrom (p : Pending) : List UInt8 → List Char
  | [] => if p.needed = 0 then [] else [replacement]
  | b :: rest => (feed p b.toNat).1 ++ decodeFrom (feed p b.toNat).2 rest

def decode (source : List UInt8) : String := String.ofList (decodeFrom idle source)

def decode? (source : List UInt8) : Option String := String.fromUTF8? ⟨source.toArray⟩

end Utf8

namespace Utf16

def units (bigEndian : Bool) : List UInt8 → List Nat × Bool
  | [] => ([], false)
  | [_] => ([], true)
  | a :: b :: rest =>
    let (later, odd) := units bigEndian rest
    ((if bigEndian then a.toNat * 256 + b.toNat else b.toNat * 256 + a.toNat) :: later, odd)

def isHigh (unit : Nat) : Bool := 0xD800 ≤ unit && unit ≤ 0xDBFF

def isLow (unit : Nat) : Bool := 0xDC00 ≤ unit && unit ≤ 0xDFFF

-- A high unit waits for a low one. Either of them alone is replaced, and so is what the end cuts
-- short.
def decodeUnits (odd : Bool) : Option Nat → List Nat → List Char
  | none, [] => if odd then [Utf8.replacement] else []
  | some _, [] => [Utf8.replacement]
  | none, unit :: rest =>
    if isHigh unit then decodeUnits odd (some unit) rest
    else (if isLow unit then Utf8.replacement else Char.ofNat unit) :: decodeUnits odd none rest
  | some high, unit :: rest =>
    if isLow unit then Char.ofNat (0x10000 + (high - 0xD800) * 0x400 + (unit - 0xDC00)) :: decodeUnits odd none rest
    else if isHigh unit then Utf8.replacement :: decodeUnits odd (some unit) rest
    else Utf8.replacement :: Char.ofNat unit :: decodeUnits odd none rest

def decode (bigEndian : Bool) (source : List UInt8) : String :=
  String.ofList (decodeUnits (units bigEndian source).2 none (units bigEndian source).1)

example : decode false [0x3D, 0xD8, 0x00, 0xDE, 0x3D, 0xD8, 0x41, 0x00, 0x41] = "😀\uFFFDA\uFFFD" := by decide +kernel

end Utf16

namespace Encoded

-- A byte order mark tells how the bytes after it are encoded, whatever has been declared.
def read (declared : List UInt8 → String) : List UInt8 → String
  | 0xEF :: 0xBB :: 0xBF :: rest => Utf8.decode rest
  | 0xFF :: 0xFE :: rest => Utf16.decode false rest
  | 0xFE :: 0xFF :: rest => Utf16.decode true rest
  | source => declared source

end Encoded
end ClusterClient
