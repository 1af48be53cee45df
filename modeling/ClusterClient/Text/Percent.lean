import ClusterClient.Text.Encoding
namespace ClusterClient.Percent

def hexDigit (n : Nat) : Char := if n < 10 then Char.ofNat (48 + n) else Char.ofNat (55 + n)

def hexValue? (c : Char) : Option Nat :=
  let n := c.toNat
  if 48 ≤ n ∧ n ≤ 57 then some (n - 48)
  else if 65 ≤ n ∧ n ≤ 70 then some (n - 55)
  else if 97 ≤ n ∧ n ≤ 102 then some (n - 87)
  else none

def isUnreserved (c : Char) : Bool :=
  c.isAlphanum || c == '-' || c == '_' || c == '.' || c == '~'

def encodeByte (b : UInt8) : List Char := ['%', hexDigit (b.toNat / 16), hexDigit (b.toNat % 16)]

def encode (keep : Char → Bool) (cs : List Char) : List Char :=
  cs.flatMap fun c => if keep c then [c] else (String.utf8EncodeChar c).flatMap encodeByte

def decode? : List Char → Option (List UInt8)
  | [] => some []
  | '%' :: hi :: lo :: rest =>
    match hexValue? hi, hexValue? lo, decode? rest with
    | some h, some l, some more => some (UInt8.ofNat (h * 16 + l) :: more)
    | _, _, _ => none
  | c :: rest =>
    if c = '%' then none
    else
      match decode? rest with
      | some more => some (String.utf8EncodeChar c ++ more)
      | none => none

-- The same where a percent sign without two digits stands for itself.
def bytes : List Char → List UInt8
  | [] => []
  | '%' :: hi :: lo :: rest =>
    match hexValue? hi, hexValue? lo with
    | some h, some l => UInt8.ofNat (h * 16 + l) :: bytes rest
    | _, _ => String.utf8EncodeChar '%' ++ bytes (hi :: lo :: rest)
  | c :: rest => String.utf8EncodeChar c ++ bytes rest

end ClusterClient.Percent

namespace ClusterClient.Radix

def digit? (base : Nat) (c : Char) : Option Nat :=
  match Percent.hexValue? c with
  | some d => if d < base then some d else none
  | none => none

def valueFrom? (base : Nat) : Nat → List Char → Option Nat
  | n, [] => some n
  | n, c :: rest =>
    match digit? base c with
    | some d => valueFrom? base (n * base + d) rest
    | none => none

def value? (base : Nat) : List Char → Option Nat
  | [] => none
  | cs => valueFrom? base 0 cs

end ClusterClient.Radix
