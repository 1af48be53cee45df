import ClusterClient.Text.Basic
namespace ClusterClient.Base64

def symbol (n : Nat) : Char :=
  if n < 26 then Char.ofNat (65 + n)
  else if n < 52 then Char.ofNat (71 + n)
  else if n < 62 then Char.ofNat (n - 4)
  else if n = 62 then '+' else '/'

def sextet? (c : Char) : Option Nat :=
  let n := c.toNat
  if 65 ≤ n ∧ n ≤ 90 then some (n - 65)
  else if 97 ≤ n ∧ n ≤ 122 then some (n - 71)
  else if 48 ≤ n ∧ n ≤ 57 then some (n + 4)
  else if c = '+' then some 62
  else if c = '/' then some 63
  else none

def encode : List UInt8 → List Char
  | [] => []
  | [a] => [symbol (a.toNat / 4), symbol (a.toNat % 4 * 16), '=', '=']
  | [a, b] =>
    [symbol (a.toNat / 4), symbol (a.toNat % 4 * 16 + b.toNat / 16), symbol (b.toNat % 16 * 4), '=']
  | a :: b :: c :: rest =>
    symbol (a.toNat / 4) :: symbol (a.toNat % 4 * 16 + b.toNat / 16) ::
      symbol (b.toNat % 16 * 4 + c.toNat / 64) :: symbol (c.toNat % 64) :: encode rest

-- Sextets to bytes. One left over is no byte, and what does not fill a byte has to be zero.
def pack : List Nat → Option (List UInt8)
  | [] => some []
  | [_] => none
  | [w, x] => if x % 16 = 0 then some [UInt8.ofNat (w * 4 + x / 16)] else none
  | [w, x, y] =>
    if y % 4 = 0 then some [UInt8.ofNat (w * 4 + x / 16), UInt8.ofNat (x % 16 * 16 + y / 4)] else none
  | w :: x :: y :: z :: rest =>
    match pack rest with
    | some more =>
      some (UInt8.ofNat (w * 4 + x / 16) :: UInt8.ofNat (x % 16 * 16 + y / 4) ::
        UInt8.ofNat (y % 4 * 64 + z) :: more)
    | none => none

def sextets? : List Char → Option (List Nat)
  | [] => some []
  | c :: rest =>
    match sextet? c, sextets? rest with
    | some n, some more => some (n :: more)
    | _, _ => none

-- Padding stands at the end only and never runs past its group.
def decode (source : List Char) : Option (List UInt8) :=
  let compact := source.filter (fun c => !Text.isAsciiBlank c)
  let symbols := compact.takeWhile (fun c => c != '=')
  let padding := compact.dropWhile (fun c => c != '=')
  if padding.all (fun c => c == '=') && padding.length ≤ (4 - symbols.length % 4) % 4 then
    match sextets? symbols with
    | some ns => pack ns
    | none => none
  else none

end ClusterClient.Base64
