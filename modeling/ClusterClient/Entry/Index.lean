import ClusterClient.Json.Basic
namespace ClusterClient.Index
open Decimal

def limit : Nat := 18446744073709551616

def ofNat? (n : Nat) : Option UInt64 := if n < limit then some (UInt64.ofNat n) else none

def roundHalfEven (num den : Nat) : Nat :=
  let q := num / den
  let r := num % den
  if 2 * r < den then q else if den < 2 * r then q + 1 else q + q % 2

def bitLength (n : Nat) : Nat := if n = 0 then 0 else n.log2 + 1

-- The whole part of num / den after rounding to 53 significant bits. Below one half nothing is
-- rounded up to one, so numbers without a whole part may share one grid.
def roundedWhole (num den : Nat) : Nat :=
  let bits := bitLength (num / den)
  let unit := Nat.pow 2 (bits - 53)
  let parts := Nat.pow 2 (53 - bits)
  roundHalfEven (num * parts) (den * unit) * unit / parts

-- The whole part of digits times a power of ten; none if it reaches 10^20, which is past every
-- word. Anything below a tenth has none either, so no power is ever large.
def scaledWhole? (digits : Digits) (scale : Int) : Option Nat :=
  let significant := digits.dropWhile (fun d => d.val == 0)
  let top : Int := significant.length + scale
  if significant.isEmpty || top < 0 then some 0
  else if 20 < top then none
  else if 0 ≤ scale then some (roundedWhole (value significant * Nat.pow 10 scale.toNat) 1)
  else some (roundedWhole (value significant) (Nat.pow 10 (-scale).toNat))

-- Without an exponent the number is cut at its point, exactly; only one with an exponent is rounded
-- before.
def ofNumber? (n : Json.Number) : Option UInt64 :=
  match n.exponent with
  | none =>
    if n.negative then
      if value n.whole = 0 then some 0 else none
    else ofNat? (value n.whole)
  | some _ =>
    match scaledWhole? n.digits n.scale with
    | none => none
    | some whole =>
      if n.negative then
        if whole = 0 then some 0 else none
      else ofNat? whole

end ClusterClient.Index
