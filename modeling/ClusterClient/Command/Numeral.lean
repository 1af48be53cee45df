import ClusterClient.Text.Decimal
namespace ClusterClient.Numeral

inductive Fault where
  | empty | badDigit | tooLarge | tooSmall
  | outOfRange (n : Int)
deriving DecidableEq

def intText (n : Int) : String := (if n < 0 then "-" else "") ++ Decimal.text n.natAbs

def Fault.text : Fault → String
  | .empty => "cannot parse integer from empty string"
  | .badDigit => "invalid digit found in string"
  | .tooLarge => "number too large to fit in target type"
  | .tooSmall => "number too small to fit in target type"
  | .outOfRange n => intText n ++ " is not in 1..=65535"

-- The digits after those that spell the number given first. Past the limit reading stops.
def digits (limit : Nat) (past : Fault) : Nat → List Char → Except Fault Nat
  | n, [] => .ok n
  | n, c :: rest =>
    match Decimal.digit? c with
    | none => .error .badDigit
    | some d => if limit < 10 * n + d.val then .error past else digits limit past (10 * n + d.val) rest

def someDigits (limit : Nat) (past : Fault) (cs : List Char) : Except Fault Nat :=
  if cs = [] then .error .badDigit else digits limit past 0 cs

def unsigned (limit : Nat) (source : String) : Except Fault Nat :=
  match source.toList with
  | [] => .error .empty
  | '+' :: rest => someDigits limit .tooLarge rest
  | cs => someDigits limit .tooLarge cs

def signed (limit : Nat) (source : String) : Except Fault Int :=
  match source.toList with
  | '-' :: rest =>
    match someDigits (limit + 1) .tooSmall rest with
    | .ok n => .ok (-(n : Int))
    | .error fault => .error fault
  | _ =>
    match unsigned limit source with
    | .ok n => .ok n
    | .error fault => .error fault

def word64 (source : String) : Except Fault UInt64 :=
  match unsigned 18446744073709551615 source with
  | .ok n => .ok (UInt64.ofNat n)
  | .error fault => .error fault

-- A number of milliseconds, read as a signed word and then held against its range.
def timeout (source : String) : Except Fault UInt32 :=
  match signed 9223372036854775807 source with
  | .ok n => if 1 ≤ n ∧ n ≤ 65535 then .ok (UInt32.ofNat n.toNat) else .error (.outOfRange n)
  | .error fault => .error fault

end ClusterClient.Numeral
