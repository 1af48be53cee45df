import ClusterClient.Text.Percent
import ClusterClient.Text.Basic
namespace ClusterClient.Http

def isForbidden (c : Char) : Bool :=
  c.toNat ≤ 0x20 || c.toNat == 0x7F || "#%/:<>?@[\\]^|".toList.contains c

def partValue? : List Char → Option Nat
  | '0' :: 'x' :: digits => Radix.valueFrom? 16 0 digits
  | '0' :: 'X' :: digits => Radix.valueFrom? 16 0 digits
  | '0' :: digits => Radix.valueFrom? 8 0 digits
  | digits => Radix.value? 10 digits

def labels (host : List Char) : List (List Char) :=
  let all := Text.split '.' host
  if 1 < all.length && all.getLast? == some [] then all.dropLast else all

def isNumeric (label : List Char) : Bool :=
  (!label.isEmpty && label.all Char.isDigit) || (partValue? label).isSome

-- Up to four parts. Each but the last is one byte, and the last fills what is left.
def isIPv4 (parts : List (List Char)) : Bool :=
  match parts.reverse with
  | [] => false
  | last :: front =>
    front.length ≤ 3 &&
      front.all (fun p => ((partValue? p).map fun n => decide (n ≤ 255)).getD false) &&
      ((partValue? last).map fun n => decide (n < Nat.pow 256 (4 - front.length))).getD false

def isName (host : List Char) : Bool :=
  !host.isEmpty && host.all (fun c => !isForbidden c) &&
    if ((labels host).getLast?.map isNumeric).getD false then isIPv4 (labels host) else true

-- The ASCII form of a name, if it has one. Names in other scripts get theirs from tables that are
-- not written down here.
abbrev Naming := List Char → Option (List Char)

def asciiNaming : Naming := fun name => some (name.map Char.toLower)

def readName (naming : Naming) (host : List Char) : Option (List Char) :=
  (naming (Utf8.decode (Percent.bytes host)).toList).filter isName

def isGroup (group : List Char) : Bool := group.length ≤ 4 && (Radix.value? 16 group).isSome

def isByte (part : List Char) : Bool :=
  ((Radix.value? 10 part).map fun n => decide (n ≤ 255)).getD false && (part.length == 1 || part.head? != some '0')

def isDotted (group : List Char) : Bool :=
  (Text.split '.' group).length == 4 && (Text.split '.' group).all isByte

def groupCount? : List (List Char) → Option Nat
  | [] => some 0
  | [last] => if isGroup last then some 1 else if isDotted last then some 2 else none
  | group :: next :: rest => if isGroup group then (groupCount? (next :: rest)).map (· + 1) else none

def cutColons : List Char → Option (List Char × List Char)
  | [] => none
  | ':' :: ':' :: rest => some ([], rest)
  | c :: rest => (cutColons rest).map fun p => (c :: p.1, p.2)

def groups (side : List Char) : List (List Char) := if side = [] then [] else Text.split ':' side

def isIPv6 (cs : List Char) : Bool :=
  match cutColons cs with
  | none => groupCount? (groups cs) == some 8
  | some (left, right) =>
    (groups left).all isGroup && ((groupCount? (groups right)).map fun n => decide ((groups left).length + n ≤ 7)).getD false

def cutPort (naming : Naming) : List Char → Option (List Char × List Char)
  | '[' :: rest =>
    match rest.dropWhile (fun c => c != ']') with
    | ']' :: after => if isIPv6 (rest.takeWhile fun c => c != ']') then some ('[' :: rest.takeWhile (fun c => c != ']') ++ [']'], after) else none
    | _ => none
  | cs =>
    let host := cs.takeWhile fun c => c != ':'
    (readName naming host).map fun name => (name, cs.drop host.length)

def isPort : List Char → Bool
  | [] => true
  | ':' :: digits => digits.isEmpty || ((Radix.value? 10 digits).map fun n => decide (n ≤ 65535)).getD false
  | _ => false

def readServer (naming : Naming) (cs : List Char) : Option (List Char) :=
  match cutPort naming cs with
  | some (host, port) => if isPort port then some (host ++ port) else none
  | none => none

end ClusterClient.Http
