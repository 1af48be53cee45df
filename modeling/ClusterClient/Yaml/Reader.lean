import ClusterClient.Yaml.Node
namespace ClusterClient.Yaml

-- How documents are read is left to who knows the whole language: what nodes there are, and what
-- each of them is where a mapping, a text, a number or one of several names is wanted.
structure Reader where
  Node : Type
  ofText? : String → Option Node
  pairs? : Node → Option (List (Node × Node))
  text? : Node → Option String
  optionalText? : Node → Option (Option String)
  bool? : Node → Option Bool
  natural? : Node → Option Nat
  name? : Node → Option String

namespace Node

def isNull (text : String) : Bool := text == "~" || text == "null" || text == "Null" || text == "NULL"

def pairs? : Node → Option (List (Node × Node))
  | .mapping pairs => some pairs
  | .scalar true "" => some []
  | _ => none

def text? : Node → Option String
  | .scalar _ text => some text
  | _ => none

def optionalText? : Node → Option (Option String)
  | .scalar plain text => some (if plain && (text == "" || isNull text) then none else some text)
  | _ => none

def bool? : Node → Option Bool
  | .scalar true text =>
    if text == "true" || text == "True" || text == "TRUE" then some true
    else if text == "false" || text == "False" || text == "FALSE" then some false
    else none
  | _ => none

def hasLeadingZero (cs : List Char) : Bool :=
  match cs with
  | '0' :: rest => !rest.isEmpty && rest.all Char.isDigit
  | _ => false

-- Decimal, or in base 16, 8 or 2 after 0x, 0o or 0b. A plus sign may lead.
def numeral? (text : String) : Option Nat :=
  let cs := match text.toList with
    | '+' :: rest => rest
    | cs => cs
  match cs with
  | '0' :: 'x' :: rest => Radix.value? 16 rest
  | '0' :: 'o' :: rest => Radix.value? 8 rest
  | '0' :: 'b' :: rest => Radix.value? 2 rest
  | _ => if hasLeadingZero cs then none else Radix.value? 10 cs

def natural? : Node → Option Nat
  | .scalar true text => numeral? text
  | _ => none

end Node

-- Block and flow collections with plain and quoted scalars. Documents with anchors, tags, block
-- scalars or directives are refused.
def Reader.plain : Reader where
  Node := Yaml.Node
  ofText? := Node.ofText?
  pairs? := Node.pairs?
  text? := Node.text?
  optionalText? := Node.optionalText?
  bool? := Node.bool?
  natural? := Node.natural?
  name? := Node.text?

end ClusterClient.Yaml
