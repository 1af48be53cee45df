import ClusterClient.Yaml.Token
namespace ClusterClient.Yaml

inductive Node where
  | scalar (plain : Bool) (text : String)
  | sequence (items : List Node)
  | mapping (pairs : List (Node × Node))

namespace Node

def missing : Node := .scalar true ""

abbrev Read (α : Type) := List Token → Option (α × List Token)

def endsBlockValue : List Token → Bool
  | .key :: _ => true
  | .value :: _ => true
  | .blockEnd :: _ => true
  | _ => false

def endsFlowKey : List Token → Bool
  | .value :: _ => true
  | .comma :: _ => true
  | .flowMappingEnd :: _ => true
  | _ => false

mutual

-- Blocks are read only where one may stand. A sequence that is the value of a key need not be
-- indented, and then has no opening token.
def read (block indentless : Bool) : Nat → Read Node
  | 0, _ => none
  | turns + 1, ts =>
    match ts with
    | .entry :: _ =>
      if indentless then do
        let (items, ts) ← looseItems turns ts
        return (.sequence items, ts)
      else none
    | .scalar plain text :: ts => some (.scalar plain text, ts)
    | .flowSequence :: ts => do
      let (items, ts) ← flowItems true turns ts
      return (.sequence items, ts)
    | .flowMapping :: ts => do
      let (pairs, ts) ← flowPairs true turns ts
      return (.mapping pairs, ts)
    | .blockSequence :: ts =>
      if block then do
        let (items, ts) ← blockItems turns ts
        return (.sequence items, ts)
      else none
    | .blockMapping :: ts =>
      if block then do
        let (pairs, ts) ← blockPairs turns ts
        return (.mapping pairs, ts)
      else none
    | _ => none

def blockItems : Nat → Read (List Node)
  | 0, _ => none
  | turns + 1, ts =>
    match ts with
    | .entry :: ts => do
      let (item, ts) ← match ts with
        | .entry :: _ => some (missing, ts)
        | .blockEnd :: _ => some (missing, ts)
        | _ => read true false turns ts
      let (items, ts) ← blockItems turns ts
      return (item :: items, ts)
    | .blockEnd :: ts => some ([], ts)
    | _ => none

def looseItems : Nat → Read (List Node)
  | 0, _ => none
  | turns + 1, ts =>
    match ts with
    | .entry :: ts => do
      let (item, ts) ← match ts with
        | .entry :: _ => some (missing, ts)
        | _ => if endsBlockValue ts then some (missing, ts) else read true false turns ts
      let (items, ts) ← looseItems turns ts
      return (item :: items, ts)
    | _ => some ([], ts)

def blockPairs : Nat → Read (List (Node × Node))
  | 0, _ => none
  | turns + 1, ts =>
    match ts with
    | .key :: ts => do
      let (key, ts) ← if endsBlockValue ts then some (missing, ts) else read true true turns ts
      let (value, ts) ← match ts with
        | .value :: ts => if endsBlockValue ts then some (missing, ts) else read true true turns ts
        | _ => some (missing, ts)
      let (pairs, ts) ← blockPairs turns ts
      return ((key, value) :: pairs, ts)
    | .blockEnd :: ts => some ([], ts)
    | _ => none

-- Items are parted by commas, of which one may stand after the last. A key among the items is a
-- mapping of one pair.
def flowItems (first : Bool) : Nat → Read (List Node)
  | 0, _ => none
  | turns + 1, ts =>
    match ts with
    | .flowSequenceEnd :: ts => some ([], ts)
    | _ => do
      let ts ← if first then some ts else match ts with
        | .comma :: ts => some ts
        | _ => none
      match ts with
      | .flowSequenceEnd :: ts => return ([], ts)
      | .key :: ts => do
        let (pair, ts) ← singlePair turns ts
        let (items, ts) ← flowItems false turns ts
        return (.mapping [pair] :: items, ts)
      | _ => do
        let (item, ts) ← read false false turns ts
        let (items, ts) ← flowItems false turns ts
        return (item :: items, ts)

def singlePair : Nat → Read (Node × Node)
  | 0, _ => none
  | turns + 1, ts => do
    let (key, ts) ← match ts with
      | .value :: ts => some (missing, ts)
      | .comma :: ts => some (missing, ts)
      | .flowSequenceEnd :: ts => some (missing, ts)
      | _ => read false false turns ts
    match ts with
    | .value :: ts =>
      match ts with
      | .comma :: _ => return ((key, missing), ts)
      | .flowSequenceEnd :: _ => return ((key, missing), ts)
      | _ => do
        let (value, ts) ← read false false turns ts
        return ((key, value), ts)
    | _ => return ((key, missing), ts)

def flowPairs (first : Bool) : Nat → Read (List (Node × Node))
  | 0, _ => none
  | turns + 1, ts =>
    match ts with
    | .flowMappingEnd :: ts => some ([], ts)
    | _ => do
      let ts ← if first then some ts else match ts with
        | .comma :: ts => some ts
        | _ => none
      match ts with
      | .flowMappingEnd :: ts => return ([], ts)
      | .key :: ts => do
        let (key, ts) ← if endsFlowKey ts then some (missing, ts) else read false false turns ts
        let (value, ts) ← match ts with
          | .value :: ts =>
            match ts with
            | .comma :: _ => some (missing, ts)
            | .flowMappingEnd :: _ => some (missing, ts)
            | _ => read false false turns ts
          | _ => some (missing, ts)
        let (pairs, ts) ← flowPairs false turns ts
        return ((key, value) :: pairs, ts)
      | _ => do
        let (key, ts) ← read false false turns ts
        let (pairs, ts) ← flowPairs false turns ts
        return ((key, missing) :: pairs, ts)

end

def isMark : Token → Bool
  | .documentStart => true
  | .documentEnd => true
  | _ => false

def content (turns : Nat) : Read Node
  | [] => some (missing, [])
  | t :: ts => if isMark t then some (missing, t :: ts) else read true false turns (t :: ts)

def ofTokens? (ts : List Token) : Option Node :=
  let turns := 4 * ts.length + 4
  match ts with
  | [] => some missing
  | .documentStart :: ts => content turns ts >>= finish
  | ts => read true false turns ts >>= finish
where
  finish (r : Node × List Token) : Option Node :=
    if r.2.all (fun t => t == .documentEnd) then some r.1 else none

def ofText? (source : String) : Option Node := (tokens? source).bind ofTokens?

end Node
end ClusterClient.Yaml
