import ClusterClient.Text.Percent
import ClusterClient.Yaml.Cursor
namespace ClusterClient.Yaml

structure Gap where
  blanks : List Char := []
  broken : Bool := false
  first : List Char := []
  more : List Char := []

-- One line end is a space, and of several the first is dropped. Blanks around them are too.
def Gap.text (gap : Gap) : List Char :=
  if gap.broken then
    if gap.first = ['\n'] then (if gap.more = [] then [' '] else gap.more) else gap.first ++ gap.more
  else gap.blanks

def readGap (margin : Nat) : Nat → Gap → Cursor → Option (Gap × Cursor)
  | 0, gap, c => some (gap, c)
  | turns + 1, gap, c =>
    if c.at? isBlank then
      if gap.broken then
        if c.at? (fun x => x == '\t') && c.column < margin then none else readGap margin turns gap c.next
      else readGap margin turns { gap with blanks := gap.blanks ++ c.rest.take 1 } c.next
    else if c.at? isBreak then
      if gap.broken then readGap margin turns { gap with more := gap.more ++ c.breakText } c.nextLine
      else readGap margin turns { gap with blanks := [], broken := true, first := c.breakText } c.nextLine
    else some (gap, c)

def isFlowMark (c : Char) : Bool := c == ',' || c == '[' || c == ']' || c == '\x7b' || c == '\x7d'

-- A colon that nothing follows ends a plain scalar, and inside brackets a bracket or comma does.
-- Inside brackets a colon right before one of these is refused.
def plainRun (flow : Bool) : Nat → Cursor → Option (List Char × Cursor)
  | 0, c => some ([], c)
  | turns + 1, c =>
    match c.rest with
    | [] => some ([], c)
    | x :: rest =>
      if isBlank x || isBreak x then some ([], c)
      else if flow && x == ':' && (Cursor.at? (fun y => isFlowMark y || y == '?') ⟨rest, 0, 0, 0⟩) then none
      else if (x == ':' && c.spaceAt 1) || (flow && isFlowMark x) then some ([], c)
      else
        match plainRun flow turns c.next with
        | some (run, after) => some (x :: run, after)
        | none => none

structure Scanned where
  text : List Char
  broken : Bool
  after : Cursor

-- Parts of a plain scalar, the text so far and the gap before the next part being given. In
-- block context a line that is not indented past the margin ends it.
def plainParts (flow : Bool) (margin : Nat) : Nat → List Char → Gap → Cursor → Option Scanned
  | 0, text, gap, c => some ⟨text, gap.broken, c⟩
  | turns + 1, text, gap, c =>
    if c.atDocumentMark || c.at? (fun x => x == '#') then some ⟨text, gap.broken, c⟩
    else
      match plainRun flow (c.rest.length + 1) c with
      | none => none
      | some ([], c) => some ⟨text, gap.broken, c⟩
      | some (run, c) =>
        let text := text ++ gap.text ++ run
        if c.atEnd || !c.spaceAt 0 then some ⟨text, false, c⟩
        else
          match readGap margin (c.rest.length + 1) {} c with
          | none => none
          | some (gap, c) =>
            if !flow && c.column < margin then some ⟨text, gap.broken, c⟩
            else plainParts flow margin turns text gap c

def plainScalar (flow : Bool) (margin : Nat) (c : Cursor) : Option Scanned :=
  plainParts flow margin (c.rest.length + 1) [] {} c

def escapeOf? (c : Char) : Option Char :=
  match c with
  | '0' => some '\x00'
  | 'a' => some '\x07'
  | 'b' => some '\x08'
  | 't' => some '\t'
  | '\t' => some '\t'
  | 'n' => some '\n'
  | 'v' => some '\x0b'
  | 'f' => some '\x0c'
  | 'r' => some '\r'
  | 'e' => some '\x1b'
  | ' ' => some ' '
  | '"' => some '"'
  | '/' => some '/'
  | '\\' => some '\\'
  | 'N' => some '\u0085'
  | '_' => some '\u00a0'
  | 'L' => some '\u2028'
  | 'P' => some '\u2029'
  | _ => none

def hexLength? (c : Char) : Option Nat :=
  match c with
  | 'x' => some 2
  | 'u' => some 4
  | 'U' => some 8
  | _ => none

def scalarOfHex? (digits : List Char) : Option Char := do
  let n ← Radix.value? 16 digits
  if n.isValidChar then some (Char.ofNat n) else none

-- The characters up to a blank, a line end or the closing quote; and whether they ended with an
-- escaped line end, which joins the lines.
def quotedRun (single : Bool) : Nat → Cursor → Option (List Char × Bool × Cursor)
  | 0, c => some ([], false, c)
  | turns + 1, c =>
    let more (x : Char) (after : Cursor) : Option (List Char × Bool × Cursor) :=
      match quotedRun single turns after with
      | some (run, escaped, after) => some (x :: run, escaped, after)
      | none => none
    match c.rest with
    | [] => some ([], false, c)
    | x :: rest =>
      if isBlank x || isBreak x then some ([], false, c)
      else if single then
        if x == '\'' then
          match rest with
          | '\'' :: _ => more '\'' (c.skip 2)
          | _ => some ([], false, c)
        else more x c.next
      else if x == '"' then some ([], false, c)
      else if x == '\\' then
        match rest with
        | [] => none
        | y :: digits =>
          if isBreak y then some ([], true, c.next.nextLine)
          else
            match escapeOf? y, hexLength? y with
            | some z, _ => more z (c.skip 2)
            | none, some n =>
              if digits.length < n then none
              else
                match scalarOfHex? (digits.take n) with
                | some z => more z (c.skip (2 + n))
                | none => none
            | none, none => none
      else more x c.next

def quotedParts (single : Bool) : Nat → List Char → Cursor → Option Scanned
  | 0, _, _ => none
  | turns + 1, text, c =>
    if c.atDocumentMark || c.atEnd then none
    else
      match quotedRun single (c.rest.length + 1) c with
      | none => none
      | some (run, escaped, c) =>
        if c.at? (fun x => x == if single then '\'' else '"') then some ⟨text ++ run, false, c.next⟩
        else
          match readGap 0 (c.rest.length + 1) { broken := escaped } c with
          | none => none
          | some (gap, c) => quotedParts single turns (text ++ run ++ gap.text) c

def quotedScalar (single : Bool) (c : Cursor) : Option Scanned := quotedParts single (c.rest.length + 2) [] c

end ClusterClient.Yaml
