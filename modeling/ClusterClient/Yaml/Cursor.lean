namespace ClusterClient.Yaml

def isBreak (c : Char) : Bool :=
  c == '\n' || c == '\r' || c == '\u0085' || c == '\u2028' || c == '\u2029'

def isBlank (c : Char) : Bool := c == ' ' || c == '\t'

def isAllowed (c : Char) : Bool :=
  let n := c.toNat
  n == 9 || n == 10 || n == 13 || (0x20 ≤ n && n ≤ 0x7E) || n == 0x85 || (0xA0 ≤ n && n ≤ 0xFFFD) || 0x10000 ≤ n

structure Cursor where
  rest : List Char
  line : Nat
  column : Nat
  index : Nat

namespace Cursor

def start (source : List Char) : Cursor := ⟨source, 0, 0, 0⟩

def next (c : Cursor) : Cursor := ⟨c.rest.tail, c.line, c.column + 1, c.index + 1⟩

def skip (n : Nat) (c : Cursor) : Cursor := ⟨c.rest.drop n, c.line, c.column + n, c.index + n⟩

-- A carriage return and the line feed after it are one line end.
def nextLine (c : Cursor) : Cursor :=
  match c.rest with
  | '\r' :: '\n' :: rest => ⟨rest, c.line + 1, 0, c.index + 2⟩
  | _ :: rest => ⟨rest, c.line + 1, 0, c.index + 1⟩
  | [] => c

-- What a line end counts as in a scalar: separators stay, all others are a line feed.
def breakText (c : Cursor) : List Char :=
  match c.rest with
  | '\u2028' :: _ => ['\u2028']
  | '\u2029' :: _ => ['\u2029']
  | _ => ['\n']

def atEnd (c : Cursor) : Bool := c.rest.isEmpty

def at? (p : Char → Bool) (c : Cursor) : Bool :=
  match c.rest with
  | [] => false
  | x :: _ => p x

def spaceAt (n : Nat) (c : Cursor) : Bool :=
  match c.rest.drop n with
  | [] => true
  | x :: _ => isBlank x || isBreak x

def marks (mark : List Char) (c : Cursor) : Bool := c.column == 0 && mark.isPrefixOf c.rest && c.spaceAt 3

def startsDocument (c : Cursor) : Bool := c.marks ['-', '-', '-']

def endsDocument (c : Cursor) : Bool := c.marks ['.', '.', '.']

def atDocumentMark (c : Cursor) : Bool := c.startsDocument || c.endsDocument

end Cursor
end ClusterClient.Yaml
