import ClusterClient.Json.Basic
import ClusterClient.Json.Reader
namespace ClusterClient.Json.Grammar
open Decimal (Digits)

def Blank (cs : List Char) : Prop := ∀ c ∈ cs, Reader.isSpace c = true

theorem blank_nil : Blank [] := by simp [Blank]

inductive WholeSpelled : Digits → List Char → Prop where
  | zero : WholeSpelled [0] ['0']
  | digits (d : Fin 10) (more : Digits) : d ≠ 0 → WholeSpelled (d :: more) (Decimal.chars (d :: more))

inductive FractionSpelled : Option Digits → List Char → Prop where
  | none : FractionSpelled none []
  | some (d : Fin 10) (more : Digits) :
      FractionSpelled (some (d :: more)) ('.' :: Decimal.chars (d :: more))

inductive ExponentSpelled : Option Exponent → List Char → Prop where
  | none : ExponentSpelled none []
  | unsigned (d : Fin 10) (more : Digits) : letter = 'e' ∨ letter = 'E' →
      ExponentSpelled (some ⟨false, d :: more⟩) (letter :: Decimal.chars (d :: more))
  | signed (negative : Bool) (d : Fin 10) (more : Digits) : letter = 'e' ∨ letter = 'E' →
      ExponentSpelled (some ⟨negative, d :: more⟩)
        (letter :: (if negative then '-' else '+') :: Decimal.chars (d :: more))

def sign (negative : Bool) : List Char := if negative then ['-'] else []

inductive NumberSpelled : Number → List Char → Prop where
  | parts (negative : Bool) : WholeSpelled whole ws → FractionSpelled fraction fs →
      ExponentSpelled exponent es →
      NumberSpelled ⟨negative, whole, fraction, exponent⟩ (sign negative ++ (ws ++ (fs ++ es)))

def shortEscapes : List (Char × Char) :=
  [('"', '"'), ('\\', '\\'), ('/', '/'), ('b', '\x08'), ('f', '\x0c'), ('n', '\n'), ('r', '\r'), ('t', '\t')]

inductive FourHex : Nat → List Char → Prop where
  | digits : Percent.hexValue? a = some w → Percent.hexValue? b = some x →
      Percent.hexValue? c = some y → Percent.hexValue? d = some z →
      FourHex (((w * 16 + x) * 16 + y) * 16 + z) [a, b, c, d]

-- A character past FFFF is escaped as a pair of surrogates, and no surrogate stands alone.
inductive CharSpelled : Char → List Char → Prop where
  | plain (c : Char) : 0x20 ≤ c.toNat → c ≠ '"' → c ≠ '\\' → CharSpelled c [c]
  | short : (letter, c) ∈ shortEscapes → CharSpelled c ['\\', letter]
  | code : FourHex n cs → Reader.isLowSurrogate n = false → Reader.isHighSurrogate n = false →
      CharSpelled (Char.ofNat n) ('\\' :: 'u' :: cs)
  | pair : FourHex high cs → FourHex low ds → Reader.isHighSurrogate high = true →
      Reader.isLowSurrogate low = true →
      CharSpelled (Char.ofNat (0x10000 + (high - 0xD800) * 0x400 + (low - 0xDC00)))
        ('\\' :: 'u' :: (cs ++ '\\' :: 'u' :: ds))

inductive ContentSpelled : List Char → List Char → Prop where
  | nil : ContentSpelled [] []
  | cons : CharSpelled c cs → ContentSpelled content ds → ContentSpelled (c :: content) (cs ++ ds)

inductive StringSpelled : String → List Char → Prop where
  | quoted : ContentSpelled s.toList cs → StringSpelled s ('"' :: (cs ++ ['"']))

inductive Followed {α : Type} (piece : α → List Char → Prop) : List α → List Char → Prop where
  | nothing : Followed piece [] []
  | comma : piece x cs → Followed piece xs ds → Followed piece (x :: xs) (',' :: (cs ++ ds))

inductive ItemSpelled (inner : Json → List Char → Prop) : Json → List Char → Prop where
  | item : Blank front → inner v cs → Blank back → ItemSpelled inner v (front ++ (cs ++ back))

inductive MemberSpelled (inner : Json → List Char → Prop) : String × Json → List Char → Prop where
  | member : Blank front → StringSpelled key ks → Blank back → ItemSpelled inner v cs →
      MemberSpelled inner (key, v) (front ++ (ks ++ (back ++ ':' :: cs)))

inductive LeafSpelled : Json → List Char → Prop where
  | null : LeafSpelled .null ['n', 'u', 'l', 'l']
  | true : LeafSpelled (.bool true) ['t', 'r', 'u', 'e']
  | false : LeafSpelled (.bool false) ['f', 'a', 'l', 's', 'e']
  | number : NumberSpelled n cs → LeafSpelled (.number n) cs
  | string : StringSpelled s cs → LeafSpelled (.string s) cs

-- An object that begins with the number key is read as a number, so it spells no object.
inductive ValueSpelled (inner : Json → List Char → Prop) : Json → List Char → Prop where
  | leaf : LeafSpelled v cs → ValueSpelled inner v cs
  | emptyArray : Blank cs → ValueSpelled inner (.array []) ('[' :: (cs ++ [']']))
  | array : ItemSpelled inner v cs → Followed (ItemSpelled inner) items ds →
      ValueSpelled inner (.array (v :: items)) ('[' :: (cs ++ (ds ++ [']'])))
  | emptyObject : Blank cs → ValueSpelled inner (.object []) ('\x7b' :: (cs ++ ['\x7d']))
  | object : key ≠ Reader.numberKey → MemberSpelled inner (key, v) cs →
      Followed (MemberSpelled inner) members ds →
      ValueSpelled inner (.object ((key, v) :: members)) ('\x7b' :: (cs ++ (ds ++ ['\x7d'])))

def Spelled : Nat → Json → List Char → Prop
  | 0 => LeafSpelled
  | depth + 1 => ValueSpelled (Spelled depth)

def TextSpelled (v : Json) (text : String) : Prop := ItemSpelled (Spelled Reader.maxDepth) v text.toList

mutual

def settled : Json → Json
  | .null => .null
  | .bool b => .bool b
  | .number n => .number n
  | .string s => .string s
  | .array items => .array (settledItems items)
  | .object members => .object (Members.ofList (settledMembers members))

def settledItems : List Json → List Json
  | [] => []
  | v :: rest => settled v :: settledItems rest

def settledMembers : List (String × Json) → List (String × Json)
  | [] => []
  | (key, v) :: rest => (key, settled v) :: settledMembers rest

end

theorem settledItems_eq_map (items : List Json) : settledItems items = items.map settled := by
  induction items with
  | nil => rfl
  | cons v rest ih => rw [settledItems,ih,List.map_cons]

theorem settledMembers_eq_map (members : List (String × Json)) :
    settledMembers members = members.map (fun pair => (pair.1,settled pair.2)) := by
  induction members with
  | nil => rfl
  | cons pair rest ih => rw [settledMembers,ih,List.map_cons]

theorem settled_leaf (spelled : LeafSpelled v cs) : settled v = v := by
  cases spelled <;> rfl

end ClusterClient.Json.Grammar
