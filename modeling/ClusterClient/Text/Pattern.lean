import ClusterClient.Text.Decimal
namespace ClusterClient

inductive Pattern where
  | nothing
  | among (runs : List (Char × Char))
  | atMost (most : Nat) (runs : List (Char × Char))
  | exactly (c : Char)
  | both (first second : Pattern)
  | optional (inner : Pattern)
  | many (inner : Pattern)
deriving DecidableEq

namespace Pattern

def inRuns (runs : List (Char × Char)) (c : Char) : Bool := runs.any fun run => run.1 ≤ c && c ≤ run.2

def matchesEmpty : Pattern → Bool
  | nothing => true
  | among _ => false
  | atMost _ _ => true
  | exactly _ => false
  | both first second => first.matchesEmpty && second.matchesEmpty
  | optional _ => true
  | many _ => true

-- What may be left of a pattern after a character, one for each way it can be read.
def after (c : Char) : Pattern → List Pattern
  | nothing => []
  | among runs => if inRuns runs c then [nothing] else []
  | atMost 0 _ => []
  | atMost (most + 1) runs => if inRuns runs c then [atMost most runs] else []
  | exactly d => if c = d then [nothing] else []
  | both first second =>
    (first.after c).map (fun left => both left second) ++ if first.matchesEmpty then second.after c else []
  | optional inner => inner.after c
  | many inner => (inner.after c).map fun left => both left (many inner)

def anyAccepts : List Pattern → List Char → Bool
  | ways, [] => ways.any matchesEmpty
  | ways, c :: rest => anyAccepts (ways.flatMap (after c)) rest

def accepts (pattern : Pattern) (text : String) : Bool := anyAccepts [pattern] text.toList

def runText (run : Char × Char) : List Char := if run.1 = run.2 then [run.1] else [run.1, '-', run.2]

def runsText (runs : List (Char × Char)) : String := "[" ++ String.ofList (runs.flatMap runText) ++ "]"

-- How the pattern is written. A character that might be taken for more than itself stands behind a
-- backslash.
def text : Pattern → String
  | nothing => ""
  | among runs => runsText runs
  | atMost most runs => runsText runs ++ "\x7b0," ++ Decimal.text most ++ "\x7d"
  | exactly c => if c.isAlphanum then String.singleton c else "\\" ++ String.singleton c
  | both first second => first.text ++ second.text
  | optional inner => "(" ++ inner.text ++ ")?"
  | many inner => "(" ++ inner.text ++ ")*"

end Pattern
end ClusterClient
