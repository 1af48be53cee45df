namespace ClusterClient.Similar

def occupy (c : Char) (low high : Nat) : Nat → List (Char × Bool) → Option (List (Char × Bool))
  | _, [] => none
  | i, (x, taken) :: rest =>
    if low ≤ i && i < high && x == c && !taken then some ((x, true) :: rest)
    else
      match occupy c low high (i + 1) rest with
      | some rest => some ((x, taken) :: rest)
      | none => none

def matchUp (range : Nat) : Nat → List Char → List (Char × Bool) → List Char × List (Char × Bool)
  | _, [], places => ([], places)
  | i, c :: rest, places =>
    match occupy c (i - range) (i + range + 1) 0 places with
    | some places =>
      let (found, places) := matchUp range (i + 1) rest places
      (c :: found, places)
    | none => matchUp range (i + 1) rest places

structure Score where
  num : Nat
  den : Nat

def zero : Score := ⟨0, 1⟩

-- m of a and m of b characters match, t pairs of them out of order.
def mean (a b m t : Nat) : Score := ⟨m * b * m + m * a * m + (m - t) * a * b, 3 * a * b * m⟩

-- Characters match if they are equal and stand not far from each other.
def score (s t : List Char) : Score :=
  if s = [] ∧ t = [] then ⟨1, 1⟩
  else
    let range := max s.length t.length / 2 - 1
    let (left, places) := matchUp range 0 s (t.map fun c => (c, false))
    let right := (places.filter (·.2)).map (·.1)
    let swapped := ((left.zip right).filter fun p => p.1 != p.2).length
    if left = [] then zero else mean s.length t.length left.length (swapped / 2)

def Score.le (x y : Score) : Bool := x.num * y.den ≤ y.num * x.den

def threshold : Score := ⟨7, 10⟩

-- The candidate most like the text, if one is alike enough; of equals the last.
def best (text : String) (candidates : List String) : Option String :=
  let scored := candidates.map fun c => (score text.toList c.toList, c)
  ((scored.filter fun p => threshold.le p.1).foldl (fun found p =>
    match found with
    | none => some p
    | some q => if q.1.le p.1 then some p else some q) none).map (·.2)

end ClusterClient.Similar
