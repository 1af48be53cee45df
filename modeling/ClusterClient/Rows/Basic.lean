import ClusterClient.Failure
import ClusterClient.Text.Decimal
namespace ClusterClient

-- Decoding may have an effect, which then takes place at the first fetch.
inductive RowStage (m : Type → Type) (α : Type) where
  | pending (decode : m (Except Failure (List α)))
  | streaming (rows : List α)
  | done

structure RowSet (m : Type → Type) (α : Type) where
  name : String
  stage : RowStage m α

namespace RowSet
variable {m : Type → Type} {α : Type}

def fresh (name : String) (decode : m (Except Failure (List α))) : RowSet m α := ⟨name, .pending decode⟩

-- The first of the rows, and the set without it. A set without rows is done only after a fetch
-- that found none.
def take (name : String) : List α → Except Failure (Option α) × RowSet m α
  | [] => (.ok none, ⟨name, .done⟩)
  | row :: rest => (.ok (some row), ⟨name, .streaming rest⟩)

-- A failed decode is reported once; after it there are no rows.
def next [Monad m] (set : RowSet m α) : m (Except Failure (Option α) × RowSet m α) :=
  match set.stage with
  | .pending decode => do
    match ← decode with
    | .ok rows => return take set.name rows
    | .error failure => return (.error failure, ⟨set.name, .done⟩)
  | .streaming rows => pure (take set.name rows)
  | .done => pure (.ok none, set)

def transpose : Except Failure (Option α) → Option (Except Failure α)
  | .ok (some row) => some (.ok row)
  | .ok none => none
  | .error failure => some (.error failure)

def pull [Monad m] (set : RowSet m α) : m (Option (Except Failure α) × RowSet m α) := do
  let (result, after) ← set.next
  return (transpose result, after)

def remaining (set : RowSet m α) : Option Nat :=
  match set.stage with
  | .pending _ => none
  | .streaming rows => some rows.length
  | .done => some 0

def isDone (set : RowSet m α) : Bool :=
  match set.stage with
  | .done => true
  | _ => false

def remainingText (set : RowSet m α) : String :=
  match set.remaining with
  | none => "None"
  | some n => "Some(" ++ Decimal.text n ++ ")"

def describe (set : RowSet m α) : String :=
  "RowSet \x7b name: \"" ++ set.name ++ "\", remaining: " ++ set.remainingText ++ " \x7d"

def drain (turns : Nat) (set : RowSet Id α) : List (Except Failure α) × RowSet Id α :=
  match turns with
  | 0 => ([], set)
  | turns + 1 =>
    match Id.run set.pull with
    | (none, after) => ([], after)
    | (some result, after) => (result :: (drain turns after).1, (drain turns after).2)

-- As many turns as drain the set: its rows or its one failure, and the fetch that finds none.
def turns (set : RowSet Id α) : Nat :=
  match set.stage with
  | .pending decode =>
    match Id.run decode with
    | .ok rows => rows.length + 1
    | .error _ => 2
  | .streaming rows => rows.length + 1
  | .done => 1

def rest (set : RowSet Id α) : List (Except Failure α) × RowSet Id α := set.drain set.turns

end RowSet
end ClusterClient
