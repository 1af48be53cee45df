import ClusterClient.Rows.Basic
import Mathlib.Logic.Function.Basic
namespace ClusterClient.RowSet

inductive Fetch where
  | next
  | pull

inductive Answer (α : Type) where
  | next (result : Except Failure (Option α))
  | pull (result : Option (Except Failure α))

def Fetch.answer {α : Type} : Fetch → Except Failure (Option α) → Answer α
  | .next, result => .next result
  | .pull, result => .pull (transpose result)

structure Record (α : Type) where
  answer : Answer α
  remaining : Option Nat

variable {m : Type → Type} {α : Type}

def fetch [Monad m] (set : RowSet m α) : Fetch → m (Answer α × RowSet m α)
  | .next => do
    let (result, after) ← set.next
    return (.next result, after)
  | .pull => do
    let (result, after) ← set.pull
    return (.pull result, after)

def fetchAll [Monad m] : RowSet m α → List Fetch → m (List (Record α) × RowSet m α)
  | set, [] => pure ([], set)
  | set, how :: more => do
    let (answer, after) ← set.fetch how
    let (records, last) ← after.fetchAll more
    return (⟨answer, after.remaining⟩ :: records, last)

def resultAt (word : Except Failure (List α)) (earlier : Nat) : Except Failure (Option α) :=
  match word with
  | .ok rows => .ok rows[earlier]?
  | .error failure => if earlier = 0 then .error failure else .ok none

-- How many rows wait after so many fetches.
def left (word : Except Failure (List α)) (fetched : Nat) : Nat :=
  match word with
  | .ok rows => rows.length - fetched
  | .error _ => 0

def recordAt (word : Except Failure (List α)) (earlier : Nat) (how : Fetch) : Record α :=
  ⟨how.answer (resultAt word earlier), some (left word (earlier + 1))⟩

-- The set after so many fetches, of which there was one at least. It is done only when a fetch
-- has found nothing.
def settled (m : Type → Type) (name : String) (word : Except Failure (List α)) (fetched : Nat) : RowSet m α :=
  match word with
  | .ok rows => if fetched ≤ rows.length then ⟨name, .streaming (rows.drop fetched)⟩ else ⟨name, .done⟩
  | .error _ => ⟨name, .done⟩

theorem settled_remaining (name : String) (word : Except Failure (List α)) (fetched : Nat) :
    (settled m name word fetched).remaining = some (left word fetched) := by
  cases word with
  | error failure => rfl
  | ok rows =>
    simp only [settled,left]
    split
    · simp [remaining]
    · rename_i past
      have none_left : rows.length - fetched = 0 := by omega
      rw [none_left]
      rfl

theorem take_drop (name : String) (rows : List α) {fetched : Nat} (within : fetched ≤ rows.length) :
    take name (rows.drop fetched) = (.ok rows[fetched]?,settled m name (.ok rows) (fetched + 1)) := by
  by_cases last : fetched = rows.length
  · subst last
    simp [take,settled]
  · have before : fetched < rows.length := by omega
    rw [List.drop_eq_getElem_cons before,List.getElem?_eq_getElem before]
    simp only [take,settled,if_pos (Nat.succ_le_of_lt before)]

section
variable [Monad m]

theorem settled_next (name : String) (word : Except Failure (List α)) {fetched : Nat} (some_fetch : 0 < fetched) :
    (settled m name word fetched).next = pure (resultAt word fetched,settled m name word (fetched + 1)) := by
  cases word with
  | error failure =>
    have later : fetched ≠ 0 := by omega
    simp only [settled,next,resultAt,if_neg later]
  | ok rows =>
    by_cases within : fetched ≤ rows.length
    · have streaming : settled m name (.ok rows) fetched = ⟨name,.streaming (rows.drop fetched)⟩ := by
        simp only [settled,if_pos within]
      rw [streaming,next]
      simp only [take_drop name rows within,resultAt]
    · have done : settled m name (.ok rows) fetched = ⟨name,.done⟩ := by
        simp only [settled,if_neg within]
      have stays : settled m name (.ok rows) (fetched + 1) = ⟨name,.done⟩ := by
        simp only [settled]
        exact if_neg (by omega)
      have missing : rows[fetched]? = none := List.getElem?_eq_none (by omega)
      rw [done,stays,resultAt,missing]
      rfl

theorem fetch_eq_map [LawfulMonad m] (set : RowSet m α) (how : Fetch) :
    set.fetch how = (fun said => (how.answer said.1,said.2)) <$> set.next := by
  cases how with
  | next => simp only [fetch,Fetch.answer,map_eq_pure_bind]
  | pull => simp only [fetch,pull,Fetch.answer,map_eq_pure_bind,bind_assoc,pure_bind]

theorem pull_eq_map [LawfulMonad m] (set : RowSet m α) :
    set.pull = (fun said => (transpose said.1,said.2)) <$> set.next := by
  simp only [pull,map_eq_pure_bind]

theorem fresh_next [LawfulMonad m] (name : String) (decode : m (Except Failure (List α))) :
    (fresh name decode).next =
      decode >>= fun word => pure (resultAt word 0,settled m name word 1) := by
  simp only [fresh,next]
  congr 1
  funext word
  cases word with
  | error failure => rfl
  | ok rows =>
    have first := take_drop (m := m) name rows (Nat.zero_le _)
    rw [List.drop_zero] at first
    simp only [first,resultAt]

theorem settled_fetch [LawfulMonad m] (name : String) (word : Except Failure (List α)) {fetched : Nat}
    (some_fetch : 0 < fetched) (how : Fetch) :
    (settled m name word fetched).fetch how =
      pure (how.answer (resultAt word fetched),settled m name word (fetched + 1)) := by
  rw [fetch_eq_map,settled_next name word some_fetch,map_pure]

-- From the first fetch on nothing is decoded any more: what is left of a run has no effect.
theorem settled_fetchAll [LawfulMonad m] (name : String) (word : Except Failure (List α)) {fetched : Nat}
    (some_fetch : 0 < fetched) (fetches : List Fetch) :
    (settled m name word fetched).fetchAll fetches =
      pure (fetches.mapIdx (fun i => recordAt word (fetched + i)),
        settled m name word (fetched + fetches.length)) := by
  induction fetches generalizing fetched with
  | nil => rfl
  | cons how more ih =>
    have later := ih (Nat.succ_pos fetched)
    rw [fetchAll,settled_fetch name word some_fetch how,pure_bind]
    dsimp only
    rw [later,pure_bind,settled_remaining,List.mapIdx_cons,List.length_cons]
    have shift : ∀ i, fetched + 1 + i = fetched + (i + 1) := by omega
    simp only [shift,recordAt,Nat.add_zero]

theorem fresh_fetchAll [LawfulMonad m] (name : String) (decode : m (Except Failure (List α))) (first : Fetch)
    (later : List Fetch) :
    (fresh name decode).fetchAll (first :: later) =
      decode >>= fun word =>
        pure ((first :: later).mapIdx (recordAt word),settled m name word (later.length + 1)) := by
  rw [fetchAll,fetch_eq_map,fresh_next,map_bind,bind_assoc]
  congr 1
  funext word
  rw [map_pure,pure_bind]
  dsimp only
  rw [settled_fetchAll name word Nat.one_pos later,pure_bind,settled_remaining,List.mapIdx_cons]
  simp only [recordAt,Nat.add_comm]

end

theorem transpose_bijective : Function.Bijective (transpose : Except Failure (Option α) → Option (Except Failure α)) := by
  constructor
  · intro x y same
    rcases x with failure | _ | row <;> rcases y with other | _ | another <;>
      simp_all [transpose]
  · intro y
    rcases y with _ | failure | row
    · exact ⟨.ok none,rfl⟩
    · exact ⟨.error failure,rfl⟩
    · exact ⟨.ok (some row),rfl⟩

def counted (word : Except Failure (List α)) : StateM Nat (Except Failure (List α)) := do
  modify (· + 1)
  return word

theorem counted_fetchAll (name : String) (word : Except Failure (List α)) (fetches : List Fetch) (count : Nat) :
    (((fresh name (counted word)).fetchAll fetches).run count).2 = count + min 1 fetches.length := by
  cases fetches with
  | nil => rfl
  | cons first later =>
    rw [fresh_fetchAll]
    have one : min 1 (first :: later).length = 1 := by simp
    rw [one]
    rfl

-- A run of any length. A fetch answers by its place in the run and by what decoding came to, and
-- decoding, whatever else it does, is done once if anything is fetched and not at all otherwise.
theorem fetches_told [Monad m] [LawfulMonad m] (name : String) (decode : m (Except Failure (List α))) :
    (fresh name decode).remaining = none ∧
    (fresh name decode).fetchAll [] = pure ([],fresh name decode) ∧
    (∀ first later, (fresh name decode).fetchAll (first :: later) =
      decode >>= fun word =>
        pure ((first :: later).mapIdx (recordAt word),settled m name word (later.length + 1))) ∧
    (∀ word fetched more, 0 < fetched → (settled m name word fetched).fetchAll more =
      pure (more.mapIdx (fun i => recordAt (α := α) word (fetched + i)),
        settled m name word (fetched + more.length))) ∧
    (∀ (word : Except Failure (List α)) fetches count,
      (((fresh name (counted word)).fetchAll fetches).run count).2 = count + min 1 fetches.length) ∧
    (∀ set : RowSet m α, set.pull = (fun said => (transpose said.1,said.2)) <$> set.next) ∧
    Function.Bijective (transpose : Except Failure (Option α) → Option (Except Failure α)) := by
  refine ⟨rfl,rfl,fresh_fetchAll name decode,?_,counted_fetchAll name,pull_eq_map,transpose_bijective⟩
  intro word fetched more some_fetch
  exact settled_fetchAll name word some_fetch more

theorem fetches_told_letters :
    ((fresh "letters" (counted (.ok ['a', 'b']))).fetchAll [.next, .pull, .next, .pull]).run 0 =
        (([⟨.next (.ok (some 'a')), some 1⟩, ⟨.pull (some (.ok 'b')), some 0⟩, ⟨.next (.ok none), some 0⟩,
          ⟨.pull none, some 0⟩],⟨"letters", .done⟩),1) ∧
      ((settled (StateM Nat) "letters" (.ok ['a', 'b']) 1).fetchAll [.pull]).run 1 =
        (([⟨.pull (some (.ok 'b')), some 0⟩],⟨"letters", .streaming []⟩),1) := by
  obtain ⟨_,_,run,later,_⟩ := fetches_told "letters" (counted (.ok ['a', 'b']))
  constructor
  · rw [run]
    rfl
  · rw [later _ 1 _ (by decide)]
    rfl

end ClusterClient.RowSet
