import ClusterClient.Proofs.Rows.Fetches
namespace ClusterClient.RowSet
variable {α : Type}

def AnyRows (word : Except Failure (List α)) (holds : List α → Prop) : Prop := ∀ rows, word = .ok rows → holds rows

def afterAll (set : RowSet Id α) (fetches : List Fetch) : RowSet Id α := (Id.run (set.fetchAll fetches)).2

def said (set : RowSet Id α) (how : Fetch) : Answer α := (Id.run (set.fetch how)).1

theorem settled_isDone {m : Type → Type} (name : String) (word : Except Failure (List α)) (fetched : Nat) :
    (settled m name word fetched).isDone = true ↔ AnyRows word (·.length < fetched) := by
  cases word with
  | error failure => simp [settled,isDone,AnyRows]
  | ok rows =>
    simp only [settled,AnyRows,Except.ok.injEq,forall_eq']
    split
    · simp only [isDone,Bool.false_eq_true,false_iff]
      omega
    · simp only [isDone,true_iff]
      omega

theorem left_eq_zero {word : Except Failure (List α)} {fetched : Nat} :
    left word fetched = 0 ↔ AnyRows word (·.length ≤ fetched) := by
  cases word with
  | error failure => simp [left,AnyRows]
  | ok rows =>
    simp only [left,AnyRows,Except.ok.injEq,forall_eq']
    omega

theorem resultAt_rowless {word : Except Failure (List α)} {earlier : Nat} :
    (∀ row, resultAt word earlier ≠ .ok (some row)) ↔ AnyRows word (·.length < earlier + 1) := by
  cases word with
  | error failure =>
    simp only [resultAt,AnyRows,reduceCtorEq,false_implies,implies_true,iff_true]
    intro row
    split <;> simp
  | ok rows =>
    simp only [resultAt,AnyRows,Except.ok.injEq,forall_eq',ne_eq]
    rw [← Option.eq_none_iff_forall_ne_some,List.getElem?_eq_none_iff]
    omega

theorem Fetch.answer_injective (how : Fetch) : Function.Injective (how.answer (α := α)) := by
  cases how with
  | next => exact fun _ _ same => Answer.next.inj same
  | pull => exact fun _ _ same => transpose_bijective.injective (Answer.pull.inj same)

theorem afterAll_fresh (name : String) (decode : Id (Except Failure (List α))) (fetches : List Fetch) :
    (fresh name decode).afterAll fetches =
      if fetches = [] then fresh name decode else settled Id name (Id.run decode) fetches.length := by
  cases fetches with
  | nil => rfl
  | cons first later =>
    rw [afterAll,fresh_fetchAll,if_neg (List.cons_ne_nil _ _)]
    rfl

theorem said_fresh (name : String) (decode : Id (Except Failure (List α))) (fetches : List Fetch) (how : Fetch) :
    ((fresh name decode).afterAll fetches).said how = how.answer (resultAt (Id.run decode) fetches.length) := by
  rw [afterAll_fresh,said,fetch_eq_map]
  split
  · rename_i none
    rw [none,fresh_next]
    rfl
  · rename_i some_fetch
    rw [settled_next _ _ (List.length_pos_iff.mpr some_fetch)]
    rfl

section
variable (name : String) (decode : Id (Except Failure (List α))) (fetches : List Fetch)

theorem isDone_afterAll : ((fresh name decode).afterAll fetches).isDone = true ↔
    fetches ≠ [] ∧ AnyRows (Id.run decode) (·.length < fetches.length) := by
  rw [afterAll_fresh]
  split
  · rename_i none
    simp [none,fresh,isDone]
  · rename_i some_fetch
    rw [settled_isDone]
    simp [some_fetch]

theorem remaining_afterAll : ((fresh name decode).afterAll fetches).remaining =
    if fetches = [] then none else some (left (Id.run decode) fetches.length) := by
  rw [afterAll_fresh]
  split
  · rfl
  · exact settled_remaining name _ _

theorem remaining_zero : ((fresh name decode).afterAll fetches).remaining = some 0 ↔
    fetches ≠ [] ∧ AnyRows (Id.run decode) (·.length ≤ fetches.length) := by
  rw [remaining_afterAll]
  split
  · rename_i none
    simp [none]
  · rename_i some_fetch
    rw [Option.some.injEq,left_eq_zero]
    simp [some_fetch]

theorem fetched_past (gone : ((fresh name decode).afterAll fetches).remaining = some 0) (how : Fetch) :
    ((fresh name decode).afterAll fetches).said how = how.answer (.ok none) ∧
      ((fresh name decode).afterAll (fetches ++ [how])).isDone = true := by
  obtain ⟨some_fetch,within⟩ := (remaining_zero name decode fetches).mp gone
  have later : fetches.length ≠ 0 := fun zero => some_fetch (List.length_eq_zero_iff.mp zero)
  constructor
  · rw [said_fresh]
    cases word : Id.run decode with
    | error failure => rw [resultAt,if_neg later]
    | ok rows => rw [resultAt,List.getElem?_eq_none (within rows word)]
  · rw [isDone_afterAll,List.length_append,List.length_singleton]
    refine ⟨List.append_ne_nil_of_right_ne_nil _ (List.cons_ne_nil _ _),?_⟩
    intro rows word
    exact Nat.lt_succ_of_le (within rows word)

theorem done_iff_rowless : ((fresh name decode).afterAll fetches).isDone = true ↔
    ∃ earlier how, fetches = earlier ++ [how] ∧
      ∀ row, ((fresh name decode).afterAll earlier).said how ≠ how.answer (.ok (some row)) := by
  have rowless : ∀ earlier how, (∀ row, ((fresh name decode).afterAll earlier).said how ≠ how.answer (.ok (some row))) ↔
      AnyRows (Id.run decode) (·.length < earlier.length + 1) := by
    intro earlier how
    simp only [said_fresh,ne_eq,how.answer_injective.eq_iff]
    exact resultAt_rowless
  simp only [isDone_afterAll,rowless]
  constructor
  · rintro ⟨some_fetch,past⟩
    refine ⟨fetches.dropLast,fetches.getLast some_fetch,(List.dropLast_concat_getLast some_fetch).symm,?_⟩
    have count : fetches.dropLast.length + 1 = fetches.length := by
      have positive := List.length_pos_iff.mpr some_fetch
      rw [List.length_dropLast]
      omega
    rwa [count]
  · rintro ⟨earlier,how,rfl,past⟩
    refine ⟨List.append_ne_nil_of_right_ne_nil _ (List.cons_ne_nil _ _),?_⟩
    rwa [List.length_append,List.length_singleton]

theorem gone_iff : ((fresh name decode).afterAll fetches).remaining = some 0 ↔
    ((fresh name decode).afterAll fetches).isDone = true ∨
      ∃ rows, Id.run decode = .ok rows ∧ rows ≠ [] ∧ fetches.length = rows.length := by
  rw [remaining_zero,isDone_afterAll]
  constructor
  · rintro ⟨some_fetch,within⟩
    -- No row is left from as many fetches as rows on, which is one fetch before the set is done.
    by_cases past : AnyRows (Id.run decode) (·.length < fetches.length)
    · exact Or.inl ⟨some_fetch,past⟩
    · right
      simp only [AnyRows,not_forall] at past
      obtain ⟨rows,word,notPast⟩ := past
      have count : fetches.length = rows.length := Nat.le_antisymm (Nat.le_of_not_lt notPast) (within rows word)
      refine ⟨rows,word,?_,count⟩
      rintro rfl
      exact some_fetch (List.length_eq_zero_iff.mp count)
  · rintro (⟨some_fetch,past⟩ | ⟨rows,word,listed,count⟩)
    · exact ⟨some_fetch,fun rows word => Nat.le_of_lt (past rows word)⟩
    · constructor
      · rintro rfl
        exact listed (List.length_eq_zero_iff.mp count.symm)
      · intro others same
        rw [word] at same
        cases same
        exact Nat.le_of_eq count.symm

end

-- Both observers after any run of fetches. A set is done exactly if the last fetch gave no row. No
-- row is left when it is done and, one fetch before that, right after the last of the rows.
theorem done_one_later (name : String) (decode : Id (Except Failure (List α))) (fetches : List Fetch) :
    let set := (fresh name decode).afterAll fetches
    (set.isDone = true ↔ fetches ≠ [] ∧ AnyRows (Id.run decode) (·.length < fetches.length)) ∧
    (set.isDone = true ↔ ∃ earlier how, fetches = earlier ++ [how] ∧
      ∀ row, ((fresh name decode).afterAll earlier).said how ≠ how.answer (.ok (some row))) ∧
    (set.remaining = none ↔ fetches = []) ∧
    (set.remaining = some 0 ↔ set.isDone = true ∨
      ∃ rows, Id.run decode = .ok rows ∧ rows ≠ [] ∧ fetches.length = rows.length) ∧
    (set.remaining = some 0 → ∀ how,
      set.said how = how.answer (.ok none) ∧ ((fresh name decode).afterAll (fetches ++ [how])).isDone = true) := by
  refine ⟨isDone_afterAll name decode fetches,done_iff_rowless name decode fetches,?_,gone_iff name decode fetches,
    fetched_past name decode fetches⟩
  rw [remaining_afterAll]
  split
  · rename_i none
    simp [none]
  · rename_i some_fetch
    simp [some_fetch]

theorem done_one_later_letters :
    let set := fresh "letters" (pure (.ok ['a', 'b']))
    (set.afterAll [.next, .pull]).remaining = some 0 ∧ (set.afterAll [.next, .pull]).isDone = false ∧
      (set.afterAll [.next, .pull]).said .pull = .pull none ∧ (set.afterAll [.next, .pull, .pull]).isDone = true := by
  intro set
  obtain ⟨done,_,_,gone,past⟩ := done_one_later "letters" (pure (.ok ['a', 'b'])) [.next, .pull]
  have none_left := gone.mpr (Or.inr ⟨['a', 'b'],rfl,List.cons_ne_nil _ _,rfl⟩)
  obtain ⟨missed,late⟩ := past none_left .pull
  refine ⟨none_left,?_,missed,late⟩
  rw [Bool.eq_false_iff]
  intro early
  exact absurd ((done.mp early).2 ['a', 'b'] rfl) (by decide)

-- The last row has been handed out and none is left, but the set does not call itself done.
theorem last_row_not_done :
    let last := (fresh "kv_get" (pure (.ok ['a']))).afterAll [.next]
    (fresh "kv_get" (pure (.ok ['a']))).said .next = .next (.ok (some 'a')) ∧ last.remaining = some 0 ∧
      last.isDone = false ∧
      ¬∀ fetches : List Fetch, ((fresh "kv_get" (pure (.ok ['a']))).afterAll fetches).isDone = true ↔
        fetches ≠ [] ∧ ((fresh "kv_get" (pure (.ok ['a']))).afterAll fetches).remaining = some 0 := by
  refine ⟨rfl,rfl,rfl,?_⟩
  intro agree
  exact absurd ((agree [.next]).mpr ⟨List.cons_ne_nil _ _,rfl⟩) (by decide)

end ClusterClient.RowSet
