import ClusterClient.Rows.Basic
import Mathlib.Data.List.Basic
namespace ClusterClient.RowSet
variable {α : Type}

def Yields (set : RowSet Id α) (rows : List α) : Prop := set.rest.1 = rows.map .ok

def FailsFirst (set : RowSet Id α) (failure : Failure) : Prop := (Id.run set.next).1 = .error failure

def FailsOnly (set : RowSet Id α) (failure : Failure) : Prop :=
  set.FailsFirst failure ∧ (Id.run set.next).2.rest.1 = []

structure Tells (set : RowSet Id α) (rows : β → List α) (result : Except Failure β) : Prop where
  yields : ∀ list, set.Yields list ↔ ∃ x, result = .ok x ∧ rows x = list
  failsFirst : ∀ failure, set.FailsFirst failure ↔ result = .error failure
  failsOnly : ∀ failure, set.FailsOnly failure ↔ result = .error failure

theorem drain_done (name : String) (turns : Nat) :
    (⟨name,.done⟩ : RowSet Id α).drain turns = ([],⟨name,.done⟩) := by
  cases turns <;> rfl

theorem drain_streaming (name : String) {rows : List α} {turns : Nat} (enough : rows.length < turns) :
    (⟨name,.streaming rows⟩ : RowSet Id α).drain turns = (rows.map .ok,⟨name,.done⟩) := by
  induction rows generalizing turns with
  | nil =>
    cases turns with
    | zero => cases enough
    | succ turns => rfl
  | cons row rest ih =>
    cases turns with
    | zero => cases enough
    | succ turns =>
      have pulled : (⟨name,.streaming (row :: rest)⟩ : RowSet Id α).pull =
          (some (.ok row),⟨name,.streaming rest⟩) := rfl
      rw [drain,pulled]
      simp only [Id.run,ih (Nat.lt_of_succ_lt_succ enough),List.map_cons]

-- The first fetch decodes; but for that, a fresh set is one whose rows are known.
theorem next_decoded (name : String) {decode : Id (Except Failure (List α))} {rows : List α}
    (decoded : Id.run decode = .ok rows) :
    (fresh name decode).next = (⟨name,.streaming rows⟩ : RowSet Id α).next := by
  have known : decode = pure (.ok rows) := decoded
  rw [known]
  rfl

theorem next_failed (name : String) {decode : Id (Except Failure (List α))} {failure : Failure}
    (failed : Id.run decode = .error failure) :
    (fresh name decode).next = ((.error failure,⟨name,.done⟩) : _ × RowSet Id α) := by
  have known : decode = pure (.error failure) := failed
  rw [known]
  rfl

theorem drain_decoded (name : String) {decode : Id (Except Failure (List α))} {rows : List α}
    (decoded : Id.run decode = .ok rows) {turns : Nat} (enough : rows.length < turns) :
    (fresh name decode).drain turns = (rows.map .ok,⟨name,.done⟩) := by
  rw [← drain_streaming name enough]
  cases turns with
  | zero => cases enough
  | succ turns => rw [drain,pull,next_decoded name decoded,drain,pull]

theorem drain_failed (name : String) {decode : Id (Except Failure (List α))} {failure : Failure}
    (failed : Id.run decode = .error failure) (turns : Nat) :
    (fresh name decode).drain (turns + 1) = ([.error failure],⟨name,.done⟩) := by
  rw [drain,pull,next_failed name failed]
  simp only [Id.run,bind,pure,transpose,drain_done]

theorem rest_decoded (name : String) {decode : Id (Except Failure (List α))} {rows : List α}
    (decoded : Id.run decode = .ok rows) : (fresh name decode).rest = (rows.map .ok,⟨name,.done⟩) := by
  have count : (fresh name decode).turns = rows.length + 1 := by
    simp only [fresh,turns,decoded]
  rw [rest,count]
  exact drain_decoded name decoded (Nat.lt_succ_self _)

theorem rest_failed (name : String) {decode : Id (Except Failure (List α))} {failure : Failure}
    (failed : Id.run decode = .error failure) :
    (fresh name decode).rest = ([.error failure],⟨name,.done⟩) := by
  have count : (fresh name decode).turns = 1 + 1 := by
    simp only [fresh,turns,failed]
  rw [rest,count]
  exact drain_failed name failed 1

theorem drain_enough {set : RowSet Id α} {turns : Nat} (enough : set.turns ≤ turns) :
    set.drain turns = set.rest := by
  obtain ⟨name,stage⟩ := set
  cases stage with
  | done => rw [rest,drain_done,drain_done]
  | streaming rows =>
    have count : (⟨name,.streaming rows⟩ : RowSet Id α).turns = rows.length + 1 := rfl
    rw [rest,count,drain_streaming name enough,drain_streaming name (Nat.lt_succ_self _)]
  | pending decode =>
    change RowSet.turns (fresh name decode) ≤ turns at enough
    change (fresh name decode).drain turns = (fresh name decode).rest
    cases decoded : Id.run decode with
    | ok rows =>
      simp only [fresh,RowSet.turns,decoded] at enough
      rw [rest_decoded name decoded,drain_decoded name decoded enough]
    | error failure =>
      simp only [fresh,RowSet.turns,decoded] at enough
      cases turns with
      | zero => cases enough
      | succ turns => rw [rest_failed name decoded,drain_failed name decoded]

theorem map_ok_injective : Function.Injective (List.map (.ok : α → Except Failure α)) :=
  List.map_injective_iff.mpr (fun _ _ same => Except.ok.inj same)

theorem yields_exact (name : String) (decode : Id (Except Failure (List α))) (rows : List α) :
    (fresh name decode).Yields rows ↔ Id.run decode = .ok rows := by
  unfold Yields
  cases decoded : Id.run decode with
  | ok others =>
    rw [rest_decoded name decoded,map_ok_injective.eq_iff,Except.ok.injEq]
  | error failure =>
    rw [rest_failed name decoded]
    constructor
    · intro same
      cases rows <;> cases same
    · intro impossible
      cases impossible

theorem failsFirst_exact (name : String) (decode : Id (Except Failure (List α))) (failure : Failure) :
    (fresh name decode).FailsFirst failure ↔ Id.run decode = .error failure := by
  unfold FailsFirst
  cases decoded : Id.run decode with
  | ok rows =>
    rw [next_decoded name decoded]
    constructor
    · intro failed
      cases rows <;> cases failed
    · intro impossible
      cases impossible
  | error other =>
    rw [next_failed name decoded]
    constructor
    · intro failed
      exact congrArg _ (Except.error.inj failed)
    · intro same
      exact congrArg _ (Except.error.inj same)

theorem failsOnly_exact (name : String) (decode : Id (Except Failure (List α))) (failure : Failure) :
    (fresh name decode).FailsOnly failure ↔ Id.run decode = .error failure := by
  unfold FailsOnly
  rw [failsFirst_exact]
  constructor
  · intro failed
    exact failed.1
  · intro failed
    refine ⟨failed,?_⟩
    rw [next_failed name failed]
    rfl

theorem error_of_map {rows : β → List α} {result : Except Failure β} {failure : Failure} :
    result.map rows = .error failure ↔ result = .error failure := by
  cases result with
  | error other => simp only [Except.map,Except.error.injEq]
  | ok x => simp only [Except.map,reduceCtorEq]

theorem fresh_tells (name : String) {decode : Id (Except Failure (List α))} {rows : β → List α}
    {result : Except Failure β} (decoded : Id.run decode = result.map rows) :
    (fresh name decode).Tells rows result := by
  constructor
  · intro list
    rw [yields_exact,decoded]
    cases result with
    | error failure =>
      constructor
      · intro impossible
        cases impossible
      · rintro ⟨x,impossible,_⟩
        cases impossible
    | ok x =>
      constructor
      · intro same
        exact ⟨x,rfl,Except.ok.inj same⟩
      · rintro ⟨y,same,rfl⟩
        cases same
        rfl
  · intro failure
    rw [failsFirst_exact,decoded,error_of_map]
  · intro failure
    rw [failsOnly_exact,decoded,error_of_map]

end ClusterClient.RowSet
