import ClusterClient.Proofs.Decimal
import ClusterClient.Tally
namespace ClusterClient

namespace Failure

theorem kindName_injective : Function.Injective Kind.name := by
  intro k l
  cases k <;> cases l <;> decide

end Failure

namespace Tally

theorem count_increment (series other : Series) (tally : Tally) :
    count series (increment other tally) = count series tally + if other = series then 1 else 0 := by
  induction tally with
  | nil => by_cases same : other = series <;> simp [increment,count,same]
  | cons entry rest ih =>
    obtain ⟨s,n⟩ := entry
    rw [increment]
    by_cases here : s = other
    · subst here
      by_cases same : s = series <;> simp [count,same]
    · rw [if_neg here,count,count]
      by_cases same : s = series
      · subst same
        rw [if_pos rfl,if_pos rfl,if_neg (Ne.symm here),Nat.add_zero]
      · rw [if_neg same,if_neg same,ih]

theorem count_increments (series : Series) (added : List Series) (tally : Tally) :
    count series (added.foldl (fun t s => increment s t) tally) = count series tally + added.count series := by
  induction added generalizing tally with
  | nil => rfl
  | cons other rest ih =>
    rw [List.foldl_cons,ih,count_increment,List.count_cons,Nat.add_assoc,Nat.add_comm (List.count series rest)]
    by_cases same : other = series <;> simp [same]

def recordAll (tally : Tally) (measures : List Measure) : Tally := measures.foldl record tally

theorem count_recordAll (series : Series) (tally : Tally) (measures : List Measure) :
    (tally.recordAll measures).count series = tally.count series + (measures.flatMap Measure.series).count series := by
  induction measures generalizing tally with
  | nil => rfl
  | cons m rest ih =>
    have step := count_increments series m.series tally
    rw [recordAll,List.foldl_cons,List.flatMap_cons,List.count_append]
    change (recordAll (tally.record m) rest).count series = _
    rw [ih,record,step,Nat.add_assoc]

end Tally

def Series.requests (endpoint method status : String) : Series :=
  ⟨.requests, [("endpoint", endpoint), ("method", method), ("status", status)]⟩

def Series.decodeErrors (kind : Failure.Kind) : Series := ⟨.decodeErrors, [("kind", kind.name)]⟩

theorem count_series {series : Series} {measure : Measure}
    (added : ∀ m : Measure, m.series.count series = if m = measure then 1 else 0) (measures : List Measure) :
    (measures.flatMap Measure.series).count series = measures.count measure := by
  induction measures with
  | nil => rfl
  | cons m rest ih =>
    rw [List.flatMap_cons,List.count_append,ih,added,List.count_cons,Nat.add_comm]
    simp

theorem count_requests (measures : List Measure) (endpoint method status : String) :
    (measures.flatMap Measure.series).count (Series.requests endpoint method status) =
      measures.count (.request endpoint method status) := by
  refine count_series ?_ measures
  intro m
  cases m with
  | decodeError kind => rfl
  | request e m s => simp [Measure.series,Series.requests,List.count_cons]

theorem count_decodeErrors (measures : List Measure) (kind : Failure.Kind) :
    (measures.flatMap Measure.series).count (Series.decodeErrors kind) = measures.count (.decodeError kind) := by
  refine count_series ?_ measures
  intro m
  cases m with
  | request e m s => rfl
  | decodeError other =>
    simp [Measure.series,Series.decodeErrors,List.count_cons,Failure.kindName_injective.eq_iff]

end ClusterClient
