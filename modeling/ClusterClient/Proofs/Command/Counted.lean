import ClusterClient.Proofs.Command.Get
import ClusterClient.Proofs.Counters
namespace ClusterClient

namespace Attempt
variable {attempt : Attempt}

theorem mem_readMeasures {m : Measure} (member : m ∈ attempt.readMeasures) : ∃ kind, m = .decodeError kind := by
  unfold readMeasures at member
  split at member
  · rename_i text _
    cases read : attempt.call.reads text with
    | ok _ =>
      rw [read] at member
      cases member
    | error failure =>
      rw [read] at member
      exact ⟨failure.kind,List.mem_singleton.mp member⟩
  · cases member

theorem readMeasures_eq_nil : attempt.readMeasures = [] ↔ attempt.fate ≠ .unreadable := by
  have unanswered : Fate.unanswered ≠ .unreadable := by decide
  have passed : Fate.passed ≠ .unreadable := by decide
  have refused : Fate.refused ≠ .unreadable := by decide
  unfold readMeasures fate
  cases attempt.answer with
  | none => exact iff_of_true rfl unanswered
  | some reply =>
    by_cases success : reply.isSuccess = true
    · simp only [Client.outcome,if_pos success]
      cases attempt.call.reads reply.text with
      | ok _ => exact iff_of_true rfl passed
      | error failure => exact iff_of_false (List.cons_ne_nil _ _) (absurd rfl)
    · simp only [Client.outcome,if_neg success]
      exact iff_of_true trivial refused

end Attempt

section
variable (made : List Attempt)

def requestSeries : List Series := (made.flatMap fun attempt => [attempt.requested]).flatMap Measure.series

def readSeries : List Series := (made.flatMap Attempt.readMeasures).flatMap Measure.series

theorem count_made (series : Series) :
    ((made.flatMap Attempt.measures).flatMap Measure.series).count series =
      (requestSeries made).count series + (readSeries made).count series := by
  induction made with
  | nil => rfl
  | cons attempt later ih =>
    simp only [requestSeries,readSeries,Attempt.measures,List.flatMap_cons,List.flatMap_nil,List.flatMap_append,
      List.count_append,List.count_nil] at ih ⊢
    omega

theorem requestSeries_family : ∀ series ∈ requestSeries made, series.family ≠ .decodeErrors := by
  intro series member
  obtain ⟨m,counted,added⟩ := List.mem_flatMap.mp member
  obtain ⟨attempt,_,requested⟩ := List.mem_flatMap.mp counted
  rw [List.mem_singleton.mp requested] at added
  rcases List.mem_pair.mp added with rfl | rfl
  · exact nofun
  · exact nofun

theorem readSeries_family : ∀ series ∈ readSeries made, series.family = .decodeErrors := by
  intro series member
  obtain ⟨m,counted,added⟩ := List.mem_flatMap.mp member
  obtain ⟨attempt,_,read⟩ := List.mem_flatMap.mp counted
  obtain ⟨kind,rfl⟩ := Attempt.mem_readMeasures read
  rw [List.mem_singleton.mp added]

theorem readSeries_eq_nil : readSeries made = [] ↔ ∀ attempt ∈ made, attempt.fate ≠ .unreadable := by
  have counts : ∀ m : Measure, m.series ≠ [] := by
    intro m
    cases m <;> exact List.cons_ne_nil _ _
  have measured : readSeries made = [] ↔ made.flatMap Attempt.readMeasures = [] := by
    rw [readSeries,List.flatMap_eq_nil_iff,List.eq_nil_iff_forall_not_mem]
    constructor
    · exact fun empty m member => counts m (empty m member)
    · exact fun none m member => absurd member (none m)
  rw [measured,List.flatMap_eq_nil_iff]
  exact forall₂_congr fun _ _ => Attempt.readMeasures_eq_nil

end

namespace Command
variable {readers : Readers} {words others : List String} {invocation : Invocation} {files : String → Found} {settings : Settings}
  {agent : Agent} {keys : List String} {recurse : Bool}

-- Only a course's last call can have failed, so the code tells whether any could not be read.
theorem exitCode_unreadable (calls : List Call) (script : List (Option Http.Reply)) :
    exitCode (attempts calls script) = 76 ↔ ∃ attempt ∈ attempts calls script, attempt.fate = .unreadable := by
  induction calls generalizing script with
  | nil => simp [attempts,exitCode]
  | cons call later ih =>
    rw [attempts,exitCode]
    by_cases passed : (call.attempt script).fate = .passed
    · rw [if_pos passed,if_pos passed,ih]
      simp [passed]
    · rw [if_neg passed,if_neg passed]
      cases met : (call.attempt script).fate with
      | passed => exact absurd met passed
      | unanswered => simp [met,Fate.code]
      | refused => simp [met,Fate.code]
      | unreadable => simp [met,Fate.code]

theorem get_measures (accepted : Invocation.ofWords words = .ok invocation)
    (set : Settings.loaded readers.document files invocation.config = .ok settings)
    (reached : invocation.overrides.agent settings = .ok agent) {rows : Bool}
    (asked : invocation.action = .get keys recurse rows) (script : List (Option Http.Reply)) :
    ((run readers words).play files script).measures =
      (attempts (keys.map (keyCall ⟨agent,settings.missingFields,readers.naming⟩ recurse)) script).flatMap
        (Action.counts (.get keys recurse rows)) := by
  have remote : invocation.action.isLocal = false := by rw [asked]; rfl
  have other : Action.get keys recurse rows ≠ .ping := nofun
  rw [run_reached accepted set reached remote script,asked]
  exact (perform_makes ⟨agent,settings.missingFields,readers.naming⟩ invocation.verbose other files script).measures

-- Rows leave the counters of failures to decode as they were, whatever the replies hold. All other
-- counters grow as they do without rows, so the modes agree exactly if no reply is unreadable.
theorem rows_uncounted (accepted : Invocation.ofWords words = .ok invocation)
    (asked : invocation.action = .get keys recurse false) {verbose : Bool}
    (understood : Invocation.ofWords others = .ok { invocation with verbose, action := .get keys recurse true })
    (set : Settings.loaded readers.document files invocation.config = .ok settings)
    (reached : invocation.overrides.agent settings = .ok agent) (script : List (Option Http.Reply)) (tally : Tally) :
    let made := attempts (keys.map (keyCall ⟨agent,settings.missingFields,readers.naming⟩ recurse)) script
    let t := (run readers words).play files script
    let u := (run readers others).play files script
    let plain := tally.recordAll t.measures
    let rows := tally.recordAll u.measures
    (∀ series, series.family ≠ .decodeErrors → rows.count series = plain.count series) ∧
      (∀ (endpoint : Endpoint) (method : Http.Method) status,
        plain.count (Series.requests endpoint.name method.name (statusLabel status)) =
          tally.count (Series.requests endpoint.name method.name (statusLabel status)) +
            made.countP (Attempt.isOf endpoint.kind method status)) ∧
      (∀ series, series.family = .decodeErrors → rows.count series = tally.count series) ∧
      (∀ kind, plain.count (Series.decodeErrors kind) =
        tally.count (Series.decodeErrors kind) + if faults kind (ended made) then 1 else 0) ∧
      ((∀ series, rows.count series = plain.count series) ↔ ∀ attempt ∈ made, attempt.fate ≠ .unreadable) ∧
      u.result.code = t.result.code ∧
      (t.result.code = 76 ↔ ∃ attempt ∈ made, attempt.fate = .unreadable) := by
  intro made t u plain rows
  have plainly : t.measures = made.flatMap Attempt.measures := get_measures accepted set reached asked script
  have inRows : u.measures = made.flatMap fun attempt => [attempt.requested] :=
    get_measures understood set reached rfl script
  have plainCount : ∀ series, plain.count series =
      tally.count series + ((requestSeries made).count series + (readSeries made).count series) := by
    intro series
    rw [Tally.count_recordAll,plainly,count_made]
  have rowsCount : ∀ series, rows.count series = tally.count series + (requestSeries made).count series := by
    intro series
    rw [Tally.count_recordAll,inRows]
    rfl
  have remote : invocation.action.isLocal = false := by rw [asked]; rfl
  have other : invocation.action ≠ .ping := by rw [asked]; exact nofun
  have calls : ∀ client, invocation.action.calls client = keys.map (keyCall client recurse) := by
    intro client
    rw [asked]
    rfl
  have code : t.result.code = exitCode made := by
    rw [(run_calls accepted set reached remote other script).2,calls]
  have sameCode : u.result.code = exitCode made := (run_calls understood set reached rfl nofun script).2
  -- No series counts both requests and failures to decode, so for each one of the two sums is zero.
  refine ⟨?_,?_,?_,?_,?_,?_,?_⟩
  · intro series other
    have unread : (readSeries made).count series = 0 :=
      List.count_eq_zero.mpr fun member => other (readSeries_family made series member)
    rw [rowsCount,plainCount,unread,Nat.add_zero]
  · intro endpoint method status
    rw [Tally.count_recordAll,count_requests,plainly,count_attempts]
  · intro series same
    have unasked : (requestSeries made).count series = 0 :=
      List.count_eq_zero.mpr fun member => requestSeries_family made series member same
    rw [rowsCount,unasked,Nat.add_zero]
  · intro kind
    have proper := invocation.action.calls_proper ⟨agent,settings.missingFields,readers.naming⟩
    rw [calls] at proper
    rw [Tally.count_recordAll,count_decodeErrors,plainly,count_decodes proper]
  · rw [← readSeries_eq_nil,List.eq_nil_iff_forall_not_mem]
    refine forall_congr' fun series => ?_
    rw [rowsCount,plainCount,← List.count_eq_zero]
    omega
  · rw [sameCode,code]
  · rw [code]
    exact exitCode_unreadable _ script

-- The second key is answered with two entries, which is a fault of the reply; without rows it is
-- counted as one.
theorem rows_uncounted_several :
    let script := [some (Client.carrying "[]"),some (Client.carrying "[\x7b\"Key\":\"a\"\x7d,\x7b\"Key\":\"b\"\x7d]")]
    let after (words : List String) := Tally.recordAll [] ((run .plain words).play (fun _ => .nothing) script).measures
    let requests := Series.requests (Endpoint.keyValue "a").name Http.Method.get.name (statusLabel (some 200))
    (after ["kv","get","x","a"]).count requests = 2 ∧ (after ["kv","get","--rows","x","a"]).count requests = 2 ∧
      (after ["kv","get","x","a"]).count (Series.decodeErrors .shape) = 1 ∧
      (after ["kv","get","--rows","x","a"]).count (Series.decodeErrors .shape) = 0 := by
  intro script after requests
  have accepted : Invocation.ofWords ["kv","get","x","a"] = .ok ⟨{},false,none,.get ["x","a"] false false⟩ := by
    decide +kernel
  have understood : Invocation.ofWords ["kv","get","--rows","x","a"] =
      .ok ⟨{},false,none,.get ["x","a"] false true⟩ := by decide +kernel
  have set : Settings.loaded Readers.plain.document (fun _ => .nothing) none = .ok {} := rfl
  have reached : ({} : Overrides).agent {} = .ok Agent.loopback := rfl
  obtain ⟨alike,asked,uncounted,counted,_⟩ := rows_uncounted accepted rfl understood set reached script []
  have two : (after ["kv","get","x","a"]).count requests = 2 :=
    (asked (.keyValue "a") .get (some 200)).trans (by decide +kernel)
  refine ⟨two,(alike requests nofun).trans two,?_,?_⟩
  · exact (counted .shape).trans (by decide +kernel)
  · exact uncounted _ rfl

theorem modes_count_apart :
    let script := [some (Client.carrying "x")]
    let after (words : List String) := Tally.recordAll [] ((run .plain words).play (fun _ => .nothing) script).measures
    (after ["kv","get","a"]).count (Series.decodeErrors .parse) = 1 ∧
      (after ["kv","get","--rows","a"]).count (Series.decodeErrors .parse) = 0 := by
  decide +kernel

end Command
end ClusterClient
