import ClusterClient.Proofs.Command.Course
import ClusterClient.Proofs.Json.Reading
namespace ClusterClient

theorem Batch.checkRecurse_exact (batch : Batch) (recurse : Bool) :
    (batch.checkRecurse recurse = .ok () ↔ recurse = true ∨ batch.entries.length ≤ 1) ∧
      ∀ failure, batch.checkRecurse recurse = .error failure ↔
        failure = .shape (.severalEntries batch.entries.length) ∧ recurse = false ∧ 1 < batch.entries.length := by
  unfold checkRecurse
  cases recurse with
  | true => simp
  | false =>
    by_cases several : 1 < batch.entries.length
    · simp [several,eq_comm]
    · simp [several,Nat.le_of_not_lt several]

theorem Batch.ofBody_eq_ok {policy : MissingFields} {recurse : Bool} {body : String} {batch : Batch} :
    ofBody policy recurse body = .ok batch ↔
      ofText policy body = .ok batch ∧ (recurse = true ∨ batch.entries.length ≤ 1) := by
  rw [← (batch.checkRecurse_exact recurse).1]
  constructor
  · intro decoded
    obtain ⟨read,parsed,decoded⟩ := bind_eq_ok.mp decoded
    obtain ⟨_,checked,same⟩ := bind_eq_ok.mp decoded
    cases same
    exact ⟨parsed,checked⟩
  · rintro ⟨parsed,checked⟩
    exact bind_eq_ok.mpr ⟨batch,parsed,bind_eq_ok.mpr ⟨(),checked,rfl⟩⟩

namespace Command
variable {client : Client}

theorem read_passed {attempt : Attempt} {recurse : Bool} {key : String}
    (read : attempt.call = keyCall client recurse key) :
    attempt.fate = .passed ↔ ∃ reply, attempt.answer = some reply ∧ reply.isSuccess = true ∧
      ∃ batch, Batch.ofText client.policy reply.text = .ok batch ∧ (recurse = true ∨ batch.entries.length ≤ 1) := by
  simp only [Client.entryCall_passed read,Batch.ofBody_eq_ok]

def entryOutput (verbose rows : Bool) (batch : Batch) : List String :=
  if rows then batch.rows.map fun row => tabbed row.fields else batch.entries.flatMap (entryLines verbose)

def keyLines (client : Client) (verbose recurse rows : Bool) : Attempt → List String :=
  Attempt.shown (written (Batch.ofBody client.policy recurse) (entryOutput verbose rows))

theorem getRows_tells (client : Client) (verbose recurse : Bool) (key : String) :
    Tells (getRows client recurse key) [keyCall client recurse key] (keyLines client verbose recurse true) := by
  refine Tells.send ?_
  intro text files script
  rw [play_rows]
  rfl

theorem getEntries_tells (client : Client) (verbose recurse : Bool) (key : String) :
    Tells (getEntries client verbose recurse key) [keyCall client recurse key]
      (keyLines client verbose recurse false) := by
  rw [getEntries,Client.get_eq_read,bind_assoc]
  refine Tells.send ?_
  intro text files script
  have played := play_written (Batch.ofBody client.policy recurse)
    (fun batch => batch.entries.flatMap (entryLines verbose)) text files script
  exact congrArg Transcript.lines played

theorem getKeys_tells (client : Client) (verbose recurse rows : Bool) (keys : List String) (files : String → Found)
    (script : List (Option Http.Reply)) :
    ((getKeys client verbose recurse rows keys).run.play files script).lines =
      (if rows then [tabbed EntryRow.columns] else []) ++
        (attempts (keys.map (keyCall client recurse)) script).flatMap (keyLines client verbose recurse rows) := by
  rw [List.map_eq_flatMap]
  unfold getKeys
  cases rows with
  | true =>
    have tells := Tells.forM keys (getRows_makes client recurse) (getRows_tells client verbose recurse) files script
    have header : (say (tabbed EntryRow.columns)).run.play files script =
        ⟨.ok (),[],[],[tabbed EntryRow.columns]⟩ := rfl
    rw [if_pos rfl,if_pos rfl,Exchange.play_ok (congrArg Transcript.result header),header,← tells]
    rfl
  | false =>
    exact Tells.forM keys (getEntries_makes client verbose recurse) (getEntries_tells client verbose recurse)
      files script

theorem perform_get_lines (client : Client) (verbose recurse rows : Bool) (keys : List String)
    (files : String → Found) (script : List (Option Http.Reply)) :
    ((perform client verbose (.get keys recurse rows)).run.play files script).lines =
      (if rows then [tabbed EntryRow.columns] else []) ++
        (attempts (keys.map (keyCall client recurse)) script).flatMap (keyLines client verbose recurse rows) := by
  rw [perform_get,← getKeys_tells]
  cases got : ((getKeys client verbose recurse rows keys).run.play files script).result with
  | error failure =>
    rw [Exchange.play_error got]
    exact List.append_nil _
  | ok done =>
    rw [Exchange.play_ok got]
    exact List.append_nil _

theorem keyLines_read (client : Client) {attempt : Attempt} {reply : Http.Reply} {recurse : Bool} {batch : Batch}
    (answered : attempt.answer = some reply) (success : reply.isSuccess = true)
    (read : Batch.ofBody client.policy recurse reply.text = .ok batch) (verbose rows : Bool) :
    keyLines client verbose recurse rows attempt = entryOutput verbose rows batch := by
  have body : Client.outcome attempt.call.url attempt.answer = .ok reply.text := by
    rw [answered]
    exact if_pos success
  unfold keyLines Attempt.shown written
  simp only [body,read]

theorem keyLines_failed {attempt : Attempt} {recurse : Bool} {key : String}
    (read : attempt.call = keyCall client recurse key) (failed : attempt.fate ≠ .passed) (verbose rows : Bool) :
    keyLines client verbose recurse rows attempt = [] := by
  obtain ⟨failure,word⟩ := Attempt.word_failed failed
  unfold keyLines Attempt.shown
  cases said : Client.outcome attempt.call.url attempt.answer with
  | error refusal => rfl
  | ok text =>
    rw [Attempt.word,said,read] at word
    change silent (Batch.ofBody client.policy recurse) text = .error failure at word
    dsimp only
    unfold written
    cases decoded : Batch.ofBody client.policy recurse text with
    | error other => rfl
    | ok batch =>
      rw [silent,decoded] at word
      cases word

-- A run that reads keys stops at the first that fails and tells its failure. The other output mode
-- asks the same and ends alike.
theorem get_failFast {readers : Readers} {words : List String} {invocation : Invocation} {files : String → Found} {settings : Settings}
    {agent : Agent} {keys : List String} {recurse rows : Bool}
    (accepted : Invocation.ofWords words = .ok invocation)
    (set : Settings.loaded readers.document files invocation.config = .ok settings)
    (reached : invocation.overrides.agent settings = .ok agent)
    (asked : invocation.action = .get keys recurse rows) (script : List (Option Http.Reply)) :
    let client : Client := ⟨agent,settings.missingFields,readers.naming⟩
    let reads := keys.map (keyCall client recurse)
    let made := attempts reads script
    let t := (run readers words).play files script
    InTurn reads made ∧
      t.exchanges = made.filterMap (·.exchange? client) ∧
      (∀ attempt ∈ made, (attempt.exchange? client).isSome = agent.namesServer readers.naming) ∧
      t.lines = (if rows then [tabbed EntryRow.columns] else []) ++
        made.flatMap (keyLines client invocation.verbose recurse rows) ∧
      (∀ attempt ∈ made, attempt.fate ≠ .passed → keyLines client invocation.verbose recurse rows attempt = []) ∧
      t.result.code = exitCode made ∧
      ∀ others verbose,
        Invocation.ofWords others = .ok { invocation with verbose, action := .get keys recurse !rows } →
          let u := (run readers others).play files script
          u.exchanges = t.exchanges ∧ u.result.code = t.result.code := by
  intro client reads made t
  have remote : invocation.action.isLocal = false := by rw [asked]; rfl
  have other : invocation.action ≠ .ping := by rw [asked]; exact nofun
  have calls : invocation.action.calls client = reads := by rw [asked]; rfl
  have proper := invocation.action.calls_proper client
  have ran := run_calls accepted set reached remote other script
  rw [calls] at proper
  dsimp only at ran
  rw [calls] at ran
  refine ⟨attempts_inTurn reads script,ran.1,attempts_named proper (reached_current reached),?_,?_,ran.2,?_⟩
  · rw [show t = _ from run_reached accepted set reached remote script,asked]
    exact perform_get_lines client invocation.verbose recurse rows keys files script
  · intro attempt member failed
    obtain ⟨key,_,read⟩ := List.mem_map.mp (mem_attempts member)
    exact keyLines_failed read.symm failed invocation.verbose rows
  · intro others verbose understood
    obtain ⟨sent,code⟩ := run_calls understood set reached rfl nofun script
    exact ⟨sent.trans ran.1.symm,code.trans ran.2.symm⟩

theorem get_failFast_second :
    let words := ["kv","get","--rows","a","b","c"]
    let script := [some (Client.carrying "[\x7b\"Key\":\"a\",\"Value\":\"MQ==\"\x7d]"), some { status := 404, body := [] }]
    let t := (run .plain words).play (fun _ => .nothing) script
    t.exchanges.length = 2 ∧
      t.lines = ["key\tvalue\tflags\tcreate_index\tmodify_index\tlock_index\tsession", "a\t1\t0\t0\t0\t0\t"] ∧
      t.result.code = 75 := by
  intro words script t
  have accepted : Invocation.ofWords words = .ok ⟨{},false,none,.get ["a","b","c"] false true⟩ := by decide +kernel
  have set : Settings.loaded Readers.plain.document (fun _ => .nothing) none = .ok {} := rfl
  have reached : ({} : Overrides).agent {} = .ok Agent.loopback := rfl
  obtain ⟨_,sent,_,lines,_,code,_⟩ := get_failFast accepted set reached rfl script
  refine ⟨?_,?_,?_⟩
  · rw [sent]
    decide +kernel
  · rw [lines]
    decide +kernel
  · rw [code]
    decide +kernel

end Command
end ClusterClient
