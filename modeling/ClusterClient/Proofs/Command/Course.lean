import ClusterClient.Proofs.Command.Start
import ClusterClient.Proofs.Operations
namespace ClusterClient

def Fate.code : Fate → UInt8
  | .passed => 0
  | .unanswered => 70
  | .refused => 75
  | .unreadable => 76

def exitCode : List Attempt → UInt8
  | [] => 0
  | attempt :: later => if attempt.fate = .passed then exitCode later else attempt.fate.code

theorem exitCode_zero {made : List Attempt} : exitCode made = 0 ↔ ∀ attempt ∈ made, attempt.fate = .passed := by
  induction made with
  | nil => simp [exitCode]
  | cons attempt later ih =>
    rw [exitCode,List.forall_mem_cons]
    by_cases passed : attempt.fate = .passed
    · rw [if_pos passed,ih]
      simp [passed]
    · rw [if_neg passed]
      have code : attempt.fate.code ≠ 0 := by
        cases met : attempt.fate with
        | passed => exact absurd met passed
        | unanswered => decide
        | refused => decide
        | unreadable => decide
      simp [passed,code]

theorem Attempt.word_code {attempt : Attempt} (reads : ∀ text, Reads (attempt.call.reads text)) {failure : Failure}
    (failed : attempt.word = .error failure) : failure.exitCode = attempt.fate.code := by
  unfold word at failed
  unfold fate
  cases answered : attempt.answer with
  | none =>
    rw [answered] at failed
    cases failed
    rfl
  | some reply =>
    rw [answered,Client.outcome] at failed
    by_cases success : reply.isSuccess
    · rw [if_pos success] at failed
      change attempt.call.reads reply.text = .error failure at failed
      simp only [if_pos success,failed]
      exact Failure.exitCode_unreadable (reads _ _ failed)
    · rw [if_neg success] at failed
      cases failed
      simp only [if_neg success]
      rfl

namespace Command

theorem endingOf_code {client : Client} {calls : List Call} (proper : ∀ call ∈ calls, call.Proper client)
    (script : List (Option Http.Reply)) :
    (endingOf ((ended (attempts calls script)).map fun _ => ExitCode.ok)).code = exitCode (attempts calls script) := by
  induction calls generalizing script with
  | nil => rfl
  | cons call later ih =>
    obtain ⟨here,rest⟩ := List.forall_mem_cons.mp proper
    rw [attempts,ended,exitCode]
    by_cases passed : (call.attempt script).fate = .passed
    · rw [if_pos passed,if_pos passed,Attempt.word_passed passed]
      exact ih rest script.tail
    · obtain ⟨failure,failed⟩ := Attempt.word_failed passed
      rw [if_neg passed,if_neg passed,failed]
      exact Attempt.word_code here.reads failed

theorem play_lines (lines : List String) (files : String → Found) (script : List (Option Http.Reply)) :
    (lines.forM say : Exchange Unit).run.play files script = ⟨.ok (),[],[],lines⟩ := by
  induction lines generalizing script with
  | nil => rfl
  | cons line rest ih =>
    have whole : (say line).run.play files script = ⟨.ok (),[],[],[line]⟩ := rfl
    change (say line >>= fun _ => rest.forM say).run.play files script = _
    rw [Exchange.play_ok (congrArg Transcript.result whole),whole,ih]
    rfl

def written (decode : String → Except Failure α) (lines : α → List String) (text : String) : List String :=
  match decode text with
  | .ok x => lines x
  | .error _ => []

theorem play_written (decode : String → Except Failure α) (lines : α → List String) (text : String)
    (files : String → Found) (script : List (Option Http.Reply)) :
    (Client.decoded (decode text) >>= fun x => (lines x).forM say).run.play files script =
      ⟨silent decode text,[],Client.countedDecode (silent decode text),written decode lines text⟩ := by
  have read : (Client.decoded (decode text)).run.play files script = _ := Client.play_decoded (decode text)
  rw [Client.countedDecode_silent,written,silent]
  cases word : decode text with
  | error failure =>
    rw [word] at read
    rw [Exchange.play_error (congrArg Transcript.result read),read]
    rfl
  | ok x =>
    rw [word] at read
    rw [Exchange.play_ok (congrArg Transcript.result read),read,play_lines]
    rfl

theorem rows_forM (rows : List EntryRow) :
    (rows.map .ok).forM sayRow = (rows.map fun row => tabbed row.fields).forM say := by
  induction rows with
  | nil => rfl
  | cons row rest ih =>
    change (say (tabbed row.fields) >>= fun _ => (rest.map .ok).forM sayRow) = _
    rw [ih]
    rfl

theorem play_rows (policy : MissingFields) (recurse : Bool) (body : String) (files : String → Found)
    (script : List (Option Http.Reply)) :
    ((RowSet.entries body recurse policy).rest.1.forM sayRow).run.play files script =
      ⟨silent (Batch.ofBody policy recurse) body,[],[],
        written (Batch.ofBody policy recurse) (fun batch => batch.rows.map fun row => tabbed row.fields) body⟩ := by
  have same : Id.run (pure (RowSet.decodeEntries body recurse policy)) = _ :=
    RowSet.decodeEntries_eq_map body recurse policy
  unfold RowSet.entries
  rw [silent,written]
  cases read : Batch.ofBody policy recurse body with
  | error failure =>
    rw [read] at same
    rw [RowSet.rest_failed _ same]
    rfl
  | ok batch =>
    rw [read] at same
    rw [RowSet.rest_decoded _ same]
    dsimp only
    rw [rows_forM,play_lines]
    rfl

section
variable {client : Client} {counts : Attempt → List Measure}

theorem makes_lines (lines : List String) : client.Makes (lines.forM say) [] counts := by
  refine Client.makes_nothing fun files script => ?_
  rw [play_lines]
  exact ⟨rfl,rfl,rfl⟩

end

def keyCall (client : Client) (recurse : Bool) (key : String) : Call :=
  client.entryCall .get key { recurse } [] (Batch.ofBody client.policy recurse)

theorem getRows_makes (client : Client) (recurse : Bool) (key : String) :
    client.Makes (getRows client recurse key) [keyCall client recurse key] fun attempt => [attempt.requested] := by
  refine Client.makes_uncounted ?_
  intro text files script
  rw [play_rows]
  refine ⟨rfl,rfl,?_⟩
  cases silent (Batch.ofBody client.policy recurse) text <;> rfl

theorem getEntries_makes (client : Client) (verbose recurse : Bool) (key : String) :
    client.Makes (getEntries client verbose recurse key) [keyCall client recurse key] :=
  (client.makes_get key { recurse }).bind fun _ => makes_lines _

theorem sayLeader_makes (client : Client) (verbose : Bool) :
    client.Makes (sayLeader client verbose) [client.plainCall .leader Peer.leaderOfText] :=
  client.makes_leader.bind fun _ => makes_lines _

theorem sayPeers_makes (client : Client) : client.Makes (sayPeers client)
    [client.plainCall .leader Peer.leaderOfText, client.plainCall .peers PeerSet.ofText] :=
  client.makes_clusterPeers.bind fun _ => makes_lines _

theorem saySelf_makes (client : Client) :
    client.Makes (client.selfLines >>= fun lines => lines.forM say) [client.plainCall .self Json.ofText] :=
  (client.makes_self.returning SelfReport.lines).bind fun lines => makes_lines lines

def reportCalls (client : Client) (reports : Reports) : List Call :=
  (if reports.leader then [client.plainCall .leader Peer.leaderOfText] else []) ++
    ((if reports.peers then
      [client.plainCall .leader Peer.leaderOfText, client.plainCall .peers PeerSet.ofText] else []) ++
    (if reports.self then [client.plainCall .self Json.ofText] else []))

theorem sayReports_eq (client : Client) (verbose : Bool) (reports : Reports) :
    sayReports client verbose reports = (if reports.leader then sayLeader client verbose else pure ()) >>= fun _ =>
      (if reports.peers then sayPeers client else pure ()) >>= fun _ =>
        if reports.self then client.selfLines >>= fun lines => lines.forM say else pure () := by
  obtain ⟨leader,peers,self⟩ := reports
  unfold sayReports
  cases leader <;> cases peers <;> cases self <;> simp

theorem sayReports_makes (client : Client) (verbose : Bool) (reports : Reports) :
    client.Makes (sayReports client verbose reports) (reportCalls client reports) := by
  have nothing : client.Makes (pure () : Exchange Unit) [] := makes_lines []
  have one : ∀ (wanted : Bool) {exchange : Exchange Unit} {calls : List Call}, client.Makes exchange calls →
      client.Makes (if wanted then exchange else pure ()) (if wanted then calls else []) := by
    intro wanted exchange calls makes
    cases wanted with
    | true => exact makes
    | false => exact nothing
  rw [sayReports_eq]
  refine (one reports.leader (sayLeader_makes client verbose)).bind fun _ => ?_
  refine (one reports.peers (sayPeers_makes client)).bind fun _ => ?_
  exact one reports.self (saySelf_makes client)

def Action.calls (client : Client) : Action → List Call
  | .get keys recurse _ => keys.map (keyCall client recurse)
  | .put key value flags cas acquire release =>
    [client.entryCall .put key { flags, cas, acquire, release } (Utf8.bytes value) (Client.verdict false)]
  | .delete key recurse cas => [client.entryCall .delete key { recurse, cas } [] (Client.verdict true)]
  | .encode _ => []
  | .decode _ => []
  | .leader => [client.plainCall .leader Peer.leaderOfText]
  | .peers => [client.plainCall .leader Peer.leaderOfText, client.plainCall .peers PeerSet.ofText]
  | .status reports => reportCalls client (wanted reports)
  | .ping => [client.plainCall .self Client.anyText]

theorem keyCall_proper (client : Client) (recurse : Bool) (key : String) : (keyCall client recurse key).Proper client :=
  client.entryCall_proper .get key { recurse } [] (Batch.ofBody_reads client.policy recurse)

theorem Action.calls_proper (client : Client) (action : Action) :
    ∀ call ∈ action.calls client, call.Proper client := by
  have one : ∀ call : Call, call.Proper client → ∀ other ∈ [call], other.Proper client :=
    fun call proper => List.forall_mem_singleton.mpr proper
  have leader := one _ (client.plainCall_proper .leader Peer.leaderOfText_reads)
  have peers := one _ (client.plainCall_proper .peers PeerSet.ofText_reads)
  have self := one _ (client.plainCall_proper .self Json.ofText_reads)
  have clusterPeers := List.forall_mem_append.mpr ⟨leader,peers⟩
  cases action with
  | get keys recurse rows =>
    intro call member
    obtain ⟨key,_,rfl⟩ := List.mem_map.mp member
    exact keyCall_proper client recurse key
  | put key value flags cas acquire release =>
    exact one _ (client.entryCall_proper .put key _ _ (Client.verdict_reads false))
  | delete key recurse cas => exact one _ (client.entryCall_proper .delete key _ _ (Client.verdict_reads true))
  | encode text => exact List.forall_mem_nil _
  | decode encoded => exact List.forall_mem_nil _
  | leader => exact leader
  | peers => exact clusterPeers
  | status reports =>
    have some_of : ∀ (wanted : Bool) {calls : List Call}, (∀ call ∈ calls, call.Proper client) →
        ∀ call ∈ if wanted then calls else [], call.Proper client := by
      intro wanted calls proper
      cases wanted with
      | true => exact proper
      | false => exact List.forall_mem_nil _
    refine List.forall_mem_append.mpr ⟨some_of _ leader,?_⟩
    exact List.forall_mem_append.mpr ⟨some_of _ clusterPeers,some_of _ self⟩
  | ping => exact one _ (client.plainCall_proper .self Client.anyText_reads)

-- Rows that cannot be decoded are not counted, other replies are.
def Action.counts : Action → Attempt → List Measure
  | .get _ _ true => fun attempt => [attempt.requested]
  | _ => Attempt.measures

def getKeys (client : Client) (verbose recurse rows : Bool) (keys : List String) : Exchange Unit :=
  if rows then say (tabbed EntryRow.columns) >>= fun _ => keys.forM (getRows client recurse)
  else keys.forM (getEntries client verbose recurse)

theorem perform_get (client : Client) (verbose recurse rows : Bool) (keys : List String) :
    perform client verbose (.get keys recurse rows) =
      getKeys client verbose recurse rows keys >>= fun _ => pure ExitCode.ok := by
  unfold perform getKeys
  cases rows <;> simp

theorem getKeys_makes (client : Client) (verbose recurse rows : Bool) (keys : List String) :
    client.Makes (getKeys client verbose recurse rows keys) (keys.map (keyCall client recurse))
      (Action.counts (.get keys recurse rows)) := by
  rw [List.map_eq_flatMap]
  cases rows with
  | true =>
    have header : client.Makes (say (tabbed EntryRow.columns)) [] (Action.counts (.get keys recurse true)) :=
      Client.makes_nothing fun _ _ => ⟨rfl,rfl,rfl⟩
    exact header.bind fun _ => Client.Makes.forM keys fun key => getRows_makes client recurse key
  | false => exact Client.Makes.forM keys fun key => getEntries_makes client verbose recurse key

theorem perform_makes (client : Client) (verbose : Bool) {action : Action} (other : action ≠ .ping) :
    client.Makes (perform client verbose action) (action.calls client) action.counts := by
  cases action with
  | get keys recurse rows =>
    rw [perform_get]
    exact (getKeys_makes client verbose recurse rows keys).returning fun _ => ExitCode.ok
  | put key value flags cas acquire release =>
    exact (client.makes_put key _ _).bind fun _ => Client.makes_nothing fun _ _ => ⟨rfl,rfl,rfl⟩
  | delete key recurse cas =>
    exact (client.makes_delete key _).bind fun _ => Client.makes_nothing fun _ _ => ⟨rfl,rfl,rfl⟩
  | encode text => exact Client.makes_nothing fun _ _ => ⟨rfl,rfl,rfl⟩
  | decode encoded => exact Client.makes_nothing fun _ _ => ⟨rfl,rfl,rfl⟩
  | leader => exact (sayLeader_makes client verbose).returning fun _ => ExitCode.ok
  | peers => exact (sayPeers_makes client).returning fun _ => ExitCode.ok
  | status reports => exact (sayReports_makes client verbose _).returning fun _ => ExitCode.ok
  | ping => exact absurd rfl other

def Comes (exchange : Exchange α) (x : α) : Prop :=
  ∀ files script y, (exchange.run.play files script).result = .ok y → y = x

theorem comes_pure (x : α) : Comes (pure x) x := by
  intro files script y got
  cases got
  rfl

theorem Comes.after {next : α → Exchange β} {y : β} (later : ∀ x, Comes (next x) y) (exchange : Exchange α) :
    Comes (exchange >>= next) y := by
  intro files script z got
  cases first : (exchange.run.play files script).result with
  | error failure =>
    rw [Exchange.play_error first] at got
    cases got
  | ok x =>
    rw [Exchange.play_ok first] at got
    exact later x _ _ z got

theorem perform_comes (client : Client) (verbose : Bool) {action : Action} (other : action ≠ .ping) :
    Comes (perform client verbose action) ExitCode.ok := by
  have last : Comes (pure ExitCode.ok) ExitCode.ok := comes_pure _
  cases action with
  | get keys recurse rows =>
    rw [perform_get]
    exact Comes.after (fun _ => last) _
  | put key value flags cas acquire release => exact Comes.after (fun _ => Comes.after (fun _ => last) _) _
  | delete key recurse cas => exact Comes.after (fun _ => Comes.after (fun _ => last) _) _
  | encode text => exact last
  | decode encoded => exact last
  | leader => exact Comes.after (fun _ => last) _
  | peers => exact Comes.after (fun _ => last) _
  | status reports => exact Comes.after (fun _ => last) _
  | ping => exact absurd rfl other

theorem perform_result (client : Client) (verbose : Bool) {action : Action} (other : action ≠ .ping)
    (files : String → Found) (script : List (Option Http.Reply)) :
    ((perform client verbose action).run.play files script).result =
      (ended (attempts (action.calls client) script)).map fun _ => ExitCode.ok := by
  have word := (perform_makes client verbose other files script).result
  rw [← word]
  cases got : ((perform client verbose action).run.play files script).result with
  | error failure => rfl
  | ok code => rw [perform_comes client verbose other files script code got]; rfl

section
variable {readers : Readers} {words : List String} {invocation : Invocation} {files : String → Found}
  {settings : Settings} {agent : Agent}

theorem run_reached (accepted : Invocation.ofWords words = .ok invocation)
    (set : Settings.loaded readers.document files invocation.config = .ok settings)
    (reached : invocation.overrides.agent settings = .ok agent) (remote : invocation.action.isLocal = false)
    (script : List (Option Http.Reply)) :
    let t := (perform ⟨agent,settings.missingFields,readers.naming⟩ invocation.verbose invocation.action).run.play files script
    (run readers words).play files script = { t with result := endingOf t.result } := by
  have ran := run_set accepted set script
  rw [carryOut_reached remote reached] at ran
  exact ran

theorem run_calls (accepted : Invocation.ofWords words = .ok invocation)
    (set : Settings.loaded readers.document files invocation.config = .ok settings)
    (reached : invocation.overrides.agent settings = .ok agent) (remote : invocation.action.isLocal = false)
    (other : invocation.action ≠ .ping) (script : List (Option Http.Reply)) :
    let client : Client := ⟨agent,settings.missingFields,readers.naming⟩
    let made := attempts (invocation.action.calls client) script
    let t := (run readers words).play files script
    t.exchanges = made.filterMap (·.exchange? client) ∧ t.result.code = exitCode made := by
  dsimp only
  rw [run_reached accepted set reached remote script]
  dsimp only
  constructor
  · exact (perform_makes ⟨agent,settings.missingFields,readers.naming⟩ invocation.verbose other files script).exchanges
  · rw [perform_result ⟨agent,settings.missingFields,readers.naming⟩ invocation.verbose other files script]
    exact endingOf_code (invocation.action.calls_proper _) script

end

end Command
end ClusterClient
