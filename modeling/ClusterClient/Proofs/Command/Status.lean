import ClusterClient.Proofs.Command.Course
namespace ClusterClient

def Report.Wanted (reports : List Report) (report : Report) : Prop :=
  reports = [] ∨ .all ∈ reports ∨ report ∈ reports

instance (reports : List Report) (report : Report) : Decidable (report.Wanted reports) :=
  inferInstanceAs (Decidable (_ ∨ _ ∨ _))

namespace Reports

def has (set : Reports) : Report → Bool
  | .all => set.leader && set.peers && set.self
  | .leader => set.leader
  | .peers => set.peers
  | .self => set.self

theorem has_insert (set : Reports) (named report : Report) (one : report ≠ .all) :
    (set.insert named).has report = true ↔ set.has report = true ∨ named = .all ∨ report = named := by
  cases report with
  | all => exact absurd rfl one
  | leader => cases named <;> simp [insert,has,all]
  | peers => cases named <;> simp [insert,has,all]
  | self => cases named <;> simp [insert,has,all]

theorem has_foldl_insert (reports : List Report) (set : Reports) (report : Report) (one : report ≠ .all) :
    (reports.foldl insert set).has report = true ↔
      set.has report = true ∨ .all ∈ reports ∨ report ∈ reports := by
  induction reports generalizing set with
  | nil => simp
  | cons named rest ih =>
    rw [List.foldl_cons,ih,has_insert set named report one,List.mem_cons,List.mem_cons]
    simp only [eq_comm (a := named) (b := Report.all)]
    tauto

theorem has_ofList (reports : List Report) (report : Report) (one : report ≠ .all) :
    (ofList reports).has report = true ↔ .all ∈ reports ∨ report ∈ reports := by
  have start : none.has report = false := by cases report <;> rfl
  rw [ofList,has_foldl_insert reports none report one,start]
  simp

theorem not_has_of_isEmpty {set : Reports} (empty : set.isEmpty = true) (report : Report) : set.has report = false := by
  obtain ⟨leader,peers,self⟩ := set
  simp only [isEmpty,Bool.not_eq_true',Bool.or_eq_false_iff] at empty
  obtain ⟨⟨rfl,rfl⟩,rfl⟩ := empty
  cases report <;> rfl

-- The first report that is named is held, or any other if it names them all.
theorem isEmpty_ofList_cons (named : Report) (rest : List Report) : (ofList (named :: rest)).isEmpty = false := by
  apply Bool.eq_false_iff.mpr
  intro empty
  have held : ∃ report ≠ Report.all, (ofList (named :: rest)).has report = true := by
    by_cases every : named = .all
    · exact ⟨.leader,nofun,(has_ofList _ .leader nofun).mpr (Or.inl (every ▸ List.mem_cons_self))⟩
    · exact ⟨named,every,(has_ofList _ named every).mpr (Or.inr List.mem_cons_self)⟩
  obtain ⟨report,_,held⟩ := held
  rw [not_has_of_isEmpty empty] at held
  cases held

theorem has_wanted (reports : List Report) (report : Report) (one : report ≠ .all) :
    (Command.wanted reports).has report = true ↔ report.Wanted reports := by
  unfold Command.wanted Report.Wanted
  cases reports with
  | nil =>
    have every : all.has report = true := by cases report <;> rfl
    simp [ofList,none,isEmpty,every]
  | cons named rest =>
    rw [isEmpty_ofList_cons,if_neg Bool.false_ne_true,has_ofList _ report one]
    simp

end Reports

def Report.pick (reports : List Report) (leader peers self : α) : List α :=
  (if Wanted reports .leader then [leader] else []) ++
    ((if Wanted reports .peers then [peers] else []) ++ (if Wanted reports .self then [self] else []))

theorem Report.pick_map (f : α → β) (reports : List Report) (leader peers self : α) :
    (pick reports leader peers self).map f = pick reports (f leader) (f peers) (f self) := by
  simp only [pick,List.map_append,apply_ite (List.map f),List.map_cons,List.map_nil]

theorem Report.pick_congr {named reports : List Report}
    (same : ∀ report ≠ Report.all, report.Wanted named ↔ report.Wanted reports) (leader peers self : α) :
    pick named leader peers self = pick reports leader peers self := by
  simp only [pick,same .leader nofun,same .peers nofun,same .self nofun]

theorem Reports.wanted_fields (reports : List Report) (leader peers self : α) :
    (if (Command.wanted reports).leader then [leader] else []) ++
      ((if (Command.wanted reports).peers then [peers] else []) ++
        (if (Command.wanted reports).self then [self] else [])) = Report.pick reports leader peers self := by
  simp only [Report.pick,← has_wanted reports .leader nofun,← has_wanted reports .peers nofun,
    ← has_wanted reports .self nofun,has]

theorem Report.pick_ne_nil (reports : List Report) (leader peers self : α) : pick reports leader peers self ≠ [] := by
  cases reports with
  | nil => simp [pick,Wanted]
  | cons named rest => cases named <;> simp [pick,Wanted]

theorem Failure.exitCode_ne_ok (failure : Failure) : failure.exitCode ≠ ExitCode.ok := by
  induction failure with
  | within context source ih => exact ih
  | status code url => exact (by decide : ExitCode.temporary ≠ ExitCode.ok)
  | transport url => exact (by decide : ExitCode.software ≠ ExitCode.ok)
  | usage cause => exact (by decide : ExitCode.usage ≠ ExitCode.ok)
  | _ => exact (by decide : ExitCode.protocol ≠ ExitCode.ok)

namespace Command
variable {readers : Readers} {files : String → Found}

def closing (t : Transcript (Except Failure Unit)) : Transcript Ending :=
  { t with result := endingOf (t.result.map fun _ => ExitCode.ok) }

-- Parts of a run, each answered by the replies that those before it have left. The first that fails
-- is the last.
def inOrder : List (List (Option Http.Reply) → Transcript Ending) → List (Option Http.Reply) → Transcript Ending
  | [], _ => ⟨.ended ExitCode.ok, [], [], []⟩
  | part :: later, script =>
    if (part script).result.code = ExitCode.ok then
      (part script).followedBy (inOrder later (script.drop (part script).exchanges.length))
    else part script

def course (exchange : Exchange Unit) (files : String → Found) (script : List (Option Http.Reply)) :
    Transcript Ending :=
  closing (exchange.run.play files script)

theorem closing_ok {t : Transcript (Except Failure Unit)} (ok : t.result = .ok ()) :
    (closing t).result.code = ExitCode.ok := by
  rw [closing,ok]
  rfl

theorem closing_error {t : Transcript (Except Failure Unit)} {failure : Failure} (failed : t.result = .error failure) :
    (closing t).result.code ≠ ExitCode.ok := by
  rw [closing,failed]
  exact failure.exitCode_ne_ok

theorem course_bind {next : Exchange Unit} {later : List (List (Option Http.Reply) → Transcript Ending)}
    (first : Exchange Unit) (rest : course next files = inOrder later) :
    course (first >>= fun _ => next) files = inOrder (course first files :: later) := by
  funext script
  rw [inOrder,course,course]
  cases got : (first.run.play files script).result with
  | error failure =>
    rw [if_neg (closing_error got),Exchange.play_error got]
    simp [closing,Transcript.followedBy,got]
  | ok done =>
    rw [if_pos (closing_ok got),Exchange.play_ok got,← rest]
    rfl

theorem course_choice {next : Exchange Unit} {later : List (List (Option Http.Reply) → Transcript Ending)}
    (wanted : Bool) (first : Exchange Unit) (rest : course next files = inOrder later) :
    course ((if wanted then first else pure ()) >>= fun _ => next) files =
      inOrder ((if wanted then [course first files] else []) ++ later) := by
  cases wanted with
  | true => exact course_bind first rest
  | false => simpa using rest

def selfTold (client : Client) (script : List (Option Http.Reply)) : Transcript Ending :=
  let attempt := (client.plainCall .self Json.ofText).attempt script
  { result := endingOf (attempt.word.map fun _ => ExitCode.ok)
    exchanges := (attempt.exchange? client).toList
    measures := attempt.measures
    lines := attempt.shown (written Json.ofText SelfReport.lines) }

theorem saySelf_tells (client : Client) :
    Tells (client.selfLines >>= fun lines => lines.forM say) [client.plainCall .self Json.ofText]
      (Attempt.shown (written Json.ofText SelfReport.lines)) := by
  have whole : (client.selfLines >>= fun lines => lines.forM say) =
      client.selfText >>= fun text => Client.decoded (Json.ofText text) >>= fun doc =>
        (SelfReport.lines doc).forM say := by
    simp only [Client.selfLines,Client.self,bind_assoc,pure_bind]
  rw [whole]
  refine Tells.send ?_
  intro text files script
  rw [play_written]

theorem course_self (client : Client) :
    course (client.selfLines >>= fun lines => lines.forM say) files = selfTold client := by
  funext script
  obtain ⟨sent,counted,word⟩ := saySelf_makes client files script
  have told := saySelf_tells client files script
  rw [attempts_single] at sent counted word told
  rw [sent_single] at sent
  rw [List.flatMap_singleton] at counted told
  rw [ended_single] at word
  have same : ∀ word : Except Failure Unit, word.map (fun _ => ()) = word := by
    intro word
    cases word <;> rfl
  rw [same] at word
  simp only [course,closing,selfTold,sent,counted,told,word]

theorem course_reports (client : Client) (verbose : Bool) (reports : List Report) :
    course (sayReports client verbose (wanted reports)) files =
      inOrder (Report.pick reports (course (sayLeader client verbose) files) (course (sayPeers client) files)
        (selfTold client)) := by
  have nothing : course (pure ()) files = inOrder [] := rfl
  rw [sayReports_eq,← Reports.wanted_fields]
  refine course_choice _ (sayLeader client verbose) (course_choice _ (sayPeers client) ?_)
  have last := course_choice (wanted reports).self (client.selfLines >>= fun lines => lines.forM say) nothing
  rw [course_self,List.append_nil] at last
  rw [← last,bind_pure_unit]

def reaching (readers : Readers) (invocation : Invocation) (files : String → Found)
    (asked : Client → List (Option Http.Reply) → Transcript Ending) (script : List (Option Http.Reply)) :
    Transcript Ending :=
  match Settings.loaded readers.document files invocation.config with
  | .error fault => ⟨.failed ExitCode.config fault.message, [], [], []⟩
  | .ok settings =>
    match invocation.overrides.agent settings with
    | .error failure => ⟨endingOf (.error failure), [], [], []⟩
    | .ok agent => asked ⟨agent, settings.missingFields, readers.naming⟩ script

theorem course_ok (exchange : Exchange Unit) (script : List (Option Http.Reply)) :
    let t := (exchange >>= fun _ => pure ExitCode.ok).run.play files script
    { t with result := endingOf t.result } = course exchange files script := by
  unfold course closing
  cases got : (exchange.run.play files script).result with
  | error failure =>
    rw [Exchange.play_error got]
    simp [Transcript.followedBy,Except.map]
  | ok done =>
    rw [Exchange.play_ok got]
    simp [Transcript.followedBy,Except.map]

theorem run_reaching {words : List String} {invocation : Invocation} {action : Action}
    (accepted : Invocation.ofWords words = .ok { invocation with action }) (remote : action.isLocal = false)
    (exchange : Client → Exchange Unit)
    (performs : ∀ client,
      perform client invocation.verbose action = exchange client >>= fun _ => pure ExitCode.ok) :
    (run readers words).play files = reaching readers invocation files fun client => course (exchange client) files := by
  funext script
  unfold reaching
  cases set : Settings.loaded readers.document files invocation.config with
  | error fault => exact run_unset accepted set script
  | ok settings =>
    dsimp only
    cases reached : invocation.overrides.agent settings with
    | error failure =>
      have refused : (carryOut readers.naming { invocation with action } settings).run.play files script =
          ⟨.error failure,[],[],[]⟩ := by
        apply carryOut_refused
        · exact remote
        · exact reached
      rw [run_set accepted set script,refused]
    | ok agent =>
      rw [run_reached accepted set reached remote script]
      dsimp only
      rw [performs]
      exact course_ok _ script

-- What keeps a run from its agent keeps each of its parts from it, so the first tells it already.
theorem reaching_inOrder (invocation : Invocation)
    {parts : List (Client → List (Option Http.Reply) → Transcript Ending)} (some_part : parts ≠ []) :
    reaching readers invocation files (fun client => inOrder (parts.map fun part => part client)) =
      inOrder (parts.map (reaching readers invocation files)) := by
  obtain ⟨part,later,rfl⟩ := List.exists_cons_of_ne_nil some_part
  funext script
  unfold reaching
  cases set : Settings.loaded readers.document files invocation.config with
  | error fault => rfl
  | ok settings =>
    dsimp only
    cases reached : invocation.overrides.agent settings with
    | error failure =>
      simp only [List.map_cons,inOrder]
      exact (if_neg failure.exitCode_ne_ok).symm
    | ok agent => rfl

def selfAlone (readers : Readers) (invocation : Invocation) (files : String → Found) :
    List (Option Http.Reply) → Transcript Ending :=
  reaching readers invocation files selfTold

theorem run_leader {words : List String} {invocation : Invocation}
    (accepted : Invocation.ofWords words = .ok { invocation with action := .leader }) :
    (run readers words).play files =
      reaching readers invocation files fun client => course (sayLeader client invocation.verbose) files :=
  run_reaching accepted rfl (fun client => sayLeader client invocation.verbose) fun _ => rfl

theorem run_peers {words : List String} {invocation : Invocation}
    (accepted : Invocation.ofWords words = .ok { invocation with action := .peers }) :
    (run readers words).play files = reaching readers invocation files fun client => course (sayPeers client) files :=
  run_reaching accepted rfl sayPeers fun _ => rfl

theorem run_status {words : List String} {invocation : Invocation} {reports : List Report}
    (accepted : Invocation.ofWords words = .ok { invocation with action := .status reports }) :
    (run readers words).play files = inOrder (Report.pick reports
      (reaching readers invocation files fun client => course (sayLeader client invocation.verbose) files)
      (reaching readers invocation files fun client => course (sayPeers client) files) (selfAlone readers invocation files)) := by
  have whole : (run readers words).play files = reaching readers invocation files fun client =>
      course (sayReports client invocation.verbose (wanted reports)) files :=
    run_reaching accepted rfl (fun client => sayReports client invocation.verbose (wanted reports)) fun _ => rfl
  rw [whole,selfAlone,← Report.pick_map (reaching readers invocation files),
    ← reaching_inOrder invocation (Report.pick_ne_nil _ _ _ _)]
  simp only [course_reports,Report.pick_map]

def naming (reports : List Report) : List String := reports.flatMap fun report => ["--status", report.name]

theorem take_report (g : Given) (report : Report) :
    g.take .status report.name = .ok { g with reports := g.reports ++ [report] } := by
  cases report <;> rfl

-- An option waits for its value, and the value for the next word, before it is checked.
theorem readWords_report (report : Report) (rest : List String) {g settled : Given} (checked : g.settle = .ok settled) :
    readWords .status g false ("--status" :: report.name :: rest) =
      readWords .status { settled with pending := some (.status,some report.name) } false rest := by
  have option : longWord .status g "status".toList = .ok { settled with pending := some (.status,none) } := by
    change g.give .status none = _
    rw [Given.give,checked]
    rfl
  have value : readWords .status { settled with pending := some (.status,none) } false (report.name :: rest) =
      readWords .status { settled with pending := some (.status,some report.name) } false rest := by
    cases report <;> rfl
  rw [readWords,← value]
  have none_below : (if g.isAwaiting then none else Level.status.child? "--status") = none := ite_self none
  rw [none_below]
  change longWord .status g "status".toList >>= _ = _
  rw [option]
  rfl

theorem readWords_naming (reports : List Report) {g settled : Given} (checked : g.settle = .ok settled)
    (idle : settled.pending = none) :
    readWords .status g false (naming reports) =
      .ok [(.status,{ settled with reports := settled.reports ++ reports })] := by
  induction reports generalizing g settled with
  | nil =>
    change finishLevel .status g >>= _ = _
    rw [finishLevel,checked,List.append_nil]
    rfl
  | cons report later ih =>
    have next : { settled with pending := some (.status,some report.name) }.settle =
        .ok { settled with reports := settled.reports ++ [report] } := by
      change { settled with pending := none }.take .status report.name = _
      rw [take_report,← idle]
    have read := ih next idle
    rw [List.append_assoc] at read
    exact (readWords_report report (naming later) checked).trans read

theorem ofWords_naming (reports : List Report) :
    Invocation.ofWords ("status" :: naming reports) = .ok ⟨{},false,none,.status reports⟩ := by
  have start : ({} : Given).settle = .ok {} := rfl
  have read : readWords .status {} false (naming reports) = .ok [(.status,{ reports })] :=
    readWords_naming reports start rfl
  change (readWords .status {} false (naming reports) >>= _) >>= _ = _
  rw [read]
  rfl

-- Which reports are wanted is all that counts. Each is what its own command tells, and finds the
-- replies that those before it have left.
theorem status_in_parts {words leaderWords peersWords : List String} {invocation : Invocation} {reports : List Report}
    (accepted : Invocation.ofWords words = .ok { invocation with action := .status reports })
    (leaderAccepted : Invocation.ofWords leaderWords = .ok { invocation with action := .leader })
    (peersAccepted : Invocation.ofWords peersWords = .ok { invocation with action := .peers })
    (readers : Readers) (files : String → Found) (script : List (Option Http.Reply)) :
    (run readers words).play files script = inOrder (Report.pick reports ((run readers leaderWords).play files)
        ((run readers peersWords).play files) (selfAlone readers invocation files)) script ∧
      ∀ others named, Invocation.ofWords others = .ok { invocation with action := .status named } →
        (∀ report ≠ Report.all, report.Wanted named ↔ report.Wanted reports) →
          (run readers others).play files script = (run readers words).play files script := by
  constructor
  · rw [run_status accepted,run_leader leaderAccepted,run_peers peersAccepted]
  · intro others named understood same
    rw [run_status understood,run_status accepted,Report.pick_congr same]

-- The agent's own report is named first and twice, but comes last and once. It is not asked for
-- when the peers are refused.
theorem status_in_parts_turned :
    let words := "status" :: naming [.self,.peers,.leader,.self]
    let leader := some (Client.carrying "\"h:1\"")
    let peers := some (Client.carrying "[\"g:1\",\"h:1\"]")
    let self := some (Client.carrying "\x7b\"Config\":\x7b\"NodeName\":\"n\",\"Ports\":\x7b\"DNS\":8600\x7d\x7d\x7d")
    let t := (run .plain words).play (fun _ => .nothing) [leader,leader,peers,self]
    let u := (run .plain words).play (fun _ => .nothing) [leader,leader,some { status := 500, body := [] },self]
    (t.exchanges.length = 4 ∧ t.result.code = 0 ∧ t.lines.length = 114 ∧
        ["Leader: h:1", "JSON Peer: \"g:1\"", "JSON Peer: \"h:1\" (leader)",
          "consul.agent.status.config.acl_datacenter=null", "consul.agent.status.config.node_name=\"n\"",
          "consul.agent.status.config.ports.dns=8600", "consul.agent.status.member.tags.vsn_min=null"].Sublist t.lines) ∧
      u.exchanges.length = 3 ∧ u.result.code = 75 ∧ u.lines = ["Leader: h:1"] := by
  intro words leader peers self t u
  let plain : Invocation := ⟨{},false,none,.leader⟩
  have asked : Invocation.ofWords words = .ok { plain with action := .status [.self,.peers,.leader,.self] } :=
    ofWords_naming _
  have leaderAsked : Invocation.ofWords ["leader"] = .ok { plain with action := .leader } := by decide +kernel
  have peersAsked : Invocation.ofWords ["peers"] = .ok { plain with action := .peers } := by decide +kernel
  have parts := fun script => (status_in_parts asked leaderAsked peersAsked .plain (fun _ => .nothing) script).1
  constructor
  · rw [show t = _ from parts [leader,leader,peers,self]]
    decide +kernel
  · rw [show u = _ from parts [leader,leader,some { status := 500, body := [] },self]]
    decide +kernel

end Command
end ClusterClient
