import ClusterClient.Command.Run
import ClusterClient.Proofs.Agent
import ClusterClient.Proofs.Decimal
import ClusterClient.Proofs.Dialog
import ClusterClient.Proofs.Port
namespace ClusterClient

def Settings.loaded (reader : Yaml.Reader) (files : String → Found) (config : Option String) :
    Except SettingsFault Settings :=
  ((Settings.load reader config).play files []).result

theorem Dialog.play_looking (path : String) (next : Found → Dialog α) (files : String → Found)
    (script : List (Option Http.Reply)) :
    (looking path >>= next).play files script = (next (files path)).play files script := rfl

theorem Settings.play_load (reader : Yaml.Reader) (config : Option String) (files : String → Found)
    (script : List (Option Http.Reply)) :
    (Settings.load reader config).play files script = ⟨Settings.loaded reader files config,[],[],[]⟩ := by
  unfold Settings.loaded
  cases config with
  | some path =>
    rw [Settings.load,Dialog.play_looking,Dialog.play_looking]
    cases files path <;> rfl
  | none =>
    rw [Settings.load,Dialog.play_looking,Dialog.play_looking]
    cases files Settings.defaultPath <;> rfl

namespace Command
variable {readers : Readers} {words : List String} {invocation : Invocation} {files : String → Found}

def endingOf : Except Failure UInt8 → Ending
  | .ok code => .ended code
  | .error failure => .failed failure.exitCode failure.message

theorem run_accepted (accepted : Invocation.ofWords words = .ok invocation) :
    run readers words = Settings.load readers.document invocation.config >>= fun found =>
      match found with
      | .error fault => pure (.failed ExitCode.config fault.message)
      | .ok settings => (carryOut readers.naming invocation settings).run >>= fun word => pure (endingOf word) := by
  rw [run,accepted]
  dsimp only
  congr 1
  funext found
  cases found with
  | error fault => rfl
  | ok settings =>
    dsimp only
    congr 1
    funext word
    cases word <;> rfl

theorem run_unset (accepted : Invocation.ofWords words = .ok invocation) {fault : SettingsFault}
    (unset : Settings.loaded readers.document files invocation.config = .error fault) (script : List (Option Http.Reply)) :
    (run readers words).play files script = ⟨.failed ExitCode.config fault.message,[],[],[]⟩ := by
  rw [run_accepted accepted,Dialog.play_bind,Settings.play_load,unset]
  rfl

theorem run_set (accepted : Invocation.ofWords words = .ok invocation) {settings : Settings}
    (set : Settings.loaded readers.document files invocation.config = .ok settings) (script : List (Option Http.Reply)) :
    let t := (carryOut readers.naming invocation settings).run.play files script
    (run readers words).play files script = { t with result := endingOf t.result } := by
  rw [run_accepted accepted,Dialog.play_bind,Settings.play_load,set]
  dsimp only
  rw [Dialog.play_map]
  rfl

def IsPort (text : String) : Prop := ∃ n, 1 ≤ n ∧ n ≤ 65535 ∧ Decimal.Spells (Text.trim text).toList n

structure Overrides.Usable (overrides : Overrides) : Prop where
  host : ∀ host ∈ overrides.host, Text.allBlank host = false
  port : ∀ port ∈ overrides.port, IsPort port

theorem setPortText_cases (agent : Agent) (port : String) :
    (∃ n : UInt16, 1 ≤ n.toNat ∧ Decimal.Spells (Text.trim port).toList n.toNat ∧
      agent.setPortText port = .ok (agent.setPort n)) ∨
    (¬IsPort port ∧ agent.setPortText port = .error (.usage (.port port))) := by
  have outcome := Port.agent_outcome agent port
  rw [Port.setPortText_eq_map]
  generalize agent.putPortText port = after at outcome
  cases outcome with
  | @taken n small given =>
    have same : (UInt16.ofNat n).toNat = n := UInt16.toNat_ofNat_of_lt' (Nat.lt_succ_of_le small)
    refine Or.inl ⟨UInt16.ofNat n,?_,?_,rfl⟩
    · rw [same]
      exact Nat.pos_of_ne_zero given.1
    · rw [same]
      exact given.2
  | refused none =>
    refine Or.inr ⟨?_,rfl⟩
    rintro ⟨n,positive,small,spelled⟩
    exact none n small ⟨Nat.ne_of_gt positive,spelled⟩

structure Overrides.Ports (overrides : Overrides) (configured port : UInt16) : Prop where
  given : ∀ text ∈ overrides.port, 1 ≤ port.toNat ∧ Decimal.Spells (Text.trim text).toList port.toNat
  kept : overrides.port = none → port = configured

-- Why there is no agent. A host is looked at first.
inductive Overrides.Refused (overrides : Overrides) : Failure → Prop
  | host {text : String} (given : text ∈ overrides.host) (blank : Text.allBlank text = true) :
    Refused overrides (.usage (.host (Text.quoted text)))
  | port {text : String} (hosted : ∀ host ∈ overrides.host, Text.allBlank host = false)
    (given : text ∈ overrides.port) (bad : ¬IsPort text) : Refused overrides (.usage (.port text))

namespace Overrides

def hosted (overrides : Overrides) (agent : Agent) : Except Failure Agent :=
  match overrides.host with
  | none => .ok agent
  | some host =>
    if Text.allBlank host then .error (.usage (.host (Text.quoted host))) else .ok (agent.setHost (Text.trim host))

def ported (overrides : Overrides) (agent : Agent) : Except Failure Agent :=
  match overrides.port with
  | none => .ok agent
  | some port => agent.setPortText port

def completed (overrides : Overrides) (agent : Agent) : Agent :=
  let agent := match overrides.cluster with
    | none => agent
    | some cluster => agent.setCluster cluster
  match overrides.timeoutMs with
  | none => agent
  | some ms => agent.setTimeoutMs ms

theorem agent_eq (overrides : Overrides) (settings : Settings) :
    overrides.agent settings =
      overrides.hosted settings.agent >>= overrides.ported >>= fun agent => .ok (overrides.completed agent) := by
  obtain ⟨host,port,cluster,timeoutMs⟩ := overrides
  have later : ∀ agent, (match port with
      | none => .ok agent >>= fun agent => .ok (completed ⟨host,port,cluster,timeoutMs⟩ agent)
      | some port => agent.setPortText port >>= fun agent => .ok (completed ⟨host,some port,cluster,timeoutMs⟩ agent)) =
      (ported ⟨host,port,cluster,timeoutMs⟩ agent >>= fun agent =>
        .ok (completed ⟨host,port,cluster,timeoutMs⟩ agent)) := by
    intro agent
    cases port <;> rfl
  unfold hosted
  cases host with
  | none => exact later _
  | some host =>
    dsimp only
    by_cases blank : Text.allBlank host
    · rw [if_pos blank]
      unfold Overrides.agent
      simp only [if_pos blank]
      rfl
    · rw [if_neg blank]
      unfold Overrides.agent
      simp only [if_neg blank]
      exact later _

theorem completed_kept (overrides : Overrides) (agent : Agent) : (overrides.completed agent).kept = agent.kept := by
  obtain ⟨host,port,cluster,timeoutMs⟩ := overrides
  unfold completed
  cases cluster <;> cases timeoutMs <;> rfl

theorem hosted_cases (overrides : Overrides) {agent : Agent} (empty : agent.kept = {}) :
    ((∀ host ∈ overrides.host, Text.allBlank host = false) ∧
      overrides.hosted agent = .ok { agent with host := (overrides.host.map Text.trim).getD agent.host }) ∨
    ∃ host ∈ overrides.host, Text.allBlank host = true ∧
      overrides.hosted agent = .error (.usage (.host (Text.quoted host))) := by
  unfold hosted
  cases overrides.host with
  | none => exact Or.inl ⟨nofun,rfl⟩
  | some host =>
    by_cases blank : Text.allBlank host
    · right
      simp [blank]
    · left
      simp [blank,Agent.setHost,empty]

theorem ported_cases (overrides : Overrides) {agent : Agent} (empty : agent.kept = {}) :
    (∃ n, overrides.Ports agent.port n ∧ overrides.ported agent = .ok { agent with port := n }) ∨
    ∃ port ∈ overrides.port, ¬IsPort port ∧ overrides.ported agent = .error (.usage (.port port)) := by
  unfold ported
  cases given : overrides.port with
  | none =>
    left
    refine ⟨agent.port,⟨?_,fun _ => rfl⟩,rfl⟩
    rw [given]
    exact nofun
  | some port =>
    rcases setPortText_cases agent port with ⟨n,positive,spelled,taken⟩ | ⟨bad,refused⟩
    · left
      refine ⟨n,⟨?_,?_⟩,?_⟩
      · intro text same
        rw [given] at same
        cases same
        exact ⟨positive,spelled⟩
      · intro none
        rw [given] at none
        cases none
      · dsimp only
        rw [taken,Agent.setPort,empty]
    · right
      exact ⟨port,rfl,bad,refused⟩

theorem Ports.isPort {overrides : Overrides} {configured port : UInt16} (ports : overrides.Ports configured port) :
    ∀ text ∈ overrides.port, IsPort text := by
  intro text given
  obtain ⟨positive,spelled⟩ := ports.given text given
  exact ⟨port.toNat,positive,Nat.le_of_lt_succ port.toNat_lt,spelled⟩

theorem Refused.unusable {overrides : Overrides} {failure : Failure} (refused : overrides.Refused failure) :
    ¬overrides.Usable := by
  intro usable
  cases refused with
  | host given blank =>
    rw [usable.host _ given] at blank
    cases blank
  | port _ given bad => exact bad (usable.port _ given)

theorem settings_kept (settings : Settings) : settings.agent.kept = {} := by
  rw [Settings.agent]
  cases settings.cluster <;> rfl

theorem agent_steps (overrides : Overrides) (settings : Settings) :
    (∃ port, overrides.Usable ∧ overrides.Ports settings.agent.port port ∧
      overrides.agent settings = .ok (overrides.completed
        { settings.agent with host := (overrides.host.map Text.trim).getD settings.agent.host, port })) ∨
    ∃ failure, overrides.Refused failure ∧ overrides.agent settings = .error failure := by
  have fresh := settings_kept settings
  rw [agent_eq]
  rcases overrides.hosted_cases fresh with ⟨named,hosted⟩ | ⟨host,given,blank,refused⟩
  · have empty : { settings.agent with host := (overrides.host.map Text.trim).getD settings.agent.host }.kept = {} :=
      fresh
    rcases overrides.ported_cases empty with ⟨n,ports,ported⟩ | ⟨port,given,bad,refused⟩
    · left
      refine ⟨n,⟨named,ports.isPort⟩,ports,?_⟩
      simp only [hosted,ported,bind,Except.bind]
    · right
      refine ⟨_,.port named given bad,?_⟩
      simp only [hosted,refused,bind,Except.bind]
  · right
    refine ⟨_,.host given blank,?_⟩
    simp only [refused,bind,Except.bind]

theorem agent_cases (overrides : Overrides) (settings : Settings) :
    (overrides.Usable ∧ ∃ agent, overrides.agent settings = .ok agent ∧ agent.kept = {}) ∨
      (¬overrides.Usable ∧ ∃ cause, overrides.agent settings = .error (.usage cause)) := by
  rcases overrides.agent_steps settings with ⟨port,usable,_,reached⟩ | ⟨failure,refused,failed⟩
  · left
    refine ⟨usable,_,reached,?_⟩
    rw [completed_kept]
    exact settings_kept settings
  · right
    refine ⟨refused.unusable,?_⟩
    cases refused with
    | host => exact ⟨_,failed⟩
    | port => exact ⟨_,failed⟩

end Overrides

def Action.isLocal : Action → Bool
  | .encode _ => true
  | .decode _ => true
  | _ => false

theorem carryOut_agent (naming : Http.Naming) (invocation : Invocation) (settings : Settings) (remote : invocation.action.isLocal = false) :
    carryOut naming invocation settings =
      (liftM (invocation.overrides.agent settings) : Exchange Agent) >>= fun agent =>
        perform { agent, policy := settings.missingFields, naming } invocation.verbose invocation.action := by
  obtain ⟨overrides,verbose,config,action⟩ := invocation
  cases action with
  | encode text => cases remote
  | decode encoded => cases remote
  | get keys recurse rows => rfl
  | put key value flags cas acquire release => rfl
  | delete key recurse cas => rfl
  | leader => rfl
  | peers => rfl
  | status reports => rfl
  | ping => rfl

theorem carryOut_reached {settings : Settings} {agent : Agent} (remote : invocation.action.isLocal = false)
    (reached : invocation.overrides.agent settings = .ok agent) :
    carryOut readers.naming invocation settings = perform ⟨agent,settings.missingFields,readers.naming⟩ invocation.verbose invocation.action := by
  rw [carryOut_agent readers.naming invocation settings remote,reached]
  rfl

theorem carryOut_refused {settings : Settings} {failure : Failure} (remote : invocation.action.isLocal = false)
    (refused : invocation.overrides.agent settings = .error failure) (script : List (Option Http.Reply)) :
    (carryOut readers.naming invocation settings).run.play files script = ⟨.error failure,[],[],[]⟩ := by
  rw [carryOut_agent readers.naming invocation settings remote,refused]
  rfl

theorem reached_current {overrides : Overrides} {settings : Settings} {agent : Agent}
    (reached : overrides.agent settings = .ok agent) : agent.Current := by
  rcases overrides.agent_cases settings with ⟨_,other,taken,empty⟩ | ⟨_,cause,refused⟩
  · rw [reached] at taken
    cases taken
    exact Agent.current_of_empty empty
  · rw [reached] at refused
    cases refused

end Command
end ClusterClient
