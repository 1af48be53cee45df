import ClusterClient.Proofs.Command.Arguments
import ClusterClient.Proofs.Command.Start
import ClusterClient.Proofs.Entry.Query
import ClusterClient.Proofs.HostName
namespace ClusterClient

namespace Agent
variable {agent : Agent}

theorem setTimeoutMs_ranged {ms : UInt32} (ranged : 1 ≤ ms.toNat ∧ ms.toNat ≤ 65535) :
    agent.setTimeoutMs ms = { agent with timeoutMs := ms } := by
  have least : ¬ms < leastTimeout := Nat.not_lt.mpr ranged.1
  have most : ¬mostTimeout < ms := Nat.not_lt.mpr ranged.2
  rw [setTimeoutMs,if_neg least,if_neg most]

end Agent

theorem Settings.agent_eq {settings : Settings} (valid : settings.violations = []) :
    settings.agent =
      { host := settings.host
        port := settings.port
        cluster := Query.setText settings.cluster
        timeoutMs := settings.timeoutMs } := by
  rw [Settings.agent,Agent.setTimeoutMs_ranged (violations_eq_nil.mp valid).2.2]
  cases settings.cluster <;> rfl

namespace Command
variable {overrides : Overrides} {settings : Settings} {agent : Agent}

namespace Overrides

-- Each value is the override where there is one and the configured one otherwise, and all of them
-- are such that requests can be made.
structure Settled (overrides : Overrides) (settings : Settings) (agent : Agent) : Prop where
  host : agent.host = (overrides.host.map Text.trim).getD settings.host
  named : agent.host ≠ ""
  trimmed : Text.Trimmed agent.host
  port : overrides.Ports settings.port agent.port
  portRange : 1 ≤ agent.port.toNat ∧ agent.port.toNat ≤ 65535
  timeout : agent.timeoutMs = overrides.timeoutMs.getD settings.timeoutMs
  timeoutRange : 1 ≤ agent.timeoutMs.toNat ∧ agent.timeoutMs.toNat ≤ 65535
  cluster : agent.cluster = Query.setText (overrides.cluster.or settings.cluster)
  clusterNamed : agent.cluster ≠ some ""
  urls : ∀ wanted : List Agent.Wanted, (Agent.run [agent] (wanted.map (.read 0))).1 =
    wanted.map fun each => some (Agent.urlAt (agent.host, agent.port) each)

theorem completed_eq (ranged : overrides.Ranged) (kept : Query.setText agent.cluster = agent.cluster) :
    overrides.completed agent =
      { agent with
        cluster := Query.setText (overrides.cluster.or agent.cluster)
        timeoutMs := overrides.timeoutMs.getD agent.timeoutMs } := by
  unfold completed
  cases overrides.cluster with
  | none =>
    rw [Option.none_or,kept]
    cases given : overrides.timeoutMs with
    | none => rfl
    | some ms => exact Agent.setTimeoutMs_ranged (ranged ms given)
  | some cluster =>
    cases given : overrides.timeoutMs with
    | none => rfl
    | some ms => exact Agent.setTimeoutMs_ranged (ranged ms given)

theorem usable_iff : overrides.Usable ↔ ∃ agent, overrides.agent settings = .ok agent := by
  rcases overrides.agent_steps settings with ⟨port,usable,_,reached⟩ | ⟨failure,refused,failed⟩
  · exact iff_of_true usable ⟨_,reached⟩
  · refine iff_of_false refused.unusable ?_
    intro ⟨agent,reached⟩
    rw [failed] at reached
    cases reached

theorem Refused.unique {failure other : Failure} (refused : overrides.Refused failure)
    (also : overrides.Refused other) : failure = other := by
  cases refused with
  | host given blank =>
    cases also with
    | host given' _ =>
      rw [Option.mem_unique given given']
    | port hosted _ _ =>
      rw [hosted _ given] at blank
      cases blank
  | port hosted given bad =>
    cases also with
    | host given' blank =>
      rw [hosted _ given'] at blank
      cases blank
    | port _ given' _ =>
      rw [Option.mem_unique given given']

theorem agent_eq_error {failure : Failure} : overrides.agent settings = .error failure ↔ overrides.Refused failure := by
  rcases overrides.agent_steps settings with ⟨port,usable,_,reached⟩ | ⟨other,refused,failed⟩
  · rw [reached]
    refine iff_of_false ?_ fun refused => refused.unusable usable
    intro impossible
    cases impossible
  · rw [failed]
    constructor
    · intro same
      cases same
      exact refused
    · intro also
      rw [refused.unique also]

theorem agent_eq_ok (valid : settings.violations = []) (ranged : overrides.Ranged)
    (reached : overrides.agent settings = .ok agent) :
    ∃ port, overrides.Usable ∧ overrides.Ports settings.port port ∧ agent =
      { host := (overrides.host.map Text.trim).getD settings.host
        port
        cluster := Query.setText (overrides.cluster.or settings.cluster)
        timeoutMs := overrides.timeoutMs.getD settings.timeoutMs } := by
  rcases overrides.agent_steps settings with ⟨port,usable,ports,same⟩ | ⟨failure,_,failed⟩
  · rw [reached,Settings.agent_eq valid,completed_eq ranged (Query.setText_idem _),Query.setText_or] at same
    rw [Settings.agent_eq valid] at ports
    exact ⟨port,usable,ports,Except.ok.inj same⟩
  · rw [reached] at failed
    cases failed

theorem agent_settled (valid : settings.violations = []) (ranged : overrides.Ranged)
    (reached : overrides.agent settings = .ok agent) : overrides.Settled settings agent := by
  obtain ⟨proper,leastPort,configured⟩ := Settings.violations_eq_nil.mp valid
  have current := reached_current reached
  obtain ⟨port,usable,ports,rfl⟩ := agent_eq_ok valid ranged reached
  constructor
  case host => rfl
  case port => exact ports
  case timeout => rfl
  case cluster => rfl
  case urls => exact Agent.run_reads current
  case named =>
    cases given : overrides.host with
    | none => exact proper.ne_empty
    | some host =>
      -- A blank host would have been refused.
      intro empty
      have blank := Text.trim_eq_empty.mp empty
      rw [usable.host host given] at blank
      cases blank
  case trimmed =>
    cases overrides.host with
    | none => exact proper.trimmed
    | some host => exact Text.trim_trimmed host
  case portRange =>
    refine ⟨?_,Nat.le_of_lt_succ port.toNat_lt⟩
    cases given : overrides.port with
    | none =>
      rw [ports.kept given]
      exact leastPort
    | some text => exact (ports.given text given).1
  case timeoutRange =>
    cases given : overrides.timeoutMs with
    | none => exact configured
    | some ms => exact ranged ms given
  case clusterNamed => exact Query.setText_ne_empty _

end Overrides

-- Whatever the four texts are, only a timeout can make the command line unreadable. What is read
-- leads to an agent unless a host is blank or else a port is none, and that agent is in order.
theorem overrides_settled (valid : settings.violations = []) :
    (∀ texts overrides,
      Invocation.ofWords texts.written = .ok { overrides, verbose := false, config := none, action := .ping } ↔
        Texts.Spell texts overrides) ∧
    ∀ words invocation, Invocation.ofWords words = .ok invocation →
      (∀ failure, invocation.overrides.agent settings = .error failure ↔ invocation.overrides.Refused failure) ∧
      ((∃ agent, invocation.overrides.agent settings = .ok agent) ↔ invocation.overrides.Usable) ∧
      ∀ agent, invocation.overrides.agent settings = .ok agent → invocation.overrides.Settled settings agent := by
  refine ⟨fun _ _ => ofWords_texts,?_⟩
  intro words invocation accepted
  refine ⟨fun _ => Overrides.agent_eq_error,Overrides.usable_iff.symm,?_⟩
  intro agent reached
  exact Overrides.agent_settled valid (ofWords_ranged accepted) reached

theorem overrides_settled_blanks :
    let settings : Settings := { cluster := some "dc1" }
    let texts : Texts := { host := "\u3000a ", port := "\t+080", cluster := "", timeout := "7" }
    let bad : Texts := { host := "\u3000", port := "0" }
    (∃ invocation agent, Invocation.ofWords texts.written = .ok invocation ∧
      invocation.overrides.agent settings = .ok agent ∧ agent.host = "a" ∧ agent.port = 80 ∧ agent.cluster = none ∧
      agent.timeoutMs = 7 ∧ (Agent.run [agent] [.read 0 (.url .leader)]).1 = [some "http://a:80/v1/status/leader"]) ∧
    ∃ invocation, Invocation.ofWords bad.written = .ok invocation ∧
      invocation.overrides.agent settings = .error (.usage (.host "\"\\u\x7b3000\x7d\"")) := by
  intro settings texts bad
  have valid : settings.violations = [] := by decide +kernel
  obtain ⟨read,each⟩ := overrides_settled valid
  constructor
  · let overrides : Overrides := { host := texts.host, port := texts.port, cluster := texts.cluster, timeoutMs := some 7 }
    have accepted := (read texts overrides).mpr ⟨rfl,rfl,rfl,by decide +kernel⟩
    obtain ⟨_,used,settled⟩ := each _ _ accepted
    have named : Text.allBlank "\u3000a " = false := by decide +kernel
    have spelled : Decimal.Spells (Text.trim "\t+080").toList 80 := Decimal.natural?_exact.mp (by decide +kernel)
    have usable : overrides.Usable := by
      constructor
      · intro host given
        cases given
        exact named
      · intro port given
        cases given
        exact ⟨80,by decide,by decide,spelled⟩
    obtain ⟨agent,reached⟩ := used.mpr usable
    obtain ⟨host,_,_,port,_,timeout,_,cluster,_,urls⟩ := settled agent reached
    have shortened : agent.host = "a" := host.trans (by decide +kernel)
    have eighty : agent.port = 80 := UInt16.toNat_inj.mp ((port.given _ rfl).2.unique spelled)
    have leader := urls [.url .leader]
    rw [shortened,eighty] at leader
    exact ⟨_,agent,accepted,reached,shortened,eighty,cluster,timeout,leader.trans (by decide +kernel)⟩
  · have accepted := (read bad ⟨bad.host,bad.port,none,none⟩).mpr ⟨rfl,rfl,rfl,rfl⟩
    refine ⟨_,accepted,((each _ _ accepted).1 _).mpr ?_⟩
    have told : Text.quoted "\u3000" = "\"\\u\x7b3000\x7d\"" := by decide +kernel
    rw [← told]
    exact .host rfl (by decide +kernel)

end Command
end ClusterClient
