import ClusterClient.Peer.Basic
import ClusterClient.Proofs.Agent
import ClusterClient.Proofs.Blank
import ClusterClient.Proofs.Decimal
namespace ClusterClient.Port
variable {σ : Type} {before : σ} {put : UInt16 → σ} {port : σ → UInt16} {meant : Nat → Prop} {refusal : Failure}
  {after : Except Failure Unit × σ} {n : Nat}

-- A number that is meant is put where the port is, and without one everything stays.
inductive Outcome (before : σ) (put : UInt16 → σ) (meant : Nat → Prop) (refusal : Failure) :
    Except Failure Unit × σ → Prop
  | taken {n : Nat} (small : n ≤ 65535) (given : meant n) :
    Outcome before put meant refusal (.ok (), put (UInt16.ofNat n))
  | refused (none : ∀ n ≤ 65535, ¬meant n) : Outcome before put meant refusal (.error refusal, before)

def Took (port : σ → UInt16) (after : Except Failure Unit × σ) (n : Nat) : Prop :=
  after.1 = .ok () ∧ (port after.2).toNat = n

namespace Outcome

theorem took_iff (outcome : Outcome before put meant refusal after) (held : ∀ n, port (put n) = n)
    (unique : ∀ m n, meant m → meant n → m = n) : Took port after n ↔ n ≤ 65535 ∧ meant n := by
  cases outcome with
  | @taken m small given =>
    have same : (port (put (UInt16.ofNat m))).toNat = m := by
      rw [held]
      exact UInt16.toNat_ofNat_of_lt' (Nat.lt_succ_of_le small)
    constructor
    · intro took
      obtain rfl : m = n := same.symm.trans took.2
      exact ⟨small,given⟩
    · intro other
      exact ⟨rfl,same.trans (unique m n given other.2)⟩
  | refused none =>
    constructor
    · intro took
      cases took.1
    · intro other
      exact absurd other.2 (none n other.1)

theorem of_took (outcome : Outcome before put meant refusal after) (held : ∀ n, port (put n) = n)
    (took : Took port after n) : after = (.ok (), put (UInt16.ofNat n)) := by
  obtain ⟨answered,rfl⟩ := took
  cases outcome with
  | taken => rw [held,UInt16.ofNat_toNat]
  | refused => cases answered

theorem of_error {failure : Failure} (outcome : Outcome before put meant refusal after)
    (answered : after.1 = .error failure) : after = (.error failure, before) ∧ failure = refusal := by
  cases outcome with
  | taken => cases answered
  | refused =>
    cases answered
    exact ⟨rfl,rfl⟩

end Outcome

theorem peer_outcome (peer : Peer) (text : String) :
    Outcome peer ({ peer with port := · }) (Decimal.Spells text.toList) (.format (.portRefused text))
      (peer.putPortText text) := by
  unfold Peer.putPortText
  rcases Decimal.word16?_cases text with ⟨n,small,spelled,word⟩ | ⟨none,word⟩
  · rw [word]
    exact .taken small spelled
  · rw [word]
    exact .refused none

theorem agent_outcome (agent : Agent) (text : String) :
    Outcome agent agent.setPort (fun n => n ≠ 0 ∧ Decimal.Spells (Text.trim text).toList n) (.usage (.port text))
      (agent.putPortText text) := by
  unfold Agent.putPortText
  rcases Decimal.word16?_cases (Text.trim text) with ⟨n,small,spelled,word⟩ | ⟨none,word⟩
  · have zero : UInt16.ofNat n = 0 ↔ n = 0 := by
      rw [← UInt16.toNat_inj,UInt16.toNat_ofNat_of_lt' (Nat.lt_succ_of_le small)]
      rfl
    simp only [word,zero]
    split
    · rename_i empty
      refine .refused ?_
      intro m _ other
      exact other.1 ((other.2.unique spelled).trans empty)
    · rename_i positive
      exact .taken small ⟨positive,spelled⟩
  · rw [word]
    exact .refused fun m small given => none m small given.2

theorem peer_took {peer : Peer} {text : String} :
    Took Peer.port (peer.putPortText text) n ↔ n ≤ 65535 ∧ Decimal.Spells text.toList n :=
  (peer_outcome peer text).took_iff (fun _ => rfl) fun _ _ => Decimal.Spells.unique

theorem agent_took {agent : Agent} {text : String} : Took Agent.port (agent.putPortText text) n ↔
    n ≤ 65535 ∧ n ≠ 0 ∧ Decimal.Spells (Text.trim text).toList n :=
  (agent_outcome agent text).took_iff (fun _ => rfl) fun _ _ left right => left.2.unique right.2

theorem setPortText_eq_map (agent : Agent) (text : String) :
    agent.setPortText text = (agent.putPortText text).1.map fun _ => (agent.putPortText text).2 := by
  unfold Agent.setPortText Agent.putPortText
  cases Decimal.word16? (Text.trim text) with
  | none => rfl
  | some n =>
    dsimp only
    split <;> rfl

-- A peer takes what is spelled as it stands, and an agent takes what a peer would take without the
-- blanks around it, but for zero. Nothing but the port changes, and the URLs that an agent keeps with
-- it; a refusal changes nothing, and an agent that is not set in place is the one that would be left.
theorem setters_agree (agent : Agent) (peer : Peer) (text : String) :
    (∀ n, Took Peer.port (peer.putPortText text) n ↔ n ≤ 65535 ∧ Decimal.Spells text.toList n) ∧
    (∀ zeros n, Took Peer.port (peer.putPortText (String.ofList (List.replicate zeros '0') ++ Decimal.text n)) n ↔
      n ≤ 65535) ∧
    (∀ n, Took Agent.port (agent.putPortText text) n ↔
      n ≠ 0 ∧ ∃ core, Text.Stripped text core ∧ Took Peer.port (peer.putPortText core) n) ∧
    (∀ n, Took Peer.port (peer.putPortText text) n →
      peer.putPortText text = (.ok (), { peer with port := UInt16.ofNat n })) ∧
    (∀ n, Took Agent.port (agent.putPortText text) n →
      agent.putPortText text = (.ok (), { agent with port := UInt16.ofNat n, kept := {} }) ∧
      ∀ wanted, ((agent.putPortText text).2.read wanted).1 = Agent.urlAt (agent.host, UInt16.ofNat n) wanted) ∧
    (∀ failure, (peer.putPortText text).1 = .error failure →
      peer.putPortText text = (.error failure, peer) ∧ failure = .format (.portRefused text)) ∧
    (∀ failure, (agent.putPortText text).1 = .error failure →
      agent.putPortText text = (.error failure, agent) ∧ failure = .usage (.port text)) ∧
    agent.setPortText text = (agent.putPortText text).1.map fun _ => (agent.putPortText text).2 := by
  refine ⟨fun _ => peer_took,?_,?_,fun _ => (peer_outcome peer text).of_took fun _ => rfl,?_,
    fun _ => (peer_outcome peer text).of_error,fun _ => (agent_outcome agent text).of_error,
    setPortText_eq_map agent text⟩
  · intro zeros n
    have spelled := Decimal.spells_padded zeros n
    simp [peer_took,spelled]
  · intro n
    simp only [agent_took,peer_took,← Text.trim_exact,exists_eq_left']
    exact and_left_comm
  · intro n took
    have whole := (agent_outcome agent text).of_took (fun _ => rfl) took
    refine ⟨whole,?_⟩
    intro wanted
    rw [whole]
    exact Agent.read_urlAt (Agent.current_of_empty rfl) wanted

def asked : Agent := ((Agent.standing ("a", 1)).url .leader).2

theorem setters_agree_largest :
    asked.putPortText "\u3000+00065535\n" = (.ok (), { host := "a", port := 65535 }) ∧
    Peer.loopback.putPortText "\u3000+00065535\n" =
      (.error (.format (.portRefused "\u3000+00065535\n")), Peer.loopback) ∧
    asked.putPortText "65536" = (.error (.usage (.port "65536")), asked) := by
  obtain ⟨_,_,_,_,taken,refused,_⟩ := setters_agree asked Peer.loopback "\u3000+00065535\n"
  obtain ⟨_,_,_,_,_,_,kept,_⟩ := setters_agree asked Peer.loopback "65536"
  refine ⟨?_,?_,?_⟩
  · exact (taken 65535 ⟨by decide +kernel,by decide +kernel⟩).1
  · exact (refused _ (by decide +kernel)).1
  · exact (kept (.usage (.port "65536")) (by decide +kernel)).1

end ClusterClient.Port
