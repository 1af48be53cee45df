import ClusterClient.Proofs.Operations
import ClusterClient.Proofs.Tally
namespace ClusterClient
open Http (Method Request Reply)

-- An error of this kind that came of reading a reply, not of getting one.
def faults (kind : Failure.Kind) : Except Failure α → Bool
  | .ok _ => false
  | .error failure => failure.kind = kind && kind ≠ .transport

@[simp] theorem faults_ok (kind : Failure.Kind) (x : α) : faults kind (.ok x : Except Failure α) = false := rfl

@[simp] theorem faults_error (kind : Failure.Kind) (failure : Failure) :
    faults kind (.error failure : Except Failure α) = (failure.kind = kind && kind ≠ .transport) := rfl

theorem faults_map (kind : Failure.Kind) (word : Except Failure α) (f : α → β) :
    faults kind (word.map f) = faults kind word := by
  cases word <;> rfl

theorem faults_transport {kind : Failure.Kind} {failure : Failure} (transport : failure.kind = .transport) :
    faults kind (.error failure : Except Failure α) = false := by
  rw [faults_error,transport]
  cases kind <;> rfl

theorem Client.outcome_transport {url : String} {answer : Option Reply} {failure : Failure}
    (said : outcome url answer = .error failure) : failure.kind = .transport := by
  unfold outcome at said
  split at said
  · cases said
    rfl
  · split at said
    · cases said
    · cases said
      rfl

theorem Attempt.count_decodes (attempt : Attempt) (reads : ∀ text, Reads (attempt.call.reads text))
    (kind : Failure.Kind) :
    attempt.measures.count (.decodeError kind) = if faults kind attempt.word then 1 else 0 := by
  have request : (attempt.requested == .decodeError kind) = false := rfl
  rw [measures,readMeasures,word,List.count_cons,request]
  cases said : Client.outcome attempt.call.url attempt.answer with
  | error failure =>
    change _ = if faults kind (.error failure : Except Failure Unit) then 1 else 0
    rw [faults_transport (Client.outcome_transport said)]
    rfl
  | ok text =>
    change _ = if faults kind (attempt.call.reads text) then 1 else 0
    dsimp only
    cases read : attempt.call.reads text with
    | ok _ => rfl
    | error failure =>
      have other := (reads text failure read).1
      by_cases same : failure.kind = kind
      · subst same
        simp [Client.countedDecode,other]
      · simp [Client.countedDecode,same]

-- However many calls a course makes, only its last can fail.
theorem count_decodes {client : Client} {calls : List Call} (proper : ∀ call ∈ calls, call.Proper client)
    (script : List (Option Reply)) (kind : Failure.Kind) :
    ((attempts calls script).flatMap Attempt.measures).count (.decodeError kind) =
      if faults kind (ended (attempts calls script)) then 1 else 0 := by
  induction calls generalizing script with
  | nil => rfl
  | cons call later ih =>
    obtain ⟨here,rest⟩ := List.forall_mem_cons.mp proper
    have alone := (call.attempt script).count_decodes here.reads kind
    rw [attempts,List.flatMap_cons,List.count_append,alone,ended]
    by_cases passed : (call.attempt script).fate = .passed
    · rw [if_pos passed,ih rest,Attempt.word_passed passed,faults_ok]
      exact Nat.zero_add _
    · obtain ⟨failure,failed⟩ := Attempt.word_failed passed
      rw [if_neg passed,failed]
      rfl

namespace Operation

theorem carryOut_decodes (client : Client) (operation : Operation) (files : String → Found)
    (script : List (Option Reply)) (kind : Failure.Kind) :
    let t := (operation.carryOut client).run.play files script
    t.measures.count (.decodeError kind) = if faults kind t.result then 1 else 0 := by
  dsimp only
  rw [(carryOut_calls client operation files script).2,count_decodes (operation.calls_proper client)]
  by_cases ping : operation = .ping
  · subst ping
    have unread : ∀ url answer, faults kind (Client.outcome url answer >>= silent Client.anyText) = false := by
      intro url answer
      cases said : Client.outcome url answer with
      | ok text => rfl
      | error failure => exact faults_transport (Client.outcome_transport said)
    rw [play_ping,calls,attempts_single,ended_single,Attempt.word]
    rw [show (Call.attempt (client.plainCall .self Client.anyText) script).call.reads = silent Client.anyText from rfl,
      unread,faults_ok]
  · rw [← (carryOut_makes client ping files script).result,faults_map]

end Operation

namespace Client

theorem carryOutAll_decodes (client : Client) (operations : List Operation) (files : String → Found)
    (script : List (Option Reply)) (kind : Failure.Kind) :
    ((client.carryOutAll operations).play files script).measures.count (.decodeError kind) =
      ((client.carryOutAll operations).play files script).result.countP (faults kind) := by
  induction operations generalizing script with
  | nil => rfl
  | cons operation later ih =>
    rw [play_carryOutAll,Transcript.followedBy_result,List.countP_cons,← ih]
    dsimp only [Transcript.followedBy]
    rw [List.count_append,operation.carryOut_decodes client files script kind,Nat.add_comm]

end Client

def statusLabel : Option Nat → String
  | none => Measure.noStatus
  | some status => Decimal.text status

theorem countedStatus_eq (answer : Option Reply) : Client.countedStatus answer = statusLabel (answer.map (·.status)) := by
  cases answer <;> rfl

theorem statusLabel_injective : Function.Injective statusLabel := by
  have word : ∀ n, Decimal.text n ≠ Measure.noStatus := by
    intro n same
    have read := Decimal.natural?_text n
    rw [same,show Decimal.natural? Measure.noStatus.toList = none by decide] at read
    cases read
  intro status other same
  cases status with
  | none =>
    cases other with
    | none => rfl
    | some n => exact absurd same.symm (word n)
  | some n =>
    cases other with
    | none => exact absurd same (word n)
    | some m => rw [Decimal.text_injective same]

theorem methodName_injective : Function.Injective Method.name := by
  intro m n
  cases m <;> cases n <;> decide

namespace Endpoint

inductive Kind where
  | keyValue | leader | peers | self
deriving DecidableEq

def kind : Endpoint → Kind
  | .keyValue _ => .keyValue
  | .leader => .leader
  | .peers => .peers
  | .self => .self

theorem name_eq_iff {endpoint other : Endpoint} : endpoint.name = other.name ↔ endpoint.kind = other.kind := by
  cases endpoint <;> cases other <;> simp [name,kind]

end Endpoint

def Attempt.isOf (kind : Endpoint.Kind) (method : Method) (status : Option Nat) (attempt : Attempt) : Bool :=
  attempt.call.endpoint.kind = kind && attempt.call.method = method && attempt.answer.map (·.status) = status

theorem Attempt.count_request (attempt : Attempt) (endpoint : Endpoint) (method : Method) (status : Option Nat) :
    attempt.measures.count (.request endpoint.name method.name (statusLabel status)) =
      if attempt.isOf endpoint.kind method status then 1 else 0 := by
  have reading : ∀ e m s, attempt.readMeasures.count (.request e m s) = 0 := by
    intro e m s
    rw [readMeasures]
    split
    · cases attempt.call.reads _ <;> rfl
    · rfl
  rw [measures,requested,List.count_cons,reading,countedStatus_eq,Nat.zero_add]
  simp only [isOf,beq_iff_eq,Measure.request.injEq,Endpoint.name_eq_iff,methodName_injective.eq_iff,
    statusLabel_injective.eq_iff,Bool.and_eq_true,decide_eq_true_eq,and_assoc]

theorem count_attempts (attempts : List Attempt) (endpoint : Endpoint) (method : Method) (status : Option Nat) :
    (attempts.flatMap Attempt.measures).count (.request endpoint.name method.name (statusLabel status)) =
      attempts.countP (Attempt.isOf endpoint.kind method status) := by
  induction attempts with
  | nil => rfl
  | cons attempt later ih =>
    rw [List.flatMap_cons,List.count_append,ih,List.countP_cons,Nat.add_comm,attempt.count_request]

namespace Client

theorem made_named {client : Client} (current : client.agent.Current) (operations : List Operation)
    (script : List (Option Reply)) :
    ∀ attempt ∈ client.made operations script, (attempt.exchange? client).isSome = client.agent.namesServer client.naming := by
  induction operations generalizing script with
  | nil => exact fun attempt none => absurd none List.not_mem_nil
  | cons operation later ih =>
    intro attempt made
    rcases List.mem_append.mp made with here | there
    · exact attempts_named (operation.calls_proper client) current attempt here
    · exact ih _ attempt there

-- Every request is counted once, under what came of it, and every operation that could not read its
-- reply once, under why; a ping and an operation that failed before a reply came add no such count.
-- Where the address of the agent names no server the requests are made, and counted, but never sent.
theorem counters_account (client : Client) (operations : List Operation) (files : String → Found)
    (script : List (Option Reply)) (tally : Tally) :
    let run := (client.carryOutAll operations).play files script
    let after := tally.recordAll run.measures
    let made := client.made operations script
    run.exchanges = made.filterMap (·.exchange? client) ∧
    (client.agent.Current →
      ∀ attempt ∈ made, (attempt.exchange? client).isSome = client.agent.namesServer client.naming) ∧
    (∀ (endpoint : Endpoint) (method : Method) status,
      after.count (Series.requests endpoint.name method.name (statusLabel status)) =
        tally.count (Series.requests endpoint.name method.name (statusLabel status)) +
          made.countP (Attempt.isOf endpoint.kind method status)) ∧
    (∀ kind, after.count (Series.decodeErrors kind) =
      tally.count (Series.decodeErrors kind) + run.result.countP (faults kind)) ∧
    ∀ (operation : Operation) replies kind,
      let t := (operation.carryOut client).run.play files replies
      (tally.recordAll t.measures).count (Series.decodeErrors kind) =
        tally.count (Series.decodeErrors kind) + if faults kind t.result then 1 else 0 := by
  -- What a run sends and counts is told by its attempts, and an attempt adds to one series of
  -- requests.
  obtain ⟨sent,counted⟩ := client.carryOutAll_calls operations files script
  refine ⟨sent,fun current => made_named current operations script,?_,?_,?_⟩
  · intro endpoint method status
    rw [Tally.count_recordAll,count_requests,counted,count_attempts]
  · intro kind
    rw [Tally.count_recordAll,count_decodeErrors,carryOutAll_decodes]
  · intro operation replies kind
    dsimp only
    rw [Tally.count_recordAll,count_decodeErrors,operation.carryOut_decodes]

theorem counters_account_mixed :
    let client : Client := { agent := Agent.loopback }
    let operations : List Operation := [.get "a" {}, .ping, .leader, .clusterPeers]
    let script := [some (carrying "x"), none, some { status := 500, body := [] }, some (carrying "\"h:1\""), some (carrying "[]")]
    let after := Tally.recordAll [] ((client.carryOutAll operations).play (fun _ => .nothing) script).measures
    client.agent.Current ∧
      (∀ attempt ∈ client.made operations script, (attempt.exchange? client).isSome = true) ∧
      after.count (Series.requests "kv" "GET" "200") = 1 ∧
      after.count (Series.requests "agent_self" "GET" "error") = 1 ∧
      after.count (Series.requests "status_leader" "GET" "500") = 1 ∧
      after.count (Series.requests "status_leader" "GET" "200") = 1 ∧
      after.count (Series.requests "status_peers" "GET" "200") = 1 ∧
      after.count ⟨.decodeErrors,[("kind","parse")]⟩ = 1 := by
  have current : Agent.loopback.Current := Agent.current_of_empty rfl
  have served : Agent.loopback.namesServer Http.asciiNaming = true := by decide +kernel
  intro client operations script after
  obtain ⟨_,named,requests,faulty,_⟩ := counters_account client operations (fun _ => .nothing) script []
  have fine : statusLabel (some 200) = "200" := by decide +kernel
  have broken : statusLabel (some 500) = "500" := by decide +kernel
  have read := requests (.keyValue "a") .get (some 200)
  have pinged := requests .self .get none
  have refused := requests .leader .get (some 500)
  have led := requests .leader .get (some 200)
  have listed := requests .peers .get (some 200)
  rw [fine] at read led listed
  rw [broken] at refused
  refine ⟨current,?_,read.trans ?_,pinged.trans ?_,refused.trans ?_,led.trans ?_,listed.trans ?_,
    (faulty .parse).trans ?_⟩
  · intro attempt made
    rw [named current attempt made]
    exact served
  all_goals decide +kernel

end Client
end ClusterClient
