import ClusterClient.Proofs.Rows.Agreement
import ClusterClient.Proofs.Unreadable
namespace ClusterClient
open Http (Method Request Reply)

structure Call where
  endpoint : Endpoint
  method : Method
  url : String
  naming : Http.Naming
  body : List UInt8 := []
  -- What the text of a successful reply is held against; only a failure is of interest.
  reads : String → Except Failure Unit := fun _ => .ok ()

structure Attempt where
  call : Call
  answer : Option Reply

inductive Fate where
  | passed | unanswered | refused | unreadable
deriving DecidableEq

-- A call is sent only if its URL names a server, and the next reply then is the answer.
def Call.request? (client : Client) (call : Call) : Option Request :=
  (Http.cut? call.naming call.url).map fun server => ⟨call.method, server.1, server.2, call.body, client.agent.timeoutMs⟩

def Call.attempt (call : Call) (script : List (Option Reply)) : Attempt :=
  ⟨call, if (Http.cut? call.naming call.url).isSome then script.head?.join else none⟩

namespace Attempt

def fate (attempt : Attempt) : Fate :=
  match attempt.answer with
  | none => .unanswered
  | some reply =>
    if reply.isSuccess then
      match attempt.call.reads reply.text with
      | .ok _ => .passed
      | .error _ => .unreadable
    else .refused

def exchange? (client : Client) (attempt : Attempt) : Option (Request × Option Reply) :=
  (attempt.call.request? client).map fun request => (request, attempt.answer)

def word (attempt : Attempt) : Except Failure Unit :=
  Client.outcome attempt.call.url attempt.answer >>= attempt.call.reads

def requested (attempt : Attempt) : Measure :=
  .request attempt.call.endpoint.name attempt.call.method.name (Client.countedStatus attempt.answer)

def readMeasures (attempt : Attempt) : List Measure :=
  match Client.outcome attempt.call.url attempt.answer with
  | .ok text => Client.countedDecode (attempt.call.reads text)
  | .error _ => []

def measures (attempt : Attempt) : List Measure := attempt.requested :: attempt.readMeasures

end Attempt

def attempts : List Call → List (Option Reply) → List Attempt
  | [], _ => []
  | call :: later, script =>
    call.attempt script :: if (call.attempt script).fate = .passed then attempts later script.tail else []

def ended : List Attempt → Except Failure Unit
  | [] => .ok ()
  | attempt :: later => attempt.word >>= fun _ => ended later

namespace Attempt

theorem fate_passed {attempt : Attempt} :
    attempt.fate = .passed ↔
      ∃ reply, attempt.answer = some reply ∧ reply.isSuccess = true ∧ attempt.call.reads reply.text = .ok () := by
  unfold fate
  cases attempt.answer with
  | none => simp
  | some reply =>
    by_cases success : reply.isSuccess = true
    · cases read : attempt.call.reads reply.text <;> simp [success,read]
    · simp [success]

theorem word_passed {attempt : Attempt} (passed : attempt.fate = .passed) : attempt.word = .ok () := by
  unfold fate at passed
  split at passed
  · cases passed
  · rename_i reply answered
    split at passed
    · rename_i success
      split at passed
      · rename_i read
        rw [word,answered,Client.outcome,if_pos success]
        exact read
      · cases passed
    · cases passed

theorem word_failed {attempt : Attempt} (other : attempt.fate ≠ .passed) :
    ∃ failure, attempt.word = .error failure := by
  rw [word]
  unfold fate at other
  split at other
  · rename_i unanswered
    rw [unanswered]
    exact ⟨_,rfl⟩
  · rename_i reply answered
    rw [answered,Client.outcome]
    split at other
    · rename_i success
      rw [if_pos success]
      split at other
      · exact absurd rfl other
      · rename_i failure unread
        exact ⟨failure,unread⟩
    · rename_i refused
      rw [if_neg refused]
      exact ⟨_,rfl⟩

theorem exchange?_passed {call : Call} {script : List (Option Reply)} (client : Client)
    (passed : (call.attempt script).fate = .passed) :
    ∃ request, (call.attempt script).exchange? client = some (request,script.head?.join) := by
  unfold Call.attempt at passed ⊢
  cases server : Http.cut? call.naming call.url with
  | none =>
    rw [server] at passed
    cases passed
  | some named =>
    rw [exchange?,Call.request?,server]
    exact ⟨_,rfl⟩

end Attempt

section
variable {cs ds : List Call} {script : List (Option Reply)}

theorem attempts_append_ok (ok : ended (attempts cs script) = .ok ()) :
    attempts (cs ++ ds) script =
      attempts cs script ++ attempts ds (script.drop (attempts cs script).length) := by
  induction cs generalizing script with
  | nil => rfl
  | cons call later ih =>
    simp only [List.cons_append,attempts] at ok ⊢
    by_cases passed : (call.attempt script).fate = .passed
    · rw [if_pos passed] at ok ⊢
      rw [if_pos passed,ih]
      · simp
      · rw [ended,Attempt.word_passed passed] at ok
        exact ok
    · obtain ⟨failure,failed⟩ := Attempt.word_failed passed
      rw [ended,failed] at ok
      cases ok

theorem attempts_append_error {failure : Failure} (failed : ended (attempts cs script) = .error failure) :
    attempts (cs ++ ds) script = attempts cs script := by
  induction cs generalizing script with
  | nil => cases failed
  | cons call later ih =>
    simp only [List.cons_append,attempts] at failed ⊢
    by_cases passed : (call.attempt script).fate = .passed
    · rw [if_pos passed] at failed ⊢
      rw [ended,Attempt.word_passed passed] at failed
      rw [if_pos passed,ih failed]
    · rw [if_neg passed,if_neg passed]

theorem ended_append (front back : List Attempt) :
    ended (front ++ back) = ended front >>= fun _ => ended back := by
  induction front with
  | nil => rfl
  | cons attempt later ih =>
    rw [List.cons_append,ended,ended,ih]
    cases attempt.word <;> rfl

theorem mem_attempts {attempt : Attempt} (made : attempt ∈ attempts cs script) : attempt.call ∈ cs := by
  induction cs generalizing script with
  | nil => cases made
  | cons call later ih =>
    rw [attempts] at made
    rcases List.mem_cons.mp made with here | there
    · subst here
      exact List.mem_cons_self
    · split at there
      · exact List.mem_cons_of_mem call (ih there)
      · cases there

-- The calls were made in this order, none after one that did not pass, and all if each passed.
structure InTurn (calls : List Call) (made : List Attempt) : Prop where
  order : made.map (·.call) <+: calls
  stops : ∀ attempt ∈ made.dropLast, attempt.fate = .passed
  complete : (∀ attempt ∈ made, attempt.fate = .passed) → made.map (·.call) = calls

theorem attempts_inTurn (calls : List Call) (script : List (Option Reply)) : InTurn calls (attempts calls script) := by
  induction calls generalizing script with
  | nil => exact ⟨List.prefix_refl [],nofun,fun _ => rfl⟩
  | cons call later ih =>
    have same : (call.attempt script).call = call := rfl
    obtain ⟨order,stops,complete⟩ := ih script.tail
    rw [attempts]
    by_cases passed : (call.attempt script).fate = .passed
    · rw [if_pos passed]
      constructor
      · exact (List.prefix_cons_inj call).mpr order
      · intro attempt member
        -- If anything was made after this call it passed, and if nothing was it is the last.
        cases made : attempts later script.tail with
        | nil =>
          rw [made] at member
          cases member
        | cons next rest =>
          rw [made,List.dropLast_cons_cons] at member
          rw [made] at stops
          rcases List.mem_cons.mp member with rfl | there
          · exact passed
          · exact stops attempt there
      · intro all
        rw [List.map_cons,same,complete fun attempt member => all attempt (List.mem_cons_of_mem _ member)]
    · rw [if_neg passed]
      constructor
      · exact (List.prefix_cons_inj call).mpr List.nil_prefix
      · exact nofun
      · exact fun all => absurd (all _ List.mem_cons_self) passed

theorem attempts_single (call : Call) (script : List (Option Reply)) : attempts [call] script = [call.attempt script] := by
  rw [attempts,attempts,ite_self]

theorem ended_single (attempt : Attempt) : ended [attempt] = attempt.word := by
  rw [ended]
  cases attempt.word <;> rfl

theorem sent_single (client : Client) (attempt : Attempt) :
    [attempt].filterMap (·.exchange? client) = (attempt.exchange? client).toList := by
  rw [List.filterMap_cons]
  cases attempt.exchange? client <;> rfl

theorem sent_length (client : Client) (ok : ended (attempts cs script) = .ok ()) :
    ((attempts cs script).filterMap (·.exchange? client)).length = (attempts cs script).length := by
  induction cs generalizing script with
  | nil => rfl
  | cons call later ih =>
    simp only [attempts] at ok ⊢
    by_cases passed : (call.attempt script).fate = .passed
    · rw [if_pos passed] at ok ⊢
      rw [ended,Attempt.word_passed passed] at ok
      obtain ⟨request,sent⟩ := Attempt.exchange?_passed client passed
      rw [List.filterMap_cons_some sent,List.length_cons,List.length_cons,ih ok]
    · obtain ⟨failure,failed⟩ := Attempt.word_failed passed
      rw [ended,failed] at ok
      cases ok

end

structure Transcript.Follows (t : Transcript (Except Failure α)) (client : Client) (made : List Attempt)
    (counts : Attempt → List Measure) : Prop where
  exchanges : t.exchanges = made.filterMap (·.exchange? client)
  measures : t.measures = made.flatMap counts
  result : t.result.map (fun _ => ()) = ended made

def Client.Makes (client : Client) (exchange : Exchange α) (calls : List Call)
    (counts : Attempt → List Measure := Attempt.measures) : Prop :=
  ∀ files script, (exchange.run.play files script).Follows client (attempts calls script) counts

structure Transcript.Settles (t : Transcript (Except Failure α)) (word : Except Failure Unit)
    (measures : List Measure) : Prop where
  exchanges : t.exchanges = []
  measures : t.measures = measures
  result : t.result.map (fun _ => ()) = word

namespace Client
variable {client : Client} {counts : Attempt → List Measure} {files : String → Found} {script : List (Option Reply)}

theorem makes_nothing {exchange : Exchange α}
    (settles : ∀ files script, (exchange.run.play files script).Settles (.ok ()) []) :
    client.Makes exchange [] counts := by
  intro files script
  obtain ⟨sent,counted,word⟩ := settles files script
  exact ⟨sent,counted,word⟩

theorem Makes.bind {exchange : Exchange α} {next : α → Exchange β} {cs ds : List Call}
    (first : client.Makes exchange cs counts) (later : ∀ x, client.Makes (next x) ds counts) :
    client.Makes (exchange >>= next) (cs ++ ds) counts := by
  intro files script
  obtain ⟨sent,counted,word⟩ := first files script
  cases got : (exchange.run.play files script).result with
  | error failure =>
    -- The later calls stand in the list, but none of them is reached.
    rw [got] at word
    rw [Exchange.play_error got,attempts_append_error word.symm]
    refine ⟨?_,?_,word⟩
    · simp only [Transcript.followedBy,sent,List.append_nil]
    · simp only [Transcript.followedBy,counted,List.append_nil]
  | ok x =>
    rw [got] at word
    -- Calls that all passed were all sent, so as many replies are gone as calls were made.
    have count := sent_length client word.symm
    have rest := later x files (script.drop (attempts cs script).length)
    rw [Exchange.play_ok got,attempts_append_ok word.symm,sent,count]
    refine ⟨?_,?_,?_⟩
    · simp only [Transcript.followedBy,sent,rest.exchanges,List.filterMap_append]
    · simp only [Transcript.followedBy,counted,rest.measures,List.flatMap_append]
    · rw [ended_append,← word]
      exact rest.result

theorem Makes.forM {each : α → Exchange Unit} {calls : α → List Call} (xs : List α)
    (makes : ∀ x, client.Makes (each x) (calls x) counts) :
    client.Makes (xs.forM each) (xs.flatMap calls) counts := by
  induction xs with
  | nil => exact makes_nothing fun _ _ => ⟨rfl,rfl,rfl⟩
  | cons x rest ih => exact (makes x).bind fun _ => ih

-- Whether or not its URL names a server, a call is counted and comes to what its answer says.
theorem play_call (call : Call) (named : call.naming = client.naming) (files : String → Found)
    (script : List (Option Reply)) :
    (client.send call.method call.endpoint call.url call.body).run.play files script =
      ⟨outcome call.url (call.attempt script).answer,((call.attempt script).exchange? client).toList,
        [.request call.endpoint.name call.method.name (countedStatus (call.attempt script).answer)],[]⟩ := by
  rw [Attempt.exchange?,Call.attempt,Call.request?,named]
  cases server : Http.cut? client.naming call.url with
  | some named => exact play_send server
  | none =>
    have unasked : (liftM (client.reply? call.method call.url call.body) : Exchange (Option Reply)).run.play files
        script = ⟨.ok none,[],[],[]⟩ := by
      rw [Exchange.play_lift,reply?,server]
      rfl
    have answer := congrArg Transcript.result unasked
    rw [send_answered,Exchange.play_ok answer,unasked,play_answered]
    rfl

theorem makes_call (call : Call) (named : call.naming = client.naming) {rest : String → Exchange α} {more : String → List Measure}
    (settles : ∀ text files script, ((rest text).run.play files script).Settles (call.reads text) (more text))
    (count : ∀ answer, counts ⟨call,answer⟩ = Attempt.requested ⟨call,answer⟩ ::
      match outcome call.url answer with
      | .ok text => more text
      | .error _ => []) :
    client.Makes (client.send call.method call.endpoint call.url call.body >>= rest) [call] counts := by
  intro files script
  have sent := Client.play_call call named files script
  have got := congrArg Transcript.result sent
  have whole : ended [call.attempt script] = outcome call.url (call.attempt script).answer >>= call.reads :=
    ended_single _
  have once := sent_single client (call.attempt script)
  have measured : [call.attempt script].flatMap counts = counts ⟨call,(call.attempt script).answer⟩ :=
    List.flatMap_singleton ..
  rw [count] at measured
  rw [attempts_single]
  -- The rest of the exchange starts only from the text of a reply.
  cases said : outcome call.url (call.attempt script).answer with
  | error failure =>
    rw [said] at got whole measured
    rw [Exchange.play_error got,sent]
    refine ⟨?_,?_,whole.symm⟩
    · simp only [Transcript.followedBy,once,List.append_nil]
    · rw [measured]
      rfl
  | ok text =>
    rw [said] at got whole measured
    obtain ⟨quiet,counted,word⟩ :=
      settles text files (script.drop ((call.attempt script).exchange? client).toList.length)
    rw [Exchange.play_ok got,sent]
    refine ⟨?_,?_,word.trans whole.symm⟩
    · simp only [Transcript.followedBy,once,quiet,List.append_nil]
    · rw [measured]
      simp only [Transcript.followedBy,counted]
      rfl

section
variable {endpoint : Endpoint} {method : Method} {url : String} {body : List UInt8} {reads : String → Except Failure Unit}

theorem makes_counted {rest : String → Exchange α}
    (settles : ∀ text files script,
      ((rest text).run.play files script).Settles (reads text) (countedDecode (reads text))) :
    client.Makes (client.send method endpoint url body >>= rest) [⟨endpoint,method,url,client.naming,body,reads⟩] := by
  exact makes_call ⟨endpoint,method,url,client.naming,body,reads⟩ rfl settles fun _ => rfl

theorem makes_uncounted {rest : String → Exchange α}
    (settles : ∀ text files script, ((rest text).run.play files script).Settles (reads text) []) :
    client.Makes (client.send method endpoint url body >>= rest) [⟨endpoint,method,url,client.naming,body,reads⟩]
      fun attempt => [attempt.requested] := by
  refine makes_call ⟨endpoint,method,url,client.naming,body,reads⟩ rfl settles ?_
  intro answer
  cases outcome url answer <;> rfl

end

end Client

def Tells (exchange : Exchange α) (calls : List Call) (told : Attempt → List String) : Prop :=
  ∀ files script, (exchange.run.play files script).lines = (attempts calls script).flatMap told

def Attempt.shown (lines : String → List String) (attempt : Attempt) : List String :=
  match Client.outcome attempt.call.url attempt.answer with
  | .ok text => lines text
  | .error _ => []

namespace Tells
variable {client : Client} {counts : Attempt → List Measure} {told : Attempt → List String}

theorem bind {exchange : Exchange α} {next : α → Exchange β} {cs ds : List Call}
    (makes : client.Makes exchange cs counts) (first : Tells exchange cs told)
    (later : ∀ x, Tells (next x) ds told) : Tells (exchange >>= next) (cs ++ ds) told := by
  intro files script
  obtain ⟨sent,_,word⟩ := makes files script
  cases got : (exchange.run.play files script).result with
  | error failure =>
    rw [got] at word
    rw [Exchange.play_error got,attempts_append_error word.symm]
    simp only [Transcript.followedBy,first files script,List.append_nil]
  | ok x =>
    rw [got] at word
    have count := sent_length client word.symm
    rw [Exchange.play_ok got,attempts_append_ok word.symm,sent,count]
    simp only [Transcript.followedBy,first files script,later x files _,List.flatMap_append]

theorem forM {each : α → Exchange Unit} {calls : α → List Call} (xs : List α)
    (makes : ∀ x, client.Makes (each x) (calls x) counts) (tells : ∀ x, Tells (each x) (calls x) told) :
    Tells (xs.forM each) (xs.flatMap calls) told := by
  induction xs with
  | nil => exact fun _ _ => rfl
  | cons x rest ih => exact bind (makes x) (tells x) fun _ => ih

theorem call (call : Call) (named : call.naming = client.naming) {rest : String → Exchange α} {lines : String → List String}
    (writes : ∀ text files script, ((rest text).run.play files script).lines = lines text) :
    Tells (client.send call.method call.endpoint call.url call.body >>= rest) [call] (Attempt.shown lines) := by
  intro files script
  have sent := Client.play_call call named files script
  have got := congrArg Transcript.result sent
  have shown : [call.attempt script].flatMap (Attempt.shown lines) = (call.attempt script).shown lines :=
    List.flatMap_singleton ..
  have same : (call.attempt script).call = call := rfl
  rw [attempts_single,shown,Attempt.shown,same]
  cases said : Client.outcome call.url (call.attempt script).answer with
  | error failure =>
    rw [said] at got
    rw [Exchange.play_error got,sent]
    rfl
  | ok text =>
    rw [said] at got
    rw [Exchange.play_ok got,sent]
    simp only [Transcript.followedBy,writes,List.nil_append]

theorem send {endpoint : Endpoint} {method : Method} {url : String} {body : List UInt8}
    {reads : String → Except Failure Unit} {rest : String → Exchange α} {lines : String → List String}
    (writes : ∀ text files script, ((rest text).run.play files script).lines = lines text) :
    Tells (client.send method endpoint url body >>= rest) [⟨endpoint,method,url,client.naming,body,reads⟩]
      (Attempt.shown lines) :=
  call ⟨endpoint,method,url,client.naming,body,reads⟩ rfl writes

end Tells
end ClusterClient
