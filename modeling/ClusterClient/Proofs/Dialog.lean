import ClusterClient.Client
import ClusterClient.Proofs.Utf8
namespace ClusterClient
open Http (Method Request Reply)

def Transcript.followedBy (first : Transcript α) (rest : Transcript β) : Transcript β where
  result := rest.result
  exchanges := first.exchanges ++ rest.exchanges
  measures := first.measures ++ rest.measures
  lines := first.lines ++ rest.lines

@[simp] theorem Transcript.followedBy_result (first : Transcript α) (rest : Transcript β) :
    (first.followedBy rest).result = rest.result := rfl

namespace Dialog
variable {files : String → Found} {script : List (Option Reply)}

theorem bind_done (d : Dialog α) : d.bind .done = d := by
  induction d with
  | done x => rfl
  | ask request next ih => simp only [bind,ih]
  | look path next ih => simp only [bind,ih]
  | note measure next ih => rw [bind,ih]
  | say line next ih => rw [bind,ih]

theorem bind_bind (d : Dialog α) (next : α → Dialog β) (last : β → Dialog γ) :
    (d.bind next).bind last = d.bind fun x => (next x).bind last := by
  induction d with
  | done x => rfl
  | ask request after ih => simp only [bind,ih]
  | look path after ih => simp only [bind,ih]
  | note measure after ih => simp only [bind,ih]
  | say line after ih => simp only [bind,ih]

instance : LawfulMonad Dialog :=
  LawfulMonad.mk' Dialog bind_done (fun _ _ => rfl) bind_bind

-- The second dialog finds the replies that the first has left.
theorem play_bind (d : Dialog α) (next : α → Dialog β) :
    (d >>= next).play files script =
      (d.play files script).followedBy ((next (d.play files script).result).play files
        (script.drop (d.play files script).exchanges.length)) := by
  change (d.bind next).play files script = _
  -- Only a request uses up a reply, so only there is the script cut.
  induction d generalizing script with
  | done x => rfl
  | ask request after ih =>
    rw [bind,play,ih]
    simp only [play,Transcript.followedBy,List.cons_append,List.length_cons,List.drop_tail]
  | look path after ih =>
    rw [bind,play,ih]
    rfl
  | note measure after ih =>
    rw [bind,play,ih]
    rfl
  | say line after ih =>
    rw [bind,play,ih]
    rfl

@[simp] theorem play_pure (x : α) : (pure x : Dialog α).play files script = ⟨x,[],[],[]⟩ := rfl

theorem play_map (d : Dialog α) (f : α → β) :
    (d >>= fun x => pure (f x)).play files script =
      { d.play files script with result := f (d.play files script).result } := by
  rw [play_bind]
  simp [Transcript.followedBy]

end Dialog

namespace Exchange
variable {files : String → Found} {script : List (Option Reply)}

theorem play_ok {exchange : Exchange α} {next : α → Exchange β} {x : α}
    (got : (exchange.run.play files script).result = .ok x) :
    (exchange >>= next).run.play files script =
      (exchange.run.play files script).followedBy ((next x).run.play files
        (script.drop (exchange.run.play files script).exchanges.length)) := by
  rw [ExceptT.run_bind,Dialog.play_bind,got]

theorem play_error {exchange : Exchange α} {next : α → Exchange β} {failure : Failure}
    (got : (exchange.run.play files script).result = .error failure) :
    (exchange >>= next).run.play files script =
      (exchange.run.play files script).followedBy ⟨.error failure,[],[],[]⟩ := by
  rw [ExceptT.run_bind,Dialog.play_bind,got]
  rfl

theorem play_lift (d : Dialog α) :
    (liftM d : Exchange α).run.play files script =
      (d.play files script).followedBy ⟨.ok (d.play files script).result,[],[],[]⟩ := by
  have lifted : (liftM d : Exchange α).run = d >>= fun x => Dialog.done (Except.ok x) := rfl
  rw [lifted,Dialog.play_bind]
  rfl

end Exchange

namespace Client
variable {files : String → Found} {script : List (Option Reply)}

def outcome (url : String) : Option Reply → Except Failure String
  | none => .error (.transport url)
  | some reply => if reply.isSuccess then .ok reply.text else .error (.status reply.status url)

def countedStatus : Option Reply → String
  | none => Measure.noStatus
  | some reply => Decimal.text reply.status

def answered (endpoint : Endpoint) (method : Method) (url : String) : Option Reply → Exchange String
  | none => do
    counting endpoint method Measure.noStatus
    throw (.transport url)
  | some reply => do
    counting endpoint method (Decimal.text reply.status)
    if reply.isSuccess then return reply.text else throw (.status reply.status url)

theorem play_answered (endpoint : Endpoint) (method : Method) (url : String) (answer : Option Reply) :
    (answered endpoint method url answer).run.play files script =
      ⟨outcome url answer,[],[.request endpoint.name method.name (countedStatus answer)],[]⟩ := by
  cases answer with
  | none => rfl
  | some reply =>
    rw [answered,outcome]
    cases reply.isSuccess <;> rfl

theorem send_answered (client : Client) (method : Method) (endpoint : Endpoint) (url : String)
    (body : List UInt8) :
    client.send method endpoint url body =
      (liftM (client.reply? method url body) : Exchange (Option Reply)) >>= answered endpoint method url := by
  unfold send
  congr 1

theorem play_send {client : Client} {method : Method} {endpoint : Endpoint} {url authority target : String}
    {body : List UInt8} (server : Http.cut? client.naming url = some (authority,target)) :
    (client.send method endpoint url body).run.play files script =
      ⟨outcome url script.head?.join,
        [(⟨method,authority,target,body,client.agent.timeoutMs⟩,script.head?.join)],
        [.request endpoint.name method.name (countedStatus script.head?.join)],[]⟩ := by
  have asked : (liftM (client.reply? method url body) : Exchange (Option Reply)).run.play files script =
      ⟨.ok script.head?.join,
        [(⟨method,authority,target,body,client.agent.timeoutMs⟩,script.head?.join)],[],[]⟩ := by
    rw [Exchange.play_lift,reply?,server]
    rfl
  have answer := congrArg Transcript.result asked
  rw [send_answered,Exchange.play_ok answer,asked,play_answered]
  rfl

def countedDecode : Except Failure α → List Measure
  | .ok _ => []
  | .error failure => [.decodeError failure.kind]

theorem play_decoded (word : Except Failure α) :
    (decoded word).run.play files script = ⟨word,[],countedDecode word,[]⟩ := by
  cases word <;> rfl

structure Carries (reply : Reply) (body : String) : Prop where
  success : reply.isSuccess = true
  text : reply.text = body

-- There is one for every text: its bytes follow a mark, which is dropped.
def carrying (body : String) : Reply := { status := 200, body := 0xEF :: 0xBB :: 0xBF :: Utf8.bytes body }

theorem carrying_carries (body : String) : Carries (carrying body) body := by
  refine ⟨rfl,?_⟩
  change Utf8.decode (Utf8.bytes body) = body
  exact Utf8.decode_bytes body

theorem outcome_carried {reply : Reply} {body url : String} (carries : Carries reply body) :
    outcome url (some reply) = .ok body := by
  rw [outcome,if_pos carries.success,carries.text]

theorem play_read {client : Client} {method : Method} {endpoint : Endpoint} {url authority target : String}
    {sent : List UInt8} {reply : Reply} {body : String} {more : List (Option Reply)}
    (server : Http.cut? client.naming url = some (authority,target)) (carries : Carries reply body)
    (decode : String → Except Failure α) :
    (client.send method endpoint url sent >>= fun text => decoded (decode text)).run.play files
        (some reply :: more) =
      ⟨decode body,[(⟨method,authority,target,sent,client.agent.timeoutMs⟩,some reply)],
        .request endpoint.name method.name (countedStatus (some reply)) :: countedDecode (decode body),[]⟩ := by
  have got : ((client.send method endpoint url sent).run.play files (some reply :: more)).result = .ok body := by
    rw [play_send server]
    exact outcome_carried carries
  rw [Exchange.play_ok got,play_send server,play_decoded]
  rfl

end Client
end ClusterClient
