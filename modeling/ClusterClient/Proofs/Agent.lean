import ClusterClient.Agent
import Mathlib.Data.List.Basic
namespace ClusterClient.Agent

inductive Change where
  | host (host : String)
  | port (port : UInt16)
  | portText (port : String)
  | cluster (cluster : String)
  | timeoutMs (ms : UInt32)
  | leader (leader : Bool)

def changed (agent : Agent) : Change → Agent
  | .host host => agent.setHost host
  | .port port => agent.setPort port
  | .portText port =>
    match agent.setPortText port with
    | .ok after => after
    | .error _ => agent
  | .cluster cluster => agent.setCluster cluster
  | .timeoutMs ms => agent.setTimeoutMs ms
  | .leader leader => agent.setLeader leader

inductive Wanted where
  | front
  | url (endpoint : Endpoint)

def read (agent : Agent) : Wanted → String × Agent
  | .front => agent.keyValueFront
  | .url endpoint => agent.url endpoint

-- Agents are named by their place, and a clone takes the next place.
inductive Action where
  | change (which : Nat) (change : Change)
  | clone (which : Nat)
  | read (which : Nat) (wanted : Wanted)

def Action.isRead : Action → Bool
  | .read _ _ => true
  | _ => false

def act (agents : List Agent) : Action → Option String × List Agent
  | .change which change => (none, agents.modify which (changed · change))
  | .clone which => (none, agents ++ agents[which]?.toList)
  | .read which wanted =>
    (agents[which]?.map fun agent => (agent.read wanted).1, agents.modify which fun agent => (agent.read wanted).2)

def run (agents : List Agent) : List Action → List (Option String) × List Agent
  | [] => ([], agents)
  | action :: rest =>
    ((act agents action).1 :: (run (act agents action).2 rest).1, (run (act agents action).2 rest).2)

-- The same without anything that is kept. Only addresses are known, and who reads asks an agent
-- that has just been made.
abbrev Address := String × UInt16

def address (agent : Agent) : Address := (agent.host, agent.port)

def standing (place : Address) : Agent := { host := place.1, port := place.2 }

def Change.moves (place : Address) : Change → Address
  | .host name => (name, place.2)
  | .port n => (place.1, n)
  | .portText text =>
    match Decimal.word16? (Text.trim text) with
    | some n => if n = 0 then place else (place.1, n)
    | none => place
  | _ => place

def actAfresh (places : List Address) : Action → Option String × List Address
  | .change which change => (none, places.modify which change.moves)
  | .clone which => (none, places ++ places[which]?.toList)
  | .read which wanted => (places[which]?.map fun place => ((standing place).read wanted).1, places)

def runAfresh (places : List Address) : List Action → List (Option String) × List Address
  | [] => ([], places)
  | action :: rest =>
    ((actAfresh places action).1 :: (runAfresh (actAfresh places action).2 rest).1,
      (runAfresh (actAfresh places action).2 rest).2)

-- What is kept is what would be made from the host and the port as they are.
structure Current (agent : Agent) : Prop where
  keyValue : ∀ url ∈ agent.kept.keyValue, url = agent.base "kv/"
  leader : ∀ url ∈ agent.kept.leader, url = agent.base "status/leader"
  peers : ∀ url ∈ agent.kept.peers, url = agent.base "status/peers"
  self : ∀ url ∈ agent.kept.self, url = agent.base "agent/self"

theorem current_of_empty {agent : Agent} (empty : agent.kept = {}) : Current agent := by
  constructor <;> simp [empty]

theorem getD_kept {kept : Option String} {made : String} (same : ∀ url ∈ kept, url = made) : kept.getD made = made := by
  cases kept with
  | none => rfl
  | some url => exact same url rfl

theorem setPortText_eq (agent : Agent) (port : String) :
    agent.changed (.portText port) =
      match Decimal.word16? (Text.trim port) with
      | some n => if n = 0 then agent else agent.setPort n
      | none => agent := by
  rw [changed,setPortText]
  cases Decimal.word16? (Text.trim port) with
  | none => rfl
  | some n =>
    by_cases zero : n = 0
    · dsimp only
      rw [if_pos zero,if_pos zero]
    · dsimp only
      rw [if_neg zero,if_neg zero]

theorem changed_current {agent : Agent} (current : Current agent) (change : Change) : Current (agent.changed change) := by
  cases change with
  | host host => exact current_of_empty rfl
  | port port => exact current_of_empty rfl
  | portText port =>
    rw [setPortText_eq]
    split
    · split
      · exact current
      · exact current_of_empty rfl
    · exact current
  | cluster cluster => exact ⟨current.keyValue,current.leader,current.peers,current.self⟩
  | timeoutMs ms => exact ⟨current.keyValue,current.leader,current.peers,current.self⟩
  | leader leader => exact ⟨current.keyValue,current.leader,current.peers,current.self⟩

theorem changed_address (agent : Agent) (change : Change) :
    (agent.changed change).address = change.moves agent.address := by
  cases change with
  | portText port =>
    rw [setPortText_eq]
    rw [Change.moves]
    split
    · split <;> rfl
    · rfl
  | _ => rfl

theorem url_fresh {agent : Agent} (current : Current agent) (endpoint : Endpoint) :
    (agent.url endpoint).1 = agent.freshUrl endpoint := by
  cases endpoint with
  | keyValue key => simp only [url,freshUrl,getD_kept current.keyValue]
  | leader => simp only [url,freshUrl,getD_kept current.leader]
  | peers => simp only [url,freshUrl,getD_kept current.peers]
  | self => simp only [url,freshUrl,getD_kept current.self]

theorem url_current {agent : Agent} (current : Current agent) (endpoint : Endpoint) : Current (agent.url endpoint).2 := by
  cases endpoint with
  | keyValue key =>
    simp only [url,getD_kept current.keyValue]
    exact ⟨fun _ kept => (Option.some.inj kept).symm,current.leader,current.peers,current.self⟩
  | leader =>
    simp only [url,getD_kept current.leader]
    exact ⟨current.keyValue,fun _ kept => (Option.some.inj kept).symm,current.peers,current.self⟩
  | peers =>
    simp only [url,getD_kept current.peers]
    exact ⟨current.keyValue,current.leader,fun _ kept => (Option.some.inj kept).symm,current.self⟩
  | self =>
    simp only [url,getD_kept current.self]
    exact ⟨current.keyValue,current.leader,current.peers,fun _ kept => (Option.some.inj kept).symm⟩

theorem url_standing {agent : Agent} (current : Current agent) (endpoint : Endpoint) :
    (agent.url endpoint).1 = ((standing agent.address).url endpoint).1 := by
  rw [url_fresh current,url_fresh (current_of_empty rfl)]
  cases endpoint <;> rfl

theorem read_current {agent : Agent} (current : Current agent) (wanted : Wanted) :
    Current (agent.read wanted).2 ∧ (agent.read wanted).1 = ((standing agent.address).read wanted).1 := by
  cases wanted with
  | front => exact ⟨url_current current (.keyValue ""),url_standing current (.keyValue "")⟩
  | url endpoint => exact ⟨url_current current endpoint,url_standing current endpoint⟩

theorem read_address (agent : Agent) (wanted : Wanted) : (agent.read wanted).2.address = agent.address := by
  cases wanted with
  | front => rfl
  | url endpoint => cases endpoint <;> rfl

theorem forall_mem_modify {α : Type} {p : α → Prop} {f : α → α} {xs : List α} (which : Nat)
    (all : ∀ x ∈ xs, p x) (kept : ∀ x, p x → p (f x)) : ∀ x ∈ xs.modify which f, p x := by
  induction xs generalizing which with
  | nil => simp
  | cons x rest ih =>
    obtain ⟨head,tail⟩ := List.forall_mem_cons.mp all
    cases which with
    | zero => exact List.forall_mem_cons.mpr ⟨kept x head,tail⟩
    | succ which => exact List.forall_mem_cons.mpr ⟨head,ih which tail⟩

theorem map_modify_of_comm {α β : Type} {f : α → β} {g : α → α} {h : β → β} (xs : List α) (which : Nat)
    (comm : ∀ x, f (g x) = h (f x)) : (xs.modify which g).map f = (xs.map f).modify which h := by
  induction xs generalizing which with
  | nil => simp
  | cons x rest ih =>
    cases which with
    | zero => simp [comm]
    | succ which => simp [ih]

theorem act_current {agents : List Agent} (current : ∀ agent ∈ agents, Current agent) (action : Action) :
    ∀ agent ∈ (act agents action).2, Current agent := by
  cases action with
  | change which change => exact forall_mem_modify which current (fun _ valid => changed_current valid change)
  | clone which =>
    intro agent member
    rcases List.mem_append.mp member with old | cloned
    · exact current agent old
    · exact current agent (List.mem_of_getElem? (Option.mem_toList.mp cloned))
  | read which wanted => exact forall_mem_modify which current (fun _ valid => (read_current valid wanted).1)

theorem act_afresh {agents : List Agent} (current : ∀ agent ∈ agents, Current agent) (action : Action) :
    (act agents action).1 = (actAfresh (agents.map address) action).1 ∧
      (act agents action).2.map address = (actAfresh (agents.map address) action).2 := by
  cases action with
  | change which change => exact ⟨rfl,map_modify_of_comm agents which (fun agent => changed_address agent change)⟩
  | clone which =>
    refine ⟨rfl,?_⟩
    simp only [act,actAfresh,List.map_append,List.getElem?_map,Option.toList_map]
  | read which wanted =>
    constructor
    · simp only [act,actAfresh,List.getElem?_map,Option.map_map]
      refine Option.map_congr ?_
      intro agent found
      exact (read_current (current agent (List.mem_of_getElem? found)) wanted).2
    · simp only [act,actAfresh]
      rw [map_modify_of_comm (h := id) agents which (fun agent => read_address agent wanted),List.modify_id]

theorem run_afresh {agents : List Agent} (current : ∀ agent ∈ agents, Current agent) (actions : List Action) :
    (∀ agent ∈ (run agents actions).2, Current agent) ∧
      (run agents actions).1 = (runAfresh (agents.map address) actions).1 ∧
      (run agents actions).2.map address = (runAfresh (agents.map address) actions).2 := by
  induction actions generalizing agents with
  | nil => exact ⟨current,rfl,rfl⟩
  | cons action rest ih =>
    obtain ⟨said,places⟩ := act_afresh current action
    obtain ⟨valid,answers,last⟩ := ih (act_current current action)
    rw [places] at answers last
    refine ⟨valid,?_,last⟩
    rw [run,runAfresh,said,answers]

def Wanted.path : Wanted → String
  | .front => "kv/"
  | .url (.keyValue key) => "kv/" ++ encodeKey key
  | .url .leader => "status/leader"
  | .url .peers => "status/peers"
  | .url .self => "agent/self"

def urlAt (place : Address) (wanted : Wanted) : String :=
  "http://" ++ place.1 ++ ":" ++ Decimal.text place.2.toNat ++ "/v1/" ++ wanted.path

theorem read_urlAt {agent : Agent} (current : Current agent) (wanted : Wanted) :
    (agent.read wanted).1 = urlAt agent.address wanted := by
  have spelled : ∀ path, agent.base path =
      "http://" ++ agent.host ++ ":" ++ Decimal.text agent.port.toNat ++ "/v1/" ++ path := by
    intro path
    simp only [base,text,portText,String.append_assoc]
  cases wanted with
  | front =>
    rw [read,keyValueFront,url_fresh current,freshUrl,spelled]
    exact String.append_empty
  | url endpoint =>
    rw [read,url_fresh current]
    cases endpoint with
    | keyValue key =>
      rw [freshUrl,spelled,String.append_assoc]
      rfl
    | _ => exact spelled _

theorem run_reads {agent : Agent} (current : Current agent) (wanted : List Wanted) :
    (run [agent] (wanted.map (.read 0))).1 = wanted.map fun each => some (urlAt agent.address each) := by
  induction wanted generalizing agent with
  | nil => rfl
  | cons first rest ih =>
    have later := ih (read_current current first).1
    rw [read_address] at later
    rw [List.map_cons,List.map_cons,run,← later,← read_urlAt current]
    rfl

theorem runAfresh_filter (places : List Address) (actions : List Action) :
    (runAfresh places (actions.filter (!·.isRead))).2 = (runAfresh places actions).2 := by
  induction actions generalizing places with
  | nil => rfl
  | cons action rest ih =>
    cases action with
    | read which wanted => exact ih places
    | change which change => exact ih _
    | clone which => exact ih _

-- Agents that all came from one. Every URL that is read is the one that a new agent at the address
-- of that moment gives, and no earlier reading has a part in it, neither of the agent itself nor of
-- the one it was cloned from.
theorem urls_never_stale (host : String) (port : UInt16) (actions : List Action) :
    (run [standing (host, port)] actions).1 = (runAfresh [(host, port)] actions).1 ∧
    (run [standing (host, port)] actions).2.map address = (runAfresh [(host, port)] actions).2 ∧
    (∀ agent ∈ (run [standing (host, port)] actions).2, ∀ wanted,
      (agent.read wanted).1 = ((standing (agent.host, agent.port)).read wanted).1) ∧
    ∀ which wanted, (act (run [standing (host, port)] actions).2 (.read which wanted)).1 =
      (act (run [standing (host, port)] (actions.filter (!·.isRead))).2 (.read which wanted)).1 := by
  -- The invariant is that no agent keeps a stale URL; one that keeps none has it.
  have start : ∀ agent ∈ [standing (host, port)], Current agent := by
    intro agent member
    rw [List.mem_singleton.mp member]
    exact current_of_empty rfl
  obtain ⟨valid,answers,places⟩ := run_afresh start actions
  obtain ⟨unreadValid,_,unreadPlaces⟩ := run_afresh start (actions.filter (!·.isRead))
  refine ⟨answers,places,?_,?_⟩
  · intro agent member wanted
    exact (read_current (valid agent member) wanted).2
  -- Reads move no agent, so with or without them the addresses are the same.
  · intro which wanted
    rw [(act_afresh valid _).1,(act_afresh unreadValid _).1,places,unreadPlaces,runAfresh_filter]

-- A clone takes a kept URL along and gives it up when it moves; the first agent keeps its own, and
-- a port that is refused changes neither.
def parting : List Action :=
  [.read 0 .front, .clone 0, .change 1 (.host "b"), .change 1 (.portText "0"), .read 1 .front, .read 0 (.url .self)]

theorem urls_never_stale_parting :
    (run [standing ("a", 1)] parting).1 =
      [some "http://a:1/v1/kv/", none, none, none, some "http://b:1/v1/kv/", some "http://a:1/v1/agent/self"] ∧
    ∃ clone ∈ (run [standing ("a", 1)] parting).2, clone.kept.keyValue = some "http://b:1/v1/kv/" ∧
      (clone.read .front).1 = "http://b:1/v1/kv/" := by
  obtain ⟨answers,_,current,_⟩ := urls_never_stale "a" 1 parting
  constructor
  · rw [answers]
    decide +kernel
  · have member : { host := "b", port := 1, kept := { keyValue := some "http://b:1/v1/kv/" } } ∈
        (run [standing ("a", 1)] parting).2 := by decide +kernel
    refine ⟨_,member,rfl,?_⟩
    rw [current _ member .front]
    decide +kernel

end ClusterClient.Agent
