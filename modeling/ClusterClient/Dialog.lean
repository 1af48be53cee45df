import ClusterClient.Http.Basic
import ClusterClient.Tally
namespace ClusterClient

inductive Found where
  | nothing
  | unreadable
  | content (bytes : List UInt8)
deriving DecidableEq

-- What a command does to the world, step by step, as data: what comes of it under given replies is
-- worked out by play.
inductive Dialog (α : Type) where
  | done (x : α)
  -- No reply means that the exchange broke off.
  | ask (request : Http.Request) (next : Option Http.Reply → Dialog α)
  | look (path : String) (next : Found → Dialog α)
  | note (measure : Measure) (next : Dialog α)
  | say (line : String) (next : Dialog α)

namespace Dialog

def bind {α β : Type} : Dialog α → (α → Dialog β) → Dialog β
  | .done x, f => f x
  | .ask request next, f => .ask request fun reply => (next reply).bind f
  | .look path next, f => .look path fun file => (next file).bind f
  | .note measure next, f => .note measure (next.bind f)
  | .say line next, f => .say line (next.bind f)

instance : Monad Dialog where
  pure := .done
  bind := bind

def asking (request : Http.Request) : Dialog (Option Http.Reply) := .ask request .done

def looking (path : String) : Dialog Found := .look path .done

def noting (measure : Measure) : Dialog Unit := .note measure (.done ())

def saying (line : String) : Dialog Unit := .say line (.done ())

end Dialog

structure Transcript (α : Type) where
  result : α
  exchanges : List (Http.Request × Option Http.Reply)
  measures : List Measure
  lines : List String

def Transcript.requests {α : Type} (t : Transcript α) : List Http.Request := t.exchanges.map (·.1)

-- Replies are used up in order; after the last every exchange breaks off.
def Dialog.play {α : Type} (files : String → Found) :
    Dialog α → List (Option Http.Reply) → Transcript α
  | .done x, _ => ⟨x, [], [], []⟩
  | .ask request next, script =>
    let reply := script.head?.join
    let after := (next reply).play files script.tail
    { after with exchanges := (request, reply) :: after.exchanges }
  | .look path next, script => (next (files path)).play files script
  | .note measure next, script =>
    let after := next.play files script
    { after with measures := measure :: after.measures }
  | .say line next, script =>
    let after := next.play files script
    { after with lines := line :: after.lines }

end ClusterClient
