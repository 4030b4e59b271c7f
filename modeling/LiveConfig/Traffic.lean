import LiveConfig.Layer
set_option autoImplicit false

/-!
Requests that pass one layer side by side. Each enters in one stretch, up to where what follows it
is called; that may take its time. In between come other requests, changes of the environment and
of containers, and the work of the service itself.
-/
namespace LiveConfig

/-- What a layer finds outside when it is wired. -/
structure Outside where
  around : Surroundings
  world : World
  clock : Float

/-- How far a request has got: it failed before anything followed it, what follows it was called, or
has ended. -/
inductive Passage (α : Type) where
  | refused (fault : Fault)
  | inside
  | ended (outcome : Except Fault α)

/-- What a request does, in the order in which it does it: it makes entries in the journal, calls
what follows it and yields its outcome. -/
inductive Act (α : Type) where
  | noted (request : Nat) (entry : Entry)
  | followed (request : Nat)
  | yielded (request : Nat) (outcome : Except Fault α)

structure Traffic (α : Type) where
  layer : Layer
  outside : Outside
  containers : Table String Container
  requests : Table Nat (Passage α)
  acts : List (Act α)

namespace Traffic

variable {α : Type}

def start (outside : Outside) (containers : Table String Container) : Traffic α where
  layer := .fresh
  outside := outside
  containers := containers
  requests := .empty
  acts := []

/-- A request that has not been seen before enters with a container. -/
def enter (t : Traffic α) (request : Nat) (name : String) : Traffic α :=
  match t.requests.get? request, t.containers.get? name with
  | none, some c =>
    let entered := t.layer.enter t.outside.around t.outside.world t.outside.clock c
    let (passage, last) :=
      match entered.value.outcome with
      | .error f => (Passage.refused f, Act.yielded request (.error f))
      | .ok () => (.inside, .followed request)
    { t with
      layer := entered.value.layer
      containers := t.containers.insert name entered.value.container
      requests := t.requests.insert request passage
      acts := t.acts ++ entered.entries.map (.noted request) ++ [last] }
  | _, _ => t

/-- What follows a request ends, and the request with it. -/
def leave (t : Traffic α) (request : Nat) (outcome : Except Fault α) : Traffic α :=
  match t.requests.get? request with
  | some .inside =>
    { t with
      requests := t.requests.insert request (.ended outcome)
      acts := t.acts ++ [.yielded request outcome] }
  | _ => t

inductive Event (α : Type) where
  | enter (request : Nat) (container : String)
  | leave (request : Nat) (outcome : Except Fault α)
  | change (outside : Outside)
  | place (name : String) (c : Container)
  | turn
  | happen (e : Loop.Event)

def apply (t : Traffic α) : Event α → Traffic α
  | .enter request name => t.enter request name
  | .leave request outcome => t.leave request outcome
  | .change outside => { t with outside := outside }
  | .place name c => { t with containers := t.containers.insert name c }
  | .turn => { t with layer := t.layer.onLoop Loop.step }
  | .happen e => { t with layer := t.layer.onLoop fun l => l.apply e }

def run (t : Traffic α) (es : List (Event α)) : Traffic α := es.foldl apply t

end Traffic

end LiveConfig
