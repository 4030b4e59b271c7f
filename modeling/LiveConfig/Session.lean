import LiveConfig.Backend.Basic
set_option autoImplicit false

/-!
Direct fetches from one backend, several at a time. They go on in turns, in the order in which
they became able to.
-/
namespace LiveConfig

inductive VisitState where
  | active (stage : Stage)
  | ended (outcome : Except Fault Snapshot)
  | cancelled
  deriving Repr

structure Visit where
  storeId : String
  state : VisitState
  deriving Repr

structure Session where
  backend : Backend
  world : World
  visits : Table Nat Visit
  ready : List Nat
  entries : List Entry

namespace Session

def start (backend : Backend) (world : World) : Session := ⟨backend, world, .empty, [], []⟩

def setVisit (s : Session) (id : Nat) (v : Visit) : Session :=
  { s with visits := s.visits.insert id v }

def advance (s : Session) (id : Nat) : Session :=
  match s.visits.get? id with
  | some ⟨storeId, .active stage⟩ =>
    let moved := s.backend.advance s.world id stage storeId
    let s := { s with backend := moved.value.1, entries := s.entries ++ moved.entries }
    match moved.value.2 with
    | .waits next => s.setVisit id ⟨storeId, .active next⟩
    | .ends outcome => s.setVisit id ⟨storeId, .ended outcome⟩
  | _ => s

def step (s : Session) : Session :=
  match s.ready with
  | [] => s
  | id :: rest => { s with ready := rest }.advance id

inductive Event where
  | begin (id : Nat) (storeId : String)
  | cancel (id : Nat)
  | release
  | wake
  | respond (answers : List (Except Fault Snapshot))

def free (s : Session) (f : Scripted → Scripted × List Nat) : Session :=
  let freed := s.backend.free f
  { s with backend := freed.1, ready := s.ready ++ freed.2 }

/-- A cancelled visit leaves the backend from wherever it waits. -/
def cancel (s : Session) (id : Nat) : Session :=
  match s.visits.get? id with
  | some ⟨storeId, .active stage⟩ =>
    { s with backend := s.backend.onDouble (·.leave id stage) }.setVisit id ⟨storeId, .cancelled⟩
  | _ => s

def apply (s : Session) : Event → Session
  | .begin id storeId =>
    if s.visits.contains id then s
    else { s.setVisit id ⟨storeId, .active .arriving⟩ with ready := s.ready ++ [id] }
  | .cancel id => s.cancel id
  | .release => s.free Scripted.release
  | .wake => s.free Scripted.wake
  | .respond answers => { s with backend := s.backend.onDouble (·.respond answers) }

def settleFor : Nat → Session → Session
  | 0, s => s
  | fuel + 1, s =>
    if s.ready.isEmpty then
      let s := s.apply .wake
      if s.ready.isEmpty then s else settleFor fuel s
    else settleFor fuel s.step

/-- Goes on until nothing is left to do. A visit takes four turns at most. -/
def settle (s : Session) : Session := settleFor (8 * (s.visits.size + 1)) s

def freshVisit (s : Session) : Nat := s.visits.size

end Session

end LiveConfig
