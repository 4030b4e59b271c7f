import LiveConfig.Snapshot
set_option autoImplicit false

/-!
A store for tests that answers from a script. Its answers can be held back: by a hold before a
visit is let in, by a gate that only the first visit passes, or by a delay. A visit that is held
back waits in a queue and is advanced again when it is let go.
-/
namespace LiveConfig

/-- The answers still to be given. The last one is repeated. -/
structure Script where
  next : Except Fault Snapshot
  later : List (Except Fault Snapshot)
  deriving Repr

namespace Script

/-- Without any answer the script has one, an empty snapshot. -/
def ofList : List (Except Fault Snapshot) → Script
  | [] => ⟨.ok .empty, []⟩
  | a :: rest => ⟨a, rest⟩

def rest (s : Script) : Script :=
  match s.later with
  | [] => s
  | a :: rest => ⟨a, rest⟩

end Script

inductive Restraint where
  | none
  | gate
  | hold
  deriving DecidableEq, Repr

inductive Stage where
  | arriving
  | admitted
  | passed
  | rested
  deriving DecidableEq, Repr

/-- A visit waits with the stage it goes on from, or ends. -/
inductive Progress where
  | waits (next : Stage)
  | ends (outcome : Except Fault Snapshot)
  deriving Repr

structure Scripted where
  restraint : Restraint
  delayed : Bool
  script : Script
  calls : List String
  inFlight : Nat
  maxInFlight : Nat
  gateOpen : Bool
  held : List Nat
  gated : List Nat
  asleep : List Nat
  deriving Repr

namespace Scripted

def fresh (restraint : Restraint) (delayed : Bool) (script : Script) : Scripted where
  restraint := restraint
  delayed := delayed
  script := script
  calls := []
  inFlight := 0
  maxInFlight := 0
  gateOpen := false
  held := []
  gated := []
  asleep := []

/-- The end of a visit consumes an answer. -/
def answer (s : Scripted) : Scripted × Progress :=
  ({ s with script := s.script.rest, inFlight := s.inFlight - 1 }, .ends s.script.next)

def pass (s : Scripted) (visit : Nat) : Scripted × Progress :=
  if s.delayed then ({ s with asleep := s.asleep ++ [visit] }, .waits .rested) else s.answer

/-- A visit that is let in is counted; only the first passes a closed gate. -/
def letIn (s : Scripted) (visit : Nat) (storeId : String) : Scripted × Progress :=
  let s := { s with
    calls := s.calls ++ [storeId]
    inFlight := s.inFlight + 1
    maxInFlight := max s.maxInFlight (s.inFlight + 1) }
  if s.restraint = .gate ∧ !s.gateOpen ∧ 1 < s.calls.length then
    ({ s with gated := s.gated ++ [visit] }, .waits .passed)
  else s.pass visit

def arrive (s : Scripted) (visit : Nat) (storeId : String) : Scripted × Progress :=
  if s.restraint = .hold then ({ s with held := s.held ++ [visit] }, .waits .admitted)
  else s.letIn visit storeId

def advance (s : Scripted) (visit : Nat) (stage : Stage) (storeId : String) : Scripted × Progress :=
  match stage with
  | .arriving => s.arrive visit storeId
  | .admitted => s.letIn visit storeId
  | .passed => s.pass visit
  | .rested => s.answer

/-- Opens the gate for good, or lets in the visit that has been held longest. The visits that may
go on are returned. -/
def release (s : Scripted) : Scripted × List Nat :=
  match s.restraint with
  | .none => (s, [])
  | .gate => ({ s with gateOpen := true, gated := [] }, s.gated)
  | .hold => ({ s with held := s.held.drop 1 }, s.held.take 1)

def wake (s : Scripted) : Scripted × List Nat := ({ s with asleep := [] }, s.asleep)

/-- Forgets a visit that goes on from the given stage. One that was let in leaves. -/
def leave (s : Scripted) (visit : Nat) (stage : Stage) : Scripted :=
  match stage with
  | .arriving => s
  | .admitted => { s with held := s.held.filter (· ≠ visit) }
  | .passed | .rested =>
    { s with
      gated := s.gated.filter (· ≠ visit)
      asleep := s.asleep.filter (· ≠ visit)
      inFlight := s.inFlight - 1 }

def respond (s : Scripted) (answers : List (Except Fault Snapshot)) : Scripted :=
  { s with script := .ofList answers }

end Scripted

end LiveConfig
