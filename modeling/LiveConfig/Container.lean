import LiveConfig.Fault.Basic
import LiveConfig.Journal
import LiveConfig.Json.Basic
set_option autoImplicit false

/-!
A container of values under tokens. At the end they are closed in reverse order, each by the
better of the two ways that it offers.
-/
namespace LiveConfig

/-- How a way of closing goes: it returns, is interrupted once before it returns, or fails. -/
inductive Manner where
  | returns
  | suspends
  | fails
  deriving DecidableEq, Repr

/-- A value that may offer to be closed asynchronously or directly. -/
structure Closable where
  id : String
  aclose : Option Manner
  close : Option Manner
  deriving DecidableEq, Repr

namespace Closable

/-- The way that is taken: the asynchronous one if there is one. -/
def way? (c : Closable) : Option (String × Manner) :=
  match c.aclose with
  | some m => some ("aclose", m)
  | none => c.close.map ("close", ·)

/-- What closing leaves behind, and whether it fails. -/
def run (id way : String) : Manner → List String × Except Fault Unit
  | .returns => ([s!"{id}.{way}"], .ok ())
  | .suspends => ([s!"{id}.{way}-start", s!"{id}.{way}-end"], .ok ())
  | .fails => ([s!"{id}.{way}"], .error (.broken s!"{id} {way} failed"))

end Closable

/-- A service is known by its number among those that its layer has built. -/
inductive Item where
  | plain (value : Json)
  | closable (c : Closable)
  | service (number : Nat)
  deriving Repr

/-- The name of the kind of a value. -/
def Item.kindName : Item → String
  | .plain v => v.kindName
  | .closable _ => "Closable"
  | .service _ => "ConfigService"

structure Container where
  items : Table String Item
  /-- While it is set, registrations are refused with it. -/
  refusal : Option Fault

namespace Container

def empty : Container := ⟨.empty, none⟩

/-- A token that is registered again keeps its place. -/
def register (c : Container) (token : String) (item : Item) :
    Journaled (Except Fault Container) :=
  match c.refusal with
  | some f => pure (.error f)
  | none => do
    Journaled.say (.registered token)
    pure (.ok { c with items := c.items.insert token item })

def resolve (c : Container) (token : String) : Except Fault Item :=
  match c.items.get? token with
  | some item => .ok item
  | none => .error (.nothingRegistered token)

def has (c : Container) (token : String) : Bool := c.items.contains token

/-- Closes values in the given order up to the first that fails. -/
def closeEach : List (String × Item) → Journaled (List String × Except Fault Unit)
  | [] => pure ([], .ok ())
  | (token, .closable c) :: rest =>
    match c.way? with
    | none => closeEach rest
    | some (way, manner) => do
      Journaled.say (.closing token)
      match Closable.run c.id way manner with
      | (marks, .error f) => pure (marks, .error f)
      | (marks, .ok ()) => do
        let (more, outcome) ← closeEach rest
        pure (marks ++ more, outcome)
  | _ :: rest => closeEach rest

/-- Closes all values, the last first. Only when none fails is the container emptied. -/
def closeAll (c : Container) : Journaled (Container × List String × Except Fault Unit) := do
  let (marks, outcome) ← closeEach c.items.entries.reverse
  match outcome with
  | .ok () => pure ({ c with items := .empty }, marks, .ok ())
  | .error f => pure (c, marks, .error f)

end Container

end LiveConfig
