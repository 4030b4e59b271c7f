import LiveConfig.Notice
set_option autoImplicit false

/-!
What a computation does besides its value: notices for the log and exchanges with the world, in
one order.
-/
namespace LiveConfig

/-- Where a request over HTTP goes. Without a port it is the usual one. -/
structure HttpAddress where
  host : String
  port : Option Int
  path : String
  deriving DecidableEq, Repr

/-- A use of the outside world. -/
inductive Exchange where
  | clientMade (service : String) (region : Option String)
  | secretAsked (id : String)
  | paginatorMade (operation : String)
  | pagesAsked (path : String)
  | cacheOpened (host : String) (port : Int)
  | keyAsked (key : String)
  | cacheClosed
  | extensionAsked (address : HttpAddress) (secretId token : String)
  deriving DecidableEq, Repr

inductive Entry where
  | said (notice : Notice)
  | asked (exchange : Exchange)
  deriving DecidableEq, Repr

def Entry.notice? : Entry → Option Notice
  | .said n => some n
  | .asked _ => none

def Entry.exchange? : Entry → Option Exchange
  | .said _ => none
  | .asked e => some e

/-- A value with the entries that were made on the way to it. -/
structure Journaled (α : Type) where
  value : α
  entries : List Entry
  deriving DecidableEq, Repr

namespace Journaled

instance : Monad Journaled where
  pure a := ⟨a, []⟩
  bind x f := ⟨(f x.value).value, x.entries ++ (f x.value).entries⟩

def say (n : Notice) : Journaled Unit := ⟨(), [.said n]⟩

def ask (e : Exchange) : Journaled Unit := ⟨(), [.asked e]⟩

/-- Does the first and then the second, whatever has become of the first. -/
def lastly {α : Type} (x : Journaled α) (after : Journaled Unit) : Journaled α :=
  ⟨x.value, x.entries ++ after.entries⟩

@[simp] theorem value_pure {α : Type} (a : α) : (pure a : Journaled α).value = a := rfl

@[simp] theorem entries_pure {α : Type} (a : α) : (pure a : Journaled α).entries = [] := rfl

@[simp] theorem value_bind {α β : Type} (x : Journaled α) (f : α → Journaled β) :
    (x >>= f).value = (f x.value).value := rfl

@[simp] theorem entries_bind {α β : Type} (x : Journaled α) (f : α → Journaled β) :
    (x >>= f).entries = x.entries ++ (f x.value).entries := rfl

@[simp] theorem value_lastly {α : Type} (x : Journaled α) (after : Journaled Unit) :
    (x.lastly after).value = x.value := rfl

@[simp] theorem entries_lastly {α : Type} (x : Journaled α) (after : Journaled Unit) :
    (x.lastly after).entries = x.entries ++ after.entries := rfl

@[simp] theorem value_map {α β : Type} (f : α → β) (x : Journaled α) :
    (f <$> x).value = f x.value := rfl

@[simp] theorem entries_map {α β : Type} (f : α → β) (x : Journaled α) :
    (f <$> x).entries = x.entries := List.append_nil _

instance : LawfulMonad Journaled := LawfulMonad.mk' Journaled
  (fun x => by cases x; simp [Functor.map])
  (fun x f => by simp [bind, pure])
  (fun x f g => by simp [bind])

end Journaled

end LiveConfig
