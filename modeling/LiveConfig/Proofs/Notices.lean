import LiveConfig.Settings
set_option autoImplicit false

/-!
What is logged while settings are read and a service is built from them: notices and nothing else.
They are of four kinds, and one of these, that a kind of store is unknown, is of the cloud provider
alone.
-/
namespace LiveConfig

def Tells (P : Notice → Prop) (es : List Entry) : Prop := ∀ e ∈ es, ∃ n, e = .said n ∧ P n

namespace Journaled
variable {P : Notice → Prop}

theorem tells_pure {α : Type} (a : α) : Tells P (pure a : Journaled α).entries :=
  fun _ he => absurd he List.not_mem_nil

theorem tells_say {n : Notice} (h : P n) : Tells P (say n).entries := by
  intro e he
  cases List.mem_singleton.1 he
  exact ⟨n, rfl, h⟩

theorem tells_bind {α β : Type} {x : Journaled α} {f : α → Journaled β} (hx : Tells P x.entries)
    (hf : Tells P (f x.value).entries) : Tells P (x >>= f).entries :=
  fun e he => (List.mem_append.1 he).elim (hx e) (hf e)

end Journaled

open Journaled

section Reading
variable {P : Notice → Prop}

theorem StoreKind.read_tells (h : ∀ raw, P (.unknownStoreKind raw)) (raw : Option String) :
    Tells P (read raw).entries := by
  unfold read
  split
  · exact tells_pure _
  · split
    · exact tells_pure _
    · exact tells_bind (tells_say (h _)) (tells_pure _)

theorem Settings.readInterval_tells (h : ∀ raw, P (.invalidInterval raw)) (raw : String) :
    Tells P (readInterval raw).entries := by
  unfold readInterval
  split
  · exact tells_pure _
  · exact tells_bind (tells_say (h _)) (tells_pure _)

theorem Settings.ofEnvironment_tells (h : ∀ raw, P (.invalidInterval raw)) (env : Environment) :
    Tells P (ofEnvironment env).entries := by
  unfold ofEnvironment
  dsimp only
  split
  · exact tells_bind (readInterval_tells h _) (tells_pure _)
  · exact tells_bind (tells_pure _) (tells_pure _)

end Reading

section Building
variable {P : Notice → Prop} (hport : ∀ raw, P (.invalidPort raw))
include hport

theorem CacheAddress.readPort_tells (raw : Option String) : Tells P (readPort raw).entries := by
  unfold readPort
  split
  · exact tells_pure _
  · split
    · split
      · exact tells_pure _
      · exact tells_bind (tells_say (hport _)) (tells_pure _)
    · exact tells_bind (tells_say (hport _)) (tells_pure _)

theorem CacheAddress.complete_tells (process : Environment) (host : Option String)
    (port : Option Int) : Tells P (complete process host port).entries := by
  unfold complete
  dsimp only
  split
  · exact tells_pure _
  · exact tells_bind (readPort_tells hport _) (tells_pure _)

variable (s : Surroundings) {platform : Platform}
  (hkind : platform = .aws → ∀ raw, P (.unknownStoreKind raw))
include hkind

/-- Where the kind does not matter it is not even read. -/
theorem Backend.select_tells (kind : Option String) : Tells P (select s platform kind).entries := by
  cases platform with
  | aws => exact tells_bind (StoreKind.read_tells (hkind rfl) _) (tells_pure _)
  | workstation =>
    exact tells_bind (CacheAddress.readPort_tells hport _)
      (tells_bind (CacheAddress.complete_tells hport _ _ _) (tells_pure _))
  | _ => exact tells_pure _

theorem Service.addBindings_tells (hname : ∀ name label, P (.namespaceRegistered name label))
    (interval : Option Int) (service : Service) (bs : List Binding) :
    Tells P (addBindings s platform interval service bs).entries := by
  induction bs generalizing service with
  | nil => exact tells_pure _
  | cons b bs ih =>
    refine tells_bind (Backend.select_tells hport s hkind b.kind) (tells_bind ?_ ?_)
    · simp only [register, assignName]
      split
      · exact tells_pure _
      · exact tells_bind (tells_say (hname _ _)) (tells_pure _)
    · split
      · exact tells_pure _
      · exact ih _

end Building

end LiveConfig
