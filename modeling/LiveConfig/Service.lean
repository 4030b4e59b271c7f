import LiveConfig.Namespace
set_option autoImplicit false

/-!
The service: namespaces and the names they are registered under. One namespace may have several
names, or none.
-/
namespace LiveConfig

structure Service where
  namespaces : List Namespace
  names : Table String Nat

namespace Service

def empty : Service := ⟨[], .empty⟩

/-- Takes in a namespace without a name. -/
def adopt (s : Service) (n : Namespace) : Service × Nat :=
  ({ s with namespaces := s.namespaces ++ [n] }, s.namespaces.length)

def get? (s : Service) (id : Nat) : Option Namespace := s.namespaces[id]?

def update (s : Service) (id : Nat) (f : Namespace → Namespace) : Service :=
  { s with namespaces := s.namespaces.modify id f }

@[simp] theorem get?_update (s : Service) (id j : Nat) (f : Namespace → Namespace) :
    (s.update id f).get? j = if id = j then (s.get? j).map f else s.get? j := by
  simp only [get?, update, List.getElem?_modify]
  split <;> simp

theorem map_get?_update (s : Service) (id j : Nat) (f : Namespace → Namespace) {α : Type}
    {g : Namespace → α} (hg : ∀ n, g (f n) = g n) :
    ((s.update id f).get? j).map g = (s.get? j).map g := by
  rw [get?_update]
  split
  · rw [Option.map_map]
    exact congrArg (fun h => (s.get? j).map h) (funext hg)
  · rfl

/-- Gives a name to a namespace. No name is given twice. -/
def assignName (s : Service) (name : String) (id : Nat) (label : String) :
    Journaled (Except Fault Service) :=
  if s.names.contains name then pure (.error (.namespaceTaken name))
  else do
    Journaled.say (.namespaceRegistered name label)
    pure (.ok { s with names := s.names.insert name id })

def register (s : Service) (name : String) (n : Namespace) : Journaled (Except Fault Service) :=
  let (adopted, id) := s.adopt n
  adopted.assignName name id n.label

def find (s : Service) (name : String) : Except Fault Nat :=
  match s.names.get? name with
  | some id => .ok id
  | none => .error (.unknownNamespace name)

def addName (s : Service) (name existing : String) : Journaled (Except Fault Service) :=
  match s.find existing with
  | .error f => pure (.error f)
  | .ok id => s.assignName name id (((s.get? id).map Namespace.label).getD "")

def nameList (s : Service) : List String := s.names.keys

def size (s : Service) : Nat := s.names.size

/-- The namespace that is meant when none is named. -/
def only (s : Service) : Except Fault Nat :=
  match s.names.entries with
  | [] => .error .noNamespaces
  | [e] => .ok e.2
  | _ => .error (.ambiguousNamespace s.nameList)

end Service

end LiveConfig
