import LiveConfig.Table
import LiveConfig.Text.CodePoint
set_option autoImplicit false

/-! JSON values. An object holds each key once, in the order of first appearance. -/
namespace LiveConfig
open Text (CodePoint)

inductive Json where
  | null
  | bool (b : Bool)
  | int (z : Int)
  | float (x : Float)
  | str (points : List CodePoint)
  | arr (elements : List Json)
  | obj (members : List (List CodePoint × Json))
  deriving Repr, Inhabited

namespace Json

def text (s : String) : Json := .str (Text.codePoints s)

def kindName : Json → String
  | .null => "NoneType"
  | .bool _ => "bool"
  | .int _ => "int"
  | .float _ => "float"
  | .str _ => "str"
  | .arr _ => "list"
  | .obj _ => "dict"

/-- Whether a value counts as present: neither null, false, zero nor empty. -/
def isPresent : Json → Bool
  | .null => false
  | .bool b => b
  | .int z => z ≠ 0
  | .float x => !(x == 0)
  | .str points => !points.isEmpty
  | .arr elements => !elements.isEmpty
  | .obj members => !members.isEmpty

def member? (members : List (List CodePoint × Json)) (key : String) : Option Json :=
  members.lookup (Text.codePoints key)

mutual

/-- How many objects and arrays are nested in each other, the value itself among them. -/
def depth : Json → Nat
  | .arr elements => elementsDepth elements + 1
  | .obj members => membersDepth members + 1
  | _ => 0

def elementsDepth : List Json → Nat
  | [] => 0
  | v :: more => max v.depth (elementsDepth more)

def membersDepth : List (List CodePoint × Json) → Nat
  | [] => 0
  | (_, v) :: more => max v.depth (membersDepth more)

end

theorem elementsDepth_le {elements : List Json} {n : Nat} :
    elementsDepth elements ≤ n ↔ ∀ v ∈ elements, v.depth ≤ n := by
  induction elements with
  | nil => simp [elementsDepth]
  | cons v more ih => rw [elementsDepth, Nat.max_le, ih, List.forall_mem_cons]

theorem membersDepth_le {members : List (List CodePoint × Json)} {n : Nat} :
    membersDepth members ≤ n ↔ ∀ m ∈ members, m.2.depth ≤ n := by
  induction members with
  | nil => simp [membersDepth]
  | cons m more ih =>
    rw [membersDepth, Nat.max_le, ih, List.forall_mem_cons]

/-- There is a level for an array itself, and its elements fit into the others. -/
theorem depth_arr_le {elements : List Json} {n : Nat} (h : (arr elements).depth ≤ n) :
    ∃ k, n = k + 1 ∧ ∀ v ∈ elements, v.depth ≤ k := by
  rw [depth] at h
  exact ⟨n - 1, by omega, elementsDepth_le.1 (by omega)⟩

theorem depth_obj_le {members : List (List CodePoint × Json)} {n : Nat}
    (h : (obj members).depth ≤ n) : ∃ k, n = k + 1 ∧ ∀ m ∈ members, m.2.depth ≤ k := by
  rw [depth] at h
  exact ⟨n - 1, by omega, membersDepth_le.1 (by omega)⟩

/-- How deep values may be that are read, and that are written. It depends on how many calls are
under way, of which there may only be so many. -/
structure Room where
  reading : Nat
  writing : Nat
  deriving DecidableEq, Repr

/-- What is about left of a thousand calls. -/
def Room.usual : Room := ⟨980, 980⟩

end Json

end LiveConfig
