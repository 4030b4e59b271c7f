set_option autoImplicit false

/-! What is left of a text after a given beginning or before a given end. -/
namespace LiveConfig.Text

def afterStart? {α : Type} [DecidableEq α] : List α → List α → Option (List α)
  | [], text => some text
  | _ :: _, [] => none
  | c :: start, d :: text => if c = d then afterStart? start text else none

theorem afterStart?_eq_some {α : Type} [DecidableEq α] {start text rest : List α} :
    afterStart? start text = some rest ↔ text = start ++ rest := by
  fun_induction afterStart? start text <;> simp_all [eq_comm]

def beforeEnd? (ending text : List Char) : Option (List Char) :=
  (afterStart? ending.reverse text.reverse).map List.reverse

theorem beforeEnd?_eq_some {ending text rest : List Char} :
    beforeEnd? ending text = some rest ↔ text = rest ++ ending := by
  simp only [beforeEnd?, Option.map_eq_some_iff, afterStart?_eq_some]
  constructor
  · rintro ⟨a, h, rfl⟩
    simpa using congrArg List.reverse h
  · rintro rfl
    exact ⟨rest.reverse, by simp, by simp⟩

def dropStart? (start text : String) : Option String :=
  (afterStart? start.toList text.toList).map String.ofList

def dropEnd? (ending text : String) : Option String :=
  (beforeEnd? ending.toList text.toList).map String.ofList

theorem dropStart?_eq_some {start text rest : String} :
    dropStart? start text = some rest ↔ text = start ++ rest := by
  simp only [dropStart?, Option.map_eq_some_iff, afterStart?_eq_some]
  constructor
  · rintro ⟨a, h, rfl⟩
    apply String.toList_inj.1
    simpa using h
  · rintro rfl
    exact ⟨rest.toList, by simp, by simp⟩

theorem dropEnd?_eq_some {ending text rest : String} :
    dropEnd? ending text = some rest ↔ text = rest ++ ending := by
  simp only [dropEnd?, Option.map_eq_some_iff, beforeEnd?_eq_some]
  constructor
  · rintro ⟨a, h, rfl⟩
    apply String.toList_inj.1
    simpa using h
  · rintro rfl
    exact ⟨rest.toList, by simp, by simp⟩

end LiveConfig.Text
