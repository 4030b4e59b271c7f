import LiveConfig.Fault.Codec
set_option autoImplicit false

/-!
Where commands print. A stream encodes what is printed, line by line, and its encoding may lack
characters; a line that cannot be encoded ends the printing, but what stands before it is out.
-/
namespace LiveConfig.Command
open Text (CodePoint Points)

/-- A stream of texts: the fault that a text is met with, if it cannot be encoded. -/
structure Console where
  refusal : Points → Option ForeignFault
  ascii : ∀ text, (∀ p ∈ text, p.toNat < 0x80) → refusal text = none

namespace Console

/-- What is printed of lines, and the fault of the first that is refused. -/
def print (c : Console) : List Points → Points × Option ForeignFault
  | [] => ([], none)
  | line :: more =>
    match c.refusal line with
    | some f => ([], some f)
    | none => (line ++ .scalar '\n' :: (c.print more).1, (c.print more).2)

/-- A stream in memory, which takes every text. -/
def memory : Console := ⟨fun _ => none, fun _ _ => rfl⟩

def utf8 : Console where
  refusal := Codec.utf8.fault?
  ascii text h := Codec.fault?_eq_none.2 fun p hp => by
    cases p with
    | scalar c => rfl
    | surrogate i =>
      have hi := h _ hp
      simp only [CodePoint.toNat] at hi
      omega

end Console

end LiveConfig.Command
