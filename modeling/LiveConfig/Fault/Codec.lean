import LiveConfig.Fault.Remote
import LiveConfig.Text.CodePoint
set_option autoImplicit false

/-! Encodings of texts, as far as there are characters that they lack. -/
namespace LiveConfig
open Text (CodePoint Points)

/-- An encoding with its name, the characters that it lacks, and what is said of these. -/
structure Codec where
  name : String
  reason : String
  lacks : CodePoint → Bool

namespace Codec

def ascii : Codec := ⟨"ascii", "ordinal not in range(128)", fun p => 0x80 ≤ p.toNat⟩

/-- UTF-8 has every character, but no half of a surrogate pair. -/
def utf8 : Codec := ⟨"utf-8", "surrogates not allowed", fun p => p.char?.isNone⟩

/-- The fault of a text that cannot be encoded. It tells where the first run of characters stands
that are lacking. -/
def fault? (c : Codec) (text : Points) : Option ForeignFault :=
  let start := text.findIdx c.lacks
  match (text.drop start).takeWhile c.lacks with
  | [] => none
  | p :: more =>
    let place :=
      if more.isEmpty then
        s!"character '{String.ofList (Text.numberEscape p.toNat)}' in position {start}"
      else s!"characters in position {start}-{start + more.length}"
    some ⟨.encoding, s!"'{c.name}' codec can't encode {place}: {c.reason}"⟩

theorem fault?_eq_none {c : Codec} {text : Points} :
    c.fault? text = none ↔ ∀ p ∈ text, c.lacks p = false := by
  have hrun : c.fault? text = none ↔
      (text.drop (text.findIdx c.lacks)).takeWhile c.lacks = [] := by
    rw [fault?]
    split
    · next h => simp [h]
    · next h => simp [h]
  rw [hrun]
  clear hrun
  induction text with
  | nil => simp
  | cons p text ih =>
    cases hp : c.lacks p with
    | true => simp [List.findIdx_cons, hp]
    | false => simpa [List.findIdx_cons, hp] using ih

end Codec

end LiveConfig
