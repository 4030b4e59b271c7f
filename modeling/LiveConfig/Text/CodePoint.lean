set_option autoImplicit false

/-!
Code points: characters, and the halves of surrogate pairs that stand alone. Escapes and byte
sequences can name such a half, which no text holds.
-/
namespace LiveConfig.Text

inductive CodePoint where
  | scalar : Char → CodePoint
  | surrogate : Fin 0x800 → CodePoint
  deriving DecidableEq, Repr

/-- A text in which halves of surrogate pairs may stand alone. -/
abbrev Points := List CodePoint

def CodePoint.toNat : CodePoint → Nat
  | .scalar c => c.toNat
  | .surrogate i => 0xD800 + i.val

theorem CodePoint.toNat_injective {p q : CodePoint} (h : p.toNat = q.toNat) : p = q := by
  have hscalar : ∀ (c : Char) (i : Fin 0x800), c.toNat ≠ 0xD800 + i.val := by
    intro c i hc
    have hvalid : c.toNat < 0xD800 ∨ 0xDFFF < c.toNat ∧ c.toNat < 0x110000 := c.valid
    omega
  cases p with
  | scalar c =>
    cases q with
    | scalar d => exact congrArg scalar (Char.toNat_inj.1 h)
    | surrogate i => exact absurd h (hscalar c i)
  | surrogate i =>
    cases q with
    | scalar d => exact absurd h.symm (hscalar d i)
    | surrogate j => exact congrArg surrogate (Fin.ext (Nat.add_left_cancel h))

/-- The code point of a number below 0x110000; of any larger one the replacement character. -/
def CodePoint.ofNat (n : Nat) : CodePoint :=
  if h : 0xD800 ≤ n ∧ n < 0xE000 then .surrogate ⟨n - 0xD800, by omega⟩
  else if n < 0x110000 then .scalar (Char.ofNat n)
  else .scalar '\uFFFD'

def CodePoint.char? : CodePoint → Option Char
  | .scalar c => some c
  | .surrogate _ => none

def isLeading (n : Nat) : Bool := 0xD800 ≤ n && n < 0xDC00
def isTrailing (n : Nat) : Bool := 0xDC00 ≤ n && n < 0xE000

/-- The character that a leading and a trailing half name together. -/
def joinHalves (leading trailing : Nat) : CodePoint :=
  .ofNat (0x10000 + (leading - 0xD800) * 0x400 + (trailing - 0xDC00))

/-- The two halves that name a character above U+FFFF. -/
def halves (n : Nat) : Nat × Nat :=
  (0xD800 + (n - 0x10000) / 0x400, 0xDC00 + (n - 0x10000) % 0x400)

def codePoints (text : String) : Points := text.toList.map .scalar

theorem codePoints_ofList (cs : List Char) : codePoints (.ofList cs) = cs.map .scalar := by
  rw [codePoints, String.toList_ofList]

theorem codePoints_injective {t u : String} (h : codePoints t = codePoints u) : t = u :=
  String.toList_inj.1 (List.map_inj_right (fun _ _ => CodePoint.scalar.inj) |>.1 h)

end LiveConfig.Text
