import LiveConfig.Proofs.Spelling
set_option autoImplicit false

/-!
How the text of a value is laid out. All that a way of writing is free in are the blanks in lists,
which may depend on the depth. Whatever they are, the text is in ASCII.
-/
namespace LiveConfig
open Text (CodePoint)

namespace Json

/-- Values that their text determines: without floats, with integers that are not too long, with
texts as strings and keys, and with each key once. -/
inductive Storable : Json → Prop where
  | null : Storable .null
  | bool (b : Bool) : Storable (.bool b)
  | int {z : Int} (short : (Text.natDigits z.natAbs).length ≤ Text.maxDigits) : Storable (.int z)
  | str (t : String) : Storable (.str (Text.codePoints t))
  | arr {elements : List Json} (each : ∀ v ∈ elements, Storable v) : Storable (.arr elements)
  | obj {members : List (List CodePoint × Json)} (distinct : (members.map Prod.fst).Nodup)
      (keys : ∀ m ∈ members, ∃ k, m.1 = Text.codePoints k)
      (values : ∀ m ∈ members, Storable m.2) : Storable (.obj members)

def Blank (cs : List Char) : Prop := ∀ c ∈ cs, c ∈ blanks

instance (cs : List Char) : Decidable (Blank cs) := List.decidableBAll _ cs

structure Spacing where
  opening : List Char
  gap : List Char
  closing : List Char
  opening_blank : Blank opening
  gap_blank : Blank gap
  closing_blank : Blank closing

namespace Spacing
variable {α : Type} (sp : Spacing) (item : α → List Char)

def listed (xs : List α) : List Char := xs.flatMap fun x => ',' :: sp.gap ++ item x

def enclosed (left right : Char) : List α → List Char
  | [] => [left, right]
  | x :: xs => left :: sp.opening ++ item x ++ sp.listed item xs ++ sp.closing ++ [right]

@[simp] theorem listed_nil : sp.listed item [] = [] := rfl

theorem listed_cons (x : α) (xs : List α) :
    sp.listed item (x :: xs) = ',' :: sp.gap ++ item x ++ sp.listed item xs := List.flatMap_cons

end Spacing

def memberChars (chars : Json → List Char) (m : List CodePoint × Json) : List Char :=
  stringChars m.1 ++ ':' :: ' ' :: chars m.2

/-- A way of writing values at each depth. Only lists are laid out differently. -/
structure Printer where
  spacing : Nat → Spacing
  chars : Nat → Json → List Char
  plain : ∀ depth v, (∀ vs, v ≠ .arr vs) → (∀ ms, v ≠ .obj ms) → chars depth v = compactChars v
  arr : ∀ depth vs,
    chars depth (.arr vs) = (spacing depth).enclosed (chars (depth + 1)) '[' ']' vs
  obj : ∀ depth ms, chars depth (.obj ms) =
    (spacing depth).enclosed (memberChars (chars (depth + 1))) '\x7b' '\x7d' ms

theorem moreElements_eq (vs : List Json) :
    moreElements vs = vs.flatMap fun v => ',' :: ' ' :: compactChars v := by
  induction vs with
  | nil => rfl
  | cons v vs ih => simp [moreElements, ih]

theorem moreMembers_eq (ms : List (List CodePoint × Json)) :
    moreMembers ms = ms.flatMap fun m => ',' :: ' ' :: memberChars compactChars m := by
  induction ms with
  | nil => rfl
  | cons m ms ih => simp [moreMembers, memberChars, ih]

def onOneLine : Printer where
  spacing _ := ⟨[], [' '], [], by decide, by decide, by decide⟩
  chars _ := compactChars
  plain _ _ _ _ := rfl
  arr _ vs := by
    cases vs <;> simp [compactChars, Spacing.enclosed, Spacing.listed, moreElements_eq]
  obj _ ms := by
    cases ms <;> simp [compactChars, Spacing.enclosed, Spacing.listed, memberChars, moreMembers_eq]

theorem indentedElements_eq (depth : Nat) (vs : List Json) : indentedElements depth vs =
    vs.flatMap fun v => ',' :: newLine (depth + 1) ++ indentedChars (depth + 1) v := by
  induction vs with
  | nil => rfl
  | cons v vs ih => simp [indentedElements, ih]

theorem indentedMembers_eq (depth : Nat) (ms : List (List CodePoint × Json)) :
    indentedMembers depth ms = ms.flatMap fun m =>
      ',' :: newLine (depth + 1) ++ memberChars (indentedChars (depth + 1)) m := by
  induction ms with
  | nil => rfl
  | cons m ms ih => simp [indentedMembers, memberChars, ih]

theorem blank_newLine (depth : Nat) : Blank (newLine depth) := by
  simp [Blank, newLine, blanks]

def onLines : Printer where
  spacing depth := ⟨newLine (depth + 1), newLine (depth + 1), newLine depth,
    blank_newLine _, blank_newLine _, blank_newLine _⟩
  chars := indentedChars
  plain depth v hvs hms := by
    cases v with
    | arr vs => exact absurd rfl (hvs vs)
    | obj ms => exact absurd rfl (hms ms)
    | _ => rfl
  arr depth vs := by
    cases vs <;> simp [indentedChars, Spacing.enclosed, Spacing.listed, indentedElements_eq]
  obj depth ms := by
    cases ms <;>
      simp [indentedChars, Spacing.enclosed, Spacing.listed, memberChars, indentedMembers_eq]

def Ascii (cs : List Char) : Prop := ∀ c ∈ cs, c.toNat < 0x80

instance (cs : List Char) : Decidable (Ascii cs) := List.decidableBAll _ cs

theorem ascii_append {cs ds : List Char} (hc : Ascii cs) (hd : Ascii ds) : Ascii (cs ++ ds) :=
  fun _ h => (List.mem_append.1 h).elim (hc _) (hd _)

theorem ascii_cons {c : Char} {cs : List Char} (hc : c.toNat < 0x80) (hs : Ascii cs) :
    Ascii (c :: cs) := List.forall_mem_cons.2 ⟨hc, hs⟩

theorem ascii_nil : Ascii [] := List.forall_mem_nil _

theorem ascii_natDigits (n : Nat) : Ascii (Text.natDigits n) := by
  intro c hc
  have h := Text.isDigit_of_mem_natDigits hc
  simp only [Char.isDigit, Bool.and_eq_true, decide_eq_true_eq] at h
  have h9 : c.toNat ≤ 57 := h.2
  omega

theorem ascii_unicodeEscape (n : Nat) : Ascii (unicodeEscape n) := by
  have hd : ∀ d < 16, (Nat.digitChar d).toNat < 0x80 := by decide
  have hx : ∀ n, (Text.hexDigit n).toNat < 0x80 := fun n => hd _ (Nat.mod_lt n (by decide))
  have hu : ∀ w n, Ascii (Text.hexDigits w n) := by
    intro w
    induction w with
    | zero => exact fun n => ascii_nil
    | succ w ih => exact fun n => ascii_append (ih _) (ascii_cons (hx n) ascii_nil)
  exact ascii_cons (by decide) (ascii_cons (by decide) (hu 4 n))

theorem ascii_escapeScalar (c : Char) : Ascii (escapeScalar c) := by
  unfold escapeScalar
  iterate 7
    split
    · exact ascii_cons (by decide) (ascii_cons (by decide) ascii_nil)
  split
  · next h => exact ascii_cons (by omega) ascii_nil
  split
  · exact ascii_unicodeEscape _
  · exact ascii_append (ascii_unicodeEscape _) (ascii_unicodeEscape _)

theorem ascii_stringChars (t : String) : Ascii (stringChars (Text.codePoints t)) := by
  rw [stringChars_codePoints]
  refine ascii_append (ascii_cons (by decide) fun c hc => ?_) (ascii_cons (by decide) ascii_nil)
  obtain ⟨d, -, hd⟩ := List.mem_flatMap.1 hc
  exact ascii_escapeScalar d c hd

theorem ascii_blank {cs : List Char} (h : Blank cs) : Ascii cs := by
  have hblank : ∀ c ∈ blanks, c.toNat < 0x80 := by simp [blanks]
  exact fun c hc => hblank c (h c hc)

theorem Spacing.ascii_enclosed {α : Type} (sp : Spacing) {item : α → List Char} {left right : Char}
    (hl : left.toNat < 0x80) (hr : right.toNat < 0x80) {xs : List α}
    (h : ∀ x ∈ xs, Ascii (item x)) : Ascii (sp.enclosed item left right xs) := by
  have hlisted : ∀ xs : List α, (∀ x ∈ xs, Ascii (item x)) → Ascii (sp.listed item xs) := by
    intro xs h c hc
    obtain ⟨x, hx, hc⟩ := List.mem_flatMap.1 hc
    exact ascii_append (ascii_cons (by decide) (ascii_blank sp.gap_blank)) (h x hx) c hc
  have hright : Ascii [right] := ascii_cons hr ascii_nil
  cases xs with
  | nil => exact ascii_cons hl hright
  | cons x xs =>
    obtain ⟨hx, hxs⟩ := List.forall_mem_cons.1 h
    have hopen : Ascii (left :: sp.opening) := ascii_cons hl (ascii_blank sp.opening_blank)
    exact ascii_append (ascii_append (ascii_append (ascii_append hopen hx) (hlisted xs hxs))
      (ascii_blank sp.closing_blank)) hright

theorem ascii_member {chars : Json → List Char} {m : List CodePoint × Json}
    (hk : ∃ k, m.1 = Text.codePoints k) (hv : Ascii (chars m.2)) : Ascii (memberChars chars m) := by
  obtain ⟨k, hk⟩ := hk
  rw [memberChars, hk]
  exact ascii_append (ascii_stringChars k) (ascii_cons (by decide) (ascii_cons (by decide) hv))

/-- No character is written that takes more than one byte. -/
theorem Printer.ascii (p : Printer) {v : Json} (h : Storable v) (depth : Nat) :
    Ascii (p.chars depth v) := by
  induction h generalizing depth with
  | null =>
    rw [p.plain depth .null nofun nofun]
    decide
  | bool b =>
    rw [p.plain depth (.bool b) nofun nofun]
    cases b <;> decide
  | @int z _ =>
    rw [p.plain depth (.int z) nofun nofun]
    cases z with
    | ofNat n => exact ascii_natDigits n
    | negSucc n => exact ascii_cons (by decide) (ascii_natDigits _)
  | str t =>
    rw [p.plain depth (.str _) nofun nofun]
    exact ascii_stringChars t
  | arr _ ih =>
    rw [p.arr]
    exact Spacing.ascii_enclosed _ (by decide) (by decide) fun v hv => ih v hv (depth + 1)
  | obj _ keys _ ih =>
    rw [p.obj]
    exact Spacing.ascii_enclosed _ (by decide) (by decide)
      fun m hm => ascii_member (keys m hm) (ih m hm (depth + 1))

end Json

end LiveConfig
