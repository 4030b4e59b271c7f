import LiveConfig.Json.Parser
import LiveConfig.Json.Printer
set_option autoImplicit false

/-!
What is written of a string or an integer is read back. Every character of a string has one
escape, which is read as that character, and the digits of an integer end where it does.
-/
namespace LiveConfig
open Text (CodePoint)

namespace Text

/-- A character is no half of a surrogate pair. -/
theorem toNat_cases (c : Char) : c.toNat < 0xD800 ∨ 0xDFFF < c.toNat ∧ c.toNat < 0x110000 := c.valid

theorem CodePoint.ofNat_toNat (c : Char) : CodePoint.ofNat c.toNat = .scalar c := by
  have hc := toNat_cases c
  have hs : ¬(0xD800 ≤ c.toNat ∧ c.toNat < 0xE000) := by omega
  have hl : c.toNat < 0x110000 := by omega
  rw [ofNat, dif_neg hs, if_pos hl, Char.ofNat_toNat]

theorem isLeading_toNat (c : Char) : isLeading c.toNat = false := by
  have hc := toNat_cases c
  rw [isLeading, Bool.and_eq_false_iff, decide_eq_false_iff_not, decide_eq_false_iff_not]
  omega

section Halves
variable {n : Nat}

theorem isLeading_halves (h : n < 0x110000) : isLeading (halves n).1 = true := by
  rw [isLeading, Bool.and_eq_true, decide_eq_true_iff, decide_eq_true_iff]
  simp only [halves]
  omega

theorem isTrailing_halves (n : Nat) : isTrailing (halves n).2 = true := by
  rw [isTrailing, Bool.and_eq_true, decide_eq_true_iff, decide_eq_true_iff]
  simp only [halves]
  omega

theorem joinHalves_halves (h : 0x10000 ≤ n) :
    joinHalves (halves n).1 (halves n).2 = .ofNat n := by
  have hn : 0x10000 + ((halves n).1 - 0xD800) * 0x400 + ((halves n).2 - 0xDC00) = n := by
    simp only [halves]
    omega
  rw [joinHalves, hn]

end Halves

theorem isDigit_of_mem_natDigits {n : Nat} {c : Char} (h : c ∈ natDigits n) : c.isDigit = true :=
  Nat.isDigit_of_mem_toDigits (by decide) (by decide) h

theorem natDigits_eq_cons (n : Nat) : ∃ d ds, natDigits n = d :: ds ∧ d.isDigit = true := by
  have hne : natDigits n ≠ [] := Nat.toDigits_ne_nil
  obtain ⟨d, ds, hd⟩ := List.exists_cons_of_ne_nil hne
  exact ⟨d, ds, hd, isDigit_of_mem_natDigits (n := n) (hd ▸ List.mem_cons_self)⟩

theorem ofDigits_natDigits (n : Nat) :
    ofDigits ((natDigits n).map fun c => c.toNat - 48) = n := by
  have h := Nat.ofDigitChars_ten_toDigits (n := n)
  rw [Nat.ofDigitChars_eq_foldl] at h
  rw [ofDigits, List.foldl_map]
  exact h

/-- Only the number zero is written with a zero in front. -/
theorem natDigits_cases (n : Nat) :
    natDigits n = ['0'] ∨ ∃ c cs, natDigits n = c :: cs ∧ c ≠ '0' := by
  induction n using Nat.strongRecOn with
  | ind n ih =>
    by_cases hn : n < 10
    · have hd : ∀ d < 10, [Nat.digitChar d] = ['0'] ∨ Nat.digitChar d ≠ '0' := by decide
      rw [natDigits, Nat.toDigits_of_lt_base hn]
      exact (hd n hn).imp id fun h => ⟨_, [], rfl, h⟩
    · right
      have hstep : natDigits n = natDigits (n / 10) ++ [Nat.digitChar (n % 10)] :=
        Nat.toDigits_of_base_le (by decide) (by omega)
      obtain h | ⟨c, cs, h, hc⟩ := ih (n / 10) (by omega)
      · -- A quotient of at least one has no zero in front.
        have hzero := ofDigits_natDigits (n / 10)
        rw [h] at hzero
        have : n / 10 = 0 := hzero.symm
        omega
      · exact ⟨c, cs ++ [Nat.digitChar (n % 10)], by rw [hstep, h, List.cons_append], hc⟩

end Text

namespace Json

theorem hexValue?_hexDigit (n : Nat) : hexValue? (.scalar (Text.hexDigit n)) = some (n % 16) := by
  have h : ∀ d < 16, hexValue? (.scalar (Nat.digitChar d)) = some d := by decide
  exact h (n % 16) (Nat.mod_lt n (by decide))

theorem hex4?_hexDigits {n : Nat} (h : n < 0x10000) (p : CodePoint) (rest : List CodePoint) :
    hex4? ((Text.hexDigits 4 n).map .scalar ++ p :: rest) = some (n, p :: rest) := by
  have hn : ((n / 16 / 16 / 16 % 16 * 16 + n / 16 / 16 % 16) * 16 + n / 16 % 16) * 16 + n % 16
      = n := by omega
  simp [Text.hexDigits, hex4?, hexValue?_hexDigit, hn]

section Units
variable (start : Nat) (p : CodePoint) (rest : List CodePoint)

/-- An escape stands for one character, unless it is the first of a pair. -/
theorem readUnit_unicodeEscape {n : Nat} (h : n < 0x10000) (hn : Text.isLeading n = false) :
    readUnit start ((unicodeEscape n).map .scalar ++ p :: rest) =
      .ok (some (.ofNat n), p :: rest) := by
  simp only [unicodeEscape, List.map_cons, List.cons_append, readUnit, hex4?_hexDigits h, hn]
  rfl

theorem readUnit_pair {n : Nat} (hl : 0x10000 ≤ n) (hn : n < 0x110000) :
    readUnit start ((unicodeEscape (Text.halves n).1 ++ unicodeEscape (Text.halves n).2).map .scalar
      ++ p :: rest) = .ok (some (.ofNat n), p :: rest) := by
  have h1 : (Text.halves n).1 < 0x10000 := by simp only [Text.halves]; omega
  have h2 : (Text.halves n).2 < 0x10000 := by simp only [Text.halves]; omega
  have hlen : ¬(List.map CodePoint.scalar (Text.hexDigits 4 (Text.halves n).2) ++
      p :: rest).length < 5 := by
    simp [Text.hexDigits]
  have hafter : afterLeading (Text.halves n).1
      ((unicodeEscape (Text.halves n).2).map .scalar ++ p :: rest) = .ok (.ofNat n, p :: rest) := by
    simp only [unicodeEscape, List.map_cons, List.cons_append, afterLeading, if_neg hlen,
      hex4?_hexDigits h2, Text.isTrailing_halves, Text.joinHalves_halves hl, if_true]
  rw [List.map_append, List.append_assoc]
  simp only [unicodeEscape, List.map_cons, List.cons_append] at hafter ⊢
  simp only [readUnit, hex4?_hexDigits h1, Text.isLeading_halves hn, hafter, if_true]

/-- A character that is written as it is. -/
theorem readUnit_plain {c : Char} (hq : c ≠ '"') (hs : c ≠ '\\') (hc : 0x20 ≤ c.toNat) :
    readUnit start (.scalar c :: rest) = .ok (some (.scalar c), rest) := by
  have hn : ¬(CodePoint.scalar c).toNat < 0x20 := Nat.not_lt.2 hc
  rw [readUnit.eq_def]
  split
  · next h => cases h
  · next h => cases h; exact absurd rfl hq
  · next h => cases h; exact absurd rfl hs
  · next h => cases h; exact absurd rfl hs
  · next h => cases h; exact absurd rfl hs
  · next h => cases h; exact if_neg hn

theorem readUnit_escapeScalar (c : Char) :
    readUnit start ((escapeScalar c).map .scalar ++ p :: rest) =
      .ok (some (.scalar c), p :: rest) := by
  unfold escapeScalar
  split
  · next h => subst h; rfl
  next hq =>
  split
  · next h => subst h; rfl
  next hs =>
  -- The others with an escape of two characters.
  iterate 5
    split
    · next h => subst h; rfl
  split
  · next h => exact readUnit_plain start (p :: rest) hq hs h.1
  next hplain =>
  rw [← Text.CodePoint.ofNat_toNat c]
  split
  · next h => exact readUnit_unicodeEscape start p rest h (Text.isLeading_toNat c)
  · next h => exact readUnit_pair start p rest (by omega) (by have := Text.toNat_cases c; omega)

end Units

theorem escapeScalar_ne_nil (c : Char) : escapeScalar c ≠ [] := by
  unfold escapeScalar
  iterate 9
    split
    · exact List.cons_ne_nil _ _
  exact List.cons_ne_nil _ _

theorem length_le_flatMap_escapeScalar (cs : List Char) :
    cs.length ≤ (cs.flatMap escapeScalar).length := by
  induction cs with
  | nil => exact Nat.le_refl 0
  | cons c cs ih =>
    have hc := List.length_pos_iff.2 (escapeScalar_ne_nil c)
    rw [List.flatMap_cons, List.length_append, List.length_cons]
    omega

theorem readUnits_flatMap (start : Nat) (cs : List Char) {fuel : Nat} (h : cs.length < fuel)
    (rest : List CodePoint) :
    readUnits start fuel ((cs.flatMap escapeScalar).map .scalar ++ .scalar '"' :: rest) =
      .ok (cs.map .scalar, rest) := by
  induction cs generalizing fuel with
  | nil =>
    obtain ⟨fuel, rfl⟩ := Nat.exists_eq_succ_of_ne_zero (Nat.ne_of_gt h)
    rfl
  | cons c cs ih =>
    obtain ⟨fuel, rfl⟩ := Nat.exists_eq_succ_of_ne_zero (Nat.ne_of_gt (Nat.zero_lt_of_lt h))
    obtain ⟨p, more, hmore⟩ : ∃ p more,
        (cs.flatMap escapeScalar).map CodePoint.scalar ++ .scalar '"' :: rest = p :: more :=
      List.exists_cons_of_ne_nil (by simp)
    have hrest := ih (Nat.lt_of_succ_lt_succ h)
    rw [hmore] at hrest
    rw [List.flatMap_cons, List.map_append, List.append_assoc, hmore, readUnits,
      readUnit_escapeScalar]
    simp only [hrest, List.map_cons]

theorem stringChars_codePoints (t : String) :
    stringChars (Text.codePoints t) = '"' :: t.toList.flatMap escapeScalar ++ ['"'] := by
  simp only [stringChars, Text.codePoints, List.flatMap_map]
  rfl

/-- A text in quotes, read behind the first of them. -/
theorem readString_written (t : String) (rest : List CodePoint) :
    readString ((t.toList.flatMap escapeScalar).map .scalar ++ .scalar '"' :: rest) =
      .ok (Text.codePoints t, rest) := by
  have hlen : t.toList.length <
      ((t.toList.flatMap escapeScalar).map CodePoint.scalar ++ .scalar '"' :: rest).length + 1 := by
    have := length_le_flatMap_escapeScalar t.toList
    simp only [List.length_append, List.length_map]
    omega
  exact readUnits_flatMap _ t.toList hlen rest

def blanks : List Char := [' ', '\t', '\n', '\r']

def endings : List CodePoint := (blanks ++ [',', ']', '\x7d']).map .scalar

/-- Nothing follows, or what ends a value. -/
def Ended (rest : List CodePoint) : Prop := ∀ p ∈ rest.head?, p ∈ endings

theorem takeWhile_digits {cs : List Char} (hcs : ∀ c ∈ cs, c.isDigit = true)
    {rest : List CodePoint} (h : Ended rest) :
    (cs.map CodePoint.scalar ++ rest).takeWhile isDigit = cs.map .scalar ∧
      (cs.map CodePoint.scalar ++ rest).dropWhile isDigit = rest := by
  have hall : ∀ p ∈ cs.map CodePoint.scalar, isDigit p = true := by
    intro p hp
    obtain ⟨c, hc, rfl⟩ := List.mem_map.1 hp
    exact hcs c hc
  have hrest : rest.takeWhile isDigit = [] ∧ rest.dropWhile isDigit = rest := by
    cases rest with
    | nil => exact ⟨rfl, rfl⟩
    | cons p rest =>
      have hends : ∀ p ∈ endings, isDigit p = false := by simp [endings, blanks, isDigit]
      simp [hends p (h p rfl)]
  rw [List.takeWhile_append_of_pos hall, List.dropWhile_append_of_pos hall, hrest.1, hrest.2,
    List.append_nil]
  exact ⟨rfl, rfl⟩

theorem readWhole_natDigits (n : Nat) {rest : List CodePoint} (h : Ended rest) :
    readWhole ((Text.natDigits n).map .scalar ++ rest) =
      ((Text.natDigits n).map .scalar, rest) := by
  obtain hn | ⟨c, cs, hn, hc⟩ := Text.natDigits_cases n
  · rw [hn]; rfl
  · obtain ⟨ht, hd⟩ := takeWhile_digits (fun _ => Text.isDigit_of_mem_natDigits (n := n)) h
    rw [readWhole.eq_def]
    split
    · next he =>
      rw [hn] at he
      cases he
      exact absurd rfl hc
    · rw [ht, hd]

theorem readFraction_ended {rest : List CodePoint} (h : Ended rest) :
    readFraction rest = ([], rest) ∧ readExponent rest = (none, rest) := by
  cases rest with
  | nil => exact ⟨rfl, rfl⟩
  | cons p rest =>
    have hp := h p rfl
    simp only [endings, blanks, List.cons_append, List.nil_append, List.map_cons, List.map_nil,
      List.mem_cons, List.not_mem_nil, or_false] at hp
    obtain rfl | rfl | rfl | rfl | rfl | rfl | rfl := hp <;> exact ⟨rfl, rfl⟩

theorem readNumber_natDigits {n : Nat} (hn : (Text.natDigits n).length ≤ Text.maxDigits)
    (start : List CodePoint) (negative : Bool) {rest : List CodePoint} (h : Ended rest) :
    readNumber start negative ((Text.natDigits n).map .scalar ++ rest) =
      .ok (.int (if negative then -(n : Int) else n), rest) := by
  have hlen : ¬Text.maxDigits < ((Text.natDigits n).map CodePoint.scalar).length := by
    rw [List.length_map]
    omega
  have hval : naturalOf ((Text.natDigits n).map .scalar) = n := by
    rw [naturalOf, List.map_map]
    exact Text.ofDigits_natDigits n
  obtain ⟨d, ds, hd, -⟩ := Text.natDigits_eq_cons n
  rw [readNumber, readWhole_natDigits n h]
  rw [hd, List.map_cons] at hlen hval ⊢
  simp only [readFraction_ended h, if_neg hlen, hval]

theorem readConstant_digit {c : Char} (h : c.isDigit = true) (s : List CodePoint) :
    readConstant (.scalar c :: s) = none ∧ readConstant (.scalar '-' :: .scalar c :: s) = none := by
  have hmarks : (['n', 't', 'f', 'N', 'I', '-'].all fun d => !d.isDigit) = true := by decide
  have hc : ∀ d ∈ ['n', 't', 'f', 'N', 'I', '-'], ¬d = c := by
    rintro d hd rfl
    have hd' := List.all_eq_true.1 hmarks d hd
    rw [h] at hd'
    cases hd'
  simp only [List.forall_mem_cons] at hc
  simp [readConstant, constants, word, Text.codePoints, hc]

section Scalar
variable {n : Nat} (hn : (Text.natDigits n).length ≤ Text.maxDigits) {rest : List CodePoint}
  (h : Ended rest)
include hn h

theorem readScalar_natDigits :
    readScalar ((Text.natDigits n).map .scalar ++ rest) = .ok (.int n, rest) := by
  have hnum := fun start => readNumber_natDigits hn start false h
  obtain ⟨d, ds, hd, hdigit⟩ := Text.natDigits_eq_cons n
  rw [hd, List.map_cons, List.cons_append] at hnum ⊢
  rw [readScalar.eq_def, (readConstant_digit hdigit _).1]
  dsimp only
  split
  · next he => cases he; cases hdigit
  · exact hnum _

theorem readScalar_minus :
    readScalar (.scalar '-' :: (Text.natDigits n).map .scalar ++ rest) =
      .ok (.int (-(n : Int)), rest) := by
  have hnum := fun start => readNumber_natDigits hn start true h
  obtain ⟨d, ds, hd, hdigit⟩ := Text.natDigits_eq_cons n
  rw [hd, List.map_cons, List.cons_append] at hnum
  rw [hd, List.map_cons, List.cons_append, List.cons_append, readScalar,
    (readConstant_digit hdigit _).2]
  exact hnum _

end Scalar

end Json

end LiveConfig
