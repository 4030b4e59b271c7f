import LiveConfig.Proofs.Extension
import LiveConfig.Proofs.Spelling
import Mathlib.Data.List.Pairwise
import Mathlib.Data.Nat.Digits.Defs
set_option autoImplicit false

/-!
Which integer a text denotes. The spellings of an integer are given as a grammar, without a reader;
the reader that first takes the blanks away gives an integer just for the texts that denote it, and
so a text denotes one integer at most. Every decimal text denotes its number, whatever blanks are
around it.
-/
namespace LiveConfig.Text

def Digit (c : Char) (d : Nat) : Prop := ∃ base ∈ digitZeros, c.toNat = base + d ∧ d < 10

/-- The scripts keep their digits apart. -/
theorem digitZeros_apart {y z : Nat} (hy : y ∈ digitZeros) (hz : z ∈ digitZeros) :
    y = z ∨ y + 10 ≤ z ∨ z + 10 ≤ y := by
  have hsorted : digitZeros.Pairwise (· + 10 ≤ ·) := by decide
  refine List.Pairwise.forall_of_forall_of_flip (R := fun y z => y = z ∨ y + 10 ≤ z ∨ z + 10 ≤ y)
    (fun _ _ => .inl rfl) (hsorted.imp fun h => ?_) (hsorted.imp fun h => ?_) hy hz
  · exact .inr (.inl h)
  · exact .inr (.inr h)

theorem digit?_eq_some_iff {c : Char} {d : Nat} : digit? c = some d ↔ Digit c d := by
  rw [digit?, Option.map_eq_some_iff]
  constructor
  · rintro ⟨base, hfind, rfl⟩
    have hmem := List.mem_of_find?_eq_some hfind
    have hin := List.find?_some hfind
    simp only [Bool.and_eq_true, decide_eq_true_eq] at hin
    exact ⟨base, hmem, by omega, by omega⟩
  · rintro ⟨base, hmem, hc, hd⟩
    have hsome : (digitZeros.find? fun z => z ≤ c.toNat && c.toNat < z + 10).isSome := by
      rw [List.find?_isSome]
      refine ⟨base, hmem, ?_⟩
      simp only [Bool.and_eq_true, decide_eq_true_eq]
      omega
    obtain ⟨found, hfind⟩ := Option.isSome_iff_exists.1 hsome
    have hfound := List.find?_some hfind
    simp only [Bool.and_eq_true, decide_eq_true_eq] at hfound
    have hsame := digitZeros_apart (List.mem_of_find?_eq_some hfind) hmem
    exact ⟨found, hfind, by omega⟩

/-- No script has a digit that is a blank. -/
theorem Digit.not_blank {c : Char} {d : Nat} (h : Digit c d) : isBlank c = false := by
  obtain ⟨base, hmem, hc, hd⟩ := h
  have hapart : ∀ z ∈ digitZeros, ∀ r ∈ blankRanges, z + 10 ≤ r.1 ∨ r.2 < z := by decide
  rw [isBlank, Ranges.holds, List.any_eq_false]
  intro r hr
  have := hapart base hmem r hr
  simp only [Bool.and_eq_true, decide_eq_true_eq]
  omega

def digitCount (cs : List Char) : Nat := cs.countP fun c => (digit? c).isSome

theorem digitCount_append (xs ys : List Char) :
    digitCount (xs ++ ys) = digitCount xs + digitCount ys := List.countP_append

theorem digitCount_cons_of_digit {c : Char} {d : Nat} (h : Digit c d) (cs : List Char) :
    digitCount (c :: cs) = digitCount cs + 1 :=
  List.countP_cons_of_pos (by rw [digit?_eq_some_iff.2 h]; rfl)

theorem digitCount_cons_of_none {c : Char} (h : digit? c = none) (cs : List Char) :
    digitCount (c :: cs) = digitCount cs :=
  List.countP_cons_of_neg (by rw [h]; decide)

theorem digitCount_of_blank {cs : List Char} (h : ∀ c ∈ cs, isBlank c = true) :
    digitCount cs = 0 := by
  rw [digitCount, List.countP_eq_zero]
  intro c hc hsome
  obtain ⟨d, hd⟩ := Option.isSome_iff_exists.1 hsome
  exact Bool.eq_false_iff.1 (digit?_eq_some_iff.1 hd).not_blank (h c hc)

/-- Digits of which two neighbours may have one underscore between them. -/
inductive Numeral : List Char → List Nat → Prop
  | last {c : Char} {d : Nat} : Digit c d → Numeral [c] [d]
  | next {c : Char} {d : Nat} {cs : List Char} {ds : List Nat} :
    Digit c d → Numeral cs ds → Numeral (c :: cs) (d :: ds)
  | spaced {c : Char} {d : Nat} {cs : List Char} {ds : List Nat} :
    Digit c d → Numeral cs ds → Numeral (c :: '_' :: cs) (d :: ds)

/-- The characters of a numeral are its digits, and underscores. -/
theorem Numeral.digitCount_eq {cs : List Char} {ds : List Nat} (h : Numeral cs ds) :
    digitCount cs = ds.length := by
  induction h with
  | last hd => exact digitCount_cons_of_digit hd []
  | next hd _ ih => rw [digitCount_cons_of_digit hd, ih, List.length_cons]
  | spaced hd _ ih =>
    rw [digitCount_cons_of_digit hd, digitCount_cons_of_none (by decide), ih, List.length_cons]

theorem digits?_cons_eq_some {c : Char} {cs : List Char} {all : List Nat} :
    digits? (c :: cs) = some all ↔
      ∃ d ds, digit? c = some d ∧ moreDigits cs = some ds ∧ all = d :: ds := by
  simp only [digits?, Option.bind_eq_bind, Option.bind_eq_some_iff, Option.pure_def,
    Option.some.injEq]
  constructor
  · rintro ⟨d, hd, ds, hds, rfl⟩
    exact ⟨d, ds, hd, hds, rfl⟩
  · rintro ⟨d, ds, hd, hds, rfl⟩
    exact ⟨d, hd, ds, hds, rfl⟩

theorem moreDigits_underscore (cs : List Char) : moreDigits ('_' :: cs) = digits? cs := by
  cases cs <;> rfl

/-- A numeral may stand after a digit. -/
theorem moreDigits_of_digits? {cs : List Char} {ds : List Nat} (h : digits? cs = some ds) :
    moreDigits cs = some ds := by
  cases cs with
  | nil => cases h
  | cons c cs =>
    have hne : c ≠ '_' := by
      rintro rfl
      obtain ⟨d, -, hd, -⟩ := digits?_cons_eq_some.1 h
      cases hd
    rw [← h]
    cases cs with
    | nil => simp [moreDigits, digits?]
    | cons c' cs => simp [moreDigits, digits?, hne]

/-- What has been read after a digit is a numeral together with it. -/
theorem numeral_of_moreDigits {cs : List Char} {ds : List Nat} (h : moreDigits cs = some ds)
    {c : Char} {d : Nat} (hd : Digit c d) : Numeral (c :: cs) (d :: ds) := by
  -- The digit before is general, since the next one takes its place.
  fun_induction moreDigits cs generalizing c d ds with
  | case1 =>
    cases h
    exact .last hd
  | case2 c' rest ih =>
    obtain ⟨d', ds', hd', hds', rfl⟩ := digits?_cons_eq_some.1 h
    exact .spaced hd (ih hds' (digit?_eq_some_iff.1 hd'))
  | case3 c' rest _ ih =>
    obtain ⟨d', ds', hd', hds', rfl⟩ := digits?_cons_eq_some.1 h
    exact .next hd (ih hds' (digit?_eq_some_iff.1 hd'))

theorem digits?_eq_some_iff {cs : List Char} {ds : List Nat} :
    digits? cs = some ds ↔ Numeral cs ds := by
  constructor
  · intro h
    cases cs with
    | nil => cases h
    | cons c cs =>
      obtain ⟨d, ds, hd, hds, rfl⟩ := digits?_cons_eq_some.1 h
      exact numeral_of_moreDigits hds (digit?_eq_some_iff.1 hd)
  · intro h
    induction h with
    | last hd => exact digits?_cons_eq_some.2 ⟨_, _, digit?_eq_some_iff.2 hd, rfl, rfl⟩
    | next hd _ ih =>
      exact digits?_cons_eq_some.2
        ⟨_, _, digit?_eq_some_iff.2 hd, moreDigits_of_digits? ih, rfl⟩
    | spaced hd _ ih =>
      exact digits?_cons_eq_some.2
        ⟨_, _, digit?_eq_some_iff.2 hd, (moreDigits_underscore _).trans ih, rfl⟩

/-- A numeral of no more than 4300 digits, and its value. -/
def Natural (cs : List Char) (n : Nat) : Prop :=
  ∃ ds, Numeral cs ds ∧ ds.length ≤ 4300 ∧ n = Nat.ofDigits 10 ds.reverse

theorem ofDigits_eq (ds : List Nat) : ofDigits ds = Nat.ofDigits 10 ds.reverse := by
  rw [ofDigits, List.foldl_eq_foldr_reverse, Nat.ofDigits_eq_foldr]
  simp only [Nat.cast_id, Nat.add_comm]

theorem natural?_eq_some_iff {cs : List Char} {n : Nat} : natural? cs = some n ↔ Natural cs n := by
  rw [natural?, Option.bind_eq_bind, Option.bind_eq_some_iff]
  refine exists_congr fun ds => ?_
  rw [digits?_eq_some_iff, Option.ite_none_right_eq_some, Option.some.injEq, ofDigits_eq,
    maxDigits, eq_comm (a := n)]

inductive Signed : List Char → Int → Prop
  | bare {cs : List Char} {n : Nat} : Natural cs n → Signed cs n
  | plus {cs : List Char} {n : Nat} : Natural cs n → Signed ('+' :: cs) n
  | minus {cs : List Char} {n : Nat} : Natural cs n → Signed ('-' :: cs) (-n)

theorem Natural.digitCount_le {cs : List Char} {n : Nat} (h : Natural cs n) :
    digitCount cs ≤ 4300 := by
  obtain ⟨ds, hnum, hlength, -⟩ := h
  rwa [hnum.digitCount_eq]

theorem Natural.exists_head {cs : List Char} {n : Nat} (h : Natural cs n) :
    ∃ c rest d, cs = c :: rest ∧ Digit c d := by
  obtain ⟨ds, hnum, -, -⟩ := h
  cases hnum with
  | last hd | next hd _ | spaced hd _ => exact ⟨_, _, _, rfl, hd⟩

theorem signed?_eq_some_iff {cs : List Char} {z : Int} : signed? cs = some z ↔ Signed cs z := by
  constructor
  · intro h
    unfold signed? at h
    split at h
    · obtain ⟨n, hn, rfl⟩ := Option.map_eq_some_iff.1 h
      exact .plus (natural?_eq_some_iff.1 hn)
    · obtain ⟨n, hn, rfl⟩ := Option.map_eq_some_iff.1 h
      exact .minus (natural?_eq_some_iff.1 hn)
    · obtain ⟨n, hn, rfl⟩ := Option.map_eq_some_iff.1 h
      exact .bare (natural?_eq_some_iff.1 hn)
  · intro h
    cases h with
    | bare hn =>
      obtain ⟨c, rest, d, rfl, hd⟩ := hn.exists_head
      unfold signed?
      split
      · next he => cases he; cases digit?_eq_some_iff.2 hd
      · next he => cases he; cases digit?_eq_some_iff.2 hd
      · rw [natural?_eq_some_iff.2 hn]; rfl
    | plus hn | minus hn => rw [signed?, natural?_eq_some_iff.2 hn]; rfl

/-- What begins and ends outside a class is left when the class is taken away around it. -/
theorem trimBy_padded {p : Char → Bool} {before body after : List Char}
    (hbefore : ∀ c ∈ before, p c = true) (hafter : ∀ c ∈ after, p c = true)
    (hne : body ≠ []) (hhead : p (body.head hne) = false) (hlast : p (body.getLast hne) = false) :
    trimBy p (before ++ body ++ after) = body := by
  have hstart : (before ++ body ++ after).dropWhile p = body ++ after := by
    rw [List.append_assoc, List.dropWhile_append_of_pos hbefore]
    cases body with
    | nil => exact absurd rfl hne
    | cons c body => exact List.dropWhile_cons_of_neg (by simpa using hhead)
  have hend : (body ++ after).reverse.dropWhile p = body.reverse := by
    rw [List.reverse_append, List.dropWhile_append_of_pos (by simpa using hafter)]
    have hr := List.dropWhile_cons_of_neg (l := body.dropLast.reverse) (Bool.eq_false_iff.1 hlast)
    rwa [← List.reverse_concat, List.dropLast_concat_getLast] at hr
  rw [trimBy, hstart, hend, List.reverse_reverse]

/-- What is taken away stood before and after what is left. -/
theorem exists_trimBy (p : Char → Bool) (cs : List Char) : ∃ before after,
    cs = before ++ trimBy p cs ++ after ∧ (∀ c ∈ before, p c = true) ∧
      ∀ c ∈ after, p c = true := by
  refine ⟨cs.takeWhile p, ((cs.dropWhile p).reverse.takeWhile p).reverse, ?_, ?_, ?_⟩
  · rw [List.append_assoc, trimBy, ← List.reverse_append, List.takeWhile_append_dropWhile,
      List.reverse_reverse, List.takeWhile_append_dropWhile]
  · exact List.all_eq_true.1 List.all_takeWhile
  · intro c hc
    exact List.all_eq_true.1 List.all_takeWhile c (List.mem_reverse.1 hc)

theorem Numeral.exists_getLast {cs : List Char} {ds : List Nat} (h : Numeral cs ds) :
    ∃ hne d, Digit (cs.getLast hne) d := by
  induction h with
  | last hd => exact ⟨List.cons_ne_nil _ _, _, hd⟩
  | next _ _ ih =>
    obtain ⟨hne, d, hd⟩ := ih
    exact ⟨List.cons_ne_nil _ _, d, by rwa [List.getLast_cons hne]⟩
  | spaced _ _ ih =>
    obtain ⟨hne, d, hd⟩ := ih
    exact ⟨List.cons_ne_nil _ _, d, by rwa [List.getLast_cons (List.cons_ne_nil _ _),
      List.getLast_cons hne]⟩

theorem Natural.exists_getLast {cs : List Char} {n : Nat} (h : Natural cs n) :
    ∃ hne d, Digit (cs.getLast hne) d := by
  obtain ⟨ds, hnum, -, -⟩ := h
  exact hnum.exists_getLast

/-- A number neither begins nor ends with a blank. -/
theorem Signed.ends {cs : List Char} {z : Int} (h : Signed cs z) :
    ∃ hne, isBlank (cs.head hne) = false ∧ isBlank (cs.getLast hne) = false := by
  cases h with
  | bare hn =>
    obtain ⟨hne, d, hd⟩ := hn.exists_getLast
    obtain ⟨c, rest, d', rfl, hd'⟩ := hn.exists_head
    exact ⟨hne, hd'.not_blank, hd.not_blank⟩
  | plus hn | minus hn =>
    obtain ⟨hne, d, hd⟩ := hn.exists_getLast
    have hlast := hd.not_blank
    exact ⟨List.cons_ne_nil _ _, by rfl, by rwa [List.getLast_cons hne]⟩

theorem isBlank_of_isMargin {c : Char} (h : isMargin c = true) : isBlank c = true := by
  rw [isMargin, Bool.and_eq_true] at h
  exact h.1

theorem isMargin_of_not_isBlank {c : Char} (h : isBlank c = false) : isMargin c = false :=
  Bool.eq_false_iff.2 fun hc => Bool.eq_false_iff.1 h (isBlank_of_isMargin hc)

/-- Taking blanks and then margins away takes nothing but blanks away. -/
theorem exists_padding (cs : List Char) : ∃ before after,
    cs = before ++ trimBy isMargin (trim cs) ++ after ∧
      ∀ c ∈ before ++ after, isBlank c = true := by
  obtain ⟨before, after, houter, hbefore, hafter⟩ := exists_trimBy isBlank cs
  obtain ⟨left, right, hinner, hleft, hright⟩ := exists_trimBy isMargin (trim cs)
  refine ⟨before ++ left, right ++ after, ?_, fun c hc => ?_⟩
  · calc
      cs = before ++ trim cs ++ after := houter
      _ = before ++ (left ++ trimBy isMargin (trim cs) ++ right) ++ after := by rw [← hinner]
      _ = _ := by simp only [List.append_assoc]
  · simp only [List.mem_append] at hc
    obtain (hc | hc) | hc | hc := hc
    · exact hbefore c hc
    · exact isBlank_of_isMargin (hleft c hc)
    · exact isBlank_of_isMargin (hright c hc)
    · exact hafter c hc

/-- Of a number with blanks around the number is left. -/
theorem trim_padded {before body after : List Char} {z : Int} (h : Signed body z)
    (hpad : ∀ c ∈ before ++ after, isBlank c = true) :
    trimBy isMargin (trim (before ++ body ++ after)) = body := by
  obtain ⟨hne, hhead, hlast⟩ := h.ends
  have houter : trim (before ++ body ++ after) = body :=
    trimBy_padded (fun c hc => hpad c (List.mem_append_left _ hc))
      (fun c hc => hpad c (List.mem_append_right _ hc)) hne hhead hlast
  have hinner : trimBy isMargin ([] ++ body ++ []) = body :=
    trimBy_padded (by simp) (by simp) hne (isMargin_of_not_isBlank hhead)
      (isMargin_of_not_isBlank hlast)
  rw [List.nil_append, List.append_nil] at hinner
  rw [houter, hinner]

/-- A text denotes an integer that is spelled in it with nothing but blanks around. -/
def Denotes (text : String) (z : Int) : Prop :=
  ∃ before body after, text.toList = before ++ body ++ after ∧
    (∀ c ∈ before ++ after, isBlank c = true) ∧ Signed body z

/-- The reader gives just the integer that is denoted. -/
theorem readTrimmedInteger_eq_some_iff {text : String} {z : Int} :
    readTrimmedInteger text = some z ↔ Denotes text z := by
  rw [readTrimmedInteger, signed?_eq_some_iff]
  constructor
  · intro h
    obtain ⟨before, after, htext, hpad⟩ := exists_padding text.toList
    exact ⟨before, _, after, htext, hpad, h⟩
  · rintro ⟨before, body, after, htext, hpad, h⟩
    rwa [htext, trim_padded h hpad]

/-- No text with more than 4300 digits denotes an integer. -/
theorem Denotes.digitCount_le {text : String} {z : Int} (h : Denotes text z) :
    digitCount text.toList ≤ 4300 := by
  obtain ⟨before, body, after, htext, hpad, hsigned⟩ := h
  have hbody : digitCount body ≤ 4300 := by
    cases hsigned with
    | bare hn => exact hn.digitCount_le
    | plus hn | minus hn =>
      rw [digitCount_cons_of_none (by decide)]
      exact hn.digitCount_le
  rw [htext, digitCount_append, digitCount_append,
    digitCount_of_blank fun c hc => hpad c (List.mem_append_left _ hc),
    digitCount_of_blank fun c hc => hpad c (List.mem_append_right _ hc)]
  omega

theorem Denotes.unique {text : String} {y z : Int} (hy : Denotes text y) (hz : Denotes text z) :
    y = z := by
  have h := (readTrimmedInteger_eq_some_iff.2 hy).symm.trans (readTrimmedInteger_eq_some_iff.2 hz)
  exact Option.some.inj h

theorem Denotes.ne_empty {text : String} {z : Int} (h : Denotes text z) : text ≠ "" := by
  rintro rfl
  cases readTrimmedInteger_eq_some_iff.2 h

theorem readTrimmedInteger_eq_none_iff {text : String} :
    readTrimmedInteger text = none ↔ ∀ z, ¬Denotes text z := by
  rw [Option.eq_none_iff_forall_ne_some]
  exact forall_congr' fun z => not_congr readTrimmedInteger_eq_some_iff

theorem numeral_of_isDigit {cs : List Char} (hne : cs ≠ []) (h : ∀ c ∈ cs, c.isDigit = true) :
    Numeral cs (cs.map fun c => c.toNat - 48) := by
  rw [← digits?_eq_some_iff]
  cases cs with
  | nil => exact absurd rfl hne
  | cons c cs =>
    rw [digits?_cons_eq_some]
    exact ⟨_, _, digit?_of_isDigit (h c List.mem_cons_self),
      moreDigits_of_isDigit fun d hd => h d (List.mem_cons_of_mem c hd), rfl⟩

theorem natural_natDigits {n : Nat} (h : (natDigits n).length ≤ 4300) :
    Natural (natDigits n) n := by
  refine ⟨_, numeral_of_isDigit Nat.toDigits_ne_nil fun c => isDigit_of_mem_natDigits, ?_, ?_⟩
  · rwa [List.length_map]
  · rw [← ofDigits_eq, ofDigits_natDigits]

/-- The decimal text of a number denotes it, whatever blanks are around. -/
theorem denotes_padded {before after : String} {n : Nat}
    (hpad : ∀ c ∈ before.toList ++ after.toList, isBlank c = true)
    (hlength : (toString n).length ≤ 4300) : Denotes (before ++ toString n ++ after) n := by
  rw [Nat.toString_eq_ofList_toDigits] at hlength ⊢
  refine ⟨before.toList, natDigits n, after.toList, ?_, hpad, .bare (natural_natDigits ?_)⟩
  · rw [String.toList_append, String.toList_append, String.toList_ofList, natDigits]
  · rwa [String.length_ofList] at hlength

end LiveConfig.Text
