import LiveConfig.Proofs.Document
import LiveConfig.Proofs.Layout
set_option autoImplicit false

/-!
A value is read back from its text, whatever may follow it and however the text is laid out, if
there are levels for it. The induction is on the value: the readers of elements and of members go on
from one to the next with fuel that the text bounds.
-/
namespace LiveConfig
open Text (CodePoint)

namespace Json

/-- A text is read as a value, whatever comes after it. -/
structure Spells (cs : List Char) (v : Json) : Prop where
  begins : ∃ c more, cs = c :: more ∧ isSpace (.scalar c) = false ∧ c ≠ ']'
  reads : ∀ fuel levels rest, cs.length ≤ fuel → v.depth ≤ levels → Ended rest →
    readValue fuel levels (cs.map .scalar ++ rest) = .ok (v, rest)

theorem skipSpace_blank {cs : List Char} (h : Blank cs) (s : List CodePoint) :
    skipSpace (cs.map .scalar ++ s) = skipSpace s := by
  have hspace : ∀ c ∈ blanks, isSpace (.scalar c) = true := by simp [blanks, isSpace]
  refine List.dropWhile_append_of_pos fun p hp => ?_
  obtain ⟨c, hc, rfl⟩ := List.mem_map.1 hp
  exact hspace c (h c hc)

theorem ended_mark (c : Char) (hc : c ∈ [',', ']', '\x7d']) (rest : List CodePoint) :
    Ended (.scalar c :: rest) := by
  have hmark : ∀ c ∈ [',', ']', '\x7d'], CodePoint.scalar c ∈ endings := by simp [endings, blanks]
  intro p hp
  cases hp
  exact hmark c hc

theorem ended_blank {cs : List Char} (h : Blank cs) {rest : List CodePoint} (hr : Ended rest) :
    Ended (cs.map .scalar ++ rest) := by
  have hblank : ∀ c ∈ blanks, CodePoint.scalar c ∈ endings := by simp [endings, blanks]
  cases cs with
  | nil => exact hr
  | cons c cs =>
    intro p hp
    cases hp
    exact hblank c (h c List.mem_cons_self)

namespace Spells
variable {cs : List Char} {v : Json}

theorem of_succ (hb : ∃ c more, cs = c :: more ∧ isSpace (.scalar c) = false ∧ c ≠ ']')
    (h : ∀ fuel levels rest, cs.length ≤ fuel + 1 → v.depth ≤ levels → Ended rest →
      readValue (fuel + 1) levels (cs.map .scalar ++ rest) = .ok (v, rest)) : Spells cs v := by
  refine ⟨hb, fun fuel levels rest hf hl hr => ?_⟩
  cases fuel with
  | zero =>
    obtain ⟨c, more, rfl, -⟩ := hb
    cases hf
  | succ fuel => exact h fuel levels rest hf hl hr

theorem skipSpace (h : Spells cs v) (rest : List CodePoint) :
    skipSpace (cs.map .scalar ++ rest) = cs.map .scalar ++ rest := by
  obtain ⟨c, more, rfl, hspace, -⟩ := h.begins
  exact List.dropWhile_cons_of_neg (Bool.eq_false_iff.1 hspace)

end Spells

section Steps
variable {fuel levels : Nat} {s t u w rest : List CodePoint} {v : Json} {key : List CodePoint}
  {given : List (List CodePoint × Json)}

theorem readElements_last (hv : readValue fuel levels s = .ok (v, t))
    (ht : skipSpace t = .scalar ']' :: rest) :
    readElements (fuel + 1) levels s = .ok ([v], rest) := by
  simp [readElements, hv, ht, bind, Except.bind, pure, Except.pure]

theorem readElements_more {vs : List Json} (hv : readValue fuel levels s = .ok (v, t))
    (ht : skipSpace t = .scalar ',' :: u)
    (hmore : readElements fuel levels (skipSpace u) = .ok (vs, rest)) :
    readElements (fuel + 1) levels s = .ok (v :: vs, rest) := by
  simp [readElements, hv, ht, hmore, bind, Except.bind, pure, Except.pure]

theorem readMembers_last (hk : readString s = .ok (key, t)) (ht : skipSpace t = .scalar ':' :: u)
    (hv : readValue fuel levels (skipSpace u) = .ok (v, w))
    (hw : skipSpace w = .scalar '\x7d' :: rest) :
    readMembers (fuel + 1) levels given (.scalar '"' :: s) = .ok (assign key v given, rest) := by
  simp [readMembers, hk, ht, hv, hw, bind, Except.bind, pure, Except.pure]

theorem readMembers_more (hk : readString s = .ok (key, t)) (ht : skipSpace t = .scalar ':' :: u)
    (hv : readValue fuel levels (skipSpace u) = .ok (v, w))
    (hw : skipSpace w = .scalar ',' :: rest) :
    readMembers (fuel + 1) levels given (.scalar '"' :: s) =
      readMembers fuel levels (assign key v given) (skipSpace rest) := by
  simp [readMembers, hk, ht, hv, hw, bind, Except.bind]

end Steps

section Lists
variable (sp : Spacing) {chars : Json → List Char}

theorem readElements_listed {v : Json} {vs : List Json} (h : ∀ w ∈ v :: vs, Spells (chars w) w)
    {levels : Nat} (hl : ∀ w ∈ v :: vs, w.depth ≤ levels) (fuel : Nat)
    (hf : (chars v ++ sp.listed chars vs).length < fuel) (rest : List CodePoint) :
    readElements fuel levels ((chars v).map .scalar ++ ((sp.listed chars vs).map .scalar ++
        (sp.closing.map .scalar ++ .scalar ']' :: rest))) = .ok (v :: vs, rest) := by
  induction vs generalizing v fuel with
  | nil =>
    cases fuel with
    | zero => cases hf
    | succ fuel =>
      simp only [Spacing.listed_nil, List.append_nil, List.map_nil, List.nil_append] at hf ⊢
      refine readElements_last ((h v List.mem_cons_self).reads fuel levels _
        (Nat.le_of_lt_succ hf) (hl v List.mem_cons_self)
        (ended_blank sp.closing_blank (ended_mark ']' (by decide) rest))) ?_
      rw [skipSpace_blank sp.closing_blank]
      rfl
  | cons w vs ih =>
    obtain ⟨hv, hvs⟩ := List.forall_mem_cons.1 h
    obtain ⟨hlv, hls⟩ := List.forall_mem_cons.1 hl
    rw [Spacing.listed_cons] at hf ⊢
    cases fuel with
    | zero => cases hf
    | succ fuel =>
      simp only [List.length_append, List.length_cons] at hf
      have hmore := ih hvs hls fuel (by simp only [List.length_append]; omega)
      simp only [List.map_append, List.map_cons, List.append_assoc, List.cons_append]
      -- The comma ends the first element, and the next begins behind the blanks.
      refine readElements_more
        (hv.reads fuel levels _ (by omega) hlv (ended_mark ',' (by decide) _)) rfl ?_
      rw [skipSpace_blank sp.gap_blank, (hvs w List.mem_cons_self).skipSpace]
      exact hmore

section Members
variable {m : List CodePoint × Json}

theorem new_of_nodup {given more : List (List CodePoint × Json)}
    (hd : ((given ++ m :: more).map Prod.fst).Nodup) : m.1 ∉ given.map Prod.fst := by
  rw [List.map_append] at hd
  exact fun h => (List.nodup_append.1 hd).2.2 _ h _ List.mem_cons_self rfl

theorem skipSpace_member (m : List CodePoint × Json) (rest : List CodePoint) :
    skipSpace ((memberChars chars m).map .scalar ++ rest) =
      (memberChars chars m).map .scalar ++ rest := rfl

/-- The text of a member begins with its key, and its value is what comes behind the colon. -/
theorem memberChars_reads (hk : ∃ k, m.1 = Text.codePoints k) (h : Spells (chars m.2) m.2)
    {fuel levels : Nat} (hf : (memberChars chars m).length ≤ fuel) (hl : m.2.depth ≤ levels)
    {rest : List CodePoint} (hr : Ended rest) : ∃ s t u,
      (memberChars chars m).map .scalar ++ rest = .scalar '"' :: s ∧
      readString s = .ok (m.1, t) ∧ skipSpace t = .scalar ':' :: u ∧
      readValue fuel levels (skipSpace u) = .ok (m.2, rest) := by
  obtain ⟨key, v⟩ := m
  obtain ⟨k, rfl⟩ : ∃ k, key = Text.codePoints k := hk
  have hlen : (chars v).length ≤ fuel := by
    simp only [memberChars, List.length_append, List.length_cons] at hf
    omega
  have hv := h.reads fuel levels rest hlen hl hr
  refine ⟨_, _, _, ?_, readString_written k (.scalar ':' :: .scalar ' ' ::
    ((chars v).map .scalar ++ rest)), rfl, ?_⟩
  · simp [memberChars, stringChars_codePoints]
  · rw [← hv]
    exact congrArg (readValue fuel levels)
      ((List.dropWhile_cons_of_pos rfl).trans (h.skipSpace rest))

theorem readMembers_listed {ms : List (List CodePoint × Json)}
    (hk : ∀ e ∈ m :: ms, ∃ k, e.1 = Text.codePoints k)
    (h : ∀ e ∈ m :: ms, Spells (chars e.2) e.2) {levels : Nat}
    (hl : ∀ e ∈ m :: ms, e.2.depth ≤ levels) (given : List (List CodePoint × Json))
    (hd : ((given ++ m :: ms).map Prod.fst).Nodup) (fuel : Nat)
    (hf : (memberChars chars m ++ sp.listed (memberChars chars) ms).length < fuel)
    (rest : List CodePoint) :
    readMembers fuel levels given ((memberChars chars m).map .scalar ++
        ((sp.listed (memberChars chars) ms).map .scalar ++
          (sp.closing.map .scalar ++ .scalar '\x7d' :: rest))) = .ok (given ++ m :: ms, rest) := by
  induction ms generalizing m given fuel with
  | nil =>
    cases fuel with
    | zero => cases hf
    | succ fuel =>
      simp only [Spacing.listed_nil, List.append_nil, List.map_nil, List.nil_append] at hf ⊢
      obtain ⟨s, t, u, hs, hkey, ht, hv⟩ := memberChars_reads (hk m List.mem_cons_self)
        (h m List.mem_cons_self) (Nat.le_of_lt_succ hf) (hl m List.mem_cons_self)
        (ended_blank sp.closing_blank (ended_mark '\x7d' (by decide) rest))
      rw [hs, ← assign_of_notMem (new_of_nodup hd)]
      refine readMembers_last hkey ht hv ?_
      rw [skipSpace_blank sp.closing_blank]
      rfl
  | cons e ms ih =>
    obtain ⟨hkm, hks⟩ := List.forall_mem_cons.1 hk
    obtain ⟨hm, hms⟩ := List.forall_mem_cons.1 h
    obtain ⟨hlm, hls⟩ := List.forall_mem_cons.1 hl
    rw [Spacing.listed_cons] at hf ⊢
    cases fuel with
    | zero => cases hf
    | succ fuel =>
      simp only [List.length_append, List.length_cons] at hf
      have hmore := ih hks hms hls (given ++ [m]) (by rwa [List.append_assoc]) fuel
        (by simp only [List.length_append]; omega)
      simp only [List.map_append, List.map_cons, List.append_assoc, List.cons_append]
      obtain ⟨s, t, u, hs, hkey, ht, hv⟩ := memberChars_reads hkm hm
        (show (memberChars chars m).length ≤ fuel by omega) hlm (ended_mark ',' (by decide) _)
      rw [hs, readMembers_more hkey ht hv rfl, skipSpace_blank sp.gap_blank, skipSpace_member,
        assign_of_notMem (new_of_nodup hd)]
      simpa using hmore

end Members

end Lists

section Value
variable {fuel levels : Nat} {s rest : List CodePoint}

theorem readValue_scalar {c : Char} (hq : c ≠ '"') (ho : c ≠ '\x7b') (ha : c ≠ '[') :
    readValue (fuel + 1) levels (.scalar c :: s) = readScalar (.scalar c :: s) := by
  rw [readValue.eq_def]
  dsimp only
  split
  · next h => cases h; exact absurd rfl hq
  · next h => cases h; exact absurd rfl ho
  · next h => cases h; exact absurd rfl ha
  · rfl

theorem readValue_elements {vs : List Json} (hne : ∀ t, skipSpace s ≠ .scalar ']' :: t)
    (h : readElements fuel levels (skipSpace s) = .ok (vs, rest)) :
    readValue (fuel + 1) (levels + 1) (.scalar '[' :: s) = .ok (.arr vs, rest) := by
  rw [readValue, descend_succ_bind]
  split
  · next t ht => exact absurd ht (hne t)
  · rw [h]; rfl

theorem readValue_members {members : List (List CodePoint × Json)}
    (h : readMembers fuel levels [] (skipSpace s) = .ok (members, rest)) :
    readValue (fuel + 1) (levels + 1) (.scalar '\x7b' :: s) = .ok (.obj members, rest) := by
  obtain ⟨t, ht⟩ := readMembers_opens h
  rw [readValue, descend_succ_bind]
  split
  · next he => cases ht.symm.trans he
  · rw [h]; rfl

end Value

namespace Spells

theorem null : Spells (compactChars .null) .null :=
  of_succ ⟨_, _, rfl, by decide, by decide⟩ fun _ _ _ _ _ _ => rfl

theorem bool (b : Bool) : Spells (compactChars (.bool b)) (.bool b) := by
  cases b <;> exact of_succ ⟨_, _, rfl, by decide, by decide⟩ fun _ _ _ _ _ _ => rfl

theorem natural {n : Nat} (short : (Text.natDigits n).length ≤ Text.maxDigits) :
    Spells (Text.natDigits n) (.int n) := by
  obtain ⟨d, ds, hd, hdigit⟩ := Text.natDigits_eq_cons n
  have hmark : ∀ c ∈ blanks ++ [']', '"', '\x7b', '['], d ≠ c := by
    have hnone : ∀ c ∈ blanks ++ [']', '"', '\x7b', '['], c.isDigit = false := by simp [blanks]
    rintro c hc rfl
    exact Bool.noConfusion (hdigit.symm.trans (hnone d hc))
  refine of_succ ⟨d, ds, hd, ?_, hmark _ (by decide)⟩ fun fuel levels rest _ _ hr => ?_
  · refine Bool.eq_false_iff.2 fun hspace => ?_
    simp only [isSpace, Bool.or_eq_true, decide_eq_true_eq] at hspace
    obtain ((h | h) | h) | h := hspace <;> exact hmark _ (by decide) h
  · have hread := readScalar_natDigits short hr
    rw [hd, List.map_cons, List.cons_append] at hread ⊢
    rw [readValue_scalar (hmark _ (by decide)) (hmark _ (by decide)) (hmark _ (by decide)), hread]

theorem int {z : Int} (short : (Text.natDigits z.natAbs).length ≤ Text.maxDigits) :
    Spells (compactChars (.int z)) (.int z) := by
  cases z with
  | ofNat n => exact natural short
  | negSucc n =>
    refine of_succ ⟨_, _, rfl, by decide, by decide⟩ fun fuel levels rest _ _ hr => ?_
    exact (readValue_scalar (by decide) (by decide) (by decide)).trans (readScalar_minus short hr)

theorem str (t : String) : Spells (stringChars (Text.codePoints t)) (.str (Text.codePoints t)) := by
  refine of_succ ⟨_, _, rfl, by decide, by decide⟩ fun fuel levels rest _ _ _ => ?_
  have ht := readString_written t rest
  rw [stringChars_codePoints]
  simp only [List.map_append, List.map_cons, List.map_nil, List.append_assoc, List.cons_append,
    List.nil_append]
  rw [readValue, ht]
  rfl

section Lists
variable (sp : Spacing) {chars : Json → List Char}

theorem arr {vs : List Json} (h : ∀ v ∈ vs, Spells (chars v) v) :
    Spells (sp.enclosed chars '[' ']' vs) (.arr vs) := by
  cases vs with
  | nil =>
    refine of_succ ⟨_, _, rfl, by decide, by decide⟩ fun fuel levels rest _ hl _ => ?_
    obtain ⟨levels, rfl, -⟩ := depth_arr_le hl
    rfl
  | cons v vs =>
    refine of_succ ⟨_, _, rfl, by decide, by decide⟩ fun fuel levels rest hf hl _ => ?_
    obtain ⟨levels, rfl, hls⟩ := depth_arr_le hl
    simp only [Spacing.enclosed, List.length_append, List.length_cons, List.length_nil] at hf
    have hv := h v List.mem_cons_self
    have hmore := readElements_listed sp h hls fuel (by simp only [List.length_append]; omega) rest
    have hskip := (skipSpace_blank sp.opening_blank _).trans (hv.skipSpace
      ((sp.listed chars vs).map .scalar ++ (sp.closing.map .scalar ++ .scalar ']' :: rest)))
    simp only [Spacing.enclosed, List.map_append, List.map_cons, List.map_nil, List.append_assoc,
      List.cons_append, List.nil_append]
    refine readValue_elements (fun t ht => ?_) ?_
    · -- The list would be empty if its first element began with a bracket.
      obtain ⟨c, cs, hc, -, hne⟩ := hv.begins
      rw [hskip, hc] at ht
      cases ht
      exact hne rfl
    · rw [hskip]
      exact hmore

theorem obj {ms : List (List CodePoint × Json)} (hd : (ms.map Prod.fst).Nodup)
    (hk : ∀ m ∈ ms, ∃ k, m.1 = Text.codePoints k) (h : ∀ m ∈ ms, Spells (chars m.2) m.2) :
    Spells (sp.enclosed (memberChars chars) '\x7b' '\x7d' ms) (.obj ms) := by
  cases ms with
  | nil =>
    refine of_succ ⟨_, _, rfl, by decide, by decide⟩ fun fuel levels rest _ hl _ => ?_
    obtain ⟨levels, rfl, -⟩ := depth_obj_le hl
    rfl
  | cons m ms =>
    refine of_succ ⟨_, _, rfl, by decide, by decide⟩ fun fuel levels rest hf hl _ => ?_
    obtain ⟨levels, rfl, hls⟩ := depth_obj_le hl
    simp only [Spacing.enclosed, List.length_append, List.length_cons, List.length_nil] at hf
    have hmore := readMembers_listed sp hk h hls [] hd fuel
      (by simp only [List.length_append]; omega) rest
    simp only [Spacing.enclosed, List.map_append, List.map_cons, List.map_nil, List.append_assoc,
      List.cons_append, List.nil_append]
    refine readValue_members ?_
    rw [skipSpace_blank sp.opening_blank, skipSpace_member]
    exact hmore

end Lists

end Spells

/-- Whatever the layout is, a value is read from its text. -/
theorem Printer.spells (p : Printer) {v : Json} (h : Storable v) (depth : Nat) :
    Spells (p.chars depth v) v := by
  induction h generalizing depth with
  | null => exact p.plain depth .null nofun nofun ▸ .null
  | bool b => exact p.plain depth (.bool b) nofun nofun ▸ .bool b
  | @int z short => exact p.plain depth (.int z) nofun nofun ▸ .int short
  | str t => exact p.plain depth (.str _) nofun nofun ▸ .str t
  | arr _ ih =>
    rw [p.arr]
    exact .arr _ fun v hv => ih v hv (depth + 1)
  | obj distinct keys _ ih =>
    rw [p.obj]
    exact .obj _ distinct keys fun m hm => ih m hm (depth + 1)

/-- Blanks behind a value are no part of it. -/
theorem Spells.document {cs : List Char} {v : Json} (h : Spells cs v) {levels : Nat}
    (hl : v.depth ≤ levels) {after : List Char} (ha : Blank after) :
    ofCodePoints levels ((cs ++ after).map .scalar) = .ok v := by
  have hread := h.reads (2 * ((cs ++ after).map CodePoint.scalar).length + 2) levels
    (after.map .scalar ++ []) (by simp only [List.length_map, List.length_append]; omega) hl
    (ended_blank ha (by simp [Ended]))
  have hrest : Json.skipSpace (after.map .scalar ++ []) = [] := skipSpace_blank ha []
  rw [← h.skipSpace, List.append_nil, ← List.map_append] at hread
  rw [List.append_nil] at hrest
  have hdocument : readDocument levels ((cs ++ after).map .scalar) = .ok v := by
    rw [readDocument, hread]
    simp [hrest, bind, Except.bind, pure, Except.pure]
  rw [ofCodePoints, hdocument]

theorem ofCodePoints_written {v : Json} (h : Storable v) {levels : Nat}
    (hl : v.depth ≤ levels) : ofCodePoints levels ((compactChars v).map .scalar) = .ok v := by
  have hnone : Blank [] := by decide
  have hread := (onOneLine.spells h 0).document hl hnone
  rwa [List.append_nil] at hread

end Json

end LiveConfig
