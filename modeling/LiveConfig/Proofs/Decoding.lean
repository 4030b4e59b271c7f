import LiveConfig.Proofs.Document
import LiveConfig.Proofs.Extension
import LiveConfig.Proofs.Spelling
set_option autoImplicit false

/-!
What decoding a payload comes to. Whatever the bytes or the text, there is a snapshot or a fault of
the store, but for two things that are passed on as they are: an integer with too many digits, and
values that are nested too deeply.
-/
namespace LiveConfig
open Text (CodePoint)

namespace Json

def Overlong (n : Nat) (s : List CodePoint) : Prop :=
  Text.maxDigits < n ∧ ∃ digits, digits <:+: s ∧ digits.length = n ∧ ∀ d ∈ digits, isDigit d = true

theorem Overlong.mono {n : Nat} {s t : List CodePoint} (h : Overlong n t) (ht : t <:+ s) :
    Overlong n s := by
  obtain ⟨hn, digits, hd, hl, hall⟩ := h
  exact ⟨hn, digits, hd.trans ht.isInfix, hl, hall⟩

def opens (p : CodePoint) : Bool := p = .scalar '[' || p = .scalar '\x7b'

/-- What a reader may make of a text: it leaves an end of it. When a number is too long for it, the
number stands there, and when there are too few levels, there are more opening brackets. -/
inductive Reads {α : Type} (levels : Nat) (s : List CodePoint) : Read α → Prop where
  | leaves (v : α) {rest : List CodePoint} (left : rest <:+ s) : Reads levels s (.ok (v, rest))
  | malformed (problem : Problem) (left : Nat) : Reads levels s (.error (.malformed problem left))
  | overlong {n : Nat} (found : Overlong n s) : Reads levels s (.error (.tooManyDigits n))
  | deep (work : Work) (more : levels < s.countP opens) : Reads levels s (.error (.tooDeep work))

namespace Reads
variable {α β : Type} {levels : Nat} {s t : List CodePoint}

theorem mono {r : Read α} (h : Reads levels t r) (ht : t <:+ s) : Reads levels s r := by
  cases h with
  | leaves v left => exact .leaves v (left.trans ht)
  | malformed problem left => exact .malformed problem left
  | overlong found => exact .overlong (found.mono ht)
  | deep work more => exact .deep work (Nat.lt_of_lt_of_le more ht.sublist.countP_le)

/-- Behind an opening bracket there is one level less, and one bracket less. -/
theorem inside {r : Read α} (h : Reads levels t r) {p : CodePoint} (hp : opens p = true)
    (ht : t <:+ s) : Reads (levels + 1) (p :: s) r := by
  have hs := h.mono ht
  cases hs with
  | leaves v left => exact .leaves v (left.trans (List.suffix_cons p s))
  | malformed problem left => exact .malformed problem left
  | overlong found => exact .overlong (found.mono (List.suffix_cons p s))
  | deep work more =>
    refine .deep work ?_
    rw [List.countP_cons_of_pos hp]
    exact Nat.succ_lt_succ more

theorem bind {r : Except Stop (α × List CodePoint)} (h : Reads levels s r)
    {f : α × List CodePoint → Except Stop (β × List CodePoint)}
    (hf : ∀ v rest, rest <:+ s → Reads levels s (f (v, rest))) :
    Reads levels s (@Bind.bind (Except Stop) _ _ _ r f) := by
  cases h with
  | leaves v left => exact hf v _ left
  | malformed problem left => exact .malformed problem left
  | overlong found => exact .overlong found
  | deep work more => exact .deep work more

theorem left {v : α} {rest : List CodePoint} (h : Reads levels s (.ok (v, rest))) :
    rest <:+ s := by
  cases h with
  | leaves _ left => exact left

theorem error {e : Stop} (h : Reads levels s (.error e : Read α)) :
    Reads levels s (.error e : Read β) := by
  cases h with
  | malformed problem left => exact .malformed problem left
  | overlong found => exact .overlong found
  | deep work more => exact .deep work more

theorem stop (problem : Problem) (rest : List CodePoint) :
    Reads levels s (Json.stop problem rest : Read α) := .malformed problem rest.length

end Reads

theorem skipSpace_suffix (s : List CodePoint) : skipSpace s <:+ s := List.dropWhile_suffix _

theorem suffix_of_skipSpace {s rest t : List CodePoint} {c : CodePoint}
    (h : skipSpace rest = c :: t) (hr : rest <:+ s) : t <:+ s :=
  ((List.suffix_cons c t).trans (h ▸ skipSpace_suffix rest)).trans hr

section Scalar
variable {levels : Nat}

theorem hex4?_suffix {s rest : List CodePoint} {n : Nat} (h : hex4? s = some (n, rest)) :
    rest <:+ s := by
  unfold hex4? at h
  split at h
  · next a b c d e more =>
    simp only [Option.bind_eq_bind, Option.bind_eq_some_iff, Option.pure_def, Option.some.injEq,
      Prod.mk.injEq] at h
    obtain ⟨_, -, _, -, _, -, _, -, -, rfl⟩ := h
    exact ⟨[a, b, c, d], rfl⟩
  · cases h

theorem afterLeading_reads (leading : Nat) (s : List CodePoint) :
    Reads levels s (afterLeading leading s) := by
  unfold afterLeading
  split
  · next more =>
    split
    · exact .leaves _ (List.suffix_refl _)
    · split
      · exact .stop _ _
      · next n rest hx =>
        split
        · exact .leaves _ ((hex4?_suffix hx).trans (List.suffix_append [_, _] more))
        · exact .leaves _ (List.suffix_refl _)
  · exact .leaves _ (List.suffix_refl _)

theorem readUnit_reads (start : Nat) (s : List CodePoint) : Reads levels s (readUnit start s) := by
  unfold readUnit
  split
  · exact .malformed _ _
  · exact .leaves _ (List.suffix_cons _ _)
  · exact .malformed _ _
  · next rest =>
    split
    · exact .stop _ _
    · next n more hx =>
      have hs := (hex4?_suffix hx).trans (List.suffix_append [.scalar '\\', .scalar 'u'] rest)
      split
      · have ha : Reads levels _ (afterLeading n more) := (afterLeading_reads n more).mono hs
        split
        · next c left h => exact .leaves _ (h ▸ ha).left
        · next e h => exact (h ▸ ha).error
      · exact .leaves _ hs
  · next c rest _ =>
    split
    · exact .leaves _ (List.suffix_append [_, c] rest)
    · exact .stop _ _
  · next c rest =>
    split
    · exact .stop _ _
    · exact .leaves _ (List.suffix_cons _ _)

theorem readUnits_reads (start fuel : Nat) (s : List CodePoint) :
    Reads levels s (readUnits start fuel s) := by
  induction fuel generalizing s with
  | zero => exact .malformed _ _
  | succ fuel ih =>
    have hu : Reads levels s (readUnit start s) := readUnit_reads start s
    rw [readUnits]
    split
    · next e h => exact (h ▸ hu).error
    · next rest h => exact .leaves _ (h ▸ hu).left
    · next c rest h =>
      have hr := (ih rest).mono (h ▸ hu).left
      split
      · next e h => exact (h ▸ hr).error
      · next cs rest h => exact .leaves _ (h ▸ hr).left

theorem readString_reads (s : List CodePoint) : Reads levels s (readString s) :=
  readUnits_reads _ _ s

theorem readWhole_suffix (s : List CodePoint) : (readWhole s).2 <:+ s := by
  unfold readWhole
  split
  · exact List.suffix_cons _ _
  · exact List.dropWhile_suffix _

theorem readFraction_suffix (s : List CodePoint) : (readFraction s).2 <:+ s := by
  unfold readFraction
  split
  · next t =>
    split
    · exact List.suffix_refl _
    · exact (List.dropWhile_suffix _).trans (List.suffix_cons _ t)
  · exact List.suffix_refl _

theorem exponentDigits_suffix (negative : Bool) {whole s : List CodePoint} (h : s <:+ whole) :
    (exponentDigits negative whole s).2 <:+ whole := by
  unfold exponentDigits
  split
  · exact List.suffix_refl _
  · exact (List.dropWhile_suffix _).trans h

theorem readExponent_suffix (s : List CodePoint) : (readExponent s).2 <:+ s := by
  unfold readExponent
  split
  · next c rest =>
    split
    · split
      · exact exponentDigits_suffix _ (List.suffix_append [CodePoint.scalar c, _] _)
      · exact exponentDigits_suffix _ (List.suffix_append [CodePoint.scalar c, _] _)
      · exact exponentDigits_suffix _ (List.suffix_cons _ _)
    · exact List.suffix_refl _
  · exact List.suffix_refl _

theorem readWhole_digits (s : List CodePoint) :
    (readWhole s).1 <+: s ∧ ∀ d ∈ (readWhole s).1, isDigit d = true := by
  unfold readWhole
  split
  · next rest => exact ⟨⟨rest, rfl⟩, by simp [isDigit]⟩
  · exact ⟨List.takeWhile_prefix _, List.all_eq_true.1 List.all_takeWhile⟩

theorem readNumber_reads (start : List CodePoint) (negative : Bool) (s : List CodePoint) :
    Reads levels s (readNumber start negative s) := by
  have hw := readWhole_suffix s
  have hd := readWhole_digits s
  rw [readNumber]
  generalize readWhole s = whole at hw hd
  obtain ⟨_ | ⟨d, ds⟩, rest⟩ := whole
  · exact .stop _ _
  · have hf := (readFraction_suffix rest).trans hw
    have he := (readExponent_suffix (readFraction rest).2).trans hf
    simp only
    split
    · split
      · next hlong =>
        exact .overlong ⟨hlong, _, hd.1.isInfix, rfl, hd.2⟩
      · exact .leaves _ he
    · exact .leaves _ he

theorem readScalar_reads (s : List CodePoint) : Reads levels s (readScalar s) := by
  unfold readScalar
  split
  · next r h =>
    obtain ⟨e, -, he⟩ := List.exists_of_findSome?_eq_some h
    split at he
    · cases he
      exact .leaves _ (List.drop_suffix _ _)
    · cases he
  · split
    · next rest _ => exact (readNumber_reads _ _ rest).mono (List.suffix_cons _ _)
    · exact readNumber_reads _ _ s

end Scalar

section Step
variable {fuel : Nat} (hvalue : ∀ levels s, Reads levels s (readValue fuel levels s))
  (hmembers : ∀ levels given s, Reads levels s (readMembers fuel levels given s))
  (helements : ∀ levels s, Reads levels s (readElements fuel levels s))

include hmembers helements in
theorem readValue_step (levels : Nat) (s : List CodePoint) :
    Reads levels s (readValue (fuel + 1) levels s) := by
  unfold readValue
  split
  · next rest =>
    exact ((readString_reads rest).mono (List.suffix_cons _ _)).bind fun v rest left =>
      .leaves _ left
  · next rest =>
    cases levels with
    | zero => exact .deep .readingObject (by simp [opens])
    | succ levels =>
      rw [descend_succ_bind]
      split
      · next h => exact .leaves _ (suffix_of_skipSpace h (List.suffix_cons _ _))
      · exact ((hmembers levels [] _).inside rfl (skipSpace_suffix rest)).bind
          fun v rest left => .leaves _ left
  · next rest =>
    cases levels with
    | zero => exact .deep .readingArray (by simp [opens])
    | succ levels =>
      rw [descend_succ_bind]
      split
      · next h => exact .leaves _ (suffix_of_skipSpace h (List.suffix_cons _ _))
      · exact ((helements levels _).inside rfl (skipSpace_suffix rest)).bind
          fun v rest left => .leaves _ left
  · exact readScalar_reads s

include hvalue hmembers in
theorem readMembers_step (levels : Nat) (given : List (List CodePoint × Json))
    (s : List CodePoint) : Reads levels s (readMembers (fuel + 1) levels given s) := by
  unfold readMembers
  split
  · next rest =>
    refine ((readString_reads rest).mono (List.suffix_cons _ _)).bind fun key rest left => ?_
    simp only
    split
    · next t h =>
      have ht := suffix_of_skipSpace h left
      refine ((hvalue levels _).mono ((skipSpace_suffix t).trans ht)).bind
        fun value rest left => ?_
      simp only
      split
      · next h => exact .leaves _ (suffix_of_skipSpace h left)
      · next u h =>
        exact (hmembers levels _ _).mono ((skipSpace_suffix u).trans (suffix_of_skipSpace h left))
      · exact .stop _ _
    · exact .stop _ _
  · exact .stop _ _

include hvalue helements in
theorem readElements_step (levels : Nat) (s : List CodePoint) :
    Reads levels s (readElements (fuel + 1) levels s) := by
  unfold readElements
  refine (hvalue levels s).bind fun value rest left => ?_
  simp only
  split
  · next h => exact .leaves _ (suffix_of_skipSpace h left)
  · next u h =>
    exact ((helements levels _).mono ((skipSpace_suffix u).trans (suffix_of_skipSpace h left))).bind
      fun more rest left => .leaves _ left
  · exact .stop _ _

end Step

theorem readValue_reads (fuel : Nat) :
    (∀ levels s, Reads levels s (readValue fuel levels s)) ∧
      (∀ levels given s, Reads levels s (readMembers fuel levels given s)) ∧
        ∀ levels s, Reads levels s (readElements fuel levels s) := by
  induction fuel with
  | zero =>
    refine ⟨fun levels s => ?_, fun levels given s => ?_, fun levels s => ?_⟩
    · rw [readValue]; exact .stop _ _
    · rw [readMembers]; exact .stop _ _
    · rw [readElements]; exact .stop _ _
  | succ fuel ih =>
    obtain ⟨hvalue, hmembers, helements⟩ := ih
    exact ⟨readValue_step hmembers helements, readMembers_step hvalue hmembers,
      readElements_step hvalue helements⟩

/-- What a document is, and what it is refused for. -/
theorem readDocument_reads (levels : Nat) (s : List CodePoint) :
    (∃ v, readDocument levels s = .ok v) ∨
      ∃ e, readDocument levels s = .error e ∧ Reads levels s (.error e : Read Json) := by
  have hr := ((readValue_reads (2 * s.length + 2)).1 levels (skipSpace s)).mono (skipSpace_suffix s)
  rw [readDocument]
  cases hv : readValue (2 * s.length + 2) levels (skipSpace s) with
  | error e =>
    rw [hv] at hr
    exact .inr ⟨e, rfl, hr⟩
  | ok r =>
    simp only [bind, Except.bind]
    split
    · exact .inl ⟨_, rfl⟩
    · exact .inr ⟨_, rfl, .stop _ _⟩

def Refuses (levels : Nat) (s : List CodePoint) : Fault → Prop
  | .malformed _ _ => True
  | .tooManyDigits n => Overlong n s
  | .tooDeep _ => levels < s.countP opens

theorem ofCodePoints_refuses {levels : Nat} {s : List CodePoint} {f : Fault}
    (h : ofCodePoints levels s = .error f) : Refuses levels s f := by
  rw [ofCodePoints] at h
  obtain ⟨v, hv⟩ | ⟨e, he, hr⟩ := readDocument_reads levels s
  · rw [hv] at h
    cases h
  · rw [he] at h
    cases h
    cases hr with
    | malformed problem left => trivial
    | overlong found => exact found
    | deep work more => exact more

theorem ofText_refuses {levels : Nat} {s : List CodePoint} {f : Fault}
    (h : ofText levels s = .error f) : Refuses levels s f := by
  unfold ofText at h
  split at h
  · cases h
    trivial
  · exact ofCodePoints_refuses h

structure IsInteger (digits : List CodePoint) : Prop where
  all : ∀ d ∈ digits, isDigit d = true
  head : digits.head? ≠ some (.scalar '0')

section IsInteger
variable {levels : Nat} {digits : List CodePoint}

theorem IsInteger.readWhole (h : IsInteger digits) : Json.readWhole digits = (digits, []) := by
  unfold Json.readWhole
  split
  · exact absurd rfl h.head
  · have ht : (digits ++ []).takeWhile isDigit = digits ++ [].takeWhile isDigit :=
      List.takeWhile_append_of_pos h.all
    have hd : (digits ++ []).dropWhile isDigit = [].dropWhile isDigit :=
      List.dropWhile_append_of_pos h.all
    rw [List.append_nil] at ht hd
    rw [ht, hd]
    simp

theorem IsInteger.readNumber (h : IsInteger digits) (hl : Text.maxDigits < digits.length)
    (start : List CodePoint) (negative : Bool) :
    Json.readNumber start negative digits = .error (.tooManyDigits digits.length) := by
  rw [Json.readNumber, h.readWhole]
  cases digits with
  | nil => cases hl
  | cons d ds => exact if_pos hl

theorem IsInteger.cons (h : IsInteger digits) (hne : digits ≠ []) :
    ∃ c ds, digits = .scalar c :: ds ∧ c.isDigit = true := by
  cases digits with
  | nil => exact absurd rfl hne
  | cons d ds =>
    have hd := h.all d List.mem_cons_self
    cases d with
    | scalar c => exact ⟨c, ds, rfl, hd⟩
    | surrogate i => cases hd

theorem IsInteger.readScalar (h : IsInteger digits) (hl : Text.maxDigits < digits.length) {c : Char}
    {ds : List CodePoint} (hs : digits = .scalar c :: ds) (hc : c.isDigit = true) :
    Json.readScalar digits = .error (.tooManyDigits digits.length) := by
  unfold Json.readScalar
  rw [hs, (readConstant_digit hc ds).1, ← hs]
  split
  · next he => cases he
  · split
    · next rest _ =>
      cases hs
      exact absurd hc (by decide)
    · exact h.readNumber hl _ false

theorem IsInteger.readDocument (h : IsInteger digits) (hl : Text.maxDigits < digits.length) :
    Json.readDocument levels digits = .error (.tooManyDigits digits.length) := by
  obtain ⟨c, ds, hs, hc⟩ := h.cons (by rintro rfl; cases hl)
  have hspace : isSpace (.scalar c) = false := by
    simp only [isSpace, Bool.or_eq_false_iff, decide_eq_false_iff_not]
    refine ⟨⟨⟨?_, ?_⟩, ?_⟩, ?_⟩ <;> rintro rfl <;> cases hc
  have hskip : skipSpace digits = digits := by
    rw [hs, skipSpace, List.dropWhile_cons_of_neg (by simp [hspace])]
  have hvalue : readValue (2 * digits.length + 2) levels digits =
      .error (.tooManyDigits digits.length) := by
    rw [← h.readScalar hl hs hc, hs]
    unfold readValue
    split
    · next he => cases he; cases hc
    · next he => cases he; cases hc
    · next he => cases he; cases hc
    · rfl
  rw [Json.readDocument, hskip, hvalue]
  rfl

theorem IsInteger.ofCodePoints (h : IsInteger digits) (hl : Text.maxDigits < digits.length) :
    Json.ofCodePoints levels digits = .error (.tooManyDigits digits.length) := by
  rw [Json.ofCodePoints, h.readDocument hl]
  rfl

theorem IsInteger.ofText (h : IsInteger digits) (hl : Text.maxDigits < digits.length) :
    Json.ofText levels digits = .error (.tooManyDigits digits.length) := by
  obtain ⟨c, ds, rfl, hc⟩ := h.cons (by rintro rfl; cases hl)
  unfold Json.ofText
  split
  · next he => cases he; exact absurd hc (by decide)
  · exact h.ofCodePoints hl

end IsInteger

end Json

theorem mapError_json {x : Except Json.Fault Json} {f : Json.Fault}
    (h : x.mapError Cause.json = .error (.json f)) : x = .error f := by
  cases x with
  | ok v => cases h
  | error e => cases h; rfl

namespace Payload

def points : Payload → Bytes.Decoded
  | .text points => .ok points
  | .bytes bs => Bytes.decodePayload bs

/-- More opening brackets stand in a payload than there are levels to read them, or it is an object
with a value that there are too few levels to write. -/
inductive Deep (room : Json.Room) (p : Payload) : Prop where
  | reading (text : List CodePoint) (holds : p.points = .ok text)
      (more : room.reading < text.countP Json.opens)
  | writing (members : List (List CodePoint × Json))
      (read : p.json room.reading = .ok (.obj members)) (m : List CodePoint × Json)
      (among : m ∈ members) (deep : room.writing < m.2.depth)

def Overlong (n : Nat) (p : Payload) : Prop :=
  ∃ points, p.points = .ok points ∧ Json.Overlong n points

theorem json_refuses {levels : Nat} {p : Payload} {f : Json.Fault}
    (h : p.json levels = .error (.json f)) :
    ∃ points, p.points = .ok points ∧ Json.Refuses levels points f := by
  cases p with
  | text points => exact ⟨points, rfl, Json.ofText_refuses (mapError_json h)⟩
  | bytes bs =>
    cases hp : Bytes.decodePayload bs with
    | error flaw => rw [json, hp] at h; cases h
    | ok points =>
      rw [json, hp] at h
      exact ⟨points, hp, Json.ofCodePoints_refuses (mapError_json h)⟩

theorem json_of_isInteger {levels : Nat} {p : Payload} {digits : List CodePoint}
    (hp : p.points = .ok digits) (h : Json.IsInteger digits) (hl : Text.maxDigits < digits.length) :
    p.json levels = .error (.json (.tooManyDigits digits.length)) := by
  cases p with
  | text points =>
    cases hp
    rw [json, h.ofText hl]
    rfl
  | bytes bs =>
    rw [json, show Bytes.decodePayload bs = .ok digits from hp]
    exact congrArg (Except.mapError Cause.json) (h.ofCodePoints hl)

end Payload

namespace Snapshot

/-- What decoding a payload for a store comes to: a snapshot from an object and from nothing else,
else a fault of decoding for that very store. Only a payload in which more digits stand in a row
than are read as an integer may be met with the fault of those digits instead, and one that is such
an integer is; only one that is nested deeply may be met with the fault of its depth. -/
structure Decoding (room : Json.Room) (storeId : String) (p : Payload) : Prop where
  snapshot : ∀ s, ofPayload room storeId p = .ok s ↔ ∃ members,
    p.json room.reading = .ok (.obj members) ∧ (∀ m ∈ members, m.2.depth ≤ room.writing) ∧
      s = ofMembers members
  fault : ∀ f, ofPayload room storeId p = .error f →
    (∃ detail cause, f = .fetch ⟨.decode, storeId, detail, cause⟩) ∨
      (∃ n, f = .json (.tooManyDigits n) ∧ p.Overlong n) ∨
        ∃ work, f = .json (.tooDeep work) ∧ p.Deep room
  overlong : ∀ digits, p.points = .ok digits → Json.IsInteger digits →
    Text.maxDigits < digits.length →
    ofPayload room storeId p = .error (.json (.tooManyDigits digits.length))

theorem decode_outcome (room : Json.Room) (storeId : String) (p : Payload) :
    Decoding room storeId p := by
  refine ⟨fun s => ofPayload_eq_ok, fun f h => ?_, fun digits hp hi hl => ?_⟩
  · cases hj : p.json room.reading with
    | ok v =>
      rw [ofPayload, hj] at h
      cases v with
      | obj members =>
        dsimp only at h
        rw [ofJson] at h
        split at h
        · cases h
        · next hdeep =>
          cases h
          simp only [Classical.not_forall, Nat.not_le] at hdeep
          obtain ⟨m, hm, hlt⟩ := hdeep
          exact .inr (.inr ⟨_, rfl, .writing members hj m hm hlt⟩)
      | _ => cases h; exact .inl ⟨_, _, rfl⟩
    | error cause =>
      rw [ofPayload, hj] at h
      cases h
      cases cause with
      | encoding flaw => exact .inl ⟨_, _, rfl⟩
      | remote f => exact absurd hj (p.json_ne_remote _ f)
      | json f =>
        obtain ⟨points, hp, hr⟩ := p.json_refuses hj
        cases f with
        | malformed problem place => exact .inl ⟨_, _, rfl⟩
        | tooManyDigits n => exact .inr (.inl ⟨n, rfl, points, hp, hr⟩)
        | tooDeep work => exact .inr (.inr ⟨work, rfl, .reading points hp hr⟩)
  · rw [ofPayload, Payload.json_of_isInteger hp hi hl]
    rfl

def overlongText : List CodePoint := List.replicate (Text.maxDigits + 1) (.scalar '1')

/-- An integer that is too long is no object and not deep, and still no fault of decoding. -/
theorem decode_overlong_escapes : ¬∃ room : Json.Room, ∀ (storeId : String) (p : Payload),
    ¬p.Deep room → (∃ s, ofPayload room storeId p = .ok s) ∨
      ∃ f, ofPayload room storeId p = .error (.fetch f) ∧ f.problem = .decode ∧
        f.storeId = storeId := by
  rintro ⟨room, hclaim⟩
  have hlen : overlongText.length = Text.maxDigits + 1 := List.length_replicate
  have hi : Json.IsInteger overlongText := by
    refine ⟨fun d hd => ?_, by simp [overlongText, List.head?_replicate]⟩
    rw [List.eq_of_mem_replicate hd]
    rfl
  have hread : Payload.json room.reading (.text overlongText) = _ :=
    Payload.json_of_isInteger rfl hi (by omega)
  have hj : ofPayload room "s" (.text overlongText) =
      .error (.json (.tooManyDigits (Text.maxDigits + 1))) := by
    rw [ofPayload, hread, hlen]
    rfl
  have hflat : ¬(Payload.text overlongText).Deep room := by
    intro hdeep
    cases hdeep with
    | reading text holds more =>
      cases holds
      rw [overlongText, List.countP_replicate] at more
      cases more
    | writing members read => cases hread.symm.trans read
  obtain ⟨s, hs⟩ | ⟨f, hf, -⟩ := hclaim "s" (.text overlongText) hflat
  · rw [hj] at hs; cases hs
  · rw [hj] at hf; cases hf

end Snapshot

end LiveConfig
