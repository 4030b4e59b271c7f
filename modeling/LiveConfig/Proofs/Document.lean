import LiveConfig.Snapshot
set_option autoImplicit false

/-!
JSON objects as bytes. The first two characters of an object tell that its bytes are in UTF-8 when
they are: neither is the zero or the byte order mark that the other encodings are known by.
-/
namespace LiveConfig
open Text (CodePoint)

namespace Json

theorem readConstant_ne_obj {s rest : List CodePoint} {v : Json}
    (h : readConstant s = some (v, rest)) (members : List (List CodePoint × Json)) :
    v ≠ .obj members := by
  obtain ⟨e, he, hv⟩ := List.exists_of_findSome?_eq_some h
  split at hv
  · cases hv
    simp only [constants, List.mem_cons, List.not_mem_nil, or_false] at he
    obtain rfl | rfl | rfl | rfl | rfl | rfl := he <;> exact nofun
  · cases hv

theorem readNumber_ne_obj (start : List CodePoint) (negative : Bool) (s : List CodePoint)
    (members : List (List CodePoint × Json)) (rest : List CodePoint) :
    readNumber start negative s ≠ .ok (.obj members, rest) := by
  intro h
  rw [readNumber] at h
  split at h
  · cases h
  · split at h
    split at h
    split at h
    · split at h <;> cases h
    · cases h

theorem readScalar_ne_obj (s : List CodePoint) (members : List (List CodePoint × Json))
    (rest : List CodePoint) : readScalar s ≠ .ok (.obj members, rest) := by
  intro h
  unfold readScalar at h
  split at h
  · next r hr =>
    cases h
    exact readConstant_ne_obj hr members rfl
  · split at h
    · exact readNumber_ne_obj _ _ _ members rest h
    · exact readNumber_ne_obj _ _ _ members rest h

def Opening (p : CodePoint) : Prop :=
  isSpace p = true ∨ p = .scalar '\x7b' ∨ p = .scalar '\x7d' ∨ p = .scalar '"'

instance (p : CodePoint) : Decidable (Opening p) := inferInstanceAs (Decidable (_ ∨ _))

theorem readMembers_opens {fuel levels : Nat} {given members : List (List CodePoint × Json)}
    {s rest : List CodePoint} (h : readMembers fuel levels given s = .ok (members, rest)) :
    ∃ t, s = .scalar '"' :: t := by
  cases fuel with
  | zero => rw [readMembers] at h; cases h
  | succ fuel =>
    unfold readMembers at h
    split at h
    · exact ⟨_, rfl⟩
    · cases h

theorem readValue_obj {fuel levels : Nat} {s rest : List CodePoint}
    {members : List (List CodePoint × Json)}
    (h : readValue fuel levels s = .ok (.obj members, rest)) :
    ∃ t p u, s = .scalar '\x7b' :: t ∧ skipSpace t = p :: u ∧ Opening p := by
  cases fuel with
  | zero => rw [readValue] at h; cases h
  | succ fuel =>
    unfold readValue at h
    split at h
    · next t =>
      cases hs : readString t <;> rw [hs] at h <;> cases h
    · next t =>
      cases levels with
      | zero => cases h
      | succ levels =>
        rw [descend_succ_bind] at h
        split at h
        · next u hu => exact ⟨t, _, u, rfl, hu, .inr (.inr (.inl rfl))⟩
        · cases hm : readMembers fuel levels [] (skipSpace t) with
          | error e => rw [hm] at h; cases h
          | ok r =>
            obtain ⟨u, hu⟩ := readMembers_opens hm
            exact ⟨t, _, u, rfl, hu, .inr (.inr (.inr rfl))⟩
    · next t =>
      cases levels with
      | zero => cases h
      | succ levels =>
        rw [descend_succ_bind] at h
        split at h
        · cases h
        · cases he : readElements fuel levels (skipSpace t) <;> rw [he] at h <;> cases h
    · exact absurd h (readScalar_ne_obj _ members rest)

theorem opening_of_skipSpace {q p : CodePoint} {s u : List CodePoint}
    (h : skipSpace (q :: s) = p :: u) (hp : Opening p) : Opening q := by
  by_cases hq : isSpace q
  · exact .inl hq
  · rw [skipSpace, List.dropWhile_cons_of_neg hq] at h
    cases h
    exact hp

/-- What is read as a document has been read as a value, with spaces around it. -/
theorem readDocument_eq_ok {levels : Nat} {s : List CodePoint} {v : Json}
    (h : readDocument levels s = .ok v) :
    ∃ rest, readValue (2 * s.length + 2) levels (skipSpace s) = .ok (v, rest) := by
  rw [readDocument] at h
  cases hv : readValue (2 * s.length + 2) levels (skipSpace s) with
  | error e => rw [hv] at h; cases h
  | ok r =>
    obtain ⟨v', rest⟩ := r
    rw [hv] at h
    dsimp only [bind, Except.bind] at h
    split at h
    · cases h; exact ⟨rest, rfl⟩
    · cases h

/-- An object begins with two characters at least, its braces or what stands before them. -/
theorem object_begins {levels : Nat} {s : List CodePoint} {members : List (List CodePoint × Json)}
    (h : ofCodePoints levels s = .ok (.obj members)) :
    ∃ p q rest, s = p :: q :: rest ∧ Opening p ∧ Opening q := by
  have hdoc : readDocument levels s = .ok (.obj members) := by
    unfold ofCodePoints at h
    split at h
    · next hv => cases h; exact hv
    · cases h
  obtain ⟨rest, hread⟩ := readDocument_eq_ok hdoc
  obtain ⟨t, p, u, hs, ht, hp⟩ := readValue_obj hread
  have hbrace : Opening (.scalar '\x7b') := by decide
  cases s with
  | nil => cases hs
  | cons q s =>
    have hq := opening_of_skipSpace hs hbrace
    by_cases hsp : isSpace q
    · rw [skipSpace, List.dropWhile_cons_of_pos hsp] at hs
      cases s with
      | nil => cases hs
      | cons q' s => exact ⟨q, q', s, rfl, hq, opening_of_skipSpace hs hbrace⟩
    · rw [skipSpace, List.dropWhile_cons_of_neg hsp] at hs
      cases hs
      cases t with
      | nil => cases ht
      | cons q' t => exact ⟨_, q', t, rfl, hq, opening_of_skipSpace ht hp⟩

theorem opening_of_object {levels : Nat} {s : List CodePoint}
    {members : List (List CodePoint × Json)} (h : ofCodePoints levels s = .ok (.obj members)) :
    ∀ p ∈ s.take 2, Opening p := by
  obtain ⟨p, q, rest, rfl, hp, hq⟩ := object_begins h
  simpa using ⟨hp, hq⟩

end Json

namespace Bytes

theorem decodeUtf8_ascii {a : UInt8} (h : a < 0x80) (i : Nat) (rest : List UInt8) :
    decodeUtf8 i (a :: rest) = (.ofNat a.toNat :: ·) <$> decodeUtf8 (i + 1) rest := by
  rw [decodeUtf8.eq_def]
  exact if_pos h

theorem cons_of_map {p : CodePoint} {d : Decoded} {points : List CodePoint}
    (h : (p :: ·) <$> d = .ok points) : p ∈ points.take 1 := by
  cases d with
  | error e => cases h
  | ok more => cases h; exact List.mem_cons_self

/-- After a first byte, a zero is read as the character zero or not at all. -/
theorem decodeUtf8_zero {i : Nat} {a : UInt8} {rest : List UInt8} {points : List CodePoint}
    (h : decodeUtf8 i (a :: 0 :: rest) = .ok points) : .scalar '\x00' ∈ points.take 2 := by
  have hcont : isContinuation 0 = false := by decide
  have h3 : admits3 a 0 = false := by simp [admits3, hcont]
  have h4 : admits4 a 0 = false := by simp [admits4, hcont]
  have hs : ∀ c, isSurrogate3 a 0 c = false := fun c => by simp [isSurrogate3]
  by_cases ha : a < 0x80
  · rw [decodeUtf8_ascii ha, decodeUtf8_ascii (by decide)] at h
    cases hd : decodeUtf8 (i + 1 + 1) rest with
    | error e => rw [hd] at h; cases h
    | ok more =>
      rw [hd] at h
      cases h
      exact List.mem_cons_of_mem _ List.mem_cons_self
  · rw [decodeUtf8, if_neg ha] at h
    split at h
    · cases h
    split at h
    · simp [hcont] at h
    split at h
    · cases rest <;> simp [h3, hs] at h
    split at h
    · rcases rest with _ | ⟨c, _ | ⟨d, rest⟩⟩ <;> simp [h4] at h
    · cases h

section Opening
variable {bytes : List UInt8} {points : List CodePoint}

theorem not_opening_zero : ¬Json.Opening (.scalar '\x00') := by decide

theorem not_opening_mark : ¬Json.Opening (.scalar '\uFEFF') := by decide

/-- An object in UTF-8 begins with no byte that a mark of another encoding begins with. -/
theorem head_of_opening {a : UInt8} {rest : List UInt8} (h : decodeUtf8 0 (a :: rest) = .ok points)
    (hp : ∀ p ∈ points.take 2, Json.Opening p) : a ≠ 0 ∧ a ≠ 0xFE ∧ a ≠ 0xFF := by
  refine ⟨?_, ?_, ?_⟩
  · rintro rfl
    rw [decodeUtf8_ascii (by decide)] at h
    exact not_opening_zero (hp _ (List.take_subset_take_left _ (by decide) (cons_of_map h)))
  · rintro rfl
    rw [decodeUtf8.eq_def] at h
    cases h
  · rintro rfl
    rw [decodeUtf8.eq_def] at h
    cases h

theorem guessEncoding_of_opening (h : decodeUtf8 0 bytes = .ok points)
    (hp : ∀ p ∈ points.take 2, Json.Opening p) : guessEncoding bytes = .utf8 := by
  -- Neither of the first two bytes is zero, and the guess asks for no other.
  unfold guessEncoding
  split
  · next a b c d rest =>
    have hb : b ≠ 0 := by
      rintro rfl
      exact not_opening_zero (hp _ (decodeUtf8_zero h))
    rw [if_neg (head_of_opening h hp).1, if_neg hb]
  · next a b =>
    have hb : b ≠ 0 := by
      rintro rfl
      exact not_opening_zero (hp _ (decodeUtf8_zero h))
    rw [if_neg (head_of_opening h hp).1, if_neg hb]
  · rfl

theorem decodePayload_of_opening (h : decodeUtf8 0 bytes = .ok points)
    (hp : ∀ p ∈ points.take 2, Json.Opening p) : decodePayload bytes = .ok points := by
  unfold decodePayload
  split
  · exact absurd rfl (head_of_opening h hp).1
  · exact absurd rfl (head_of_opening h hp).2.2
  · exact absurd rfl (head_of_opening h hp).2.1
  · exact absurd rfl (head_of_opening h hp).2.2
  · next rest =>
    have hm : decodeUtf8 0 (0xEF :: 0xBB :: 0xBF :: rest) =
        (.scalar '\uFEFF' :: ·) <$> decodeUtf8 3 rest := by
      rw [decodeUtf8.eq_def]
      simp [admits3, isContinuation, tail, CodePoint.ofNat]
    rw [hm] at h
    exact absurd (hp _ (List.take_subset_take_left _ (by decide) (cons_of_map h))) not_opening_mark
  · rw [guessEncoding_of_opening h hp]
    exact h

end Opening

end Bytes

/-- The bytes are JSON in UTF-8 for a value, with a byte order mark or without one. The value is no
deeper than there are levels. -/
def Utf8Json (levels : Nat) (bytes : List UInt8) (v : Json) : Prop :=
  ∃ text points, (bytes = text ∨ bytes = 0xEF :: 0xBB :: 0xBF :: text) ∧
    Bytes.decodeUtf8 0 text = .ok points ∧ Json.ofCodePoints levels points = .ok v

/-- An object in UTF-8 is read as what it is: its encoding is never taken for another. -/
theorem Payload.json_of_utf8 {levels : Nat} {bytes : List UInt8}
    {members : List (List CodePoint × Json)} (h : Utf8Json levels bytes (.obj members)) :
    Payload.json levels (.bytes bytes) = .ok (.obj members) := by
  obtain ⟨text, points, hbytes, hd, hj⟩ := h
  have hp : Bytes.decodePayload bytes = .ok points := by
    rcases hbytes with rfl | rfl
    · exact Bytes.decodePayload_of_opening hd (Json.opening_of_object hj)
    · exact hd
  simp only [json, hp, hj]
  rfl

namespace Snapshot

/-- Objects make snapshots if there is room to write their values, and nothing else does. -/
theorem ofPayload_eq_ok {room : Json.Room} {storeId : String} {p : Payload} {s : Snapshot} :
    ofPayload room storeId p = .ok s ↔ ∃ members, p.json room.reading = .ok (.obj members) ∧
      (∀ m ∈ members, m.2.depth ≤ room.writing) ∧ s = ofMembers members := by
  rw [ofPayload]
  cases hj : p.json room.reading with
  | error cause => simp
  | ok v =>
    cases v with
    | obj members =>
      dsimp only
      rw [ofJson]
      constructor
      · intro h
        split at h
        · next hm => cases h; exact ⟨members, rfl, hm, rfl⟩
        · cases h
      · rintro ⟨_, he, hm, rfl⟩
        cases he
        exact if_pos hm
    | _ => simp [ofJson]

end Snapshot

end LiveConfig
