import LiveConfig.Proofs.Agreement
import LiveConfig.Proofs.Transcription
set_option autoImplicit false

/-!
The encoding of a JSON object is found out from its bytes. The first two characters of an object are
in ASCII and not zero, and the zeros among the bytes that write them tell the encoding; a byte order
mark tells it at once. So an object is the same as text and in any encoding.
-/
namespace LiveConfig
open Text (CodePoint)

namespace Json

theorem Opening.ascii {c : Char} (h : Opening (.scalar c)) : 0 < c.toNat ∧ c.toNat < 0x80 := by
  simp only [Opening, isSpace, Bool.or_eq_true, decide_eq_true_eq, CodePoint.scalar.injEq] at h
  obtain (((rfl | rfl) | rfl) | rfl) | rfl | rfl | rfl := h <;> decide

end Json

namespace Bytes

section Ascii
variable {c : Char} (h : c.toNat < 0x80)
include h

theorem charUnits_ascii : charUnits c = [c.toNat] := by
  rw [charUnits, if_pos (by omega)]

theorem encodeChar_utf16_ascii (order : Order) :
    (Encoding.utf16 order).encodeChar c =
      match order with
      | .little => [.ofNat c.toNat, 0]
      | .big => [0, .ofNat c.toNat] := by
  have hhigh : c.toNat / 256 = 0 := by omega
  have hlow : c.toNat % 256 = c.toNat := by omega
  cases order <;> simp [Encoding.encodeChar, charUnits_ascii h, Order.unit16, hhigh, hlow]

theorem encodeChar_utf32_ascii (order : Order) :
    (Encoding.utf32 order).encodeChar c =
      match order with
      | .little => [.ofNat c.toNat, 0, 0, 0]
      | .big => [0, 0, 0, .ofNat c.toNat] := by
  have hhigh : c.toNat / 65536 = 0 := by omega
  have hlow : c.toNat % 65536 = c.toNat := by omega
  have hhigh' : c.toNat / 256 = 0 := by omega
  have hlow' : c.toNat % 256 = c.toNat := by omega
  cases order <;> simp [Encoding.encodeChar, Order.unit32, Order.unit16, hhigh, hlow, hhigh', hlow']

theorem ofNat_ne_zero (hpos : 0 < c.toNat) : UInt8.ofNat c.toNat ≠ 0 := by
  intro he
  have hn := congrArg UInt8.toNat he
  simp at hn
  omega

end Ascii

section Zeros
variable {a b : UInt8} (rest : List UInt8) (ha : a ≠ 0) (hb : b ≠ 0)
include ha hb

theorem decodePayload_utf16_little : decodePayload (a :: 0 :: b :: 0 :: rest) =
    decodeUtf16 .little 0 (a :: 0 :: b :: 0 :: rest) := by
  unfold decodePayload
  split <;> simp_all [guessEncoding, Encoding.decode]

theorem decodePayload_utf16_big : decodePayload (0 :: a :: 0 :: b :: rest) =
    decodeUtf16 .big 0 (0 :: a :: 0 :: b :: rest) := by
  unfold decodePayload
  split <;> simp_all [guessEncoding, Encoding.decode]

omit hb in
theorem decodePayload_utf32_little : decodePayload (a :: 0 :: 0 :: 0 :: rest) =
    decodeUtf32 .little 0 (a :: 0 :: 0 :: 0 :: rest) := by
  unfold decodePayload
  split <;> simp_all [guessEncoding, Encoding.decode]

omit ha hb in
theorem decodePayload_utf32_big : decodePayload (0 :: 0 :: 0 :: a :: rest) =
    decodeUtf32 .big 0 (0 :: 0 :: 0 :: a :: rest) := by
  unfold decodePayload
  split <;> simp_all [guessEncoding, Encoding.decode]

end Zeros

/-- In little order the mark of UTF-16 begins that of UTF-32: zeros behind the one would make it
the other. -/
theorem decodePayload_marked (e : Encoding) {bs : List UInt8}
    (h : e = .utf16 .little → bs.head? ≠ some 0) :
    ∃ i, decodePayload (e.mark ++ bs) = e.decode i bs := by
  rw [Encoding.mark_eq]
  match e with
  | .utf8 => exact ⟨0, rfl⟩
  | .utf16 .little =>
    refine ⟨2, ?_⟩
    cases bs with
    | nil => rfl
    | cons a rest =>
      have ha : a ≠ 0 := by simpa using h rfl
      simp only [List.cons_append, List.nil_append]
      unfold decodePayload
      split <;> simp_all [Encoding.decode]
  | .utf16 .big => exact ⟨2, rfl⟩
  | .utf32 .little => exact ⟨4, rfl⟩
  | .utf32 .big => exact ⟨4, rfl⟩

section Opening
variable {c d : Char} (hc : Json.Opening (.scalar c)) (hd : Json.Opening (.scalar d))
  (cs : List Char)
include hc hd

theorem decodePayload_encode (e : Encoding) :
    decodePayload (e.encode (c :: d :: cs)) = .ok ((c :: d :: cs).map .scalar) := by
  have hc0 := ofNat_ne_zero hc.ascii.2 hc.ascii.1
  have hd0 := ofNat_ne_zero hd.ascii.2 hd.ascii.1
  rw [← decode_encode e 0]
  -- What is in ASCII and not zero has one byte that is not zero, and its place is the encoding's.
  cases e with
  | utf8 =>
    have hdecode := decodeUtf8_encode 0 (c :: d :: cs)
    have hopening : ∀ p ∈ ((c :: d :: cs).map CodePoint.scalar).take 2, Json.Opening p := by
      simpa using ⟨hc, hd⟩
    exact (decodePayload_of_opening hdecode hopening).trans hdecode.symm
  | utf16 order =>
    simp only [Encoding.encode, List.flatMap_cons, encodeChar_utf16_ascii hc.ascii.2,
      encodeChar_utf16_ascii hd.ascii.2]
    cases order
    · exact decodePayload_utf16_little _ hc0 hd0
    · exact decodePayload_utf16_big _ hc0 hd0
  | utf32 order =>
    simp only [Encoding.encode, List.flatMap_cons, encodeChar_utf32_ascii hc.ascii.2]
    cases order
    · exact decodePayload_utf32_little _ hc0
    · exact decodePayload_utf32_big _

omit hd in
theorem decodePayload_mark (e : Encoding) :
    decodePayload (e.mark ++ e.encode (c :: cs)) = .ok ((c :: cs).map .scalar) := by
  have hlittle : e = .utf16 .little → (e.encode (c :: cs)).head? ≠ some 0 := by
    rintro rfl
    simpa [Encoding.encode, encodeChar_utf16_ascii hc.ascii.2] using
      ofNat_ne_zero hc.ascii.2 hc.ascii.1
  obtain ⟨i, hi⟩ := decodePayload_marked e hlittle
  rw [hi, decode_encode]

theorem decodePayload_written (e : Encoding) (marked : Bool) {t : String}
    (ht : t.toList = c :: d :: cs) :
    decodePayload (e.written marked t) = .ok (Text.codePoints t) := by
  rw [Encoding.written, Text.codePoints, ht]
  cases marked
  · exact decodePayload_encode hc hd cs e
  · exact decodePayload_mark hc (d :: cs) e

end Opening

end Bytes

namespace Json

/-- What a text is read as, its characters are, as it begins with no mark. -/
theorem ofCodePoints_of_ofText {levels : Nat} {points : List CodePoint} {v : Json}
    (h : ofText levels points = .ok v) : ofCodePoints levels points = .ok v := by
  unfold ofText at h
  split at h
  · cases h
  · exact h

end Json

/-- An object is read from the bytes of a text as it is from the text. -/
theorem Payload.json_written {levels : Nat} {t : String} {members : List (List CodePoint × Json)}
    (h : (Payload.text (Text.codePoints t)).json levels = .ok (.obj members)) (e : Bytes.Encoding)
    (marked : Bool) : (Payload.bytes (e.written marked t)).json levels = .ok (.obj members) := by
  have hobject : Json.ofCodePoints levels (Text.codePoints t) = .ok (.obj members) := by
    cases ht : Json.ofText levels (Text.codePoints t) with
    | error f => rw [json, ht] at h; cases h
    | ok v =>
      rw [json, ht] at h
      cases h
      exact Json.ofCodePoints_of_ofText ht
  have hbytes : Bytes.decodePayload (e.written marked t) = .ok (Text.codePoints t) := by
    obtain ⟨p, q, rest, hpoints, hp, hq⟩ := Json.object_begins hobject
    rw [Text.codePoints, List.map_eq_cons_iff] at hpoints
    obtain ⟨c, tail, ht, rfl, htail⟩ := hpoints
    obtain ⟨d, cs, rfl, rfl, -⟩ := List.map_eq_cons_iff.1 htail
    exact Bytes.decodePayload_written hp hq cs e marked ht
  simp only [json, hbytes, hobject]
  rfl

structure World.HasTwice (w : World) (t : String) (id key : String) (e : Bytes.Encoding)
    (marked : Bool) : Prop where
  secret : ∃ binary, w.secret id = .ok ⟨.json (.str (Text.codePoints t)), binary⟩
  cached : w.cached key = .ok (some (e.written marked t))

namespace Snapshot
variable {room : Json.Room} {storeId t : String} {s : Snapshot}

section Text
variable (h : ofPayload room storeId (.text (Text.codePoints t)) = .ok s)
include h

theorem ofPayload_text (storeId' : String) :
    ofPayload room storeId' (.text (Text.codePoints t)) = .ok s :=
  ofPayload_eq_ok.2 (ofPayload_eq_ok.1 h)

theorem ofPayload_written (storeId' : String) (e : Bytes.Encoding) (marked : Bool) :
    ofPayload room storeId' (.bytes (e.written marked t)) = .ok s := by
  obtain ⟨members, hj, hs⟩ := ofPayload_eq_ok.1 h
  exact ofPayload_eq_ok.2 ⟨members, Payload.json_written hj e marked, hs⟩

theorem secret_of_text (binary : Field) (storeId' : String) :
    (Secret.mk (.json (.str (Text.codePoints t))) binary).snapshot room storeId' = .ok s := by
  have hpresent : (Field.json (.str (Text.codePoints t))).isPresent = true := by
    cases ht : Text.codePoints t with
    | nil => rw [ht] at h; cases h
    | cons p points => rfl
  rw [Secret.snapshot, if_pos hpresent]
  exact ofPayload_text h storeId'

end Text

/-- What is a snapshot as text is the same snapshot as bytes, in any encoding and with a byte order
mark or without. So it is when a store of secrets gives the text, and a cache the bytes. -/
theorem same_from_bytes (h : ofPayload room storeId (.text (Text.codePoints t)) = .ok s) :
    (∀ storeId' e marked,
        ofPayload room storeId' (.bytes (Bytes.Encoding.written e marked t)) = .ok s) ∧
      ∀ (w : World) (id key : String) e marked, w.room = room → w.HasTwice t id key e marked →
        ∀ (client : CloudClient) (address : CacheAddress), client.Usable w → ∀ visit stage,
          ((Backend.secrets client).advance w visit stage id).value.2 = .ends (.ok s) ∧
            ((Backend.cache address).advance w visit stage key).value.2 = .ends (.ok s) := by
  refine ⟨ofPayload_written h, ?_⟩
  intro w id key e marked hroom htwice client address husable visit stage
  subst hroom
  obtain ⟨binary, hsecret⟩ := htwice.secret
  constructor
  · rw [Backend.advance_secrets husable hsecret, secret_of_text h]
  · have hbytes := ofPayload_written h key e marked
    simp [Backend.advance, CacheAddress.fetch, CacheAddress.get, htwice.cached, hbytes]

def accented : String := "\x7b\"k\":\"é😀\"\x7d"

def accentedWorld : World :=
  { World.offline with
    clientFault := none
    secret := fun _ => .ok ⟨.json (.str (Text.codePoints accented)), .json .null⟩
    cached := fun _ => .ok (some ((Bytes.Encoding.utf16 .little).written true accented)) }

theorem same_from_bytes_accented :
    accentedWorld.HasTwice accented "id" "key" (.utf16 .little) true ∧
    ∃ s : Snapshot, ofPayload .usual "id" (.text (Text.codePoints accented)) = .ok s ∧
      s.entries = [(Text.codePoints "k", Text.codePoints "é😀")] ∧
      (Backend.freshSecrets.advance accentedWorld 0 .arriving "id").value.2 = .ends (.ok s) ∧
      ((Backend.cache ⟨"localhost", 6379⟩).advance accentedWorld 0 .arriving "key").value.2 =
        .ends (.ok s) := by
  have htwice : accentedWorld.HasTwice accented "id" "key" (.utf16 .little) true :=
    ⟨⟨_, rfl⟩, rfl⟩
  have htext : ofPayload .usual "id" (.text (Text.codePoints accented)) =
      .ok (Table.empty.insert (Text.codePoints "k") (Text.codePoints "é😀")) := by
    have hpoints : Text.codePoints accented =
        ['\x7b', '"', 'k', '"', ':', '"', 'é', '😀', '"', '\x7d'].map .scalar := by decide
    rw [hpoints]
    rfl
  obtain ⟨hsecret, hcached⟩ := (same_from_bytes htext).2 _ _ _ _ _ rfl htwice (.fresh none)
    ⟨"localhost", 6379⟩ (.inr rfl) 0 .arriving
  exact ⟨htwice, _, htext, rfl, hsecret, hcached⟩

end Snapshot

end LiveConfig
