import LiveConfig.Bytes.Encoding
import LiveConfig.Proofs.Document
import LiveConfig.Proofs.Spelling
set_option autoImplicit false

/-!
Text as bytes in the five encodings, and back. Each character is read from the bytes that write it,
whatever bytes come after them, so that whole texts are.
-/
namespace LiveConfig.Bytes
open Text (CodePoint)

def Order.unit16 (order : Order) (u : Nat) : List UInt8 :=
  match order with
  | .little => [.ofNat (u % 256), .ofNat (u / 256)]
  | .big => [.ofNat (u / 256), .ofNat (u % 256)]

def Order.unit32 (order : Order) (n : Nat) : List UInt8 :=
  match order with
  | .little => Order.little.unit16 (n % 65536) ++ Order.little.unit16 (n / 65536)
  | .big => Order.big.unit16 (n / 65536) ++ Order.big.unit16 (n % 65536)

def charUnits (c : Char) : List Nat :=
  if c.toNat < 0x10000 then [c.toNat] else [(Text.halves c.toNat).1, (Text.halves c.toNat).2]

namespace Encoding

def encodeChar : Encoding → Char → List UInt8
  | .utf8, c => String.utf8EncodeChar c
  | .utf16 order, c => (charUnits c).flatMap order.unit16
  | .utf32 order, c => order.unit32 c.toNat

def encode (e : Encoding) (cs : List Char) : List UInt8 := cs.flatMap e.encodeChar

/-- The byte order mark is a character, U+FEFF, and written as such. -/
def mark (e : Encoding) : List UInt8 := e.encodeChar '\uFEFF'

theorem mark_eq (e : Encoding) : e.mark =
    match e with
    | utf8 => [0xEF, 0xBB, 0xBF]
    | utf16 .little => [0xFF, 0xFE]
    | utf16 .big => [0xFE, 0xFF]
    | utf32 .little => [0xFF, 0xFE, 0x00, 0x00]
    | utf32 .big => [0x00, 0x00, 0xFE, 0xFF] := by
  cases e with
  | utf8 => decide
  | utf16 order => cases order <;> decide
  | utf32 order => cases order <;> decide

def written (e : Encoding) (marked : Bool) (t : String) : List UInt8 :=
  if marked then e.mark ++ e.encode t.toList else e.encode t.toList

example : (utf16 .little).written true "a😀" = [0xFF, 0xFE, 0x61, 0, 0x3D, 0xD8, 0x00, 0xDE] := by
  decide

end Encoding

section Utf8
variable {a b c d : UInt8} {rest : List UInt8} (i : Nat)

theorem isContinuation_iff : isContinuation b = true ↔ 0x80 ≤ b.toNat ∧ b.toNat < 0xC0 := by
  simp [isContinuation, UInt8.le_iff_toNat_le, UInt8.lt_iff_toNat_lt]

/-- The byte that continues a character with the last six bits of a number. -/
theorem toNat_continuation (m : Nat) : (UInt8.ofNat (m % 64 + 128)).toNat = m % 64 + 128 := by
  simp
  omega

theorem isContinuation_continuation (m : Nat) :
    isContinuation (UInt8.ofNat (m % 64 + 128)) = true := by
  rw [isContinuation_iff, toNat_continuation]
  omega

theorem tail_continuation (m : Nat) : tail (UInt8.ofNat (m % 64 + 128)) = m % 64 := by
  rw [tail, toNat_continuation]
  omega

theorem admits3_of (hb : isContinuation b = true) (hlow : a.toNat = 0xE0 → 0xA0 ≤ b.toNat)
    (hhigh : a.toNat = 0xED → b.toNat < 0xA0) : admits3 a b = true := by
  simp only [admits3, hb, ← UInt8.toNat_inj, UInt8.le_iff_toNat_le, UInt8.lt_iff_toNat_lt]
  simp
  omega

theorem admits4_of (hb : isContinuation b = true) (hlow : a.toNat = 0xF0 → 0x90 ≤ b.toNat)
    (hhigh : a.toNat = 0xF4 → b.toNat < 0x90) : admits4 a b = true := by
  simp only [admits4, hb, ← UInt8.toNat_inj, UInt8.le_iff_toNat_le, UInt8.lt_iff_toNat_lt]
  simp
  omega

theorem decodeUtf8_two (hlow : 0xC2 ≤ a.toNat) (hhigh : a.toNat < 0xE0)
    (hb : isContinuation b = true) : decodeUtf8 i (a :: b :: rest) =
      (.ofNat (a.toNat % 32 * 64 + tail b) :: ·) <$> decodeUtf8 (i + 2) rest := by
  have h1 : ¬a < 0x80 := by simp [UInt8.lt_iff_toNat_lt]; omega
  have h2 : ¬a < 0xC2 := by simp [UInt8.lt_iff_toNat_lt]; omega
  have h3 : a < 0xE0 := by simpa [UInt8.lt_iff_toNat_lt] using hhigh
  rw [decodeUtf8.eq_def]
  simp only [h1, h2, h3, hb, if_true, if_false]

theorem decodeUtf8_three (hlow : 0xE0 ≤ a.toNat) (hhigh : a.toNat < 0xF0)
    (hb : admits3 a b = true) (hc : isContinuation c = true) : decodeUtf8 i (a :: b :: c :: rest) =
      (.ofNat (a.toNat % 16 * 4096 + tail b * 64 + tail c) :: ·) <$> decodeUtf8 (i + 3) rest := by
  have h1 : ¬a < 0x80 := by simp [UInt8.lt_iff_toNat_lt]; omega
  have h2 : ¬a < 0xC2 := by simp [UInt8.lt_iff_toNat_lt]; omega
  have h3 : ¬a < 0xE0 := by simpa [UInt8.lt_iff_toNat_lt] using hlow
  have h4 : a < 0xF0 := by simpa [UInt8.lt_iff_toNat_lt] using hhigh
  rw [decodeUtf8.eq_def]
  simp [h1, h2, h3, h4, hb, hc]

theorem decodeUtf8_four (hlow : 0xF0 ≤ a.toNat) (hhigh : a.toNat < 0xF5)
    (hb : admits4 a b = true) (hc : isContinuation c = true) (hd : isContinuation d = true) :
    decodeUtf8 i (a :: b :: c :: d :: rest) =
      (.ofNat (a.toNat % 8 * 262144 + tail b * 4096 + tail c * 64 + tail d) :: ·) <$>
        decodeUtf8 (i + 4) rest := by
  have h1 : ¬a < 0x80 := by simp [UInt8.lt_iff_toNat_lt]; omega
  have h2 : ¬a < 0xC2 := by simp [UInt8.lt_iff_toNat_lt]; omega
  have h3 : ¬a < 0xE0 := by simp [UInt8.lt_iff_toNat_lt]; omega
  have h4 : ¬a < 0xF0 := by simpa [UInt8.lt_iff_toNat_lt] using hlow
  have h5 : a < 0xF5 := by simpa [UInt8.lt_iff_toNat_lt] using hhigh
  rw [decodeUtf8.eq_def]
  simp [h1, h2, h3, h4, h5, hb, hc, hd]

theorem decodeUtf8_char (ch : Char) (rest : List UInt8) :
    decodeUtf8 i (String.utf8EncodeChar ch ++ rest) =
      (.scalar ch :: ·) <$> decodeUtf8 (i + (String.utf8EncodeChar ch).length) rest := by
  have hvalid : ch.val.toNat < 0xD800 ∨ 0xDFFF < ch.val.toNat ∧ ch.val.toNat < 0x110000 :=
    Text.toNat_cases ch
  have hpoint : CodePoint.ofNat ch.val.toNat = .scalar ch := CodePoint.ofNat_toNat ch
  rw [← hpoint, String.utf8EncodeChar]
  generalize ch.val.toNat = n at hvalid
  split
  · next h1 =>
    have ha : (UInt8.ofNat n).toNat = n := by simp; omega
    have hlt : UInt8.ofNat n < 0x80 := by simp [UInt8.lt_iff_toNat_lt]; omega
    rw [List.singleton_append, decodeUtf8_ascii hlt, ha]
    rfl
  split
  · next h1 h2 =>
    have ha : (UInt8.ofNat (n / 64 % 32 + 192)).toNat = n / 64 + 192 := by simp; omega
    have hn : (n / 64 + 192) % 32 * 64 + n % 64 = n := by omega
    refine (decodeUtf8_two i (by omega) (by omega) (isContinuation_continuation n)).trans ?_
    rw [tail_continuation, ha, hn]
    rfl
  split
  · next h1 h2 h3 =>
    have ha : (UInt8.ofNat (n / 4096 % 16 + 224)).toNat = n / 4096 + 224 := by simp; omega
    have hb := toNat_continuation (n / 64)
    have hn : (n / 4096 + 224) % 16 * 4096 + n / 64 % 64 * 64 + n % 64 = n := by omega
    have hadmits := admits3_of (a := UInt8.ofNat (n / 4096 % 16 + 224))
      (isContinuation_continuation (n / 64)) (by omega) (by omega)
    refine (decodeUtf8_three i (by omega) (by omega) hadmits
      (isContinuation_continuation n)).trans ?_
    rw [tail_continuation, tail_continuation, ha, hn]
    rfl
  · next h1 h2 h3 =>
    have ha : (UInt8.ofNat (n / 262144 % 8 + 240)).toNat = n / 262144 + 240 := by simp; omega
    have hb := toNat_continuation (n / 4096)
    have hn : (n / 262144 + 240) % 8 * 262144 + n / 4096 % 64 * 4096 + n / 64 % 64 * 64 +
        n % 64 = n := by omega
    have hadmits := admits4_of (a := UInt8.ofNat (n / 262144 % 8 + 240))
      (isContinuation_continuation (n / 4096)) (by omega) (by omega)
    refine (decodeUtf8_four i (by omega) (by omega) hadmits (isContinuation_continuation (n / 64))
      (isContinuation_continuation n)).trans ?_
    rw [tail_continuation, tail_continuation, tail_continuation, ha, hn]
    rfl

end Utf8

theorem charUnits_lt (c : Char) : ∀ u ∈ charUnits c, u < 0x10000 := by
  have hc := Text.toNat_cases c
  intro u hu
  unfold charUnits at hu
  split at hu
  · simp at hu
    omega
  · simp [Text.halves] at hu
    omega

theorem joinUnits_charUnits (c : Char) (us : List Nat) :
    joinUnits (charUnits c ++ us) = .scalar c :: joinUnits us := by
  have hc := Text.toNat_cases c
  have hpoint := CodePoint.ofNat_toNat c
  unfold charUnits
  split
  · cases us with
    | nil => simp [joinUnits, hpoint]
    | cons u us => simp [joinUnits, Text.isLeading_toNat, hpoint]
  · have hleading := Text.isLeading_halves (n := c.toNat) (by omega)
    have htrailing := Text.isTrailing_halves c.toNat
    have hjoin := Text.joinHalves_halves (n := c.toNat) (by omega)
    simp [joinUnits, hleading, htrailing, hjoin, hpoint]

theorem joinUnits_flatMap (cs : List Char) :
    joinUnits (cs.flatMap charUnits) = cs.map .scalar := by
  induction cs with
  | nil => rfl
  | cons c cs ih => rw [List.flatMap_cons, joinUnits_charUnits, ih, List.map_cons]

section Unit16
variable {u : Nat} (h : u < 0x10000)
include h

theorem unit16_little : unit16 .little (.ofNat (u % 256)) (.ofNat (u / 256)) = u := by
  have hu : u / 256 % 256 * 256 + u % 256 = u := by omega
  simpa [unit16] using hu

theorem unit16_big : unit16 .big (.ofNat (u / 256)) (.ofNat (u % 256)) = u := by
  have hu : u / 256 % 256 * 256 + u % 256 = u := by omega
  simpa [unit16] using hu

theorem units16_unit16 (order : Order) (i : Nat) (rest : List UInt8) :
    units16 order i (order.unit16 u ++ rest) = (u :: ·) <$> units16 order (i + 2) rest := by
  cases order
  · simp [Order.unit16, units16, unit16_little h]
  · simp [Order.unit16, units16, unit16_big h]

end Unit16

theorem units16_flatMap (order : Order) {us : List Nat} (h : ∀ u ∈ us, u < 0x10000) (i : Nat) :
    units16 order i (us.flatMap order.unit16) = .ok us := by
  induction us generalizing i with
  | nil => rfl
  | cons u us ih =>
    obtain ⟨hu, hus⟩ := List.forall_mem_cons.1 h
    rw [List.flatMap_cons, units16_unit16 hu, ih hus]
    rfl

theorem decodeUtf32_unit32 (order : Order) {n : Nat} (h : n < 0x110000) (i : Nat)
    (rest : List UInt8) : decodeUtf32 order i (order.unit32 n ++ rest) =
      (.ofNat n :: ·) <$> decodeUtf32 order (i + 4) rest := by
  have hhigh : n / 65536 < 0x10000 := by omega
  have hlow : n % 65536 < 0x10000 := by omega
  have hsum : n / 65536 * 65536 + n % 65536 = n := by omega
  cases order
  · simp only [Order.unit32, Order.unit16, List.cons_append, List.nil_append, decodeUtf32, unit32,
      unit16_little hhigh, unit16_little hlow, hsum, if_pos h]
  · simp only [Order.unit32, Order.unit16, List.cons_append, List.nil_append, decodeUtf32, unit32,
      unit16_big hhigh, unit16_big hlow, hsum, if_pos h]

theorem decodeUtf8_encode (i : Nat) (cs : List Char) :
    decodeUtf8 i (Encoding.utf8.encode cs) = .ok (cs.map .scalar) := by
  induction cs generalizing i with
  | nil => rfl
  | cons c cs ih =>
    rw [Encoding.encode, List.flatMap_cons, Encoding.encodeChar, decodeUtf8_char]
    rw [Encoding.encode] at ih
    rw [ih]
    rfl

theorem decodeUtf16_encode (order : Order) (i : Nat) (cs : List Char) :
    decodeUtf16 order i ((Encoding.utf16 order).encode cs) = .ok (cs.map .scalar) := by
  have hunits : (Encoding.utf16 order).encode cs = (cs.flatMap charUnits).flatMap order.unit16 := by
    rw [List.flatMap_assoc]
    rfl
  have hlt : ∀ u ∈ cs.flatMap charUnits, u < 0x10000 := by
    intro u hu
    obtain ⟨c, -, hc⟩ := List.mem_flatMap.1 hu
    exact charUnits_lt c u hc
  rw [decodeUtf16, hunits, units16_flatMap order hlt]
  exact congrArg Except.ok (joinUnits_flatMap cs)

theorem decodeUtf32_encode (order : Order) (i : Nat) (cs : List Char) :
    decodeUtf32 order i ((Encoding.utf32 order).encode cs) = .ok (cs.map .scalar) := by
  induction cs generalizing i with
  | nil => rfl
  | cons c cs ih =>
    have hc := Text.toNat_cases c
    rw [Encoding.encode, List.flatMap_cons, Encoding.encodeChar,
      decodeUtf32_unit32 order (by omega), CodePoint.ofNat_toNat]
    rw [Encoding.encode] at ih
    rw [ih]
    rfl

/-- The bytes that a string is kept in are its text in UTF-8. -/
theorem encode_utf8 (t : String) : Encoding.utf8.encode t.toList = t.toUTF8.data.toList := by
  have hbytes : t.toUTF8 = t.toList.utf8Encode := by
    rw [String.toUTF8_eq_toByteArray, ← String.toByteArray_ofList, String.ofList_toList]
  rw [hbytes, List.utf8Encode, List.data_toByteArray]
  rfl

/-- What is written in an encoding is read in it. -/
theorem decode_encode (e : Encoding) (i : Nat) (cs : List Char) :
    e.decode i (e.encode cs) = .ok (cs.map .scalar) := by
  cases e with
  | utf8 => exact decodeUtf8_encode i cs
  | utf16 order => exact decodeUtf16_encode order i cs
  | utf32 order => exact decodeUtf32_encode order i cs

end LiveConfig.Bytes
