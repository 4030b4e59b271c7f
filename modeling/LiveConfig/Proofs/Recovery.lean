import LiveConfig.Proofs.Rereading
import LiveConfig.Secret
set_option autoImplicit false

/-!
Base64 by its rule: three bytes are one number below 2^24, and so are four letters of six bits. What
is encoded obeys the rule, and whatever obeys it is decoded to the bytes. So a secret of bytes can
be had back from its snapshot.
-/
namespace LiveConfig

namespace Bytes.Base64

def alphabet : List Char :=
  "ABCDEFGHIJKLMNOPQRSTUVWXYZabcdefghijklmnopqrstuvwxyz0123456789+/".toList

def Letter (c : Char) (n : Nat) : Prop := alphabet[n]? = some c

/-- The text writes the bytes by the rule. A last group of one or two bytes is filled up with zero
bits, and with one padding character for each byte that it lacks. -/
inductive Written : List UInt8 → List Char → Prop where
  | nil : Written [] []
  | one {a : UInt8} {c d : Char} {p q : Nat} (hp : Letter c p) (hq : Letter d q)
      (value : p * 64 + q = a.toNat * 16) : Written [a] [c, d, '=', '=']
  | two {a b : UInt8} {c d e : Char} {p q r : Nat} (hp : Letter c p) (hq : Letter d q)
      (hr : Letter e r) (value : (p * 64 + q) * 64 + r = (a.toNat * 256 + b.toNat) * 4) :
      Written [a, b] [c, d, e, '=']
  | three {a b x : UInt8} {c d e f : Char} {p q r s : Nat} {bs : List UInt8} {cs : List Char}
      (hp : Letter c p) (hq : Letter d q) (hr : Letter e r) (hs : Letter f s)
      (value : ((p * 64 + q) * 64 + r) * 64 + s = (a.toNat * 256 + b.toNat) * 256 + x.toNat)
      (rest : Written bs cs) : Written (a :: b :: x :: bs) (c :: d :: e :: f :: cs)

theorem letter_digit {n : Nat} (h : n < 64) : Letter (digit n) n := by
  revert n
  simp only [Letter]
  decide

section Letter
variable {c : Char} {n : Nat} (h : Letter c n)
include h

theorem Letter.lt : n < 64 := (List.getElem?_eq_some_iff.1 h).1

theorem Letter.eq_digit : c = digit n := Option.some.inj (h.symm.trans (letter_digit h.lt))

/-- There are 64 letters to look at. -/
theorem Letter.of_digits {P : Char → Nat → Prop} (hall : ∀ n < 64, P (digit n) n) : P c n := by
  rw [h.eq_digit]
  exact hall n h.lt

theorem Letter.value : value? c = some n :=
  h.of_digits (P := fun c n => value? c = some n) (by decide)

theorem Letter.ne_padding : c ≠ '=' := h.of_digits (P := fun c _ => c ≠ '=') (by decide)

theorem Letter.ascii : c.toNat < 0x80 := h.of_digits (P := fun c _ => c.toNat < 0x80) (by decide)

end Letter

theorem written_encode (bs : List UInt8) : Written bs (encode bs) := by
  fun_induction encode bs with
  | case1 => exact .nil
  | case2 a =>
    have ha := a.toNat_lt
    exact .one (letter_digit (by omega)) (letter_digit (by omega)) (by omega)
  | case3 a b =>
    have ha := a.toNat_lt
    have hb := b.toNat_lt
    exact .two (letter_digit (by omega)) (letter_digit (by omega)) (letter_digit (by omega))
      (by omega)
  | case4 a b c rest ih =>
    have ha := a.toNat_lt
    have hb := b.toNat_lt
    have hc := c.toNat_lt
    exact .three (letter_digit (by omega)) (letter_digit (by omega)) (letter_digit (by omega))
      (letter_digit (by omega)) (by omega) ih

theorem ofNat_eq {n : Nat} {a : UInt8} (h : n % 256 = a.toNat) : UInt8.ofNat n = a :=
  UInt8.toNat_inj.1 (by simpa using h)

theorem decode_of_written {bs : List UInt8} {cs : List Char} (h : Written bs cs) :
    decode cs = some bs := by
  induction h with
  | nil => rfl
  | @one a c d p q hp hq value =>
    have hpl := hp.lt
    have hql := hq.lt
    have hal := a.toNat_lt
    have ha : UInt8.ofNat (p * 4 + q / 16) = a := ofNat_eq (by omega)
    simp only [decode, hp.value, hq.value, Option.bind_eq_bind, Option.bind_some, ha]
    rfl
  | @two a b c d e p q r hp hq hr value =>
    have hpl := hp.lt
    have hql := hq.lt
    have hrl := hr.lt
    have hal := a.toNat_lt
    have hbl := b.toNat_lt
    have ha : UInt8.ofNat (p * 4 + q / 16) = a := ofNat_eq (by omega)
    have hb : UInt8.ofNat (q % 16 * 16 + r / 4) = b := ofNat_eq (by omega)
    rw [decode.eq_3 c d e hr.ne_padding]
    simp only [hp.value, hq.value, hr.value, Option.bind_eq_bind, Option.bind_some, ha, hb]
    rfl
  | @three a b x c d e f p q r s bs cs hp hq hr hs value rest ih =>
    have hpl := hp.lt
    have hql := hq.lt
    have hrl := hr.lt
    have hsl := hs.lt
    have hal := a.toNat_lt
    have hbl := b.toNat_lt
    have hxl := x.toNat_lt
    have ha : UInt8.ofNat (p * 4 + q / 16) = a := ofNat_eq (by omega)
    have hb : UInt8.ofNat (q % 16 * 16 + r / 4) = b := ofNat_eq (by omega)
    have hx : UInt8.ofNat (r % 4 * 64 + s) = x := ofNat_eq (by omega)
    rw [decode.eq_4 c d e f cs (fun _ hf => absurd hf hs.ne_padding)
      (fun hf => absurd hf hs.ne_padding)]
    simp only [hp.value, hq.value, hr.value, hs.value, ih, Option.bind_eq_bind, Option.bind_some,
      ha, hb, hx]
    rfl

theorem ascii_of_written {bs : List UInt8} {cs : List Char} (h : Written bs cs) :
    Json.Ascii cs := by
  induction h with
  | nil => exact Json.ascii_nil
  | one hp hq => simp [Json.Ascii, hp.ascii, hq.ascii]
  | two hp hq hr => simp [Json.Ascii, hp.ascii, hq.ascii, hr.ascii]
  | three hp hq hr hs _ _ ih => simpa [Json.Ascii, hp.ascii, hq.ascii, hr.ascii, hs.ascii] using ih

end Bytes.Base64

namespace Secret

structure OfBytes (s : Secret) (bs : List UInt8) : Prop where
  string : s.string.isPresent = false
  binary : s.binary = .bytes bs
  filled : bs ≠ []

theorem snapshot_of_bytes {s : Secret} {bs : List UInt8} (h : s.OfBytes bs) (room : Json.Room)
    (storeId : String) : s.snapshot room storeId = .ok (Table.empty.insert
      (Text.codePoints binaryKey) ((Bytes.Base64.encode bs).map .scalar)) := by
  have hpresent : (Field.bytes bs).isPresent = true := by simp [Field.isPresent, h.filled]
  simp [snapshot, h.string, h.binary, hpresent, Field.base64, Except.map]

/-- A secret of bytes is shown as one setting, in ASCII. It writes the bytes in Base64, they are had
back from it, and no other bytes make the same snapshot. -/
theorem recoverable {s : Secret} {bs : List UInt8} (h : s.OfBytes bs) (room : Json.Room)
    (storeId : String) :
    ∃ (text : String) (snapshot : Snapshot), s.snapshot room storeId = .ok snapshot ∧
      snapshot.entries = [(Text.codePoints "SecretBinary", Text.codePoints text)] ∧
      (∀ c ∈ text.toList, c.toNat < 128) ∧
      Bytes.Base64.Written bs text.toList ∧ Bytes.Base64.decode text.toList = some bs ∧
      ∀ s' bs' room' storeId', OfBytes s' bs' → s'.snapshot room' storeId' = .ok snapshot →
        bs' = bs := by
  have hwritten := Bytes.Base64.written_encode bs
  have hdecode := Bytes.Base64.decode_of_written hwritten
  refine ⟨.ofList (Bytes.Base64.encode bs), _, snapshot_of_bytes h room storeId, ?_, ?_⟩
  · rw [← Text.codePoints_ofList]
    rfl
  rw [String.toList_ofList]
  refine ⟨Bytes.Base64.ascii_of_written hwritten, hwritten, hdecode, ?_⟩
  intro s' bs' room' storeId' h' hs'
  rw [snapshot_of_bytes h' room' storeId'] at hs'
  have hsame : Bytes.Base64.encode bs' = Bytes.Base64.encode bs := by
    have hget := congrArg (·.get? (Text.codePoints binaryKey)) (Except.ok.inj hs')
    simp only [Table.get?_insert, if_true, Option.some.injEq] at hget
    exact List.map_inj_right (fun _ _ => Text.CodePoint.scalar.inj) |>.1 hget
  have hdecode' := Bytes.Base64.decode_of_written (Bytes.Base64.written_encode bs')
  rw [hsame, hdecode] at hdecode'
  exact (Option.some.inj hdecode').symm

def padded : Secret := ⟨.json (.str []), .bytes [0xFB, 0xFF, 0x00, 0x10]⟩

theorem recoverable_padded : padded.OfBytes [0xFB, 0xFF, 0x00, 0x10] ∧
    ∃ snapshot : Snapshot, padded.snapshot .usual "s" = .ok snapshot ∧
      snapshot.entries = [(Text.codePoints "SecretBinary", Text.codePoints "+/8AEA==")] ∧
      ∀ s' bs' room' storeId', OfBytes s' bs' → s'.snapshot room' storeId' = .ok snapshot →
        bs' = [0xFB, 0xFF, 0x00, 0x10] := by
  have hbytes : padded.OfBytes [0xFB, 0xFF, 0x00, 0x10] := ⟨rfl, rfl, by decide⟩
  obtain ⟨text, snapshot, hs, he, -, -, -, honly⟩ := recoverable hbytes .usual "s"
  refine ⟨hbytes, snapshot, hs, ?_, honly⟩
  rw [snapshot_of_bytes hbytes] at hs
  cases hs
  decide

end Secret

end LiveConfig
