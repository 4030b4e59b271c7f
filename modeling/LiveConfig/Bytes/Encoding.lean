import LiveConfig.Text.CodePoint
import LiveConfig.Text.Quoted
set_option autoImplicit false

/-!
Bytes as text in the five Unicode encodings. Which of them a payload uses is seen from its byte
order mark, else from the zeros among its first four bytes. Halves of surrogate pairs are let
through.
-/
namespace LiveConfig.Bytes
open Text (CodePoint)

inductive Order where
  | little
  | big
  deriving DecidableEq, Repr

inductive Encoding where
  | utf8
  | utf16 (order : Order)
  | utf32 (order : Order)
  deriving DecidableEq, Repr

def Encoding.label : Encoding → String
  | .utf8 => "utf-8"
  | .utf16 .little => "utf-16-le"
  | .utf16 .big => "utf-16-be"
  | .utf32 .little => "utf-32-le"
  | .utf32 .big => "utf-32-be"

inductive Reason where
  | invalidStart
  | invalidContinuation
  | unexpectedEnd
  | truncated
  | beyondRange
  deriving DecidableEq, Repr

def Reason.text : Reason → String
  | .invalidStart => "invalid start byte"
  | .invalidContinuation => "invalid continuation byte"
  | .unexpectedEnd => "unexpected end of data"
  | .truncated => "truncated data"
  | .beyondRange => "code point not in range(0x110000)"

/-- Bytes that are no text: where the offending ones begin, what the first is, how many they
are. -/
structure Flaw where
  encoding : Encoding
  position : Nat
  byte : UInt8
  count : Nat
  reason : Reason
  deriving DecidableEq, Repr

def Flaw.message (f : Flaw) : String :=
  let place :=
    if f.count = 1 then
      s!"byte 0x{String.ofList (Text.hexDigits 2 f.byte.toNat)} in position {f.position}"
    else s!"bytes in position {f.position}-{f.position + f.count - 1}"
  s!"'{f.encoding.label}' codec can't decode {place}: {f.reason.text}"

abbrev Decoded := Except Flaw (List CodePoint)

def isContinuation (b : UInt8) : Bool := 0x80 ≤ b && b < 0xC0

def tail (b : UInt8) : Nat := b.toNat % 64

/-- Which second byte a lead byte of three bytes admits. Those of surrogates are admitted only
where all three bytes are there. -/
def admits3 (a b : UInt8) : Bool :=
  isContinuation b && !(a = 0xE0 && b < 0xA0) && !(a = 0xED && 0xA0 ≤ b)

def admits4 (a b : UInt8) : Bool :=
  isContinuation b && !(a = 0xF0 && b < 0x90) && !(a = 0xF4 && 0x90 ≤ b)

def isSurrogate3 (a b c : UInt8) : Bool :=
  a = 0xED && 0xA0 ≤ b && isContinuation b && isContinuation c

def decodeUtf8 : Nat → List UInt8 → Decoded
  | _, [] => .ok []
  | i, a :: rest =>
    let flaw := fun (count : Nat) (reason : Reason) =>
      (Except.error ⟨.utf8, i, a, count, reason⟩ : Decoded)
    if a < 0x80 then (.ofNat a.toNat :: ·) <$> decodeUtf8 (i + 1) rest
    else if a < 0xC2 then flaw 1 .invalidStart
    else if a < 0xE0 then
      match rest with
      | [] => flaw 1 .unexpectedEnd
      | b :: rest =>
        if isContinuation b then
          (.ofNat (a.toNat % 32 * 64 + tail b) :: ·) <$> decodeUtf8 (i + 2) rest
        else flaw 1 .invalidContinuation
    else if a < 0xF0 then
      match rest with
      | [] => flaw 1 .unexpectedEnd
      | [b] => if admits3 a b then flaw 2 .unexpectedEnd else flaw 1 .invalidContinuation
      | b :: c :: rest =>
        if !admits3 a b && !isSurrogate3 a b c then flaw 1 .invalidContinuation
        else if !isContinuation c then flaw 2 .invalidContinuation
        else
          (.ofNat (a.toNat % 16 * 4096 + tail b * 64 + tail c) :: ·) <$> decodeUtf8 (i + 3) rest
    else if a < 0xF5 then
      match rest with
      | [] => flaw 1 .unexpectedEnd
      | [b] => if admits4 a b then flaw 2 .unexpectedEnd else flaw 1 .invalidContinuation
      | [b, c] =>
        if !admits4 a b then flaw 1 .invalidContinuation
        else if !isContinuation c then flaw 2 .invalidContinuation
        else flaw 3 .unexpectedEnd
      | b :: c :: d :: rest =>
        if !admits4 a b then flaw 1 .invalidContinuation
        else if !isContinuation c then flaw 2 .invalidContinuation
        else if !isContinuation d then flaw 3 .invalidContinuation
        else
          (.ofNat (a.toNat % 8 * 262144 + tail b * 4096 + tail c * 64 + tail d) :: ·) <$>
            decodeUtf8 (i + 4) rest
    else flaw 1 .invalidStart

def unit16 (order : Order) (a b : UInt8) : Nat :=
  match order with
  | .little => b.toNat * 256 + a.toNat
  | .big => a.toNat * 256 + b.toNat

def unit32 (order : Order) (a b c d : UInt8) : Nat :=
  match order with
  | .little => unit16 .little c d * 65536 + unit16 .little a b
  | .big => unit16 .big a b * 65536 + unit16 .big c d

/-- Units of sixteen bits; a byte that is left over is a flaw. -/
def units16 (order : Order) : Nat → List UInt8 → Except Flaw (List Nat)
  | _, [] => .ok []
  | i, [a] => .error ⟨.utf16 order, i, a, 1, .truncated⟩
  | i, a :: b :: rest => (unit16 order a b :: ·) <$> units16 order (i + 2) rest

/-- A leading half with its trailing half is one character; a half alone stays. -/
def joinUnits : List Nat → List CodePoint
  | [] => []
  | [u] => [.ofNat u]
  | u :: v :: rest =>
    if Text.isLeading u && Text.isTrailing v then Text.joinHalves u v :: joinUnits rest
    else .ofNat u :: joinUnits (v :: rest)

def decodeUtf16 (order : Order) (start : Nat) (bytes : List UInt8) : Decoded :=
  joinUnits <$> units16 order start bytes

def decodeUtf32 (order : Order) : Nat → List UInt8 → Decoded
  | _, [] => .ok []
  | i, a :: b :: c :: d :: rest =>
    let n := unit32 order a b c d
    if n < 0x110000 then (.ofNat n :: ·) <$> decodeUtf32 order (i + 4) rest
    else .error ⟨.utf32 order, i, a, 4, .beyondRange⟩
  | i, a :: rest => .error ⟨.utf32 order, i, a, rest.length + 1, .truncated⟩

/-- Decodes bytes whose first has the given position. -/
def Encoding.decode : Encoding → Nat → List UInt8 → Decoded
  | .utf8 => decodeUtf8
  | .utf16 order => decodeUtf16 order
  | .utf32 order => decodeUtf32 order

def guessEncoding : List UInt8 → Encoding
  | a :: b :: c :: d :: _ =>
    if a = 0 then (if b = 0 then .utf32 .big else .utf16 .big)
    else if b = 0 then (if c = 0 && d = 0 then .utf32 .little else .utf16 .little)
    else .utf8
  | [a, b] => if a = 0 then .utf16 .big else if b = 0 then .utf16 .little else .utf8
  | _ => .utf8

/-- Decodes a payload. Positions count a byte order mark of UTF-16 and UTF-32, but not that of
UTF-8. -/
def decodePayload : List UInt8 → Decoded
  | 0x00 :: 0x00 :: 0xFE :: 0xFF :: rest => decodeUtf32 .big 4 rest
  | 0xFF :: 0xFE :: 0x00 :: 0x00 :: rest => decodeUtf32 .little 4 rest
  | 0xFE :: 0xFF :: rest => decodeUtf16 .big 2 rest
  | 0xFF :: 0xFE :: rest => decodeUtf16 .little 2 rest
  | 0xEF :: 0xBB :: 0xBF :: rest => decodeUtf8 0 rest
  | bytes => (guessEncoding bytes).decode 0 bytes

end LiveConfig.Bytes
