import LiveConfig.Json.Basic
import LiveConfig.Json.Fault
import LiveConfig.Decimal.Binary64
import LiveConfig.Text.Integer
set_option autoImplicit false

/-!
Reading of JSON. Besides the standard, the numbers NaN, Infinity and -Infinity are read, and a
string may name halves of surrogate pairs. Every reader returns what it has not consumed; a
fault is placed by how much was left. Objects and arrays are read as deep as there are levels.
-/
namespace LiveConfig.Json
open Text (CodePoint)

inductive Stop where
  | malformed (problem : Problem) (left : Nat)
  | tooManyDigits (count : Nat)
  | tooDeep (work : Work)
  deriving DecidableEq, Repr

abbrev Read (α : Type) := Except Stop (α × List CodePoint)

def stop {α : Type} (problem : Problem) (rest : List CodePoint) : Except Stop α :=
  .error (.malformed problem rest.length)

def isSpace : CodePoint → Bool
  | .scalar c => c = ' ' || c = '\t' || c = '\n' || c = '\r'
  | .surrogate _ => false

def skipSpace (s : List CodePoint) : List CodePoint := s.dropWhile isSpace

def isDigit : CodePoint → Bool
  | .scalar c => c.isDigit
  | .surrogate _ => false

def digitValue (c : CodePoint) : Nat := c.toNat - 48

def hexValue? : CodePoint → Option Nat
  | .scalar c =>
    let n := c.toNat
    if c.isDigit then some (n - 48)
    else if 97 ≤ n ∧ n ≤ 102 then some (n - 87)
    else if 65 ≤ n ∧ n ≤ 70 then some (n - 55)
    else none
  | .surrogate _ => none

/-- The number that four hexadecimal digits write; one more character has to follow them. -/
def hex4? : List CodePoint → Option (Nat × List CodePoint)
  | a :: b :: c :: d :: e :: rest => do
    let a ← hexValue? a
    let b ← hexValue? b
    let c ← hexValue? c
    let d ← hexValue? d
    return (((a * 16 + b) * 16 + c) * 16 + d, e :: rest)
  | _ => none

/-- A trailing half that follows a leading one as an escape. One that is malformed is refused,
one that is no trailing half is left alone. -/
def afterLeading (leading : Nat) (rest : List CodePoint) : Read CodePoint :=
  match rest with
  | .scalar '\\' :: .scalar 'u' :: more =>
    if more.length < 5 then .ok (.ofNat leading, rest)
    else
      match hex4? more with
      | none => stop .unicodeEscape (.scalar 'u' :: more)
      | some (n, rest') =>
        if Text.isTrailing n then .ok (Text.joinHalves leading n, rest')
        else .ok (.ofNat leading, rest)
  | _ => .ok (.ofNat leading, rest)

def simpleEscape? : Char → Option Char
  | '"' => some '"'
  | '\\' => some '\\'
  | '/' => some '/'
  | 'b' => some '\x08'
  | 'f' => some '\x0c'
  | 'n' => some '\n'
  | 'r' => some '\r'
  | 't' => some '\t'
  | _ => none

/-- One character of a string, or none at its closing quote. The start is what was left at the
opening quote. -/
def readUnit (start : Nat) : List CodePoint → Read (Option CodePoint)
  | [] => .error (.malformed .openString start)
  | .scalar '"' :: rest => .ok (none, rest)
  | [.scalar '\\'] => .error (.malformed .openString start)
  | .scalar '\\' :: .scalar 'u' :: rest =>
    match hex4? rest with
    | none => stop .unicodeEscape (.scalar 'u' :: rest)
    | some (n, rest) =>
      if Text.isLeading n then
        match afterLeading n rest with
        | .ok (c, rest) => .ok (some c, rest)
        | .error e => .error e
      else .ok (some (.ofNat n), rest)
  | .scalar '\\' :: c :: rest =>
    match c.char?.bind simpleEscape? with
    | some d => .ok (some (.scalar d), rest)
    | none => stop .escape (.scalar '\\' :: c :: rest)
  | c :: rest => if c.toNat < 0x20 then stop .controlCharacter (c :: rest) else .ok (some c, rest)

/-- The characters of a string up to its closing quote. -/
def readUnits (start : Nat) : Nat → List CodePoint → Read (List CodePoint)
  | 0, _ => .error (.malformed .openString start)
  | fuel + 1, s =>
    match readUnit start s with
    | .error e => .error e
    | .ok (none, rest) => .ok ([], rest)
    | .ok (some c, rest) =>
      match readUnits start fuel rest with
      | .error e => .error e
      | .ok (cs, rest) => .ok (c :: cs, rest)

def readString (s : List CodePoint) : Read (List CodePoint) :=
  readUnits (s.length + 1) (s.length + 1) s

/-- Digits after a point, or none when no digit follows it. -/
def readFraction : List CodePoint → List CodePoint × List CodePoint
  | .scalar '.' :: s =>
    match s.takeWhile isDigit with
    | [] => ([], .scalar '.' :: s)
    | ds => (ds, s.dropWhile isDigit)
  | s => ([], s)

def naturalOf (ds : List CodePoint) : Nat := Text.ofDigits (ds.map digitValue)

def exponentDigits (negative : Bool) (whole s : List CodePoint) : Option Int × List CodePoint :=
  match s.takeWhile isDigit with
  | [] => (none, whole)
  | ds => (some (if negative then -(naturalOf ds : Int) else naturalOf ds), s.dropWhile isDigit)

/-- The exponent of a number, or none when no digit follows its letter and sign. -/
def readExponent (s : List CodePoint) : Option Int × List CodePoint :=
  match s with
  | .scalar c :: rest =>
    if c = 'e' || c = 'E' then
      match rest with
      | .scalar '-' :: rest => exponentDigits true s rest
      | .scalar '+' :: rest => exponentDigits false s rest
      | rest => exponentDigits false s rest
    else (none, s)
  | _ => (none, s)

/-- The digits before the point: a single zero, or digits that do not begin with one. -/
def readWhole : List CodePoint → List CodePoint × List CodePoint
  | .scalar '0' :: rest => ([.scalar '0'], rest)
  | s => (s.takeWhile isDigit, s.dropWhile isDigit)

/-- A number after its sign; the start is what the number begins with. -/
def readNumber (start : List CodePoint) (negative : Bool) (s : List CodePoint) : Read Json :=
  match readWhole s with
  | ([], _) => stop .value start
  | (whole, rest) =>
    match readFraction rest with
    | (fraction, rest) =>
      match readExponent rest with
      | (exponent?, rest) =>
        match fraction, exponent? with
        | [], none =>
          if Text.maxDigits < whole.length then .error (.tooManyDigits whole.length)
          else .ok (.int (if negative then -(naturalOf whole : Int) else naturalOf whole), rest)
        | _, _ =>
          let exponent := exponent?.getD 0 - fraction.length
          .ok (.float (Decimal.ofDecimal negative (naturalOf (whole ++ fraction)) exponent), rest)

def word (s : String) : List CodePoint := Text.codePoints s

def constants : List (List CodePoint × Json) :=
  [(word "null", .null), (word "true", .bool true), (word "false", .bool false),
   (word "NaN", .float (0 / 0)), (word "Infinity", .float (1 / 0)),
   (word "-Infinity", .float (-1 / 0))]

def readConstant (s : List CodePoint) : Option (Json × List CodePoint) :=
  constants.findSome? fun e => if e.1.isPrefixOf s then some (e.2, s.drop e.1.length) else none

def readScalar (s : List CodePoint) : Read Json :=
  match readConstant s with
  | some r => .ok r
  | none =>
    match s with
    | .scalar '-' :: rest => readNumber s true rest
    | _ => readNumber s false s

/-- The levels that are left inside an object or array. -/
def descend (work : Work) : Nat → Except Stop Nat
  | 0 => .error (.tooDeep work)
  | levels + 1 => .ok levels

@[simp] theorem descend_zero_bind {α : Type} (work : Work) (f : Nat → Except Stop α) :
    (descend work 0 >>= f) = .error (.tooDeep work) := rfl

@[simp] theorem descend_succ_bind {α : Type} (work : Work) (levels : Nat)
    (f : Nat → Except Stop α) : (descend work (levels + 1) >>= f) = f levels := rfl

mutual

/-- A value whose first character stands at the head. -/
def readValue : Nat → Nat → List CodePoint → Except Stop (Json × List CodePoint)
  | 0, _, s => stop .value s
  | fuel + 1, levels, s =>
    match s with
    | .scalar '"' :: rest => do
      let (cs, rest) ← readString rest
      return (.str cs, rest)
    | .scalar '\x7b' :: rest => do
      let levels ← descend .readingObject levels
      match skipSpace rest with
      | .scalar '\x7d' :: rest => return (.obj [], rest)
      | rest => do
        let (members, rest) ← readMembers fuel levels [] rest
        return (.obj members, rest)
    | .scalar '[' :: rest => do
      let levels ← descend .readingArray levels
      match skipSpace rest with
      | .scalar ']' :: rest => return (.arr [], rest)
      | rest => do
        let (elements, rest) ← readElements fuel levels rest
        return (.arr elements, rest)
    | s => readScalar s

def readMembers : Nat → Nat → List (List CodePoint × Json) → List CodePoint →
    Except Stop (List (List CodePoint × Json) × List CodePoint)
  | 0, _, _, s => stop .propertyName s
  | fuel + 1, levels, members, s =>
    match s with
    | .scalar '"' :: rest => do
      let (key, rest) ← readString rest
      match skipSpace rest with
      | .scalar ':' :: rest => do
        let (value, rest) ← readValue fuel levels (skipSpace rest)
        let members := assign key value members
        match skipSpace rest with
        | .scalar '\x7d' :: rest => return (members, rest)
        | .scalar ',' :: rest => readMembers fuel levels members (skipSpace rest)
        | rest => stop .comma rest
      | rest => stop .colon rest
    | s => stop .propertyName s

def readElements : Nat → Nat → List CodePoint → Except Stop (List Json × List CodePoint)
  | 0, _, s => stop .value s
  | fuel + 1, levels, s => do
    let (value, rest) ← readValue fuel levels s
    match skipSpace rest with
    | .scalar ']' :: rest => return ([value], rest)
    | .scalar ',' :: rest => do
      let (more, rest) ← readElements fuel levels (skipSpace rest)
      return (value :: more, rest)
    | rest => stop .comma rest

end

/-- Where the character is that has so many left from it on. -/
def placeOf (s : List CodePoint) (left : Nat) : Place :=
  let before := s.take (s.length - left)
  let lines := before.count (.scalar '\n')
  let column := (before.reverse.takeWhile (· ≠ .scalar '\n')).length
  ⟨lines + 1, column + 1, before.length⟩

def Stop.fault (s : List CodePoint) : Stop → Fault
  | .malformed problem left => .malformed problem (placeOf s left)
  | .tooManyDigits count => .tooManyDigits count
  | .tooDeep work => .tooDeep work

def readDocument (levels : Nat) (s : List CodePoint) : Except Stop Json := do
  let (value, rest) ← readValue (2 * s.length + 2) levels (skipSpace s)
  match skipSpace rest with
  | [] => return value
  | rest => stop .extraData rest

def ofCodePoints (levels : Nat) (s : List CodePoint) : Except Fault Json :=
  match readDocument levels s with
  | .ok value => .ok value
  | .error e => .error (e.fault s)

/-- Reads a text. A byte order mark is no part of one. -/
def ofText (levels : Nat) (s : List CodePoint) : Except Fault Json :=
  match s with
  | .scalar '\uFEFF' :: _ => .error (.malformed .byteOrderMark ⟨1, 1, 0⟩)
  | s => ofCodePoints levels s

end LiveConfig.Json
