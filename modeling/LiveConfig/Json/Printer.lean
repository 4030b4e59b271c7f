import LiveConfig.Json.Basic
import LiveConfig.Decimal.Shortest
import LiveConfig.Text.Quoted
set_option autoImplicit false

/-!
Writing of JSON in ASCII: other characters become escapes, those above U+FFFF two of them. One
form is a single line, the other is indented and sorts the members of every object.
-/
namespace LiveConfig.Json
open Text (CodePoint)

/-- Numbers are positional from 10^-4 on and below 10^16. -/
def numberLayout : Decimal.Layout := ⟨-4, 15⟩

def floatChars (x : Float) : List Char :=
  if x.isNaN then "NaN".toList
  else if x.isInf then (if Decimal.isNegative x then "-Infinity" else "Infinity").toList
  else numberLayout.finiteText x

def unicodeEscape (n : Nat) : List Char := '\\' :: 'u' :: Text.hexDigits 4 n

def escapeScalar (c : Char) : List Char :=
  if c = '"' then ['\\', '"']
  else if c = '\\' then ['\\', '\\']
  else if c = '\n' then ['\\', 'n']
  else if c = '\r' then ['\\', 'r']
  else if c = '\t' then ['\\', 't']
  else if c = '\x08' then ['\\', 'b']
  else if c = '\x0c' then ['\\', 'f']
  else if 0x20 ≤ c.toNat ∧ c.toNat < 0x7F then [c]
  else if c.toNat < 0x10000 then unicodeEscape c.toNat
  else
    let (leading, trailing) := Text.halves c.toNat
    unicodeEscape leading ++ unicodeEscape trailing

def escapePoint : CodePoint → List Char
  | .scalar c => escapeScalar c
  | .surrogate i => unicodeEscape (0xD800 + i.val)

def stringChars (points : List CodePoint) : List Char := '"' :: points.flatMap escapePoint ++ ['"']

mutual

def compactChars : Json → List Char
  | .null => ['n', 'u', 'l', 'l']
  | .bool true => ['t', 'r', 'u', 'e']
  | .bool false => ['f', 'a', 'l', 's', 'e']
  | .int z => Text.integerText z
  | .float x => floatChars x
  | .str points => stringChars points
  | .arr [] => ['[', ']']
  | .arr (v :: more) => '[' :: compactChars v ++ moreElements more ++ [']']
  | .obj [] => ['\x7b', '\x7d']
  | .obj ((k, v) :: more) =>
    '\x7b' :: stringChars k ++ ':' :: ' ' :: compactChars v ++ moreMembers more ++ ['\x7d']

def moreElements : List Json → List Char
  | [] => []
  | v :: more => ',' :: ' ' :: compactChars v ++ moreElements more

def moreMembers : List (List CodePoint × Json) → List Char
  | [] => []
  | (k, v) :: more =>
    ',' :: ' ' :: stringChars k ++ ':' :: ' ' :: compactChars v ++ moreMembers more

end

def compact (v : Json) : String := String.ofList (compactChars v)

/-- The order of keys, by the numbers of their code points. -/
def pointsBefore : List CodePoint → List CodePoint → Bool
  | [], _ => true
  | _ :: _, [] => false
  | a :: as, b :: bs => a.toNat < b.toNat || (a.toNat = b.toNat && pointsBefore as bs)

/-- A new line and two blanks for each level of nesting. -/
def newLine (depth : Nat) : List Char := '\n' :: List.replicate (2 * depth) ' '

mutual

def sortKeys : Json → Json
  | .arr elements => .arr (sortElements elements)
  | .obj members => .obj ((sortMembers members).mergeSort fun a b => pointsBefore a.1 b.1)
  | v => v

def sortElements : List Json → List Json
  | [] => []
  | v :: more => sortKeys v :: sortElements more

def sortMembers : List (List CodePoint × Json) → List (List CodePoint × Json)
  | [] => []
  | (k, v) :: more => (k, sortKeys v) :: sortMembers more

end

mutual

def indentedChars (depth : Nat) : Json → List Char
  | .arr [] => ['[', ']']
  | .arr (v :: more) =>
    '[' :: newLine (depth + 1) ++ indentedChars (depth + 1) v ++ indentedElements depth more ++
      newLine depth ++ [']']
  | .obj [] => ['\x7b', '\x7d']
  | .obj ((k, v) :: more) =>
    '\x7b' :: newLine (depth + 1) ++ stringChars k ++ ':' :: ' ' :: indentedChars (depth + 1) v ++
      indentedMembers depth more ++ newLine depth ++ ['\x7d']
  | .str points => stringChars points
  | v => compactChars v

def indentedElements (depth : Nat) : List Json → List Char
  | [] => []
  | v :: more =>
    ',' :: newLine (depth + 1) ++ indentedChars (depth + 1) v ++ indentedElements depth more

def indentedMembers (depth : Nat) : List (List CodePoint × Json) → List Char
  | [] => []
  | (k, v) :: more =>
    ',' :: newLine (depth + 1) ++ stringChars k ++ ':' :: ' ' :: indentedChars (depth + 1) v ++
      indentedMembers depth more

end

def indented (v : Json) : String := String.ofList (indentedChars 0 (sortKeys v))

/-- A string stands for itself, any other value for its text. -/
def plainText : Json → Text.Points
  | .str points => points
  | v => Text.codePoints (compact v)

end LiveConfig.Json
