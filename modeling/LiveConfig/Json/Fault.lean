set_option autoImplicit false

/-! Why a text is not read as JSON, and where, or a value is not written. -/
namespace LiveConfig.Json

inductive Problem where
  | value
  | propertyName
  | colon
  | comma
  | extraData
  | openString
  | controlCharacter
  | escape
  | unicodeEscape
  | byteOrderMark
  deriving DecidableEq, Repr

def Problem.text : Problem → String
  | .value => "Expecting value"
  | .propertyName => "Expecting property name enclosed in double quotes"
  | .colon => "Expecting ':' delimiter"
  | .comma => "Expecting ',' delimiter"
  | .extraData => "Extra data"
  | .openString => "Unterminated string starting at"
  | .controlCharacter => "Invalid control character at"
  | .escape => "Invalid \\escape"
  | .unicodeEscape => "Invalid \\uXXXX escape"
  | .byteOrderMark => "Unexpected UTF-8 BOM (decode using utf-8-sig)"

/-- Lines and columns count from one, offsets from zero. -/
structure Place where
  line : Nat
  column : Nat
  offset : Nat
  deriving DecidableEq, Repr

/-- What is under way when values turn out to be nested too deeply. -/
inductive Work where
  | readingObject
  | readingArray
  | writing
  deriving DecidableEq, Repr

def Work.text : Work → String
  | .readingObject => "decoding a JSON object from a unicode string"
  | .readingArray => "decoding a JSON array from a unicode string"
  | .writing => "encoding a JSON object"

inductive Fault where
  | malformed (problem : Problem) (place : Place)
  | tooManyDigits (count : Nat)
  | tooDeep (work : Work)
  deriving DecidableEq, Repr

def Fault.message : Fault → String
  | .malformed problem p => s!"{problem.text}: line {p.line} column {p.column} (char {p.offset})"
  | .tooManyDigits count =>
    "Exceeds the limit (4300 digits) for integer string conversion: " ++
      s!"value has {count} digits; use sys.set_int_max_str_digits() to increase the limit"
  | .tooDeep work => s!"maximum recursion depth exceeded while {work.text}"

end LiveConfig.Json
