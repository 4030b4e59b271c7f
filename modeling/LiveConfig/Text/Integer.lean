import LiveConfig.Text.Blank
import LiveConfig.Text.Digit
set_option autoImplicit false

/-!
Integers in text: an optional sign and decimal digits of any script, where one underscore may
stand between two digits and blanks around the whole.
-/
namespace LiveConfig.Text

/-- Integers with more digits than this are not read. -/
def maxDigits : Nat := 4300

def ofDigits (digits : List Nat) : Nat := digits.foldl (fun v d => 10 * v + d) 0

/-- What may follow a digit: digits, each after at most one underscore. -/
def moreDigits : List Char → Option (List Nat)
  | [] => some []
  | '_' :: c :: rest => do return (← digit? c) :: (← moreDigits rest)
  | c :: rest => do return (← digit? c) :: (← moreDigits rest)

def digits? : List Char → Option (List Nat)
  | [] => none
  | c :: rest => do return (← digit? c) :: (← moreDigits rest)

def natural? (cs : List Char) : Option Nat := do
  let ds ← digits? cs
  if ds.length ≤ maxDigits then some (ofDigits ds) else none

def signed? : List Char → Option Int
  | '+' :: rest => (natural? rest).map Int.ofNat
  | '-' :: rest => (natural? rest).map fun n => -Int.ofNat n
  | cs => (natural? cs).map Int.ofNat

def readInteger (text : String) : Option Int := signed? (trimBy isMargin text.toList)

/-- Reads an integer after the removal of all blanks around it. -/
def readTrimmedInteger (text : String) : Option Int := signed? (trimBy isMargin (trim text.toList))

def natDigits (n : Nat) : List Char := Nat.toDigits 10 n

def integerText (z : Int) : List Char :=
  match z with
  | .ofNat n => natDigits n
  | .negSucc n => '-' :: natDigits (n + 1)

def showInteger (z : Int) : String := String.ofList (integerText z)

end LiveConfig.Text
