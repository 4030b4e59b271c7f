set_option autoImplicit false

/-!
Exact views of binary64 numbers: a finite magnitude as significand · 2^exponent, comparison
with integers, the nearest integer, and the number nearest to a decimal.
-/
namespace LiveConfig.Decimal

/-- The value significand · 2^exponent. The gap below it is half the gap above it when narrow. -/
structure Magnitude where
  significand : Nat
  exponent : Int
  narrow : Bool
  deriving DecidableEq, Repr

/-- The magnitude of a number that is neither infinite nor undefined. -/
def Magnitude.ofFloat (x : Float) : Magnitude :=
  let bits : Nat := x.toBits.toNat
  let biased : Nat := bits / Nat.pow 2 52 % Nat.pow 2 11
  let fraction : Nat := bits % Nat.pow 2 52
  if biased = 0 then ⟨fraction, -1074, false⟩
  else ⟨Nat.pow 2 52 + fraction, (biased : Int) - 1075, fraction = 0 && 1 < biased⟩

def isNegative (x : Float) : Bool := x.toBits.toNat / Nat.pow 2 63 = 1

/-- Whether a number is at least an integer; an undefined number never is. -/
def atLeast (x : Float) (z : Int) : Bool :=
  if x.isNaN then false
  else if x.isInf then !isNegative x
  else
    let v := Magnitude.ofFloat x
    let m : Int := if isNegative x then -(v.significand : Int) else v.significand
    z * (Nat.pow 2 (-v.exponent).toNat : Nat) ≤ m * (Nat.pow 2 v.exponent.toNat : Nat)

/-- The nearest natural number, of two equally near ones the even one. -/
def Magnitude.nearest (v : Magnitude) : Nat :=
  if 0 ≤ v.exponent then v.significand * Nat.pow 2 v.exponent.toNat
  else
    let unit := Nat.pow 2 (-v.exponent).toNat
    let q := v.significand / unit
    let r := v.significand % unit
    if unit < 2 * r || (unit = 2 * r && q % 2 = 1) then q + 1 else q

/-- The number nearest to digits · 10^exponent. Beyond the range it is infinite or zero. -/
def ofDecimal (negative : Bool) (digits : Nat) (exponent : Int) : Float :=
  let size : Int := exponent + (Nat.toDigits 10 digits).length
  let x :=
    if digits = 0 || size < -400 then (0 : Float)
    else if 400 < size then 1 / 0
    else Float.ofScientific digits (exponent < 0) exponent.natAbs
  if negative then -x else x

end LiveConfig.Decimal
