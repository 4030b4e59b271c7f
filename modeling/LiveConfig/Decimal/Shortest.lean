import LiveConfig.Decimal.Binary64
import LiveConfig.Text.Integer
set_option autoImplicit false

/-!
The fewest decimal digits that read back as a binary64 number, and their layout. Digits are
searched on ever finer decimal grids; the two grid points around the value are the only
candidates of a grid.
-/
namespace LiveConfig.Decimal

structure Scaled where
  digits : Nat
  exponent : Int
  deriving DecidableEq, Repr

/-- Compares a · 10^i with n · 2^j. -/
def compareScaled (a : Nat) (i : Int) (n : Nat) (j : Int) : Ordering :=
  compare (a * Nat.pow 10 i.toNat * Nat.pow 2 (-j).toNat)
    (n * Nat.pow 2 j.toNat * Nat.pow 10 (-i).toNat)

/-- Whether a decimal lies among the reals that round to the value. The ends of that interval
belong to it when the significand is even. -/
def Magnitude.readsBack (v : Magnitude) (d : Scaled) : Bool :=
  let low := 4 * v.significand - (if v.narrow then 1 else 2)
  let high := 4 * v.significand + 2
  let closed := v.significand % 2 = 0
  let l := compareScaled d.digits d.exponent low (v.exponent - 2)
  let h := compareScaled d.digits d.exponent high (v.exponent - 2)
  (l = .gt || (closed && l = .eq)) && (h = .lt || (closed && h = .eq))

/-- The least k with the value below 10^k. -/
def Magnitude.scale (v : Magnitude) : Int :=
  let guess := ((Nat.log2 v.significand : Int) + v.exponent) * 30103 / 100000
  let above := fun k : Int => compareScaled 1 k v.significand v.exponent = .gt
  if above (guess - 1) then guess - 1
  else if above guess then guess
  else if above (guess + 1) then guess + 1
  else guess + 2

/-- The grid point just below or at the value, for a grid of distance 10^k. -/
def Magnitude.floorOn (v : Magnitude) (k : Int) : Nat :=
  v.significand * Nat.pow 2 v.exponent.toNat * Nat.pow 10 (-k).toNat /
    (Nat.pow 2 (-v.exponent).toNat * Nat.pow 10 k.toNat)

/-- Whether the upper of two neighbouring grid points is nearer, or as near and even. -/
def Magnitude.prefersUpper (v : Magnitude) (low : Nat) (k : Int) : Bool :=
  match compareScaled (2 * low + 1) k (2 * v.significand) v.exponent with
  | .lt => true
  | .eq => low % 2 = 1
  | .gt => false

def Magnitude.onGrid? (v : Magnitude) (k : Int) : Option Scaled :=
  let low := v.floorOn k
  let l : Scaled := ⟨low, k⟩
  let u : Scaled := ⟨low + 1, k⟩
  match v.readsBack l, v.readsBack u with
  | true, true => some (if v.prefersUpper low k then u else l)
  | true, false => some l
  | false, true => some u
  | false, false => none

/-- Without a hit on any grid the exact value is taken. -/
def Magnitude.shortest (v : Magnitude) : Scaled :=
  let top := v.scale
  ((List.range 17).findSome? fun (n : Nat) => v.onGrid? (top - 1 - n)).getD
    ⟨v.significand * Nat.pow 2 v.exponent.toNat * Nat.pow 5 (-v.exponent).toNat,
      -(-v.exponent).toNat⟩

/-- Where positional writing is used, by the exponent of the first digit. -/
structure Layout where
  leastPositional : Int
  mostPositional : Int
  deriving DecidableEq, Repr

def withoutTrailingZeros (ds : List Char) : List Char :=
  (ds.reverse.dropWhile (· = '0')).reverse

def exponentText (e : Int) : List Char :=
  let ds := Text.natDigits e.natAbs
  (if e < 0 then '-' else '+') :: (if ds.length < 2 then '0' :: ds else ds)

/-- Positional writing always has a point; an exponent has a sign and at least two digits. -/
def Layout.text (layout : Layout) (d : Scaled) : List Char :=
  let all := Text.natDigits d.digits
  let first : Int := d.exponent + all.length - 1
  let ds := withoutTrailingZeros all
  if layout.leastPositional ≤ first && first ≤ layout.mostPositional then
    if first < 0 then '0' :: '.' :: List.replicate (-first - 1).toNat '0' ++ ds
    else
      let whole := first.toNat + 1
      if ds.length ≤ whole then ds ++ List.replicate (whole - ds.length) '0' ++ ['.', '0']
      else ds.take whole ++ '.' :: ds.drop whole
  else
    match ds with
    | [] => ['0']
    | [d] => d :: 'e' :: exponentText first
    | d :: more => d :: '.' :: more ++ 'e' :: exponentText first

/-- The text of a number that is neither infinite nor undefined. -/
def Layout.finiteText (layout : Layout) (x : Float) : List Char :=
  let v := Magnitude.ofFloat x
  let body := if v.significand = 0 then ['0', '.', '0'] else layout.text v.shortest
  if isNegative x then '-' :: body else body

def wholeText (x : Float) : List Char :=
  let body :=
    if x.isNaN then ['n', 'a', 'n']
    else if x.isInf then ['i', 'n', 'f']
    else Text.natDigits (Magnitude.ofFloat x).nearest
  if isNegative x && !x.isNaN then '-' :: body else body

end LiveConfig.Decimal
