/-!
# Binary floating point of 64 bits

A finite number is a sign and a count of the smallest positive number, `2^-1074`, so that
comparison and addition are those of the integers, followed by one rounding. A count is
representable when its binary form has at most 53 digits before the trailing zeros.
-/

namespace PlanGraph

/-- A number of the 64-bit binary format. -/
inductive Binary64 where
  /-- No number. -/
  | nan
  /-- Beyond every finite number, on one side. -/
  | infinite (negative : Bool)
  /-- A count of `2^-1074`, with a sign that zero has too. -/
  | finite (negative : Bool) (units : Nat)
deriving DecidableEq, Inhabited

namespace Binary64

/-! ## Rounding -/

/-- The units in one. -/
def unitsPerOne : Nat := Nat.pow 2 1074

/-- The first count past the finite range. -/
def overflow : Nat := Nat.pow 2 1024 * unitsPerOne

/-- The whole number nearest to a quotient; halfway it is the even one. -/
def roundQuotient (dividend divisor : Nat) : Nat :=
  let whole := dividend / divisor
  let twice := 2 * (dividend % divisor)
  if twice < divisor then whole
  else if divisor < twice then whole + 1
  else if whole % 2 = 0 then whole else whole + 1

/-- The representable count nearest to a quotient; halfway it is the one with an even last place. -/
def roundUnits (dividend divisor : Nat) : Nat :=
  let whole := dividend / divisor
  let step := Nat.pow 2 (Nat.log2 whole - 52)
  roundQuotient dividend (divisor * step) * step

/-- The number with the given sign nearest to a quotient of units. -/
def ofUnits (negative : Bool) (dividend divisor : Nat) : Binary64 :=
  let units := roundUnits dividend divisor
  if units < overflow then finite negative units else infinite negative

/-- The number nearest to an integer. -/
def ofInt (n : Int) : Binary64 :=
  ofUnits (decide (n < 0)) (n.natAbs * unitsPerOne) 1

/-- The number nearest to `digits · 10^exponent`. An exponent that puts the value past the finite
range, or below half the smallest number, is answered without computing the power. -/
def ofDecimal (negative : Bool) (digits : Nat) (exponent : Int) : Binary64 :=
  if digits = 0 then finite negative 0
  else
    let places : Int := (Nat.toDigits 10 digits).length
    if 310 < places + exponent then infinite negative
    else if places + exponent < -330 then finite negative 0
    else if 0 ≤ exponent then
      ofUnits negative (digits * Nat.pow 10 exponent.toNat * unitsPerOne) 1
    else ofUnits negative (digits * unitsPerOne) (Nat.pow 10 (-exponent).toNat)

/-! ## Value -/

/-- The signed count of a finite number. -/
def signed? : Binary64 → Option Int
  | finite true units => some (-(units : Int))
  | finite false units => some units
  | _ => none

/-- Zero, of either sign. -/
def isZero : Binary64 → Bool
  | finite _ units => units == 0
  | _ => false

/-- The integer that a number is, if it is one. -/
def toInt? (x : Binary64) : Option Int :=
  match x.signed? with
  | some count => if count % unitsPerOne = 0 then some (count / unitsPerOne) else none
  | none => none

/-- The sum, rounded once. A sum of zeros is negative only when both are. -/
def add : Binary64 → Binary64 → Binary64
  | nan, _ => nan
  | _, nan => nan
  | infinite s, infinite t => if s = t then infinite s else nan
  | infinite s, finite _ _ => infinite s
  | finite _ _, infinite t => infinite t
  | finite s m, finite t n =>
    if s = t then ofUnits s (m + n) 1
    else if m = n then finite false 0
    else if n < m then ofUnits s (m - n) 1
    else ofUnits t (n - m) 1

/-- The order of two numbers; none if one of them is no number. -/
def compare? : Binary64 → Binary64 → Option Ordering
  | nan, _ => none
  | _, nan => none
  | infinite s, infinite t =>
    some (if s = t then .eq else if s then .lt else .gt)
  | infinite s, finite _ _ => some (if s then .lt else .gt)
  | finite _ _, infinite t => some (if t then .gt else .lt)
  | finite s m, finite t n =>
    let a : Int := if s then -(m : Int) else m
    let b : Int := if t then -(n : Int) else n
    some (compare a b)

/-- The order of a number and an integer, which is not rounded first. -/
def compareInt? (x : Binary64) (n : Int) : Option Ordering :=
  match x with
  | nan => none
  | infinite s => some (if s then .lt else .gt)
  | finite s m => some (compare (if s then -(m : Int) else (m : Int)) (n * unitsPerOne))

end Binary64

end PlanGraph
