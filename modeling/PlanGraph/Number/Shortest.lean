import PlanGraph.Number.Binary64

/-!
# Shortest decimal text

A number is written with the fewest digits that read back as it; among those, with the digits
nearest to it, and of two equally near with an even last digit. The text is positional while the
decimal exponent lies between -4 and 15, and otherwise has one digit before the point and an
exponent of at least two digits.
-/

namespace PlanGraph.Binary64

/-! ## Digits -/

/-- A decimal number `digits · 10^exponent`. -/
structure Decimal where
  /-- The significant digits, as a whole number. -/
  digits : Nat
  /-- The power of ten they are counted in. -/
  exponent : Int
deriving DecidableEq

/-- A power of ten so large that each positive count has digits before the point after it was
multiplied by it. -/
def leadingScale : Nat := Nat.pow 10 330

/-- How many decimal places before the point the first digit of a positive count stands. -/
def leadingPlace (units : Nat) : Int :=
  ((Nat.toDigits 10 (units * leadingScale / unitsPerOne)).length : Int) - 330

/-- The count as a quotient in units of `10^exponent`. -/
def quotientAt (units : Nat) (exponent : Int) : Nat × Nat :=
  if 0 ≤ exponent then (units, unitsPerOne * Nat.pow 10 exponent.toNat)
  else (units * Nat.pow 10 (-exponent).toNat, unitsPerOne)

/-- The decimal reads back as the given positive count. -/
def readsBack (units : Nat) (decimal : Decimal) : Bool :=
  ofDecimal false decimal.digits decimal.exponent == finite false units

/-- The neighbours of a count on the grid of `10^exponent` that read back, the nearer one first;
of two equally near the even one comes first. -/
def candidatesAt (units : Nat) (exponent : Int) : List Decimal :=
  let (dividend, divisor) := quotientAt units exponent
  let below := dividend / divisor
  let nearest := roundQuotient dividend divisor
  let other := if nearest = below then below + 1 else below
  [⟨nearest, exponent⟩, ⟨other, exponent⟩].filter (readsBack units)

/-- The decimal nearest to a count on the grid of `10^exponent`. -/
def nearestAt (units : Nat) (exponent : Int) : Decimal :=
  let (dividend, divisor) := quotientAt units exponent
  ⟨roundQuotient dividend divisor, exponent⟩

/-- The first decimal that is found with a number of digits, from the given number on; after so many
tries the last resort is taken. -/
def searchDecimal (found? : Nat → Option Decimal) (lastResort : Nat → Decimal) :
    (tries places : Nat) → Decimal
  | 0, places => lastResort places
  | tries + 1, places =>
    match found? places with
    | some decimal => decimal
    | none => searchDecimal found? lastResort tries (places + 1)

/-- The shortest decimal for a positive count; seventeen digits always read back. -/
def shortest (units : Nat) : Decimal :=
  searchDecimal (fun places => (candidatesAt units (leadingPlace units - places)).head?)
    (fun places => nearestAt units (leadingPlace units - places)) 16 1

/-! ## Text -/

/-- Zeros at the end of a list of digits are dropped. -/
def dropTrailingZeros (digits : List Char) : List Char :=
  (digits.reverse.dropWhile (· == '0')).reverse

/-- Digits with the point after the first `place` of them; zeros fill what is missing. -/
def positional (digits : List Char) (place : Int) : List Char :=
  if place ≤ 0 then ['0', '.'] ++ List.replicate (-place).toNat '0' ++ digits
  else if digits.length ≤ place.toNat then
    digits ++ List.replicate (place.toNat - digits.length) '0' ++ ['.', '0']
  else digits.take place.toNat ++ ['.'] ++ digits.drop place.toNat

/-- The digits of an exponent, at least two. -/
def exponentDigits (exponent : Nat) : List Char :=
  if exponent < 10 then '0' :: Nat.toDigits 10 exponent else Nat.toDigits 10 exponent

/-- Digits with the point after the first one, and the exponent that this leaves. -/
def exponential (digits : List Char) (exponent : Int) : List Char :=
  let mantissa := match digits with
    | [] => ['0']
    | [digit] => [digit]
    | digit :: rest => digit :: '.' :: rest
  mantissa ++ ['e', if exponent < 0 then '-' else '+'] ++ exponentDigits exponent.natAbs

/-- The text of a positive count. -/
def unitsText (units : Nat) : List Char :=
  let decimal := shortest units
  let all := Nat.toDigits 10 decimal.digits
  let digits := dropTrailingZeros all
  let place : Int := all.length + decimal.exponent
  if -4 ≤ place - 1 ∧ place - 1 < 16 then positional digits place
  else exponential digits (place - 1)

/-- The text of a finite number, with a sign in front of negative ones and of negative zero. -/
def finiteText (negative : Bool) (units : Nat) : String :=
  let body := if units = 0 then ['0', '.', '0'] else unitsText units
  String.ofList (if negative then '-' :: body else body)

end PlanGraph.Binary64
