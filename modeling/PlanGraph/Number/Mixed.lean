import PlanGraph.Number.Binary64

/-!
# Whole and floating numbers together

A number is an integer of any size or a 64-bit floating number. The two kinds are compared by exact
value; a sum with an integer stays whole when the other number is whole.
-/

namespace PlanGraph

/-- An integer or a floating number. -/
inductive Number where
  /-- An integer of any size. -/
  | whole (n : Int)
  /-- A floating number. -/
  | real (x : Binary64)
deriving DecidableEq, Inhabited

namespace Number

/-- The order of two numbers by exact value; none if one of them is no number. -/
def compare? : Number → Number → Option Ordering
  | whole m, whole n => some (compare m n)
  | whole m, real y => (y.compareInt? m).map Ordering.swap
  | real x, whole n => x.compareInt? n
  | real x, real y => x.compare? y

/-- Equal by value. -/
def same (a b : Number) : Bool :=
  a.compare? b == some .eq

/-- Smaller by value. -/
def less (a b : Number) : Bool :=
  a.compare? b == some .lt

/-- The sum with an integer, of the kind of the first number. -/
def addInt : Number → Int → Number
  | whole m, n => whole (m + n)
  | real x, n => real (x.add (Binary64.ofInt n))

/-- Zero, of any kind and sign. -/
def isZero : Number → Bool
  | whole n => n == 0
  | real x => x.isZero

end Number

end PlanGraph
