import PlanGraph.Text.Blank
import PlanGraph.Text.Digits

/-!
# Integers as settings spell them

An integer between blanks: a sign or none, then digits of any script, with single underscores
between them where the writer likes.
-/

namespace PlanGraph.Text

/-- Why a text is no integer. -/
inductive IntegerFlaw where
  /-- It does not have the form of one. -/
  | malformed
  /-- It has too many digits. -/
  | oversized (digits : Nat)
deriving DecidableEq

/-- A blank that may stand around an integer: any but the four separators of ASCII. -/
def isIntegerSpace (c : Char) : Bool :=
  isBlank c && !(0x1c ≤ c.toNat && c.toNat ≤ 0x1f)

/-- The digit values that follow a digit, each after one underscore or none, and the rest. -/
def moreDigits : List Char → List Nat × List Char
  | '_' :: c :: rest =>
    match digitValue? c with
    | some value => (value :: (moreDigits rest).1, (moreDigits rest).2)
    | none => ([], '_' :: c :: rest)
  | c :: rest =>
    match digitValue? c with
    | some value => (value :: (moreDigits rest).1, (moreDigits rest).2)
    | none => ([], c :: rest)
  | [] => ([], [])

/-- The digit values that a text starts with, and the rest. -/
def leadingDigits (text : List Char) : List Nat × List Char :=
  match text with
  | '_' :: _ => ([], text)
  | _ => moreDigits text

/-- The sign that a text starts with, and the rest. -/
def leadingSign : List Char → Int × List Char
  | '-' :: rest => (-1, rest)
  | '+' :: rest => (1, rest)
  | text => (1, text)

/-- The integer that a text spells. A misplaced underscore is noticed before the digits are
counted, and what follows the digits afterwards. -/
def readInteger (text : List Char) : Except IntegerFlaw Int :=
  let (sign, body) := leadingSign (text.dropWhile isIntegerSpace)
  let (digits, rest) := leadingDigits body
  if digits.isEmpty || rest.head? == some '_' then .error .malformed
  else if maxIntegerDigits < digits.length then .error (.oversized digits.length)
  else if rest.all isIntegerSpace then .ok (sign * ofDigitValues digits)
  else .error .malformed

end PlanGraph.Text
