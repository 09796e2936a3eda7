/-!
# Hexadecimal digits

Numbers written in lower-case hexadecimal: the last digits of a number in a fixed width, or all of
its digits, padded with zeros to a width.
-/

namespace PlanGraph.Text

/-- The lower-case digit of a value below sixteen. -/
def hexDigit (value : Nat) : Char :=
  if value < 10 then Char.ofNat (0x30 + value) else Char.ofNat (0x57 + value)

/-- The last `width` hexadecimal digits of a number. -/
def hexDigits : Nat → Nat → List Char
  | 0, _ => []
  | width + 1, value => hexDigits width (value / 16) ++ [hexDigit (value % 16)]

/-- How many hexadecimal digits a number has. -/
def hexLength (value : Nat) : Nat := Nat.log2 value / 4 + 1

/-- All hexadecimal digits of a number, with zeros in front up to the given width. -/
def paddedHex (width value : Nat) : List Char :=
  hexDigits (max width (hexLength value)) value

/-- The value of a hexadecimal digit in either case. -/
def hexValue? (c : Char) : Option Nat :=
  if '0' ≤ c ∧ c ≤ '9' then some (c.toNat - 0x30)
  else if 'a' ≤ c ∧ c ≤ 'f' then some (c.toNat - 0x57)
  else if 'A' ≤ c ∧ c ≤ 'F' then some (c.toNat - 0x37)
  else none

/-- A fixed width gives that many digits. -/
theorem length_hexDigits (width value : Nat) : (hexDigits width value).length = width := by
  induction width generalizing value with
  | zero => rfl
  | succ width ih => simp [hexDigits, ih]

end PlanGraph.Text
