import Mathlib.Algebra.Group.Nat.Defs
import PlanGraph.Text.Hex

/-!
# Numbers told by their hexadecimal digits

Two numbers that fit into a width are equal when their digits in it are (`hexDigits_inj`). A padded
number is as wide as it needs to be, so padded digits tell every number (`paddedHex_inj`).
-/

namespace PlanGraph.Text

/-- Different values below sixteen have different digits. -/
theorem hexDigit_inj : ∀ a < 16, ∀ b < 16, hexDigit a = hexDigit b → a = b := by decide

/-- Numbers that fit into a width are told by their digits. -/
theorem hexDigits_inj {width a b : Nat} (ha : a < 16 ^ width) (hb : b < 16 ^ width)
    (same : hexDigits width a = hexDigits width b) : a = b := by
  induction width generalizing a b with
  | zero => omega
  | succ width ih =>
      obtain ⟨front, last⟩ := List.append_inj' same rfl
      have high : a / 16 = b / 16 := ih (by omega) (by omega) front
      have low : a % 16 = b % 16 :=
        hexDigit_inj _ (Nat.mod_lt _ (by decide)) _ (Nat.mod_lt _ (by decide))
          (List.head_eq_of_cons_eq last)
      omega

/-- A number has no more hexadecimal digits than it is said to have. -/
theorem lt_pow_hexLength (value : Nat) : value < 16 ^ hexLength value := by
  have bits : Nat.log2 value + 1 ≤ 4 * hexLength value := by
    unfold hexLength
    omega
  calc value < 2 ^ (Nat.log2 value + 1) := Nat.lt_log2_self
    _ ≤ 2 ^ (4 * hexLength value) := Nat.pow_le_pow_right (by decide) bits
    _ = 16 ^ hexLength value := Nat.pow_mul 2 4 _

/-- Numbers are told by their padded digits. -/
theorem paddedHex_inj {width a b : Nat} (same : paddedHex width a = paddedHex width b) :
    a = b := by
  have widths : max width (hexLength a) = max width (hexLength b) := by
    have lengths := congrArg List.length same
    rwa [paddedHex, paddedHex, length_hexDigits, length_hexDigits] at lengths
  have fits : ∀ value, value < 16 ^ max width (hexLength value) := fun value =>
    Nat.lt_of_lt_of_le (lt_pow_hexLength value)
      (Nat.pow_le_pow_right (by decide) (Nat.le_max_right ..))
  rw [paddedHex, paddedHex, ← widths] at same
  exact hexDigits_inj (fits a) (widths ▸ fits b) same

end PlanGraph.Text
