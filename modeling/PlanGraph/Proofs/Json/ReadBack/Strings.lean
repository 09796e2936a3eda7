import PlanGraph.Json.Printer
import PlanGraph.Proofs.Json.Respacing.Strings

/-!
# Strings that are read back

A string is read back from its text whatever it holds (`readString_writeString`): what is escaped is
unescaped, a character above the basic plane from the two units that it is written as.
-/

namespace PlanGraph.Json

section

variable {c : Char} {tail : List Char} {opened fuel : Nat}

/-! ## Units -/

/-- The digits of a unit are read back. -/
theorem readUnit?_hexDigits {unit : Nat} (h : unit < 0x10000) (tail : List Char) :
    readUnit? (Text.hexDigits 4 unit ++ tail) = some (unit, tail) := by
  have digits : ∀ v < 16, Text.hexValue? (Text.hexDigit v) = some v := by decide
  have digit (v : Nat) := digits (v % 16) (Nat.mod_lt v (by decide))
  simp only [Text.hexDigits, List.nil_append, List.cons_append, readUnit?, digit]
  refine congrArg (fun value => some (value, tail)) ?_
  omega

/-- A unit that is no surrogate is read back as its character. -/
theorem readUnitEscape_of_basic (h : c.toNat < 0x10000) (more : tail ≠ []) :
    readUnitEscape (Text.hexDigits 4 c.toNat ++ tail) = .ok (c, tail) := by
  have valid : c.toNat < 0xd800 ∨ 0xdfff < c.toNat ∧ c.toNat < 0x110000 := c.valid
  rw [readUnitEscape, readUnit?_hexDigits h]
  have noHigh : ¬ (0xd800 ≤ c.toNat ∧ c.toNat < 0xdc00) := by omega
  have noSurrogate : ¬ (0xd800 ≤ c.toNat ∧ c.toNat < 0xe000) := by omega
  simp only [List.isEmpty_iff, if_neg more, if_neg noHigh, charOfUnit, if_neg noSurrogate,
    Char.ofNat_toNat]
  rfl

/-- A pair of surrogates is read back as the character that it stands for. -/
theorem readUnitEscape_of_pair (h : 0x10000 ≤ c.toNat) (more : tail ≠ []) :
    readUnitEscape (Text.hexDigits 4 (0xd800 + (c.toNat - 0x10000) / 0x400) ++
      (unitEscape (0xdc00 + (c.toNat - 0x10000) % 0x400) ++ tail)) = .ok (c, tail) := by
  have valid : c.toNat < 0xd800 ∨ 0xdfff < c.toNat ∧ c.toNat < 0x110000 := c.valid
  generalize highIs : 0xd800 + (c.toNat - 0x10000) / 0x400 = high
  generalize lowIs : 0xdc00 + (c.toNat - 0x10000) % 0x400 = low
  have isHigh : 0xd800 ≤ high ∧ high < 0xdc00 := by omega
  have isLow : 0xdc00 ≤ low ∧ low < 0xe000 := by omega
  have joined : 0x10000 + (high - 0xd800) * 0x400 + (low - 0xdc00) = c.toNat := by omega
  have second : readLowSurrogate? (unitEscape low ++ tail) = .ok (some low, tail) := by
    rw [unitEscape, List.cons_append, List.cons_append,
      readLowSurrogate?_of_unit (readUnit?_hexDigits (by omega) tail) more, if_pos isLow]
  rw [readUnitEscape, readUnit?_hexDigits (by omega)]
  simp only [List.isEmpty_iff, if_neg (show unitEscape low ++ tail ≠ [] by simp [unitEscape]),
    if_pos isHigh, second, ok_bind, joined, Char.ofNat_toNat]
  rfl

theorem readEscape_unit (opened : Nat) (text : List Char) :
    readEscape opened ('u' :: text) = readUnitEscape text := rfl

/-! ## Characters -/

/-- A backslash and what follows it are read as one character. -/
theorem readChars_of_escape {text : List Char}
    (h : ∀ opened, readEscape opened text = .ok (c, tail)) :
    readChars opened (fuel + 1) ('\\' :: text) =
      readChars opened fuel tail >>= fun found => pure (c :: found.1, found.2) := by
  rw [readChars, h, ok_bind]

/-- A written character is read back, whatever follows. -/
theorem readChars_writeChar (c : Char) (more : tail ≠ []) :
    readChars opened (fuel + 1) (writeChar c ++ tail) =
      readChars opened fuel tail >>= fun found => pure (c :: found.1, found.2) := by
  unfold writeChar
  split
  · subst c
    exact readChars_of_escape fun _ => rfl
  split
  · subst c
    exact readChars_of_escape fun _ => rfl
  split
  · subst c
    exact readChars_of_escape fun _ => rfl
  split
  · subst c
    exact readChars_of_escape fun _ => rfl
  split
  · subst c
    exact readChars_of_escape fun _ => rfl
  split
  · rename_i isBackspace
    obtain rfl : Char.ofNat 0x8 = c := by rw [← isBackspace, Char.ofNat_toNat]
    exact readChars_of_escape fun _ => rfl
  split
  · rename_i isFormFeed
    obtain rfl : Char.ofNat 0xc = c := by rw [← isFormFeed, Char.ofNat_toNat]
    exact readChars_of_escape fun _ => rfl
  split
  · rename_i noQuote noBackslash _ _ _ _ _ printable
    rw [List.singleton_append, readChars, if_neg (by omega)]
    · exact noQuote
    · exact noBackslash
  split
  · rename_i basic
    exact readChars_of_escape fun _ =>
      (readEscape_unit _ _).trans (readUnitEscape_of_basic basic more)
  · rename_i above
    rw [unitEscape, List.append_assoc, List.cons_append, List.cons_append]
    exact readChars_of_escape fun _ =>
      (readEscape_unit _ _).trans (readUnitEscape_of_pair (Nat.le_of_not_lt above) more)

theorem writeChar_ne_nil (c : Char) : writeChar c ≠ [] := by
  unfold writeChar
  repeat' split
  all_goals simp [unitEscape]

/-- A written string is read back. -/
theorem readString_writeString (s : String) (tail : List Char) :
    readString (s.toList.flatMap writeChar ++ '"' :: tail) = .ok (s, tail) := by
  have inside (chars : List Char) (fuel : Nat) (enough : chars.length < fuel) (opened : Nat) :
      readChars opened fuel (chars.flatMap writeChar ++ '"' :: tail) = .ok (chars, tail) := by
    induction chars generalizing fuel with
    | nil =>
        obtain ⟨fuel, rfl⟩ := Nat.exists_eq_succ_of_ne_zero (Nat.ne_zero_of_lt enough)
        rfl
    | cons c chars ih =>
        obtain ⟨fuel, rfl⟩ := Nat.exists_eq_succ_of_ne_zero (Nat.ne_zero_of_lt enough)
        rw [List.flatMap_cons, List.append_assoc, readChars_writeChar c (by simp),
          ih fuel (Nat.lt_of_succ_lt_succ enough), ok_bind]
        rfl
  have long : s.toList.length ≤ (s.toList.flatMap writeChar).length := by
    induction s.toList with
    | nil => exact Nat.le_refl _
    | cons c chars ih =>
        have := List.length_pos_iff.mpr (writeChar_ne_nil c)
        rw [List.flatMap_cons, List.length_append, List.length_cons]
        omega
  rw [readString, inside s.toList _ _ _, ok_bind]
  · exact congrArg (fun t => Except.ok (t, tail)) String.ofList_toList
  · rw [List.length_append, List.length_cons]
    omega

end

end PlanGraph.Json
