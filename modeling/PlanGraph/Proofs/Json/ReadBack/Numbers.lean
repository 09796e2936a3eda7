import PlanGraph.Json.Printer
import PlanGraph.Proofs.Json.Respacing.Numbers

/-!
# Numbers and names that are read back

A name or a number that a whole text is stands as well before what cannot go on with it
(`readPlain_append`), so that reading a scalar back is a matter of its own text. An integer is read
back when it has no more digits than the reader takes (`readPlain_writeInt`).
-/

namespace PlanGraph.Json

/-! ## Numbers before other text -/

/-- What may follow a number: nothing that could go on with it. -/
def EndsNumber (rest : List Char) : Prop :=
  ∀ c more, rest = c :: more → isDigit c = false ∧ c ≠ '.' ∧ c ≠ 'e' ∧ c ≠ 'E'

section

variable {text rest : List Char} {negative : Bool} {value : Json}

theorem EndsNumber.nil : EndsNumber [] := fun _ _ same => nomatch same

theorem EndsNumber.cons {c : Char} (h : isDigit c = false ∧ c ≠ '.' ∧ c ≠ 'e' ∧ c ≠ 'E') :
    EndsNumber (c :: rest) := by
  intro d more same
  rw [← (List.cons.inj same).1]
  exact h

theorem spanDigits_append (ends : EndsNumber rest) (text : List Char) :
    spanDigits (text ++ rest) = ((spanDigits text).1, (spanDigits text).2 ++ rest) := by
  induction text with
  | nil =>
      cases rest with
      | nil => rfl
      | cons c more => exact spanDigits_cons_of_no_digit (ends c more rfl).1 more
  | cons c text ih =>
      cases digit : isDigit c with
      | true =>
          rw [List.cons_append, spanDigits_cons_of_digit digit, spanDigits_cons_of_digit digit, ih]
      | false =>
          rw [List.cons_append, spanDigits_cons_of_no_digit digit,
            spanDigits_cons_of_no_digit digit, List.cons_append]

theorem readWhole?_append {found : List Char × List Char} (ends : EndsNumber rest)
    (read : readWhole? text = some found) :
    readWhole? (text ++ rest) = some (found.1, found.2 ++ rest) := by
  unfold readWhole? at read
  split at read
  · obtain rfl := Option.some.inj read
    rfl
  · rename_i notZero
    split at read
    · rename_i digit
      obtain rfl := Option.some.inj read
      rw [List.cons_append, readWhole?.eq_2 _ _ notZero, if_pos digit, ← List.cons_append,
        spanDigits_append ends]
    · cases read
  · cases read

theorem readFraction_append (ends : EndsNumber rest) (text : List Char) :
    readFraction (text ++ rest) = ((readFraction text).1, (readFraction text).2 ++ rest) := by
  by_cases point : ∃ more, text = '.' :: more
  · obtain ⟨more, rfl⟩ := point
    rw [List.cons_append, readFraction, readFraction, spanDigits_append ends]
    rcases spanDigits more with ⟨_ | ⟨d, digits⟩, after⟩ <;> rfl
  · replace point : ∀ more, text ≠ '.' :: more := fun more same => point ⟨more, same⟩
    rw [readFraction_of_no_point point, readFraction_of_no_point]
    cases text with
    | nil => exact fun more same => (ends _ _ same).2.1 rfl
    | cons c text => exact fun more same => point text (by rw [(List.cons.inj same).1])

theorem signedExponent?_append {found : Int × List Char} (ends : EndsNumber rest)
    (read : signedExponent? text = some found) :
    signedExponent? (text ++ rest) = some (found.1, found.2 ++ rest) := by
  have digits := spanDigits_append ends
  by_cases minus : ∃ more, text = '-' :: more
  · obtain ⟨more, rfl⟩ := minus
    rw [signedExponent?] at read
    rw [List.cons_append, signedExponent?, digits]
    generalize spanDigits more = span at read ⊢
    obtain ⟨_ | ⟨d, ds⟩, after⟩ := span
    · cases read
    · obtain rfl := Option.some.inj read
      rfl
  by_cases plus : ∃ more, text = '+' :: more
  · obtain ⟨more, rfl⟩ := plus
    rw [signedExponent?] at read
    rw [List.cons_append, signedExponent?, digits]
    generalize spanDigits more = span at read ⊢
    obtain ⟨_ | ⟨d, ds⟩, after⟩ := span
    · cases read
    · obtain rfl := Option.some.inj read
      rfl
  · replace minus : ∀ more, text ≠ '-' :: more := fun more same => minus ⟨more, same⟩
    replace plus : ∀ more, text ≠ '+' :: more := fun more same => plus ⟨more, same⟩
    cases text with
    | nil => cases read
    | cons c text =>
        have span : spanDigits (c :: text) =
            ((spanDigits (c :: text)).1, (spanDigits (c :: text)).2) := rfl
        rw [signedExponent?_of_no_sign minus plus span] at read
        split at read
        · cases read
        · rename_i some
          obtain rfl := Option.some.inj read
          rw [signedExponent?_of_no_sign _ _ (digits _), if_neg some]
          · exact fun more same => minus text (by rw [(List.cons.inj same).1])
          · exact fun more same => plus text (by rw [(List.cons.inj same).1])

/-- An exponent, or nothing at all, that the text ends with. -/
theorem readExponent_append (ends : EndsNumber rest) (read : (readExponent text).2 = []) :
    readExponent (text ++ rest) = ((readExponent text).1, rest) := by
  by_cases marked : ∃ c more, text = c :: more ∧ (c = 'e' ∨ c = 'E')
  · obtain ⟨c, more, rfl, mark⟩ := marked
    simp only [List.cons_append, readExponent, if_pos mark] at read ⊢
    cases signed : signedExponent? more with
    | none =>
        rw [signed] at read
        cases read
    | some found =>
        obtain ⟨exponent, after⟩ := found
        rw [signed] at read
        obtain rfl : after = [] := read
        rw [signedExponent?_append ends signed]
        rfl
  · rw [readExponent_of_no_mark fun c more same mark => marked ⟨c, more, same, mark⟩] at read ⊢
    obtain rfl : text = [] := read
    exact readExponent_of_no_mark fun c more same mark =>
      mark.elim (ends c more same).2.2.1 (ends c more same).2.2.2

theorem readMagnitude?_append {found : Except Nat Json} (ends : EndsNumber rest)
    (read : readMagnitude? negative text = some (found, [])) :
    readMagnitude? negative (text ++ rest) = some (found, rest) := by
  obtain ⟨⟨whole, afterWhole⟩, wholeRead, read⟩ := Option.bind_eq_some_iff.mp read
  rw [readMagnitude?, readWhole?_append ends wholeRead]
  simp only [Option.bind_eq_bind, Option.bind_some, readFraction_append ends] at read ⊢
  have exponent : readExponent ((readFraction afterWhole).2 ++ rest) =
      ((readExponent (readFraction afterWhole).2).1, rest) := by
    refine readExponent_append ends ?_
    repeat' split at read
    all_goals exact (Prod.mk.inj (Option.some.inj read)).2
  rw [exponent]
  split at read
  · rename_i isWhole
    rw [if_pos isWhole]
    split at read
    · rename_i oversized
      obtain ⟨rfl, -⟩ := Prod.mk.inj (Option.some.inj read)
      rw [if_pos oversized]
    · rename_i readable
      obtain ⟨rfl, -⟩ := Prod.mk.inj (Option.some.inj read)
      rw [if_neg readable]
  · rename_i isReal
    obtain ⟨rfl, -⟩ := Prod.mk.inj (Option.some.inj read)
    rw [if_neg isReal]

/-- A number starts with a digit, or with a sign and a digit. -/
theorem exists_digit_of_readNumber {here : Json × List Char} (read : readNumber text = .ok here) :
    ∃ c ∈ text.take 2, isDigit c = true := by
  have starts {text : List Char} {negative : Bool} {here : Except Nat Json × List Char}
      (read : readMagnitude? negative text = some here) : ∃ c ∈ text.take 1, isDigit c = true := by
    obtain ⟨_, whole, -⟩ := Option.bind_eq_some_iff.mp read
    unfold readWhole? at whole
    split at whole
    · exact ⟨'0', List.mem_cons_self .., by decide⟩
    · split at whole
      · rename_i digit
        exact ⟨_, List.mem_cons_self .., digit⟩
      · cases whole
    · cases whole
  by_cases minus : ∃ more, text = '-' :: more
  · obtain ⟨more, rfl⟩ := minus
    obtain ⟨c, first, digit⟩ := starts (readNumber_minus.mp read)
    exact ⟨c, List.mem_cons_of_mem _ first, digit⟩
  · obtain ⟨c, first, digit⟩ :=
      starts ((readNumber_of_no_minus fun more same => minus ⟨more, same⟩).mp read)
    exact ⟨c, (List.take_sublist_take_left (by decide)).subset first, digit⟩

/-- A text with a digit among its first two characters is no name of a value. -/
theorem readPlain_of_digit {c : Char} (early : c ∈ text.take 2) (digit : isDigit c = true) :
    readPlain text = readNumber text := by
  have words : keywords.all
      (fun entry => 2 ≤ entry.1.length && (entry.1.take 2).all (fun w => !isDigit w)) = true := by
    decide
  unfold readPlain
  split
  · rename_i found named
    obtain ⟨⟨word, value⟩, listed, dropped⟩ := List.exists_of_findSome?_eq_some named
    obtain ⟨rest, dropped, -⟩ := Option.map_eq_some_iff.mp dropped
    obtain ⟨long, letters⟩ := Bool.and_eq_true_iff.mp (List.all_eq_true.mp words _ listed)
    rw [dropWord?_eq_some dropped,
      List.take_append_of_le_length (of_decide_eq_true long)] at early
    have letter := List.all_eq_true.mp letters c early
    rw [digit] at letter
    cases letter
  · rfl

/-- The name of a value is read whatever follows. -/
theorem readPlain_word (rest : List Char) :
    ∀ entry ∈ keywords, readPlain (entry.1 ++ rest) = .ok (entry.2, rest) := by
  simp only [keywords, List.forall_mem_cons]
  exact ⟨rfl, rfl, rfl, rfl, rfl, rfl, fun _ listed => absurd listed List.not_mem_nil⟩

/-- A name or a number that a whole text is stands as well before what cannot go on with it. -/
theorem readPlain_append (ends : EndsNumber rest) (read : readPlain text = .ok (value, [])) :
    readPlain (text ++ rest) = .ok (value, rest) := by
  have plain := read
  unfold readPlain at plain
  split at plain
  · rename_i found named
    obtain rfl := Except.ok.inj plain
    obtain ⟨⟨word, value⟩, listed, dropped⟩ := List.exists_of_findSome?_eq_some named
    obtain ⟨after, dropped, same⟩ := Option.map_eq_some_iff.mp dropped
    obtain ⟨rfl, rfl⟩ := Prod.mk.inj same
    rw [dropWord?_eq_some dropped, List.append_nil]
    exact readPlain_word rest _ listed
  · obtain ⟨c, early, digit⟩ := exists_digit_of_readNumber plain
    rw [readPlain_of_digit (List.take_append ▸ List.mem_append_left _ early) digit]
    by_cases minus : ∃ more, text = '-' :: more
    · obtain ⟨more, rfl⟩ := minus
      exact readNumber_minus.mpr (readMagnitude?_append ends (readNumber_minus.mp plain))
    · replace minus : ∀ more, text ≠ '-' :: more := fun more same => minus ⟨more, same⟩
      have magnitude := (readNumber_of_no_minus minus).mp plain
      refine (readNumber_of_no_minus fun more same => ?_).mpr
        (readMagnitude?_append ends magnitude)
      cases text with
      | nil => cases magnitude
      | cons c text => exact minus text (by rw [(List.cons.inj same).1])

/-! ## Integers -/

/-- Digits alone are read to their end. -/
theorem spanDigits_of_digits {digits : List Char} (all : ∀ c ∈ digits, isDigit c = true) :
    spanDigits digits = (digits, []) := by
  simp [spanDigits, List.takeWhile_eq_self_iff.mpr all, List.dropWhile_eq_nil_iff.mpr all]

theorem isDigit_of_mem_toDigits {n : Nat} {c : Char} (h : c ∈ Nat.toDigits 10 n) :
    isDigit c = true :=
  Nat.isDigit_of_mem_toDigits (by decide) (by decide) h

/-- A number that is not zero is written without a zero in front. -/
theorem head_toDigits_ne_zero {n : Nat} (h : n ≠ 0) : (Nat.toDigits 10 n).head? ≠ some '0' := by
  induction n using Nat.strongRecOn with
  | ind n ih =>
      by_cases small : n < 10
      · have digits : ∀ v < 10, v ≠ 0 → v.digitChar ≠ '0' := by decide
        rw [Nat.toDigits_of_lt_base small, List.head?_cons]
        exact fun same => digits n small h (Option.some.inj same)
      · have smaller := ih (n / 10) (by omega) (by omega)
        rwa [Nat.toDigits_of_base_le (by decide) (by omega),
          List.head?_append_of_ne_nil _ Nat.toDigits_ne_nil]

/-- The digits of a whole number are read back. -/
theorem readWhole?_toDigits (n : Nat) :
    readWhole? (Nat.toDigits 10 n) = some (Nat.toDigits 10 n, []) := by
  by_cases zero : n = 0
  · subst n
    rfl
  · have digits := spanDigits_of_digits fun _ => isDigit_of_mem_toDigits (n := n)
    have front := head_toDigits_ne_zero zero
    cases written : Nat.toDigits 10 n with
    | nil => exact absurd written Nat.toDigits_ne_nil
    | cons d more =>
        have digit : isDigit d = true :=
          isDigit_of_mem_toDigits (written ▸ List.mem_cons_self ..)
        rw [written] at digits front
        rw [readWhole?, if_pos digit, digits]
        rintro rfl
        exact front rfl

/-- A whole number is read back. -/
theorem readMagnitude?_toDigits (negative : Bool) {n : Nat}
    (short : (Nat.toDigits 10 n).length ≤ Text.maxIntegerDigits) :
    readMagnitude? negative (Nat.toDigits 10 n) =
      some (.ok (int (if negative then -n else n)), []) := by
  have value : natOfDigits (Nat.toDigits 10 n) = n := Nat.ofDigitChars_ten_toDigits
  simp only [readMagnitude?, readWhole?_toDigits, Option.bind_eq_bind, Option.bind_some,
    readFraction, readExponent, List.isEmpty_nil, Option.isNone_none, Bool.and_self, if_true,
    if_neg (Nat.not_lt.mpr short), value]

/-- An integer is read back. -/
theorem readPlain_writeInt {n : Int}
    (short : (Nat.toDigits 10 n.natAbs).length ≤ Text.maxIntegerDigits) :
    readPlain (writeInt n) = .ok (int n, []) := by
  obtain ⟨d, more, written⟩ := List.exists_cons_of_ne_nil (@Nat.toDigits_ne_nil n.natAbs 10)
  have digit : isDigit d = true := isDigit_of_mem_toDigits (written ▸ List.mem_cons_self ..)
  unfold writeInt
  split
  · have value : -(n.natAbs : Int) = n := by omega
    rw [readPlain_of_digit (c := d) (by simp [written]) digit, readNumber_minus,
      readMagnitude?_toDigits true short, if_pos rfl, value]
  · have value : (n.natAbs : Int) = n := by omega
    rw [readPlain_of_digit (c := d) (by simp [written]) digit, readNumber_of_no_minus,
      readMagnitude?_toDigits false short, if_neg (by decide), value]
    intro after same
    rw [written] at same
    rw [(List.cons.inj same).1] at digit
    cases digit

end

end PlanGraph.Json
