import PlanGraph.Json.Printer
import PlanGraph.Proofs.Json.ReadBack.Numbers
import PlanGraph.Proofs.Number.Shortest

/-!
# Floating numbers that are read back

Each number of the format is read back from its text (`readPlain_writeFloat`). The text of a number
is made of the digits of its shortest decimal, without the zeros at their end, and a place for the
point (`Spells`); wherever the point is put, with zeros in between or with an exponent, the reader
comes to the same decimal.
-/

namespace PlanGraph.Json

open Binary64 (Exact Representable overflow ofDecimal shortest dropTrailingZeros positional
  exponential exponentDigits unitsText)

/-! ## The value of digits -/

section

variable {digits rest : List Char}

theorem natOfDigits_append (digits more : List Char) :
    natOfDigits (digits ++ more) = natOfDigits digits * 10 ^ more.length + natOfDigits more := by
  change Nat.ofDigitChars 10 (digits ++ more) 0 =
    Nat.ofDigitChars 10 digits 0 * 10 ^ more.length + Nat.ofDigitChars 10 more 0
  rw [Nat.ofDigitChars_append, Nat.ofDigitChars_eq_ofDigitChars_zero, Nat.mul_comm]

theorem natOfDigits_zeros (count : Nat) : natOfDigits (List.replicate count '0') = 0 := by
  change Nat.ofDigitChars 10 (List.replicate count '0') 0 = 0
  rw [Nat.ofDigitChars_replicate_zero, Nat.mul_zero]

theorem natOfDigits_toDigits (n : Nat) : natOfDigits (Nat.toDigits 10 n) = n :=
  Nat.ofDigitChars_ten_toDigits

/-! ## Parts of a number -/

theorem isDigit_of_mem_zeros {count : Nat} {c : Char} (h : c ∈ List.replicate count '0') :
    isDigit c = true := by
  rw [List.eq_of_mem_replicate h]
  rfl

/-- Digits are read up to the first character that is none. -/
theorem spanDigits_digits_append (all : ∀ c ∈ digits, isDigit c = true)
    (stop : ∀ c more, rest = c :: more → isDigit c = false) :
    spanDigits (digits ++ rest) = (digits, rest) := by
  induction digits with
  | nil =>
      cases rest with
      | nil => rfl
      | cons c more => exact spanDigits_cons_of_no_digit (stop c more rfl) more
  | cons d digits ih =>
      rw [List.forall_mem_cons] at all
      rw [List.cons_append, spanDigits_cons_of_digit all.1, ih all.2]

theorem readWhole?_digits_append {d : Char} {more : List Char} (nonzero : d ≠ '0')
    (all : ∀ c ∈ d :: more, isDigit c = true)
    (stop : ∀ c after, rest = c :: after → isDigit c = false) :
    readWhole? (d :: more ++ rest) = some (d :: more, rest) := by
  have read := spanDigits_digits_append all stop
  rw [List.cons_append] at read ⊢
  rw [readWhole?.eq_2 _ _ (fun same => nonzero same), if_pos (all d List.mem_cons_self), read]

theorem readFraction_digits_append (nonempty : digits ≠ [])
    (all : ∀ c ∈ digits, isDigit c = true)
    (stop : ∀ c more, rest = c :: more → isDigit c = false) :
    readFraction ('.' :: (digits ++ rest)) = (digits, rest) := by
  rw [readFraction, spanDigits_digits_append all stop]
  cases digits with
  | nil => exact absurd rfl nonempty
  | cons d more => rfl

/-- An exponent is read with its sign. -/
theorem readExponent_digits (exponent : Int) :
    readExponent ('e' :: (if exponent < 0 then '-' else '+') :: exponentDigits exponent.natAbs) =
      (some exponent, []) := by
  have all : ∀ c ∈ exponentDigits exponent.natAbs, isDigit c = true := by
    unfold exponentDigits
    split
    · exact List.forall_mem_cons.mpr ⟨rfl, fun c => isDigit_of_mem_toDigits⟩
    · exact fun c => isDigit_of_mem_toDigits
  have value : natOfDigits (exponentDigits exponent.natAbs) = exponent.natAbs := by
    unfold exponentDigits
    split
    · have zero : natOfDigits ['0'] = 0 := rfl
      rw [← List.singleton_append, natOfDigits_append, natOfDigits_toDigits, zero, Nat.zero_mul,
        Nat.zero_add]
    · exact natOfDigits_toDigits _
  obtain ⟨d, more, written⟩ : ∃ d more, exponentDigits exponent.natAbs = d :: more := by
    refine List.exists_cons_of_ne_nil ?_
    unfold exponentDigits
    split
    · exact List.cons_ne_nil _ _
    · exact Nat.toDigits_ne_nil
  have span := spanDigits_of_digits all
  rw [written] at span value
  have signed : signedExponent? ((if exponent < 0 then '-' else '+') ::
      exponentDigits exponent.natAbs) = some (exponent, []) := by
    rw [written]
    by_cases negative : exponent < 0
    · rw [if_pos negative, signedExponent?, span]
      simp only [value]
      rw [show -(exponent.natAbs : Int) = exponent by omega]
    · rw [if_neg negative, signedExponent?, span]
      simp only [value]
      rw [show (exponent.natAbs : Int) = exponent by omega]
  simp only [readExponent, true_or, if_true, signed]

/-- The parts of a number that is not whole make a floating number. -/
theorem readMagnitude?_of_parts {negative : Bool} {text whole afterWhole fraction afterFraction :
    List Char} {exponent : Option Int} (first : readWhole? text = some (whole, afterWhole))
    (second : readFraction afterWhole = (fraction, afterFraction))
    (third : readExponent afterFraction = (exponent, []))
    (real : fraction ≠ [] ∨ exponent ≠ none) :
    readMagnitude? negative text =
      some (.ok (float (ofDecimal negative (natOfDigits (whole ++ fraction))
        (exponent.getD 0 - fraction.length))), []) := by
  have notWhole : (fraction.isEmpty && exponent.isNone) = false := by
    rcases real with filled | marked
    · simp [filled]
    · obtain ⟨found, rfl⟩ := Option.ne_none_iff_exists'.mp marked
      simp
  simp only [readMagnitude?, first, Option.bind_eq_bind, Option.bind_some, second, third, notWhole,
    Bool.false_eq_true, if_false]

end

/-! ## Digits with a point -/

/-- Digits, with the point after so many of them, spell a count. -/
structure Spells (units : Nat) (digits : List Char) (place : Int) : Prop where
  /-- They are digits. -/
  digit : ∀ c ∈ digits, isDigit c = true
  /-- They begin with a digit that is not zero. -/
  first : ∃ d more, digits = d :: more ∧ d ≠ '0'
  /-- As a decimal they read back as the count. -/
  value : ∀ negative,
    ofDecimal negative (natOfDigits digits) (place - digits.length) = .finite negative units

namespace Spells

variable {units : Nat} {digits : List Char} {place : Int} (spells : Spells units digits place)
  (negative : Bool)

include spells

theorem ne_nil : digits ≠ [] := by
  obtain ⟨d, more, rfl, -⟩ := spells.first
  exact List.cons_ne_nil _ _

/-- They are read as a whole part, up to what is no digit. -/
theorem readWhole?_append {rest : List Char}
    (stop : ∀ c more, rest = c :: more → isDigit c = false) {zeros : Nat} :
    readWhole? (digits ++ List.replicate zeros '0' ++ rest) =
      some (digits ++ List.replicate zeros '0', rest) := by
  obtain ⟨d, more, rfl, nonzero⟩ := spells.first
  rw [List.cons_append]
  refine readWhole?_digits_append nonzero ?_ stop
  rw [← List.cons_append]
  exact List.forall_mem_append.mpr ⟨spells.digit, fun c => isDigit_of_mem_zeros⟩

/-- With the point before all of them they are read back; zeros fill what is between. -/
theorem readMagnitude?_point_before (small : place ≤ 0) :
    readMagnitude? negative (['0', '.'] ++ List.replicate (-place).toNat '0' ++ digits) =
      some (.ok (float (.finite negative units)), []) := by
  have nonempty : List.replicate (-place).toNat '0' ++ digits ≠ [] :=
    List.append_ne_nil_of_right_ne_nil _ spells.ne_nil
  have fraction : readFraction ('.' :: (List.replicate (-place).toNat '0' ++ digits)) =
      (List.replicate (-place).toNat '0' ++ digits, []) := by
    have read := @readFraction_digits_append _ [] nonempty
      (List.forall_mem_append.mpr ⟨fun c => isDigit_of_mem_zeros, spells.digit⟩) nofun
    rwa [List.append_nil] at read
  have value : natOfDigits ('0' :: (List.replicate (-place).toNat '0' ++ digits)) =
      natOfDigits digits := by
    have zeros : '0' :: (List.replicate (-place).toNat '0' ++ digits) =
        List.replicate ((-place).toNat + 1) '0' ++ digits := rfl
    rw [zeros, natOfDigits_append, natOfDigits_zeros, Nat.zero_mul, Nat.zero_add]
  have exponent : ((none : Option Int).getD 0 -
      (List.replicate (-place).toNat '0' ++ digits).length : Int) = place - digits.length := by
    rw [List.length_append, List.length_replicate, Option.getD_none]
    omega
  rw [List.append_assoc, List.cons_append, List.singleton_append,
    readMagnitude?_of_parts rfl fraction rfl (.inl nonempty), List.singleton_append, value,
    exponent, spells.value]

/-- With the point after all of them, and after zeros that fill what is missing, they are read
back. -/
theorem readMagnitude?_point_after {zeros : Nat} (same : place = digits.length + zeros) :
    readMagnitude? negative (digits ++ List.replicate zeros '0' ++ ['.', '0']) =
      some (.ok (float (.finite negative units)), []) := by
  have whole : readWhole? (digits ++ List.replicate zeros '0' ++ ['.', '0']) =
      some (digits ++ List.replicate zeros '0', ['.', '0']) := by
    refine spells.readWhole?_append fun c more same => ?_
    rw [← (List.cons.inj same).1]
    rfl
  have fraction : readFraction ['.', '0'] = (['0'], []) := rfl
  have value : natOfDigits (digits ++ List.replicate zeros '0' ++ ['0']) =
      natOfDigits digits * 10 ^ (zeros + 1) := by
    rw [List.append_assoc, natOfDigits_append]
    have last : List.replicate zeros '0' ++ ['0'] = List.replicate (zeros + 1) '0' :=
      List.replicate_succ'.symm
    rw [last, natOfDigits_zeros, Nat.add_zero, List.length_replicate]
  have exponent : (none : Option Int).getD 0 - ((['0'] : List Char).length : Int) +
      ((zeros + 1 : Nat) : Int) = place - digits.length := by
    rw [Option.getD_none, List.length_singleton]
    omega
  rw [readMagnitude?_of_parts whole fraction rfl (.inl (List.cons_ne_nil _ _)), value,
    Binary64.ofDecimal_mul_ten_pow, exponent, spells.value]

/-- With the point among them they are read back. -/
theorem readMagnitude?_point_among {before : Nat} (same : place = (before + 1 : Nat))
    (short : before + 1 < digits.length) :
    readMagnitude? negative (digits.take (before + 1) ++ ['.'] ++ digits.drop (before + 1)) =
      some (.ok (float (.finite negative units)), []) := by
  obtain ⟨d, more, written, nonzero⟩ := spells.first
  have parts : digits.take (before + 1) = d :: more.take before := by
    rw [written, List.take_succ_cons]
  have inFront : ∀ c ∈ d :: more.take before, isDigit c = true := by
    rw [← parts]
    exact fun c listed => spells.digit c (List.mem_of_mem_take listed)
  have behind : digits.drop (before + 1) ≠ [] := by
    intro none
    have := List.drop_eq_nil_iff.mp none
    omega
  have whole : readWhole? (d :: more.take before ++ '.' :: digits.drop (before + 1)) =
      some (d :: more.take before, '.' :: digits.drop (before + 1)) := by
    refine readWhole?_digits_append nonzero inFront fun c after same => ?_
    rw [← (List.cons.inj same).1]
    rfl
  have fraction : readFraction ('.' :: digits.drop (before + 1)) =
      (digits.drop (before + 1), []) := by
    have read := @readFraction_digits_append (digits.drop (before + 1)) [] behind
      (fun c listed => spells.digit c (List.mem_of_mem_drop listed)) nofun
    rwa [List.append_nil] at read
  have exponent : (none : Option Int).getD 0 - ((digits.drop (before + 1)).length : Int) =
      place - digits.length := by
    rw [List.length_drop, Option.getD_none]
    omega
  rw [List.append_assoc, List.singleton_append, parts,
    readMagnitude?_of_parts whole fraction rfl (.inl behind), ← parts, List.take_append_drop,
    exponent, spells.value]

/-- With a point they are read back. -/
theorem readMagnitude?_positional :
    readMagnitude? negative (positional digits place) =
      some (.ok (float (.finite negative units)), []) := by
  unfold positional
  split
  case isTrue small => exact spells.readMagnitude?_point_before negative small
  case isFalse large =>
  split
  case isTrue long => exact spells.readMagnitude?_point_after negative (by omega)
  case isFalse short =>
    obtain ⟨before, count⟩ : ∃ before, place.toNat = before + 1 := ⟨place.toNat - 1, by omega⟩
    rw [count]
    exact spells.readMagnitude?_point_among negative (by omega) (by omega)

/-- With an exponent they are read back. -/
theorem readMagnitude?_exponential :
    readMagnitude? negative (exponential digits (place - 1)) =
      some (.ok (float (.finite negative units)), []) := by
  obtain ⟨d, more, rfl, nonzero⟩ := spells.first
  have digit := List.forall_mem_cons.mp spells.digit
  have value := spells.value negative
  have mark : ∀ c after, 'e' :: (if place - 1 < 0 then '-' else '+') ::
      exponentDigits (place - 1).natAbs = c :: after → isDigit c = false := by
    intro c after same
    rw [← (List.cons.inj same).1]
    rfl
  unfold exponential
  cases more with
  | nil =>
      have whole := @readWhole?_digits_append _ d [] nonzero spells.digit mark
      have exponent : (some (place - 1)).getD 0 - ((List.nil : List Char).length : Int) =
          place - ([d] : List Char).length := by
        rw [Option.getD_some, List.length_nil, List.length_singleton]
        omega
      change readMagnitude? negative ([d] ++ 'e' :: (if place - 1 < 0 then '-' else '+') ::
        exponentDigits (place - 1).natAbs) = _
      rw [readMagnitude?_of_parts whole rfl (readExponent_digits _) (.inr (Option.some_ne_none _)),
        List.append_nil, exponent, value]
  | cons next rest =>
      have point : ∀ c after, '.' :: (next :: rest ++ 'e' :: (if place - 1 < 0 then '-' else '+') ::
          exponentDigits (place - 1).natAbs) = c :: after → isDigit c = false := by
        intro c after same
        rw [← (List.cons.inj same).1]
        rfl
      have whole := @readWhole?_digits_append _ d [] nonzero
        (List.forall_mem_cons.mpr ⟨digit.1, nofun⟩) point
      have fraction := readFraction_digits_append (List.cons_ne_nil next rest) digit.2 mark
      have exponent : (some (place - 1)).getD 0 - ((next :: rest).length : Int) =
          place - (d :: next :: rest).length := by
        rw [Option.getD_some, List.length_cons (a := d)]
        push_cast
        omega
      have shape : d :: '.' :: next :: rest ++ ['e', if place - 1 < 0 then '-' else '+'] ++
          exponentDigits (place - 1).natAbs =
          [d] ++ '.' :: (next :: rest ++ 'e' :: (if place - 1 < 0 then '-' else '+') ::
            exponentDigits (place - 1).natAbs) := by
        simp only [List.cons_append, List.nil_append, List.append_assoc]
      dsimp only
      rw [shape, readMagnitude?_of_parts whole fraction (readExponent_digits _)
        (.inl (List.cons_ne_nil _ _)), exponent]
      rw [List.singleton_append, value]

end Spells

/-! ## The shortest decimal -/

/-- Digits are what is left of them, and zeros. -/
theorem exists_dropTrailingZeros (digits : List Char) :
    ∃ zeros, digits = dropTrailingZeros digits ++ List.replicate zeros '0' := by
  have parts := List.takeWhile_append_dropWhile (p := (· == '0')) (l := digits.reverse)
  have zeros : digits.reverse.takeWhile (· == '0') =
      List.replicate (digits.reverse.takeWhile (· == '0')).length '0' := by
    refine List.eq_replicate_of_mem fun c listed => ?_
    exact beq_iff_eq.mp (List.mem_takeWhile_imp (p := (· == '0')) listed)
  refine ⟨(digits.reverse.takeWhile (· == '0')).length, ?_⟩
  rw [zeros] at parts
  have back := congrArg List.reverse parts
  rw [List.reverse_append, List.reverse_replicate, List.reverse_reverse] at back
  exact back.symm

section

variable {units : Nat}

/-- The digits of the shortest decimal, without the zeros at their end, spell its number. -/
theorem spells_shortest (exact : Exact units) (positive : 0 < units) (inside : units < overflow) :
    Spells units (dropTrailingZeros (Nat.toDigits 10 (shortest units).digits))
      ((Nat.toDigits 10 (shortest units).digits).length + (shortest units).exponent) := by
  have value := fun negative => Binary64.ofDecimal_shortest negative exact positive inside
  generalize (shortest units).exponent = exponent at value ⊢
  generalize (shortest units).digits = number at value ⊢
  have nonzero : number ≠ 0 := by
    rintro rfl
    have zero := value false
    simp only [ofDecimal, if_true, Binary64.finite.injEq, true_and] at zero
    omega
  obtain ⟨zeros, parts⟩ := exists_dropTrailingZeros (Nat.toDigits 10 number)
  have number_eq := natOfDigits_toDigits number
  have front := head_toDigits_ne_zero nonzero
  have all := fun c => @isDigit_of_mem_toDigits number c
  generalize Nat.toDigits 10 number = whole at *
  generalize dropTrailingZeros whole = digits at *
  subst parts
  constructor
  · exact (List.forall_mem_append.mp all).1
  · cases digits with
    | nil =>
        cases zeros with
        | zero => exact absurd number_eq.symm nonzero
        | succ zeros => exact absurd rfl front
    | cons d more => exact ⟨d, more, rfl, fun same => front (congrArg some same)⟩
  · intro negative
    rw [natOfDigits_append, natOfDigits_zeros, List.length_replicate, Nat.add_zero] at number_eq
    have exponent_eq : ((digits ++ List.replicate zeros '0').length + exponent - digits.length
        : Int) = exponent + zeros := by
      rw [List.length_append, List.length_replicate]
      push_cast
      omega
    rw [exponent_eq, ← Binary64.ofDecimal_mul_ten_pow, number_eq]
    exact value negative

/-- The text of a count is read back. -/
theorem readMagnitude?_unitsText (negative : Bool) (exact : Exact units) (positive : 0 < units)
    (inside : units < overflow) :
    readMagnitude? negative (unitsText units) =
      some (.ok (float (.finite negative units)), []) := by
  have spells := spells_shortest exact positive inside
  unfold unitsText
  dsimp only
  split
  · exact spells.readMagnitude?_positional negative
  · exact spells.readMagnitude?_exponential negative

/-- Zero is read back. -/
theorem readMagnitude?_zero (negative : Bool) :
    readMagnitude? negative ['0', '.', '0'] = some (.ok (float (.finite negative 0)), []) := by
  have value : natOfDigits ['0', '0'] = 0 := rfl
  have whole : readWhole? ['0', '.', '0'] = some (['0'], ['.', '0']) := rfl
  have fraction : readFraction ['.', '0'] = (['0'], []) := rfl
  rw [readMagnitude?_of_parts whole fraction rfl (.inl (List.cons_ne_nil _ _)),
    List.singleton_append, value, ofDecimal, if_pos rfl]

/-- A number is read after its sign. -/
theorem readNumber_signed {negative : Bool} {text : List Char} {value : Json}
    (read : readMagnitude? negative text = some (.ok value, [])) :
    readNumber (if negative then '-' :: text else text) = .ok (value, []) := by
  cases negative with
  | true => exact readNumber_minus.mpr read
  | false =>
      refine (readNumber_of_no_minus ?_).mpr read
      rintro rest rfl
      cases read

/-- **A number of the format is read back from its text.** -/
theorem readPlain_writeFloat {x : Binary64} (h : x.Representable) :
    readPlain (writeFloat x) = .ok (float x, []) := by
  cases h with
  | nan => rfl
  | infinite negative => cases negative <;> rfl
  | @finite negative units exact inside =>
      have body : readMagnitude? negative
          (if units = 0 then ['0', '.', '0'] else unitsText units) =
            some (.ok (float (.finite negative units)), []) := by
        split
        · rename_i zero
          rw [zero, readMagnitude?_zero]
        · exact readMagnitude?_unitsText negative exact (by omega) inside
      have number : readNumber (writeFloat (.finite negative units)) =
          .ok (float (.finite negative units), []) := by
        change readNumber (Binary64.finiteText negative units).toList = _
        rw [Binary64.finiteText, String.toList_ofList]
        exact readNumber_signed body
      obtain ⟨c, early, digit⟩ := exists_digit_of_readNumber number
      rw [readPlain_of_digit early digit, number]

end

end PlanGraph.Json
