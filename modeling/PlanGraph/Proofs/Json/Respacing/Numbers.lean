import PlanGraph.Proofs.Json.Respacing.Strings

/-!
# Reading respaced numbers and names

No line ends within a number or within the name of a value, so both are read alike from a text and
from the same text respaced (`readPlain_of_respaced`). No value starts with a line end
(`exists_inner_of_readValue`), since every one of them starts with a bracket, a quote, or what a
name or a number may start with (`exists_start_of_readValue`).
-/

namespace PlanGraph.Json

open Text (Respaced isLineEnd isWideEnd)

section

variable {n : Nat} {c : Char} {text text' rest : List Char}

/-! ## Numbers and names -/

/-- A digit ends no line. -/
theorem inner_of_isDigit (h : isDigit c = true) : isLineEnd c = false := by
  simp only [isDigit, Bool.and_eq_true, decide_eq_true_eq, Char.le_def,
    UInt32.le_iff_toNat_le] at h
  change 0x30 ≤ c.toNat ∧ c.toNat ≤ 0x39 at h
  exact inner_of_printable (by omega) (by omega)

theorem spanDigits_cons_of_digit (h : isDigit c = true) (text : List Char) :
    spanDigits (c :: text) = (c :: (spanDigits text).1, (spanDigits text).2) := by
  simp [spanDigits, h]

theorem spanDigits_cons_of_no_digit (h : isDigit c = false) (text : List Char) :
    spanDigits (c :: text) = ([], c :: text) := by
  simp [spanDigits, h]

theorem spanDigits_of_respaced (h : Respaced n text text') :
    Alongside n text'.length (spanDigits text) (spanDigits text') := by
  have feed : isDigit '\n' = false := by decide
  have noDigit {c : Char} (ends : isLineEnd c = true) : isDigit c = false :=
    Bool.eq_false_iff.mpr fun digit => absurd ((inner_of_isDigit digit).symm.trans ends) (by decide)
  induction h with
  | nil => exact ⟨rfl, .nil, le_rfl⟩
  | @keep n c text text' inner respaced ih =>
      cases digit : isDigit c with
      | true =>
          rw [spanDigits_cons_of_digit digit, spanDigits_cons_of_digit digit, ih.value]
          exact ⟨rfl, ih.rest, ih.within.trans (Nat.le_succ _)⟩
      | false =>
          rw [spanDigits_cons_of_no_digit digit, spanDigits_cons_of_no_digit digit]
          exact ⟨rfl, .keep inner respaced, le_rfl⟩
  | pair respaced _ =>
      rw [spanDigits_cons_of_no_digit feed, spanDigits_cons_of_no_digit (by decide)]
      exact ⟨rfl, .pair respaced, le_rfl⟩
  | narrow ends isNarrow respaced _ =>
      rw [spanDigits_cons_of_no_digit feed, spanDigits_cons_of_no_digit (noDigit ends)]
      exact ⟨rfl, .narrow ends isNarrow respaced, le_rfl⟩
  | wide isWide respaced _ =>
      rw [spanDigits_cons_of_no_digit feed,
        spanDigits_cons_of_no_digit (noDigit (Text.isLineEnd_of_isWideEnd isWide))]
      exact ⟨rfl, .wide isWide respaced, le_rfl⟩

/-- Both texts start with no digit, or with the same digits. -/
theorem spanDigits_cases (h : Respaced n text text') :
    (∃ after after', spanDigits text = ([], after) ∧ spanDigits text' = ([], after')) ∨
      ∃ d digits after after', spanDigits text = (d :: digits, after) ∧
        spanDigits text' = (d :: digits, after') ∧ Respaced n after after' ∧
        after'.length ≤ text'.length := by
  have along := spanDigits_of_respaced h
  rcases found : spanDigits text with ⟨digits, after⟩
  rcases found' : spanDigits text' with ⟨digits', after'⟩
  rw [found, found'] at along
  obtain rfl : digits' = digits := along.value
  cases digits' with
  | nil => exact .inl ⟨after, after', rfl, rfl⟩
  | cons d digits => exact .inr ⟨d, digits, after, after', rfl, rfl, along.rest, along.within⟩

theorem readWhole?_of_respaced {here : List Char × List Char} (h : Respaced n text text')
    (read : readWhole? text = some here) :
    ∃ there, readWhole? text' = some there ∧ Alongside n text'.length here there := by
  unfold readWhole? at read
  split at read
  · obtain ⟨rest', rfl, respaced⟩ := h.cons_of_inner (by decide)
    cases read
    exact ⟨_, rfl, ⟨rfl, respaced, Nat.le_succ _⟩⟩
  · rename_i c rest notZero
    split at read
    · rename_i digit
      cases read
      obtain ⟨rest', rfl, -⟩ := h.cons_of_inner (inner_of_isDigit digit)
      refine ⟨spanDigits (c :: rest'), ?_, spanDigits_of_respaced h⟩
      rw [readWhole?, if_pos digit]
      exact notZero
    · cases read
  · cases read

theorem readFraction_of_no_point (h : ∀ rest, text ≠ '.' :: rest) :
    readFraction text = ([], text) := by
  unfold readFraction
  split
  · exact absurd rfl (h _)
  · rfl

theorem readFraction_of_respaced (h : Respaced n text text') :
    Alongside n text'.length (readFraction text) (readFraction text') := by
  by_cases point : ∃ rest, text = '.' :: rest
  · obtain ⟨rest, rfl⟩ := point
    obtain ⟨rest', rfl, respaced⟩ := h.cons_of_inner (by decide)
    rw [readFraction, readFraction]
    rcases spanDigits_cases respaced with ⟨_, _, found, found'⟩ |
      ⟨_, _, _, _, found, found', final, within⟩
    · rw [found, found']
      exact ⟨rfl, h, le_rfl⟩
    · rw [found, found']
      exact ⟨rfl, final, within.trans (Nat.le_succ _)⟩
  · rw [readFraction_of_no_point fun rest same => point ⟨rest, same⟩, readFraction_of_no_point]
    · exact ⟨rfl, h, le_rfl⟩
    · rintro rest' rfl
      obtain ⟨rest, rfl, -⟩ := h.of_cons_of_inner (by decide)
      exact point ⟨rest, rfl⟩

/-- Without a sign in front, an exponent is its digits. -/
theorem signedExponent?_of_no_sign (minus : ∀ rest, text ≠ '-' :: rest)
    (plus : ∀ rest, text ≠ '+' :: rest) {digits : List Char}
    (found : spanDigits text = (digits, rest)) :
    signedExponent? text =
      if digits = [] then none else some ((natOfDigits digits : Int), rest) := by
  unfold signedExponent?
  split
  · exact absurd rfl (minus _)
  · exact absurd rfl (plus _)
  · rw [found]
    cases digits with
    | nil => rfl
    | cons _ _ => rfl

theorem signedExponent?_of_respaced (h : Respaced n text text') :
    Option.Rel (Alongside n text'.length) (signedExponent? text) (signedExponent? text') := by
  by_cases minus : ∃ rest, text = '-' :: rest
  · obtain ⟨rest, rfl⟩ := minus
    obtain ⟨rest', rfl, respaced⟩ := h.cons_of_inner (by decide)
    rw [signedExponent?, signedExponent?]
    rcases spanDigits_cases respaced with ⟨_, _, found, found'⟩ |
      ⟨_, _, _, _, found, found', final, within⟩
    · rw [found, found']
      exact .none
    · rw [found, found']
      exact .some ⟨rfl, final, within.trans (Nat.le_succ _)⟩
  by_cases plus : ∃ rest, text = '+' :: rest
  · obtain ⟨rest, rfl⟩ := plus
    obtain ⟨rest', rfl, respaced⟩ := h.cons_of_inner (by decide)
    rw [signedExponent?, signedExponent?]
    rcases spanDigits_cases respaced with ⟨_, _, found, found'⟩ |
      ⟨_, _, _, _, found, found', final, within⟩
    · rw [found, found']
      exact .none
    · rw [found, found']
      exact .some ⟨rfl, final, within.trans (Nat.le_succ _)⟩
  · -- the second text starts with a sign only if the first one does
    have unsigned {c : Char} (inner : isLineEnd c = false) (none : ∀ rest, text ≠ c :: rest)
        (rest' : List Char) : text' ≠ c :: rest' := by
      rintro rfl
      obtain ⟨rest, same, -⟩ := h.of_cons_of_inner inner
      exact none rest same
    replace minus : ∀ rest, text ≠ '-' :: rest := fun rest same => minus ⟨rest, same⟩
    replace plus : ∀ rest, text ≠ '+' :: rest := fun rest same => plus ⟨rest, same⟩
    rcases spanDigits_cases h with ⟨_, _, found, found'⟩ |
      ⟨_, _, _, _, found, found', final, within⟩
    · rw [signedExponent?_of_no_sign minus plus found, signedExponent?_of_no_sign
        (unsigned (by decide) minus) (unsigned (by decide) plus) found']
      exact .none
    · rw [signedExponent?_of_no_sign minus plus found, signedExponent?_of_no_sign
        (unsigned (by decide) minus) (unsigned (by decide) plus) found']
      exact .some ⟨rfl, final, within⟩

/-- Without its mark there is no exponent. -/
theorem readExponent_of_no_mark (h : ∀ c rest, text = c :: rest → ¬ (c = 'e' ∨ c = 'E')) :
    readExponent text = (none, text) := by
  unfold readExponent
  split
  · exact if_neg (h _ _ rfl)
  · rfl

theorem readExponent_of_respaced (h : Respaced n text text') :
    Alongside n text'.length (readExponent text) (readExponent text') := by
  have inner {c : Char} (mark : c = 'e' ∨ c = 'E') : isLineEnd c = false := by
    rcases mark with rfl | rfl <;> decide
  by_cases marked : ∃ c rest, text = c :: rest ∧ (c = 'e' ∨ c = 'E')
  · obtain ⟨c, rest, rfl, mark⟩ := marked
    obtain ⟨rest', rfl, respaced⟩ := h.cons_of_inner (inner mark)
    have exponents := signedExponent?_of_respaced respaced
    simp only [readExponent, if_pos mark]
    generalize signedExponent? rest = here, signedExponent? rest' = there at exponents ⊢
    cases exponents with
    | none => exact ⟨rfl, h, le_rfl⟩
    | some along =>
        exact ⟨congrArg some along.value, along.rest, along.within.trans (Nat.le_succ _)⟩
  · rw [readExponent_of_no_mark fun c rest same mark => marked ⟨c, rest, same, mark⟩,
      readExponent_of_no_mark]
    · exact ⟨rfl, h, le_rfl⟩
    · rintro c rest' rfl mark
      obtain ⟨rest, rfl, -⟩ := h.of_cons_of_inner (inner mark)
      exact marked ⟨c, rest, rfl, mark⟩

theorem readMagnitude?_of_respaced {negative : Bool} {here : Except Nat Json × List Char}
    (h : Respaced n text text') (read : readMagnitude? negative text = some here) :
    ∃ there, readMagnitude? negative text' = some there ∧ Alongside n text'.length here there := by
  obtain ⟨⟨whole, afterWhole⟩, found, read⟩ := Option.bind_eq_some_iff.mp read
  obtain ⟨⟨_, afterWhole'⟩, found', rfl, respaced, bound⟩ := readWhole?_of_respaced h found
  have fractions := (readFraction_of_respaced respaced).mono bound
  have exponents := (readExponent_of_respaced fractions.rest).mono fractions.within
  rcases fraction : readFraction afterWhole with ⟨digits, afterFraction⟩
  rcases fraction' : readFraction afterWhole' with ⟨digits', afterFraction'⟩
  rw [fraction, fraction'] at fractions exponents
  obtain rfl : digits' = digits := fractions.value
  rcases exponent : readExponent afterFraction with ⟨power, rest⟩
  rcases exponent' : readExponent afterFraction' with ⟨power', rest'⟩
  rw [exponent, exponent'] at exponents
  obtain rfl : power' = power := exponents.value
  simp only [fraction, exponent] at read
  simp only [readMagnitude?, found', Option.bind_eq_bind, Option.bind_some, fraction', exponent']
  split at read
  · rename_i isWhole
    rw [if_pos isWhole]
    split at read
    · rename_i oversized
      rw [if_pos oversized]
      obtain rfl := Option.some.inj read
      exact ⟨_, rfl, ⟨rfl, exponents.rest, exponents.within⟩⟩
    · rename_i readable
      rw [if_neg readable]
      obtain rfl := Option.some.inj read
      exact ⟨_, rfl, ⟨rfl, exponents.rest, exponents.within⟩⟩
  · rename_i isReal
    rw [if_neg isReal]
    obtain rfl := Option.some.inj read
    exact ⟨_, rfl, ⟨rfl, exponents.rest, exponents.within⟩⟩

/-- A number with a minus sign. -/
theorem readNumber_minus {here : Json × List Char} :
    readNumber ('-' :: rest) = .ok here ↔
      readMagnitude? true rest = some (.ok here.1, here.2) := by
  rw [readNumber]
  rcases readMagnitude? true rest with _ | ⟨_ | value, after⟩
  · simp [stopAt]
  · simp [stopAt]
  · simp [Prod.ext_iff]

/-- A number without a minus sign. -/
theorem readNumber_of_no_minus {here : Json × List Char} (h : ∀ rest, text ≠ '-' :: rest) :
    readNumber text = .ok here ↔ readMagnitude? false text = some (.ok here.1, here.2) := by
  rw [readNumber.eq_2 _ h]
  rcases readMagnitude? false text with _ | ⟨_ | value, after⟩
  · simp [stopAt]
  · simp [stopAt]
  · simp [Prod.ext_iff]

theorem readNumber_of_respaced {here : Json × List Char} (h : Respaced n text text')
    (read : readNumber text = .ok here) :
    ∃ there, readNumber text' = .ok there ∧ Alongside n text'.length here there := by
  by_cases minus : ∃ rest, text = '-' :: rest
  · obtain ⟨rest, rfl⟩ := minus
    obtain ⟨rest', rfl, respaced⟩ := h.cons_of_inner (by decide)
    obtain ⟨⟨_, after'⟩, magnitude, rfl, final, within⟩ :=
      readMagnitude?_of_respaced respaced (readNumber_minus.mp read)
    exact ⟨(here.1, after'), readNumber_minus.mpr magnitude,
      ⟨rfl, final, within.trans (Nat.le_succ _)⟩⟩
  · replace minus : ∀ rest, text ≠ '-' :: rest := fun rest same => minus ⟨rest, same⟩
    obtain ⟨⟨_, after'⟩, magnitude, rfl, final, within⟩ :=
      readMagnitude?_of_respaced h ((readNumber_of_no_minus minus).mp read)
    refine ⟨(here.1, after'), (readNumber_of_no_minus fun rest' same => ?_).mpr magnitude,
      ⟨rfl, final, within⟩⟩
    subst same
    obtain ⟨rest, same, -⟩ := h.of_cons_of_inner (by decide)
    exact minus rest same

theorem dropWord?_of_other {w : Char} (h : ∀ rest, text ≠ w :: rest) (word : List Char) :
    dropWord? (w :: word) text = none := by
  cases text with
  | nil => rfl
  | cons c text =>
      refine if_neg ?_
      rintro rfl
      exact h text rfl

/-- A word without line ends stands at the start of both texts or of neither. -/
theorem dropWord?_of_respaced {word : List Char} (inner : ∀ c ∈ word, isLineEnd c = false)
    (h : Respaced n text text') :
    Option.Rel (fun rest rest' => Respaced n rest rest' ∧ rest'.length ≤ text'.length)
      (dropWord? word text) (dropWord? word text') := by
  induction word generalizing text text' with
  | nil => exact .some ⟨h, le_rfl⟩
  | cons w word ih =>
      have innerFirst := inner w (List.mem_cons_self ..)
      by_cases starts : ∃ rest, text = w :: rest
      · obtain ⟨rest, rfl⟩ := starts
        obtain ⟨rest', rfl, respaced⟩ := h.cons_of_inner innerFirst
        have dropped := ih (fun c listed => inner c (List.mem_cons_of_mem _ listed)) respaced
        rw [dropWord?, dropWord?, if_pos rfl, if_pos rfl]
        generalize dropWord? word rest = here, dropWord? word rest' = there at dropped ⊢
        cases dropped with
        | none => exact .none
        | some along => exact .some ⟨along.1, along.2.trans (Nat.le_succ _)⟩
      · rw [dropWord?_of_other fun rest same => starts ⟨rest, same⟩, dropWord?_of_other]
        · exact .none
        · rintro rest' rfl
          obtain ⟨rest, rfl, -⟩ := h.of_cons_of_inner innerFirst
          exact starts ⟨rest, rfl⟩

/-- The first word of a table that a text starts with, as its value. -/
theorem findWord_of_respaced {table : List (List Char × Json)}
    (inner : ∀ entry ∈ table, ∀ c ∈ entry.1, isLineEnd c = false) (h : Respaced n text text') :
    Option.Rel (Alongside n text'.length)
      (table.findSome? fun (word, value) => (dropWord? word text).map fun rest => (value, rest))
      (table.findSome? fun (word, value) =>
        (dropWord? word text').map fun rest => (value, rest)) := by
  induction table with
  | nil => exact .none
  | cons entry table ih =>
      have dropped := dropWord?_of_respaced (inner entry (List.mem_cons_self ..)) h
      obtain ⟨word, value⟩ := entry
      simp only [List.findSome?_cons]
      generalize dropWord? word text = here, dropWord? word text' = there at dropped ⊢
      cases dropped with
      | none => exact ih fun entry listed => inner entry (List.mem_cons_of_mem _ listed)
      | some along => exact .some ⟨rfl, along.1, along.2⟩

/-- No line ends within the name of a value. -/
theorem inner_of_mem_keywords :
    ∀ entry ∈ keywords, ∀ c ∈ entry.1, isLineEnd c = false := by
  have none : keywords.all (fun entry => entry.1.all fun c => !isLineEnd c) = true := by decide
  intro entry listed c letter
  simpa using List.all_eq_true.mp (List.all_eq_true.mp none entry listed) c letter

theorem readPlain_of_respaced {here : Json × List Char} (h : Respaced n text text')
    (read : readPlain text = .ok here) :
    ∃ there, readPlain text' = .ok there ∧ Alongside n text'.length here there := by
  have words := findWord_of_respaced inner_of_mem_keywords h
  unfold readPlain at read ⊢
  split at read
  · rename_i found named
    rw [named] at words
    obtain rfl := Except.ok.inj read
    split
    · rename_i there named'
      rw [named'] at words
      exact ⟨there, rfl, Option.rel_some_some.mp words⟩
    · rename_i named'
      rw [named'] at words
      cases words
  · rename_i named
    rw [named] at words
    split
    · rename_i there named'
      rw [named'] at words
      cases words
    · exact readNumber_of_respaced h read

/-! ## First characters -/

theorem dropWord?_eq_some {word : List Char} (h : dropWord? word text = some rest) :
    text = word ++ rest := by
  fun_induction dropWord? word text with
  | case1 text => exact Option.some.inj h
  | case2 => cases h
  | case3 w word text ih => rw [ih h, List.cons_append]
  | case4 => cases h

/-- A character that a number or the name of a value may start with. -/
def startsPlain (c : Char) : Bool :=
  isDigit c || ['-', 'n', 't', 'f', 'N', 'I'].contains c

/-- A character that a value may start with. -/
def startsValue (c : Char) : Bool :=
  startsPlain c || ['"', '[', '\x7b'].contains c

theorem inner_of_startsValue (h : startsValue c = true) : isLineEnd c = false := by
  have inner : ['-', 'n', 't', 'f', 'N', 'I', '"', '[', '\x7b'].all (fun c => !isLineEnd c) := by
    decide
  simp only [startsValue, startsPlain, Bool.or_eq_true, List.contains_iff_mem] at h
  rcases h with (digit | named) | opens
  · exact inner_of_isDigit digit
  · simpa using List.all_eq_true.mp inner c (List.mem_append_left ['"', '[', '\x7b'] named)
  · simpa using List.all_eq_true.mp inner c
      (List.mem_append_right ['-', 'n', 't', 'f', 'N', 'I'] opens)

theorem exists_start_of_readMagnitude? {negative : Bool} {here : Except Nat Json × List Char}
    (read : readMagnitude? negative text = some here) :
    ∃ c rest, text = c :: rest ∧ startsPlain c = true := by
  obtain ⟨_, whole, -⟩ := Option.bind_eq_some_iff.mp read
  unfold readWhole? at whole
  split at whole
  · exact ⟨_, _, rfl, by decide⟩
  · split at whole
    · rename_i digit
      exact ⟨_, _, rfl, Bool.or_eq_true_iff.mpr (.inl digit)⟩
    · cases whole
  · cases whole

/-- What a name or a number starts with. -/
theorem exists_start_of_readPlain {here : Json × List Char} (read : readPlain text = .ok here) :
    ∃ c rest, text = c :: rest ∧ startsPlain c = true := by
  unfold readPlain at read
  split at read
  · rename_i found named
    obtain ⟨⟨word, value⟩, listed, dropped⟩ := List.exists_of_findSome?_eq_some named
    obtain ⟨rest, dropped, -⟩ := Option.map_eq_some_iff.mp dropped
    have starts : keywords.all (fun entry => entry.1.head?.any startsPlain) = true := by decide
    have start := List.all_eq_true.mp starts _ listed
    cases word with
    | nil => cases start
    | cons w word => exact ⟨w, word ++ rest, dropWord?_eq_some dropped, by simpa using start⟩
  · by_cases minus : ∃ rest, text = '-' :: rest
    · obtain ⟨rest, rfl⟩ := minus
      exact ⟨'-', rest, rfl, by decide⟩
    · exact exists_start_of_readMagnitude?
        ((readNumber_of_no_minus fun rest same => minus ⟨rest, same⟩).mp read)

/-- What a value starts with. -/
theorem exists_start_of_readValue {fuel : Nat} {here : Json × List Char}
    (read : readValue fuel text = .ok here) :
    ∃ c rest, text = c :: rest ∧ startsValue c = true := by
  rw [readValue.eq_def] at read
  split at read
  · cases read
  · split at read
    · exact ⟨_, _, rfl, by decide⟩
    · exact ⟨_, _, rfl, by decide⟩
    · exact ⟨_, _, rfl, by decide⟩
    · obtain ⟨c, rest, same, start⟩ := exists_start_of_readPlain read
      exact ⟨c, rest, same, Bool.or_eq_true_iff.mpr (.inl start)⟩

/-- A value starts with no line end. -/
theorem exists_inner_of_readValue {fuel : Nat} {here : Json × List Char}
    (read : readValue fuel text = .ok here) :
    ∃ c rest, text = c :: rest ∧ isLineEnd c = false := by
  obtain ⟨c, rest, same, start⟩ := exists_start_of_readValue read
  exact ⟨c, rest, same, inner_of_startsValue start⟩

theorem exists_inner_of_readItems {fuel : Nat} {here : List Json × List Char}
    (read : readItems fuel text = .ok here) :
    ∃ c rest, text = c :: rest ∧ isLineEnd c = false := by
  cases fuel with
  | zero => cases read
  | succ fuel =>
      obtain ⟨_, first, -⟩ := bind_eq_ok_iff.mp read
      exact exists_inner_of_readValue first

theorem exists_inner_of_readMembers {fuel : Nat} {members : List (String × Json)}
    {here : List (String × Json) × List Char} (read : readMembers fuel members text = .ok here) :
    ∃ c rest, text = c :: rest ∧ isLineEnd c = false := by
  rw [readMembers.eq_def] at read
  split at read
  · cases read
  · split at read
    · exact ⟨_, _, rfl, by decide⟩
    · cases read

end

end PlanGraph.Json
