import PlanGraph.Proofs.Outcome
import PlanGraph.Proofs.Text.Fences

/-!
# Reading respaced strings

A JSON text and the same text with each line end written as a line feed are read side by side. Each
reader leaves the two texts at places that belong together (`Alongside`). Only in a string can a
line end be met that is no blank: it is a wide one then, and stops the second reading, for a line
feed is a control character there (`Follows`).

This module has the blanks between tokens (`skipSpace_of_respaced`) and the strings
(`readString_follows`).
-/

namespace PlanGraph.Json

open Text (Respaced isLineEnd isWideEnd)

/-! ## Places in two texts -/

/-- Two readings give the same value and leave texts of which the second is the first respaced. The
second one is not longer than the given bound. -/
structure Alongside {α : Type} (n bound : Nat) (here there : α × List Char) : Prop where
  value : there.1 = here.1
  rest : Respaced n here.2 there.2
  within : there.2.length ≤ bound

/-- What a reading of the respaced text gives, told against what the reading of the text gave: the
same, or the fault that a line end stands in a string. -/
inductive Follows {α : Type} (n bound : Nat) (here : α × List Char) :
    Except Stop (α × List Char) → Prop where
  /-- The same value. -/
  | reads {there : α × List Char} (along : Alongside n bound here there) :
      Follows n bound here (.ok there)
  /-- A line end outside ASCII was met in a string. -/
  | stops {left : Nat} (wide : 0 < n) : Follows n bound here (.error ⟨.controlCharacter, left⟩)

section

variable {α β : Type} {n bound wider : Nat} {here : α × List Char} {next : β × List Char}

theorem Alongside.mono {there : α × List Char} (h : Alongside n bound here there)
    (le : bound ≤ wider) : Alongside n wider here there :=
  ⟨h.value, h.rest, h.within.trans le⟩

theorem Follows.mono {result : Except Stop (α × List Char)} (h : Follows n bound here result)
    (le : bound ≤ wider) : Follows n wider here result := by
  cases h with
  | reads along => exact .reads (along.mono le)
  | stops wide => exact .stops wide

/-- What is read after a value follows when it does from each place that belongs to the first. -/
theorem Follows.bind {result : Except Stop (α × List Char)} (h : Follows n bound here result)
    {f : α × List Char → Except Stop (β × List Char)}
    (step : ∀ rest', Respaced n here.2 rest' → rest'.length ≤ bound →
      Follows n wider next (f (here.1, rest'))) :
    Follows n wider next (result >>= f) := by
  cases h with
  | @reads there along =>
      obtain ⟨value, rest'⟩ := there
      obtain rfl : value = here.1 := along.value
      exact step rest' along.rest along.within
  | stops wide => exact .stops wide

end

section

variable {n : Nat} {c : Char} {text text' rest : List Char}

/-! ## Blanks -/

/-- A printable character of ASCII ends no line. -/
theorem inner_of_printable (above : 0x20 ≤ c.toNat) (below : c.toNat < 0x7f) :
    isLineEnd c = false := by
  simp only [isLineEnd, Bool.or_eq_false_iff, Bool.and_eq_false_iff, decide_eq_false_iff_not,
    beq_eq_false_iff_ne]
  omega

/-- A blank is skipped, and another character stays. -/
theorem skipSpace_cons_eq {d : Char} (h : skipSpace (d :: text) = c :: rest) :
    (isSpace d = true ∧ skipSpace text = c :: rest) ∨
      isSpace d = false ∧ d = c ∧ text = rest := by
  rw [skipSpace, List.dropWhile_cons] at h
  cases blank : isSpace d with
  | true =>
      rw [blank] at h
      exact .inl ⟨rfl, h⟩
  | false =>
      rw [blank] at h
      cases h
      exact .inr ⟨rfl, rfl, rfl⟩

/-- The blanks between tokens are ASCII. -/
theorem narrow_of_isSpace (h : isSpace c = true) : isWideEnd c = false := by
  simp only [isSpace, Bool.or_eq_true, beq_iff_eq] at h
  rcases h with ((rfl | rfl) | rfl) | rfl <;> decide

/-- The blanks in front of a token are skipped in both texts. -/
theorem skipSpace_of_respaced (h : Respaced n text text') (found : skipSpace text = c :: rest)
    (inner : isLineEnd c = false) :
    ∃ rest', skipSpace text' = c :: rest' ∧ Respaced n rest rest' ∧
      rest'.length < text'.length := by
  -- a line end in front of the token can only be a blank
  have ended {d : Char} {text : List Char} (ends : isLineEnd d = true)
      (found : skipSpace (d :: text) = c :: rest) : skipSpace text = c :: rest := by
    rcases skipSpace_cons_eq found with ⟨-, found⟩ | ⟨-, rfl, -⟩
    · exact found
    · exact absurd (inner.symm.trans ends) (by decide)
  induction h with
  | nil => cases found
  | @keep n d text text' _ after ih =>
      rcases skipSpace_cons_eq found with ⟨blank, found⟩ | ⟨token, rfl, rfl⟩
      · obtain ⟨rest', same, respaced, shorter⟩ := ih found
        rw [skipSpace, List.dropWhile_cons_of_pos blank]
        exact ⟨rest', same, respaced, shorter.trans (Nat.lt_succ_self _)⟩
      · rw [skipSpace, List.dropWhile_cons_of_neg (by simp [token])]
        exact ⟨text', rfl, after, Nat.lt_succ_self _⟩
  | pair _ ih =>
      obtain ⟨rest', same, respaced, shorter⟩ := ih found
      exact ⟨rest', same, respaced, shorter.trans (Nat.lt_succ_self _)⟩
  | narrow ends _ _ ih =>
      obtain ⟨rest', same, respaced, shorter⟩ := ih (ended ends found)
      exact ⟨rest', same, respaced, shorter.trans (Nat.lt_succ_self _)⟩
  | wide isWide _ _ =>
      rcases skipSpace_cons_eq found with ⟨blank, -⟩ | ⟨-, rfl, -⟩
      · exact absurd ((narrow_of_isSpace blank).symm.trans isWide) (by decide)
      · exact absurd (inner.symm.trans (Text.isLineEnd_of_isWideEnd isWide)) (by decide)

/-- Nothing but blanks is nothing but blanks when it is respaced. -/
theorem skipSpace_nil_of_respaced (h : Respaced n text text') (found : skipSpace text = []) :
    n = 0 ∧ skipSpace text' = [] := by
  have blanks : ∀ c ∈ text, isSpace c = true := List.dropWhile_eq_nil_iff.mp found
  constructor
  · rw [h.count_eq, List.countP_eq_zero]
    exact fun c listed => by simp [narrow_of_isSpace (blanks c listed)]
  · have blanks' : ∀ c ∈ text', isSpace c = true := fun c listed => by
      rcases h.mem_or_feed listed with listed | rfl
      · exact blanks c listed
      · decide
    exact List.dropWhile_eq_nil_iff.mpr blanks'

/-! ## Strings -/

/-- A hexadecimal digit ends no line. -/
theorem inner_of_hexValue? {value : Nat} (h : Text.hexValue? c = some value) :
    isLineEnd c = false := by
  have printable : 0x30 ≤ c.toNat ∧ c.toNat ≤ 0x66 := by
    simp only [Text.hexValue?, Char.le_def, UInt32.le_iff_toNat_le] at h
    change (if 0x30 ≤ c.toNat ∧ c.toNat ≤ 0x39 then _ else
      if 0x61 ≤ c.toNat ∧ c.toNat ≤ 0x66 then _ else
      if 0x41 ≤ c.toNat ∧ c.toNat ≤ 0x46 then _ else _) = _ at h
    split at h
    · omega
    · split at h
      · omega
      · split at h
        · omega
        · cases h
  exact inner_of_printable (by omega) (by omega)

/-- Four digits are read alike whatever follows them. -/
theorem readUnit?_eq_some {unit : Nat} (h : readUnit? text = some (unit, rest)) :
    ∃ digits, text = digits ++ rest ∧ digits.length = 4 ∧ (∀ c ∈ digits, isLineEnd c = false) ∧
      ∀ rest', readUnit? (digits ++ rest') = some (unit, rest') := by
  unfold readUnit? at h
  split at h
  · rename_i a b c d more
    split at h
    · rename_i w x y z ha hb hc hd
      cases h
      refine ⟨[a, b, c, d], rfl, rfl, ?_, fun rest' => ?_⟩
      · simp [inner_of_hexValue? ha, inner_of_hexValue? hb, inner_of_hexValue? hc,
          inner_of_hexValue? hd]
      · simp [readUnit?, ha, hb, hc, hd]
    · cases h
  · cases h

theorem readUnit?_of_respaced {unit : Nat} (h : Respaced n text text')
    (read : readUnit? text = some (unit, rest)) :
    ∃ rest', readUnit? text' = some (unit, rest') ∧ Respaced n rest rest' ∧
      text'.length = rest'.length + 4 := by
  obtain ⟨digits, rfl, four, inner, alike⟩ := readUnit?_eq_some read
  obtain ⟨rest', rfl, respaced⟩ := h.append_of_inner inner
  refine ⟨rest', alike rest', respaced, ?_⟩
  rw [List.length_append, four, Nat.add_comm]

/-- The escape of a unit after that of a high surrogate. Something must follow its digits. -/
theorem readLowSurrogate?_of_unit {unit : Nat} (found : readUnit? text = some (unit, rest))
    (more : rest ≠ []) :
    readLowSurrogate? ('\\' :: 'u' :: text) =
      .ok (if 0xdc00 ≤ unit ∧ unit < 0xe000 then (some unit, rest)
        else (none, '\\' :: 'u' :: text)) := by
  have long : ¬ ('\\' :: 'u' :: text).length ≤ 6 := by
    obtain ⟨digits, rfl, four, -⟩ := readUnit?_eq_some found
    have := List.length_pos_iff.mpr more
    simp only [List.length_cons, List.length_append]
    omega
  rw [readLowSurrogate?, if_neg long, found]
  dsimp only
  split <;> rfl

theorem readLowSurrogate?_of_respaced {here : Option Nat × List Char} (h : Respaced n text text')
    (read : readLowSurrogate? text = .ok here) :
    ∃ there, readLowSurrogate? text' = .ok there ∧ Alongside n text'.length here there := by
  by_cases escape : ∃ rest, text = '\\' :: 'u' :: rest
  · obtain ⟨rest, rfl⟩ := escape
    obtain ⟨_, rfl, afterMark⟩ := h.cons_of_inner (by decide)
    obtain ⟨rest', rfl, respaced⟩ := afterMark.cons_of_inner (by decide)
    by_cases short : ('\\' :: 'u' :: rest).length ≤ 6
    · rw [readLowSurrogate?, if_pos short] at read
      obtain rfl := Except.ok.inj read
      refine ⟨(none, '\\' :: 'u' :: rest'), ?_, ⟨rfl, h, le_rfl⟩⟩
      rw [readLowSurrogate?, if_pos (h.length_le.trans short)]
    rcases found : readUnit? rest with _ | ⟨unit, after⟩
    · rw [readLowSurrogate?, if_neg short, found] at read
      cases read
    obtain ⟨after', found', final, shorter⟩ := readUnit?_of_respaced respaced found
    have more : after ≠ [] := by
      rintro rfl
      obtain ⟨digits, rfl, four, -⟩ := readUnit?_eq_some found
      simp [four] at short
    have more' : after' ≠ [] := fun none => more (final.eq_nil_iff.mpr none)
    rw [readLowSurrogate?_of_unit found more] at read
    obtain rfl := Except.ok.inj read
    refine ⟨_, readLowSurrogate?_of_unit found' more', ?_⟩
    split
    · refine ⟨rfl, final, ?_⟩
      simp only [List.length_cons]
      omega
    · exact ⟨rfl, h, le_rfl⟩
  · have same {text : List Char} (unescaped : ¬ ∃ rest, text = '\\' :: 'u' :: rest) :
        readLowSurrogate? text = .ok (none, text) := by
      unfold readLowSurrogate?
      split
      · exact absurd ⟨_, rfl⟩ unescaped
      · rfl
    rw [same escape] at read
    obtain rfl := Except.ok.inj read
    refine ⟨(none, text'), same ?_, ⟨rfl, h, le_rfl⟩⟩
    -- the second text starts with an escape only if the first one does
    rintro ⟨rest', rfl⟩
    obtain ⟨_, rfl, afterMark⟩ := h.of_cons_of_inner (by decide)
    obtain ⟨rest, rfl, -⟩ := afterMark.of_cons_of_inner (by decide)
    exact escape ⟨rest, rfl⟩

theorem readUnitEscape_of_respaced {here : Char × List Char} (h : Respaced n text text')
    (read : readUnitEscape text = .ok here) :
    ∃ there, readUnitEscape text' = .ok there ∧ Alongside n text'.length here there := by
  unfold readUnitEscape at read
  split at read
  · cases read
  · rename_i unit rest found
    obtain ⟨rest', found', respaced, shorter⟩ := readUnit?_of_respaced h found
    rw [readUnitEscape, found']
    split at read
    · cases read
    · rename_i more
      have more' : ¬ rest'.isEmpty = true := by
        rw [List.isEmpty_iff] at more ⊢
        exact fun empty => more (respaced.eq_nil_iff.mpr empty)
      split at read
      · rename_i high
        obtain ⟨⟨low, after⟩, pair, made⟩ := bind_eq_ok_iff.mp read
        obtain ⟨⟨low', after'⟩, pair', rfl, final, within⟩ :=
          readLowSurrogate?_of_respaced respaced pair
        have inside : after'.length ≤ text'.length := by
          have : after'.length ≤ rest'.length := within
          omega
        simp only [if_neg more', if_pos high, pair', ok_bind]
        cases low' with
        | none =>
            obtain rfl := Except.ok.inj made
            exact ⟨_, rfl, ⟨rfl, final, inside⟩⟩
        | some low' =>
            obtain rfl := Except.ok.inj made
            exact ⟨_, rfl, ⟨rfl, final, inside⟩⟩
      · rename_i basic
        cases read
        simp only [if_neg more', if_neg basic]
        exact ⟨_, rfl, ⟨rfl, respaced, Nat.le.intro shorter.symm⟩⟩

theorem readEscape_of_respaced {opened opened' : Nat} {here : Char × List Char}
    (h : Respaced n text text') (read : readEscape opened text = .ok here) :
    ∃ there, readEscape opened' text' = .ok there ∧ Alongside n text'.length here there := by
  unfold readEscape at read
  split at read
  case h_10 =>
    obtain ⟨rest', rfl, respaced⟩ := h.cons_of_inner (by decide)
    obtain ⟨there, read', along⟩ := readUnitEscape_of_respaced respaced read
    exact ⟨there, read', along.mono (Nat.le_succ _)⟩
  case h_1 => cases read
  case h_11 => cases read
  all_goals
    obtain ⟨rest', rfl, respaced⟩ := h.cons_of_inner (by decide)
    cases read
    exact ⟨_, rfl, ⟨rfl, respaced, Nat.le_succ _⟩⟩

/-- The characters of a string follow: a line end among them is a wide one, which stops the second
reading. -/
theorem readChars_follows {opened opened' fuel fuel' : Nat} {here : List Char × List Char}
    (h : Respaced n text text') (read : readChars opened fuel text = .ok here)
    (enough : text'.length < fuel') :
    Follows n text'.length here (readChars opened' fuel' text') := by
  fun_induction readChars opened fuel text generalizing n text' fuel' here with
  | case1 => cases read
  | case2 => cases read
  | case3 =>
      obtain ⟨fuel', rfl⟩ := Nat.exists_eq_succ_of_ne_zero (Nat.ne_zero_of_lt enough)
      obtain ⟨rest', rfl, respaced⟩ := h.cons_of_inner (by decide)
      cases read
      exact .reads ⟨rfl, respaced, Nat.le_succ _⟩
  | case4 fuel rest ih =>
      obtain ⟨fuel', rfl⟩ := Nat.exists_eq_succ_of_ne_zero (Nat.ne_zero_of_lt enough)
      obtain ⟨rest', rfl, respaced⟩ := h.cons_of_inner (by decide)
      obtain ⟨⟨c, after⟩, escape, read⟩ := bind_eq_ok_iff.mp read
      obtain ⟨⟨more, final⟩, tail, made⟩ := bind_eq_ok_iff.mp read
      obtain rfl := Except.ok.inj made
      obtain ⟨⟨_, after'⟩, escape', rfl, afterEscape, within⟩ :=
        readEscape_of_respaced respaced escape
      have shorter : after'.length < rest'.length + 1 := Nat.lt_succ_of_le within
      have follows := ih after afterEscape tail (shorter.trans_le (Nat.le_of_lt_succ enough))
      rw [readChars, escape', ok_bind]
      exact (follows.mono shorter.le).bind fun _ final' bound => .reads ⟨rfl, final', bound⟩
  | case5 => cases read
  | case6 fuel c rest _ _ printable ih =>
      obtain ⟨fuel', rfl⟩ := Nat.exists_eq_succ_of_ne_zero (Nat.ne_zero_of_lt enough)
      obtain ⟨⟨more, final⟩, tail, made⟩ := bind_eq_ok_iff.mp read
      obtain rfl := Except.ok.inj made
      cases h with
      | keep inner respaced =>
          have follows := ih respaced tail (Nat.lt_of_succ_lt_succ enough)
          rw [readChars, if_neg printable]
          · exact (follows.mono (Nat.le_succ _)).bind fun _ final' bound =>
              .reads ⟨rfl, final', bound⟩
          all_goals assumption
      | pair _ => exact absurd (by decide) printable
      | narrow ends isNarrow _ => exact absurd (Text.toNat_lt_of_narrow ends isNarrow) printable
      | wide _ _ => exact .stops (Nat.succ_pos _)

/-- A string follows. -/
theorem readString_follows {here : String × List Char} (h : Respaced n text text')
    (read : readString text = .ok here) : Follows n text'.length here (readString text') := by
  obtain ⟨⟨chars, rest⟩, found, made⟩ := bind_eq_ok_iff.mp read
  obtain rfl := Except.ok.inj made
  exact (readChars_follows h found (Nat.lt_succ_self _)).bind fun _ final bound =>
    .reads ⟨rfl, final, bound⟩

end

end PlanGraph.Json
