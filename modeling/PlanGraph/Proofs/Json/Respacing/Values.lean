import PlanGraph.Proofs.Json.Respacing.Numbers

/-!
# Reading respaced texts

A text and the same text with each line end written as a line feed give the same value as long as no
line end within a string is met, and the second one is refused at the first that is
(`readText_of_respaced`). Values, items and members go together by induction on the fuel that the
text was read with (`follows`); the respaced text is shorter, and any fuel that suffices for its
length will do.
-/

namespace PlanGraph.Json

open Text (Respaced isLineEnd isWideEnd)

section

variable {n : Nat} {c : Char} {text text' rest : List Char}

/-! ## Values -/

/-- What stands after blanks is respaced, unless it starts with a line end. -/
theorem respaced_skipSpace (h : Respaced n text text')
    (first : ∃ c rest, skipSpace text = c :: rest ∧ isLineEnd c = false) :
    Respaced n (skipSpace text) (skipSpace text') ∧ (skipSpace text').length ≤ text'.length := by
  obtain ⟨c, rest, found, inner⟩ := first
  obtain ⟨rest', found', respaced, shorter⟩ := skipSpace_of_respaced h found inner
  rw [found, found']
  exact ⟨.keep inner respaced, shorter⟩

/-- Values that can be read with some fuel follow. -/
def ValueFollows (fuel : Nat) : Prop :=
  ∀ {n fuel' : Nat} {text text' : List Char} {here : Json × List Char}, Respaced n text text' →
    readValue fuel text = .ok here → 2 * text'.length + 1 ≤ fuel' →
    Follows n text'.length here (readValue fuel' text')

/-- Items that can be read with some fuel follow. -/
def ItemsFollow (fuel : Nat) : Prop :=
  ∀ {n fuel' : Nat} {text text' : List Char} {here : List Json × List Char}, Respaced n text text' →
    readItems fuel text = .ok here → 2 * text'.length + 2 ≤ fuel' →
    Follows n text'.length here (readItems fuel' text')

/-- Members that can be read with some fuel follow. -/
def MembersFollow (fuel : Nat) : Prop :=
  ∀ {n fuel' : Nat} {members : List (String × Json)} {text text' : List Char}
    {here : List (String × Json) × List Char}, Respaced n text text' →
    readMembers fuel members text = .ok here → 2 * text'.length + 2 ≤ fuel' →
    Follows n text'.length here (readMembers fuel' members text')

/-- An array that does not end at once. -/
theorem readValue_array (fuel : Nat) (more : ∀ after, skipSpace text ≠ ']' :: after) :
    readValue (fuel + 1) ('[' :: text) =
      readItems fuel (skipSpace text) >>= fun found => pure (arr found.1, found.2) := by
  rw [readValue.eq_3]
  split
  · rename_i ends
    exact absurd ends (more _)
  · rfl

/-- An object that does not end at once. -/
theorem readValue_object (fuel : Nat) (more : ∀ after, skipSpace text ≠ '\x7d' :: after) :
    readValue (fuel + 1) ('\x7b' :: text) =
      readMembers fuel [] (skipSpace text) >>= fun found => pure (obj found.1, found.2) := by
  rw [readValue.eq_4]
  split
  · rename_i ends
    exact absurd ends (more _)
  · rfl

/-- What stands after blanks starts with a character in both texts or in none. -/
theorem skipSpace_ne_of_respaced (h : Respaced n (skipSpace text) (skipSpace text'))
    (inner : isLineEnd c = false) (other : ∀ rest, skipSpace text ≠ c :: rest) (rest' : List Char) :
    skipSpace text' ≠ c :: rest' := by
  intro found'
  rw [found'] at h
  obtain ⟨rest, found, -⟩ := h.of_cons_of_inner inner
  exact other rest found

theorem ValueFollows.succ {fuel : Nat} (items : ItemsFollow fuel) (members : MembersFollow fuel) :
    ValueFollows (fuel + 1) := by
  intro n fuel' text text' here h read enough
  obtain ⟨fuel', rfl⟩ := Nat.exists_eq_succ_of_ne_zero (Nat.ne_zero_of_lt enough)
  have kind := read
  rw [readValue.eq_def] at kind
  dsimp only at kind
  split at kind
  case h_1 rest =>
    obtain ⟨rest', rfl, respaced⟩ := h.cons_of_inner (by decide)
    obtain ⟨⟨s, after⟩, string, made⟩ := bind_eq_ok_iff.mp read
    obtain rfl := Except.ok.inj made
    rw [readValue.eq_2]
    exact ((readString_follows respaced string).mono (Nat.le_succ _)).bind
      fun _ final within => .reads ⟨rfl, final, within⟩
  case h_2 rest =>
    obtain ⟨rest', rfl, respaced⟩ := h.cons_of_inner (by decide)
    by_cases closes : ∃ after, skipSpace rest = ']' :: after
    · obtain ⟨after, closes⟩ := closes
      obtain ⟨after', closes', final, shorter⟩ :=
        skipSpace_of_respaced respaced closes (by decide)
      rw [readValue.eq_3, closes] at read
      obtain rfl := Except.ok.inj read
      rw [readValue.eq_3, closes']
      exact .reads ⟨rfl, final, shorter.le.trans (Nat.le_succ _)⟩
    · replace closes : ∀ after, skipSpace rest ≠ ']' :: after :=
        fun after found => closes ⟨after, found⟩
      rw [readValue_array fuel closes] at read
      obtain ⟨⟨list, after⟩, found, made⟩ := bind_eq_ok_iff.mp read
      obtain rfl := Except.ok.inj made
      obtain ⟨first, shorter⟩ := respaced_skipSpace respaced (exists_inner_of_readItems found)
      rw [readValue_array fuel' (skipSpace_ne_of_respaced first (by decide) closes)]
      rw [List.length_cons] at enough
      exact ((items first found (by omega)).mono (shorter.trans (Nat.le_succ _))).bind
        fun _ final within => .reads ⟨rfl, final, within⟩
  case h_3 rest =>
    obtain ⟨rest', rfl, respaced⟩ := h.cons_of_inner (by decide)
    by_cases closes : ∃ after, skipSpace rest = '\x7d' :: after
    · obtain ⟨after, closes⟩ := closes
      obtain ⟨after', closes', final, shorter⟩ :=
        skipSpace_of_respaced respaced closes (by decide)
      rw [readValue.eq_4, closes] at read
      obtain rfl := Except.ok.inj read
      rw [readValue.eq_4, closes']
      exact .reads ⟨rfl, final, shorter.le.trans (Nat.le_succ _)⟩
    · replace closes : ∀ after, skipSpace rest ≠ '\x7d' :: after :=
        fun after found => closes ⟨after, found⟩
      rw [readValue_object fuel closes] at read
      obtain ⟨⟨list, after⟩, found, made⟩ := bind_eq_ok_iff.mp read
      obtain rfl := Except.ok.inj made
      obtain ⟨first, shorter⟩ := respaced_skipSpace respaced (exists_inner_of_readMembers found)
      rw [readValue_object fuel' (skipSpace_ne_of_respaced first (by decide) closes)]
      rw [List.length_cons] at enough
      exact ((members first found (by omega)).mono (shorter.trans (Nat.le_succ _))).bind
        fun _ final within => .reads ⟨rfl, final, within⟩
  case h_4 noString noArray noObject =>
    obtain ⟨there, plain, along⟩ := readPlain_of_respaced h kind
    have other {c : Char} (inner : isLineEnd c = false) (none : ∀ rest, text = c :: rest → False)
        (rest' : List Char) : text' = c :: rest' → False := by
      rintro rfl
      obtain ⟨rest, same, -⟩ := h.of_cons_of_inner inner
      exact none rest same
    rw [readValue.eq_5 _ _ (other (by decide) noString) (other (by decide) noArray)
      (other (by decide) noObject), plain]
    exact .reads along

theorem ItemsFollow.succ {fuel : Nat} (value : ValueFollows fuel) (items : ItemsFollow fuel) :
    ItemsFollow (fuel + 1) := by
  intro n fuel' text text' here h read enough
  obtain ⟨fuel', rfl⟩ := Nat.exists_eq_succ_of_ne_zero (Nat.ne_zero_of_lt enough)
  rw [readItems.eq_2] at read ⊢
  obtain ⟨⟨item, after⟩, found, read⟩ := bind_eq_ok_iff.mp read
  refine (value h found (by omega)).bind fun after' respaced within => ?_
  dsimp only at read ⊢
  split at read
  · rename_i rest closes
    obtain ⟨rest', closes', final, shorter⟩ := skipSpace_of_respaced respaced closes (by decide)
    obtain rfl := Except.ok.inj read
    rw [closes']
    exact .reads ⟨rfl, final, shorter.le.trans within⟩
  · rename_i rest comma
    obtain ⟨rest', comma', respaced, shorter⟩ := skipSpace_of_respaced respaced comma (by decide)
    obtain ⟨⟨more, final⟩, tail, made⟩ := bind_eq_ok_iff.mp read
    obtain rfl := Except.ok.inj made
    obtain ⟨first, skipped⟩ := respaced_skipSpace respaced (exists_inner_of_readItems tail)
    rw [comma']
    exact ((items first tail (by omega)).mono (by omega)).bind
      fun _ final within => .reads ⟨rfl, final, within⟩
  · cases read

theorem MembersFollow.succ {fuel : Nat} (value : ValueFollows fuel)
    (members : MembersFollow fuel) : MembersFollow (fuel + 1) := by
  intro n fuel' known text text' here h read enough
  obtain ⟨fuel', rfl⟩ := Nat.exists_eq_succ_of_ne_zero (Nat.ne_zero_of_lt enough)
  by_cases named : ∃ rest, text = '"' :: rest
  · obtain ⟨rest, rfl⟩ := named
    obtain ⟨rest', rfl, respaced⟩ := h.cons_of_inner (by decide)
    rw [readMembers.eq_2] at read ⊢
    obtain ⟨⟨name, afterName⟩, string, read⟩ := bind_eq_ok_iff.mp read
    rw [List.length_cons] at enough
    refine (readString_follows respaced string).bind fun afterName' respaced afterQuote => ?_
    dsimp only at read ⊢
    split at read
    · rename_i rest colon
      obtain ⟨rest', colon', respaced, afterColon⟩ :=
        skipSpace_of_respaced respaced colon (by decide)
      obtain ⟨⟨given, after⟩, found, read⟩ := bind_eq_ok_iff.mp read
      obtain ⟨first, skipped⟩ := respaced_skipSpace respaced (exists_inner_of_readValue found)
      rw [colon']
      refine (value first found (by omega)).bind fun after' respaced within => ?_
      dsimp only at read ⊢
      split at read
      · rename_i rest closes
        obtain ⟨rest', closes', final, shorter⟩ := skipSpace_of_respaced respaced closes (by decide)
        obtain rfl := Except.ok.inj read
        rw [closes']
        exact .reads ⟨rfl, final, by simp only [List.length_cons]; omega⟩
      · rename_i rest comma
        obtain ⟨rest', comma', respaced, shorter⟩ :=
          skipSpace_of_respaced respaced comma (by decide)
        obtain ⟨first, again⟩ := respaced_skipSpace respaced (exists_inner_of_readMembers read)
        rw [comma']
        exact (members first read (by omega)).mono (by simp only [List.length_cons]; omega)
      · cases read
    · cases read
  · rw [readMembers.eq_3 _ _ _ fun rest same => named ⟨rest, same⟩] at read
    cases read

/-- Whatever can be read follows, whichever fuel it was read with. -/
theorem follows (fuel : Nat) : ValueFollows fuel ∧ ItemsFollow fuel ∧ MembersFollow fuel := by
  induction fuel with
  | zero =>
      refine ⟨?_, ?_, ?_⟩
      · intro _ _ _ _ _ _ read
        cases read
      · intro _ _ _ _ _ _ read
        cases read
      · intro _ _ _ _ _ _ _ read
        cases read
  | succ fuel ih =>
      obtain ⟨value, items, members⟩ := ih
      exact ⟨ValueFollows.succ items members, ItemsFollow.succ value items,
        MembersFollow.succ value members⟩

/-! ## Whole texts -/

/-- **A text with its lines joined again.** It is read as the text was where no line end outside
ASCII is in it, and is refused for a control character where there is one. -/
theorem readText_of_respaced {value : Json} (h : Respaced n text text')
    (read : readText text = .ok value) :
    (n = 0 ∧ readText text' = .ok value) ∨
      0 < n ∧ ∃ left, readText text' = .error ⟨.controlCharacter, left⟩ := by
  obtain ⟨c, rest, rfl⟩ : ∃ c rest, text = c :: rest := by
    cases text with
    | nil => cases read
    | cons c rest => exact ⟨c, rest, rfl⟩
  obtain ⟨d, rest', rfl⟩ : ∃ d rest', text' = d :: rest' := by
    cases h <;> exact ⟨_, _, rfl⟩
  rw [readText] at read ⊢
  split at read
  · cases read
  · rename_i unmarked
    have unmarked' : ¬ d.toNat = 0xfeff := by
      cases h with
      | keep _ _ => exact unmarked
      | _ => decide
    obtain ⟨⟨given, after⟩, found, read⟩ := bind_eq_ok_iff.mp read
    obtain ⟨first, skipped⟩ := respaced_skipSpace h (exists_inner_of_readValue found)
    have enough : 2 * (skipSpace (d :: rest')).length + 1 ≤ 2 * (d :: rest').length + 2 := by
      omega
    rw [if_neg unmarked']
    dsimp only at read
    split at read
    · rename_i ends
      obtain rfl := Except.ok.inj read
      have following := (follows _).1 first found enough
      generalize readValue _ (skipSpace (d :: rest')) = result at following ⊢
      cases following with
      | @reads there along =>
          obtain ⟨_, after'⟩ := there
          obtain rfl := along.value
          obtain ⟨none, ends'⟩ := skipSpace_nil_of_respaced along.rest ends
          refine .inl ⟨none, ?_⟩
          rw [ok_bind]
          dsimp only
          rw [ends']
          rfl
      | @stops left wide => exact .inr ⟨wide, left, rfl⟩
    · cases read

end

end PlanGraph.Json
