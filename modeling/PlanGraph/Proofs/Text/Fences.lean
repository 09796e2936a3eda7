import Mathlib.Data.List.DropRight
import PlanGraph.Patch.Script

/-!
# What a fence does to a text

Taking a text out of its fences splits it into lines and joins them again, so that every line end
becomes a line feed (`Respaced`). Nothing else happens to it (`unfence_fenced`), and nothing at all
where every line ends with a line feed (`Respaced.eq_self`).

Among the characters that end a line are three outside ASCII (`isWideEnd`). A JSON text may hold
those within its strings, where a line feed is no longer allowed, so they are counted.
-/

namespace PlanGraph.Text

/-! ## Line ends -/

/-- A character outside ASCII that ends a line. -/
def isWideEnd (c : Char) : Bool :=
  c.toNat == 0x85 || c.toNat == 0x2028 || c.toNat == 0x2029

/-- The second text is the first one with each line end written as a line feed. So many of the line
ends are outside ASCII. -/
inductive Respaced : Nat → List Char → List Char → Prop where
  /-- The empty text. -/
  | nil : Respaced 0 [] []
  /-- A character that ends no line. -/
  | keep {n : Nat} {c : Char} {text text' : List Char} (inner : isLineEnd c = false)
      (rest : Respaced n text text') : Respaced n (c :: text) (c :: text')
  /-- A carriage return and a line feed that end one line. -/
  | pair {n : Nat} {text text' : List Char} (rest : Respaced n text text') :
      Respaced n ('\r' :: '\n' :: text) ('\n' :: text')
  /-- A line end within ASCII. -/
  | narrow {n : Nat} {c : Char} {text text' : List Char} (ends : isLineEnd c = true)
      (narrow : isWideEnd c = false) (rest : Respaced n text text') :
      Respaced n (c :: text) ('\n' :: text')
  /-- A line end outside ASCII. -/
  | wide {n : Nat} {c : Char} {text text' : List Char} (wide : isWideEnd c = true)
      (rest : Respaced n text text') : Respaced (n + 1) (c :: text) ('\n' :: text')

theorem isLineEnd_of_isWideEnd {c : Char} (h : isWideEnd c = true) : isLineEnd c = true := by
  simp only [isWideEnd, Bool.or_eq_true, beq_iff_eq] at h
  simp only [isLineEnd, Bool.or_eq_true, beq_iff_eq]
  rcases h with (h | h) | h
  · exact .inl (.inl (.inr h))
  · exact .inl (.inr h)
  · exact .inr h

/-- Every line end is blank. -/
theorem isBlank_of_isLineEnd {c : Char} (h : isLineEnd c = true) : isBlank c = true := by
  simp only [isLineEnd, Bool.or_eq_true, Bool.and_eq_true, decide_eq_true_eq, beq_iff_eq] at h
  simp only [isBlank, inRanges, blankRanges, List.any_cons, List.any_nil, Bool.or_eq_true,
    Bool.and_eq_true, decide_eq_true_eq, Bool.or_false]
  omega

/-- A line end within ASCII is a control character. -/
theorem toNat_lt_of_narrow {c : Char} (ends : isLineEnd c = true) (narrow : isWideEnd c = false) :
    c.toNat < 0x20 := by
  simp only [isLineEnd, Bool.or_eq_true, Bool.and_eq_true, decide_eq_true_eq, beq_iff_eq] at ends
  simp only [isWideEnd, Bool.or_eq_false_iff, beq_eq_false_iff_ne] at narrow
  omega

namespace Respaced

variable {n : Nat} {c : Char} {text text' : List Char}

/-! ## Reading the relation off -/

theorem cons_of_inner (h : Respaced n (c :: text) text') (inner : isLineEnd c = false) :
    ∃ rest', text' = c :: rest' ∧ Respaced n text rest' := by
  cases h with
  | keep _ rest => exact ⟨_, rfl, rest⟩
  | pair _ => exact absurd inner (by decide)
  | narrow ends _ _ => exact absurd (ends.symm.trans inner) (by decide)
  | wide isWide _ => exact absurd ((isLineEnd_of_isWideEnd isWide).symm.trans inner) (by decide)

theorem append_of_inner {front back : List Char} (h : Respaced n (front ++ back) text')
    (inner : ∀ c ∈ front, isLineEnd c = false) :
    ∃ back', text' = front ++ back' ∧ Respaced n back back' := by
  induction front generalizing text' with
  | nil => exact ⟨text', rfl, h⟩
  | cons c front ih =>
      obtain ⟨rest', rfl, rest⟩ := h.cons_of_inner (inner c (List.mem_cons_self ..))
      obtain ⟨back', rfl, respaced⟩ := ih rest fun d listed =>
        inner d (List.mem_cons_of_mem _ listed)
      exact ⟨back', rfl, respaced⟩

theorem of_cons_of_inner (h : Respaced n text (c :: text')) (inner : isLineEnd c = false) :
    ∃ rest, text = c :: rest ∧ Respaced n rest text' := by
  cases h with
  | keep _ rest => exact ⟨_, rfl, rest⟩
  | pair _ => exact absurd inner (by decide)
  | narrow _ _ _ => exact absurd inner (by decide)
  | wide _ _ => exact absurd inner (by decide)

theorem eq_nil_iff (h : Respaced n text text') : text = [] ↔ text' = [] := by
  cases h <;> simp

theorem length_le (h : Respaced n text text') : text'.length ≤ text.length := by
  induction h <;> simp only [List.length_cons, List.length_nil] <;> omega

/-- The wide line ends are counted. -/
theorem count_eq (h : Respaced n text text') : n = text.countP isWideEnd := by
  induction h with
  | nil => rfl
  | keep inner _ ih =>
      have : isWideEnd _ = false := Bool.eq_false_iff.mpr fun isWide =>
        absurd ((isLineEnd_of_isWideEnd isWide).symm.trans inner) (by decide)
      rw [List.countP_cons_of_neg (by simp [this]), ih]
  | pair _ ih =>
      rw [List.countP_cons_of_neg (by decide), List.countP_cons_of_neg (by decide), ih]
  | narrow _ narrow _ ih => rw [List.countP_cons_of_neg (by simp [narrow]), ih]
  | wide isWide _ ih => rw [List.countP_cons_of_pos isWide, ih]

/-- Respacing brings in line feeds alone. -/
theorem mem_or_feed (h : Respaced n text text') (listed : c ∈ text') : c ∈ text ∨ c = '\n' := by
  induction h with
  | nil => exact .inl listed
  | _ => grind

/-- A text whose lines all end with line feeds stays as it is. -/
theorem eq_self (h : Respaced n text text') (fed : ∀ c ∈ text, isLineEnd c = true → c = '\n') :
    text' = text := by
  induction h with
  | nil => rfl
  | keep _ _ ih => rw [ih fun c listed => fed c (List.mem_cons_of_mem _ listed)]
  | pair _ _ => exact absurd (fed '\r' (List.mem_cons_self ..) (by decide)) (by decide)
  | narrow ends _ _ ih =>
      rw [ih fun c listed => fed c (List.mem_cons_of_mem _ listed),
        fed _ (List.mem_cons_self ..) ends]
  | wide isWide _ ih =>
      rw [ih fun c listed => fed c (List.mem_cons_of_mem _ listed),
        fed _ (List.mem_cons_self ..) (isLineEnd_of_isWideEnd isWide)]

/-! ## Parts of a text -/

/-- Two texts are respaced one after the other, unless a line end goes across. -/
theorem of_append {back : List Char} (apart : back.head? ≠ some '\n') :
    ∀ {front : List Char} {n : Nat} {text' : List Char}, Respaced n (front ++ back) text' →
      ∃ k l front' back', n = k + l ∧ text' = front' ++ back' ∧ Respaced k front front' ∧
        Respaced l back back'
  | [], n, text', h => ⟨0, n, [], text', (Nat.zero_add n).symm, rfl, .nil, h⟩
  | [c], _, _, h => by
    cases h with
    | keep inner rest => exact ⟨0, _, _, _, (Nat.zero_add _).symm, rfl, .keep inner .nil, rest⟩
    | pair rest => exact absurd rfl apart
    | narrow ends isNarrow rest =>
        exact ⟨0, _, _, _, (Nat.zero_add _).symm, rfl, .narrow ends isNarrow .nil, rest⟩
    | wide isWide rest => exact ⟨1, _, _, _, Nat.add_comm .., rfl, .wide isWide .nil, rest⟩
  | c :: d :: front, _, _, h => by
    cases h with
    | keep inner rest =>
        obtain ⟨k, l, front', back', rfl, rfl, first, second⟩ := of_append apart rest
        exact ⟨k, l, _, back', rfl, rfl, .keep inner first, second⟩
    | pair rest =>
        obtain ⟨k, l, front', back', rfl, rfl, first, second⟩ := of_append apart rest
        exact ⟨k, l, _, back', rfl, rfl, .pair first, second⟩
    | narrow ends isNarrow rest =>
        obtain ⟨k, l, front', back', rfl, rfl, first, second⟩ := of_append apart rest
        exact ⟨k, l, _, back', rfl, rfl, .narrow ends isNarrow first, second⟩
    | wide isWide rest =>
        obtain ⟨k, l, front', back', rfl, rfl, first, second⟩ := of_append apart rest
        exact ⟨k + 1, l, _, back', Nat.add_right_comm .., rfl, .wide isWide first, second⟩

end Respaced

/-! ## Lines joined again -/

theorem lines_ne_nil {text : List Char} (h : text ≠ []) : lines text ≠ [] := by
  intro none
  have := lines_head?_eq_firstLine h
  rw [none] at this
  cases this

/-- A line in front of other lines. -/
theorem joinLines_cons (line : List Char) {more : List (List Char)} (h : more ≠ []) :
    joinLines (line :: more) = line ++ '\n' :: joinLines more := by
  rw [joinLines, List.intercalate_cons_of_ne_nil h]
  simp [joinLines]

/-- A character in front of the first line. -/
theorem joinLines_extendFirst (c : Char) (parts : List (List Char)) :
    joinLines (extendFirst c parts) = c :: joinLines parts := by
  cases parts with
  | nil => rfl
  | cons line more =>
      cases more with
      | nil => rfl
      | cons next more =>
          have others : next :: more ≠ [] := List.cons_ne_nil _ _
          rw [extendFirst, joinLines_cons _ others, joinLines_cons _ others, List.cons_append]

/-- Joining the lines of a text respaces it, where the last line has no end. -/
theorem exists_respaced_joinLines {text : List Char}
    (h : ∀ c, text.getLast? = some c → isLineEnd c = false) :
    ∃ n, Respaced n text (joinLines (lines text)) := by
  fun_induction lines text with
  | case1 => exact ⟨0, .nil⟩
  | case2 rest ih =>
      -- the line goes on, for the text would end with the line feed otherwise
      have more : rest ≠ [] := by
        rintro rfl
        exact absurd (h '\n' rfl) (by decide)
      obtain ⟨n, respaced⟩ := ih fun c last => h c (by simp [List.getLast?_cons, last])
      rw [joinLines_cons _ (lines_ne_nil more)]
      exact ⟨n, .pair respaced⟩
  | case3 c rest _ ends ih =>
      have more : rest ≠ [] := by
        rintro rfl
        exact absurd ((h c rfl).symm.trans ends) (by decide)
      obtain ⟨n, respaced⟩ := ih fun d last => h d (by simp [List.getLast?_cons, last])
      rw [joinLines_cons _ (lines_ne_nil more)]
      cases isWide : isWideEnd c with
      | true => exact ⟨n + 1, .wide isWide respaced⟩
      | false => exact ⟨n, .narrow ends isWide respaced⟩
  | case4 c rest _ inner ih =>
      obtain ⟨n, respaced⟩ := ih fun d last => h d (by simp [List.getLast?_cons, last])
      rw [joinLines_extendFirst]
      exact ⟨n, .keep (Bool.eq_false_iff.mpr inner) respaced⟩

/-! ## Trimming -/

/-- Nothing but blanks. -/
def AllBlank (text : List Char) : Prop :=
  ∀ c ∈ text, isBlank c = true

theorem trimStart_append {front : List Char} (h : AllBlank front) (text : List Char) :
    trimStart (front ++ text) = trimStart text :=
  List.dropWhile_append_of_pos h

theorem trimEnd_append {back : List Char} (h : AllBlank back) (text : List Char) :
    trimEnd (text ++ back) = trimEnd text := by
  rw [trimEnd, List.reverse_append,
    List.dropWhile_append_of_pos fun c listed => h c (List.mem_reverse.mp listed), trimEnd]

/-- The blanks at the end go with the first character where nothing else is left. -/
theorem trimEnd_cons (c : Char) (text : List Char) :
    trimEnd (c :: text) =
      if isBlank c = true ∧ trimEnd text = [] then [] else c :: trimEnd text := by
  rw [trimEnd, trimEnd, List.reverse_cons, List.dropWhile_append]
  cases rest : text.reverse.dropWhile isBlank with
  | nil => cases blank : isBlank c <;> simp [blank]
  | cons d more => simp

/-- The two ends are trimmed in either order. -/
theorem trim_eq (text : List Char) : trim text = trimStart (trimEnd text) := by
  induction text with
  | nil => rfl
  | cons c text ih =>
      rw [trimEnd_cons]
      rw [trim, trimStart] at ih ⊢
      cases blank : isBlank c with
      | false => simp [trimStart, blank, trimEnd_cons]
      | true =>
          rw [List.dropWhile_cons_of_pos blank, ih]
          by_cases empty : trimEnd text = []
          · simp [empty]
          · rw [if_neg fun h => empty h.2, trimStart, trimStart, List.dropWhile_cons_of_pos blank]

theorem trim_trimEnd (text : List Char) : trim (trimEnd text) = trim text := by
  rw [trim_eq, trim_eq]
  exact congrArg trimStart (List.rdropWhile_idempotent isBlank text)

/-- Blanks around a text are trimmed with it. -/
theorem trim_between {front back : List Char} (atFront : AllBlank front) (atBack : AllBlank back)
    (text : List Char) : trim (front ++ text ++ back) = trim text := by
  rw [trim_eq, trimEnd_append atBack, ← trim_eq, trim, trimStart_append atFront, ← trim]

/-- A text between two characters that are not blank is trimmed already. -/
theorem trim_eq_self {first last : Char} (text : List Char) (atFront : isBlank first = false)
    (atBack : isBlank last = false) :
    trim (first :: text ++ [last]) = first :: text ++ [last] := by
  rw [trim, trimStart, List.cons_append, List.dropWhile_cons_of_neg (by simp [atFront]),
    ← List.cons_append]
  exact List.rdropWhile_concat_neg isBlank _ _ (by simp [atBack])

namespace Respaced

variable {n : Nat} {text text' : List Char}

theorem trimStart (h : Respaced n text text') :
    ∃ k, Respaced k (Text.trimStart text) (Text.trimStart text') := by
  have feed : isBlank '\n' = true := by decide
  induction h with
  | nil => exact ⟨0, .nil⟩
  | @keep n c _ _ inner rest ih =>
      rw [Text.trimStart, Text.trimStart, List.dropWhile_cons, List.dropWhile_cons]
      cases isBlank c with
      | true => exact ih
      | false => exact ⟨n, .keep inner rest⟩
  | pair _ ih => exact ih
  | narrow ends _ _ ih =>
      rwa [Text.trimStart, Text.trimStart, List.dropWhile_cons_of_pos feed,
        List.dropWhile_cons_of_pos (isBlank_of_isLineEnd ends)]
  | wide isWide _ ih =>
      rwa [Text.trimStart, Text.trimStart, List.dropWhile_cons_of_pos feed,
        List.dropWhile_cons_of_pos (isBlank_of_isLineEnd (isLineEnd_of_isWideEnd isWide))]

/-- A character in front is trimmed with the rest in both texts or in none. -/
theorem trimEnd_cons {c c' : Char} (trimmed : Respaced n (Text.trimEnd text) (Text.trimEnd text'))
    (blanks : isBlank c = isBlank c')
    (extend : ∃ k, Respaced k (c :: Text.trimEnd text) (c' :: Text.trimEnd text')) :
    ∃ k, Respaced k (Text.trimEnd (c :: text)) (Text.trimEnd (c' :: text')) := by
  rw [Text.trimEnd_cons, Text.trimEnd_cons, ← blanks]
  by_cases gone : isBlank c = true ∧ Text.trimEnd text = []
  · rw [if_pos gone, if_pos ⟨gone.1, trimmed.eq_nil_iff.mp gone.2⟩]
    exact ⟨0, .nil⟩
  · rw [if_neg gone, if_neg fun h => gone ⟨h.1, trimmed.eq_nil_iff.mpr h.2⟩]
    exact extend

theorem trimEnd (h : Respaced n text text') :
    ∃ k, Respaced k (Text.trimEnd text) (Text.trimEnd text') := by
  have feed : isBlank '\n' = true := by decide
  induction h with
  | nil => exact ⟨0, .nil⟩
  | keep inner _ ih =>
      obtain ⟨k, trimmed⟩ := ih
      exact trimmed.trimEnd_cons rfl ⟨k, .keep inner trimmed⟩
  | @pair _ text text' _ ih =>
      obtain ⟨k, trimmed⟩ := ih
      by_cases gone : Text.trimEnd text = []
      · rw [Text.trimEnd_cons, Text.trimEnd_cons, Text.trimEnd_cons, gone,
          trimmed.eq_nil_iff.mp gone]
        exact ⟨0, .nil⟩
      · have kept : Text.trimEnd ('\n' :: text) = '\n' :: Text.trimEnd text := by
          rw [Text.trimEnd_cons, if_neg fun h => gone h.2]
        have kept' : Text.trimEnd ('\n' :: text') = '\n' :: Text.trimEnd text' := by
          rw [Text.trimEnd_cons, if_neg fun h => gone (trimmed.eq_nil_iff.mpr h.2)]
        rw [Text.trimEnd_cons, kept, kept', if_neg fun h => List.cons_ne_nil _ _ h.2]
        exact ⟨k, .pair trimmed⟩
  | narrow ends isNarrow _ ih =>
      obtain ⟨k, trimmed⟩ := ih
      exact trimmed.trimEnd_cons ((isBlank_of_isLineEnd ends).trans feed.symm)
        ⟨k, .narrow ends isNarrow trimmed⟩
  | wide isWide _ ih =>
      obtain ⟨k, trimmed⟩ := ih
      exact trimmed.trimEnd_cons
        ((isBlank_of_isLineEnd (isLineEnd_of_isWideEnd isWide)).trans feed.symm)
        ⟨k + 1, .wide isWide trimmed⟩

theorem trim (h : Respaced n text text') : ∃ k, Respaced k (Text.trim text) (Text.trim text') := by
  obtain ⟨_, started⟩ := h.trimStart
  exact started.trimEnd

end Respaced

/-! ## Fences -/

theorem lines_cons_of_inner {c : Char} (inner : isLineEnd c = false) (text : List Char) :
    lines (c :: text) = extendFirst c (lines text) := by
  have noReturn : c ≠ '\r' := by
    rintro rfl
    exact absurd inner (by decide)
  rw [lines, if_neg (by simp [inner])]
  exact fun _ same _ => noReturn same

/-- The first line, where it ends with a line feed. -/
theorem lines_append {line : List Char} (inner : ∀ c ∈ line, isLineEnd c = false)
    (text : List Char) : lines (line ++ '\n' :: text) = line :: lines text := by
  induction line with
  | nil => rfl
  | cons c line ih =>
      rw [List.cons_append, lines_cons_of_inner (inner c (List.mem_cons_self ..)),
        ih fun d listed => inner d (List.mem_cons_of_mem _ listed), extendFirst]

/-- A text between two fences, the first of them with a name after it. -/
def fenced (text : List Char) : List Char :=
  fence ++ "json".toList ++ '\n' :: text ++ '\n' :: fence

/-- No line ends within the line of the first fence. -/
theorem inner_of_mem_fence {c : Char} (h : c ∈ fence ++ "json".toList) : isLineEnd c = false := by
  have none : (fence ++ "json".toList).all (fun c => !isLineEnd c) = true := by decide
  simpa using List.all_eq_true.mp none c h

/-- What ends with a fence is what stands before it, up to blanks. -/
theorem trim_dropLastFence (text : List Char) :
    trim (dropLastFence (text ++ fence)) = trim text := by
  have whole : trimEnd (text ++ fence) = text ++ fence := by
    have split :
        text ++ fence = (text ++ List.replicate 2 (Char.ofNat 0x60)) ++ [Char.ofNat 0x60] := by
      rw [List.append_assoc]
      rfl
    rw [split]
    exact List.rdropWhile_concat_neg isBlank _ _ (by decide)
  rw [dropLastFence, whole, if_pos (List.isSuffixOf_iff_suffix.mpr (List.suffix_append ..)),
    List.length_append, Nat.add_sub_cancel, List.take_left, trim_trimEnd]

/-- **What is between fences.** A text that is put between fences and taken out again is trimmed and
respaced. -/
theorem exists_respaced_unfence {front back : List Char} (atFront : AllBlank front)
    (atBack : AllBlank back) (text : List Char) :
    ∃ n, Respaced n (trim text) (unfence (front ++ fenced text ++ back)) := by
  have trimmed : trim (front ++ fenced text ++ back) = fenced text := by
    rw [trim_between atFront atBack]
    have split : fenced text = Char.ofNat 0x60 :: (List.replicate 2 (Char.ofNat 0x60) ++
        "json".toList ++ '\n' :: text ++ '\n' :: List.replicate 2 (Char.ofNat 0x60)) ++
        [Char.ofNat 0x60] := by
      simp [fenced, fence, List.replicate]
    rw [split]
    exact trim_eq_self _ (by decide) (by decide)
  have opened : fence.isPrefixOf (fenced text) = true := by
    rw [List.isPrefixOf_iff_prefix, fenced, List.append_assoc, List.append_assoc]
    exact List.prefix_append ..
  have inside : (lines (fenced text)).drop 1 = lines (text ++ ['\n'] ++ fence) := by
    rw [fenced, List.append_assoc, List.cons_append, lines_append fun _ => inner_of_mem_fence]
    simp
  have closed : ∀ c, (text ++ ['\n'] ++ fence).getLast? = some c → isLineEnd c = false := by
    intro c last
    rw [List.getLast?_append] at last
    cases last
    decide
  obtain ⟨n, joined⟩ := exists_respaced_joinLines closed
  obtain ⟨k, l, text', fence', -, same, respaced, unchanged⟩ := joined.of_append (by decide)
  have closing : fence' = fence := unchanged.eq_self fun c listed ends =>
    absurd ((inner_of_mem_fence (List.mem_append_left _ listed)).symm.trans ends) (by decide)
  obtain ⟨m, result⟩ := respaced.trim
  have feed : isBlank '\n' = true := by decide
  have untouched : trim (text ++ ['\n']) = trim text := by
    rw [trim_eq, trimEnd_append (by simp [AllBlank, feed]), ← trim_eq]
  refine ⟨m, ?_⟩
  rw [unfence, trimmed, if_pos opened, inside, same, closing, trim_dropLastFence, ← untouched]
  exact result

/-- A text without fences is trimmed. -/
theorem unfence_of_bare {front back : List Char} (atFront : AllBlank front)
    (atBack : AllBlank back) {text : List Char} (bare : ¬ fence <+: trim text) :
    unfence (front ++ text ++ back) = trim text := by
  rw [unfence, trim_between atFront atBack,
    if_neg fun opened => bare (List.isPrefixOf_iff_prefix.mp opened)]

end PlanGraph.Text
