import Mathlib.Data.List.TakeWhile
import PlanGraph.Mention

/-!
# Pieces of a prompt

A prompt is made of mentions and of characters between them. What its mentions are is said by a
relation (`SplitsInto`), without reference to the reader of mentions: from left to right, a mention
is taken wherever one starts, and the text goes on behind it. A text splits in exactly one way
(`splitsInto_iff`).

* The reader finds a mention exactly where one starts (`readMention?_eq_some_iff`).
* To resolve a prompt is to resolve each of its mentions and to keep every other piece
  (`toList_resolveMentions`).
* In a table of symbols, the first of equal ids owns the symbol (`lookup_symbolsOf`).
-/

namespace PlanGraph

/-! ## Where a mention starts -/

/-- What is left of a text behind a word that it starts with. -/
theorem dropStart?_eq_some_iff {word text rest : List Char} :
    dropStart? word text = some rest ↔ text = word ++ rest := by
  rw [dropStart?, Option.ite_none_right_eq_some, List.isPrefixOf_iff_prefix]
  constructor
  · rintro ⟨⟨more, rfl⟩, same⟩
    rw [List.drop_left, Option.some.injEq] at same
    rw [same]
  · rintro rfl
    exact ⟨List.prefix_append word rest, by rw [List.drop_left]⟩

namespace Mention

/-- An id is not empty and holds no comma and no closing brace; a label holds no closing brace. -/
structure WellFormed (mention : Mention) : Prop where
  /-- There is an id. -/
  id_ne_nil : mention.id ≠ []
  /-- The id ends before the first comma or closing brace. -/
  id_chars : ∀ c ∈ mention.id, c ≠ ',' ∧ c ≠ closingBrace
  /-- The label ends before the first closing brace. -/
  label_chars : ∀ c ∈ mention.label, c ≠ closingBrace

end Mention

/-- The longest word at the start of a text ends where a character stands that it may not hold. -/
theorem takeWhile_append_stop {α : Type} {holds : α → Bool} {word rest : List α} {stop : α}
    (inside : ∀ c ∈ word, holds c = true) (outside : holds stop = false) :
    (word ++ stop :: rest).takeWhile holds = word := by
  rw [List.takeWhile_append_of_pos inside, List.takeWhile_cons_of_neg (by simp [outside]),
    List.append_nil]

/-- A text is its longest word of a kind and what is behind it. -/
theorem takeWhile_append_drop {α : Type} (holds : α → Bool) (text : List α) :
    text.takeWhile holds ++ text.drop (text.takeWhile holds).length = text :=
  List.prefix_iff_eq_append.mp (List.takeWhile_prefix holds)

/-- What follows the longest word at the start of a text begins with a character that the word may
not hold. -/
theorem holds_drop_takeWhile {α : Type} {holds : α → Bool} {text rest : List α} {stop : α}
    (h : text.drop (text.takeWhile holds).length = stop :: rest) : holds stop = false := by
  induction text with
  | nil => cases h
  | cons c text ih =>
      by_cases inside : holds c = true
      · rw [List.takeWhile_cons_of_pos inside] at h
        exact ih h
      · rw [List.takeWhile_cons_of_neg inside] at h
        cases h
        simpa using inside

/-- What the reader finds is a mention that the text starts with. -/
theorem wellFormed_of_readMention? {text rest : List Char} {mention : Mention}
    (h : readMention? text = some (mention, rest)) :
    mention.WellFormed ∧ text = mention.text ++ rest := by
  unfold readMention? at h
  split at h
  · cases h
  · rename_i body opened
    dsimp only at h
    split at h
    · cases h
    · rename_i tail middle
      split at h
      · cases h
      · rename_i stop after found
        split at h
        · cases h
        · rename_i named
          simp only [Option.some.injEq, Prod.mk.injEq] at h
          obtain ⟨rfl, rfl⟩ := h
          obtain rfl : stop = closingBrace := by simpa using holds_drop_takeWhile found
          refine ⟨⟨by simpa using named, ?_, ?_⟩, ?_⟩
          · intro c hc
            simpa [isMentionIdChar] using List.mem_takeWhile_imp hc
          · intro c hc
            simpa using List.mem_takeWhile_imp hc
          · calc text = mentionOpening ++ body := dropStart?_eq_some_iff.mp opened
              _ = mentionOpening ++
                    (body.takeWhile isMentionIdChar ++ (mentionMiddle ++ tail)) := by
                rw [← dropStart?_eq_some_iff.mp middle, takeWhile_append_drop]
              _ = mentionOpening ++ (body.takeWhile isMentionIdChar ++ (mentionMiddle ++
                    (tail.takeWhile (· != closingBrace) ++ (closingBrace :: after)))) := by
                rw [← found, takeWhile_append_drop]
              _ = _ := by simp [Mention.text]

/-- The reader finds a mention exactly where a text starts with one. -/
theorem readMention?_eq_some_iff {text rest : List Char} {mention : Mention} :
    readMention? text = some (mention, rest) ↔
      mention.WellFormed ∧ text = mention.text ++ rest := by
  refine ⟨wellFormed_of_readMention?, ?_⟩
  rintro ⟨⟨named, idChars, labelChars⟩, rfl⟩
  have opened : mention.text ++ rest = mentionOpening ++ (mention.id ++
      (mentionMiddle ++ (mention.label ++ closingBrace :: rest))) := by
    simp [Mention.text]
  have idEnd : (mention.id ++ (mentionMiddle ++ (mention.label ++ closingBrace :: rest))).takeWhile
      isMentionIdChar = mention.id :=
    takeWhile_append_stop (fun c hc => by simpa [isMentionIdChar] using idChars c hc) rfl
  have labelEnd : (mention.label ++ closingBrace :: rest).takeWhile (· != closingBrace) =
      mention.label :=
    takeWhile_append_stop (fun c hc => by simpa using labelChars c hc) rfl
  have nonempty : mention.id.isEmpty = false := by simpa using named
  unfold readMention?
  rw [dropStart?_eq_some_iff.mpr opened]
  dsimp only
  rw [idEnd, List.drop_left, dropStart?_eq_some_iff.mpr rfl]
  dsimp only
  rw [labelEnd, List.drop_left]
  simp [nonempty]

/-! ## Pieces -/

/-- A piece of a prompt. -/
inductive Piece where
  /-- A character that belongs to no mention. -/
  | char (c : Char)
  /-- A mention. -/
  | mention (mention : Mention)
deriving DecidableEq

namespace Piece

/-- The text of a piece. -/
def text : Piece → List Char
  | char c => [c]
  | mention found => found.text

/-- A piece with its mention resolved. -/
def resolve (symbols : List (String × String)) : Piece → Piece
  | char c => .char c
  | mention found => .mention (found.resolve symbols)

end Piece

/-- A text splits into pieces from left to right. Where a mention starts, it is a piece, and the
text goes on behind it; every other character is a piece of its own. -/
inductive SplitsInto : List Char → List Piece → Prop where
  /-- Nothing is left. -/
  | nil : SplitsInto [] []
  /-- A mention starts here. -/
  | mention {mention : Mention} {rest : List Char} {pieces : List Piece}
      (formed : mention.WellFormed) (later : SplitsInto rest pieces) :
      SplitsInto (mention.text ++ rest) (.mention mention :: pieces)
  /-- No mention starts here. -/
  | char {c : Char} {rest : List Char} {pieces : List Piece}
      (outside : ∀ mention : Mention, mention.WellFormed → ¬ mention.text <+: c :: rest)
      (later : SplitsInto rest pieces) : SplitsInto (c :: rest) (.char c :: pieces)

/-- The pieces of a text. -/
def pieces (text : List Char) : List Piece :=
  match text with
  | [] => []
  | c :: rest =>
    match _found : readMention? (c :: rest) with
    | some (mention, after) => .mention mention :: pieces after
    | none => .char c :: pieces rest
termination_by text.length
decreasing_by
  · exact length_readMention? _found
  · simp

/-- Where the reader finds a mention, it is the first piece. -/
theorem pieces_of_readMention? {text after : List Char} {mention : Mention}
    (h : readMention? text = some (mention, after)) :
    pieces text = .mention mention :: pieces after := by
  rcases text with _ | ⟨c, rest⟩
  · cases h
  · rw [pieces]
    split
    · rename_i found
      rw [h] at found
      cases found
      rfl
    · rename_i found
      rw [h] at found
      cases found

/-- Where the reader finds none, the first piece is a character. -/
theorem pieces_of_none {c : Char} {rest : List Char} (h : readMention? (c :: rest) = none) :
    pieces (c :: rest) = .char c :: pieces rest := by
  rw [pieces]
  split
  · rename_i found
    rw [h] at found
    cases found
  · rfl

/-- No mention starts where the reader finds none. -/
theorem readMention?_eq_none_iff {text : List Char} :
    readMention? text = none ↔
      ∀ mention : Mention, mention.WellFormed → ¬ mention.text <+: text := by
  constructor
  · rintro none mention formed ⟨after, same⟩
    rw [readMention?_eq_some_iff.mpr ⟨formed, same.symm⟩] at none
    cases none
  · intro outside
    rcases found : readMention? text with _ | ⟨mention, after⟩
    · rfl
    · obtain ⟨formed, same⟩ := readMention?_eq_some_iff.mp found
      exact absurd ⟨after, same.symm⟩ (outside mention formed)

/-- A text splits into its pieces, and in no other way. -/
theorem splitsInto_iff {text : List Char} {split : List Piece} :
    SplitsInto text split ↔ pieces text = split := by
  constructor
  · intro h
    induction h with
    | nil => rw [pieces]
    | mention formed later ih =>
        rw [pieces_of_readMention? (readMention?_eq_some_iff.mpr ⟨formed, rfl⟩), ih]
    | char outside later ih => rw [pieces_of_none (readMention?_eq_none_iff.mpr outside), ih]
  · rintro rfl
    fun_induction pieces text with
    | case1 => exact .nil
    | case2 c rest mention after found ih =>
        obtain ⟨formed, same⟩ := readMention?_eq_some_iff.mp found
        rw [same]
        exact .mention formed ih
    | case3 c rest found ih => exact .char (readMention?_eq_none_iff.mp found) ih

/-! ## Resolving -/

/-- To resolve a text is to resolve its pieces. -/
theorem resolveText_eq (symbols : List (String × String)) (text : List Char) :
    resolveText symbols text =
      ((pieces text).map (Piece.resolve symbols)).flatMap Piece.text := by
  fun_induction resolveText symbols text with
  | case1 => rw [pieces]; rfl
  | case2 c rest mention after found ih =>
      rw [ih, pieces_of_readMention? found]
      rfl
  | case3 c rest found ih =>
      rw [ih, pieces_of_none found]
      rfl

/-- A text that holds no start of a mention is left alone. -/
theorem resolveText_of_not_mayMention (symbols : List (String × String)) {text : List Char}
    (h : mayMention text = false) : resolveText symbols text = text := by
  fun_induction resolveText symbols text with
  | case1 => rfl
  | case2 c rest mention after found ih =>
      obtain ⟨-, same⟩ := readMention?_eq_some_iff.mp found
      have opens : "@\x7b".toList.isPrefixOf (c :: rest) = true := by
        rw [same, List.isPrefixOf_iff_prefix]
        exact ⟨_, rfl⟩
      rw [mayMention, opens] at h
      cases h
  | case3 c rest found ih =>
      rw [mayMention, Bool.or_eq_false_iff] at h
      rw [ih h.2]

/-- To resolve a prompt is to resolve its pieces. -/
theorem toList_resolveMentions (prompt : String) (symbols : List (String × String)) :
    (resolveMentions prompt symbols).toList =
      ((pieces prompt.toList).map (Piece.resolve symbols)).flatMap Piece.text := by
  rw [← resolveText_eq, resolveMentions]
  split
  · exact String.toList_ofList
  · rename_i none
    rw [resolveText_of_not_mayMention symbols (by simpa using none)]

namespace EntityAssignment

/-! ## Symbols -/

/-- A symbol that is added counts only where its task id stood for nothing before. -/
theorem lookup_bind (symbols : List (String × String)) (taskId entityId id : String) :
    (bind symbols taskId entityId).lookup id =
      (symbols.lookup id).or ([(taskId, entityId)].lookup id) := by
  unfold bind
  split
  · rename_i known
    by_cases same : id = taskId
    · obtain ⟨value, found⟩ := Option.isSome_iff_exists.mp known
      rw [same, found]
      rfl
    · have other : [(taskId, entityId)].lookup id = none := by simp [same]
      rw [other, Option.or_none]
  · exact List.lookup_append

/-- The first of equal ids owns the symbol. -/
theorem lookup_symbolsOf (bindings : List (String × String)) (id : String) :
    (symbolsOf bindings).lookup id = bindings.lookup id := by
  have more : ∀ symbols : List (String × String),
      (bindings.foldl (fun symbols pair => bind symbols pair.1 pair.2) symbols).lookup id =
        (symbols.lookup id).or (bindings.lookup id) := by
    induction bindings with
    | nil => exact fun symbols => Option.or_none.symm
    | cons pair rest ih =>
        intro symbols
        rw [List.foldl_cons, ih, lookup_bind, Option.or_assoc, ← List.lookup_append,
          List.singleton_append]
  exact more []

end EntityAssignment

end PlanGraph
