import PlanGraph.Proofs.Compile.Draws
import PlanGraph.Proofs.Mention.Chunks

/-!
# Resolving twice

A prompt that was resolved is resolved already, if what the ids stand for can itself be the id of a
mention and stands for nothing (`FinalSymbols`, `resolveMentions_resolveMentions`). Compiling makes
such a table unless a task has one of the entity ids as its own id.

Another id may be longer or shorter than the one it replaces, but what is before it in the chunk
stays, and with it the start of the mention. The point is that no mention starts earlier after it:
such a mention would have its own id and what follows the id before the start of the one that was
replaced (`prefix_of_starts_before`), so it was there before.
-/

namespace PlanGraph

/-! ## No mention starts earlier -/

/-- A word that does not hold the character which ends another word of the text is no longer than
that word. -/
theorem prefix_of_append_eq_append_cons {α : Type} {stop : α} {word rest front back : List α}
    (free : stop ∉ word) (same : word ++ rest = front ++ stop :: back) : word <+: front := by
  induction word generalizing front with
  | nil => exact List.nil_prefix
  | cons c word ih =>
      rw [List.mem_cons, not_or] at free
      cases front with
      | nil =>
          rw [List.nil_append, List.cons_append, List.cons.injEq] at same
          exact absurd same.1.symm free.1
      | cons c' front =>
          rw [List.cons_append, List.cons_append, List.cons.injEq] at same
          rw [same.1]
          exact (List.prefix_cons_inj c').mpr (ih free.2 same.2)

/-- A mention whose text goes on with the start of another one has its id, and what follows the id,
before that start. -/
theorem prefix_of_starts_before {mention : Mention} {front back : List Char}
    (free : ',' ∉ mention.id) (filled : front ≠ [])
    (same : mention.text = front ++ (mentionOpening ++ back)) :
    mentionOpening ++ (mention.id ++ mentionMiddle) <+: front := by
  -- the character that every mention starts with stands nowhere else in its fixed parts
  obtain ⟨tail, opens, alone⟩ : ∃ tail, mentionOpening = '@' :: tail ∧ '@' ∉ tail :=
    ⟨_, rfl, by decide⟩
  -- the comma in the opening is not followed by what follows an id
  obtain ⟨kind, comma, unnamed⟩ : ∃ kind, mentionOpening = kind ++ ',' :: "id=".toList ∧
      ',' ∉ kind := ⟨"@\x7btype=agent".toList, rfl, by decide⟩
  obtain ⟨first, front, rfl⟩ := List.exists_cons_of_ne_nil filled
  have text : mention.text = mentionOpening ++
      (mention.id ++ ',' :: ("name=".toList ++ (mention.label ++ [closingBrace]))) := by
    simp [Mention.text, mentionMiddle]
  rw [text] at same
  obtain ⟨more, rfl⟩ : tail <+: front := by
    rw [opens, List.cons_append, List.cons_append, List.cons.injEq] at same
    exact prefix_of_append_eq_append_cons alone same.2
  have start : first :: (tail ++ more) = mentionOpening ++ more := by
    rw [opens, List.cons_append, List.cons_append, List.cons.injEq] at same
    rw [opens, same.1, List.cons_append]
  rw [start] at same ⊢
  rw [List.append_assoc, List.append_cancel_left_eq] at same
  refine (List.prefix_append_right_inj mentionOpening).mpr ?_
  by_cases named : ',' ∈ more
  · obtain ⟨id, later, rfl, free'⟩ := List.eq_append_cons_of_mem named
    rw [List.append_assoc, List.cons_append] at same
    obtain ⟨rfl, rest⟩ := eq_of_append_cons free free' same
    rw [opens, List.cons_append] at rest
    have middle : "name=".toList <+: later :=
      prefix_of_append_eq_append_cons (by decide) rest
    exact (List.prefix_append_right_inj mention.id).mpr ((List.prefix_cons_inj ',').mpr middle)
  · rw [comma, List.append_assoc, List.cons_append, ← List.append_assoc more] at same
    have free' : ',' ∉ more ++ kind := by simp [named, unnamed]
    obtain ⟨-, rest⟩ := eq_of_append_cons free free' same
    have heads := congrArg List.head? rest
    simp at heads

/-! ## Tables that resolve everything at once -/

/-- What an id stands for in the table may be the id of a mention, and stands for nothing itself. -/
structure FinalSymbols (symbols : List (String × String)) : Prop where
  /-- No id stands for the empty text. -/
  ne_empty : ∀ {id value : String}, symbols.lookup id = some value → value ≠ ""
  /-- An id stands for a text without commas and closing braces. -/
  chars : ∀ {id value : String}, symbols.lookup id = some value →
    ∀ c ∈ value.toList, c ≠ ',' ∧ c ≠ closingBrace
  /-- What an id stands for is not in the table. -/
  missing : ∀ {id value : String}, symbols.lookup id = some value → symbols.lookup value = none

section final

variable {symbols : List (String × String)} (final : FinalSymbols symbols)

include final

/-- With its id replaced, a chunk reads as the mention farthest to the left as before. -/
theorem FinalSymbols.readsFirst {chunk before : List Char} {mention : Mention} {value : String}
    (first : ReadsFirst chunk before mention)
    (found : symbols.lookup (String.ofList mention.id) = some value) :
    ReadsFirst (before ++ Mention.text ⟨value.toList, mention.label⟩) before
      ⟨value.toList, mention.label⟩ := by
  have named : value.toList ≠ [] := fun empty =>
    final.ne_empty found (String.toList_inj.mp empty)
  have free : ',' ∉ value.toList := fun listed => (final.chars found _ listed).1 rfl
  refine ⟨⟨named, free, rfl⟩, fun {other mention'} reads => ?_⟩
  by_contra earlier
  -- a mention that starts earlier would be read in the chunk as it was
  obtain ⟨front, rfl⟩ : other <+: before :=
    List.prefix_of_prefix_length_le ⟨_, reads.chunk_eq.symm⟩ ⟨_, rfl⟩ (by omega)
  have filled : front ≠ [] := by
    rintro rfl
    simp at earlier
  have goesOn : mention'.text = front ++ (mentionOpening ++
      (value.toList ++ mentionMiddle ++ mention.label ++ [closingBrace])) := by
    have same := reads.chunk_eq
    rw [List.append_assoc, List.append_cancel_left_eq] at same
    rw [← same]
    simp [Mention.text]
  obtain ⟨label, rfl⟩ := prefix_of_starts_before reads.no_comma filled goesOn
  have there : ReadsBehind chunk other ⟨mention'.id, label ++ mention.inside⟩ := by
    refine ⟨reads.id_ne_nil, reads.no_comma, ?_⟩
    rw [first.reads.chunk_eq, mention.text_eq_inside]
    simp [Mention.text]
  exact earlier (first.leftmost there)

/-- What a chunk was rewritten to is kept. -/
theorem FinalSymbols.rewrites_self {chunk out : List Char} (rewrites : Rewrites symbols chunk out) :
    Rewrites symbols out out := by
  cases rewrites with
  | unended ends => exact .unended ends
  | plain none => exact .plain none
  | unknown first missing => exact .unknown first missing
  | @known before mention value first found =>
      refine .unknown (final.readsFirst first found) ?_
      rw [String.ofList_toList]
      exact final.missing found

/-- A chunk with its closing brace is rewritten to a chunk with its closing brace. -/
theorem FinalSymbols.exists_inside {inside out : List Char} (bare : closingBrace ∉ inside)
    (rewrites : Rewrites symbols (inside ++ [closingBrace]) out) :
    ∃ inside', closingBrace ∉ inside' ∧ out = inside' ++ [closingBrace] := by
  cases rewrites with
  | unended ends => exact ⟨inside, bare, rfl⟩
  | plain none => exact ⟨inside, bare, rfl⟩
  | unknown first missing => exact ⟨inside, bare, rfl⟩
  | @known before mention value first found =>
      have same := first.reads.chunk_eq
      rw [mention.text_eq_inside, ← List.append_assoc, List.append_left_inj] at same
      subst same
      simp only [Mention.inside, List.mem_append, not_or] at bare
      have id : closingBrace ∉ value.toList := fun listed => (final.chars found _ listed).2 rfl
      refine ⟨before ++ Mention.inside ⟨value.toList, mention.label⟩, ?_, ?_⟩
      · exact List.not_mem_append bare.1 (Mention.not_mem_inside id bare.2.2.2.2)
      · rw [Mention.text_eq_inside, List.append_assoc]

/-- A text that was resolved is resolved. -/
theorem FinalSymbols.resolveText_resolveText (text : List Char) :
    resolveText symbols (resolveText symbols text) = resolveText symbols text := by
  induction text using chunk_induction with
  | last text bare => rw [resolveText_of_no_brace bare, resolveText_of_no_brace bare]
  | cut inside rest bare ih =>
      have rewrites := rewrites_resolveText symbols bare
      obtain ⟨inside', bare', out⟩ := final.exists_inside bare rewrites
      have again := final.rewrites_self rewrites
      rw [out] at again
      have kept : resolveText symbols (inside' ++ [closingBrace]) = inside' ++ [closingBrace] :=
        Rewrites.unique (rewrites_resolveText symbols bare') again
      rw [resolveText_append_brace_of_bare bare, out, List.append_assoc, List.singleton_append,
        resolveText_append_brace_of_bare bare', kept, ih, List.append_assoc, List.singleton_append]

end final

/-! ## Tables that compiling makes -/

/-- The ids of the supply may stand in the ids of mentions. -/
def Supply.Plain (supply : Supply) : Prop :=
  ∀ number, ∀ c ∈ (supply.name number).toList, c ≠ ',' ∧ c ≠ closingBrace

/-- Hexadecimal digits may stand in the ids of mentions. -/
theorem Text.plain_hexDigit : ∀ value < 16,
    Text.hexDigit value ≠ ',' ∧ Text.hexDigit value ≠ closingBrace := by decide

theorem Supply.plain_countingFrom (start : Nat) : (countingFrom start).Plain := by
  intro number c listed
  have digits : ∀ width value, ∀ c ∈ Text.hexDigits width value, c ≠ ',' ∧ c ≠ closingBrace := by
    intro width
    induction width with
    | zero => simp [Text.hexDigits]
    | succ width ih =>
        intro value
        rw [Text.hexDigits, List.forall_mem_append, List.forall_mem_singleton]
        exact ⟨ih _, Text.plain_hexDigit _ (Nat.mod_lt _ (by decide))⟩
  rw [countingFrom, String.toList_ofList] at listed
  exact digits _ _ c listed

namespace Compilation

/-- What a task id stands for is one of the entity ids that were drawn. -/
theorem mem_entityIds_of_lookup {outlines : List Outline} {supply : Supply} {id value : String}
    (found : (assigned outlines supply).1.symbols.lookup id = some value) :
    ∃ number, value = entityName (supply.name number) ∧
      value ∈ (assigned outlines supply).1.entityIds := by
  rw [lookup_symbols, Option.map_eq_some_iff] at found
  obtain ⟨place, first, rfl⟩ := found
  obtain ⟨inside, -⟩ := List.findIdx?_eq_some_iff_getElem.mp first
  rw [length_taskIds] at inside
  refine ⟨(identified outlines supply).2.drawn + place, ?_, ?_⟩
  · rw [Supply.upcoming, identified, Outline.supply_identifyAll]
    rfl
  · rw [entityIds_assigned]
    exact List.mem_map_of_mem (List.mem_range.mpr inside)

/-- **Resolving twice is resolving once**, for a table in which no value is empty, holds a comma or
a closing brace, or is in the table as an id. Of this kind is the table of a compiled plan, with ids
that may stand in mentions, unless a task has one of the entity ids as its own id. -/
theorem resolveMentions_resolveMentions :
    (∀ symbols, FinalSymbols symbols → ∀ prompt,
      resolveMentions (resolveMentions prompt symbols) symbols = resolveMentions prompt symbols) ∧
    ∀ (outlines : List Outline) (supply : Supply), supply.Plain →
      (∀ id ∈ taskIds outlines supply, id ∉ (assigned outlines supply).1.entityIds) →
        FinalSymbols (assigned outlines supply).1.symbols := by
  refine ⟨fun symbols final prompt => ?_, fun outlines supply plain apart => ?_⟩
  · rw [resolveMentions_eq (resolveMentions prompt symbols), resolveMentions_eq prompt,
      String.toList_ofList, final.resolveText_resolveText]
  · refine ⟨fun found => ?_, fun found => ?_, fun {id value} found => ?_⟩
    · obtain ⟨number, rfl, -⟩ := mem_entityIds_of_lookup found
      exact entityName_ne_empty _
    · obtain ⟨number, rfl, -⟩ := mem_entityIds_of_lookup found
      rw [entityName, String.toList_append, List.forall_mem_append]
      exact ⟨by simp [closingBrace], plain number⟩
    · obtain ⟨-, -, drawn⟩ := mem_entityIds_of_lookup found
      rw [lookup_symbols, Option.map_eq_none_iff, List.findIdx?_eq_none_iff]
      intro other listed
      rw [beq_eq_false_iff_ne]
      rintro rfl
      exact apart _ listed drawn

/-- An opening that is no mention stands right before a mention, whose label holds another opening;
the entity of the mention is named once and for all. -/
theorem resolveMentions_resolveMentions_of_nested :
    let outlines : List Outline := [⟨"a", "", "", [], []⟩, ⟨"b", "", "", ["a"], []⟩]
    let symbols := (assigned outlines .counting).1.symbols
    let prompt :=
      "@\x7btype=agent,id=@\x7btype=agent,id=a,name=@\x7btype=agent,id=b,name=B\x7d"
    FinalSymbols symbols ∧ resolveMentions prompt symbols =
        "@\x7btype=agent,id=@\x7btype=agent,id=ar-00000000000000000000000000000001," ++
          "name=@\x7btype=agent,id=b,name=B\x7d" ∧
      resolveMentions (resolveMentions prompt symbols) symbols =
        resolveMentions prompt symbols := by
  intro outlines symbols prompt
  obtain ⟨twice, table⟩ := resolveMentions_resolveMentions
  have final : FinalSymbols symbols :=
    table outlines .counting (Supply.plain_countingFrom 0) (by decide +kernel)
  exact ⟨final, by decide +kernel, twice symbols final prompt⟩

end Compilation

end PlanGraph
