import Mathlib.Data.List.Forall2
import PlanGraph.Proofs.Mention.Pieces

/-!
# Prompts chunk by chunk

A mention ends with the first closing brace behind its start, so none reaches from one chunk of a
prompt, cut behind each closing brace, into the next. This gives a second account of what resolving
does, which looks at one chunk at a time and needs no scan from left to right (`Rewrites`): a chunk
is rewritten where it reads as a mention farthest to the left, or it is kept.

* Scanning goes on behind a closing brace as if the text started there
  (`resolveText_append_brace`).
* What the scanner makes of a chunk is what the chunk is rewritten to (`rewrites_resolveText`), and
  a chunk is rewritten in one way only (`Rewrites.unique`).
* So a resolved prompt is the concatenation of its rewritten chunks
  (`resolveMentions_chunkwise`).
-/

namespace PlanGraph

/-! ## Chunks -/

/-- The text cut behind each closing brace. -/
def chunks : List Char → List (List Char)
  | [] => []
  | c :: rest =>
    if c = closingBrace then [c] :: chunks rest
    else
      match chunks rest with
      | [] => [[c]]
      | first :: more => (c :: first) :: more

theorem chunks_append_brace {inside : List Char} (bare : closingBrace ∉ inside)
    (rest : List Char) :
    chunks (inside ++ closingBrace :: rest) = (inside ++ [closingBrace]) :: chunks rest := by
  induction inside with
  | nil => simp [chunks]
  | cons c inside ih =>
      rw [List.mem_cons, not_or] at bare
      rw [List.cons_append, chunks, if_neg (Ne.symm bare.1), ih bare.2]
      rfl

theorem chunks_of_no_brace {text : List Char} (bare : closingBrace ∉ text) (filled : text ≠ []) :
    chunks text = [text] := by
  induction text with
  | nil => exact absurd rfl filled
  | cons c text ih =>
      rw [List.mem_cons, not_or] at bare
      rw [chunks, if_neg (Ne.symm bare.1)]
      cases text with
      | nil => rfl
      | cons next text => rw [ih bare.2 (List.cons_ne_nil next text)]

/-- The chunks of a text, and nothing between them: only the last one lacks its closing brace. -/
example : chunks "ab\x7d\x7dc".toList = ["ab\x7d".toList, "\x7d".toList, "c".toList] := by decide

/-- A text holds no closing brace, or it goes on behind the first one. -/
@[elab_as_elim]
theorem chunk_induction {motive : List Char → Prop}
    (last : ∀ text, closingBrace ∉ text → motive text)
    (cut : ∀ inside rest, closingBrace ∉ inside → motive rest →
      motive (inside ++ closingBrace :: rest)) (text : List Char) : motive text := by
  by_cases braced : closingBrace ∈ text
  · obtain ⟨inside, rest, same, bare⟩ := List.eq_append_cons_of_mem braced
    have shorter : rest.length < text.length := by
      simp only [same, List.length_append, List.length_cons]
      omega
    rw [same]
    exact cut inside rest bare (chunk_induction last cut rest)
  · exact last text braced
termination_by text.length

/-! ## The scanner at a closing brace -/

/-- Texts that go on behind the first place of one character are equal part by part. -/
theorem eq_of_append_cons {α : Type} [DecidableEq α] {stop : α} {first second rest rest' : List α}
    (free : stop ∉ first) (free' : stop ∉ second)
    (same : first ++ stop :: rest = second ++ stop :: rest') : first = second ∧ rest = rest' := by
  have until_stop {word more : List α} (free : stop ∉ word) :
      (word ++ stop :: more).takeWhile (· != stop) = word :=
    takeWhile_append_stop (fun c hc => by simpa using ne_of_mem_of_not_mem hc free) (by simp)
  have words : first = second := by rw [← until_stop free, same, until_stop free']
  rw [words, List.append_cancel_left_eq, List.cons.injEq] at same
  exact ⟨words, same.2⟩

namespace Mention

/-- The text of a mention before its closing brace. -/
def inside (mention : Mention) : List Char :=
  mentionOpening ++ (mention.id ++ (mentionMiddle ++ mention.label))

theorem text_eq_inside (mention : Mention) : mention.text = mention.inside ++ [closingBrace] := by
  simp [text, inside]

/-- No closing brace stands inside a mention whose id and label hold none. -/
theorem not_mem_inside {mention : Mention} (id : closingBrace ∉ mention.id)
    (label : closingBrace ∉ mention.label) : closingBrace ∉ mention.inside := by
  have opening : closingBrace ∉ mentionOpening := by decide
  have middle : closingBrace ∉ mentionMiddle := by decide
  simp [inside, opening, middle, id, label]

theorem WellFormed.not_mem_inside {mention : Mention} (formed : mention.WellFormed) :
    closingBrace ∉ mention.inside :=
  Mention.not_mem_inside (fun listed => (formed.id_chars _ listed).2 rfl)
    fun listed => formed.label_chars _ listed rfl

end Mention

section scanner

variable {inside : List Char} (bare : closingBrace ∉ inside)

include bare

/-- A mention that starts before the first closing brace ends with it, whatever follows. -/
theorem readMention?_append_brace {rest after : List Char} {mention : Mention} :
    readMention? (inside ++ closingBrace :: rest) = some (mention, after) ↔
      mention.WellFormed ∧ mention.inside = inside ∧ after = rest := by
  rw [readMention?_eq_some_iff, and_congr_right_iff]
  intro formed
  rw [mention.text_eq_inside, List.append_assoc, List.singleton_append]
  constructor
  · intro same
    obtain ⟨rfl, rfl⟩ := eq_of_append_cons bare formed.not_mem_inside same
    exact ⟨rfl, rfl⟩
  · rintro ⟨rfl, rfl⟩
    rfl

/-- Whether a mention starts before the first closing brace does not hang on what follows it. -/
theorem readMention?_append_brace_eq_none_iff {rest : List Char} :
    readMention? (inside ++ closingBrace :: rest) = none ↔
      readMention? (inside ++ [closingBrace]) = none := by
  simp only [Option.eq_none_iff_forall_ne_some, Prod.forall, ne_eq,
    readMention?_append_brace bare]
  constructor
  · rintro outside mention _ ⟨formed, same, -⟩
    exact outside mention rest ⟨formed, same, rfl⟩
  · rintro outside mention _ ⟨formed, same, -⟩
    exact outside mention [] ⟨formed, same, rfl⟩

theorem resolveText_append_brace_of_bare (symbols : List (String × String)) (rest : List Char) :
    resolveText symbols (inside ++ closingBrace :: rest) =
      resolveText symbols (inside ++ [closingBrace]) ++ resolveText symbols rest := by
  simp only [resolveText_eq]
  rw [← List.flatMap_append, ← List.map_append]
  congr 2
  induction inside with
  | nil =>
      have none (more : List Char) : readMention? (closingBrace :: more) = none := rfl
      rw [List.nil_append, List.nil_append, pieces_of_none (none rest), pieces_of_none (none [])]
      simp [pieces]
  | cons c inside ih =>
      rcases found : readMention? (c :: inside ++ [closingBrace]) with _ | ⟨mention, after⟩
      · have later : readMention? (c :: inside ++ closingBrace :: rest) = none :=
          (readMention?_append_brace_eq_none_iff bare).mpr found
        rw [List.cons_append] at later found ⊢
        rw [List.cons_append, pieces_of_none later, pieces_of_none found,
          ih (fun listed => bare (List.mem_cons_of_mem _ listed)), List.cons_append]
      · obtain ⟨formed, same, rfl⟩ := (readMention?_append_brace bare).mp found
        have later : readMention? (c :: inside ++ closingBrace :: rest) = some (mention, rest) :=
          (readMention?_append_brace bare).mpr ⟨formed, same, rfl⟩
        rw [pieces_of_readMention? found, pieces_of_readMention? later]
        simp [pieces]

/-- A text without a closing brace holds no mention. -/
theorem resolveText_of_no_brace (symbols : List (String × String)) :
    resolveText symbols inside = inside := by
  fun_induction resolveText symbols inside with
  | case1 => rfl
  | case2 c rest mention after found ih =>
      obtain ⟨-, same⟩ := readMention?_eq_some_iff.mp found
      rw [same, mention.text_eq_inside] at bare
      simp at bare
  | case3 c rest found ih => rw [ih fun listed => bare (List.mem_cons_of_mem _ listed)]

end scanner

/-- **The scanner goes on behind a closing brace as if the text started there.** -/
theorem resolveText_append_brace (symbols : List (String × String)) (front back : List Char) :
    resolveText symbols (front ++ closingBrace :: back) =
      resolveText symbols (front ++ [closingBrace]) ++ resolveText symbols back := by
  induction front using chunk_induction with
  | last text bare => exact resolveText_append_brace_of_bare bare symbols back
  | cut inside rest bare ih =>
      have later (more : List Char) : inside ++ closingBrace :: rest ++ more =
          inside ++ closingBrace :: (rest ++ more) := by simp
      rw [later, later, resolveText_append_brace_of_bare bare, ih,
        resolveText_append_brace_of_bare bare symbols (rest ++ [closingBrace]),
        List.append_assoc]

/-! ## Rewriting a chunk -/

/-- A chunk reads as a mention behind some of its text: there is an id, and it holds no comma. -/
structure ReadsBehind (chunk before : List Char) (mention : Mention) : Prop where
  /-- There is an id. -/
  id_ne_nil : mention.id ≠ []
  /-- The id ends before the first comma. -/
  no_comma : ',' ∉ mention.id
  /-- The mention is the rest of the chunk. -/
  chunk_eq : chunk = before ++ mention.text

/-- A chunk reads as a mention behind some of its text, and nowhere farther to the left. -/
structure ReadsFirst (chunk before : List Char) (mention : Mention) : Prop where
  /-- The chunk reads as the mention there. -/
  reads : ReadsBehind chunk before mention
  /-- A mention that it reads as behind another text does not start earlier. -/
  leftmost : ∀ {other : List Char} {mention' : Mention}, ReadsBehind chunk other mention' →
    before.length ≤ other.length

/-- What a chunk is rewritten to. -/
inductive Rewrites (symbols : List (String × String)) : List Char → List Char → Prop where
  /-- A chunk that does not end with a closing brace is kept. -/
  | unended {chunk : List Char} (ends : chunk.getLast? ≠ some closingBrace) :
      Rewrites symbols chunk chunk
  /-- A chunk that reads as a mention nowhere is kept. -/
  | plain {chunk : List Char} (none : ∀ before mention, ¬ ReadsBehind chunk before mention) :
      Rewrites symbols chunk chunk
  /-- A chunk that reads as a mention of an unknown id is kept. -/
  | unknown {chunk before : List Char} {mention : Mention}
      (first : ReadsFirst chunk before mention)
      (missing : symbols.lookup (String.ofList mention.id) = none) : Rewrites symbols chunk chunk
  /-- Where a chunk reads as a mention of a known id, the id is replaced. -/
  | known {chunk before : List Char} {mention : Mention} {entityId : String}
      (first : ReadsFirst chunk before mention)
      (found : symbols.lookup (String.ofList mention.id) = some entityId) :
      Rewrites symbols chunk (before ++ Mention.text ⟨entityId.toList, mention.label⟩)

/-- A mention ends with a closing brace, so no other chunk reads as one. -/
theorem ReadsBehind.getLast?_eq {chunk before : List Char} {mention : Mention}
    (reads : ReadsBehind chunk before mention) : chunk.getLast? = some closingBrace := by
  rw [reads.chunk_eq, mention.text_eq_inside, ← List.append_assoc, List.getLast?_concat]

/-- Mentions with one text, whose ids end before their first commas, are equal. -/
theorem Mention.eq_of_text_eq {mention other : Mention} (free : ',' ∉ mention.id)
    (free' : ',' ∉ other.id) (same : mention.text = other.text) : mention = other := by
  have opened (found : Mention) : found.text = mentionOpening ++
      (found.id ++ ',' :: ("name=".toList ++ (found.label ++ [closingBrace]))) := by
    simp [text, mentionMiddle]
  rw [opened, opened, List.append_cancel_left_eq] at same
  obtain ⟨ids, rest⟩ := eq_of_append_cons free free' same
  rw [List.append_cancel_left_eq, List.append_left_inj] at rest
  cases mention
  cases other
  cases ids
  cases rest
  rfl

/-- A chunk reads as one mention farthest to the left. -/
theorem ReadsFirst.unique {chunk before before' : List Char} {mention mention' : Mention}
    (first : ReadsFirst chunk before mention) (first' : ReadsFirst chunk before' mention') :
    before = before' ∧ mention = mention' := by
  have lengths : before.length = before'.length :=
    Nat.le_antisymm (first.leftmost first'.reads) (first'.leftmost first.reads)
  have same := first.reads.chunk_eq.symm.trans first'.reads.chunk_eq
  obtain ⟨befores, texts⟩ := List.append_inj same lengths
  exact ⟨befores, Mention.eq_of_text_eq first.reads.no_comma first'.reads.no_comma texts⟩

/-- A chunk is rewritten in one way only. -/
theorem Rewrites.unique {symbols : List (String × String)} :
    Relator.RightUnique (Rewrites symbols) := by
  intro chunk out out' rewrites rewrites'
  cases rewrites with
  | unended ends =>
      cases rewrites' with
      | known first => exact absurd first.reads.getLast?_eq ends
      | _ => rfl
  | plain none =>
      cases rewrites' with
      | known first => exact absurd first.reads (none _ _)
      | _ => rfl
  | unknown first missing =>
      cases rewrites' with
      | known first' found =>
          obtain ⟨-, rfl⟩ := first.unique first'
          rw [missing] at found
          cases found
      | _ => rfl
  | known first found =>
      cases rewrites' with
      | unended ends => exact absurd first.reads.getLast?_eq ends
      | plain none => exact absurd first.reads (none _ _)
      | unknown first' missing =>
          obtain ⟨-, rfl⟩ := first.unique first'
          rw [missing] at found
          cases found
      | known first' found' =>
          obtain ⟨rfl, rfl⟩ := first.unique first'
          rw [found, Option.some.injEq] at found'
          rw [found']

/-! ## What the scanner makes of a chunk -/

/-- At its start, a chunk reads as the mention that the scanner finds there. -/
theorem readsBehind_nil_iff {inside : List Char} (bare : closingBrace ∉ inside)
    {mention : Mention} :
    ReadsBehind (inside ++ [closingBrace]) [] mention ↔
      readMention? (inside ++ [closingBrace]) = some (mention, []) := by
  rw [readMention?_append_brace bare]
  constructor
  · rintro ⟨named, free, same⟩
    rw [List.nil_append, mention.text_eq_inside, List.append_left_inj] at same
    subst same
    simp only [Mention.inside, List.mem_append, not_or] at bare
    refine ⟨⟨named, fun c listed => ⟨?_, ?_⟩, fun c listed => ?_⟩, rfl, rfl⟩
    · exact ne_of_mem_of_not_mem listed free
    · exact ne_of_mem_of_not_mem listed bare.2.1
    · exact ne_of_mem_of_not_mem listed bare.2.2.2
  · rintro ⟨formed, rfl, -⟩
    exact ⟨formed.id_ne_nil, fun listed => (formed.id_chars _ listed).1 rfl,
      mention.text_eq_inside.symm⟩

/-- A character at which a chunk does not read as a mention is kept before what is rewritten. -/
theorem Rewrites.cons {symbols : List (String × String)} {c : Char} {chunk out : List Char}
    (none : ∀ mention, ¬ ReadsBehind (c :: chunk) [] mention)
    (rewrites : Rewrites symbols chunk out) :
    Rewrites symbols (c :: chunk) (c :: out) := by
  have behind {before : List Char} {mention : Mention}
      (reads : ReadsBehind (c :: chunk) before mention) :
      ∃ tail, before = c :: tail ∧ ReadsBehind chunk tail mention := by
    cases before with
    | nil => exact absurd reads (none mention)
    | cons first tail =>
        obtain ⟨named, free, same⟩ := reads
        rw [List.cons_append, List.cons.injEq] at same
        obtain ⟨rfl, same⟩ := same
        exact ⟨tail, rfl, named, free, same⟩
  have later {before : List Char} {mention : Mention} (first : ReadsFirst chunk before mention) :
      ReadsFirst (c :: chunk) (c :: before) mention := by
    obtain ⟨⟨named, free, same⟩, leftmost⟩ := first
    refine ⟨⟨named, free, congrArg (c :: ·) same⟩, fun reads => ?_⟩
    obtain ⟨tail, rfl, inTail⟩ := behind reads
    exact Nat.succ_le_succ (leftmost inTail)
  cases rewrites with
  | unended ends =>
      refine .plain fun before mention reads => ?_
      obtain ⟨tail, -, reads⟩ := behind reads
      exact ends reads.getLast?_eq
  | plain none =>
      refine .plain fun before mention reads => ?_
      obtain ⟨tail, -, reads⟩ := behind reads
      exact none tail mention reads
  | unknown first missing => exact .unknown (later first) missing
  | known first found => exact .known (later first) found

/-- The scanner rewrites a chunk. -/
theorem rewrites_resolveText (symbols : List (String × String)) {inside : List Char}
    (bare : closingBrace ∉ inside) :
    Rewrites symbols (inside ++ [closingBrace])
      (resolveText symbols (inside ++ [closingBrace])) := by
  induction inside with
  | nil =>
      have alone : resolveText symbols [closingBrace] = [closingBrace] := by
        rw [resolveText_eq, pieces_of_none rfl, pieces]
        rfl
      rw [List.nil_append, alone]
      refine .plain fun before mention reads => ?_
      have lengths := congrArg List.length reads.chunk_eq
      have opening : mentionOpening.length = 16 := rfl
      simp only [Mention.text, List.length_append, opening, List.length_singleton] at lengths
      omega
  | cons c inside ih =>
      rcases found : readMention? (c :: inside ++ [closingBrace]) with _ | ⟨mention, after⟩
      · have kept : resolveText symbols (c :: inside ++ [closingBrace]) =
            c :: resolveText symbols (inside ++ [closingBrace]) := by
          rw [List.cons_append] at found ⊢
          simp only [resolveText_eq]
          rw [pieces_of_none found]
          rfl
        have later := ih fun listed => bare (List.mem_cons_of_mem _ listed)
        rw [kept]
        refine later.cons fun mention reads => ?_
        have read := (readsBehind_nil_iff bare).mp reads
        rw [found] at read
        cases read
      · obtain ⟨-, -, rfl⟩ := (readMention?_append_brace bare).mp found
        have first : ReadsFirst (c :: inside ++ [closingBrace]) [] mention :=
          ⟨(readsBehind_nil_iff bare).mpr found, fun _ => Nat.zero_le _⟩
        have resolved : resolveText symbols (c :: inside ++ [closingBrace]) =
            (mention.resolve symbols).text := by
          rw [resolveText_eq, pieces_of_readMention? found, pieces]
          simp [Piece.resolve, Piece.text]
        rw [resolved]
        rcases entry : symbols.lookup (String.ofList mention.id) with _ | entityId
        · rw [Mention.resolve, entry]
          have same : mention.text = c :: inside ++ [closingBrace] := first.reads.chunk_eq.symm
          rw [same]
          exact .unknown first entry
        · rw [Mention.resolve, entry]
          exact .known first entry

/-- A text is resolved by rewriting its chunks. -/
theorem exists_rewrites (symbols : List (String × String)) (text : List Char) :
    ∃ parts, List.Forall₂ (Rewrites symbols) (chunks text) parts ∧
      parts.flatten = resolveText symbols text := by
  induction text using chunk_induction with
  | last text bare =>
      rw [resolveText_of_no_brace bare]
      by_cases filled : text = []
      · subst filled
        exact ⟨[], .nil, rfl⟩
      · refine ⟨[text], ?_, List.flatten_singleton⟩
        rw [chunks_of_no_brace bare filled]
        refine .cons (.unended fun ends => bare ?_) .nil
        exact List.mem_of_getLast? ends
  | cut inside rest bare ih =>
      obtain ⟨parts, rewritten, joined⟩ := ih
      refine ⟨resolveText symbols (inside ++ [closingBrace]) :: parts, ?_, ?_⟩
      · rw [chunks_append_brace bare]
        exact .cons (rewrites_resolveText symbols bare) rewritten
      · rw [List.flatten_cons, joined, resolveText_append_brace_of_bare bare symbols rest]

/-! ## Prompts -/

/-- A prompt is resolved as the text that it is, also where nothing in it may be a mention. -/
theorem resolveMentions_eq (prompt : String) (symbols : List (String × String)) :
    resolveMentions prompt symbols = String.ofList (resolveText symbols prompt.toList) := by
  rw [← String.toList_inj, toList_resolveMentions, String.toList_ofList, resolveText_eq]

/-- A text that does not hold the two characters is seen to hold no start of a mention. -/
theorem mayMention_eq_true_iff {text : List Char} :
    mayMention text = true ↔ "@\x7b".toList <:+: text := by
  induction text with
  | nil => simp [mayMention]
  | cons c rest ih =>
      rw [mayMention, Bool.or_eq_true, ih, List.isPrefixOf_iff_prefix, List.infix_cons_iff]

/-- **A prompt is resolved chunk by chunk.** The resolved prompt is the concatenation of what the
chunks of the prompt are rewritten to. So the text behind a closing brace is resolved by itself, and
to leave a prompt alone that holds no `@` before an opening brace is what scanning it does. -/
theorem resolveMentions_chunkwise (prompt : String) (symbols : List (String × String)) :
    (∀ out, (resolveMentions prompt symbols).toList = out ↔
      ∃ parts, List.Forall₂ (Rewrites symbols) (chunks prompt.toList) parts ∧
        parts.flatten = out) ∧
      (∀ front back : String, resolveMentions (front ++ "\x7d" ++ back) symbols =
        resolveMentions (front ++ "\x7d") symbols ++ resolveMentions back symbols) ∧
      resolveMentions prompt symbols = String.ofList (resolveText symbols prompt.toList) ∧
      ("@\x7b".toList <:+: prompt.toList ∨
        (resolveMentions prompt symbols = prompt ∧
          resolveText symbols prompt.toList = prompt.toList)) := by
  refine ⟨fun out => ?_, fun front back => ?_, resolveMentions_eq prompt symbols, ?_⟩
  · obtain ⟨parts, rewritten, joined⟩ := exists_rewrites symbols prompt.toList
    rw [resolveMentions_eq, String.toList_ofList, ← joined]
    constructor
    · rintro rfl
      exact ⟨parts, rewritten, rfl⟩
    · rintro ⟨parts', rewritten', rfl⟩
      rw [List.right_unique_forall₂' Rewrites.unique rewritten rewritten']
  · have brace : "\x7d".toList = [closingBrace] := rfl
    simp only [resolveMentions_eq, String.toList_append, brace, List.append_assoc,
      List.singleton_append]
    rw [resolveText_append_brace, String.ofList_append]
  · rw [← mayMention_eq_true_iff]
    rcases holds : mayMention prompt.toList with _ | _
    · right
      refine ⟨?_, resolveText_of_not_mayMention symbols holds⟩
      rw [resolveMentions, holds]
      rfl
    · exact .inl rfl

end PlanGraph
