import Mathlib.Data.List.Forall2
import PlanGraph.Proofs.Compile.Grid

/-!
# Mentions name nodes

The query of a node is the prompt of its task, in which each mention of a task of the plan names the
entity of the first node of that task, before or after it, and everything else stays
(`Compilation.queries_of_compile`). What becomes of each piece of a prompt is said by a relation on
the finished nodes (`Resolves`), without reference to the table of symbols that prompts are resolved
from. That table is described by the nodes once and for all (`SymbolTable`,
`Compilation.Run.symbolTable`).
-/

namespace PlanGraph

/-! ## Symbols and nodes -/

/-- Each id in the table stands for the entity of the first node of its task, and all tasks are in
it. Nodes stand in the order of the ids of their tasks. -/
structure SymbolTable (ids : List String) (nodes : List Node) (symbols : List (String × String)) :
    Prop where
  /-- The id of a task stands for the entity of the first node with a task of that id. -/
  known : ∀ {id : String} {place : Nat}, FirstAt ids id place →
    ∃ node entityId, nodes[place]? = some node ∧ node.entityId = .ok (.str entityId) ∧
      symbols.lookup id = some entityId
  /-- No other id stands for anything. -/
  unknown : ∀ {id : String}, id ∉ ids → symbols.lookup id = none

/-- An id is first somewhere, or nowhere. -/
theorem firstAt_or_not_mem (ids : List String) (id : String) :
    (∃ place, FirstAt ids id place) ∨ id ∉ ids := by
  rcases found : ids.findIdx? (· == id) with _ | place
  · right
    intro listed
    have other := List.findIdx?_eq_none_iff.mp found id listed
    simp at other
  · exact .inl ⟨place, firstAt_iff.mpr found⟩

/-- What becomes of a piece of a prompt, when the ids of the tasks and their nodes are these. -/
inductive Resolves (ids : List String) (nodes : List Node) : Piece → List Char → Prop where
  /-- A character outside of mentions stays. -/
  | char (c : Char) : Resolves ids nodes (.char c) [c]
  /-- A mention of a task names the entity of the first node of that task, under its label. -/
  | task {mention : Mention} {place : Nat} {node : Node} {entityId : String}
      (first : FirstAt ids (String.ofList mention.id) place) (found : nodes[place]? = some node)
      (entity : node.entityId = .ok (.str entityId)) :
      Resolves ids nodes (.mention mention) (Mention.text ⟨entityId.toList, mention.label⟩)
  /-- A mention of anything else stays. -/
  | unknown {mention : Mention} (missing : String.ofList mention.id ∉ ids) :
      Resolves ids nodes (.mention mention) mention.text

/-- A piece that is resolved from the table becomes what the nodes say. -/
theorem SymbolTable.resolves {ids : List String} {nodes : List Node}
    {symbols : List (String × String)} (table : SymbolTable ids nodes symbols) (piece : Piece) :
    Resolves ids nodes piece (piece.resolve symbols).text := by
  cases piece with
  | char c => exact .char c
  | mention found =>
      rcases firstAt_or_not_mem ids (String.ofList found.id) with ⟨place, first⟩ | missing
      · obtain ⟨node, entityId, placed, entity, bound⟩ := table.known first
        have resolved : found.resolve symbols = ⟨entityId.toList, found.label⟩ := by
          rw [Mention.resolve, bound]
        rw [Piece.resolve, resolved]
        exact .task first placed entity
      · have same : found.resolve symbols = found := by rw [Mention.resolve, table.unknown missing]
        rw [Piece.resolve, same]
        exact .unknown missing

/-- A prompt that is resolved from the table is made of what becomes of its pieces. -/
theorem SymbolTable.exists_parts {ids : List String} {nodes : List Node}
    {symbols : List (String × String)} (table : SymbolTable ids nodes symbols) (prompt : String) :
    ∃ split parts, SplitsInto prompt.toList split ∧
      List.Forall₂ (Resolves ids nodes) split parts ∧
      (resolveMentions prompt symbols).toList = parts.flatten := by
  refine ⟨pieces prompt.toList,
    (pieces prompt.toList).map fun piece => (piece.resolve symbols).text,
    splitsInto_iff.mpr rfl, ?_, ?_⟩
  · rw [List.forall₂_map_right_iff, List.forall₂_same]
    exact fun piece _ => table.resolves piece
  · rw [toList_resolveMentions, List.flatMap_def, List.map_map]
    rfl

/-! ## Nodes of a run -/

/-- The query that the payload of a node carries. -/
def Node.query? (node : Node) : Option Json :=
  node.data.get? "metadata" >>= Json.get? "query"

namespace Compilation

namespace Run

variable {outlines : List Outline} {toolsets : ToolsetSource} {options : CompileOptions}
  {supply : Supply} (run : Run Grid.layout outlines toolsets options supply)

/-- The task with a number and the node with that number belong together. -/
theorem exists_placed {count : Nat} {entry : Outline × Nat}
    (h : (ordered (identified outlines supply).1)[count]? = some entry) :
    ∃ task, run.placed[count]? = some task ∧ task.entry = entry := by
  rw [← run.map_entry, List.getElem?_map, Option.map_eq_some_iff] at h
  exact h

/-- The symbols of a run name its nodes. -/
theorem symbolTable :
    SymbolTable (taskIds outlines supply) (run.placed.map PlacedTask.node) run.setting.symbols := by
  constructor
  · intro id place first
    have here := first.1
    rw [taskIds, orderedIds, List.getElem?_map, Option.map_eq_some_iff] at here
    obtain ⟨entry, listed, -⟩ := here
    obtain ⟨task, found, -⟩ := run.exists_placed listed
    obtain ⟨spot, -, made⟩ := run.settled found
    refine ⟨task.node, task.sketch.entityId, ?_, ?_, ?_⟩
    · rw [List.getElem?_map, found, Option.map_some]
    · rw [made]
      rfl
    · rw [(run.sketch_getElem? found).2]
      change (assigned outlines supply).1.symbols.lookup id = _
      rw [lookup_symbols, firstAt_iff.mp first, Option.map_some]
  · intro id missing
    change (assigned outlines supply).1.symbols.lookup id = none
    rw [lookup_symbols, Option.map_eq_none_iff, List.findIdx?_eq_none_iff]
    intro other listed
    rw [beq_eq_false_iff_ne]
    rintro rfl
    exact missing listed

end Run

/-! ## Queries -/

/-- **Mentions name nodes.** In the query of each node, every mention of a task of the plan names
the entity of the first node with a task of that id, wherever in the order it stands. Other
mentions, all labels and the text between mentions are those of the prompt. -/
theorem queries_of_compile {input : PlanInput} {toolsets : ToolsetSource}
    {options : CompileOptions} {supply rest : Supply} {canvas : Canvas}
    (h : (compile input toolsets options).Returns supply canvas rest) :
    let tasks := ordered (Outline.identifyAll input.outlines supply).1
    let ids := tasks.map fun task => task.1.id
    canvas.nodes.length = tasks.length ∧
    ∀ (index : Nat) (task : Outline × Nat) (node : Node),
      tasks[index]? = some task → canvas.nodes[index]? = some node →
      ∃ (query : String) (split : List Piece) (parts : List (List Char)),
        node.query? = some (.str query) ∧ SplitsInto task.1.prompt.toList split ∧
        List.Forall₂ (Resolves ids canvas.nodes) split parts ∧ query.toList = parts.flatten := by
  intro tasks ids
  rcases compile_returns_iff.mp h with ⟨idle, rfl, -⟩ | ⟨-, run, rfl, -⟩
  · have none : tasks = [] := by
      change ordered (Outline.identifyAll input.outlines supply).1 = []
      rw [idle]
      rfl
    rw [none]
    exact ⟨rfl, fun index task node listed => by cases listed⟩
  · refine ⟨?_, ?_⟩
    · change (run.placed.map PlacedTask.node).length =
        (ordered (identified input.outlines supply).1).length
      rw [← run.map_entry, List.length_map, List.length_map]
    · intro index entry node listed placed
      obtain ⟨task, found, rfl⟩ := run.exists_placed listed
      obtain ⟨spot, -, made⟩ := run.settled found
      have own : task.node = node := by
        change (run.placed.map PlacedTask.node)[index]? = some node at placed
        rw [List.getElem?_map, found] at placed
        exact Option.some.inj placed
      obtain ⟨split, parts, splits, resolved, query⟩ :=
        run.symbolTable.exists_parts task.sketch.outline.prompt
      refine ⟨resolveMentions task.sketch.outline.prompt run.setting.symbols, split, parts, ?_,
        splits, resolved, query⟩
      rw [← own, made]
      rfl

/-- Two tasks share an id, and the one that is listed last comes before the other in the order of
processing. A prompt that comes before both mentions their id, and an unknown one. -/
theorem queries_of_compile_of_shared :
    let input : PlanInput := .raw (.obj [("tasks", .arr [
      .obj [("id", .str "a"), ("dependentTasks", .arr [.str "b"])],
      .obj [("id", .str "b"),
        ("prompt", .str "@\x7btype=agent,id=a,name=A\x7d @\x7btype=agent,id=z,name=Z\x7d")],
      .obj [("id", .str "a")]])])
    ∃ canvas rest, (compile input (.parsed []) .standard).Returns Supply.counting canvas rest ∧
      ∃ node named entityId query, canvas.nodes[0]? = some node ∧ canvas.nodes[1]? = some named ∧
        named.entityId = .ok (.str entityId) ∧ node.query? = some (.str query) ∧
        query.toList =
          Mention.text ⟨entityId.toList, ['A']⟩ ++ ' ' :: Mention.text ⟨['z'], ['Z']⟩ := by
  intro input
  have readable : (ToolsetSource.parsed []).entries = .ok [] := rfl
  have bare : CompileOptions.standard.startNodes = .arr [] := rfl
  obtain ⟨canvas, rest, returned⟩ := exists_canvas readable bare input Supply.counting
  refine ⟨canvas, rest, returned, ?_⟩
  obtain ⟨count, queries⟩ := queries_of_compile returned
  have ids : (ordered (Outline.identifyAll input.outlines Supply.counting).1).map (·.1.id) =
      ["b", "a", "a"] := rfl
  have listed : (ordered (Outline.identifyAll input.outlines Supply.counting).1)[0]? =
      some (⟨"b", "", "@\x7btype=agent,id=a,name=A\x7d @\x7btype=agent,id=z,name=Z\x7d",
        [], []⟩, 1) := rfl
  have length : canvas.nodes.length = 3 := count
  obtain ⟨query, split, parts, carried, splits, resolved, joined⟩ :=
    queries 0 _ canvas.nodes[0] listed (List.getElem?_eq_getElem _)
  rw [ids] at resolved
  have first : readMention?
        "@\x7btype=agent,id=a,name=A\x7d @\x7btype=agent,id=z,name=Z\x7d".toList =
      some (⟨['a'], ['A']⟩, ' ' :: "@\x7btype=agent,id=z,name=Z\x7d".toList) := rfl
  have between : readMention? (' ' :: "@\x7btype=agent,id=z,name=Z\x7d".toList) = none := rfl
  have second : readMention? "@\x7btype=agent,id=z,name=Z\x7d".toList =
      some (⟨['z'], ['Z']⟩, []) := rfl
  have split_eq : split = [.mention ⟨['a'], ['A']⟩, .char ' ', .mention ⟨['z'], ['Z']⟩] := by
    rw [← splitsInto_iff.mp splits, pieces_of_readMention? first, pieces_of_none between,
      pieces_of_readMention? second, pieces]
  subst split_eq
  have place_a : ["b", "a", "a"].findIdx? (· == "a") = some 1 := rfl
  have place_z : ["b", "a", "a"].findIdx? (· == "z") = none := rfl
  rcases resolved with _ | ⟨known, _ | ⟨space, _ | ⟨unknown, _ | _⟩⟩⟩
  cases space
  cases known with
  | unknown missing => exact absurd (by decide) missing
  | @task _ place named entityId here found entity =>
      obtain rfl : place = 1 := Option.some.inj ((firstAt_iff.mp here).symm.trans place_a)
      cases unknown with
      | task here => cases (firstAt_iff.mp here).symm.trans place_z
      | unknown =>
          refine ⟨canvas.nodes[0], named, entityId, query, List.getElem?_eq_getElem _, found,
            entity, carried, ?_⟩
          rw [joined]
          simp

end Compilation

end PlanGraph
