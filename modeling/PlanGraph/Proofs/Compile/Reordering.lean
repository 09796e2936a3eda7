import PlanGraph.Proofs.Compile.Queries
import PlanGraph.Proofs.Compile.Template

/-!
# Reordering tasks

The order in which tasks are written does not change the graph, provided that every task has an id
of its own (`Compilation.graph_of_reordered`). Everything moves with the order: which task is
processed when, which ids are drawn for it, where its node and its edges stand. So a canvas is told
by the ids of the tasks (`Canvas.Shows`): a task has its node (`Run.nodeOf`), an edge is a pair of
tasks, and a mention in a query names the node of a task or of none.

* What one run makes of its tasks, told in this way, does not depend on places
  (`Compilation.exists_shows`): the pairs of tasks that are joined are those of which one depends on
  the other (`namedJoins`), and symbols are read off the nodes (`SymbolsOf`).
* Two runs of the same tasks are then compared task by task.
-/

namespace PlanGraph

/-! ## The same tasks in another order -/

/-- Two plans list the same tasks, each in an order of its own; what else they hold may differ. -/
inductive PlanInput.Reorders : PlanInput → PlanInput → Prop
  | parsed {plan plan' : Plan} (tasks : plan'.tasks.Perm plan.tasks) :
      Reorders (.parsed plan) (.parsed plan')
  | raw {value value' : Json} (tasks : (value'.itemsOf "tasks").Perm (value.itemsOf "tasks")) :
      Reorders (.raw value) (.raw value')

/-- Plans with the same tasks have the same outlines. -/
theorem PlanInput.Reorders.outlines {input input' : PlanInput} (h : input.Reorders input') :
    input'.outlines.Perm input.outlines := by
  cases h with
  | parsed tasks => exact tasks.map _
  | raw tasks => exact tasks.map _

/-! ## Canvases told by tasks -/

/-- A member of what is executed when the node runs. -/
def Node.metadata? (node : Node) (name : String) : Option Json :=
  node.data.get? "metadata" >>= Json.get? name

/-- A node that is made from no task. -/
def Node.blank : Node := ⟨.null, .null, .null, none, false⟩

/-- A canvas shows some tasks: each task has its own node, with the title, the toolsets and the
model it asks for, and the edges are the given pairs of tasks. -/
structure Canvas.Shows (canvas : Canvas) (tasks : List Outline) (toolsets : ToolsetSource)
    (model : Json) (nodeOf : String → Node) (joins : List (String × String)) : Prop where
  /-- The nodes are those of the tasks, in the order of processing. -/
  nodes : canvas.nodes = (Compilation.ordered tasks).map fun task => nodeOf task.1.id
  /-- No two tasks share a node. -/
  distinct : (canvas.nodes.map Node.id).Nodup
  /-- Each node has the title of its task. -/
  title : ∀ task ∈ tasks, (nodeOf task.id).data.get? "title" = some (.str task.title)
  /-- Each node has the toolsets that its task names. -/
  toolsets : ∀ task ∈ tasks, ∃ entries, toolsets.entries = .ok entries ∧
    (nodeOf task.id).metadata? "selectedToolsets" =
      some (.arr (Toolset.select entries task.toolsets))
  /-- Each node has the model. -/
  model : ∀ task ∈ tasks, (nodeOf task.id).metadata? "modelInfo" = some model
  /-- The edges join the nodes of tasks. -/
  edges : canvas.edges.map Edge.link =
    joins.map fun join => ⟨(nodeOf join.1).id, (nodeOf join.2).id⟩
  /-- What is joined are tasks. -/
  ends : ∀ join ∈ joins, join.1 ∈ tasks.map Outline.id ∧ join.2 ∈ tasks.map Outline.id

/-- What becomes of a piece of a prompt on two canvases on which tasks with these ids have these
nodes. -/
inductive ResolvesAlike (ids : List String) (nodeOf nodeOf' : String → Node) :
    Piece → List Char → List Char → Prop where
  /-- A character outside of mentions stays on both. -/
  | char (c : Char) : ResolvesAlike ids nodeOf nodeOf' (.char c) [c] [c]
  /-- A mention of a task names the entity of the node of that task on both, under its label. -/
  | task {mention : Mention} {entityId entityId' : String}
      (listed : String.ofList mention.id ∈ ids)
      (entity : (nodeOf (String.ofList mention.id)).entityId = .ok (.str entityId))
      (entity' : (nodeOf' (String.ofList mention.id)).entityId = .ok (.str entityId')) :
      ResolvesAlike ids nodeOf nodeOf' (.mention mention)
        (Mention.text ⟨entityId.toList, mention.label⟩)
        (Mention.text ⟨entityId'.toList, mention.label⟩)
  /-- A mention of anything else stays on both. -/
  | unknown {mention : Mention} (missing : String.ofList mention.id ∉ ids) :
      ResolvesAlike ids nodeOf nodeOf' (.mention mention) mention.text mention.text

/-- The symbols from which prompts are resolved stand for the entities of the nodes. -/
structure SymbolsOf (ids : List String) (nodeOf : String → Node)
    (symbols : List (String × String)) : Prop where
  /-- The id of a task stands for the entity of its node. -/
  known : ∀ id ∈ ids, ∃ entityId, (nodeOf id).entityId = .ok (.str entityId) ∧
    symbols.lookup id = some entityId
  /-- No other id stands for anything. -/
  unknown : ∀ id, id ∉ ids → symbols.lookup id = none

namespace SymbolsOf

variable {ids : List String} {nodeOf nodeOf' : String → Node}
  {symbols symbols' : List (String × String)}

/-- A mention of a task names the entity of its node. -/
theorem resolve_of_mem (table : SymbolsOf ids nodeOf symbols) {mention : Mention}
    (listed : String.ofList mention.id ∈ ids) :
    ∃ entityId, (nodeOf (String.ofList mention.id)).entityId = .ok (.str entityId) ∧
      mention.resolve symbols = ⟨entityId.toList, mention.label⟩ := by
  obtain ⟨entityId, entity, bound⟩ := table.known _ listed
  refine ⟨entityId, entity, ?_⟩
  rw [Mention.resolve, bound]

/-- A mention of anything else stays. -/
theorem resolve_of_not_mem (table : SymbolsOf ids nodeOf symbols) {mention : Mention}
    (missing : String.ofList mention.id ∉ ids) : mention.resolve symbols = mention := by
  rw [Mention.resolve, table.unknown _ missing]

/-- From the symbols of two canvases, a piece of a prompt is resolved alike. -/
theorem resolvesAlike (table : SymbolsOf ids nodeOf symbols)
    (table' : SymbolsOf ids nodeOf' symbols') (piece : Piece) :
    ResolvesAlike ids nodeOf nodeOf' piece (piece.resolve symbols).text
      (piece.resolve symbols').text := by
  cases piece with
  | char c => exact .char c
  | mention found =>
      by_cases listed : String.ofList found.id ∈ ids
      · obtain ⟨entityId, entity, resolved⟩ := table.resolve_of_mem listed
        obtain ⟨entityId', entity', resolved'⟩ := table'.resolve_of_mem listed
        rw [Piece.resolve, Piece.resolve, resolved, resolved']
        exact .task listed entity entity'
      · have same : found.resolve symbols = found := table.resolve_of_not_mem listed
        have same' : found.resolve symbols' = found := table'.resolve_of_not_mem listed
        rw [Piece.resolve, Piece.resolve, same, same']
        exact .unknown listed

end SymbolsOf

/-- What becomes of the prompt of a task on two canvases: both queries are made of the same pieces,
each resolved alike. -/
def Outline.QueriedAlike (task : Outline) (ids : List String) (nodeOf nodeOf' : String → Node) :
    Prop :=
  ∃ (query query' : String) (split : List Piece) (parts : List (List Char × List Char)),
    (nodeOf task.id).query? = some (.str query) ∧ (nodeOf' task.id).query? = some (.str query') ∧
    SplitsInto task.prompt.toList split ∧
    List.Forall₂ (fun piece part => ResolvesAlike ids nodeOf nodeOf' piece part.1 part.2)
      split parts ∧
    query.toList = (parts.map Prod.fst).flatten ∧ query'.toList = (parts.map Prod.snd).flatten

/-- From the symbols of two canvases, a prompt is resolved alike. -/
theorem SymbolsOf.queriedAlike {ids : List String} {nodeOf nodeOf' : String → Node}
    {symbols symbols' : List (String × String)} (table : SymbolsOf ids nodeOf symbols)
    (table' : SymbolsOf ids nodeOf' symbols') {task : Outline}
    (query : (nodeOf task.id).query? = some (.str (resolveMentions task.prompt symbols)))
    (query' : (nodeOf' task.id).query? = some (.str (resolveMentions task.prompt symbols'))) :
    task.QueriedAlike ids nodeOf nodeOf' := by
  refine ⟨_, _, pieces task.prompt.toList, (pieces task.prompt.toList).map fun piece =>
    ((piece.resolve symbols).text, (piece.resolve symbols').text), query, query',
    splitsInto_iff.mpr rfl, ?_, ?_, ?_⟩
  · rw [List.forall₂_map_right_iff, List.forall₂_same]
    exact fun piece _ => table.resolvesAlike table' piece
  · rw [toList_resolveMentions, List.flatMap_def, List.map_map, List.map_map]
    rfl
  · rw [toList_resolveMentions, List.flatMap_def, List.map_map, List.map_map]
    rfl

namespace Compilation

/-! ## Tasks that are joined -/

/-- The dependencies of a task that are among some ids, as pairs of ids: the one that is depended
on, and that of the task. -/
def pairsInto (ids : List String) (task : Outline) : List (String × String) :=
  task.dependencies.filterMap fun dependency =>
    if dependency ∈ ids then some (dependency, task.id) else none

/-- The dependencies of a plan that name a task. -/
def namedPairs (outlines : List Outline) : List (String × String) :=
  outlines.flatMap (pairsInto (outlines.map Outline.id))

/-- The pairs that become edges. -/
def namedJoins (outlines : List Outline) : List (String × String) :=
  ((namedPairs outlines).filter fun join => decide (join.1 ≠ join.2)).eraseDups

theorem mem_namedPairs {outlines : List Outline} {join : String × String} :
    join ∈ namedPairs outlines ↔ join.1 ∈ outlines.map Outline.id ∧
      ∃ task ∈ outlines, task.id = join.2 ∧ join.1 ∈ task.dependencies := by
  obtain ⟨source, target⟩ := join
  simp only [namedPairs, pairsInto, List.mem_flatMap, List.mem_filterMap,
    Option.ite_none_right_eq_some, Option.some.injEq, Prod.mk.injEq]
  constructor
  · rintro ⟨task, htask, dependency, asked, known, rfl, rfl⟩
    exact ⟨known, task, htask, rfl, asked⟩
  · rintro ⟨known, task, htask, rfl, asked⟩
    exact ⟨task, htask, source, asked, known, rfl, rfl⟩

theorem mem_ids_of_mem_namedPairs {outlines : List Outline} {join : String × String}
    (h : join ∈ namedPairs outlines) :
    join.1 ∈ outlines.map Outline.id ∧ join.2 ∈ outlines.map Outline.id := by
  obtain ⟨known, task, htask, same, -⟩ := mem_namedPairs.mp h
  exact ⟨known, same ▸ List.mem_map_of_mem htask⟩

/-- Which tasks are joined does not depend on their order. -/
theorem namedJoins_perm {outlines outlines' : List Outline} (same : outlines'.Perm outlines) :
    (namedJoins outlines').Perm (namedJoins outlines) := by
  refine (List.perm_ext_iff_of_nodup (nodup_eraseDups _) (nodup_eraseDups _)).mpr ?_
  intro join
  have pairs : join ∈ namedPairs outlines' ↔ join ∈ namedPairs outlines := by
    rw [mem_namedPairs, mem_namedPairs, (same.map Outline.id).mem_iff]
    simp only [same.mem_iff]
  rw [List.mem_eraseDups, List.mem_eraseDups, List.mem_filter, List.mem_filter, pairs]

/-! ## Tasks in the order of processing -/

/-- What is made of items without their places can be made of the items. -/
theorem flatMap_zipIdx_fst {α β : Type} (f : α → List β) (items : List α) :
    (items.zipIdx.flatMap fun entry => f entry.1) = items.flatMap f := by
  have mapped : (items.zipIdx.map Prod.fst).flatMap f =
      items.zipIdx.flatMap fun entry => f entry.1 :=
    List.flatMap_map ..
  rw [← mapped, List.zipIdx_map_fst]

/-- A task of the plan has a place in it. -/
theorem exists_place_of_mem {outlines : List Outline} {outline : Outline} (h : outline ∈ outlines) :
    ∃ place, (outline, place) ∈ outlines.zipIdx := by
  obtain ⟨place, here⟩ := List.getElem?_of_mem h
  exact ⟨place, List.mem_zipIdx_iff_getElem?.mpr here⟩

/-- In the order of processing, the ids of tasks are those of the plan. -/
theorem orderedIds_perm (outlines : List Outline) :
    (orderedIds outlines).Perm (outlines.map Outline.id) := by
  have same : outlines.zipIdx.map (fun task => task.1.id) = outlines.map Outline.id := by
    rw [← Function.comp_def Outline.id Prod.fst, ← List.map_map, List.zipIdx_map_fst]
  rw [← same]
  exact (ordered_perm outlines).map _

namespace Run

variable {outlines : List Outline} {toolsets : ToolsetSource} {options : CompileOptions}
  {supply : Supply} (run : Run Grid.layout outlines toolsets options supply)

/-- The node of the task with an id. -/
def nodeOf (id : String) : Node :=
  ((run.placed.find? fun task => task.sketch.outline.id == id).map PlacedTask.node).getD .blank

variable (named : ∀ outline ∈ outlines, outline.id ≠ "")
  (own : (outlines.map Outline.id).Nodup)

include named

/-- Every task of the plan is placed, in some call. -/
theorem exists_placed_of_mem {outline : Outline} (h : outline ∈ outlines) :
    ∃ (count : Nat) (task : PlacedTask),
      run.placed[count]? = some task ∧ task.sketch.outline = outline := by
  obtain ⟨place, listed⟩ := exists_place_of_mem h
  rw [← (ordered_perm outlines).mem_iff, ← run.map_entry_of_named named] at listed
  obtain ⟨task, htask, same⟩ := List.mem_map.mp listed
  obtain ⟨count, found⟩ := List.getElem?_of_mem htask
  exact ⟨count, task, found, congrArg Prod.fst same⟩

include own

/-- No two tasks that are placed share an id. -/
theorem nodup_placed_ids : (run.placed.map fun task => task.sketch.outline.id).Nodup := by
  have ids : (run.placed.map fun task => task.sketch.outline.id) = orderedIds outlines := by
    rw [orderedIds, ← run.map_entry_of_named named, List.map_map]
    rfl
  rw [ids, (orderedIds_perm outlines).nodup_iff]
  exact own

/-- The node of a task that was placed is found by the id of the task. -/
theorem nodeOf_eq {task : PlacedTask} (h : task ∈ run.placed) :
    run.nodeOf task.sketch.outline.id = task.node := by
  rw [nodeOf, find?_key_eq_some (run.nodup_placed_ids named own) h]
  rfl

/-- The nodes of a run are those of its tasks. -/
theorem map_nodeOf :
    run.placed.map PlacedTask.node = (ordered outlines).map fun task => run.nodeOf task.1.id := by
  rw [← run.map_entry_of_named named, List.map_map]
  apply List.map_congr_left
  intro task htask
  exact (run.nodeOf_eq named own htask).symm

/-- The node of a task is made from it. -/
theorem nodeOf_settled {outline : Outline} (h : outline ∈ outlines) :
    ∃ (count : Nat) (sketch : Sketch) (spot : Json) (id : String),
      run.nodeOf outline.id = sketch.settled run.setting count spot id ∧
        sketch.outline = outline := by
  obtain ⟨count, task, found, rfl⟩ := run.exists_placed_of_mem named h
  obtain ⟨spot, -, made⟩ := run.settled found
  have own := run.nodeOf_eq named own (List.mem_of_getElem? found)
  exact ⟨count, task.sketch, spot, _, own.trans made, rfl⟩

/-- The id of the node of a task is the one that its place has. -/
theorem nodeId_eq_of_mem {entry : Outline × Nat} (h : entry ∈ outlines.zipIdx) :
    run.nodeId entry.2 = (run.nodeOf entry.1.id).id := by
  rw [← (ordered_perm outlines).mem_iff, ← run.map_entry_of_named named] at h
  obtain ⟨task, htask, rfl⟩ := List.mem_map.mp h
  exact (run.nodeId_place htask).trans (congrArg Node.id (run.nodeOf_eq named own htask).symm)

/-- The symbols of a run stand for the entities of its nodes. -/
theorem symbolsOf : SymbolsOf (outlines.map Outline.id) run.nodeOf run.setting.symbols := by
  have table := run.symbolTable
  rw [taskIds, identified_of_named named] at table
  constructor
  · intro id listed
    rw [← (orderedIds_perm outlines).mem_iff] at listed
    rcases firstAt_or_not_mem (orderedIds outlines) id with ⟨place, first⟩ | missing
    · obtain ⟨node, entityId, found, entity, bound⟩ := table.known first
      have here := first.1
      rw [List.getElem?_map] at found
      obtain ⟨task, placed, rfl⟩ := Option.map_eq_some_iff.mp found
      rw [orderedIds, ← run.map_entry_of_named named, List.map_map, List.getElem?_map,
        placed] at here
      have same : task.sketch.outline.id = id := Option.some.inj here
      refine ⟨entityId, ?_, bound⟩
      rw [← same, run.nodeOf_eq named own (List.mem_of_getElem? placed)]
      exact entity
    · exact absurd listed missing
  · intro id missing
    rw [← (orderedIds_perm outlines).mem_iff] at missing
    exact table.unknown missing

/-- A dependency is on the first task of its id, which is the only one. -/
theorem map_find?_eq (dependency : String) (target : Json) :
    (((ordered outlines).find? fun other => other.1.id == dependency).map fun other =>
        (⟨run.nodeId other.2, target⟩ : Link)) =
      if dependency ∈ outlines.map Outline.id then some ⟨(run.nodeOf dependency).id, target⟩
      else none := by
  have known : dependency ∈ outlines.map Outline.id ↔
      ∃ entry ∈ ordered outlines, entry.1.id = dependency := by
    rw [← (orderedIds_perm outlines).mem_iff, orderedIds, List.mem_map]
  rcases found : (ordered outlines).find? fun other => other.1.id == dependency with _ | other
  · rw [found, if_neg, Option.map_none]
    intro listed
    obtain ⟨entry, hentry, same⟩ := known.mp listed
    simpa [same] using List.find?_eq_none.mp found entry hentry
  · have hother : other ∈ ordered outlines := List.mem_of_find?_eq_some found
    have same : other.1.id = dependency := by simpa using List.find?_some found
    rw [found, if_pos (known.mpr ⟨other, hother, same⟩), Option.map_some,
      run.nodeId_eq_of_mem named own ((ordered_perm outlines).mem_iff.mp hother), same]

/-- The links that the tasks ask for are those between the nodes of tasks that are named. -/
theorem dependencies_eq_named :
    dependencies outlines run.nodeId =
      (namedPairs outlines).map fun join => ⟨(run.nodeOf join.1).id, (run.nodeOf join.2).id⟩ := by
  have each : ∀ task ∈ outlines.zipIdx,
      (task.1.dependencies.filterMap fun dependency =>
        ((ordered outlines).find? fun other => other.1.id == dependency).map fun other =>
          (⟨run.nodeId other.2, run.nodeId task.2⟩ : Link)) =
      (pairsInto (outlines.map Outline.id) task.1).map fun join =>
        ⟨(run.nodeOf join.1).id, (run.nodeOf join.2).id⟩ := by
    intro task htask
    rw [pairsInto, List.map_filterMap]
    apply List.filterMap_congr
    intro dependency _
    rw [run.map_find?_eq named own, run.nodeId_eq_of_mem named own htask]
    split
    · rfl
    · rfl
  rw [dependencies, List.flatMap_congr each, namedPairs, List.map_flatMap]
  exact flatMap_zipIdx_fst (fun task => (pairsInto (outlines.map Outline.id) task).map _) outlines

/-- Distinct tasks have distinct nodes. -/
theorem nodeOf_inj (fresh : supply.Distinct (2 * outlines.length)) :
    ∀ id ∈ outlines.map Outline.id, ∀ other ∈ outlines.map Outline.id,
      (run.nodeOf id).id = (run.nodeOf other).id → id = other := by
  have placed {entry : Outline × Nat} (h : entry ∈ outlines.zipIdx) :
      entry.2 ∈ (ordered outlines).map Prod.snd :=
    List.mem_map_of_mem ((ordered_perm outlines).mem_iff.mpr h)
  intro id listed other listed' same
  obtain ⟨outline, houtline, rfl⟩ := List.mem_map.mp listed
  obtain ⟨outline', houtline', rfl⟩ := List.mem_map.mp listed'
  obtain ⟨place, h⟩ := exists_place_of_mem houtline
  obtain ⟨place', h'⟩ := exists_place_of_mem houtline'
  rw [← run.nodeId_eq_of_mem named own h, ← run.nodeId_eq_of_mem named own h'] at same
  have there : place = place' := run.nodeId_inj_of_named named fresh (placed h) (placed h') same
  -- what stands at one place of the plan is one task
  rw [List.mem_zipIdx_iff_getElem?, there] at h
  rw [List.mem_zipIdx_iff_getElem?, h] at h'
  exact congrArg Outline.id (Option.some.inj h')

/-- A run shows its tasks. -/
theorem shows (fresh : supply.Distinct (2 * outlines.length)) (inputs : List Json) :
    (run.compilation inputs).canvas.Shows outlines toolsets options.defaultModel run.nodeOf
      (namedJoins outlines) := by
  have inj := run.nodeOf_inj named own fresh
  refine ⟨run.map_nodeOf named own, ?_, ?_, ?_, ?_, ?_, ?_⟩
  · change ((run.placed.map PlacedTask.node).map Node.id).Nodup
    rw [run.map_nodeOf named own, List.map_map]
    have ids : (ordered outlines).map (Node.id ∘ fun task => run.nodeOf task.1.id) =
        (orderedIds outlines).map fun id => (run.nodeOf id).id := by
      rw [orderedIds, List.map_map]
      rfl
    rw [ids]
    refine List.Nodup.map_on ?_ ((orderedIds_perm outlines).nodup_iff.mpr own)
    intro id listed other listed' same
    rw [(orderedIds_perm outlines).mem_iff] at listed listed'
    exact inj id listed other listed' same
  · intro task htask
    obtain ⟨count, sketch, spot, id, made, rfl⟩ := run.nodeOf_settled named own htask
    rw [made]
    rfl
  · intro task htask
    obtain ⟨count, sketch, spot, id, made, rfl⟩ := run.nodeOf_settled named own htask
    refine ⟨run.entries, run.entries_eq, ?_⟩
    rw [made]
    rfl
  · intro task htask
    obtain ⟨count, sketch, spot, id, made, rfl⟩ := run.nodeOf_settled named own htask
    rw [made]
    rfl
  · have edges := (run.wired run.hasTexts_grid inputs).edges
    rw [identified_of_named named, run.dependencies_eq_named named own] at edges
    rw [edges]
    exact Link.eraseDups_proper_map (fun _ => mem_ids_of_mem_namedPairs) inj
  · intro join hjoin
    exact mem_ids_of_mem_namedPairs (List.mem_filter.mp (List.mem_eraseDups.mp hjoin)).1

/-- The query of a task is its prompt, resolved from the symbols of the run. -/
theorem query_nodeOf {outline : Outline} (h : outline ∈ outlines) :
    (run.nodeOf outline.id).query? =
      some (.str (resolveMentions outline.prompt run.setting.symbols)) := by
  obtain ⟨count, sketch, spot, id, made, rfl⟩ := run.nodeOf_settled named own h
  rw [made]
  rfl

end Run

/-! ## Canvases of reordered plans -/

/-- A canvas that is compiled from tasks with ids of their own shows them, and its queries are the
prompts, resolved from symbols that stand for its nodes. -/
theorem exists_shows {input : PlanInput} {toolsets : ToolsetSource} {options : CompileOptions}
    {supply rest : Supply} {canvas : Canvas}
    (named : ∀ outline ∈ input.outlines, outline.id ≠ "")
    (own : (input.outlines.map Outline.id).Nodup)
    (fresh : supply.Distinct (2 * input.outlines.length))
    (returned : (compile input toolsets options).Returns supply canvas rest) :
    ∃ nodeOf symbols,
      canvas.Shows input.outlines toolsets options.defaultModel nodeOf
        (namedJoins input.outlines) ∧
      SymbolsOf (input.outlines.map Outline.id) nodeOf symbols ∧
      ∀ task ∈ input.outlines,
        (nodeOf task.id).query? = some (.str (resolveMentions task.prompt symbols)) := by
  rcases compile_returns_iff.mp returned with ⟨idle, rfl, -⟩ | ⟨-, run, rfl, -⟩
  · rw [idle]
    refine ⟨fun _ => .blank, [], ⟨rfl, List.nodup_nil, ?_, ?_, ?_, rfl, ?_⟩,
      ⟨?_, fun _ _ => rfl⟩, ?_⟩
    all_goals simp [namedJoins, namedPairs]
  · exact ⟨run.nodeOf, run.setting.symbols, run.shows named own fresh _, run.symbolsOf named own,
      fun task htask => run.query_nodeOf named own htask⟩

/-- **The order of tasks does not change the graph.** Where every task has an id of its own, a plan
and one that lists the same tasks in another order compile to the same graph, read task by task.
Both compile whenever toolsets and the nodes on the canvas are readable and allow placing. Whatever
they compile to, each task has a node with the same title, toolsets and model on both canvases; the
edges join the same tasks, and there are as many of them; and the queries of a task differ only in
entity ids, where each mention names the node of the same task on both or stays on both. -/
theorem graph_of_reordered {input input' : PlanInput} (reorders : input.Reorders input')
    (named : ∀ outline ∈ input.outlines, outline.id ≠ "")
    (own : (input.outlines.map Outline.id).Nodup) (toolsets : ToolsetSource)
    (options : CompileOptions) {supply supply' : Supply}
    (fresh : supply.Distinct (2 * input.outlines.length))
    (fresh' : supply'.Distinct (2 * input.outlines.length)) :
    (∀ entries start, toolsets.entries = .ok entries →
      Node.listOfJson options.startNodes = .ok start → Grid.Open options.autoLayout start →
      (∃ canvas rest, (compile input toolsets options).Returns supply canvas rest) ∧
        ∃ canvas' rest', (compile input' toolsets options).Returns supply' canvas' rest') ∧
    ∀ canvas rest canvas' rest',
      (compile input toolsets options).Returns supply canvas rest →
      (compile input' toolsets options).Returns supply' canvas' rest' →
      canvas'.edges.length = canvas.edges.length ∧
      ∃ nodeOf nodeOf' joins joins',
        canvas.Shows input.outlines toolsets options.defaultModel nodeOf joins ∧
        canvas'.Shows input'.outlines toolsets options.defaultModel nodeOf' joins' ∧
        joins'.Perm joins ∧
        ∀ task ∈ input.outlines,
          task.QueriedAlike (input.outlines.map Outline.id) nodeOf nodeOf' := by
  have same := reorders.outlines
  refine ⟨?_, ?_⟩
  · intro entries start readable known free
    exact ⟨exists_canvas_of_open readable known free input supply,
      exists_canvas_of_open readable known free input' supply'⟩
  · intro canvas rest canvas' rest' returned returned'
    have named' : ∀ outline ∈ input'.outlines, outline.id ≠ "" :=
      fun outline h => named outline (same.mem_iff.mp h)
    have own' : (input'.outlines.map Outline.id).Nodup := (same.map _).nodup_iff.mpr own
    rw [← same.length_eq] at fresh'
    obtain ⟨nodeOf, symbols, shows, table, queries⟩ := exists_shows named own fresh returned
    obtain ⟨nodeOf', symbols', shows', table', queries'⟩ :=
      exists_shows named' own' fresh' returned'
    have joins := namedJoins_perm same
    have count : canvas'.edges.length = canvas.edges.length := by
      have edges := congrArg List.length shows.edges
      have edges' := congrArg List.length shows'.edges
      rw [List.length_map, List.length_map] at edges edges'
      rw [edges, edges', joins.length_eq]
    refine ⟨count, nodeOf, nodeOf', _, _, shows, shows', joins, ?_⟩
    -- the ids of the tasks are the same, so both tables speak of the same mentions
    have ids {id : String} :
        id ∈ input'.outlines.map Outline.id ↔ id ∈ input.outlines.map Outline.id :=
      (same.map Outline.id).mem_iff
    have again : SymbolsOf (input.outlines.map Outline.id) nodeOf' symbols' :=
      ⟨fun id listed => table'.known id (ids.mpr listed),
        fun id missing => table'.unknown id fun listed => missing (ids.mp listed)⟩
    intro task htask
    exact table.queriedAlike again (queries task htask) (queries' task (same.mem_iff.mpr htask))

/-- Three tasks, of which one mentions and depends on one that is written later, and the same tasks
with the others before it, placed on the grid next to a node that has no row yet. -/
theorem graph_of_reordered_of_three :
    let first : Json := .obj [("id", .str "a"), ("title", .str "A"),
      ("prompt", .str "@\x7btype=agent,id=b,name=B\x7d @\x7btype=agent,id=z,name=Z\x7d"),
      ("dependentTasks", .arr [.str "b", .str "z", .str "b"])]
    let second : Json := .obj [("id", .str "b"), ("title", .str "B")]
    let third : Json := .obj [("id", .str "c"), ("dependent_tasks", .arr [.str "a", .str "c"])]
    let input : PlanInput := .raw (.obj [("tasks", .arr [first, second, third])])
    let input' : PlanInput := .raw (.obj [("tasks", .arr [third, second, first])])
    let options : CompileOptions :=
      ⟨true, .null, .arr [.obj [("id", .str "s"), ("position", .obj [("x", .int 400)])]]⟩
    input.Reorders input' ∧ ∃ canvas rest canvas' rest' nodeOf nodeOf',
      (compile input (.parsed []) options).Returns Supply.counting canvas rest ∧
      (compile input' (.parsed []) options).Returns (Supply.countingFrom 4096) canvas' rest' ∧
      canvas'.edges.length = canvas.edges.length ∧
      canvas.nodes = ["b", "a", "c"].map nodeOf ∧ canvas'.nodes = ["b", "c", "a"].map nodeOf' ∧
      ∀ task ∈ input.outlines, task.QueriedAlike ["a", "b", "c"] nodeOf nodeOf' := by
  intro first second third input input' options
  have reorders : input.Reorders input' := .raw (List.reverse_perm [first, second, third])
  have named : ∀ outline ∈ input.outlines, outline.id ≠ "" := by decide
  have own : (input.outlines.map Outline.id).Nodup := by decide
  have fresh : Supply.counting.Distinct 6 := by
    unfold Supply.Distinct
    decide +kernel
  have fresh' : (Supply.countingFrom 4096).Distinct 6 := by
    unfold Supply.Distinct
    decide +kernel
  have free : Grid.Open options.autoLayout
      [⟨.str "s", .str "", .obj [], some (.obj [("x", .int 400)]), false⟩] := by
    intro _ node hnode
    rw [List.mem_singleton.mp hnode]
    refine ⟨?_, rfl⟩
    intro position placed
    cases placed
    exact ⟨_, rfl, ⟨_, rfl⟩, ⟨_, rfl⟩⟩
  obtain ⟨compiles, alike⟩ :=
    graph_of_reordered reorders named own (.parsed []) options fresh fresh'
  obtain ⟨⟨canvas, rest, returned⟩, canvas', rest', returned'⟩ := compiles [] _ rfl rfl free
  obtain ⟨count, nodeOf, nodeOf', joins, joins', shows, shows', -, queries⟩ :=
    alike canvas rest canvas' rest' returned returned'
  exact ⟨reorders, canvas, rest, canvas', rest', nodeOf, nodeOf', returned, returned', count,
    shows.nodes, shows'.nodes, queries⟩

end Compilation

end PlanGraph
