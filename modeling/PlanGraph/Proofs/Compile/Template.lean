import PlanGraph.Proofs.Compile.Grid

/-!
# Templates of canvases

What a canvas owes to the supply of ids is told apart from what it owes to the plan by a template: a
canvas with numbers in the places where ids stand, counted in the order in which ids are drawn
(`CanvasTemplate`). It is filled with ids to give a canvas (`CanvasTemplate.fill`).

Where every task has an id of its own, the entity ids of a run are drawn first, then the ids of
nodes and then those of edges, each in order. So a run on the grid fills a template that is made
from its tasks and the positions of its nodes (`Compilation.template`,
`Compilation.Run.fill_template`).

* The mentions in a query are told by the ids of the tasks (`queryParts`, `Run.query_of_named`).
* The edges are told by places in the plan, since distinct nodes have distinct ids (`joins`,
  `Run.links_of_named`).
-/

namespace PlanGraph

/-! ## Templates -/

/-- A part of a query, with the number of the id that it holds instead of the id. -/
inductive QueryPart where
  /-- Text of the prompt, mentions included that name no task. -/
  | text (words : List Char)
  /-- A mention of a task, with the number of the id of its entity, and its label. -/
  | task (slot : Nat) (label : List Char)

/-- A node with numbers in place of ids. -/
structure NodeTemplate where
  /-- The number of the id of the node. -/
  id : Nat
  /-- The number of the id of the entity. -/
  entity : Nat
  /-- The title. -/
  title : String
  /-- The query. -/
  query : List QueryPart
  /-- The toolsets. -/
  toolsets : List Json
  /-- The model. -/
  model : Json
  /-- The position. -/
  position : Option Json

/-- An edge with numbers in place of ids. -/
structure EdgeTemplate where
  /-- The number of the id of the edge. -/
  id : Nat
  /-- The number of the id of the node that it starts from. -/
  source : Nat
  /-- The number of the id of the node that it leads to. -/
  target : Nat

/-- A canvas with numbers in place of ids, in the order in which the ids are drawn. -/
structure CanvasTemplate where
  /-- The nodes. -/
  nodes : List NodeTemplate
  /-- The edges. -/
  edges : List EdgeTemplate
  /-- The variables. -/
  inputs : List Json
  /-- How many ids are drawn. -/
  drawn : Nat

/-- The id of a node. -/
def nodeName (id : String) : Json :=
  .str ("node-" ++ id)

section fill

variable (ids : Nat → String)

/-- The part with ids. -/
def QueryPart.fill : QueryPart → List Char
  | .text words => words
  | .task slot label => Mention.text ⟨(entityName (ids slot)).toList, label⟩

/-- The node with ids. -/
def NodeTemplate.fill (node : NodeTemplate) : Node where
  id := nodeName (ids node.id)
  type := .str taskNodeType
  data := .obj [("title", .str node.title), ("editedTitle", .str node.title),
    ("entityId", .str (entityName (ids node.entity))), ("contentPreview", .str ""),
    ("metadata", .obj [("query", .str (String.ofList (node.query.flatMap (QueryPart.fill ids)))),
      ("selectedToolsets", .arr node.toolsets), ("contextItems", .arr []),
      ("status", .str "init"), ("modelInfo", node.model)])]
  position := node.position
  selected := false

/-- The edge with ids. -/
def EdgeTemplate.fill (edge : EdgeTemplate) : Edge where
  id := .str ("edge-" ++ ids edge.id)
  source := nodeName (ids edge.source)
  target := nodeName (ids edge.target)
  type := .str Link.edgeType

/-- The canvas with ids. -/
def CanvasTemplate.fill (template : CanvasTemplate) : Canvas where
  nodes := template.nodes.map (NodeTemplate.fill ids)
  edges := template.edges.map (EdgeTemplate.fill ids)
  inputs := template.inputs

end fill

/-- Only ids that are drawn are used. -/
structure CanvasTemplate.Scoped (template : CanvasTemplate) : Prop where
  /-- Nodes use ids that are drawn. -/
  nodes : ∀ node ∈ template.nodes, node.id < template.drawn ∧ node.entity < template.drawn ∧
    ∀ slot label, QueryPart.task slot label ∈ node.query → slot < template.drawn
  /-- Edges use ids that are drawn. -/
  edges : ∀ edge ∈ template.edges,
    edge.id < template.drawn ∧ edge.source < template.drawn ∧ edge.target < template.drawn

/-- What a template is filled with matters only for the ids that are drawn. -/
theorem CanvasTemplate.Scoped.fill_congr {template : CanvasTemplate} (slots : template.Scoped)
    {ids ids' : Nat → String} (same : ∀ slot < template.drawn, ids slot = ids' slot) :
    template.fill ids = template.fill ids' := by
  have nodes : template.nodes.map (NodeTemplate.fill ids) =
      template.nodes.map (NodeTemplate.fill ids') := by
    apply List.map_congr_left
    intro node hnode
    obtain ⟨id, entity, query⟩ := slots.nodes node hnode
    have parts : node.query.flatMap (QueryPart.fill ids) =
        node.query.flatMap (QueryPart.fill ids') := by
      apply List.flatMap_congr
      intro part hpart
      cases part with
      | text words => rfl
      | task slot label => rw [QueryPart.fill, QueryPart.fill, same slot (query slot label hpart)]
    rw [NodeTemplate.fill, NodeTemplate.fill, same _ id, same _ entity, parts]
  have edges : template.edges.map (EdgeTemplate.fill ids) =
      template.edges.map (EdgeTemplate.fill ids') := by
    apply List.map_congr_left
    intro edge hedge
    obtain ⟨id, source, target⟩ := slots.edges edge hedge
    rw [EdgeTemplate.fill, EdgeTemplate.fill, same _ id, same _ source, same _ target]
  rw [CanvasTemplate.fill, CanvasTemplate.fill, nodes, edges]

namespace Compilation

/-! ## Tasks that have ids -/

/-- The number of an id is that of a task. -/
theorem lt_of_findIdx? {outlines : List Outline} {id : String} {place : Nat}
    (h : (orderedIds outlines).findIdx? (· == id) = some place) : place < outlines.length := by
  obtain ⟨inside, -⟩ := List.findIdx?_eq_some_iff_getElem.mp h
  rwa [length_orderedIds] at inside

/-- Tasks that have an id each keep it, and draw none. -/
theorem identified_of_named {outlines : List Outline}
    (named : ∀ outline ∈ outlines, outline.id ≠ "") (supply : Supply) :
    identified outlines supply = (outlines, supply) :=
  Outline.identifyAll_of_named named supply

namespace Run

variable {outlines : List Outline} {toolsets : ToolsetSource} {options : CompileOptions}
  {supply : Supply} (run : Run Grid.layout outlines toolsets options supply)
  (named : ∀ outline ∈ outlines, outline.id ≠ "")

include named

/-- The tasks that are placed are those of the plan, in the order of processing. -/
theorem map_entry_of_named : run.placed.map PlacedTask.entry = ordered outlines := by
  have entries := run.map_entry
  rw [identified_of_named named] at entries
  exact entries

/-- The symbols are numbered in the order of processing. -/
theorem lookup_of_named (id : String) :
    run.setting.symbols.lookup id =
      ((orderedIds outlines).findIdx? (· == id)).map fun place =>
        entityName (supply.upcoming place) := by
  have symbols := lookup_symbols outlines supply id
  rw [taskIds, identified_of_named named] at symbols
  exact symbols

/-- The task with a number has the entity id with that number. -/
theorem entry_of_named {count : Nat} {task : PlacedTask} (found : run.placed[count]? = some task) :
    (ordered outlines)[count]? = some task.entry ∧
      task.sketch.entityId = entityName (supply.upcoming count) := by
  have sketched := run.sketch_getElem? found
  rw [identified_of_named named] at sketched
  exact sketched

/-- The ids of nodes follow those of entities. -/
theorem node_of_named {count : Nat} {task : PlacedTask} (found : run.placed[count]? = some task) :
    ∃ spot, Grid.position task.request = .ok spot ∧
      task.node = task.sketch.settled run.setting count spot
        (supply.upcoming (outlines.length + count)) := by
  have settled := run.settled found
  rw [identified_of_named named] at settled
  exact settled

end Run

end Compilation

/-! ## Queries -/

/-- The part of a query that a piece of a prompt becomes, when the ids of the tasks are these. -/
def Piece.part (taskIds : List String) : Piece → QueryPart
  | char c => .text [c]
  | mention found =>
    match taskIds.findIdx? (· == String.ofList found.id) with
    | some place => .task place found.label
    | none => .text found.text

/-- The parts of the query for a prompt. -/
def queryParts (taskIds : List String) (prompt : String) : List QueryPart :=
  (pieces prompt.toList).map (Piece.part taskIds)

/-- The query of a task is made of its parts. -/
theorem Compilation.Run.query_of_named {outlines : List Outline} {toolsets : ToolsetSource}
    {options : CompileOptions} {supply : Supply}
    (run : Run Grid.layout outlines toolsets options supply)
    (named : ∀ outline ∈ outlines, outline.id ≠ "") (prompt : String) :
    resolveMentions prompt run.setting.symbols =
      String.ofList ((queryParts (orderedIds outlines) prompt).flatMap
        (QueryPart.fill supply.upcoming)) := by
  have part (piece : Piece) : (piece.resolve run.setting.symbols).text =
      (piece.part (orderedIds outlines)).fill supply.upcoming := by
    cases piece with
    | char c => rfl
    | mention found =>
        have bound := run.lookup_of_named named (String.ofList found.id)
        rw [Piece.resolve, Piece.part, Piece.text, Mention.resolve, bound]
        rcases (orderedIds outlines).findIdx? (· == String.ofList found.id) with _ | place
        · rfl
        · rfl
  rw [← String.toList_inj, toList_resolveMentions, String.toList_ofList, queryParts,
    List.flatMap_map, List.flatMap_map]
  exact List.flatMap_congr fun piece _ => part piece

/-! ## Edges -/

/-- Without repetitions, items with distinct images have the images without repetitions. -/
theorem eraseDups_map {α β : Type} [BEq α] [LawfulBEq α] [BEq β] [LawfulBEq β] {f : α → β} :
    (items : List α) → (∀ a ∈ items, ∀ b ∈ items, f a = f b → a = b) →
      (items.map f).eraseDups = items.eraseDups.map f
  | [], _ => rfl
  | item :: rest, distinct => by
      have shorter : (rest.filter fun other => !other == item).length < rest.length + 1 :=
        Nat.lt_succ_of_le (List.length_filter_le _ _)
      have others : (rest.map f).filter (fun image => !image == f item) =
          (rest.filter fun other => !other == item).map f := by
        rw [List.filter_map]
        congr 1
        apply List.filter_congr
        intro other hother
        have same : f other = f item ↔ other = item :=
          ⟨distinct other (List.mem_cons_of_mem _ hother) item List.mem_cons_self,
            congrArg f⟩
        have equal : (f other == f item) = (other == item) := by
          rw [Bool.eq_iff_iff, beq_iff_eq, beq_iff_eq, same]
        rw [Function.comp_apply, equal]
      have later := eraseDups_map (rest.filter fun other => !other == item) fun a ha b hb =>
        distinct a (List.mem_cons_of_mem _ (List.mem_filter.mp ha).1)
          b (List.mem_cons_of_mem _ (List.mem_filter.mp hb).1)
      rw [List.map_cons, List.eraseDups_cons, List.eraseDups_cons, List.map_cons, others, later]
termination_by items => items.length

/-- Where distinct ends have distinct ids, loops and repetitions among the links between them are
told by the ends. -/
theorem Link.eraseDups_proper_map {α : Type} [DecidableEq α] {nodeId : α → Json}
    {joins : List (α × α)} {ends : List α}
    (inside : ∀ join ∈ joins, join.1 ∈ ends ∧ join.2 ∈ ends)
    (distinct : ∀ a ∈ ends, ∀ b ∈ ends, nodeId a = nodeId b → a = b) :
    ((joins.map fun join => (⟨nodeId join.1, nodeId join.2⟩ : Link)).filter fun link =>
        decide (link.source ≠ link.target)).eraseDups =
      ((joins.filter fun join => decide (join.1 ≠ join.2)).eraseDups).map fun join =>
        ⟨nodeId join.1, nodeId join.2⟩ := by
  have proper : (joins.map fun join => (⟨nodeId join.1, nodeId join.2⟩ : Link)).filter (fun link =>
        decide (link.source ≠ link.target)) =
      (joins.filter fun join => decide (join.1 ≠ join.2)).map fun join =>
        ⟨nodeId join.1, nodeId join.2⟩ := by
    rw [List.filter_map]
    congr 1
    apply List.filter_congr
    intro join hjoin
    obtain ⟨source, target⟩ := inside join hjoin
    have same : nodeId join.1 = nodeId join.2 ↔ join.1 = join.2 :=
      ⟨distinct _ source _ target, congrArg nodeId⟩
    simp [same]
  rw [proper]
  apply eraseDups_map
  intro join hjoin other hother same
  obtain ⟨source, target⟩ := inside join (List.mem_filter.mp hjoin).1
  obtain ⟨source', target'⟩ := inside other (List.mem_filter.mp hother).1
  rw [Link.mk.injEq] at same
  exact Prod.ext (distinct _ source _ source' same.1) (distinct _ target _ target' same.2)

namespace Compilation

/-- The dependencies of a plan that name a task, as pairs of places in the plan: the place of the
task that is named, and that of the task that depends on it. -/
def asked (outlines : List Outline) : List (Nat × Nat) :=
  outlines.zipIdx.flatMap fun task => task.1.dependencies.filterMap fun dependency =>
    ((ordered outlines).find? fun other => other.1.id == dependency).map fun other =>
      (other.2, task.2)

/-- The pairs that become edges. -/
def joins (outlines : List Outline) : List (Nat × Nat) :=
  ((asked outlines).filter fun join => decide (join.1 ≠ join.2)).eraseDups

/-- The number of the id of the node of the task at a place of the plan. -/
def nodeSlot (outlines : List Outline) (place : Nat) : Nat :=
  outlines.length + ((ordered outlines).map Prod.snd).idxOf place

/-- The links that a plan asks for are between the nodes of the tasks. -/
theorem dependencies_eq (outlines : List Outline) (nodeId : Nat → Json) :
    dependencies outlines nodeId =
      (asked outlines).map fun join => ⟨nodeId join.1, nodeId join.2⟩ := by
  rw [dependencies, asked, List.map_flatMap]
  simp only [List.map_filterMap, Option.map_map, Function.comp_def]

/-- Dependencies join tasks. -/
theorem mem_of_mem_asked {outlines : List Outline} {join : Nat × Nat} (h : join ∈ asked outlines) :
    join.1 ∈ (ordered outlines).map Prod.snd ∧ join.2 ∈ (ordered outlines).map Prod.snd := by
  obtain ⟨task, listed, named⟩ := List.mem_flatMap.mp h
  obtain ⟨dependency, -, found⟩ := List.mem_filterMap.mp named
  obtain ⟨other, first, rfl⟩ := Option.map_eq_some_iff.mp found
  exact ⟨List.mem_map_of_mem (List.mem_of_find?_eq_some first),
    List.mem_map_of_mem ((ordered_perm outlines).mem_iff.mpr listed)⟩

/-- Edges join tasks. -/
theorem mem_of_mem_joins {outlines : List Outline} {join : Nat × Nat} (h : join ∈ joins outlines) :
    join.1 ∈ (ordered outlines).map Prod.snd ∧ join.2 ∈ (ordered outlines).map Prod.snd :=
  mem_of_mem_asked (List.mem_filter.mp (List.mem_eraseDups.mp h)).1

/-- Where distinct tasks have distinct nodes, loops and repetitions are told by the places of the
tasks. -/
theorem proper_dependencies_eq {outlines : List Outline} {nodeId : Nat → Json}
    (distinct : ∀ place ∈ (ordered outlines).map Prod.snd,
      ∀ other ∈ (ordered outlines).map Prod.snd, nodeId place = nodeId other → place = other) :
    ((dependencies outlines nodeId).filter fun link =>
        decide (link.source ≠ link.target)).eraseDups =
      (joins outlines).map fun join => ⟨nodeId join.1, nodeId join.2⟩ := by
  rw [dependencies_eq, joins]
  exact Link.eraseDups_proper_map (fun _ => mem_of_mem_asked) distinct

/-- The ids of nodes come after those of entities. -/
theorem nodeSlot_lt {outlines : List Outline} {place : Nat}
    (h : place ∈ (ordered outlines).map Prod.snd) :
    nodeSlot outlines place < 2 * outlines.length := by
  have inside := List.idxOf_lt_length_of_mem h
  rw [List.length_map, length_ordered] at inside
  rw [nodeSlot]
  omega

/-- Tasks with the same node are at the same place. -/
theorem nodeSlot_inj {outlines : List Outline} {place other : Nat}
    (h : place ∈ (ordered outlines).map Prod.snd)
    (same : nodeSlot outlines place = nodeSlot outlines other) : place = other :=
  (List.idxOf_inj h).mp (Nat.add_left_cancel same)

namespace Run

variable {outlines : List Outline} {toolsets : ToolsetSource} {options : CompileOptions}
  {supply : Supply} (run : Run Grid.layout outlines toolsets options supply)
  (named : ∀ outline ∈ outlines, outline.id ≠ "")

include named

/-- The id of a node is the one with its number. -/
theorem nodeId_of_named {place : Nat} (h : place ∈ (ordered outlines).map Prod.snd) :
    run.nodeId place = nodeName (supply.upcoming (nodeSlot outlines place)) := by
  have entries := run.map_entry_of_named named
  have inside := List.idxOf_lt_length_of_mem h
  have here : ((ordered outlines).map Prod.snd)[((ordered outlines).map Prod.snd).idxOf place]? =
      some place := by
    rw [List.getElem?_eq_getElem inside, List.getElem_idxOf]
  rw [← entries, List.map_map, List.getElem?_map, Option.map_eq_some_iff, ← List.map_map,
    entries] at here
  obtain ⟨task, found, rfl⟩ := here
  obtain ⟨spot, -, made⟩ := run.node_of_named named found
  change run.nodeId task.sketch.place = _
  rw [run.nodeId_place (List.mem_of_getElem? found), made]
  rfl

/-- Distinct tasks have distinct nodes. -/
theorem nodeId_inj_of_named (distinct : supply.Distinct (2 * outlines.length)) {place other : Nat}
    (h : place ∈ (ordered outlines).map Prod.snd) (h' : other ∈ (ordered outlines).map Prod.snd)
    (same : run.nodeId place = run.nodeId other) : place = other := by
  rw [run.nodeId_of_named named h, run.nodeId_of_named named h'] at same
  have drawn : supply.upcoming (nodeSlot outlines place) =
      supply.upcoming (nodeSlot outlines other) := by
    simpa [nodeName] using same
  exact nodeSlot_inj h (distinct _ (nodeSlot_lt h) _ (nodeSlot_lt h') drawn)

/-- The links are those that the plan asks for, between the nodes with their numbers. -/
theorem links_of_named (distinct : supply.Distinct (2 * outlines.length)) :
    run.links = (joins outlines).map fun join =>
      ⟨nodeName (supply.upcoming (nodeSlot outlines join.1)),
        nodeName (supply.upcoming (nodeSlot outlines join.2))⟩ := by
  have edges := (run.wired run.hasTexts_grid []).edges
  change (Link.drawEdges run.links run.between).1.map Edge.link = _ at edges
  have nodeIds : ∀ place ∈ (ordered outlines).map Prod.snd,
      ∀ other ∈ (ordered outlines).map Prod.snd,
      run.nodeId place = run.nodeId other → place = other :=
    fun place h other h' same => run.nodeId_inj_of_named named distinct h h' same
  rw [Link.map_link_drawEdges, identified_of_named named, proper_dependencies_eq nodeIds] at edges
  rw [edges]
  apply List.map_congr_left
  intro join hjoin
  obtain ⟨source, target⟩ := mem_of_mem_joins hjoin
  rw [run.nodeId_of_named named source, run.nodeId_of_named named target]

end Run

/-! ## The template of a plan -/

/-- The template of the node of a task with a number and a position. -/
def nodeTemplate (outlines : List Outline) (entries : List Json) (model : Json) (count : Nat)
    (outline : Outline) (position : Option Json) : NodeTemplate where
  id := outlines.length + count
  entity := count
  title := outline.title
  query := queryParts (orderedIds outlines) outline.prompt
  toolsets := Toolset.select entries outline.toolsets
  model := model
  position := position

/-- The template of the edge with a number. -/
def edgeTemplate (outlines : List Outline) (number : Nat) (join : Nat × Nat) : EdgeTemplate where
  id := 2 * outlines.length + number
  source := nodeSlot outlines join.1
  target := nodeSlot outlines join.2

/-- The template of a plan, once the positions of its nodes are settled. -/
def template (outlines : List Outline) (entries : List Json) (model : Json)
    (positions : List (Option Json)) (inputs : List Json) : CanvasTemplate where
  nodes := ((ordered outlines).zip positions).mapIdx fun count task =>
    nodeTemplate outlines entries model count task.1.1 task.2
  edges := (joins outlines).mapIdx (edgeTemplate outlines)
  inputs := inputs
  drawn := 2 * outlines.length + (joins outlines).length

/-- The query of a task mentions tasks. -/
theorem lt_of_mem_queryParts {outlines : List Outline} {prompt : String} {slot : Nat}
    {label : List Char} (h : .task slot label ∈ queryParts (orderedIds outlines) prompt) :
    slot < outlines.length := by
  obtain ⟨piece, -, made⟩ := List.mem_map.mp h
  cases piece with
  | char c => cases made
  | mention found =>
      rw [Piece.part] at made
      split at made
      · rename_i place first
        cases made
        exact lt_of_findIdx? first
      · cases made

/-- A template uses only ids that are drawn. -/
theorem template_scoped (outlines : List Outline) (entries : List Json) (model : Json)
    (positions : List (Option Json)) (inputs : List Json) :
    (template outlines entries model positions inputs).Scoped := by
  constructor
  · intro node hnode
    obtain ⟨count, inside, rfl⟩ := List.mem_mapIdx.mp hnode
    have bound : count < outlines.length := by
      rw [List.length_zip, length_ordered] at inside
      omega
    refine ⟨?_, ?_, ?_⟩
    · change outlines.length + count < 2 * outlines.length + _
      omega
    · change count < 2 * outlines.length + _
      omega
    · intro slot label hpart
      have mentioned := lt_of_mem_queryParts hpart
      change slot < 2 * outlines.length + _
      omega
  · intro edge hedge
    obtain ⟨number, inside, rfl⟩ := List.mem_mapIdx.mp hedge
    obtain ⟨source, target⟩ := mem_of_mem_joins (List.getElem_mem inside)
    have first := nodeSlot_lt source
    have second := nodeSlot_lt target
    refine ⟨?_, ?_, ?_⟩
    · change 2 * outlines.length + number < 2 * outlines.length + _
      omega
    · change nodeSlot outlines _ < 2 * outlines.length + _
      omega
    · change nodeSlot outlines _ < 2 * outlines.length + _
      omega

namespace Run

variable {outlines : List Outline} {toolsets : ToolsetSource} {options : CompileOptions}
  {supply : Supply} (run : Run Grid.layout outlines toolsets options supply)
  (named : ∀ outline ∈ outlines, outline.id ≠ "")

include named

/-- A node is its template, filled with the ids that are drawn. -/
theorem fill_nodeTemplate {count : Nat} {task : PlacedTask}
    (found : run.placed[count]? = some task) :
    (nodeTemplate outlines run.entries options.defaultModel count task.sketch.outline
      task.node.position).fill supply.upcoming = task.node := by
  obtain ⟨spot, -, made⟩ := run.node_of_named named found
  have entity := (run.entry_of_named named found).2
  have query := run.query_of_named named task.sketch.outline.prompt
  rw [made]
  unfold NodeTemplate.fill nodeTemplate Sketch.settled Sketch.node Sketch.payload Sketch.metadata
    Sketch.query
  rw [query, entity]
  rfl

/-- The nodes of a run fill the template. -/
theorem fill_nodes (inputs : List Json) :
    (template outlines run.entries options.defaultModel
        ((run.placed.map PlacedTask.node).map Node.position) inputs).nodes.map
          (NodeTemplate.fill supply.upcoming) =
      run.placed.map PlacedTask.node := by
  have entries := run.map_entry_of_named named
  change (((ordered outlines).zip _).mapIdx _).map _ = _
  rw [← entries, List.map_map, List.zip_map']
  apply List.ext_getElem?
  intro count
  rw [List.getElem?_map, List.getElem?_mapIdx, List.getElem?_map, List.getElem?_map]
  rcases found : run.placed[count]? with _ | task
  · rfl
  · exact congrArg some (run.fill_nodeTemplate named found)

/-- The edges of a run fill the template, and no id is drawn after those of the edges. -/
theorem fill_edges (distinct : supply.Distinct (2 * outlines.length)) :
    Link.drawEdges run.links run.between =
      ((joins outlines).mapIdx (edgeTemplate outlines) |>.map (EdgeTemplate.fill supply.upcoming),
        supply.ahead (2 * outlines.length + (joins outlines).length)) := by
  have between := run.between_eq
  rw [identified_of_named named] at between
  rw [Link.drawEdges_eq, run.links_of_named named distinct, between,
    Supply.ahead_ahead, List.length_map, List.zipIdx_map, List.map_map, List.mapIdx_eq_zipIdx_map,
    List.map_map]
  congr 1
  apply List.map_congr_left
  intro join _
  simp only [Function.comp_apply, Prod.map, Supply.upcoming_ahead]
  rfl

/-- A run fills the template with the ids that it draws. -/
theorem fill_template (distinct : supply.Distinct (2 * outlines.length)) (inputs : List Json) :
    (run.compilation inputs).canvas =
        (template outlines run.entries options.defaultModel
          ((run.placed.map PlacedTask.node).map Node.position) inputs).fill supply.upcoming ∧
      run.rest = supply.ahead (2 * outlines.length + (joins outlines).length) := by
  constructor
  · change (⟨run.placed.map PlacedTask.node, (Link.drawEdges run.links run.between).1, inputs⟩ :
      Canvas) = _
    rw [run.fill_edges named distinct, CanvasTemplate.fill, run.fill_nodes named inputs]
    rfl
  · rw [rest, run.fill_edges named distinct]

end Run

end Compilation

end PlanGraph
