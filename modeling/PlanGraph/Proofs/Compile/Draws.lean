import PlanGraph.Proofs.Compile.Readings
import PlanGraph.Proofs.Compile.Template
import PlanGraph.Proofs.Compile.Totality
import PlanGraph.Proofs.Text.Hex

/-!
# Which ids are drawn

A run on the grid takes its ids from the supply in a row, without gaps, and uses each of them once
(`Compilation.Run.draws`): first those of the tasks that have none, in the order of the plan; then
those of the entities and those of the nodes, both in the order of processing; then those of the
edges. The order of processing is that of the entries of the list of tasks, those without
dependencies first (`Compilation.ordered_entries`). So the number of ids drawn is known from the
canvas, and with a supply that never repeats an id, nothing on the canvas, and nothing on the next
one, shares an id (`Compilation.ids_of_compile`).

* `Supply.row` is a row of ids that come up next, written in some way; rows of different ids are
  disjoint (`Supply.nodup_row`, `Supply.disjoint_row`).
* `Canvas.Draws` says which rows the ids on a canvas are.
-/

namespace PlanGraph

/-! ## Rows of ids -/

namespace Supply

/-- Ids that come up next, from one with a given number on, each written in the given way. -/
def row (supply : Supply) (written : String → Json) (first count : Nat) : List Json :=
  (List.range count).map fun number => written (supply.upcoming (first + number))

section rows

variable {supply : Supply} {written : String → Json}

@[simp]
theorem length_row (first count : Nat) : (supply.row written first count).length = count := by
  rw [row, List.length_map, List.length_range]

theorem mem_row_iff {first count : Nat} {id : Json} :
    id ∈ supply.row written first count ↔
      ∃ number < count, written (supply.upcoming (first + number)) = id := by
  simp [row]

variable (fresh : Function.Injective supply.name) (telling : Function.Injective written)
include fresh telling

/-- Ids are written alike only where they have one number. -/
theorem written_upcoming_inj {i j : Nat}
    (same : written (supply.upcoming i) = written (supply.upcoming j)) : i = j :=
  Nat.add_left_cancel (fresh (telling same))

/-- The ids of a row are distinct. -/
theorem nodup_row (first count : Nat) : (supply.row written first count).Nodup := by
  refine List.nodup_range.map_on fun i _ j _ same => ?_
  exact Nat.add_left_cancel (written_upcoming_inj fresh telling same)

/-- A row of ids that were drawn has nothing in common with a row of later ones. -/
theorem disjoint_row {first count drawn : Nat} (before : first + count ≤ drawn)
    (first' count' : Nat) :
    (supply.row written first count).Disjoint ((supply.ahead drawn).row written first' count') := by
  intro id here later
  obtain ⟨number, inside, rfl⟩ := mem_row_iff.mp here
  obtain ⟨number', -, same⟩ := mem_row_iff.mp later
  rw [upcoming_ahead] at same
  have numbers := written_upcoming_inj fresh telling same
  omega

end rows

/-- A supply that counts on never repeats an id, in whatever state it is. -/
theorem fresh_countingFrom (start drawn : Nat) :
    Function.Injective ((countingFrom start).ahead drawn).name := by
  intro m n same
  have counted : start + m + 1 = start + n + 1 := Text.paddedHex_inj (String.ofList_inj.mp same)
  omega

end Supply

/-- An entity id as a value. -/
def entityJson (id : String) : Json :=
  .str (entityName id)

/-- The id of an edge. -/
def edgeName (id : String) : Json :=
  .str ("edge-" ++ id)

theorem entityJson_injective : Function.Injective entityJson := by
  intro id other same
  simpa [entityJson, entityName] using same

theorem nodeName_injective : Function.Injective nodeName := by
  intro id other same
  simpa [nodeName] using same

theorem edgeName_injective : Function.Injective edgeName := by
  intro id other same
  simpa [edgeName] using same

/-! ## Tasks without an id -/

namespace Outline

/-- The task has no id of use. -/
def isNameless (outline : Outline) : Bool :=
  outline.id == ""

/-- The task with the given id if it has none of its own. -/
def orNamed (outline : Outline) (id : String) : Outline :=
  if outline.isNameless then { outline with id := "task-" ++ id } else outline

/-- A task that has no id takes the next one. -/
theorem identify_eq (outline : Outline) (supply : Supply) :
    outline.identify supply = (outline.orNamed (supply.upcoming 0),
      supply.ahead (if outline.isNameless then 1 else 0)) := by
  unfold identify orNamed isNameless
  by_cases nameless : outline.id = ""
  · rw [if_pos nameless, beq_iff_eq.mpr nameless]
    rfl
  · rw [if_neg nameless, beq_eq_false_iff_ne.mpr nameless]
    rfl

/-- Each task without an id takes the id whose number is that of the tasks without one before it. -/
theorem getElem?_identifyAll (outlines : List Outline) (supply : Supply) (place : Nat) :
    (identifyAll outlines supply).1[place]? = outlines[place]?.map fun outline =>
      outline.orNamed (supply.upcoming ((outlines.take place).countP isNameless)) := by
  induction outlines generalizing supply place with
  | nil => rfl
  | cons outline rest ih =>
      change ((outline.identify supply).1 ::
        (identifyAll rest (outline.identify supply).2).1)[place]? = _
      rw [identify_eq]
      rcases place with _ | place
      · rfl
      · rw [List.getElem?_cons_succ, List.getElem?_cons_succ, ih, List.take_succ_cons,
          List.countP_cons, Supply.upcoming_ahead, Nat.add_comm]

/-- As many ids are taken as there are tasks without one. -/
theorem supply_identifyAll (outlines : List Outline) (supply : Supply) :
    (identifyAll outlines supply).2 = supply.ahead (outlines.countP isNameless) := by
  induction outlines generalizing supply with
  | nil => rfl
  | cons outline rest ih =>
      change (identifyAll rest (outline.identify supply).2).2 = _
      rw [identify_eq, ih, Supply.ahead_ahead, List.countP_cons, Nat.add_comm]

end Outline

/-! ## Ids on a canvas -/

/-- How many tasks of a plan have no id of use. -/
def PlanInput.nameless (input : PlanInput) : Nat :=
  input.outlines.countP Outline.isNameless

/-- The entries of the list of tasks of a plan. Tasks that were read stand for what is written of
them. -/
def PlanInput.entries : PlanInput → List Json
  | parsed plan => plan.tasks.map Task.dump
  | raw value => value.itemsOf "tasks"

/-- The outlines of a plan are those of its entries. -/
theorem PlanInput.outlines_eq_map_entries (input : PlanInput) :
    input.outlines = input.entries.map Outline.ofJson := by
  cases input with
  | parsed plan => exact (outlines_dump plan).symm
  | raw value => rfl

/-- The entity id of a node. -/
def Node.entityJson (node : Node) : Json :=
  node.data.getD "entityId"

/-- The ids on a canvas of `count` tasks, of which `nameless` had no id, are those that come up next
in the supply: behind the ids of those tasks stand the entity ids, then the ids of the nodes, then
those of the edges. Nothing else is drawn. -/
structure Canvas.Draws (canvas : Canvas) (nameless count : Nat) (supply rest : Supply) : Prop where
  /-- The entity ids, node by node. -/
  entities : canvas.nodes.map Node.entityJson = supply.row entityJson nameless count
  /-- The ids of the nodes. -/
  nodes : canvas.nodes.map Node.id = supply.row nodeName (nameless + count) count
  /-- The ids of the edges. -/
  edges : canvas.edges.map Edge.id =
    supply.row edgeName (nameless + 2 * count) canvas.edges.length
  /-- The number of ids that are drawn. -/
  rest : rest = supply.ahead (nameless + 2 * count + canvas.edges.length)

namespace Canvas.Draws

variable {canvas canvas' : Canvas} {nameless nameless' count count' : Nat}
  {supply rest rest' : Supply}

/-- With a supply that never repeats an id, no two nodes share their id or their entity id, and no
two edges their id. -/
theorem nodup (draws : canvas.Draws nameless count supply rest)
    (fresh : Function.Injective supply.name) :
    (canvas.nodes.map Node.id).Nodup ∧ (canvas.nodes.map Node.entityJson).Nodup ∧
      (canvas.edges.map Edge.id).Nodup := by
  rw [draws.nodes, draws.entities, draws.edges]
  exact ⟨Supply.nodup_row fresh nodeName_injective _ _,
    Supply.nodup_row fresh entityJson_injective _ _, Supply.nodup_row fresh edgeName_injective _ _⟩

/-- With such a supply, a canvas shares no id with one that is made from what it leaves. -/
theorem disjoint (draws : canvas.Draws nameless count supply rest)
    (draws' : canvas'.Draws nameless' count' rest rest')
    (fresh : Function.Injective supply.name) :
    (canvas.nodes.map Node.id).Disjoint (canvas'.nodes.map Node.id) ∧
      (canvas.nodes.map Node.entityJson).Disjoint (canvas'.nodes.map Node.entityJson) ∧
      (canvas.edges.map Edge.id).Disjoint (canvas'.edges.map Edge.id) := by
  rw [draws.nodes, draws.entities, draws.edges, draws'.nodes, draws'.entities, draws'.edges,
    draws.rest]
  exact ⟨Supply.disjoint_row fresh nodeName_injective (by omega) _ _,
    Supply.disjoint_row fresh entityJson_injective (by omega) _ _,
    Supply.disjoint_row fresh edgeName_injective (by omega) _ _⟩

end Canvas.Draws

namespace Compilation

namespace Run

variable {outlines : List Outline} {toolsets : ToolsetSource} {options : CompileOptions}
  {supply : Supply} (run : Run Grid.layout outlines toolsets options supply)

/-- The ids of the tasks come first. -/
theorem upcoming_identified (outlines : List Outline) (supply : Supply) (number : Nat) :
    (identified outlines supply).2.upcoming number =
      supply.upcoming (outlines.countP Outline.isNameless + number) := by
  rw [identified, Outline.supply_identifyAll, Supply.upcoming_ahead]

/-- What every node tells by its number is a row of as many as there are tasks. -/
theorem map_node_eq_row {told : Node → Json} {written : String → Json} {first : Nat}
    (each : ∀ (count : Nat) (task : PlacedTask), run.placed[count]? = some task →
      told task.node = written (supply.upcoming (first + count))) :
    (run.placed.map PlacedTask.node).map told = supply.row written first outlines.length := by
  have lengths : ((run.placed.map PlacedTask.node).map told).length =
      (supply.row written first outlines.length).length := by
    rw [List.length_map, List.length_map, run.length_placed, Supply.length_row]
  refine List.ext_getElem lengths fun count inside _ => ?_
  rw [List.length_map, List.length_map] at inside
  simp only [List.getElem_map, Supply.row, List.getElem_range]
  exact each count _ (List.getElem?_eq_getElem inside)

/-- Edges have a row of ids. -/
theorem map_edge_id_drawEdges (links : List Link) (supply : Supply) (first : Nat) :
    (Link.drawEdges links (supply.ahead first)).1.map Edge.id =
      supply.row edgeName first links.length := by
  have numbers : links.zipIdx.map Prod.snd = List.range links.length := by
    rw [List.zipIdx_map_snd, List.range_eq_range']
  rw [Link.drawEdges_eq, List.map_map, Supply.row, ← numbers, List.map_map]
  refine List.map_congr_left fun link _ => ?_
  rw [Function.comp_apply, Function.comp_apply, Supply.upcoming_ahead, edgeName]

/-- **What a run draws.** The ids on its canvas are rows of the supply. -/
theorem draws (inputs : List Json) :
    (run.compilation inputs).canvas.Draws (outlines.countP Outline.isNameless) outlines.length
      supply run.rest := by
  have between : run.between =
      supply.ahead (outlines.countP Outline.isNameless + 2 * outlines.length) := by
    rw [run.between_eq, identified, Outline.supply_identifyAll, Supply.ahead_ahead]
  have drawn := congrArg (Link.drawEdges run.links) between
  have edges : (Link.drawEdges run.links run.between).1.length = run.links.length := by
    rw [Link.drawEdges_eq, List.length_map, List.length_zipIdx]
  constructor
  · refine run.map_node_eq_row fun count task found => ?_
    obtain ⟨spot, -, made⟩ := run.settled found
    obtain ⟨-, entity⟩ := run.sketch_getElem? found
    rw [upcoming_identified] at entity
    rw [made, entityJson, ← entity]
    rfl
  · refine run.map_node_eq_row fun count task found => ?_
    obtain ⟨spot, -, made⟩ := run.settled found
    rw [upcoming_identified, ← Nat.add_assoc] at made
    rw [made]
    rfl
  · change (Link.drawEdges run.links run.between).1.map Edge.id = supply.row edgeName _
      (Link.drawEdges run.links run.between).1.length
    rw [edges, drawn, map_edge_id_drawEdges]
  · change (Link.drawEdges run.links run.between).2 = supply.ahead (_ +
      (Link.drawEdges run.links run.between).1.length)
    rw [edges, drawn, Link.drawEdges_eq, Supply.ahead_ahead]

/-- The nodes have the titles of the tasks in the order of processing. -/
theorem map_title (inputs : List Json) :
    (run.compilation inputs).canvas.nodes.map (fun node => node.data.getD "title") =
      (ordered (identified outlines supply).1).map fun task => .str task.1.title := by
  change (run.placed.map PlacedTask.node).map _ = _
  rw [← run.map_entry, List.map_map, List.map_map]
  refine List.map_congr_left fun task htask => ?_
  obtain ⟨count, found⟩ := List.getElem?_of_mem htask
  obtain ⟨spot, -, made⟩ := run.settled found
  rw [Function.comp_apply, made]
  rfl

end Run

/-- Whatever is compiled on the grid draws ids in rows. -/
theorem draws_of_compile {input : PlanInput} {toolsets : ToolsetSource} {options : CompileOptions}
    {supply rest : Supply} {canvas : Canvas}
    (returned : (compile input toolsets options).Returns supply canvas rest) :
    canvas.Draws input.nameless input.outlines.length supply rest ∧
      canvas.nodes.map (fun node => node.data.getD "title") =
        (ordered (Outline.identifyAll input.outlines supply).1).map fun task =>
          .str task.1.title := by
  rcases compile_returns_iff.mp returned with ⟨idle, rfl, rfl⟩ | ⟨-, run, rfl, rfl⟩
  · rw [PlanInput.nameless, idle]
    exact ⟨⟨rfl, rfl, rfl, rfl⟩, rfl⟩
  · exact ⟨run.draws _, run.map_title _⟩

/-- The tasks of a plan in the order of processing are its entries, those without dependencies
first, each with an id. -/
theorem ordered_entries (input : PlanInput) (supply : Supply) :
    List.Forall₂ (fun entry task => task.1 = { Outline.ofJson entry with id := task.1.id })
      (entriesInOrder input.entries)
      (ordered (Outline.identifyAll input.outlines supply).1) := by
  rw [input.outlines_eq_map_entries]
  exact forall₂_ordered input.entries supply

/-- **Ids are never reused and none is wasted.** With ids that count on, in whatever state, and the
grid, every plan compiles onto an empty canvas once the toolsets are read, and whenever a plan
compiles, the ids that are drawn are the next ones of the supply: one for each task without an id of
use, in the order of the plan; one for the entity of each task, in the order of processing, which is
that of the entries, those without dependencies first; one for each node, in the same order; and one
for each edge. So no two nodes share their id or their entity id and no two edges their id, and a
canvas that is made next, from any plan, shares none of them either. -/
theorem ids_of_compile (start drawn : Nat) (input : PlanInput) (toolsets : ToolsetSource)
    (options : CompileOptions) :
    let supply := (Supply.countingFrom start).ahead drawn
    let tasks := (Outline.identifyAll input.outlines supply).1
    ((∃ entries, toolsets.entries = .ok entries) → options.startNodes = .arr [] →
      ∃ canvas rest, (compile input toolsets options).Returns supply canvas rest) ∧
    ∀ canvas rest, (compile input toolsets options).Returns supply canvas rest →
      rest = supply.ahead
        (input.nameless + 2 * input.outlines.length + canvas.edges.length) ∧
      (∀ place : Nat, tasks[place]? = input.outlines[place]?.map fun outline =>
        outline.orNamed
          (supply.upcoming ((input.outlines.take place).countP Outline.isNameless))) ∧
      List.Forall₂ (fun entry task => task.1 = { Outline.ofJson entry with id := task.1.id })
        (entriesInOrder input.entries) (ordered tasks) ∧
      canvas.nodes.map (fun node => node.data.getD "title") =
        (ordered tasks).map (fun task => .str task.1.title) ∧
      canvas.Draws input.nameless input.outlines.length supply rest ∧
      (canvas.nodes.map Node.id).Nodup ∧ (canvas.nodes.map Node.entityJson).Nodup ∧
      (canvas.edges.map Edge.id).Nodup ∧
      ∀ input' toolsets' options' canvas' rest',
        (compile input' toolsets' options').Returns rest canvas' rest' →
        (canvas.nodes.map Node.id).Disjoint (canvas'.nodes.map Node.id) ∧
        (canvas.nodes.map Node.entityJson).Disjoint (canvas'.nodes.map Node.entityJson) ∧
        (canvas.edges.map Edge.id).Disjoint (canvas'.edges.map Edge.id) := by
  intro supply tasks
  have fresh : Function.Injective supply.name := Supply.fresh_countingFrom start drawn
  constructor
  · rintro ⟨entries, readable⟩ bare
    exact exists_canvas readable bare input supply
  · intro canvas rest returned
    obtain ⟨draws, titles⟩ := draws_of_compile returned
    obtain ⟨nodes, entities, edges⟩ := draws.nodup fresh
    have named := Outline.getElem?_identifyAll input.outlines supply
    refine ⟨draws.rest, named, ordered_entries input supply, titles, draws, nodes, entities, edges,
      ?_⟩
    intro input' toolsets' options' canvas' rest' returned'
    exact draws.disjoint (draws_of_compile returned').1 fresh

/-- Of three tasks two share an id, and the one between them has none of use: the first one names
it by the id that it is given. One id of a task, three entities, three nodes and one edge make
eight, and in what is left of the supply there is no edge, for the name has changed. -/
theorem ids_of_compile_of_three :
    let input : PlanInput := .raw (.obj [("tasks", .arr [
      .obj [("id", .str "a"),
        ("dependentTasks", .arr [.str "task-00000000000000000000000000000001"])],
      .obj [("id", .int 5)], .obj [("id", .str "a")]])])
    let compiled := compile input (.parsed []) .standard
    ∃ canvas rest canvas' rest', compiled.Returns Supply.counting canvas rest ∧
      compiled.Returns rest canvas' rest' ∧ rest.drawn = 8 ∧ rest'.drawn = 15 ∧
      (canvas.nodes.map Node.id).Nodup ∧
      (canvas.nodes.map Node.id).Disjoint (canvas'.nodes.map Node.id) := by
  intro input compiled
  have bare : CompileOptions.standard.startNodes = .arr [] := rfl
  obtain ⟨canvas, rest, returned, one⟩ : ∃ canvas rest,
      compiled.Returns Supply.counting canvas rest ∧ canvas.edges.length = 1 :=
    ⟨_, _, rfl, rfl⟩
  obtain ⟨-, told⟩ := ids_of_compile 0 0 input (.parsed []) .standard
  obtain ⟨rfl, -, -, -, -, distinct, -, -, apart⟩ := told canvas rest returned
  rw [one] at returned apart
  obtain ⟨canvas', rest', returned', none⟩ : ∃ canvas' rest',
      compiled.Returns (Supply.counting.ahead 8) canvas' rest' ∧ canvas'.edges.length = 0 :=
    ⟨_, _, rfl, rfl⟩
  obtain ⟨-, told'⟩ := ids_of_compile 0 8 input (.parsed []) .standard
  obtain ⟨rfl, -⟩ := told' canvas' rest' returned'
  rw [none] at returned'
  exact ⟨canvas, _, canvas', _, returned, returned', rfl, rfl, distinct,
    (apart _ _ _ _ _ returned').1⟩

end Compilation

end PlanGraph
