import Mathlib.Data.List.Nodup
import PlanGraph.Compile.Compilation
import PlanGraph.Proofs.Outcome

/-!
# Runs of the compiler

Compiling goes through stages: ids, entity ids, the environment, nodes, links, edges. What each of
them came to is kept in a `Compilation.Run`, together with the proofs that it did, and a compilation
is returned exactly where there is such a run (`Compilation.ofOutlines_returns_iff`).

* Nodes are placed one after another, each one as the layout answers the request for it, which shows
  the nodes before it (`Compilation.Places`, `Compilation.place_returns_iff`, `Places.answers`).
* The tasks that are placed are those of the plan in the order of processing, each with its place in
  the plan (`Compilation.Run.map_entry`), and no place is taken twice (`Run.nodup_places`).
-/

namespace PlanGraph

/-! ## Lists in which a key occurs once -/

/-- Where no two items have the same key, an item is found by its key. -/
theorem find?_key_eq_some {α β : Type} [BEq β] [LawfulBEq β] {key : α → β} {items : List α}
    (distinct : (items.map key).Nodup) {item : α} (h : item ∈ items) :
    (items.find? fun other => key other == key item) = some item := by
  rcases hfound : items.find? fun other => key other == key item with _ | other
  · have none := List.find?_eq_none.mp hfound item h
    exact absurd (beq_self_eq_true _) none
  · have same : key other = key item := by simpa using List.find?_some hfound
    rw [List.inj_on_of_nodup_map distinct (List.mem_of_find?_eq_some hfound) h same]

namespace Compilation

/-! ## Placing -/

/-- Tasks are placed one after another, each as the layout answers the request for it. The request
shows the nodes that are on the canvas by then. -/
inductive Places (layout : Layout) (setting : Setting) :
    List Node → Nat → Supply → List PlacedTask → Supply → Prop where
  /-- No task is left. -/
  | nil {nodes : List Node} {index : Nat} {supply : Supply} :
      Places layout setting nodes index supply [] supply
  /-- The layout answers the request for the first task, and the others follow. -/
  | cons {nodes : List Node} {index : Nat} {supply between rest : Supply} {sketch : Sketch}
      {node : Node} {more : List PlacedTask}
      (answer : (layout index (sketch.request setting nodes index)).Returns supply node between)
      (later : Places layout setting (nodes ++ [node]) (index + 1) between more rest) :
      Places layout setting nodes index supply
        (⟨sketch, sketch.request setting nodes index, node⟩ :: more) rest

section placing

variable {layout : Layout} {setting : Setting} {nodes : List Node} {index : Nat}
  {supply rest : Supply} {placed : List PlacedTask}

/-- Sketches are placed exactly where each of them is, in order. -/
theorem place_returns_iff {sketches : List Sketch} :
    (place layout setting nodes index sketches).Returns supply placed rest ↔
      placed.map PlacedTask.sketch = sketches ∧
        Places layout setting nodes index supply placed rest := by
  induction sketches generalizing nodes index supply placed with
  | nil =>
      rw [place, Making.returns_pure_iff]
      constructor
      · rintro ⟨rfl, rfl⟩
        exact ⟨rfl, .nil⟩
      · rintro ⟨none, places⟩
        obtain rfl := List.map_eq_nil_iff.mp none
        cases places
        exact ⟨rfl, rfl⟩
  | cons sketch sketches ih =>
      simp only [place, Making.returns_bind_iff, Making.returns_pure_iff]
      constructor
      · rintro ⟨node, between, answer, more, _, run, rfl, rfl⟩
        obtain ⟨rfl, later⟩ := ih.mp run
        exact ⟨rfl, .cons answer later⟩
      · rintro ⟨sketched, places⟩
        cases places with
        | nil => cases sketched
        | cons answer later =>
            cases sketched
            exact ⟨_, _, answer, _, _, ih.mpr ⟨rfl, later⟩, rfl, rfl⟩

/-- Each node is what the layout answers to the request for its task, which shows all nodes that
were placed before. -/
theorem Places.answers (h : Places layout setting nodes index supply placed rest) {count : Nat}
    {task : PlacedTask} (found : placed[count]? = some task) :
    task.request = task.sketch.request setting
        (nodes ++ (placed.take count).map PlacedTask.node) (index + count) ∧
      ∃ before after, (layout (index + count) task.request).Returns before task.node after := by
  induction h generalizing count with
  | nil => cases found
  | @cons nodes index supply between rest sketch node more answer later ih =>
      rcases count with _ | count
      · cases found
        exact ⟨by simp, supply, between, answer⟩
      · obtain ⟨request, answers⟩ := ih found
        rw [Nat.add_assoc, Nat.add_comm 1 count] at request answers
        refine ⟨?_, answers⟩
        rw [request, List.take_succ_cons, List.map_cons, List.append_assoc, List.singleton_append]

end placing

/-! ## Stages -/

/-- The tasks with an id each, and what is left of the supply. -/
def identified (outlines : List Outline) (supply : Supply) : List Outline × Supply :=
  Outline.identifyAll outlines supply

/-- The entity ids of the tasks, and what is left of the supply. -/
def assigned (outlines : List Outline) (supply : Supply) : EntityAssignment × Supply :=
  assignEntityIds ((ordered (identified outlines supply).1).map (·.1.id))
    (identified outlines supply).2

/-- A run that compiles a list of tasks. -/
structure Run (layout : Layout) (outlines : List Outline) (toolsets : ToolsetSource)
    (options : CompileOptions) (supply : Supply) where
  /-- The toolsets of the environment. -/
  entries : List Json
  /-- The nodes that are on the canvas before. -/
  start : List Node
  /-- The tasks that were placed, in order. -/
  placed : List PlacedTask
  /-- What is left of the supply when all tasks are placed. -/
  between : Supply
  /-- The links that become edges. -/
  links : List Link
  /-- The toolsets could be read. -/
  entries_eq : toolsets.entries = .ok entries
  /-- The nodes on the canvas could be read. -/
  start_eq : Node.listOfJson options.startNodes = .ok start
  /-- Every task was placed once, in the order of processing. -/
  sketches_eq : placed.map PlacedTask.sketch =
    sketches (ordered (identified outlines supply).1) (assigned outlines supply).1.entityIds
  /-- The layout answered every request. -/
  places : Places layout
    ⟨(assigned outlines supply).1.symbols, entries, options.defaultModel, options.autoLayout⟩
    start 0 (assigned outlines supply).2 placed between
  /-- The links could be compared. -/
  links_eq : Link.kept (Link.among placed (identified outlines supply).1.length) = .ok links

namespace Run

variable {layout : Layout} {outlines : List Outline} {toolsets : ToolsetSource}
  {options : CompileOptions} {supply : Supply}

/-- What all nodes of a run share. -/
def setting (run : Run layout outlines toolsets options supply) : Setting :=
  ⟨(assigned outlines supply).1.symbols, run.entries, options.defaultModel, options.autoLayout⟩

/-- What a run returns. -/
def compilation (run : Run layout outlines toolsets options supply) (inputs : List Json) :
    Compilation :=
  ⟨⟨run.placed.map PlacedTask.node, (Link.drawEdges run.links run.between).1, inputs⟩,
    run.placed.map PlacedTask.request⟩

/-- What a run leaves of the supply. -/
def rest (run : Run layout outlines toolsets options supply) : Supply :=
  (Link.drawEdges run.links run.between).2

end Run

/-- A list of tasks is compiled exactly where there is a run that does it. -/
theorem ofOutlines_returns_iff {layout : Layout} {outlines : List Outline} {inputs : List Json}
    {toolsets : ToolsetSource} {options : CompileOptions} {supply rest : Supply}
    {compilation : Compilation} :
    (ofOutlines layout outlines inputs toolsets options).Returns supply compilation rest ↔
      ∃ run : Run layout outlines toolsets options supply,
        run.compilation inputs = compilation ∧ run.rest = rest := by
  simp only [ofOutlines, Making.returns_bind_iff, Making.returns_lift_iff,
    Making.returns_ofExcept_iff, Making.returns_pure_iff, place_returns_iff]
  constructor
  · rintro ⟨_, _, ⟨rfl, rfl⟩, _, _, ⟨rfl, rfl⟩, entries, _, ⟨readable, rfl⟩, start, _,
      ⟨known, rfl⟩, placed, between, ⟨sketched, places⟩, links, _, ⟨kept, rfl⟩, _, _, ⟨rfl, rfl⟩,
      rfl, rfl⟩
    exact ⟨⟨entries, start, placed, between, links, readable, known, sketched, places, kept⟩,
      rfl, rfl⟩
  · rintro ⟨run, rfl, rfl⟩
    exact ⟨_, _, ⟨rfl, rfl⟩, _, _, ⟨rfl, rfl⟩, _, _, ⟨run.entries_eq, rfl⟩, _, _,
      ⟨run.start_eq, rfl⟩, _, _, ⟨run.sketches_eq, run.places⟩, _, _, ⟨run.links_eq, rfl⟩, _, _,
      ⟨rfl, rfl⟩, rfl, rfl⟩

/-- A plan without tasks compiles to nothing, and one with tasks as their list does. -/
theorem ofPlan_returns_iff {layout : Layout} {input : PlanInput} {toolsets : ToolsetSource}
    {options : CompileOptions} {supply rest : Supply} {compilation : Compilation} :
    (ofPlan layout input toolsets options).Returns supply compilation rest ↔
      (input.outlines = [] ∧ empty = compilation ∧ supply = rest) ∨
        (input.outlines ≠ [] ∧ ∃ run : Run layout input.outlines toolsets options supply,
          run.compilation input.canvasInputs = compilation ∧ run.rest = rest) := by
  unfold ofPlan
  split
  · rename_i idle
    simp [idle]
  · rename_i busy
    have nonempty : input.outlines ≠ [] := busy
    rw [ofOutlines_returns_iff]
    simp [nonempty]

/-! ## The order of the tasks -/

end Compilation

/-- The outline of a placed task, and its place in the plan. -/
def PlacedTask.entry (task : PlacedTask) : Outline × Nat :=
  (task.sketch.outline, task.sketch.place)

/-- There is one entity id for each task id. -/
theorem length_drawEntityIds (taskIds : List String) (supply : Supply) :
    (drawEntityIds taskIds supply).1.length = taskIds.length := by
  induction taskIds generalizing supply with
  | nil => rfl
  | cons id rest ih =>
      change (drawEntityIds rest _).1.length + 1 = rest.length + 1
      rw [ih]

namespace Compilation

/-- The order of processing loses and repeats no task. -/
theorem ordered_perm (outlines : List Outline) : (ordered outlines).Perm outlines.zipIdx :=
  processingOrder_perm _ _

/-- Every task is processed once. -/
theorem length_ordered (outlines : List Outline) : (ordered outlines).length = outlines.length := by
  rw [(ordered_perm outlines).length_eq, List.length_zipIdx]

/-- Sketches are of the tasks they are made from, where there are entity ids for all of them. -/
theorem map_sketches {entries : List (Outline × Nat)} {entityIds : List String}
    (enough : entityIds.length = entries.length) :
    (sketches entries entityIds).map (fun sketch => (sketch.outline, sketch.place)) = entries := by
  induction entries generalizing entityIds with
  | nil => rfl
  | cons entry rest ih =>
      rcases entityIds with _ | ⟨entityId, more⟩
      · cases enough
      · have later := ih (Nat.succ.inj enough)
        exact congrArg (entry :: ·) later

namespace Run

variable {layout : Layout} {outlines : List Outline} {toolsets : ToolsetSource}
  {options : CompileOptions} {supply : Supply} (run : Run layout outlines toolsets options supply)

/-- The tasks that are placed are those of the plan, in the order of processing. -/
theorem map_entry : run.placed.map PlacedTask.entry = ordered (identified outlines supply).1 := by
  have enough : (assigned outlines supply).1.entityIds.length =
      (ordered (identified outlines supply).1).length :=
    (length_drawEntityIds _ _).trans (List.length_map _)
  rw [← map_sketches enough, ← run.sketches_eq, List.map_map]
  rfl

/-- No two tasks have the same place in the plan. -/
theorem nodup_places : (run.placed.map fun task => task.sketch.place).Nodup := by
  have places : (run.placed.map fun task => task.sketch.place) =
      (ordered (identified outlines supply).1).map Prod.snd := by
    rw [← run.map_entry, List.map_map]
    rfl
  rw [places, ((ordered_perm _).map Prod.snd).nodup_iff]
  rw [List.zipIdx_map_snd]
  exact List.nodup_range'

/-- A placed task is found by its place in the plan. -/
theorem find?_place {task : PlacedTask} (h : task ∈ run.placed) :
    (run.placed.find? fun other => other.sketch.place == task.sketch.place) = some task :=
  find?_key_eq_some run.nodup_places h

/-- Brought back to the order of the plan, the tasks are those of the plan. -/
theorem map_entry_inPlanOrder :
    (PlacedTask.inPlanOrder run.placed (identified outlines supply).1.length).map
        PlacedTask.entry = (identified outlines supply).1.zipIdx := by
  have places : List.range (identified outlines supply).1.length =
      (identified outlines supply).1.zipIdx.map Prod.snd := by
    rw [List.zipIdx_map_snd, List.range_eq_range']
  have found : ∀ entry ∈ (identified outlines supply).1.zipIdx,
      (run.placed.find? fun task => task.sketch.place == entry.2).map PlacedTask.entry =
        some entry := by
    intro entry hentry
    have listed := (ordered_perm _).symm.mem_iff.mp hentry
    rw [← run.map_entry] at listed
    obtain ⟨task, htask, rfl⟩ := List.mem_map.mp listed
    exact congrArg (Option.map PlacedTask.entry) (run.find?_place htask)
  rw [PlacedTask.inPlanOrder, places, List.map_filterMap, List.filterMap_map]
  exact (List.filterMap_congr found).trans List.filterMap_some

end Run

end Compilation

end PlanGraph
