import PlanGraph.Proofs.Compile.Totality

/-!
# Layout decides on positions only

Whether positions are left to the layout, and which nodes are on the canvas before, is nothing that
a compiled plan shows except in the positions of its nodes (`Compilation.unplaced_of_compile`). The
nodes from before carry types, entity ids and positions of any kind, and the grid compares them with
those of the new nodes; but what it finds it puts into positions.

Two runs with one supply give each task the same sketch and, up to its position, the same node
(`Run.unplaced_eq`). Links are found from sketches and node ids (`Link.among_congr`), so the same
edges are drawn.
-/

namespace PlanGraph

/-! ## What is left without positions -/

/-- The node without its position. -/
def Node.unplaced (node : Node) : Node :=
  { node with position := none }

/-- The canvas without the positions of its nodes. -/
def Canvas.unplaced (canvas : Canvas) : Canvas :=
  { canvas with nodes := canvas.nodes.map Node.unplaced }

/-- Nodes that differ in nothing but positions have one id. -/
theorem Node.id_eq_of_unplaced {node other : Node} (same : node.unplaced = other.unplaced) :
    node.id = other.id := by
  have ids := congrArg Node.id same
  exact ids

/-- A node is told by its position and the rest of it. -/
theorem Node.eq_of_unplaced {node other : Node} (same : node.unplaced = other.unplaced)
    (placed : node.position = other.position) : node = other := by
  obtain ⟨id, type, data, position, selected⟩ := node
  obtain ⟨id', type', data', position', selected'⟩ := other
  simp only [Node.unplaced, Node.mk.injEq] at same placed ⊢
  exact ⟨same.1, same.2.1, same.2.2.1, placed, same.2.2.2.2⟩

/-! ## Links -/

/-- What links are found from: the sketch of a task and the id of its node. -/
def PlacedTask.ends (task : PlacedTask) : Sketch × Json :=
  (task.sketch, task.node.id)

section links

variable {placed placed' : List PlacedTask}

/-- A task that is found by its sketch is found in both lists. -/
theorem PlacedTask.find?_congr (same : placed.map ends = placed'.map ends) (meant : Sketch → Bool) :
    (placed.find? fun task => meant task.sketch).map ends =
      (placed'.find? fun task => meant task.sketch).map ends := by
  have found : ∀ tasks : List PlacedTask, (tasks.find? fun task => meant task.sketch).map ends =
      (tasks.map ends).find? fun task => meant task.1 := by
    intro tasks
    rw [List.find?_map]
    rfl
  rw [found, found, same]

/-- A dependency names the same node in both lists. -/
theorem PlacedTask.nodeId?_congr (same : placed.map ends = placed'.map ends) (taskId : String) :
    nodeId? placed taskId = nodeId? placed' taskId := by
  have found := find?_congr same fun sketch => sketch.outline.id == taskId
  have ids := congrArg (Option.map Prod.snd) found
  rw [Option.map_map, Option.map_map] at ids
  exact congrArg (Option.filter (· ≠ .null)) ids

/-- Links depend on nothing but the sketches and the ids of nodes. -/
theorem Link.among_congr (same : placed.map PlacedTask.ends = placed'.map PlacedTask.ends)
    (count : Nat) : among placed count = among placed' count := by
  have ordered : (PlacedTask.inPlanOrder placed count).map PlacedTask.ends =
      (PlacedTask.inPlanOrder placed' count).map PlacedTask.ends := by
    rw [PlacedTask.inPlanOrder, PlacedTask.inPlanOrder, List.map_filterMap, List.map_filterMap]
    exact List.filterMap_congr fun place _ =>
      PlacedTask.find?_congr same fun sketch => sketch.place == place
  have links : ∀ tasks, (PlacedTask.inPlanOrder tasks count).flatMap (into tasks) =
      ((PlacedTask.inPlanOrder tasks count).map PlacedTask.ends).flatMap fun task =>
        task.1.outline.dependencies.filterMap fun dependency =>
          (PlacedTask.nodeId? tasks dependency).map fun source => ⟨source, task.2⟩ := by
    intro tasks
    rw [List.flatMap_map]
    rfl
  rw [among, among, links, links, ordered]
  simp only [PlacedTask.nodeId?_congr same]

end links

namespace Compilation

/-! ## Two runs with one supply -/

/-- What a task becomes at a position does not depend on who decides on positions. -/
theorem unplaced_settled (setting : Setting) (autoLayout : Bool) (index : Nat) (sketch : Sketch)
    (spot spot' : Json) (id : String) :
    (sketch.settled { setting with autoLayout } index spot id).unplaced =
      (sketch.settled setting index spot' id).unplaced := rfl

namespace Run

variable {outlines : List Outline} {toolsets : ToolsetSource} {model : Json}
  {autoLayout autoLayout' : Bool} {start start' : Json} {supply : Supply}
  (run : Run Grid.layout outlines toolsets ⟨autoLayout, model, start⟩ supply)
  (run' : Run Grid.layout outlines toolsets ⟨autoLayout', model, start'⟩ supply)

/-- Both runs place the same sketches. -/
theorem sketches_congr : run.placed.map PlacedTask.sketch = run'.placed.map PlacedTask.sketch :=
  run.sketches_eq.trans run'.sketches_eq.symm

/-- The runs share everything but who decides on positions. -/
theorem setting_congr : run'.setting = { run.setting with autoLayout := autoLayout' } := by
  have entries : run'.entries = run.entries :=
    Except.ok.inj (run'.entries_eq.symm.trans run.entries_eq)
  rw [setting, setting, entries]

/-- Up to its position, each task has become the same node. -/
theorem node_congr {count : Nat} {task task' : PlacedTask} (found : run.placed[count]? = some task)
    (found' : run'.placed[count]? = some task') :
    task.sketch = task'.sketch ∧ task.node.unplaced = task'.node.unplaced := by
  have sketch : some task.sketch = some task'.sketch := by
    have listed := congrArg (·[count]?) (run.sketches_congr run')
    simpa only [List.getElem?_map, found, found', Option.map_some] using listed
  have sketch := Option.some.inj sketch
  obtain ⟨spot, -, made⟩ := run.settled found
  obtain ⟨spot', -, made'⟩ := run'.settled found'
  refine ⟨sketch, ?_⟩
  rw [made, made', run.setting_congr run', sketch]
  exact (unplaced_settled _ _ _ _ _ _ _).symm

/-- What is the same of any two tasks with one number is the same of all tasks. -/
theorem map_placed_congr {α : Type} {f : PlacedTask → α}
    (each : ∀ (count : Nat) (task task' : PlacedTask), run.placed[count]? = some task →
      run'.placed[count]? = some task' → f task = f task') :
    run.placed.map f = run'.placed.map f := by
  have lengths : (run.placed.map f).length = (run'.placed.map f).length := by
    rw [List.length_map, List.length_map, run.length_placed, run'.length_placed]
  refine List.ext_getElem lengths fun count inside inside' => ?_
  rw [List.length_map] at inside inside'
  rw [List.getElem_map, List.getElem_map]
  exact each count _ _ (List.getElem?_eq_getElem inside) (List.getElem?_eq_getElem inside')

/-- Both runs keep the same links. -/
theorem links_congr : run.links = run'.links := by
  have ends : run.placed.map PlacedTask.ends = run'.placed.map PlacedTask.ends := by
    refine run.map_placed_congr run' fun count task task' found found' => ?_
    obtain ⟨sketch, node⟩ := run.node_congr run' found found'
    rw [PlacedTask.ends, PlacedTask.ends, sketch, Node.id_eq_of_unplaced node]
  have kept := run'.links_eq
  rw [← Link.among_congr ends] at kept
  exact Except.ok.inj (run.links_eq.symm.trans kept)

/-- Both runs leave the same of the supply before edges are drawn. -/
theorem between_congr : run.between = run'.between :=
  run.between_eq.trans run'.between_eq.symm

/-- Up to positions, both runs give the same canvas. -/
theorem unplaced_eq (inputs : List Json) :
    (run.compilation inputs).canvas.unplaced = (run'.compilation inputs).canvas.unplaced := by
  have nodes : (run.placed.map PlacedTask.node).map Node.unplaced =
      (run'.placed.map PlacedTask.node).map Node.unplaced := by
    rw [List.map_map, List.map_map]
    exact run.map_placed_congr run' fun count task task' found found' =>
      (run.node_congr run' found found').2
  change Canvas.mk ((run.placed.map PlacedTask.node).map Node.unplaced)
    (Link.drawEdges run.links run.between).1 inputs = _
  rw [nodes, run.links_congr run', run.between_congr run']
  rfl

/-- Both runs leave the same of the supply. -/
theorem rest_congr : run.rest = run'.rest := by
  rw [rest, rest, run.links_congr run', run.between_congr run']

end Run

/-- In the column, both runs give the same canvas. -/
theorem Run.canvas_congr {outlines : List Outline} {toolsets : ToolsetSource} {model : Json}
    {start start' : Json} {supply : Supply}
    (run : Run Grid.layout outlines toolsets ⟨false, model, start⟩ supply)
    (run' : Run Grid.layout outlines toolsets ⟨false, model, start'⟩ supply) (inputs : List Json) :
    (run.compilation inputs).canvas = (run'.compilation inputs).canvas := by
  have nodes : run.placed.map PlacedTask.node = run'.placed.map PlacedTask.node := by
    refine run.map_placed_congr run' fun count task task' found found' => ?_
    have position : task.node.position = task'.node.position := by
      rw [run.position_eq rfl found, run'.position_eq rfl found']
    exact Node.eq_of_unplaced (run.node_congr run' found found').2 position
  change Canvas.mk (run.placed.map PlacedTask.node)
    (Link.drawEdges run.links run.between).1 inputs = _
  rw [nodes, run.links_congr run', run.between_congr run']
  rfl

/-! ## Compiling in two ways -/

/-- **Layout decides on positions only.** Where a plan is compiled with one supply of ids, but
positions may be left to the layout in one case and not in the other, and any nodes may be on the
canvas before, the two canvases differ in the positions of their nodes at most, and the same ids are
drawn. Where positions are not left to the layout, the nodes from before make no difference at
all. -/
theorem unplaced_of_compile (input : PlanInput) (toolsets : ToolsetSource) (model : Json)
    (autoLayout autoLayout' : Bool) (start start' : Json) {supply rest rest' : Supply}
    {canvas canvas' : Canvas}
    (returned : (compile input toolsets ⟨autoLayout, model, start⟩).Returns supply canvas rest)
    (returned' : (compile input toolsets ⟨autoLayout', model, start'⟩).Returns supply canvas'
      rest') :
    canvas.unplaced = canvas'.unplaced ∧ rest = rest' ∧
      (autoLayout = false → autoLayout' = false → canvas = canvas') := by
  rcases compile_returns_iff.mp returned with ⟨idle, rfl, rfl⟩ | ⟨busy, run, rfl, rfl⟩
  · rcases compile_returns_iff.mp returned' with ⟨-, rfl, rfl⟩ | ⟨busy, -⟩
    · exact ⟨rfl, rfl, fun _ _ => rfl⟩
    · exact absurd idle busy
  · rcases compile_returns_iff.mp returned' with ⟨idle, -⟩ | ⟨-, run', rfl, rfl⟩
    · exact absurd idle busy
    · refine ⟨run.unplaced_eq run' _, run.rest_congr run', ?_⟩
      rintro rfl rfl
      exact run.canvas_congr run' _

/-- On the grid, a node from before has the entity id that the first task is given, and with it
feeds the second one; without it the tasks stand elsewhere, and nothing else is different. -/
theorem unplaced_of_compile_of_borrowed :
    let input : PlanInput := .raw (.obj [("tasks", .arr [
      .obj [("id", .str "a"), ("dependentTasks", .arr [.str "b"])], .obj [("id", .str "b")]])])
    let borrowed : Json := .arr [.obj [("id", .str "s"), ("type", .str "skillResponse"),
      ("data", .obj [("entityId", .str "ar-00000000000000000000000000000001")]),
      ("position", .obj [("x", .int 1000), ("y", .int 5)])]]
    ∃ canvas canvas' rest rest',
      (compile input (.parsed []) ⟨true, .null, borrowed⟩).Returns .counting canvas rest ∧
      (compile input (.parsed []) ⟨false, .null, .arr []⟩).Returns .counting canvas' rest' ∧
      canvas.nodes.map Node.position = [some Grid.corner,
        some (.obj [("x", .int 1400), ("y", Grid.origin)])] ∧
      canvas'.nodes.map Node.position = [some (Sketch.stacked 0), some (Sketch.stacked 1)] ∧
      canvas.unplaced = canvas'.unplaced ∧ canvas.edges.length = 1 := by
  intro input borrowed
  have shown : ((compile input (.parsed []) ⟨true, .null, borrowed⟩).outcome
      .counting).1.toOption.map (fun canvas => (canvas.nodes.map Node.position,
        canvas.edges.length)) =
      some ([some Grid.corner, some (.obj [("x", .int 1400), ("y", Grid.origin)])], 1) := by
    decide +kernel
  obtain ⟨canvas, rest, returned, seen⟩ := Making.exists_returns_of_part _ _ _ shown
  obtain ⟨positions, edges⟩ := Prod.mk.inj seen
  obtain ⟨canvas', rest', returned', positions'⟩ : ∃ canvas' rest',
      (compile input (.parsed []) ⟨false, .null, .arr []⟩).Returns .counting canvas' rest' ∧
      canvas'.nodes.map Node.position = [some (Sketch.stacked 0), some (Sketch.stacked 1)] :=
    ⟨_, _, rfl, rfl⟩
  obtain ⟨same, -⟩ := unplaced_of_compile _ _ _ _ _ _ _ returned returned'
  exact ⟨canvas, canvas', rest, rest', returned, returned', positions, positions', same, edges⟩

end Compilation

end PlanGraph
