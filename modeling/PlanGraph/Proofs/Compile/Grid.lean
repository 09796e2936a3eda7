import PlanGraph.Proofs.Canvas.Placement
import PlanGraph.Proofs.Compile.Edges
import PlanGraph.Proofs.Compile.Ids

/-!
# Nodes on the grid

What the grid answers to the requests of a run. It keeps the payload of a node as it is, draws the
id of the node and nothing else, and settles a position (`Grid.layout_returns_iff`). Where all nodes
stand at coordinates that are numbers, there is a free place, and its coordinates are numbers again
(`Grid.freePlace_total`); so tasks are placed among such nodes, and on an empty canvas, without any
fault (`Compilation.exists_places`), and each node of a run is its task at a position and with the
id that was drawn for it (`Compilation.Run.settled`).
-/

namespace PlanGraph

/-! ## Numbers -/

namespace Json

/-- The value is a number. -/
def IsNumber (value : Json) : Prop :=
  ∃ n, value.number? = some n

/-- A number that is written as a value is one. -/
theorem isNumber_ofNumber (n : Number) : (ofNumber n).IsNumber := by
  rcases n with n | x
  · exact ⟨.whole n, rfl⟩
  · exact ⟨.real x, rfl⟩

/-- Two numbers have an order. -/
theorem less?_of_isNumber {a b : Json} (ha : a.IsNumber) (hb : b.IsNumber) :
    ∃ before, a.less? b = some before := by
  obtain ⟨m, hm⟩ := ha
  obtain ⟨n, hn⟩ := hb
  refine ⟨m.less n, ?_⟩
  cases a <;> cases hm <;> cases b <;> cases hn <;> rfl

end Json

namespace Grid

/-- One of two numbers is the larger one. -/
theorem larger_total {a b : Json} (ha : a.IsNumber) (hb : b.IsNumber) :
    ∃ most, larger a b = .ok most ∧ most.IsNumber := by
  obtain ⟨before, compared⟩ := Json.less?_of_isNumber ha hb
  rw [larger, compared]
  cases before with
  | true => exact ⟨b, rfl, hb⟩
  | false => exact ⟨a, rfl, ha⟩

/-- A number can be moved. -/
theorem move_total {value : Json} (h : value.IsNumber) (distance : Int) :
    ∃ moved, move value distance = .ok moved ∧ moved.IsNumber := by
  obtain ⟨n, same⟩ := h
  refine ⟨.ofNumber (n.addInt distance), ?_, Json.isNumber_ofNumber _⟩
  rw [move, same]

end Grid

/-! ## Free places -/

/-- The coordinates of the node are numbers, where it has a position; a missing one counts as
zero. -/
def Node.Stands (node : Node) : Prop :=
  ∀ position, node.position = some position → ∃ members, position = .obj members ∧
    ((Json.member? "x" members).getD (.int 0)).IsNumber ∧
    ((Json.member? "y" members).getD (.int 0)).IsNumber

namespace Grid

/-- A node that stands is in a column. -/
theorem sourceColumn_total {node : Node} (h : node.Stands) :
    ∃ x, sourceColumn node = .ok x ∧ x.IsNumber := by
  rcases placed : node.position with _ | position
  · refine ⟨.int 0, ?_, _, rfl⟩
    rw [sourceColumn, placed]
    rfl
  · obtain ⟨members, rfl, hx, -⟩ := h position placed
    refine ⟨_, ?_, hx⟩
    rw [sourceColumn, placed]
    rcases members with _ | ⟨first, more⟩
    · rfl
    · rfl

theorem widestColumn_total {best : Json} {nodes : List Node} (hbest : best.IsNumber)
    (stand : ∀ node ∈ nodes, node.Stands) :
    ∃ widest, widestColumn best nodes = .ok widest ∧ widest.IsNumber := by
  induction nodes generalizing best with
  | nil => exact ⟨best, rfl, hbest⟩
  | cons node rest ih =>
      obtain ⟨x, column, hx⟩ := sourceColumn_total (stand node List.mem_cons_self)
      obtain ⟨most, larger, hmost⟩ := larger_total hbest hx
      obtain ⟨widest, found, hwidest⟩ :=
        ih hmost fun other hother => stand other (List.mem_cons_of_mem _ hother)
      refine ⟨widest, ?_, hwidest⟩
      rw [widestColumn, column, ok_bind, larger, ok_bind, found]

/-- There is a column for every new node. -/
theorem column_total {sources : List Node} (stand : ∀ node ∈ sources, node.Stands) :
    ∃ x, column sources = .ok x ∧ x.IsNumber := by
  rcases sources with _ | ⟨node, rest⟩
  · exact ⟨origin, rfl, _, rfl⟩
  · obtain ⟨first, found, hfirst⟩ := sourceColumn_total (stand node List.mem_cons_self)
    obtain ⟨widest, wide, hwidest⟩ := widestColumn_total hfirst
      fun other hother => stand other (List.mem_cons_of_mem _ hother)
    obtain ⟨x, moved, hx⟩ := move_total hwidest columnWidth
    refine ⟨x, ?_, hx⟩
    rw [column, found, ok_bind, wide, ok_bind, moved]

/-- The rows of the nodes of a column are numbers. -/
theorem rowsIn_total (column : Json) {existing : List Node}
    (stand : ∀ node ∈ existing, node.Stands) :
    ∃ rows, rowsIn column existing = .ok rows ∧ ∀ row ∈ rows, row.IsNumber := by
  induction existing with
  | nil => exact ⟨[], rfl, by simp⟩
  | cons node rest ih =>
      obtain ⟨rows, found, hrows⟩ :=
        ih fun other hother => stand other (List.mem_cons_of_mem _ hother)
      rcases placed : node.position with _ | position
      · refine ⟨rows, ?_, hrows⟩
        rw [rowsIn, placed, found]
      · obtain ⟨members, rfl, -, hy⟩ := stand node List.mem_cons_self position placed
        obtain ⟨y, hy, same⟩ : ∃ y : Json, y.IsNumber ∧
            (Json.member? "y" members).getD (.int 0) = y := ⟨_, hy, rfl⟩
        have step : rowsIn column (node :: rest) =
            if ((Json.member? "x" members).getD (.int 0)).same column then .ok (y :: rows)
            else .ok rows := by
          rw [rowsIn, placed, found, ← same]
          rfl
        rw [step]
        split
        · exact ⟨y :: rows, rfl, List.forall_mem_cons.mpr ⟨hy, hrows⟩⟩
        · exact ⟨rows, rfl, hrows⟩

/-- There is a row below some rows. -/
theorem row_total {rows : List Json} (numbers : ∀ row ∈ rows, row.IsNumber) :
    ∃ y, row rows = .ok y ∧ y.IsNumber := by
  have lowest : ∀ {first : Json} {rest : List Json}, first.IsNumber →
      (∀ row ∈ rest, row.IsNumber) →
      ∃ last, rest.foldlM larger first = .ok last ∧ last.IsNumber := by
    intro first rest hfirst hrest
    induction rest generalizing first with
    | nil => exact ⟨first, rfl, hfirst⟩
    | cons next rest ih =>
        obtain ⟨most, larger, hmost⟩ := larger_total hfirst (hrest next List.mem_cons_self)
        rw [List.foldlM_cons, larger, ok_bind]
        exact ih hmost fun other hother => hrest other (List.mem_cons_of_mem _ hother)
  rcases rows with _ | ⟨first, rest⟩
  · exact ⟨origin, rfl, _, rfl⟩
  · obtain ⟨last, found, hlast⟩ := lowest (numbers first List.mem_cons_self)
      fun other hother => numbers other (List.mem_cons_of_mem _ hother)
    obtain ⟨y, moved, hy⟩ := move_total hlast rowHeight
    refine ⟨y, ?_, hy⟩
    rw [row, found, ok_bind, moved]

/-- Where all nodes stand, there is a free place to stand at. -/
theorem freePlace_total {existing sources : List Node} (stand : ∀ node ∈ existing, node.Stands)
    (feed : ∀ node ∈ sources, node.Stands) :
    ∃ x y, freePlace existing sources = .ok (.obj [("x", x), ("y", y)]) ∧
      x.IsNumber ∧ y.IsNumber := by
  obtain ⟨x, hcolumn, hx⟩ := column_total feed
  obtain ⟨rows, hrows, numbers⟩ := rowsIn_total x stand
  obtain ⟨y, hrow, hy⟩ := row_total numbers
  refine ⟨x, y, ?_, hx, hy⟩
  rw [freePlace, hcolumn, ok_bind, hrows, ok_bind, hrow]
  rfl

/-! ## Nodes that feed a new one -/

end Grid

/-- The filter picks a node that has its type and its entity id. -/
def NodeFilter.picks (filter : NodeFilter) (node : Node) : Bool :=
  node.type.same filter.type && ((node.data.get? "entityId").getD .null).same filter.entityId

/-- A node with a payload is selected when it is picked. -/
theorem NodeFilter.selects_eq {filter : NodeFilter} {node : Node}
    (payload : node.data.isObject = true) : filter.selects node = .ok (filter.picks node) := by
  obtain ⟨id, type, data, position, selected⟩ := node
  cases data with
  | obj members =>
      rw [selects, picks]
      split
      · rename_i same
        rw [same, Bool.true_and]
        rfl
      · rename_i other
        simp [other]
  | _ => cases payload

namespace Grid

/-- Where all nodes have a payload, those are selected that are picked. -/
theorem selected_eq {filter : NodeFilter} {nodes : List Node}
    (payloads : ∀ node ∈ nodes, node.data.isObject = true) :
    selected filter nodes = .ok (nodes.filter filter.picks) := by
  induction nodes with
  | nil => rfl
  | cons node rest ih =>
      have later := ih fun other hother => payloads other (List.mem_cons_of_mem _ hother)
      rw [selected, NodeFilter.selects_eq (payloads node List.mem_cons_self), ok_bind, later,
        List.filter_cons]
      split
      · rfl
      · rfl

/-- The nodes that feed a new one are those that its filters pick, filter by filter. -/
theorem sources_eq {nodes : List Node} {filters : List NodeFilter}
    (payloads : ∀ node ∈ nodes, node.data.isObject = true)
    (feed : ∀ filter ∈ filters, filter.handle = NodeFilter.sourceHandle) :
    sources nodes filters = .ok (filters.flatMap fun filter => nodes.filter filter.picks) := by
  induction filters with
  | nil => rfl
  | cons filter rest ih =>
      have later := ih fun other hother => feed other (List.mem_cons_of_mem _ hother)
      rw [sources, if_pos (feed filter List.mem_cons_self), selected_eq payloads, ok_bind, later]
      rfl

end Grid

namespace Sketch

/-- A task is connected with the nodes that feed its own. -/
theorem handle_of_mem_connections {setting : Setting} {sketch : Sketch} {filter : NodeFilter}
    (h : filter ∈ sketch.connections setting) : filter.handle = NodeFilter.sourceHandle := by
  obtain ⟨dependency, -, asked⟩ := List.mem_filterMap.mp h
  rw [connection?, Option.ite_none_left_eq_some, Option.map_eq_some_iff] at asked
  obtain ⟨-, entityId, -, rfl⟩ := asked
  rfl

/-- The node of a task, at a position and with an id. -/
def settled (setting : Setting) (index : Nat) (sketch : Sketch) (position : Json) (id : String) :
    Node :=
  { sketch.node setting index with id := .str ("node-" ++ id), position := some position }

end Sketch

namespace Grid

/-! ## Answers -/

/-- The position that is settled for a task: in the column where positions are not left to the
layout, and free otherwise. -/
theorem position_request {setting : Setting} {nodes : List Node} {index : Nat} {sketch : Sketch}
    (payloads : ∀ node ∈ nodes, node.data.isObject = true) :
    position (sketch.request setting nodes index) =
      if setting.autoLayout then
        freePlace nodes
          ((sketch.connections setting).flatMap fun filter => nodes.filter filter.picks)
      else .ok (Sketch.stacked index) := by
  unfold position Sketch.request Sketch.node
  rcases setting.autoLayout with _ | _
  · rfl
  · simp only [if_true]
    rw [sources_eq payloads fun filter => Sketch.handle_of_mem_connections, ok_bind]

/-- Once its position is settled, a node with a title and an entity id is given the next id, and
nothing else is changed or drawn. -/
theorem outcome_place {request : Placing} {members : List (String × Json)} {title spot : Json}
    {entityId : String} (bare : request.node.id = .str "")
    (payload : request.node.data = .obj members)
    (titled : Json.member? "title" members = some title)
    (entity : Json.member? "entityId" members = some (.str entityId)) (named : entityId ≠ "")
    (settles : position request = .ok spot) (supply : Supply) :
    (place request).outcome supply =
      (.ok { request.node with id := .str ("node-" ++ supply.upcoming 0), position := some spot },
        supply.ahead 1) := by
  have counts : ((Json.member? "entityId" members).getD .null).truthy = true := by
    simpa [entity, Json.truthy] using named
  have kept : withEntity (withTitle members) (supply.ahead 1) = (members, supply.ahead 1) := by
    rw [withTitle_eq titled, withEntity_eq counts]
  unfold place
  rw [settles, bare, payload]
  change (Except.ok { request.node with
      id := .str ("node-" ++ supply.upcoming 0)
      position := some spot
      data := .obj (withEntity (withTitle members) (supply.ahead 1)).1 },
    (withEntity (withTitle members) (supply.ahead 1)).2) = _
  rw [kept, ← payload]

/-- The grid settles a position and draws the id of the node. -/
theorem layout_returns_iff {setting : Setting} {nodes : List Node} {index : Nat} {sketch : Sketch}
    {supply rest : Supply} {node : Node} (named : sketch.entityId ≠ "") :
    (layout index (sketch.request setting nodes index)).Returns supply node rest ↔
      ∃ spot, position (sketch.request setting nodes index) = .ok spot ∧
        sketch.settled setting index spot (supply.upcoming 0) = node ∧ supply.ahead 1 = rest := by
  constructor
  · intro returned
    obtain ⟨spot, _, settles, -⟩ := Making.returns_bind_iff.mp returned
    obtain ⟨settles, -⟩ := Making.returns_ofExcept_iff.mp settles
    rw [Making.Returns, layout, outcome_place rfl rfl rfl rfl named settles] at returned
    cases returned
    exact ⟨spot, settles, rfl, rfl⟩
  · rintro ⟨spot, settles, rfl, rfl⟩
    exact outcome_place rfl rfl rfl rfl named settles supply

/-- Nodes that a new one can be placed among: where positions are left to the layout, they stand
and have a payload. -/
def Open (autoLayout : Bool) (nodes : List Node) : Prop :=
  autoLayout = true → ∀ node ∈ nodes, node.Stands ∧ node.data.isObject = true

/-- In the column, the position of a task is told by its number. -/
theorem position_of_column {setting : Setting} (column : setting.autoLayout = false)
    (nodes : List Node) (index : Nat) (sketch : Sketch) :
    position (sketch.request setting nodes index) = .ok (Sketch.stacked index) := by
  unfold position Sketch.request Sketch.node
  simp only [column]
  rfl

/-- Among such nodes, the node of a task is given a place to stand at. -/
theorem position_total {setting : Setting} {nodes : List Node}
    (free : Open setting.autoLayout nodes) (index : Nat) (sketch : Sketch) :
    ∃ x y, position (sketch.request setting nodes index) = .ok (.obj [("x", x), ("y", y)]) ∧
      x.IsNumber ∧ y.IsNumber := by
  rcases left : setting.autoLayout with _ | _
  · exact ⟨_, _, position_of_column left nodes index sketch, ⟨_, rfl⟩, ⟨_, rfl⟩⟩
  · have payloads : ∀ node ∈ nodes, node.data.isObject = true := fun node h => (free left node h).2
    rw [position_request payloads, if_pos left]
    refine freePlace_total (fun node h => (free left node h).1) ?_
    intro node hnode
    obtain ⟨filter, -, picked⟩ := List.mem_flatMap.mp hnode
    exact (free left node (List.mem_filter.mp picked).1).1

end Grid

namespace Compilation

/-! ## Placing on the grid -/

/-- Among nodes that allow it, tasks are placed without a fault, and each draws one id. -/
theorem exists_places (setting : Setting) (index : Nat) {nodes : List Node}
    {sketches : List Sketch} (named : ∀ sketch ∈ sketches, sketch.entityId ≠ "")
    (free : Grid.Open setting.autoLayout nodes) (supply : Supply) :
    ∃ placed, placed.map PlacedTask.sketch = sketches ∧
      Places Grid.layout setting nodes index supply placed (supply.ahead sketches.length) := by
  induction sketches generalizing nodes index supply with
  | nil => exact ⟨[], rfl, .nil⟩
  | cons sketch rest ih =>
      obtain ⟨x, y, settles, hx, hy⟩ := Grid.position_total free index sketch
      obtain ⟨node, made⟩ : ∃ node, sketch.settled setting index (.obj [("x", x), ("y", y)])
          (supply.upcoming 0) = node := ⟨_, rfl⟩
      -- the new node stands, too, so the induction goes on with it on the canvas
      have stillFree : Grid.Open setting.autoLayout (nodes ++ [node]) := by
        intro left
        refine List.forall_mem_append.mpr ⟨free left, List.forall_mem_singleton.mpr ?_⟩
        rw [← made]
        refine ⟨?_, rfl⟩
        intro position placed
        cases placed
        exact ⟨_, rfl, hx, hy⟩
      have answer : (Grid.layout index (sketch.request setting nodes index)).Returns supply node
          (supply.ahead 1) :=
        (Grid.layout_returns_iff (named sketch List.mem_cons_self)).mpr ⟨_, settles, made, rfl⟩
      obtain ⟨placed, sketched, later⟩ : ∃ placed, placed.map PlacedTask.sketch = rest ∧
          Places Grid.layout setting (nodes ++ [node]) (index + 1) (supply.ahead 1) placed
            ((supply.ahead 1).ahead rest.length) :=
        ih (index + 1) (fun other hother => named other (List.mem_cons_of_mem _ hother))
          stillFree _
      have places := Places.cons answer later
      rw [Supply.ahead_ahead, Nat.add_comm, ← List.length_cons (a := sketch)] at places
      refine ⟨_, ?_, places⟩
      rw [List.map_cons, sketched]

/-- Each task has become its own node, with the id that was drawn for it. -/
theorem Places.settled {setting : Setting} {nodes : List Node} {index : Nat}
    {supply rest : Supply} {placed : List PlacedTask}
    (h : Places Grid.layout setting nodes index supply placed rest)
    (named : ∀ task ∈ placed, task.sketch.entityId ≠ "") :
    (∀ (count : Nat) (task : PlacedTask), placed[count]? = some task →
      ∃ spot, Grid.position task.request = .ok spot ∧
        task.node = task.sketch.settled setting (index + count) spot (supply.upcoming count)) ∧
      rest = supply.ahead placed.length := by
  induction h with
  | nil => exact ⟨fun count task found => by simp at found, rfl⟩
  | @cons nodes index supply between rest sketch node more answer later ih =>
      obtain ⟨spot, settles, made, rfl⟩ :=
        (Grid.layout_returns_iff (named _ List.mem_cons_self)).mp answer
      obtain ⟨others, left⟩ := ih fun task htask => named task (List.mem_cons_of_mem _ htask)
      constructor
      · intro count task found
        rcases count with _ | count
        · cases found
          exact ⟨spot, settles, made.symm⟩
        · obtain ⟨spot, settles, made⟩ := others count task found
          refine ⟨spot, settles, ?_⟩
          rw [made, Supply.upcoming_ahead, Nat.add_assoc, Nat.add_comm 1 count]
      · rw [left, Supply.ahead_ahead, List.length_cons, Nat.add_comm]

/-! ## Runs on the grid -/

variable {outlines : List Outline} {toolsets : ToolsetSource} {options : CompileOptions}
  {supply : Supply}

/-- Every task has an entity id. -/
theorem entityId_ne_empty (outlines : List Outline) (supply : Supply) :
    ∀ sketch ∈ sketches (ordered (identified outlines supply).1)
      (assigned outlines supply).1.entityIds, sketch.entityId ≠ "" := by
  intro sketch hsketch
  obtain ⟨count, found⟩ := List.getElem?_of_mem hsketch
  rw [(getElem?_sketches found).2]
  exact entityName_ne_empty _

/-- Nodes of the grid have texts as ids. -/
theorem Places.exists_id {setting : Setting} {nodes : List Node} {index : Nat} {rest : Supply}
    {placed : List PlacedTask} (h : Places Grid.layout setting nodes index supply placed rest)
    (named : ∀ task ∈ placed, task.sketch.entityId ≠ "") :
    ∀ task ∈ placed, ∃ id, task.node.id = .str id := by
  intro task htask
  obtain ⟨place, found⟩ := List.getElem?_of_mem htask
  obtain ⟨spot, -, made⟩ := (h.settled named).1 place task found
  exact ⟨_, congrArg Node.id made⟩

/-- Every list of tasks is compiled once the toolsets and the nodes on the canvas are read, provided
that tasks can be placed among these. -/
theorem exists_run {entries : List Json} {start : List Node}
    (readable : toolsets.entries = .ok entries)
    (known : Node.listOfJson options.startNodes = .ok start)
    (free : Grid.Open options.autoLayout start) (outlines : List Outline) (supply : Supply) :
    Nonempty (Run Grid.layout outlines toolsets options supply) := by
  obtain ⟨placed, sketched, places⟩ := exists_places
    ⟨(assigned outlines supply).1.symbols, entries, options.defaultModel, options.autoLayout⟩ 0
    (entityId_ne_empty outlines supply) free (assigned outlines supply).2
  have named : ∀ task ∈ placed, task.sketch.entityId ≠ "" := by
    intro task htask
    exact entityId_ne_empty outlines supply _ (sketched ▸ List.mem_map_of_mem htask)
  exact Run.exists_of_places readable known sketched places (places.exists_id named)

/-- An empty canvas has no nodes. -/
theorem start_of_bare (bare : options.startNodes = .arr []) :
    Node.listOfJson options.startNodes = .ok [] := by
  rw [bare]
  rfl

/-- On an empty canvas, every list of tasks is compiled once the toolsets are read. -/
theorem exists_run_of_bare {entries : List Json} (readable : toolsets.entries = .ok entries)
    (bare : options.startNodes = .arr []) (outlines : List Outline) (supply : Supply) :
    Nonempty (Run Grid.layout outlines toolsets options supply) :=
  exists_run readable (start_of_bare bare) (fun _ => by simp) outlines supply

namespace Run

variable (run : Run Grid.layout outlines toolsets options supply)

/-- Every task that was placed has an entity id. -/
theorem entityId_ne_empty_of_mem {task : PlacedTask} (h : task ∈ run.placed) :
    task.sketch.entityId ≠ "" :=
  entityId_ne_empty outlines supply _ (run.sketches_eq ▸ List.mem_map_of_mem h)

/-- The ids of nodes are texts. -/
theorem hasTexts_grid : run.HasTexts :=
  run.places.exists_id fun _ => run.entityId_ne_empty_of_mem

/-- Each task has become its own node, with the id that was drawn for it after the entity ids. -/
theorem settled {count : Nat} {task : PlacedTask} (found : run.placed[count]? = some task) :
    ∃ spot, Grid.position task.request = .ok spot ∧
      task.node = task.sketch.settled run.setting count spot
        ((identified outlines supply).2.upcoming (outlines.length + count)) := by
  obtain ⟨nodes, -⟩ := run.places.settled fun _ => run.entityId_ne_empty_of_mem
  obtain ⟨spot, settles, made⟩ := nodes count task found
  refine ⟨spot, settles, ?_⟩
  rw [made, Nat.zero_add, supply_assigned, Supply.upcoming_ahead]
  rfl

/-- Each task takes two ids: one for its entity and one for its node. -/
theorem between_eq :
    run.between = (identified outlines supply).2.ahead (2 * outlines.length) := by
  obtain ⟨-, left⟩ := run.places.settled fun _ => run.entityId_ne_empty_of_mem
  rw [left, supply_assigned, Supply.ahead_ahead, run.length_placed, Nat.two_mul]

end Run

end Compilation

/-- A plan without tasks compiles to an empty canvas, and one with tasks as a run on the grid
does. -/
theorem compile_returns_iff {input : PlanInput} {toolsets : ToolsetSource}
    {options : CompileOptions} {supply rest : Supply} {canvas : Canvas} :
    (compile input toolsets options).Returns supply canvas rest ↔
      (input.outlines = [] ∧ Canvas.empty = canvas ∧ supply = rest) ∨
        (input.outlines ≠ [] ∧
          ∃ run : Compilation.Run Grid.layout input.outlines toolsets options supply,
            (run.compilation input.canvasInputs).canvas = canvas ∧ run.rest = rest) := by
  simp only [compile, Making.returns_bind_iff, Making.returns_pure_iff,
    Compilation.ofPlan_returns_iff]
  constructor
  · rintro ⟨_, _, ⟨idle, rfl, rfl⟩ | ⟨busy, run, rfl, rfl⟩, rfl, rfl⟩
    · exact .inl ⟨idle, rfl, rfl⟩
    · exact .inr ⟨busy, run, rfl, rfl⟩
  · rintro (⟨idle, rfl, rfl⟩ | ⟨busy, run, rfl, rfl⟩)
    · exact ⟨_, _, .inl ⟨idle, rfl, rfl⟩, rfl, rfl⟩
    · exact ⟨_, _, .inr ⟨busy, run, rfl, rfl⟩, rfl, rfl⟩

/-- Every plan is compiled once the toolsets and the nodes on the canvas are read, provided that
tasks can be placed among these. -/
theorem exists_canvas_of_open {toolsets : ToolsetSource} {options : CompileOptions}
    {entries : List Json} {start : List Node} (readable : toolsets.entries = .ok entries)
    (known : Node.listOfJson options.startNodes = .ok start)
    (free : Grid.Open options.autoLayout start) (input : PlanInput) (supply : Supply) :
    ∃ canvas rest, (compile input toolsets options).Returns supply canvas rest := by
  by_cases idle : input.outlines = []
  · exact ⟨_, _, compile_returns_iff.mpr (.inl ⟨idle, rfl, rfl⟩)⟩
  · obtain ⟨run⟩ := Compilation.exists_run readable known free input.outlines supply
    exact ⟨_, _, compile_returns_iff.mpr (.inr ⟨idle, run, rfl, rfl⟩)⟩

/-- On an empty canvas, every plan is compiled once the toolsets are read. -/
theorem exists_canvas {toolsets : ToolsetSource} {options : CompileOptions} {entries : List Json}
    (readable : toolsets.entries = .ok entries) (bare : options.startNodes = .arr [])
    (input : PlanInput) (supply : Supply) :
    ∃ canvas rest, (compile input toolsets options).Returns supply canvas rest :=
  exists_canvas_of_open readable (Compilation.start_of_bare bare) (fun _ => by simp) input supply

end PlanGraph
