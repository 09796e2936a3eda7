import PlanGraph.Proofs.Compile.Draws
import PlanGraph.Proofs.Compile.Recompilation
import PlanGraph.Proofs.Number.Rounding

/-!
# Cells of the grid

Left to the layout, with nothing on the canvas before, the nodes of a plan stand in cells: a node is
one column to the right of all nodes that feed it, and the nodes of a column fill it from the top,
in order (`Compilation.cells_of_compile`). Coordinates are floating numbers, but all of them are
small whole ones, which are compared and added exactly.

* `Grid.next` is the number that comes after some numbers; the grid settles both coordinates by it
  (`Grid.freePlace_cells`).
* `Grid.columnAt` and `Grid.rowAt` are the cells that follow from which tasks feed which. What holds
  of them is proved without the compiler: `Grid.map_rowAt` says that a column is filled in order.
* `Compilation.Run.positions_cells` is the induction over the nodes of a run.
-/

namespace PlanGraph

namespace Grid

/-! ## What comes next -/

/-- The number that comes after all of these. -/
def next (taken : List Nat) : Nat :=
  taken.max?.elim 0 (· + 1)

/-- Something that is taken has the largest number, and the next one follows on it. -/
theorem exists_next {taken : List Nat} (some : taken ≠ []) :
    ∃ last ∈ taken, next taken = last + 1 ∧ ∀ number ∈ taken, number ≤ last := by
  obtain ⟨last, most⟩ := Option.ne_none_iff_exists'.mp (mt List.max?_eq_none_iff.mp some)
  obtain ⟨among, largest⟩ := List.max?_eq_some_iff.mp most
  refine ⟨last, among, ?_, largest⟩
  rw [next, most]
  rfl

/-- The next number is at most a bound of what is taken. -/
theorem next_le {taken : List Nat} {bound : Nat} (below : ∀ number ∈ taken, number < bound) :
    next taken ≤ bound := by
  by_cases none : taken = []
  · rw [none]
    exact Nat.zero_le bound
  · obtain ⟨last, among, follows, -⟩ := exists_next none
    rw [follows]
    exact below last among

/-- After the first numbers comes their number. -/
theorem next_range (count : Nat) : next (List.range count) = count := by
  refine Nat.le_antisymm (next_le fun number => List.mem_range.mp) ?_
  rcases count with _ | count
  · exact Nat.zero_le _
  · have some : List.range (count + 1) ≠ [] := by simp
    obtain ⟨last, -, follows, largest⟩ := exists_next some
    rw [follows]
    exact Nat.succ_le_succ (largest count (List.mem_range.mpr (Nat.lt_succ_self count)))

/-! ## Coordinates -/

/-- The coordinate that is so many steps of a length away from the first one. -/
def steps (length count : Nat) : Json :=
  .float (.whole (length * count))

/-- The cell where a column and a row meet. -/
def cell (column row : Nat) : Json :=
  .obj [("x", steps 400 column), ("y", steps 240 row)]

/-- The first column and the first row are no step away. -/
theorem steps_zero (length : Nat) : steps length 0 = origin := by
  rw [steps, Nat.mul_zero, Binary64.whole, Nat.zero_mul]
  rfl

theorem steps_inj {length count other : Nat} (positive : 0 < length) :
    steps length count = steps length other ↔ count = other := by
  rw [steps, steps, Json.float.injEq, Binary64.whole_inj, Nat.mul_left_cancel_iff positive]

/-- Different cells are at different positions. -/
theorem cell_inj {column row column' row' : Nat} :
    cell column row = cell column' row' ↔ column = column' ∧ row = row' := by
  simp [cell, steps_inj]

/-- Coordinates of one direction are the same when they are equally far away. -/
theorem same_steps {length : Nat} (positive : 0 < length) (count other : Nat) :
    (steps length count).same (steps length other) = decide (count = other) := by
  change ((Binary64.whole (length * count)).compare? (Binary64.whole (length * other)) ==
    some Ordering.eq) = _
  rw [Binary64.compare?_whole, Bool.eq_iff_iff, beq_iff_eq, Option.some.injEq,
    compare_eq_iff_eq, Nat.mul_left_cancel_iff positive, decide_eq_true_iff]

/-- The larger of two coordinates is farther away. -/
theorem larger_steps (length count other : Nat) :
    larger (steps length count) (steps length other) = .ok (steps length (max count other)) := by
  have order : (steps length count).less? (steps length other) =
      some (decide (length * count < length * other)) := by
    change some ((Binary64.whole (length * count)).compare? (Binary64.whole (length * other)) ==
      some Ordering.lt) = _
    rw [Binary64.compare?_whole, Option.some.injEq, Bool.eq_iff_iff, beq_iff_eq,
      Option.some.injEq, compare_lt_iff_lt, decide_eq_true_iff]
  rw [larger, order, steps, steps, steps, ← Nat.mul_max_mul_left]
  by_cases nearer : length * count < length * other
  · rw [decide_eq_true nearer, Nat.max_eq_right nearer.le]
  · rw [decide_eq_false nearer, Nat.max_eq_left (Nat.le_of_not_lt nearer)]

/-- A step more leads exactly one step farther, as long as coordinates are below `2^53`. -/
theorem move_steps {length count : Nat} (small : length * (count + 1) < 2 ^ 53) :
    move (steps length count) length = .ok (steps length (count + 1)) := by
  rw [Nat.mul_succ] at small
  change Except.ok (Json.float ((Binary64.whole (length * count)).add (Binary64.ofInt length))) = _
  rw [Binary64.whole_add_ofInt small, steps, Nat.mul_succ]

/-- The farthest of some coordinates. -/
theorem foldlM_larger_steps (length first : Nat) (rest : List Nat) :
    (rest.map (steps length)).foldlM larger (steps length first) =
      .ok (steps length (rest.foldl max first)) := by
  induction rest generalizing first with
  | nil => rfl
  | cons count rest ih =>
      rw [List.map_cons, List.foldlM_cons, larger_steps, ok_bind, ih, List.foldl_cons]

/-- The row of a new node comes next after the rows that are taken. -/
theorem row_steps {rows : List Nat} (small : 240 * next rows < 2 ^ 53) :
    row (rows.map (steps 240)) = .ok (steps 240 (next rows)) := by
  rcases rows with _ | ⟨first, rest⟩
  · rw [List.map_nil, row]
    exact congrArg Except.ok (steps_zero 240).symm
  · rw [List.map_cons, row, foldlM_larger_steps, ok_bind]
    exact move_steps small

/-- A node in a cell, of which nothing else is known. -/
def stand (spot : Nat × Nat) : Node :=
  marker (some (cell spot.1 spot.2))

/-- The column of a new node comes next after those of the nodes that feed it. -/
theorem column_stand {spots : List (Nat × Nat)}
    (small : 400 * next (spots.map Prod.fst) < 2 ^ 53) :
    column (spots.map stand) = .ok (steps 400 (next (spots.map Prod.fst))) := by
  have widest : ∀ (first : Nat) (rest : List (Nat × Nat)),
      widestColumn (steps 400 first) (rest.map stand) =
        .ok (steps 400 ((rest.map Prod.fst).foldl max first)) := by
    intro first rest
    induction rest generalizing first with
    | nil => rfl
    | cons spot rest ih =>
        have own : sourceColumn (stand spot) = .ok (steps 400 spot.1) := rfl
        rw [List.map_cons, widestColumn, own, ok_bind, larger_steps, ok_bind, ih, List.map_cons,
          List.foldl_cons]
  rcases spots with _ | ⟨first, rest⟩
  · rw [List.map_nil, column]
    exact congrArg Except.ok (steps_zero 400).symm
  · have own : sourceColumn (stand first) = .ok (steps 400 first.1) := rfl
    rw [List.map_cons, column, own, ok_bind, widest, ok_bind]
    exact move_steps small

/-- The rows that are taken in a column. -/
theorem rowsIn_stand (column : Nat) (spots : List (Nat × Nat)) :
    rowsIn (steps 400 column) (spots.map stand) =
      .ok (((spots.filter (·.1 = column)).map Prod.snd).map (steps 240)) := by
  induction spots with
  | nil => rfl
  | cons spot rest ih =>
      have step : ∀ {x y here : Json} {nodes : List Node},
          rowsIn here (marker (some (.obj [("x", x), ("y", y)])) :: nodes) =
            if x.same here then do pure (y :: (← rowsIn here nodes)) else rowsIn here nodes := rfl
      rw [List.map_cons, stand, cell, step, same_steps (by decide), ih]
      by_cases here : spot.1 = column
      · simp [here]
      · simp [here]

/-- **What the grid gives to a new node among nodes in cells**: the column next to those of the
nodes that feed it, and the row next to those that are taken there. -/
theorem freePlace_cells {existing sources : List Node} {spots feed : List (Nat × Nat)}
    (taken : existing.map Node.position = spots.map fun spot => some (cell spot.1 spot.2))
    (fed : sources.map Node.position = feed.map fun spot => some (cell spot.1 spot.2))
    {column row : Nat} (right : next (feed.map Prod.fst) = column)
    (below : next ((spots.filter (·.1 = column)).map Prod.snd) = row)
    (columns : 400 * column < 2 ^ 53) (rows : 240 * row < 2 ^ 53) :
    freePlace existing sources = .ok (cell column row) := by
  subst right below
  have existing' : existing.map Node.position = (spots.map stand).map Node.position := by
    rw [taken, List.map_map]
    rfl
  have sources' : sources.map Node.position = (feed.map stand).map Node.position := by
    rw [fed, List.map_map]
    rfl
  rw [freePlace_congr existing' sources', freePlace, column_stand columns, ok_bind, rowsIn_stand,
    ok_bind, row_steps rows]
  rfl

/-! ## Columns and rows -/

/-- The column of a place, when it is known which places feed which: one to the right of those
before it that feed it. -/
def columnAt (feeds : Nat → List Nat) (place : Nat) : Nat :=
  next (((feeds place).filter (· < place)).attach.map fun source => columnAt feeds source.1)
termination_by place
decreasing_by exact of_decide_eq_true (List.mem_filter.mp source.2).2

theorem columnAt_eq (feeds : Nat → List Nat) (place : Nat) :
    columnAt feeds place = next (((feeds place).filter (· < place)).map (columnAt feeds)) := by
  rw [columnAt, List.attach_map_val]

/-- The first places, as many as given, that are in a column. -/
def inColumn (columns : Nat → Nat) (column count : Nat) : List Nat :=
  (List.range count).filter fun place => columns place = column

/-- The row of a place: the number of those before it in its column. -/
def rowAt (columns : Nat → Nat) (place : Nat) : Nat :=
  (inColumn columns (columns place) place).length

section

variable (columns : Nat → Nat)

theorem mem_inColumn {column count place : Nat} :
    place ∈ inColumn columns column count ↔ place < count ∧ columns place = column := by
  rw [inColumn, List.mem_filter, List.mem_range, decide_eq_true_iff]

/-- A column is filled from the top, in order. -/
theorem map_rowAt (column count : Nat) :
    (inColumn columns column count).map (rowAt columns) =
      List.range (inColumn columns column count).length := by
  induction count with
  | zero => rfl
  | succ count ih =>
      have grown : inColumn columns column (count + 1) =
          inColumn columns column count ++ if columns count = column then [count] else [] := by
        rw [inColumn, List.range_succ, List.filter_append, List.filter_singleton]
        simp [inColumn]
      rw [grown]
      split
      · rename_i here
        rw [List.map_append, ih, List.length_append, List.map_singleton, rowAt, here,
          List.length_singleton, List.range_succ]
      · rw [List.append_nil, ih]

/-- Every row above a place is that of an earlier place in its column. -/
theorem exists_rowAt {place row : Nat} (above : row < rowAt columns place) :
    ∃ earlier < place, columns earlier = columns place ∧ rowAt columns earlier = row := by
  have among := List.mem_range.mpr above
  rw [rowAt, ← map_rowAt] at among
  obtain ⟨earlier, here, found⟩ := List.mem_map.mp among
  obtain ⟨before, same⟩ := (mem_inColumn columns).mp here
  exact ⟨earlier, before, same, found⟩

/-- In a column, later places are in lower rows. -/
theorem rowAt_lt {place later : Nat} (before : place < later)
    (same : columns place = columns later) : rowAt columns place < rowAt columns later := by
  have here := (mem_inColumn columns).mpr ⟨before, same⟩
  have among := List.mem_map_of_mem (f := rowAt columns) here
  rw [map_rowAt] at among
  exact List.mem_range.mp among

/-- No two places are in one cell. -/
theorem eq_of_cell {place other : Nat} (column : columns place = columns other)
    (row : rowAt columns place = rowAt columns other) : place = other := by
  rcases Nat.lt_trichotomy place other with before | same | after
  · exact absurd row (rowAt_lt columns before column).ne
  · exact same
  · exact absurd row (rowAt_lt columns after column.symm).ne'

/-- There are no more rows than places. -/
theorem rowAt_le (place : Nat) : rowAt columns place ≤ place :=
  (List.length_filter_le _ _).trans List.length_range.le

end

/-- There are no more columns than places. -/
theorem columnAt_le (feeds : Nat → List Nat) (place : Nat) : columnAt feeds place ≤ place := by
  induction place using Nat.strong_induction_on with
  | _ place ih =>
      rw [columnAt_eq]
      refine next_le fun number among => ?_
      obtain ⟨source, here, rfl⟩ := List.mem_map.mp among
      have before : source < place := of_decide_eq_true (List.mem_filter.mp here).2
      exact (ih source before).trans_lt before

end Grid

namespace Compilation

/-! ## Tasks that feed a task -/

/-- A task comes before another one in the order of processing, and is the first to have an id that
the other one depends on and that is not its own. -/
def FedBy (tasks : List Outline) (place source : Nat) : Prop :=
  source < place ∧ ∃ task, tasks[place]? = some task ∧ ∃ dependency ∈ task.dependencies,
    dependency ≠ task.id ∧ FirstAt (tasks.map Outline.id) dependency source

/-- A task that nothing feeds is in the first column, and any other one is in the column to the
right of the last one that feeds it. -/
structure Columned (tasks : List Outline) (columns : Nat → Nat) : Prop where
  /-- Without a task that feeds it, a task is in the first column. -/
  first : ∀ place < tasks.length, (∀ source, ¬ FedBy tasks place source) → columns place = 0
  /-- Among the tasks that feed it, a task is one to the right of the last one. -/
  right : ∀ place, (∃ source, FedBy tasks place source) → ∃ last, FedBy tasks place last ∧
    columns place = columns last + 1 ∧
    ∀ source, FedBy tasks place source → columns source ≤ columns last

/-- A task is to the right of all that feed it. -/
theorem Columned.lt {tasks : List Outline} {columns : Nat → Nat} (columned : Columned tasks columns)
    {place source : Nat} (fed : FedBy tasks place source) : columns source < columns place := by
  obtain ⟨last, -, right, farthest⟩ := columned.right place ⟨source, fed⟩
  rw [right]
  exact Nat.lt_succ_of_le (farthest source fed)

/-- The tasks of a plan, each with an id, in the order of processing. -/
def tasksInOrder (outlines : List Outline) : List Outline :=
  (ordered outlines).map Prod.fst

/-- The tasks that the task with a number is connected with. -/
def feedsAt (outlines : List Outline) (place : Nat) : List Nat :=
  (tasksInOrder outlines)[place]?.elim [] (feeds outlines)

/-- Among the tasks that a task is connected with, those that come before it feed it. -/
theorem mem_feedsAt_iff {outlines : List Outline} {place source : Nat} :
    source ∈ (feedsAt outlines place).filter (· < place) ↔
      FedBy (tasksInOrder outlines) place source := by
  have ids : (tasksInOrder outlines).map Outline.id = orderedIds outlines := by
    rw [tasksInOrder, List.map_map, orderedIds]
    rfl
  rw [List.mem_filter, decide_eq_true_iff, And.comm, FedBy, ids, feedsAt]
  refine and_congr_right fun _ => ?_
  rcases (tasksInOrder outlines)[place]? with _ | task
  · simp
  · simp [feeds, firstAt_iff]

/-- The columns of the grid are as the dependencies of the tasks ask for. -/
theorem columned_columnAt (outlines : List Outline) :
    Columned (tasksInOrder outlines) (Grid.columnAt (feedsAt outlines)) := by
  constructor
  · intro place _ free
    have none : (feedsAt outlines place).filter (· < place) = [] :=
      List.eq_nil_iff_forall_not_mem.mpr fun source among => free source (mem_feedsAt_iff.mp among)
    rw [Grid.columnAt_eq, none]
    rfl
  · rintro place ⟨source, fed⟩
    have among := List.mem_map_of_mem (f := Grid.columnAt (feedsAt outlines))
      (mem_feedsAt_iff.mpr fed)
    obtain ⟨column, here, follows, farthest⟩ := Grid.exists_next (List.ne_nil_of_mem among)
    obtain ⟨last, feeding, rfl⟩ := List.mem_map.mp here
    refine ⟨last, mem_feedsAt_iff.mp feeding, ?_, ?_⟩
    · rw [Grid.columnAt_eq, follows]
    · intro other fed'
      exact farthest _ (List.mem_map_of_mem (mem_feedsAt_iff.mpr fed'))

/-- Items that are looked up among the first ones are those with a small number. -/
theorem flatMap_getElem?_range {α : Type} (f : Nat → α) (count : Nat) (places : List Nat) :
    (places.flatMap fun place => ((List.range count).map f)[place]?.toList) =
      (places.filter (· < count)).map f := by
  induction places with
  | nil => rfl
  | cons place rest ih =>
      rw [List.flatMap_cons, ih, List.filter_cons]
      by_cases inside : place < count
      · simp [inside]
      · simp [inside]

namespace Run

variable {outlines : List Outline} {toolsets : ToolsetSource} {model : Json} {supply : Supply}
  (run : Run Grid.layout outlines toolsets ⟨true, model, .arr []⟩ supply)

/-- The columns of the tasks of a plan. -/
def columns (outlines : List Outline) (supply : Supply) : Nat → Nat :=
  Grid.columnAt (feedsAt (identified outlines supply).1)

/-- The cell of the task with a number. -/
def spot (outlines : List Outline) (supply : Supply) (place : Nat) : Nat × Nat :=
  (columns outlines supply place, Grid.rowAt (columns outlines supply) place)

/-- Where the first tasks are in their cells, the nodes that a task is found to be fed by are in
those of the tasks before it that feed it. -/
theorem map_position_feeds {count : Nat} {task : PlacedTask}
    (found : run.placed[count]? = some task)
    (before : (run.before count).map Node.position =
      ((List.range count).map (spot outlines supply)).map fun spot =>
        some (Grid.cell spot.1 spot.2)) :
    ((feeds (identified outlines supply).1 task.sketch.outline).flatMap fun place =>
        (run.before count)[place]?.toList).map Node.position =
      (((feedsAt (identified outlines supply).1 count).filter (· < count)).map
        (spot outlines supply)).map fun spot => some (Grid.cell spot.1 spot.2) := by
  have outline : (tasksInOrder (identified outlines supply).1)[count]? =
      some task.sketch.outline := by
    rw [tasksInOrder, List.getElem?_map, (run.sketch_getElem? found).1]
    rfl
  have connected : feedsAt (identified outlines supply).1 count =
      feeds (identified outlines supply).1 task.sketch.outline := by
    rw [feedsAt, outline]
    rfl
  rw [connected, List.map_flatMap]
  simp only [← Option.toList_map, ← List.getElem?_map, before]
  rw [List.map_map, List.map_map, flatMap_getElem?_range]

/-- Among tasks in their cells, the next one is given its own. -/
theorem position_spot (distinct : (identified outlines supply).2.Distinct outlines.length)
    (small : 400 * outlines.length ≤ 2 ^ 53) {count : Nat} {task : PlacedTask}
    (found : run.placed[count]? = some task)
    (before : (run.before count).map Node.position =
      ((List.range count).map (spot outlines supply)).map fun spot =>
        some (Grid.cell spot.1 spot.2)) :
    task.node.position = some (Grid.cell (columns outlines supply count)
      (Grid.rowAt (columns outlines supply) count)) := by
  obtain ⟨inside, -⟩ := List.getElem?_eq_some_iff.mp found
  rw [run.length_placed] at inside
  obtain ⟨settled, settles, made⟩ := run.settled found
  rw [run.position_of_bare rfl distinct found] at settles
  have right : Grid.next ((((feedsAt (identified outlines supply).1 count).filter (· < count)).map
      (spot outlines supply)).map Prod.fst) = columns outlines supply count := by
    rw [List.map_map, columns, Grid.columnAt_eq]
    rfl
  have below : Grid.next ((((List.range count).map (spot outlines supply)).filter
      (·.1 = columns outlines supply count)).map Prod.snd) =
        Grid.rowAt (columns outlines supply) count := by
    rw [List.filter_map, List.map_map]
    change Grid.next ((Grid.inColumn (columns outlines supply) _ count).map
      (Grid.rowAt (columns outlines supply))) = _
    rw [Grid.map_rowAt, Grid.next_range, Grid.rowAt]
  have column := Grid.columnAt_le (feedsAt (identified outlines supply).1) count
  have row := Grid.rowAt_le (columns outlines supply) count
  have place := Grid.freePlace_cells before (run.map_position_feeds found before) right below
    (by rw [columns]; omega) (by omega)
  rw [if_pos rfl, place] at settles
  rw [made, ← Except.ok.inj settles]
  rfl

/-- **The nodes of a run stand in their cells**, by induction on how many of them are there. -/
theorem positions_cells (distinct : (identified outlines supply).2.Distinct outlines.length)
    (small : 400 * outlines.length ≤ 2 ^ 53) :
    (run.placed.map PlacedTask.node).map Node.position =
      (List.range outlines.length).map fun place => some (Grid.cell
        (columns outlines supply place) (Grid.rowAt (columns outlines supply) place)) := by
  have first : ∀ count ≤ outlines.length, (run.before count).map Node.position =
      ((List.range count).map (spot outlines supply)).map fun spot =>
        some (Grid.cell spot.1 spot.2) := by
    intro count
    induction count with
    | zero => exact fun _ => rfl
    | succ count ih =>
        intro inside
        have earlier := ih (Nat.le_of_succ_le inside)
        obtain ⟨task, found⟩ : ∃ task, run.placed[count]? = some task :=
          ⟨_, List.getElem?_eq_getElem (by rwa [run.length_placed])⟩
        have next := run.position_spot distinct small found earlier
        have grown : run.before (count + 1) = run.before count ++ [task.node] := by
          rw [before, before, List.take_add_one, found, List.map_append]
          rfl
        rw [grown, List.map_append, earlier, List.range_succ, List.map_append, List.map_append,
          List.map_singleton, List.map_singleton, List.map_singleton, next]
        rfl
  have all := first outlines.length le_rfl
  rw [before, List.take_of_length_le run.length_placed.le] at all
  rw [all, List.map_map]
  rfl

end Run

/-- The nodes of a compiled plan stand in their cells. -/
theorem positions_of_compile {input : PlanInput} {toolsets : ToolsetSource} {model : Json}
    {supply rest : Supply} {canvas : Canvas}
    (distinct : supply.Distinct (input.nameless + input.outlines.length))
    (small : 400 * input.outlines.length ≤ 2 ^ 53)
    (returned : (compile input toolsets ⟨true, model, .arr []⟩).Returns supply canvas rest) :
    canvas.nodes.map Node.position =
      (List.range input.outlines.length).map fun place => some (Grid.cell
        (Run.columns input.outlines supply place)
        (Grid.rowAt (Run.columns input.outlines supply) place)) := by
  rcases compile_returns_iff.mp returned with ⟨idle, rfl, -⟩ | ⟨-, run, rfl, -⟩
  · rw [idle]
    rfl
  · refine run.positions_cells ?_ small
    -- the ids of tasks without one are drawn first, then those of the entities
    intro i hi j hj same
    rw [Run.upcoming_identified, Run.upcoming_identified] at same
    have numbers := distinct (input.nameless + i) (by omega) (input.nameless + j) (by omega) same
    omega

/-- **The grid grows to the right, without collisions and gaps.** With positions left to the layout
and nothing on the canvas before, every plan compiles once the toolsets are read, and whenever it
does, the node of each task is in the cell of its column and its row, coordinates being exact: 400
for each column and 240 for each row. A task that no task before it feeds is in the first column;
any other is one column to the right of the last one of those that feed it; and its row is the
number of the nodes before it in its column. So no two nodes are at one position, every row above a
node is taken in its column, and a task is to the right of all that feed it.

For that, the ids that are drawn for tasks and their entities must be distinct, and there must be so
few tasks that all coordinates are below `2^53`. -/
theorem cells_of_compile (input : PlanInput) (toolsets : ToolsetSource) (model : Json)
    (supply : Supply) (distinct : supply.Distinct (input.nameless + input.outlines.length))
    (small : 400 * input.outlines.length ≤ 2 ^ 53) :
    let compiled := compile input toolsets ⟨true, model, .arr []⟩
    let tasks := tasksInOrder (Outline.identifyAll input.outlines supply).1
    ((∃ entries, toolsets.entries = .ok entries) →
      ∃ canvas rest, compiled.Returns supply canvas rest) ∧
    ∀ canvas rest, compiled.Returns supply canvas rest →
      canvas.nodes.map (fun node => node.data.getD "title") =
        tasks.map (fun task => .str task.title) ∧
      ∃ columns : Nat → Nat, Columned tasks columns ∧
        canvas.nodes.map Node.position = (List.range tasks.length).map (fun place =>
          some (Grid.cell (columns place) (Grid.rowAt columns place))) ∧
        (canvas.nodes.map Node.position).Nodup ∧
        (∀ place < tasks.length, ∀ row < Grid.rowAt columns place, ∃ earlier < place,
          columns earlier = columns place ∧ Grid.rowAt columns earlier = row) ∧
        ∀ place source, FedBy tasks place source → columns source < columns place := by
  intro compiled tasks
  constructor
  · rintro ⟨entries, readable⟩
    exact exists_canvas readable rfl input supply
  · intro canvas rest returned
    have titles := (draws_of_compile returned).2
    have length : tasks.length = input.outlines.length := by
      rw [← length_identified input.outlines supply]
      exact (List.length_map _).trans (length_ordered _)
    have columned : Columned tasks (Run.columns input.outlines supply) := columned_columnAt _
    have positions : canvas.nodes.map Node.position = (List.range tasks.length).map fun place =>
        some (Grid.cell (Run.columns input.outlines supply place)
          (Grid.rowAt (Run.columns input.outlines supply) place)) := by
      rw [length, positions_of_compile distinct small returned]
    refine ⟨?_, Run.columns input.outlines supply, columned, positions, ?_, ?_, ?_⟩
    · rw [titles]
      change _ = ((ordered _).map Prod.fst).map _
      rw [List.map_map]
      rfl
    · rw [positions]
      refine List.Nodup.map_on ?_ List.nodup_range
      intro place _ other _ same
      obtain ⟨column, row⟩ := Grid.cell_inj.mp (Option.some.inj same)
      exact Grid.eq_of_cell _ column row
    · intro place _ row above
      exact Grid.exists_rowAt _ above
    · intro place source fed
      exact columned.lt fed

/-- Of four tasks one depends on a task twice, on itself, on a task that comes later and on one that
is not there. -/
theorem cells_of_compile_of_four :
    let input : PlanInput := .raw (.obj [("tasks", .arr [
      .obj [("id", .str "a")],
      .obj [("id", .str "b"), ("dependentTasks",
        .arr [.str "c", .str "a", .str "a", .str "b", .str "e"])],
      .obj [("id", .str "c"), ("dependentTasks", .arr [.str "a", .str "b"])],
      .obj [("id", .str "d")]])])
    let compiled := compile input (.parsed []) ⟨true, .null, .arr []⟩
    ∃ canvas rest columns, compiled.Returns Supply.counting canvas rest ∧
      Columned (tasksInOrder (Outline.identifyAll input.outlines Supply.counting).1) columns ∧
      canvas.nodes.map Node.position = [some (Grid.cell 0 0), some (Grid.cell 0 1),
        some (Grid.cell 1 0), some (Grid.cell 2 0)] ∧
      (canvas.nodes.map Node.position).Nodup := by
  intro input compiled
  have distinct : Supply.counting.Distinct (input.nameless + input.outlines.length) := by
    intro i _ j _ same
    exact Nat.add_left_cancel (Supply.fresh_countingFrom 0 0 same)
  obtain ⟨total, told⟩ := cells_of_compile input (.parsed []) .null Supply.counting distinct
    (by decide)
  obtain ⟨canvas, rest, returned⟩ := total ⟨[], rfl⟩
  obtain ⟨-, columns, columned, -, apart, -⟩ := told canvas rest returned
  have made : (compiled.outcome Supply.counting).1.toOption.map
      (fun canvas => canvas.nodes.map Node.position) =
        some [some (Grid.cell 0 0), some (Grid.cell 0 1), some (Grid.cell 1 0),
          some (Grid.cell 2 0)] := by
    decide +kernel
  have outcome : compiled.outcome Supply.counting = _ := returned
  rw [outcome] at made
  exact ⟨canvas, rest, columns, returned, columned, Option.some.inj made, apart⟩

end Compilation

end PlanGraph
