import PlanGraph.Proofs.Compile.Template

/-!
# Recompiling changes only the ids

A plan whose tasks have ids compiles to the same template with every supply
(`Compilation.exists_template`). So two compilations draw ids in the same number, and differ in
nothing but the ids that stand in the same places (`Compilation.template_of_compile`).

Positions are what this has to be proved for. Where they are left to the grid, a node stands to the
right of the nodes that feed it, and these are found by their entity ids. Distinct ids pick the
nodes with their own numbers (`Run.filter_picks`), and beyond that the grid looks at positions alone
(`Run.position_of_bare`, `Grid.freePlace_congr`), so two runs agree node by node
(`Run.position_eq_of_before`, `Run.positions_eq`).
-/

namespace PlanGraph

/-! ## Free places -/

namespace Grid

/-- A node of which only the position is known. -/
def marker (position : Option Json) : Node :=
  ⟨.null, .null, .null, position, false⟩

/-- The largest first coordinate depends on nothing but positions. -/
theorem widestColumn_markers (best : Json) (nodes : List Node) :
    widestColumn best ((nodes.map Node.position).map marker) = widestColumn best nodes := by
  induction nodes generalizing best with
  | nil => rfl
  | cons node rest ih =>
      rw [List.map_cons, List.map_cons, widestColumn, widestColumn]
      simp only [ih]
      rfl

/-- The column of a new node depends on nothing but positions. -/
theorem column_markers (nodes : List Node) :
    column ((nodes.map Node.position).map marker) = column nodes := by
  rcases nodes with _ | ⟨node, rest⟩
  · rfl
  · rw [List.map_cons, List.map_cons, column, column]
    simp only [widestColumn_markers]
    rfl

/-- The rows of a column depend on nothing but positions. -/
theorem rowsIn_markers (column : Json) (nodes : List Node) :
    rowsIn column ((nodes.map Node.position).map marker) = rowsIn column nodes := by
  induction nodes with
  | nil => rfl
  | cons node rest ih =>
      rw [List.map_cons, List.map_cons, rowsIn, rowsIn, ih]
      rfl

/-- The free place depends on nothing but positions. -/
theorem freePlace_congr {existing existing' sources sources' : List Node}
    (same : existing.map Node.position = existing'.map Node.position)
    (feed : sources.map Node.position = sources'.map Node.position) :
    freePlace existing sources = freePlace existing' sources' := by
  have rows : ∀ x, rowsIn x existing = rowsIn x existing' := by
    intro x
    rw [← rowsIn_markers, same, rowsIn_markers]
  unfold freePlace
  rw [← column_markers sources, feed, column_markers]
  simp only [rows]

end Grid

/-! ## Nodes that feed a node -/

/-- Where one place is picked at most, the item there is all that is left. -/
theorem filter_eq_toList_getElem? {α : Type} {picks : α → Bool} {items : List α} {place : Nat}
    (h : ∀ count item, items[count]? = some item → (picks item = true ↔ count = place)) :
    items.filter picks = items[place]?.toList := by
  induction items generalizing place with
  | nil => rfl
  | cons item rest ih =>
      rcases place with _ | place
      · have first : picks item = true := (h 0 item rfl).mpr rfl
        have others : rest.filter picks = [] := by
          rw [List.filter_eq_nil_iff]
          intro other hother picked
          obtain ⟨count, found⟩ := List.getElem?_of_mem hother
          cases (h (count + 1) other found).mp picked
        rw [List.filter_cons_of_pos first, others]
        rfl
      · have first : ¬ picks item = true := fun picked => by cases (h 0 item rfl).mp picked
        rw [List.filter_cons_of_neg first, ih]
        · rfl
        · intro count other found
          rw [h (count + 1) other found, Nat.add_right_cancel_iff]

namespace Compilation

/-- The tasks that a task is connected with, by their numbers in the order of processing. -/
def feeds (outlines : List Outline) (outline : Outline) : List Nat :=
  outline.dependencies.filterMap fun dependency =>
    if dependency = outline.id then none
    else (orderedIds outlines).findIdx? (· == dependency)

/-- What feeds a task is a task. -/
theorem lt_of_mem_feeds {outlines : List Outline} {outline : Outline} {place : Nat}
    (h : place ∈ feeds outlines outline) : place < outlines.length := by
  obtain ⟨dependency, -, fed⟩ := List.mem_filterMap.mp h
  rw [Option.ite_none_left_eq_some] at fed
  exact lt_of_findIdx? fed.2

/-- The tasks, once each of them has an id, are as many as there were. -/
theorem length_identified (outlines : List Outline) (supply : Supply) :
    (identified outlines supply).1.length = outlines.length :=
  (Outline.identifyAll_forall₂ outlines supply).length_eq.symm

namespace Run

variable {outlines : List Outline} {toolsets : ToolsetSource} {options : CompileOptions}
  {supply : Supply} (run : Run Grid.layout outlines toolsets options supply)
  (named : ∀ outline ∈ outlines, outline.id ≠ "")

/-- The nodes that are there before the call with a number, on a canvas that was empty. -/
def before (count : Nat) : List Node :=
  (run.placed.take count).map PlacedTask.node

/-- A node that is there before a call is that of a task with a smaller number. -/
theorem getElem?_before {count number : Nat} {node : Node}
    (h : (run.before count)[number]? = some node) :
    ∃ task, run.placed[number]? = some task ∧ task.node = node := by
  rw [before, List.getElem?_map, Option.map_eq_some_iff] at h
  obtain ⟨task, found, same⟩ := h
  rw [List.getElem?_take] at found
  split at found
  · exact ⟨task, found, same⟩
  · cases found

/-- Every node that is there before a call has a payload. -/
theorem isObject_of_mem_before {count : Nat} {node : Node} (h : node ∈ run.before count) :
    node.data.isObject = true := by
  obtain ⟨number, found⟩ := List.getElem?_of_mem h
  obtain ⟨task, among, rfl⟩ := run.getElem?_before found
  obtain ⟨spot, -, made⟩ := run.settled among
  rw [made]
  rfl

/-- Onto an empty canvas, a task is shown the nodes that are there before its call. -/
theorem request_eq_of_bare (bare : options.startNodes = .arr []) {count : Nat} {task : PlacedTask}
    (found : run.placed[count]? = some task) :
    task.request = task.sketch.request run.setting (run.before count) count := by
  have start := run.start_eq
  rw [bare] at start
  have empty : run.start = [] := (Except.ok.inj start).symm
  obtain ⟨request, -⟩ := run.places.answers found
  rw [empty, List.nil_append, Nat.zero_add] at request
  exact request

/-- A task is connected with the entities of the tasks that feed it. -/
theorem connections_eq (sketch : Sketch) :
    sketch.connections run.setting =
      (feeds (identified outlines supply).1 sketch.outline).map fun place =>
        ⟨.str taskNodeType, .str (entityName ((identified outlines supply).2.upcoming place)),
          NodeFilter.sourceHandle⟩ := by
  rw [Sketch.connections, feeds, List.map_filterMap]
  apply List.filterMap_congr
  intro dependency _
  have symbol := lookup_symbols outlines supply dependency
  rw [Sketch.connection?, setting, symbol, Option.map_map]
  split
  · rfl
  · rfl

/-- Among the first nodes, an entity id picks the node with its number. -/
theorem filter_picks (distinct : (identified outlines supply).2.Distinct outlines.length)
    (count : Nat) {place : Nat} (inside : place < outlines.length) :
    (run.before count).filter (NodeFilter.picks ⟨.str taskNodeType,
        .str (entityName ((identified outlines supply).2.upcoming place)),
        NodeFilter.sourceHandle⟩) =
      (run.before count)[place]?.toList := by
  apply filter_eq_toList_getElem?
  intro number node there
  obtain ⟨task, among, rfl⟩ := run.getElem?_before there
  obtain ⟨bound, -⟩ := List.getElem?_eq_some_iff.mp among
  rw [run.length_placed] at bound
  obtain ⟨spot, -, made⟩ := run.settled among
  have entity := (run.sketch_getElem? among).2
  have picked : NodeFilter.picks ⟨.str taskNodeType,
      .str (entityName ((identified outlines supply).2.upcoming place)),
      NodeFilter.sourceHandle⟩ task.node =
        (entityName ((identified outlines supply).2.upcoming number) ==
          entityName ((identified outlines supply).2.upcoming place)) := by
    rw [made, ← entity]
    rfl
  rw [picked, beq_iff_eq, entityName_inj]
  constructor
  · exact distinct number bound place inside
  · rintro rfl
    rfl

/-- Onto an empty canvas, the position of a task depends on those before it, and on which of them
feed it. -/
theorem position_of_bare (bare : options.startNodes = .arr [])
    (distinct : (identified outlines supply).2.Distinct outlines.length) {count : Nat}
    {task : PlacedTask} (found : run.placed[count]? = some task) :
    Grid.position task.request =
      if options.autoLayout then
        Grid.freePlace (run.before count)
          ((feeds (identified outlines supply).1 task.sketch.outline).flatMap fun place =>
            (run.before count)[place]?.toList)
      else .ok (Sketch.stacked count) := by
  have picked : (feeds (identified outlines supply).1 task.sketch.outline).flatMap (fun place =>
        (run.before count).filter (NodeFilter.picks ⟨.str taskNodeType,
          .str (entityName ((identified outlines supply).2.upcoming place)),
          NodeFilter.sourceHandle⟩)) =
      (feeds (identified outlines supply).1 task.sketch.outline).flatMap fun place =>
        (run.before count)[place]?.toList := by
    refine List.flatMap_congr fun place hplace => run.filter_picks distinct count ?_
    rw [← length_identified outlines supply]
    exact lt_of_mem_feeds hplace
  rw [run.request_eq_of_bare bare found,
    Grid.position_request fun _ => run.isObject_of_mem_before, run.connections_eq,
    List.flatMap_map, picked]
  rfl

include named

/-- Where every task has an id, the position of a task is told by the tasks as they are. -/
theorem position_of_named (bare : options.startNodes = .arr [])
    (distinct : supply.Distinct (2 * outlines.length)) {count : Nat} {task : PlacedTask}
    (found : run.placed[count]? = some task) :
    Grid.position task.request =
      if options.autoLayout then
        Grid.freePlace (run.before count)
          ((feeds outlines task.sketch.outline).flatMap fun place =>
            (run.before count)[place]?.toList)
      else .ok (Sketch.stacked count) := by
  have entities : (identified outlines supply).2.Distinct outlines.length := by
    rw [identified_of_named named]
    exact fun i hi j hj => distinct i (by omega) j (by omega)
  have settles := run.position_of_bare bare entities found
  rw [identified_of_named named] at settles
  exact settles

/-- Where the nodes before have the same positions in two runs, the next one has, too. -/
theorem position_eq_of_before {supply' : Supply}
    (run' : Run Grid.layout outlines toolsets options supply')
    (bare : options.startNodes = .arr []) (distinct : supply.Distinct (2 * outlines.length))
    (distinct' : supply'.Distinct (2 * outlines.length)) {count : Nat} {task task' : PlacedTask}
    (found : run.placed[count]? = some task) (found' : run'.placed[count]? = some task')
    (before : (run.before count).map Node.position = (run'.before count).map Node.position) :
    task.node.position = task'.node.position := by
  have entries : some task.entry = some task'.entry :=
    (run.entry_of_named named found).1.symm.trans (run'.entry_of_named named found').1
  have outline : task.sketch.outline = task'.sketch.outline :=
    congrArg Prod.fst (Option.some.inj entries)
  have feed : ((feeds outlines task.sketch.outline).flatMap fun place =>
        (run.before count)[place]?.toList).map Node.position =
      ((feeds outlines task'.sketch.outline).flatMap fun place =>
        (run'.before count)[place]?.toList).map Node.position := by
    rw [List.map_flatMap, List.map_flatMap, outline]
    simp only [← Option.toList_map, ← List.getElem?_map, before]
  have settled : Grid.position task.request = Grid.position task'.request := by
    rw [run.position_of_named named bare distinct found,
      run'.position_of_named named bare distinct' found', Grid.freePlace_congr before feed]
  obtain ⟨spot, settles, made⟩ := run.node_of_named named found
  obtain ⟨spot', settles', made'⟩ := run'.node_of_named named found'
  rw [settles, settles'] at settled
  rw [made, made']
  exact congrArg some (Except.ok.inj settled)

/-- All nodes have the same positions in every run. -/
theorem positions_eq {supply' : Supply} (run' : Run Grid.layout outlines toolsets options supply')
    (bare : options.startNodes = .arr []) (distinct : supply.Distinct (2 * outlines.length))
    (distinct' : supply'.Distinct (2 * outlines.length)) :
    (run.placed.map PlacedTask.node).map Node.position =
      (run'.placed.map PlacedTask.node).map Node.position := by
  have first : ∀ count ≤ outlines.length,
      (run.before count).map Node.position = (run'.before count).map Node.position := by
    intro count
    induction count with
    | zero => exact fun _ => rfl
    | succ count ih =>
        intro inside
        have earlier := ih (Nat.le_of_succ_le inside)
        obtain ⟨task, found⟩ : ∃ task, run.placed[count]? = some task :=
          ⟨_, List.getElem?_eq_getElem (by rwa [run.length_placed])⟩
        obtain ⟨task', found'⟩ : ∃ task, run'.placed[count]? = some task :=
          ⟨_, List.getElem?_eq_getElem (by rwa [run'.length_placed])⟩
        have next :=
          run.position_eq_of_before named run' bare distinct distinct' found found' earlier
        rw [before, before] at earlier ⊢
        rw [List.take_add_one, List.take_add_one, found, found']
        simp only [List.map_append, earlier, Option.toList_some, List.map_cons, List.map_nil, next]
  have all := first outlines.length le_rfl
  rwa [before, before, List.take_of_length_le run.length_placed.le,
    List.take_of_length_le run'.length_placed.le] at all

end Run

/-! ## Recompiling -/

/-- Toolsets that cannot be read end the request once every task has its entity id. -/
theorem outcome_of_unreadable {input : PlanInput} {toolsets : ToolsetSource}
    {options : CompileOptions} {fault : Fault} (busy : input.outlines ≠ [])
    (named : ∀ outline ∈ input.outlines, outline.id ≠ "")
    (unreadable : toolsets.entries = .error fault) (supply : Supply) :
    (compile input toolsets options).outcome supply =
      (.error fault, supply.ahead input.outlines.length) := by
  have failed : (ofPlan Grid.layout input toolsets options).outcome supply =
      (.error fault, (assigned input.outlines supply).2) := by
    unfold ofPlan
    split
    · rename_i idle
      exact absurd idle busy
    · unfold ofOutlines
      rw [unreadable]
      rfl
  rw [compile, Making.outcome_bind, failed, supply_assigned, identified_of_named named]

/-- Where every task has an id, all compilations of a plan onto an empty canvas fill one template. A
plan without tasks needs no toolsets. -/
theorem exists_template {input : PlanInput} {toolsets : ToolsetSource} {options : CompileOptions}
    (bare : options.startNodes = .arr []) (named : ∀ outline ∈ input.outlines, outline.id ≠ "")
    (readable : input.outlines = [] ∨ ∃ entries, toolsets.entries = .ok entries) :
    ∃ template : CanvasTemplate, template.Scoped ∧
      ∀ supply, supply.Distinct (2 * input.outlines.length) →
        (compile input toolsets options).Returns supply (template.fill supply.upcoming)
          (supply.ahead template.drawn) := by
  have blank : CanvasTemplate.Scoped ⟨[], [], [], 0⟩ := ⟨by simp, by simp⟩
  by_cases idle : input.outlines = []
  · refine ⟨_, blank, ?_⟩
    intro supply _
    exact compile_returns_iff.mpr (.inl ⟨idle, rfl, rfl⟩)
  · by_cases fresh : ∃ supply : Supply, supply.Distinct (2 * input.outlines.length)
    · -- the positions are those of one run, since no run has others
      obtain ⟨entries, readable⟩ := readable.resolve_left idle
      obtain ⟨supply, distinct⟩ := fresh
      obtain ⟨run⟩ := exists_run_of_bare readable bare input.outlines supply
      refine ⟨template input.outlines entries options.defaultModel
        ((run.placed.map PlacedTask.node).map Node.position) input.canvasInputs,
        template_scoped _ _ _ _ _, ?_⟩
      intro supply' distinct'
      obtain ⟨run'⟩ := exists_run_of_bare readable bare input.outlines supply'
      have known : run'.entries = entries := Except.ok.inj (run'.entries_eq.symm.trans readable)
      obtain ⟨filled, rest⟩ := run'.fill_template named distinct' input.canvasInputs
      rw [known, ← run.positions_eq named run' bare distinct distinct'] at filled
      exact compile_returns_iff.mpr (.inr ⟨idle, run', filled, rest⟩)
    · refine ⟨_, blank, ?_⟩
      intro supply distinct
      exact absurd ⟨supply, distinct⟩ fresh

/-- **Recompiling changes only the ids.** Where every task has an id, two compilations of a plan
onto an empty canvas fill the same template, in whatever way toolsets, model and layout are chosen:
they draw ids in the same number, and with the ids of the first replaced by those of the second,
each by the one that was drawn in the same place, the first canvas is the second. For that, the ids
for entities and nodes must be distinct in each. Toolsets that cannot be read end every compilation
of a plan that has tasks in the same way. -/
theorem template_of_compile (input : PlanInput) (toolsets : ToolsetSource) (autoLayout : Bool)
    (model : Json) (named : ∀ outline ∈ input.outlines, outline.id ≠ "") :
    let compiled := compile input toolsets ⟨autoLayout, model, .arr []⟩
    (∃ fault, toolsets.entries = .error fault ∧ ∀ supply,
      compiled.outcome supply = (.error fault, supply.ahead input.outlines.length)) ∨
    ∃ template : CanvasTemplate, template.Scoped ∧ ∀ first second : Supply,
      first.Distinct (2 * input.outlines.length) → second.Distinct (2 * input.outlines.length) →
      compiled.Returns first (template.fill first.upcoming) (first.ahead template.drawn) ∧
      compiled.Returns second (template.fill second.upcoming) (second.ahead template.drawn) ∧
      ∀ rename : String → String,
        (∀ slot < template.drawn, rename (first.upcoming slot) = second.upcoming slot) →
        template.fill (fun slot => rename (first.upcoming slot)) =
          template.fill second.upcoming := by
  intro compiled
  have bare : (CompileOptions.mk autoLayout model (.arr [])).startNodes = .arr [] := rfl
  by_cases readable : input.outlines = [] ∨ ∃ entries, toolsets.entries = .ok entries
  · right
    obtain ⟨template, slots, fills⟩ := exists_template bare named readable
    refine ⟨template, slots, ?_⟩
    intro first second distinct distinct'
    refine ⟨fills first distinct, fills second distinct', ?_⟩
    intro rename renames
    exact slots.fill_congr renames
  · left
    obtain ⟨busy, unread⟩ := not_or.mp readable
    rcases unreadable : toolsets.entries with fault | entries
    · exact ⟨fault, rfl, outcome_of_unreadable busy named unreadable⟩
    · exact absurd ⟨entries, unreadable⟩ unread

/-- Three tasks with three dependencies among them, and one on itself, placed on the grid with ids
that count from one and from elsewhere. A prompt mentions a task that comes later. -/
theorem template_of_compile_of_three :
    let input : PlanInput := .raw (.obj [("tasks", .arr [
      .obj [("id", .str "a"), ("dependentTasks", .arr [.str "b", .str "c"])],
      .obj [("id", .str "b"), ("prompt", .str "@\x7btype=agent,id=a,name=A\x7d")],
      .obj [("id", .str "c"), ("dependentTasks", .arr [.str "b", .str "c"])]])])
    let compiled := compile input (.parsed []) ⟨true, .null, .arr []⟩
    let first := Supply.counting
    let second := Supply.countingFrom 4096
    ∃ template : CanvasTemplate, template.Scoped ∧ template.drawn = 9 ∧
      compiled.Returns first (template.fill first.upcoming) (first.ahead template.drawn) ∧
      compiled.Returns second (template.fill second.upcoming) (second.ahead template.drawn) := by
  intro input compiled first second
  have named : ∀ outline ∈ input.outlines, outline.id ≠ "" := by decide
  have distinct : first.Distinct 6 := by
    unfold Supply.Distinct
    decide
  have distinct' : second.Distinct 6 := by
    unfold Supply.Distinct
    decide
  rcases template_of_compile input (.parsed []) true .null named with ⟨fault, unreadable, -⟩ |
    ⟨template, slots, fills⟩
  · cases unreadable
  · obtain ⟨once, again, -⟩ := fills first second distinct distinct'
    refine ⟨template, slots, ?_, once, again⟩
    have drawn : (compiled.outcome first).2.drawn = 9 := by decide +kernel
    have left : compiled.outcome first = _ := once
    rw [left] at drawn
    have total : 0 + template.drawn = 9 := drawn
    rw [← total, Nat.zero_add]

end Compilation

end PlanGraph
