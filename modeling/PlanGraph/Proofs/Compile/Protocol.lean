import PlanGraph.Proofs.Compile.Edges
import PlanGraph.Proofs.Compile.Ids

/-!
# What the layout is asked

The layout is someone else's program, and compiling a plan keeps to a protocol with it, whatever it
answers (`protocol_of_compile`).

* It is called once for each task, in the order of processing, and nothing else happens to the
  supply of ids between two calls (`Layout.Called`).
* Each call shows what is on the canvas by then: the nodes that were there before and the answers to
  the earlier calls, as they were given, and no edges. The nodes to connect the new one with are
  told by entity ids, so that tasks can be named whose nodes do not exist yet (`Placing.AsksFor`).
* The canvas has the answers for its nodes, and nothing else.

A layout that always answers with a text as id (`Layout.Answers`) makes every plan compile.
-/

namespace PlanGraph

/-! ## Layouts that answer -/

/-- The layout answers every request, in whatever state the supply is, with a node that has a text
as its id. -/
def Layout.Answers (layout : Layout) : Prop :=
  ∀ index request supply, ∃ node rest, (layout index request).Returns supply node rest ∧
    ∃ id, node.id = .str id

/-- A layout that always answers gives texts as ids. -/
theorem Layout.Answers.named {layout : Layout} (answers : layout.Answers) : layout.Named := by
  intro index request supply node rest returned
  obtain ⟨other, _, answer, id, text⟩ := answers index request supply
  have same : node = other := by
    have outcomes := returned.symm.trans answer
    cases outcomes
    rfl
  exact ⟨id, same ▸ text⟩

/-- The layout is called with some requests one after another, the first time with the given number,
and gives these nodes. The calls share one supply of ids. -/
inductive Layout.Called (layout : Layout) :
    Nat → Supply → List (Placing × Node) → Supply → Prop where
  /-- There is no call. -/
  | nil {index : Nat} {supply : Supply} : Called layout index supply [] supply
  /-- There is a first call, and the others follow. -/
  | cons {index : Nat} {supply between rest : Supply} {request : Placing} {node : Node}
      {more : List (Placing × Node)} (answer : (layout index request).Returns supply node between)
      (later : Called layout (index + 1) between more rest) :
      Called layout index supply ((request, node) :: more) rest

/-- Each call in a row is made in the state that the earlier ones leave, and is answered with its
node. -/
theorem Layout.Called.exists_answer {layout : Layout} {index : Nat} {supply rest : Supply}
    {calls : List (Placing × Node)} (called : layout.Called index supply calls rest) {place : Nat}
    {request : Placing} {node : Node} (here : calls[place]? = some (request, node)) :
    ∃ before after, layout.Called index supply (calls.take place) before ∧
      (layout (index + place) request).Returns before node after := by
  induction called generalizing place with
  | nil => cases here
  | cons answer later ih =>
      cases place with
      | zero =>
          cases here
          exact ⟨_, _, .nil, answer⟩
      | succ place =>
          obtain ⟨before, after, earlier, answer'⟩ := ih here
          rw [Nat.add_right_comm] at answer'
          exact ⟨before, after, .cons answer earlier, answer'⟩

/-- What a request asks for a task: `shown` are the nodes on the canvas, `index` is the number of
the call, `ids` are those of all tasks in the order of processing, and `entityOf` tells the entity
id of each number. Positions are left to the layout where `automatic` says so. -/
structure Placing.AsksFor (request : Placing) (automatic : Bool) (shown : List Node) (index : Nat)
    (ids : List String) (entityOf : Nat → String) (task : Outline) : Prop where
  /-- The nodes are those on the canvas. -/
  nodes : request.nodes = shown
  /-- There is no edge yet. -/
  edges : request.edges = []
  /-- Whether positions are left to the layout is passed on. -/
  autoLayout : request.autoLayout = automatic
  /-- The node has no position where that is left to the layout, and one in the column otherwise. -/
  position : request.node.position =
    if automatic then none else some (.obj [("x", .int 0), ("y", .int (240 * index))])
  /-- The node is one of a task. -/
  type : request.node.type = .str "skillResponse"
  /-- The node has the title of the task. -/
  title : request.node.data.getD "title" = .str task.title
  /-- The node has the entity id of the number of the call. -/
  entityId : request.node.data.getD "entityId" = .str (entityOf index)
  /-- Each dependency on another task that is there is told by the entity id of the first task of
  its id. -/
  connectTo : request.connectTo = task.dependencies.filterMap fun dependency =>
    if dependency = task.id then none
    else (ids.findIdx? (· == dependency)).map fun place =>
      ⟨.str "skillResponse", .str (entityOf place), "source"⟩

namespace Compilation

/-! ## Calls -/

section placing

variable {layout : Layout} {setting : Setting} {nodes : List Node} {index : Nat}
  {supply rest : Supply} {placed : List PlacedTask}

/-- Where the layout always answers, all tasks are placed. -/
theorem exists_places_of_answers (answers : layout.Answers) (setting : Setting)
    (nodes : List Node) (index : Nat) (sketches : List Sketch) (supply : Supply) :
    ∃ placed rest, placed.map PlacedTask.sketch = sketches ∧
      Places layout setting nodes index supply placed rest := by
  induction sketches generalizing nodes index supply with
  | nil => exact ⟨[], supply, rfl, .nil⟩
  | cons sketch more ih =>
      obtain ⟨node, between, answer, -⟩ :=
        answers index (sketch.request setting nodes index) supply
      obtain ⟨placed, rest, sketched, later⟩ := ih (nodes ++ [node]) (index + 1) between
      refine ⟨_, rest, ?_, .cons answer later⟩
      rw [List.map_cons, sketched]

/-- Placing tasks is calling the layout for each. -/
theorem Places.called (h : Places layout setting nodes index supply placed rest) :
    layout.Called index supply (placed.map fun task => (task.request, task.node)) rest := by
  induction h with
  | nil => exact .nil
  | cons answer later ih => exact .cons answer ih

end placing

/-! ## Runs -/

variable {layout : Layout} {outlines : List Outline} {toolsets : ToolsetSource}
  {options : CompileOptions} {supply : Supply}

/-- Where the layout always answers, every list of tasks is compiled once the toolsets and the nodes
on the canvas are read. -/
theorem exists_run_of_answers (answers : layout.Answers) {entries : List Json} {start : List Node}
    (readable : toolsets.entries = .ok entries)
    (known : Node.listOfJson options.startNodes = .ok start) (outlines : List Outline)
    (supply : Supply) : Nonempty (Run layout outlines toolsets options supply) := by
  obtain ⟨placed, rest, sketched, places⟩ := exists_places_of_answers answers
    ⟨(assigned outlines supply).1.symbols, entries, options.defaultModel, options.autoLayout⟩ start
    0 (sketches (ordered (identified outlines supply).1) (assigned outlines supply).1.entityIds)
    (assigned outlines supply).2
  exact Run.exists_of_places readable known sketched places (places.hasTexts answers.named)

namespace Run

variable (run : Run layout outlines toolsets options supply)

/-- The nodes of the canvas are what the layout gave in a row of calls. -/
theorem called (inputs : List Json) :
    layout.Called 0 (assigned outlines supply).2
      ((run.compilation inputs).requests.zip (run.compilation inputs).canvas.nodes)
      run.between := by
  have calls := run.places.called
  rw [← List.zip_map'] at calls
  exact calls

/-- No other node is on the canvas than those that the layout gave when it was called. -/
theorem not_mem_nodes {node : Node} (inputs : List Json)
    (never : ∀ (index : Nat) (request : Placing) (before after : Supply),
      (run.compilation inputs).requests[index]? = some request →
      layout.Called 0 (assigned outlines supply).2
        (((run.compilation inputs).requests.zip (run.compilation inputs).canvas.nodes).take index)
        before →
      ¬ (layout index request).Returns before node after) :
    node ∉ (run.compilation inputs).canvas.nodes := by
  intro h
  obtain ⟨task, listed, rfl⟩ := List.mem_map.mp h
  obtain ⟨index, found⟩ := List.getElem?_of_mem listed
  have asked : (run.compilation inputs).requests[index]? = some task.request := by
    change (run.placed.map PlacedTask.request)[index]? = _
    rw [List.getElem?_map, found]
    rfl
  have given : (run.compilation inputs).canvas.nodes[index]? = some task.node := by
    change (run.placed.map PlacedTask.node)[index]? = _
    rw [List.getElem?_map, found]
    rfl
  obtain ⟨before, after, earlier, answer⟩ :=
    (run.called inputs).exists_answer (List.getElem?_zip_eq_some.mpr ⟨asked, given⟩)
  rw [Nat.zero_add] at answer
  exact never index task.request before after asked earlier answer

/-- The request for a placed task asks for it, and shows the answers to the earlier calls. -/
theorem asksFor_of_placed {index : Nat} {task : PlacedTask}
    (found : run.placed[index]? = some task) :
    task.request.AsksFor options.autoLayout
      (run.start ++ (run.placed.map PlacedTask.node).take index) index (taskIds outlines supply)
      (fun number => entityName ((identified outlines supply).2.upcoming number))
      task.sketch.outline := by
  obtain ⟨request, -⟩ := run.places.answers found
  rw [Nat.zero_add, List.map_take] at request
  obtain ⟨-, entity⟩ := run.sketch_getElem? found
  rw [request]
  refine ⟨rfl, rfl, rfl, ?_, rfl, rfl, congrArg Json.str entity, ?_⟩
  · have row : (index * Sketch.rowStep : Int) = 240 * index := Int.mul_comm _ _
    change (if options.autoLayout then none else some (Sketch.stacked index)) = _
    rw [Sketch.stacked, row]
  · -- a dependency is looked up among the symbols, which tell the first task of its id
    apply List.filterMap_congr
    intro dependency _
    rw [Sketch.connection?, lookup_symbols, Option.map_map]
    rfl

/-- Each call asks for the task of its number. -/
theorem asksFor {inputs : List Json} {index : Nat} {task : Outline × Nat} {request : Placing}
    (listed : (ordered (identified outlines supply).1)[index]? = some task)
    (asked : (run.compilation inputs).requests[index]? = some request) :
    request.AsksFor options.autoLayout
      (run.start ++ (run.compilation inputs).canvas.nodes.take index) index
      (taskIds outlines supply)
      (fun number => entityName ((identified outlines supply).2.upcoming number)) task.1 := by
  change (run.placed.map PlacedTask.request)[index]? = some request at asked
  rw [List.getElem?_map, Option.map_eq_some_iff] at asked
  obtain ⟨placed, found, rfl⟩ := asked
  have own : placed.entry = task :=
    Option.some.inj ((run.sketch_getElem? found).1.symm.trans listed)
  rw [← own]
  exact run.asksFor_of_placed found

end Run

/-! ## Compilations -/

/-- **What the layout is asked.** Whatever a layout answers, as long as its nodes have texts as ids,
every plan compiles once the toolsets and the nodes on the canvas are read. The layout is called
once for each task, in the order of processing; each call asks for its task and shows the nodes on
the canvas, which are those from before and the answers so far. The nodes of the compiled plan are
the answers: a node from before is among them only if one of the calls that were made, in the state
that the earlier ones left, is answered with it. -/
theorem protocol_of_compile {layout : Layout} (answers : layout.Answers)
    {toolsets : ToolsetSource} {entries : List Json} (readable : toolsets.entries = .ok entries)
    {options : CompileOptions} {start : List Node}
    (known : Node.listOfJson options.startNodes = .ok start) (input : PlanInput)
    (supply : Supply) :
    ∃ compilation rest,
      (ofPlan layout input toolsets options).Returns supply compilation rest ∧
      let tasks := ordered (Outline.identifyAll input.outlines supply).1
      let nodes := compilation.canvas.nodes
      compilation.requests.length = input.outlines.length ∧
      nodes.length = input.outlines.length ∧
      (∃ entityOf : Nat → String, ∀ (index : Nat) (task : Outline × Nat) (request : Placing),
        tasks[index]? = some task → compilation.requests[index]? = some request →
        request.AsksFor options.autoLayout (start ++ nodes.take index) index
          (tasks.map fun task => task.1.id) entityOf task.1) ∧
      ∃ first last, layout.Called 0 first (compilation.requests.zip nodes) last ∧
        ∀ node ∈ start, (∀ (index : Nat) (request : Placing) (before after : Supply),
          compilation.requests[index]? = some request →
          layout.Called 0 first ((compilation.requests.zip nodes).take index) before →
          ¬ (layout index request).Returns before node after) → node ∉ nodes := by
  by_cases idle : input.outlines = []
  · refine ⟨empty, supply, ofPlan_returns_iff.mpr (.inl ⟨idle, rfl, rfl⟩), ?_⟩
    rw [idle]
    refine ⟨rfl, rfl, ⟨fun _ => "", ?_⟩, supply, supply, .nil, ?_⟩
    · intro index task request _ asked
      cases asked
    · intro node _ _ h
      cases h
  · obtain ⟨run⟩ := exists_run_of_answers answers readable known input.outlines supply
    have returned := ofPlan_returns_iff.mpr (.inr ⟨idle, run, rfl, rfl⟩)
    obtain rfl : start = run.start := Except.ok.inj (known.symm.trans run.start_eq)
    refine ⟨_, _, returned, ?_, ?_, ⟨_, fun _ _ _ => run.asksFor⟩, _, _, run.called _,
      fun node _ => run.not_mem_nodes _⟩
    · exact (List.length_map _).trans run.length_placed
    · exact (List.length_map _).trans run.length_placed

/-- Two tasks share an id, and the task that is listed first is processed last: it depends on that
id twice, on itself and on a task that is not there. All nodes are given the id of a node from
before, which is not among them. -/
theorem protocol_of_compile_of_shared :
    let layout : Layout := fun _ request => pure { request.node with id := .str "s" }
    let options : CompileOptions :=
      { CompileOptions.standard with startNodes := .arr [.obj [("id", .str "s")]] }
    let input : PlanInput := .raw (.obj [("tasks", .arr [
      .obj [("id", .str "a"),
        ("dependentTasks", .arr [.str "b", .str "a", .str "z", .str "b"])],
      .obj [("id", .str "b")], .obj [("id", .str "b")]])])
    layout.Answers ∧ ∃ compilation rest,
      (ofPlan layout input (.parsed []) options).Returns Supply.counting compilation rest ∧
      compilation.canvas.nodes.length = 3 ∧
      ⟨.str "s", .str "", .obj [], none, false⟩ ∉ compilation.canvas.nodes ∧ ∃ request first,
        compilation.requests[2]? = some request ∧
        request.node.position = some (.obj [("x", .int 0), ("y", .int 480)]) ∧
        request.connectTo = [⟨.str "skillResponse", .str first, "source"⟩,
          ⟨.str "skillResponse", .str first, "source"⟩] := by
  intro layout options input
  have answers : layout.Answers := by
    intro index request supply
    exact ⟨{ request.node with id := .str "s" }, supply,
      Making.returns_pure_iff.mpr ⟨rfl, rfl⟩, "s", rfl⟩
  have readable : (ToolsetSource.parsed []).entries = .ok [] := rfl
  have known : Node.listOfJson options.startNodes =
      .ok [⟨.str "s", .str "", .obj [], none, false⟩] := rfl
  obtain ⟨compilation, rest, returned, asked, placed, ⟨entityOf, asks⟩, _, _, -, apart⟩ :=
    protocol_of_compile answers readable known input Supply.counting
  have three : input.outlines.length = 3 := rfl
  have inside : 2 < compilation.requests.length := by
    rw [asked, three]
    decide
  have last : (ordered (Outline.identifyAll input.outlines Supply.counting).1)[2]? =
      some (⟨"a", "", "", ["b", "a", "z", "b"], []⟩, 0) := rfl
  have third := asks 2 _ _ last (List.getElem?_eq_getElem inside)
  refine ⟨answers, compilation, rest, returned, placed.trans three, ?_, _, entityOf 0,
    List.getElem?_eq_getElem inside, third.position, third.connectTo⟩
  -- every request asks for the node of a task, and the answer is of the same type
  refine apart _ List.mem_cons_self fun index request before after made _ answer => ?_
  have within : index < (ordered (Outline.identifyAll input.outlines Supply.counting).1).length :=
    (List.getElem?_eq_some_iff.mp made).1.trans_eq asked
  have type := (asks index _ request (List.getElem?_eq_getElem within) made).type
  obtain ⟨given, -⟩ := Making.returns_pure_iff.mp answer
  have blank : request.node.type = .str "" := congrArg Node.type given
  exact absurd (type.symm.trans blank) (by decide)

end Compilation

end PlanGraph
