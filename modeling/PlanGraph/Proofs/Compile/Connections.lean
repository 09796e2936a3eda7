import PlanGraph.Proofs.Compile.Draws
import PlanGraph.Proofs.Compile.Protocol
import PlanGraph.Proofs.Compile.Queries

/-!
# What the layout is told and what is drawn

Which nodes a task is connected with is decided twice. Before its node is there, the layout is told
by filters (`Placing.Tells`), and these pass over a dependency of a task on its own id. When all
nodes are there, edges are drawn (`Canvas.Joins`), and these pass over the node itself. Both decide
by the node that a dependency names: the first one with a task of its id (`NamedNode`).

On the grid, and with ids that never repeat, the two decisions are told apart by the id of the task
alone (`Compilation.connections_of_compile`). All that the layout is told is drawn. One more edge is
drawn, and one only, where a task depends on an id that it shares with a task before it: that id is
its own, but it names another node.
-/

namespace PlanGraph

/-! ## The two decisions -/

/-- The layout is told to connect the new node with a node, by the entity id of that node. -/
def Placing.Tells (request : Placing) (source : Node) : Prop :=
  ∃ filter ∈ request.connectTo, source.entityId = .ok filter.entityId

/-- An edge leads from one node to another. -/
def Canvas.Joins (canvas : Canvas) (source target : Node) : Prop :=
  ∃ edge ∈ canvas.edges, edge.source = source.id ∧ edge.target = target.id

/-- The id names the node: it is the first one with a task of that id. Nodes stand in the order of
the ids of their tasks. -/
def NamedNode (ids : List String) (nodes : List Node) (id : String) (node : Node) : Prop :=
  ∃ place, FirstAt ids id place ∧ nodes[place]? = some node

/-! ## Nodes that are told by their ids -/

/-- Where every id is drawn once, equal items stand at one place. -/
theorem place_eq_of_nodup {α β : Type} {key : α → β} {items : List α}
    (distinct : (items.map key).Nodup) {place other : Nat} {item : α}
    (found : items[place]? = some item) (found' : items[other]? = some item) : place = other := by
  obtain ⟨inside, -⟩ := List.getElem?_eq_some_iff.mp found
  exact (List.getElem?_inj inside distinct.of_map).mp (found.trans found'.symm)

/-- The entity id that is read off a node is the one that its payload holds. -/
theorem Node.entityJson_eq {node : Node} {entity : Json} (h : node.entityId = .ok entity) :
    node.entityJson = entity := by
  unfold entityId at h
  split at h
  · rename_i members payload
    cases h
    rw [entityJson, payload]
    rfl
  · cases h

namespace NamedNode

variable {ids : List String} {nodes : List Node} {id other : String} {node : Node} {index : Nat}

/-- The id of the task of a node names it unless an earlier task has that id. -/
theorem place_lt (h : NamedNode ids nodes id node) (own : ids[index]? = some id)
    (apart : nodes[index]? ≠ some node) : ∃ earlier < index, ids[earlier]? = some id := by
  obtain ⟨place, ⟨here, first⟩, found⟩ := h
  refine ⟨place, ?_, here⟩
  rcases Nat.lt_trichotomy place index with before | rfl | after
  · exact before
  · exact absurd found apart
  · exact absurd own (first index after)

/-- A node is named by one id, that of its task. -/
theorem id_eq (h : NamedNode ids nodes id node) (distinct : (nodes.map Node.id).Nodup)
    (own : ids[index]? = some other) (found : nodes[index]? = some node) : id = other := by
  obtain ⟨place, ⟨here, -⟩, found'⟩ := h
  rw [place_eq_of_nodup distinct found' found] at here
  exact Option.some.inj (here.symm.trans own)

end NamedNode

/-! ## What the filters select -/

/-- With symbols that tell the nodes, and entity ids that are distinct, a task is connected with the
nodes that its dependencies on other ids name. -/
theorem Sketch.tells_iff {setting : Setting} {sketch : Sketch} {shown nodes : List Node}
    {index : Nat} {ids : List String} (table : SymbolTable ids nodes setting.symbols)
    (distinct : (nodes.map Node.entityJson).Nodup) {source : Node} (listed : source ∈ nodes) :
    (sketch.request setting shown index).Tells source ↔
      ∃ dependency ∈ sketch.outline.dependencies, dependency ≠ sketch.outline.id ∧
        NamedNode ids nodes dependency source := by
  constructor
  · rintro ⟨filter, asked, entity⟩
    obtain ⟨dependency, depends, connects⟩ := List.mem_filterMap.mp asked
    rw [connection?, Option.ite_none_left_eq_some, Option.map_eq_some_iff] at connects
    obtain ⟨other, entityId, bound, rfl⟩ := connects
    refine ⟨dependency, depends, other, ?_⟩
    rcases firstAt_or_not_mem ids dependency with ⟨place, first⟩ | missing
    · obtain ⟨node, found, placed, itsEntity, known⟩ := table.known first
      obtain rfl : entityId = found := Option.some.inj (bound.symm.trans known)
      have same : source.entityJson = node.entityJson :=
        (Node.entityJson_eq entity).trans (Node.entityJson_eq itsEntity).symm
      obtain rfl : source = node :=
        List.inj_on_of_nodup_map distinct listed (List.mem_of_getElem? placed) same
      exact ⟨place, first, placed⟩
    · rw [table.unknown missing] at bound
      cases bound
  · rintro ⟨dependency, depends, other, place, first, placed⟩
    obtain ⟨node, entityId, found, entity, known⟩ := table.known first
    obtain rfl : source = node := Option.some.inj (placed.symm.trans found)
    refine ⟨⟨.str taskNodeType, .str entityId, NodeFilter.sourceHandle⟩, ?_, entity⟩
    refine List.mem_filterMap.mpr ⟨dependency, depends, ?_⟩
    rw [connection?, if_neg other, known]
    rfl

/-! ## What the edges join -/

namespace Compilation

/-- The first task of an id is found at the first place of that id. -/
theorem find?_ordered_eq_some {outlines : List Outline} {id : String} {task : Outline × Nat} :
    ((ordered outlines).find? fun other => other.1.id == id) = some task ↔
      ∃ place, FirstAt (orderedIds outlines) id place ∧ (ordered outlines)[place]? = some task := by
  have places : (orderedIds outlines).findIdx? (· == id) =
      (ordered outlines).findIdx? fun other => other.1.id == id := by
    rw [orderedIds, List.findIdx?_map]
    rfl
  simp only [List.find?_eq_bind_findIdx?_getElem?, Option.bind_eq_some_iff, firstAt_iff, places]

/-- Where node ids are distinct, the edges into the node of a task come from the other nodes that
its dependencies name. -/
theorem Wired.joins_iff {outlines : List Outline} {nodeId : Nat → Json} {canvas : Canvas}
    (wired : Wired outlines nodeId canvas) (distinct : (canvas.nodes.map Node.id).Nodup)
    {index : Nat} {task : Outline × Nat} {source target : Node}
    (found : (ordered outlines)[index]? = some task) (placed : canvas.nodes[index]? = some target)
    (listed : source ∈ canvas.nodes) :
    canvas.Joins source target ↔ source ≠ target ∧ ∃ dependency ∈ task.1.dependencies,
      NamedNode (orderedIds outlines) canvas.nodes dependency source := by
  have ids : ∀ {place : Nat} {entry : Outline × Nat}, (ordered outlines)[place]? = some entry →
      ∃ node, canvas.nodes[place]? = some node ∧ node.id = nodeId entry.2 := by
    intro place entry here
    have told := congrArg (·[place]?) wired.nodes
    simp only [List.getElem?_map, here, Option.map_some, Option.map_eq_some_iff] at told
    exact told
  have apart {node other : Node} (h : node ∈ canvas.nodes) (h' : other ∈ canvas.nodes)
      (same : node.id = other.id) : node = other :=
    List.inj_on_of_nodup_map distinct h h' same
  have targetListed : target ∈ canvas.nodes := List.mem_of_getElem? placed
  have targetId : target.id = nodeId task.2 := by
    obtain ⟨node, here, same⟩ := ids found
    rw [Option.some.inj (placed.symm.trans here), same]
  constructor
  · rintro ⟨edge, drawn, fromSource, toTarget⟩
    obtain ⟨asked, proper⟩ := wired.mem_links_iff.mp (List.mem_map_of_mem drawn)
    change edge.source ≠ edge.target at proper
    rw [fromSource, toTarget] at proper
    refine ⟨fun same => proper (congrArg Node.id same), ?_⟩
    obtain ⟨entry, inPlan, named⟩ := List.mem_flatMap.mp asked
    obtain ⟨dependency, depends, link⟩ := List.mem_filterMap.mp named
    obtain ⟨other, first, same⟩ := Option.map_eq_some_iff.mp link
    have otherId : nodeId other.2 = source.id := (congrArg Link.source same).trans fromSource
    have entryId : nodeId entry.2 = target.id := (congrArg Link.target same).trans toTarget
    -- the task that asks for the edge is the one whose node it leads to
    obtain rfl : entry = task :=
      wired.eq_of_nodeId_eq distinct ((ordered_perm outlines).mem_iff.mpr inPlan)
        (List.mem_of_getElem? found) (entryId.trans targetId)
    obtain ⟨place, firstAt, here⟩ := find?_ordered_eq_some.mp first
    obtain ⟨node, there, nodeSame⟩ := ids here
    obtain rfl : node = source :=
      apart (List.mem_of_getElem? there) listed (nodeSame.trans otherId)
    exact ⟨dependency, depends, place, firstAt, there⟩
  · rintro ⟨other, dependency, depends, place, first, there⟩
    obtain ⟨inside, -⟩ := List.getElem?_eq_some_iff.mp first.1
    rw [orderedIds, List.length_map] at inside
    obtain ⟨entry, here⟩ : ∃ entry, (ordered outlines)[place]? = some entry :=
      ⟨_, List.getElem?_eq_getElem inside⟩
    obtain ⟨node, there', nodeSame⟩ := ids here
    obtain rfl : source = node := Option.some.inj (there.symm.trans there')
    have drawn : (⟨nodeId entry.2, nodeId task.2⟩ : Link) ∈ canvas.edges.map Edge.link := by
      refine wired.mem_links_iff.mpr ⟨?_, ?_⟩
      · refine List.mem_flatMap.mpr
          ⟨task, (ordered_perm outlines).mem_iff.mp (List.mem_of_getElem? found),
            List.mem_filterMap.mpr ⟨dependency, depends, ?_⟩⟩
        rw [find?_ordered_eq_some.mpr ⟨place, first, here⟩]
        rfl
      · show nodeId entry.2 ≠ nodeId task.2
        rw [← nodeSame, ← targetId]
        exact fun same => other (apart listed targetListed same)
    obtain ⟨edge, there, link⟩ := List.mem_map.mp drawn
    refine ⟨edge, there, ?_, ?_⟩
    · exact (congrArg Link.source link).trans nodeSame.symm
    · exact (congrArg Link.target link).trans targetId.symm

namespace Run

variable {outlines : List Outline} {toolsets : ToolsetSource} {options : CompileOptions}
  {supply : Supply} (run : Run Grid.layout outlines toolsets options supply)

/-- The node of a placed task is on the canvas at the place of the task. -/
theorem getElem?_nodes {index : Nat} {task : PlacedTask} (found : run.placed[index]? = some task)
    (inputs : List Json) : (run.compilation inputs).canvas.nodes[index]? = some task.node := by
  show (run.placed.map PlacedTask.node)[index]? = _
  rw [List.getElem?_map, found, Option.map_some]

/-- The id of a placed task is at its place among the ids of the tasks. -/
theorem getElem?_taskIds {index : Nat} {task : PlacedTask}
    (found : run.placed[index]? = some task) :
    (taskIds outlines supply)[index]? = some task.sketch.outline.id := by
  rw [taskIds, orderedIds, List.getElem?_map, (run.sketch_getElem? found).1]
  rfl

section connected

variable (fresh : Function.Injective supply.name) (inputs : List Json) {index : Nat}
  {task : PlacedTask} (found : run.placed[index]? = some task) {source : Node}
include fresh found

/-- The layout is told of the nodes that the dependencies of the task on other ids name. -/
theorem tells_iff (listed : source ∈ (run.compilation inputs).canvas.nodes) :
    task.request.Tells source ↔ ∃ dependency ∈ task.sketch.outline.dependencies,
      dependency ≠ task.sketch.outline.id ∧ NamedNode (taskIds outlines supply)
        (run.compilation inputs).canvas.nodes dependency source := by
  obtain ⟨-, entities, -⟩ := (run.draws inputs).nodup fresh
  rw [(run.places.answers found).1]
  exact Sketch.tells_iff run.symbolTable entities listed

/-- All that the layout is told is drawn. One more edge is drawn where the task depends on its own
id and that names another node. -/
theorem joins_iff_tells_or (listed : source ∈ (run.compilation inputs).canvas.nodes) :
    (run.compilation inputs).canvas.Joins source task.node ↔ task.request.Tells source ∨
      (task.sketch.outline.id ∈ task.sketch.outline.dependencies ∧ source ≠ task.node ∧
        NamedNode (taskIds outlines supply) (run.compilation inputs).canvas.nodes
          task.sketch.outline.id source) := by
  obtain ⟨nodeIds, -⟩ := (run.draws inputs).nodup fresh
  have placed := run.getElem?_nodes found inputs
  have own := run.getElem?_taskIds found
  have joins : (run.compilation inputs).canvas.Joins source task.node ↔ source ≠ task.node ∧
      ∃ dependency ∈ task.sketch.outline.dependencies, NamedNode (taskIds outlines supply)
        (run.compilation inputs).canvas.nodes dependency source :=
    (run.wired run.hasTexts_grid inputs).joins_iff nodeIds (run.sketch_getElem? found).1 placed
      listed
  rw [run.tells_iff fresh inputs found listed, joins]
  constructor
  · rintro ⟨apart, dependency, depends, named⟩
    by_cases same : dependency = task.sketch.outline.id
    · subst same
      exact .inr ⟨depends, apart, named⟩
    · exact .inl ⟨dependency, depends, same, named⟩
  · rintro (⟨dependency, depends, other, named⟩ | ⟨depends, apart, named⟩)
    · refine ⟨?_, dependency, depends, named⟩
      -- the node of the task is named by its own id only
      rintro rfl
      exact other (named.id_eq nodeIds own placed)
    · exact ⟨apart, _, depends, named⟩

/-- The layout is told of just those nodes from which edges are drawn, unless the task depends on an
id that it shares with a task before it. -/
theorem joins_iff_tells_iff :
    (∀ source ∈ (run.compilation inputs).canvas.nodes,
        (run.compilation inputs).canvas.Joins source task.node ↔ task.request.Tells source) ↔
      ¬ (task.sketch.outline.id ∈ task.sketch.outline.dependencies ∧
        ∃ earlier < index, (taskIds outlines supply)[earlier]? = some task.sketch.outline.id) := by
  obtain ⟨nodeIds, -⟩ := (run.draws inputs).nodup fresh
  have placed := run.getElem?_nodes found inputs
  have own := run.getElem?_taskIds found
  constructor
  · rintro same ⟨depends, earlier, before, shared⟩
    rcases firstAt_or_not_mem (taskIds outlines supply) task.sketch.outline.id with
      ⟨place, first⟩ | missing
    · have notLater : place ≤ earlier := by
        by_contra later
        exact first.2 earlier (Nat.lt_of_not_le later) shared
      obtain ⟨source, -, there, -, -⟩ := run.symbolTable.known first
      have listed := List.mem_of_getElem? there
      have apart : source ≠ task.node := by
        rintro rfl
        exact absurd (place_eq_of_nodup nodeIds there placed) (by omega)
      have drawn := (run.joins_iff_tells_or fresh inputs found listed).mpr
        (.inr ⟨depends, apart, place, first, there⟩)
      -- the first node of the id is told, so it is named by another id, too
      obtain ⟨dependency, -, other, named⟩ :=
        (run.tells_iff fresh inputs found listed).mp ((same source listed).mp drawn)
      exact other (named.id_eq nodeIds first.1 there)
    · exact missing (List.mem_of_getElem? own)
  · intro unshared source listed
    rw [run.joins_iff_tells_or fresh inputs found listed, or_iff_left_iff_imp]
    rintro ⟨depends, apart, named⟩
    refine absurd ⟨depends, named.place_lt own ?_⟩ unshared
    rw [placed]
    exact fun same => apart (Option.some.inj same).symm

end connected

end Run

/-! ## Compilations -/

/-- A plan compiles onto an empty canvas once the toolsets are read. -/
theorem exists_compilation {toolsets : ToolsetSource} {options : CompileOptions}
    (readable : ∃ entries, toolsets.entries = .ok entries) (bare : options.startNodes = .arr [])
    (input : PlanInput) (supply : Supply) : ∃ compilation rest,
      (ofPlan Grid.layout input toolsets options).Returns supply compilation rest := by
  obtain ⟨entries, read⟩ := readable
  by_cases idle : input.outlines = []
  · exact ⟨empty, supply, ofPlan_returns_iff.mpr (.inl ⟨idle, rfl, rfl⟩)⟩
  · obtain ⟨run⟩ := exists_run_of_bare read bare input.outlines supply
    exact ⟨_, _, ofPlan_returns_iff.mpr (.inr ⟨idle, run, rfl, rfl⟩)⟩

/-- **What the layout is told and what is drawn.** With ids that never repeat and the grid, every
plan compiles onto an empty canvas once the toolsets are read, and whenever a plan compiles, edges
lead from node to node, and those into the node of a task come from the nodes that the layout was
told to connect it with, and from one more if the task depends on its own id and that id names
another node. So the two are the same exactly where no task before it shares its id, or the task
does not depend on that id. -/
theorem connections_of_compile {supply : Supply} (fresh : Function.Injective supply.name)
    (input : PlanInput) (toolsets : ToolsetSource) (options : CompileOptions) :
    let compiled := ofPlan Grid.layout input toolsets options
    let tasks := ordered (Outline.identifyAll input.outlines supply).1
    let ids := tasks.map fun task => task.1.id
    ((∃ entries, toolsets.entries = .ok entries) → options.startNodes = .arr [] →
      ∃ compilation rest, compiled.Returns supply compilation rest) ∧
    ∀ compilation rest, compiled.Returns supply compilation rest →
      let canvas := compilation.canvas
      compilation.requests.length = tasks.length ∧ canvas.nodes.length = tasks.length ∧
      (∀ edge ∈ canvas.edges, ∃ source ∈ canvas.nodes, ∃ target ∈ canvas.nodes,
        edge.source = source.id ∧ edge.target = target.id) ∧
      ∀ (index : Nat) (task : Outline × Nat) (request : Placing) (target : Node),
        tasks[index]? = some task → compilation.requests[index]? = some request →
        canvas.nodes[index]? = some target →
        (∀ source ∈ canvas.nodes, canvas.Joins source target ↔ request.Tells source ∨
          (task.1.id ∈ task.1.dependencies ∧ source ≠ target ∧
            NamedNode ids canvas.nodes task.1.id source)) ∧
        ((∀ source ∈ canvas.nodes, canvas.Joins source target ↔ request.Tells source) ↔
          ¬ (task.1.id ∈ task.1.dependencies ∧
            ∃ earlier < index, ids[earlier]? = some task.1.id)) := by
  intro compiled tasks ids
  constructor
  · intro readable bare
    exact exists_compilation readable bare input supply
  · intro compilation rest returned
    rcases ofPlan_returns_iff.mp returned with ⟨idle, rfl, -⟩ | ⟨-, run, rfl, -⟩
    · have none : tasks = [] := by
        show ordered (Outline.identifyAll input.outlines supply).1 = []
        rw [idle]
        rfl
      refine ⟨by rw [none]; rfl, by rw [none]; rfl, ?_, ?_⟩
      · intro edge drawn
        cases drawn
      · intro index task request target listed
        rw [none] at listed
        cases listed
    · have count : run.placed.length = tasks.length :=
        (List.length_map _).symm.trans (congrArg List.length run.map_entry)
      refine ⟨(List.length_map _).trans count, (List.length_map _).trans count, ?_, ?_⟩
      · intro edge drawn
        obtain ⟨source, target⟩ := (run.wired run.hasTexts_grid input.canvasInputs).ends_mem drawn
        obtain ⟨first, hfirst, same⟩ := List.mem_map.mp source
        obtain ⟨second, hsecond, same'⟩ := List.mem_map.mp target
        exact ⟨first, hfirst, second, hsecond, same.symm, same'.symm⟩
      · intro index task request target listed asked placed
        obtain ⟨own, found, rfl⟩ := run.exists_placed listed
        obtain rfl : own.request = request := by
          change (run.placed.map PlacedTask.request)[index]? = some request at asked
          rw [List.getElem?_map, found] at asked
          exact Option.some.inj asked
        obtain rfl : own.node = target :=
          Option.some.inj ((run.getElem?_nodes found input.canvasInputs).symm.trans placed)
        exact ⟨fun source => run.joins_iff_tells_or fresh input.canvasInputs found,
          run.joins_iff_tells_iff fresh input.canvasInputs found⟩

/-- Two tasks share an id, and a third one depends on it, on itself and on a task that is not there:
the layout is told of one node, and edges are drawn from the nodes that it is told of. -/
theorem connections_of_compile_of_shared :
    let input : PlanInput := .raw (.obj [("tasks", .arr [
      .obj [("id", .str "a"), ("dependentTasks", .arr [.str "b", .str "a", .str "z"])],
      .obj [("id", .str "b")], .obj [("id", .str "b")]])])
    ∃ compilation rest request target,
      (ofPlan Grid.layout input (.parsed []) .standard).Returns Supply.counting compilation rest ∧
      compilation.requests[2]? = some request ∧ compilation.canvas.nodes[2]? = some target ∧
      request.connectTo.map NodeFilter.entityId =
        [.str "ar-00000000000000000000000000000001"] ∧
      ∀ source ∈ compilation.canvas.nodes,
        compilation.canvas.Joins source target ↔ request.Tells source := by
  intro input
  obtain ⟨total, told⟩ := connections_of_compile (Supply.fresh_countingFrom 0 0) input (.parsed [])
    .standard
  obtain ⟨compilation, rest, returned⟩ := total ⟨[], rfl⟩ rfl
  obtain ⟨asked, made, -, connected⟩ := told compilation rest returned
  have three : (ordered (Outline.identifyAll input.outlines Supply.counting).1).length = 3 := rfl
  have third : (ordered (Outline.identifyAll input.outlines Supply.counting).1)[2]? =
      some (⟨"a", "", "", ["b", "a", "z"], []⟩, 0) := rfl
  have hrequest : 2 < compilation.requests.length := by
    rw [asked]
    exact three ▸ Nat.lt_succ_self 2
  have hnode : 2 < compilation.canvas.nodes.length := by
    rw [made]
    exact three ▸ Nat.lt_succ_self 2
  obtain ⟨-, same⟩ := connected 2 _ _ _ third (List.getElem?_eq_getElem hrequest)
    (List.getElem?_eq_getElem hnode)
  refine ⟨compilation, rest, _, _, returned, List.getElem?_eq_getElem hrequest,
    List.getElem?_eq_getElem hnode, ?_, same.mpr ?_⟩
  · have filters : ((ofPlan Grid.layout input (.parsed []) .standard).outcome
        Supply.counting).1.toOption.map
          (fun compilation => compilation.requests.map fun request =>
            request.connectTo.map NodeFilter.entityId) =
        some [[], [], [.str "ar-00000000000000000000000000000001"]] := by
      decide +kernel
    have outcome : (ofPlan Grid.layout input (.parsed []) .standard).outcome Supply.counting =
        _ := returned
    rw [outcome] at filters
    have listed := congrArg (·[2]?) (Option.some.inj filters)
    simp only [List.getElem?_map, List.getElem?_eq_getElem hrequest, Option.map_some] at listed
    exact Option.some.inj listed
  · rintro ⟨-, earlier, before, shared⟩
    change ["b", "b", "a"][earlier]? = some "a" at shared
    match earlier, before with
    | 0, _ => exact absurd shared (by decide)
    | 1, _ => exact absurd shared (by decide)

/-- A task depends on an id that it shares with a task before it: an edge is drawn from the node of
that task, and the layout is told of no node. -/
theorem joins_untold :
    let input : PlanInput := .raw (.obj [("tasks", .arr [
      .obj [("id", .str "b")], .obj [("id", .str "b"), ("dependentTasks", .arr [.str "b"])]])])
    ∃ compilation rest source target request,
      (ofPlan Grid.layout input (.parsed []) .standard).Returns Supply.counting compilation rest ∧
      compilation.canvas.nodes = [source, target] ∧ compilation.requests[1]? = some request ∧
      compilation.canvas.Joins source target ∧ ¬ request.Tells source := by
  intro input
  obtain ⟨compilation, rest, returned⟩ : ∃ compilation rest,
      (ofPlan Grid.layout input (.parsed []) .standard).Returns Supply.counting compilation rest :=
    exists_compilation ⟨[], rfl⟩ rfl input Supply.counting
  have read : ((ofPlan Grid.layout input (.parsed []) .standard).outcome
      Supply.counting).1.toOption.map (fun compilation =>
        (compilation.canvas.nodes.map Node.id, compilation.canvas.edges.map Edge.link,
          compilation.requests.map Placing.connectTo)) =
      some ([.str "node-00000000000000000000000000000003",
          .str "node-00000000000000000000000000000004"],
        [⟨.str "node-00000000000000000000000000000003",
          .str "node-00000000000000000000000000000004"⟩], [[], []]) := by
    decide +kernel
  have outcome : (ofPlan Grid.layout input (.parsed []) .standard).outcome Supply.counting =
      _ := returned
  rw [outcome] at read
  simp only [Except.toOption, Option.map_some, Option.some.injEq, Prod.mk.injEq,
    List.map_eq_cons_iff, List.map_eq_nil_iff] at read
  obtain ⟨⟨source, _, nodes, sourceId, target, _, rfl, targetId, rfl⟩,
    ⟨edge, _, edges, link, rfl⟩, _, _, requests, -, request, _, rfl, silent, rfl⟩ := read
  refine ⟨compilation, rest, source, target, request, returned, nodes, by rw [requests]; rfl,
    ⟨edge, ?_, ?_, ?_⟩, ?_⟩
  · rw [edges]
    exact List.mem_singleton_self edge
  · exact (congrArg Link.source link).trans sourceId.symm
  · exact (congrArg Link.target link).trans targetId.symm
  · rintro ⟨filter, asked, -⟩
    rw [silent] at asked
    cases asked

end Compilation

end PlanGraph
