import PlanGraph.Proofs.Compile.Run

/-!
# Edges are dependencies

Edges are drawn from the finished nodes, in the order of the plan, while nodes are placed, and ids
bound to them, in the order of processing. For layouts that give texts as ids (`Layout.Named`),
equal ones included, the edges of a compiled plan are the dependencies of its tasks and nothing else
(`Compilation.edges_of_compile`): those that name a task, without loops and without repetitions.

* `Compilation.dependencies` says what a plan asks for: for each task in the order of the plan and
  each of its dependencies, the link from the node of the first task of that id, in the order of
  processing, to the node of the task.
* `Compilation.Wired` says that a canvas draws just that; what follows for its edges is proved from
  it alone (`Wired.nodup`, `Wired.source_ne_target`, `Wired.ends_mem`, `Wired.link_mem`).
-/

namespace PlanGraph

/-! ## Layouts that give texts as ids -/

/-- Every node that the layout gives has a text as its id; ids may repeat. -/
def Layout.Named (layout : Layout) : Prop :=
  ∀ index request supply node rest, (layout index request).Returns supply node rest →
    ∃ id, node.id = .str id

/-- The layout gives the node in the call with a number, for a task with its place in the plan. -/
def Layout.Gives (layout : Layout) (index : Nat) (entry : Outline × Nat) (node : Node) : Prop :=
  ∃ (sketch : Sketch) (setting : Setting) (nodes : List Node) (before after : Supply),
    (sketch.outline, sketch.place) = entry ∧
      (layout index (sketch.request setting nodes index)).Returns before node after

/-! ## Links between texts -/

/-- Texts are the same when they are equal. -/
theorem Json.same_str (a b : String) : (Json.str a).same (.str b) = (a == b) := by
  simp [Json.same]

/-- Without repetitions, no item occurs twice. -/
theorem nodup_eraseDups {α : Type} [BEq α] [LawfulBEq α] : (items : List α) → items.eraseDups.Nodup
  | [] => List.nodup_nil
  | item :: rest => by
      have shorter : (rest.filter fun other => !other == item).length < rest.length + 1 :=
        Nat.lt_succ_of_le (List.length_filter_le _ _)
      rw [List.eraseDups_cons, List.nodup_cons]
      refine ⟨fun h => ?_, nodup_eraseDups _⟩
      simpa using (List.mem_filter.mp (List.mem_eraseDups.mp h)).2
termination_by items => items.length

namespace Link

/-- Both ends are texts. -/
def Plain (link : Link) : Prop :=
  ∃ source target, link = ⟨.str source, .str target⟩

/-- A link between texts is a loop when its ends are equal. -/
theorem Plain.isLoop_eq {link : Link} (h : link.Plain) :
    link.isLoop = decide (link.source = link.target) := by
  obtain ⟨source, target, rfl⟩ := h
  simp [isLoop, Json.same_str, beq_eq_decide]

/-- Links between texts are the same when they are equal. -/
theorem Plain.same_iff {link other : Link} (h : link.Plain) (h' : other.Plain) :
    link.same other = true ↔ link = other := by
  obtain ⟨source, target, rfl⟩ := h
  obtain ⟨source', target', rfl⟩ := h'
  simp [same, Json.same_str]

/-- Texts can be looked up. -/
theorem Plain.isKeyable {link : Link} (h : link.Plain) : link.isKeyable = true := by
  obtain ⟨source, target, rfl⟩ := h
  rfl

/-- Among links between texts, those are left out that were seen before, and repetitions. -/
theorem distinct_eq_eraseDups {seen links : List Link} (hseen : ∀ link ∈ seen, link.Plain)
    (hlinks : ∀ link ∈ links, link.Plain) :
    distinct seen links = (links.filter fun link => decide (link ∉ seen)).eraseDups := by
  induction links generalizing seen with
  | nil => rfl
  | cons link rest ih =>
      have plain : link.Plain := hlinks link List.mem_cons_self
      have others : ∀ link ∈ rest, link.Plain :=
        fun link hlink => hlinks link (List.mem_cons_of_mem _ hlink)
      have known : seen.any link.same = true ↔ link ∈ seen := by
        rw [List.any_eq_true]
        constructor
        · rintro ⟨other, hother, same⟩
          rw [(plain.same_iff (hseen other hother)).mp same]
          exact hother
        · intro hlink
          exact ⟨link, hlink, (plain.same_iff plain).mpr rfl⟩
      rw [distinct]
      by_cases h : link ∈ seen
      · rw [if_pos (known.mpr h), ih hseen others, List.filter_cons_of_neg (by simp [h])]
      · have now : ∀ other ∈ link :: seen, other.Plain := by
          intro other hother
          rcases List.mem_cons.mp hother with rfl | hother
          · exact plain
          · exact hseen other hother
        rw [if_neg (fun found => h (known.mp found)), ih now others,
          List.filter_cons_of_pos (by simp [h]), List.eraseDups_cons, List.filter_filter]
        congr 2
        apply List.filter_congr
        intro other _
        simp [beq_eq_decide]

/-- Links between texts become edges unless they are loops or repetitions. -/
theorem kept_of_plain {links : List Link} (h : ∀ link ∈ links, link.Plain) :
    kept links =
      .ok (links.filter fun link => decide (link.source ≠ link.target)).eraseDups := by
  have proper : (links.filter (!·.isLoop)) =
      links.filter fun link => decide (link.source ≠ link.target) := by
    apply List.filter_congr
    intro link hlink
    simp [(h link hlink).isLoop_eq]
  have plain : ∀ link ∈ links.filter fun link => decide (link.source ≠ link.target), link.Plain :=
    fun link hlink => h link (List.mem_filter.mp hlink).1
  have keyable : (links.filter fun link => decide (link.source ≠ link.target)).all isKeyable =
      true :=
    List.all_eq_true.mpr fun link hlink => (plain link hlink).isKeyable
  unfold kept
  rw [proper]
  simp only [keyable, if_true]
  rw [distinct_eq_eraseDups (by simp) plain]
  simp

/-- Links between nodes that have texts as ids are between texts. -/
theorem plain_of_mem_among {placed : List PlacedTask}
    (named : ∀ task ∈ placed, ∃ id, task.node.id = .str id) {count : Nat} {link : Link}
    (h : link ∈ among placed count) : link.Plain := by
  obtain ⟨task, htask, asked⟩ := List.mem_flatMap.mp h
  obtain ⟨dependency, -, found⟩ := List.mem_filterMap.mp asked
  obtain ⟨source, names, rfl⟩ := Option.map_eq_some_iff.mp found
  obtain ⟨place, -, listed⟩ := List.mem_filterMap.mp htask
  obtain ⟨target, text⟩ := named task (List.mem_of_find?_eq_some listed)
  obtain ⟨first, hfirst, rfl⟩ := Option.map_eq_some_iff.mp (Option.filter_eq_some_iff.mp names).1
  obtain ⟨source, text'⟩ := named first (List.mem_of_find?_eq_some hfirst)
  exact ⟨source, target, by rw [text, text']⟩

end Link

/-- The link that an edge draws. -/
def Edge.link (edge : Edge) : Link :=
  ⟨edge.source, edge.target⟩

/-- Each link is drawn as one edge. -/
theorem Link.map_link_drawEdges (links : List Link) (supply : Supply) :
    (Link.drawEdges links supply).1.map Edge.link = links := by
  induction links generalizing supply with
  | nil => rfl
  | cons link rest ih =>
      change link :: (Link.drawEdges rest _).1.map Edge.link = link :: rest
      rw [ih]

namespace Compilation

/-! ## What the dependencies of a plan ask for -/

/-- The links that the tasks of a plan ask for, by the ids of their nodes. A dependency names the
first task of its id in the order of processing. -/
def dependencies (outlines : List Outline) (nodeId : Nat → Json) : List Link :=
  outlines.zipIdx.flatMap fun task => task.1.dependencies.filterMap fun dependency =>
    ((ordered outlines).find? fun other => other.1.id == dependency).map fun other =>
      ⟨nodeId other.2, nodeId task.2⟩

/-- The nodes of a canvas are those of the tasks, and its edges draw what the tasks ask for. -/
structure Wired (outlines : List Outline) (nodeId : Nat → Json) (canvas : Canvas) : Prop where
  /-- There is one node for each task, in the order of processing. -/
  nodes : canvas.nodes.map Node.id = (ordered outlines).map fun task => nodeId task.2
  /-- The edges are the dependencies, without loops and repetitions. -/
  edges : canvas.edges.map Edge.link =
    ((dependencies outlines nodeId).filter fun link => decide (link.source ≠ link.target)).eraseDups

namespace Wired

variable {outlines : List Outline} {nodeId : Nat → Json} {canvas : Canvas}

/-- No two nodes are joined twice in one direction. -/
theorem nodup (wired : Wired outlines nodeId canvas) : (canvas.edges.map Edge.link).Nodup := by
  rw [wired.edges]
  exact nodup_eraseDups _

/-- What is drawn are the dependencies that are no loops. -/
theorem mem_links_iff (wired : Wired outlines nodeId canvas) {link : Link} :
    link ∈ canvas.edges.map Edge.link ↔
      link ∈ dependencies outlines nodeId ∧ link.source ≠ link.target := by
  rw [wired.edges, List.mem_eraseDups, List.mem_filter, decide_eq_true_eq]

/-- No edge joins a node with itself. -/
theorem source_ne_target (wired : Wired outlines nodeId canvas) {edge : Edge}
    (h : edge ∈ canvas.edges) : edge.source ≠ edge.target :=
  (wired.mem_links_iff.mp (List.mem_map_of_mem h)).2

/-- Every task has its node. -/
theorem nodeId_mem (wired : Wired outlines nodeId canvas) {task : Outline × Nat}
    (h : task ∈ ordered outlines) : nodeId task.2 ∈ canvas.nodes.map Node.id := by
  rw [wired.nodes]
  exact List.mem_map_of_mem h

/-- Every edge leads from a node to a node. -/
theorem ends_mem (wired : Wired outlines nodeId canvas) {edge : Edge} (h : edge ∈ canvas.edges) :
    edge.source ∈ canvas.nodes.map Node.id ∧ edge.target ∈ canvas.nodes.map Node.id := by
  obtain ⟨drawn, -⟩ := wired.mem_links_iff.mp (List.mem_map_of_mem h)
  obtain ⟨task, htask, asked⟩ := List.mem_flatMap.mp drawn
  obtain ⟨dependency, -, named⟩ := List.mem_filterMap.mp asked
  obtain ⟨other, found, same⟩ := Option.map_eq_some_iff.mp named
  have source : nodeId other.2 = edge.source := congrArg Link.source same
  have target : nodeId task.2 = edge.target := congrArg Link.target same
  rw [← source, ← target]
  exact ⟨wired.nodeId_mem (List.mem_of_find?_eq_some found),
    wired.nodeId_mem ((ordered_perm outlines).mem_iff.mpr htask)⟩

/-- Where node ids are distinct, tasks with one node are one task. -/
theorem eq_of_nodeId_eq (wired : Wired outlines nodeId canvas)
    (distinct : (canvas.nodes.map Node.id).Nodup) {task other : Outline × Nat}
    (h : task ∈ ordered outlines) (h' : other ∈ ordered outlines)
    (same : nodeId task.2 = nodeId other.2) : task = other := by
  rw [wired.nodes] at distinct
  exact List.inj_on_of_nodup_map distinct h h' same

/-- Where node ids are distinct, every dependency that names another task is drawn. -/
theorem link_mem (wired : Wired outlines nodeId canvas)
    (distinct : (canvas.nodes.map Node.id).Nodup) {task other : Outline × Nat} {dependency : String}
    (listed : task ∈ outlines.zipIdx) (asked : dependency ∈ task.1.dependencies)
    (found : ((ordered outlines).find? fun entry => entry.1.id == dependency) = some other)
    (apart : other ≠ task) :
    ⟨nodeId other.2, nodeId task.2⟩ ∈ canvas.edges.map Edge.link := by
  refine wired.mem_links_iff.mpr ⟨?_, ?_⟩
  · refine List.mem_flatMap.mpr ⟨task, listed, List.mem_filterMap.mpr ⟨dependency, asked, ?_⟩⟩
    rw [found]
    rfl
  · intro same
    have inOrder : task ∈ ordered outlines := (ordered_perm outlines).mem_iff.mpr listed
    exact apart (wired.eq_of_nodeId_eq distinct (List.mem_of_find?_eq_some found) inOrder same)

end Wired

/-- Where the layout gives texts as ids, every node that was placed has one. -/
theorem Places.hasTexts {layout : Layout} {setting : Setting} {nodes : List Node} {index : Nat}
    {supply rest : Supply} {placed : List PlacedTask}
    (h : Places layout setting nodes index supply placed rest) (named : layout.Named) :
    ∀ task ∈ placed, ∃ id, task.node.id = .str id := by
  intro task htask
  obtain ⟨count, found⟩ := List.getElem?_of_mem htask
  obtain ⟨-, before, after, answer⟩ := h.answers found
  exact named _ _ _ _ _ answer

/-! ## What a run draws -/

namespace Run

variable {layout : Layout} {outlines : List Outline} {toolsets : ToolsetSource}
  {options : CompileOptions} {supply : Supply} (run : Run layout outlines toolsets options supply)

/-- The id of the node that the task at a place of the plan has become. -/
def nodeId (place : Nat) : Json :=
  ((run.placed.find? fun task => task.sketch.place == place).map fun task => task.node.id).getD
    .null

/-- A placed task has the node that its place has. -/
theorem nodeId_place {task : PlacedTask} (h : task ∈ run.placed) :
    run.nodeId task.sketch.place = task.node.id := by
  rw [nodeId, run.find?_place h]
  rfl

/-- The ids of the nodes, in the order of processing. -/
theorem map_nodeId :
    (run.placed.map PlacedTask.node).map Node.id =
      (ordered (identified outlines supply).1).map fun task => run.nodeId task.2 := by
  rw [← run.map_entry, List.map_map, List.map_map]
  apply List.map_congr_left
  intro task htask
  exact (run.nodeId_place htask).symm

/-- The layout gave each task its node. -/
theorem gives {count : Nat} {entry : Outline × Nat} {node : Node}
    (hentry : (ordered (identified outlines supply).1)[count]? = some entry)
    (hnode : (run.placed.map PlacedTask.node)[count]? = some node) :
    layout.Gives count entry node := by
  rw [List.getElem?_map] at hnode
  obtain ⟨task, found, rfl⟩ := Option.map_eq_some_iff.mp hnode
  rw [← run.map_entry, List.getElem?_map, found] at hentry
  obtain ⟨request, before, after, answer⟩ := run.places.answers found
  rw [request, Nat.zero_add] at answer
  exact ⟨task.sketch, _, _, before, after, Option.some.inj hentry, answer⟩

/-- A run is found where tasks have been placed and their nodes have texts as ids. -/
theorem exists_of_places {entries : List Json} {start : List Node} {placed : List PlacedTask}
    {between : Supply} (readable : toolsets.entries = .ok entries)
    (known : Node.listOfJson options.startNodes = .ok start)
    (sketched : placed.map PlacedTask.sketch =
      sketches (ordered (identified outlines supply).1) (assigned outlines supply).1.entityIds)
    (places : Places layout
      ⟨(assigned outlines supply).1.symbols, entries, options.defaultModel, options.autoLayout⟩
      start 0 (assigned outlines supply).2 placed between)
    (texts : ∀ task ∈ placed, ∃ id, task.node.id = .str id) :
    Nonempty (Run layout outlines toolsets options supply) := by
  have plain : ∀ link ∈ Link.among placed (identified outlines supply).1.length, link.Plain :=
    fun _ => Link.plain_of_mem_among texts
  exact ⟨⟨entries, start, placed, _, _, readable, known, sketched, places,
    Link.kept_of_plain plain⟩⟩

/-- Every node that was placed has a text as its id. -/
def HasTexts : Prop :=
  ∀ task ∈ run.placed, ∃ id, task.node.id = .str id

/-- Where the layout gives texts as ids, every node that was placed has one. -/
theorem hasTexts (named : layout.Named) : run.HasTexts :=
  run.places.hasTexts named

/-- A dependency names the node of the first task of its id, in the order of processing. -/
theorem nodeId?_eq (texts : run.HasTexts) (dependency : String) :
    PlacedTask.nodeId? run.placed dependency =
      ((ordered (identified outlines supply).1).find? fun other => other.1.id == dependency).map
        fun other => run.nodeId other.2 := by
  rw [← run.map_entry, List.find?_map, PlacedTask.nodeId?, Option.map_map]
  change ((run.placed.find? fun task => task.sketch.outline.id == dependency).map _).filter _ =
    (run.placed.find? fun task => task.sketch.outline.id == dependency).map _
  rcases hfound : run.placed.find? fun task => task.sketch.outline.id == dependency with _ | task
  · rw [hfound]
    rfl
  · have htask : task ∈ run.placed := List.mem_of_find?_eq_some hfound
    obtain ⟨id, text⟩ := texts task htask
    have same : run.nodeId task.entry.2 = task.node.id := run.nodeId_place htask
    rw [hfound, Option.map_some, Option.map_some, Function.comp_apply, same, text]
    rfl

/-- The links among the placed tasks are those that the plan asks for. -/
theorem among_eq (texts : run.HasTexts) :
    Link.among run.placed (identified outlines supply).1.length =
      dependencies (identified outlines supply).1 run.nodeId := by
  have into : ∀ task ∈ PlacedTask.inPlanOrder run.placed (identified outlines supply).1.length,
      Link.into run.placed task = task.entry.1.dependencies.filterMap fun dependency =>
        ((ordered (identified outlines supply).1).find? fun other => other.1.id == dependency).map
          fun other => ⟨run.nodeId other.2, run.nodeId task.entry.2⟩ := by
    intro task htask
    obtain ⟨place, -, found⟩ := List.mem_filterMap.mp htask
    have same : run.nodeId task.entry.2 = task.node.id :=
      run.nodeId_place (List.mem_of_find?_eq_some found)
    unfold Link.into
    apply List.filterMap_congr
    intro dependency _
    rw [run.nodeId?_eq texts, Option.map_map, same]
    rfl
  rw [Link.among, List.flatMap_congr into, dependencies, ← run.map_entry_inPlanOrder,
    List.flatMap_map]

/-- A run draws what the tasks ask for. -/
theorem wired (texts : run.HasTexts) (inputs : List Json) :
    Wired (identified outlines supply).1 run.nodeId (run.compilation inputs).canvas := by
  refine ⟨run.map_nodeId, ?_⟩
  have plain : ∀ link ∈ Link.among run.placed (identified outlines supply).1.length, link.Plain :=
    fun link hlink => Link.plain_of_mem_among texts hlink
  have kept := Link.kept_of_plain plain
  rw [run.links_eq] at kept
  change (Link.drawEdges run.links run.between).1.map Edge.link = _
  rw [Link.map_link_drawEdges, Except.ok.inj kept, run.among_eq texts]

end Run

/-- **Edges are dependencies.** In whatever way a layout gives texts as ids, the edges of a compiled
plan are the dependencies of its tasks that name a task, from node to node, in the order of the
plan, without loops and repetitions. So no two nodes are joined twice in one direction, no node is
joined with itself, edges lead from node to node, and where the ids of nodes are distinct, no
dependency on another task is left out. -/
theorem edges_of_compile {layout : Layout} (named : layout.Named) {input : PlanInput}
    {toolsets : ToolsetSource} {options : CompileOptions} {supply rest : Supply}
    {compilation : Compilation}
    (h : (ofPlan layout input toolsets options).Returns supply compilation rest) :
    ∃ nodeId : Nat → Json,
      let tasks := (Outline.identifyAll input.outlines supply).1
      let nodeIds := compilation.canvas.nodes.map Node.id
      let links := compilation.canvas.edges.map Edge.link
      nodeIds = (ordered tasks).map (fun task => nodeId task.2) ∧
      (∀ count task node, (ordered tasks)[count]? = some task →
        compilation.canvas.nodes[count]? = some node → layout.Gives count task node) ∧
      links = ((dependencies tasks nodeId).filter fun link =>
        decide (link.source ≠ link.target)).eraseDups ∧
      links.Nodup ∧
      (∀ edge ∈ compilation.canvas.edges, edge.source ≠ edge.target ∧
        edge.source ∈ nodeIds ∧ edge.target ∈ nodeIds) ∧
      (nodeIds.Nodup → ∀ task ∈ tasks.zipIdx, ∀ dependency ∈ task.1.dependencies, ∀ other,
        ((ordered tasks).find? fun entry => entry.1.id == dependency) = some other →
        other ≠ task → ⟨nodeId other.2, nodeId task.2⟩ ∈ links) := by
  have wires : ∃ nodeId, Wired (identified input.outlines supply).1 nodeId compilation.canvas ∧
      ∀ count task node, (ordered (identified input.outlines supply).1)[count]? = some task →
        compilation.canvas.nodes[count]? = some node → layout.Gives count task node := by
    rcases ofPlan_returns_iff.mp h with ⟨idle, rfl, -⟩ | ⟨-, run, rfl, -⟩
    · rw [idle]
      exact ⟨fun _ => .null, ⟨rfl, rfl⟩, fun count task node _ hnode => by cases hnode⟩
    · exact ⟨run.nodeId, run.wired (run.hasTexts named) _, fun count task node => run.gives⟩
  obtain ⟨nodeId, wired, gives⟩ := wires
  refine ⟨nodeId, wired.nodes, gives, wired.edges, wired.nodup, ?_, ?_⟩
  · intro edge hedge
    exact ⟨wired.source_ne_target hedge, wired.ends_mem hedge⟩
  · intro distinct task listed dependency asked other found apart
    exact wired.link_mem distinct listed asked found apart

/-- Two of three tasks share an id, and the first one in the plan is processed second: it names
itself, a task that is not there, and another task twice. -/
theorem edges_of_compile_of_three :
    let layout : Layout := fun index request =>
      pure { request.node with id := .str (["x", "y", "z"].getD index "") }
    let input : PlanInput := .raw (.obj [("tasks", .arr [
      .obj [("id", .str "b"),
        ("dependentTasks", .arr [.str "a", .str "b", .int 5, .str "c", .str "a"])],
      .obj [("id", .str "a")],
      .obj [("id", .str "b"), ("dependent_tasks", .arr [.str "b"])]])])
    layout.Named ∧ ∃ compilation rest,
      (ofPlan layout input (.parsed []) .standard).Returns Supply.counting compilation rest ∧
      compilation.canvas.nodes.map Node.id = [.str "x", .str "y", .str "z"] ∧
      compilation.canvas.edges.map Edge.link =
        [⟨.str "x", .str "y"⟩, ⟨.str "y", .str "z"⟩] := by
  intro layout input
  have named : layout.Named := by
    intro index request supply node rest returned
    obtain ⟨rfl, -⟩ := Making.returns_pure_iff.mp returned
    exact ⟨_, rfl⟩
  obtain ⟨compilation, rest, returned, ids⟩ : ∃ compilation rest,
      (ofPlan layout input (.parsed []) .standard).Returns Supply.counting compilation rest ∧
      compilation.canvas.nodes.map Node.id = [.str "x", .str "y", .str "z"] :=
    ⟨_, _, rfl, rfl⟩
  refine ⟨named, compilation, rest, returned, ids, ?_⟩
  obtain ⟨nodeId, nodes, -, links, -⟩ := edges_of_compile named returned
  rw [ids] at nodes
  have places : [Json.str "x", .str "y", .str "z"] = [nodeId 1, nodeId 0, nodeId 2] := nodes
  simp only [List.cons.injEq, and_true] at places
  obtain ⟨hx, hy, hz⟩ := places
  have asked : dependencies (Outline.identifyAll input.outlines Supply.counting).1 nodeId =
      [⟨nodeId 1, nodeId 0⟩, ⟨nodeId 0, nodeId 0⟩, ⟨nodeId 1, nodeId 0⟩, ⟨nodeId 0, nodeId 2⟩] :=
    rfl
  rw [links, asked, ← hx, ← hy, ← hz]
  rfl

end Compilation

end PlanGraph
