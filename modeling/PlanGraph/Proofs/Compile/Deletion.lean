import PlanGraph.Proofs.Compile.Readings
import PlanGraph.Proofs.Compile.Reordering
import PlanGraph.Proofs.Patch.Reading
import PlanGraph.Proofs.Patch.References

/-!
# Removing a task

Removing a task from a plan and compiling it gives the graph of the plan without the node of that
task (`applyPatch_graph_of_removal`). Removing a task also takes it out of the dependencies of the
others, which may then be processed earlier; so the nodes come in another order, with other ids, and
both canvases are told by the ids of the tasks (`Canvas.Shows`).

* What a plan looks like to the compiler after a removal is known from what it looked like before
  (`Plan.outlines_of_removal`).
* The pairs of tasks that are joined lose those with the task that is removed, and no others
  (`Compilation.namedJoins_withoutTask`).
* A mention of that task stays as it is written, and every other mention names the same task as
  before (`ResolvesWithout`).
-/

namespace PlanGraph

/-! ## Outlines after a removal -/

/-- The outline without a dependency on an id. -/
def Outline.without (id : String) (outline : Outline) : Outline :=
  { outline with dependencies := outline.dependencies.filter fun dependency => dependency ≠ id }

/-- The outlines of a plan without the task of an id. -/
def Outline.withoutTask (id : String) (outlines : List Outline) : List Outline :=
  (outlines.filter fun outline => outline.id ≠ id).map (without id)

/-- The step that removes the task with an id. -/
def PatchStep.removal (id : String) : PatchStep :=
  .raw (.obj [("op", .str "deleteTask"), ("taskId", .str id)])

/-- The plan without the task with an id and every dependency on it. -/
def Plan.withoutTask (id : String) (plan : Plan) : Plan :=
  { plan with
    tasks := (plan.tasks.filter fun task => !task.hasId (.str id)).map
      (Plan.withoutDependency (.str id)) }

theorem PatchStep.operation_removal {id : String} (named : id ≠ "") :
    (PatchStep.removal id).operation = .ok (.deleteTask (.str id)) := by
  have given : Operation.payload ⟨"taskId", "task_id"⟩ .deleteTask
      [("op", .str "deleteTask"), ("taskId", .str id)] = .ok (.str id) :=
    Operation.payload_eq_ok_iff.mpr
      ⟨rfl, Json.noConfusion, fun same => named (Json.str.inj same)⟩
  change (Operation.ofMembers .deleteTask _).mapError Halt.failure = _
  rw [Operation.ofMembers, given]
  rfl

/-- A task that is there can be removed. -/
theorem applyPatch_removal {input : PlanInput} {plan : Plan} {id : String}
    (loads : input.load = .ok plan) (named : id ≠ "") (listed : id ∈ plan.tasks.map Task.id) :
    ∃ log, applyPatch input [.removal id] = .ok (.applied (plan.withoutTask id) log) := by
  have known : plan.hasTask (.str id) = true :=
    Plan.hasTask_str_iff.mpr (List.mem_map.mp listed)
  exact ⟨_, applyPatch_eq_applied_iff.mpr ⟨plan, loads, Plan.runSteps_eq_ok_iff.mpr
    ⟨[.deleteTask (.str id)], _, .cons (PatchStep.operation_removal named) .nil,
      .cons (.removeTask known) .nil, (List.nil_append _).symm⟩⟩⟩

/-- A task without a dependency has the outline without it. -/
theorem Outline.ofTask_withoutDependency (id : String) (task : Task) :
    ofTask (Plan.withoutDependency (.str id) task) = (ofTask task).without id := by
  obtain ⟨name, title, prompt, _ | ids, toolsets⟩ := task
  · rfl
  · simp [Plan.withoutDependency, ofTask, without, Task.dependencies]

/-- After a removal, a plan has the outlines that it had, without the task. -/
theorem Plan.outlines_of_removal (plan : Plan) (id : String) :
    (PlanInput.parsed (plan.withoutTask id)).outlines =
      Outline.withoutTask id (PlanInput.parsed plan).outlines := by
  change ((plan.tasks.filter _).map _).map Outline.ofTask =
    ((plan.tasks.map Outline.ofTask).filter _).map _
  rw [List.filter_map, List.map_map, List.map_map]
  have kept : (plan.tasks.filter fun task => !task.hasId (.str id)) =
      plan.tasks.filter ((fun outline => decide (outline.id ≠ id)) ∘ Outline.ofTask) := by
    refine List.filter_congr fun task _ => ?_
    by_cases same : task.id = id
    · simp [Task.hasId, Outline.ofTask, same]
    · simp [Task.hasId, Outline.ofTask, same]
  rw [kept]
  exact List.map_congr_left fun task _ => Outline.ofTask_withoutDependency id task

/-- A plan that loads has the outlines of its tasks, whether it was read before or not. -/
theorem PlanInput.outlines_of_load {input : PlanInput} {plan : Plan} (h : input.load = .ok plan) :
    input.outlines = (parsed plan).outlines := by
  rcases input with given | value
  · rw [(Plan.distinct_eq_ok_iff.mp h).1]
  · obtain ⟨found, passes, rest⟩ := bind_eq_ok_iff.mp h
    obtain ⟨rfl, -⟩ := Plan.distinct_eq_ok_iff.mp rest
    exact outlines_of_check (Checked.orFail_eq_ok_iff.mp passes)

/-- Where every task has an id, the ids are distinct. -/
theorem Plan.nodup_ids_of_named {plan : Plan} (distinct : plan.Distinct)
    (named : ∀ id ∈ plan.tasks.map Task.id, id ≠ "") : (plan.tasks.map Task.id).Nodup := by
  have all : plan.taskIds = plan.tasks.map Task.id :=
    List.filter_eq_self.mpr fun id listed => by simp [named id listed]
  rw [← all]
  exact distinct.tasks

/-- A supply whose first ids are distinct has fewer of them that are. -/
theorem Supply.Distinct.mono {supply : Supply} {count fewer : Nat} (h : supply.Distinct count)
    (less : fewer ≤ count) : supply.Distinct fewer :=
  fun i hi j hj => h i (Nat.lt_of_lt_of_le hi less) j (Nat.lt_of_lt_of_le hj less)

/-- The ids of the tasks that are left. -/
theorem Outline.ids_withoutTask (id : String) (outlines : List Outline) :
    (withoutTask id outlines).map Outline.id =
      (outlines.map Outline.id).filter fun other => other ≠ id := by
  rw [withoutTask, List.map_map, List.filter_map]
  rfl

namespace Compilation

/-! ## Joins after a removal -/

/-- Neither end of a pair of tasks is the one with an id. -/
def avoids (id : String) (join : String × String) : Bool :=
  decide (join.1 ≠ id) && decide (join.2 ≠ id)

/-- The dependencies of another task lose those on the task that is removed. -/
theorem pairsInto_without {id : String} {ids : List String} {task : Outline}
    (other : task.id ≠ id) :
    pairsInto (ids.filter fun other => other ≠ id) (task.without id) =
      (pairsInto ids task).filter (avoids id) := by
  rw [pairsInto, pairsInto, Outline.without, List.filterMap_filter, List.filter_filterMap]
  refine List.filterMap_congr fun dependency _ => ?_
  by_cases listed : dependency ∈ ids
  · simp [listed, avoids, other, Option.filter]
  · simp [listed]

/-- A task that is removed takes its own dependencies along. -/
theorem filter_pairsInto_self (ids : List String) (task : Outline) :
    (pairsInto ids task).filter (avoids task.id) = [] := by
  rw [List.filter_eq_nil_iff]
  intro join listed
  obtain ⟨dependency, -, found⟩ := List.mem_filterMap.mp listed
  obtain ⟨-, same⟩ := Option.ite_none_right_eq_some.mp found
  rw [← Option.some.inj same]
  simp [avoids]

/-- The dependencies that name a task are those that did before and avoid the task that is
removed. -/
theorem namedPairs_withoutTask (id : String) (outlines : List Outline) :
    namedPairs (Outline.withoutTask id outlines) = (namedPairs outlines).filter (avoids id) := by
  rw [namedPairs, Outline.ids_withoutTask, namedPairs, List.filter_flatMap, Outline.withoutTask,
    List.flatMap_map]
  generalize outlines.map Outline.id = ids
  induction outlines with
  | nil => rfl
  | cons task rest ih =>
      rw [List.flatMap_cons, ← ih]
      by_cases gone : task.id = id
      · rw [List.filter_cons_of_neg (by simp [gone]), ← gone, filter_pairsInto_self,
          List.nil_append]
      · rw [List.filter_cons_of_pos (by simp [gone]), List.flatMap_cons, pairsInto_without gone]

/-- Which items are kept does not depend on whether repetitions are dropped before or after. -/
theorem eraseDups_filter {α : Type} [BEq α] [LawfulBEq α] (keep : α → Bool) :
    (items : List α) → (items.filter keep).eraseDups = items.eraseDups.filter keep
  | [] => rfl
  | item :: rest => by
      have shorter : (rest.filter fun other => !other == item).length < rest.length + 1 :=
        Nat.lt_succ_of_le (List.length_filter_le _ _)
      have later := eraseDups_filter keep (rest.filter fun other => !other == item)
      rw [List.filter_filter] at later
      rw [List.eraseDups_cons]
      by_cases kept : keep item = true
      · rw [List.filter_cons_of_pos kept, List.filter_cons_of_pos kept, List.eraseDups_cons,
          ← later, List.filter_filter]
        simp only [Bool.and_comm]
      · rw [List.filter_cons_of_neg kept, List.filter_cons_of_neg kept, ← later]
        refine congrArg List.eraseDups (List.filter_congr fun other _ => ?_)
        by_cases same : other = item
        · simp [same, kept]
        · simp [same]
termination_by items => items.length

/-- The joins that are left are those that avoid the task that is removed. -/
theorem namedJoins_withoutTask (id : String) (outlines : List Outline) :
    namedJoins (Outline.withoutTask id outlines) = (namedJoins outlines).filter (avoids id) := by
  rw [namedJoins, namedPairs_withoutTask, namedJoins, ← eraseDups_filter, List.filter_filter,
    List.filter_filter]
  simp only [Bool.and_comm]

end Compilation

/-! ## Mentions after a removal -/

/-- What becomes of a piece of a prompt on two canvases, of which the second one lacks the task with
an id: a mention of that task, which names its entity on the first canvas, stays as it is written on
the second. -/
inductive ResolvesWithout (id : String) (ids : List String) (nodeOf nodeOf' : String → Node) :
    Piece → List Char → List Char → Prop where
  /-- Whatever does not mention the task is resolved alike. -/
  | alike {piece : Piece} {text text' : List Char}
      (other : ∀ mention, piece = .mention mention → String.ofList mention.id ≠ id)
      (same : ResolvesAlike ids nodeOf nodeOf' piece text text') :
      ResolvesWithout id ids nodeOf nodeOf' piece text text'
  /-- A mention of the task stays without it. -/
  | removed {mention : Mention} {entityId : String} (names : String.ofList mention.id = id)
      (entity : (nodeOf id).entityId = .ok (.str entityId)) :
      ResolvesWithout id ids nodeOf nodeOf' (.mention mention)
        (Mention.text ⟨entityId.toList, mention.label⟩) mention.text

/-- What becomes of the prompt of a task on two canvases, of which the second one lacks the task
with an id: both queries are made of the same pieces. -/
def Outline.QueriedWithout (task : Outline) (id : String) (ids : List String)
    (nodeOf nodeOf' : String → Node) : Prop :=
  ∃ (query query' : String) (split : List Piece) (parts : List (List Char × List Char)),
    (nodeOf task.id).query? = some (.str query) ∧ (nodeOf' task.id).query? = some (.str query') ∧
    SplitsInto task.prompt.toList split ∧
    List.Forall₂ (fun piece part => ResolvesWithout id ids nodeOf nodeOf' piece part.1 part.2)
      split parts ∧
    query.toList = (parts.map Prod.fst).flatten ∧ query'.toList = (parts.map Prod.snd).flatten

namespace SymbolsOf

variable {id : String} {ids : List String} {nodeOf nodeOf' : String → Node}
  {symbols symbols' : List (String × String)}

/-- From the symbols of a canvas and of one that lacks a task, a piece of a prompt is resolved alike
unless it mentions that task. -/
theorem resolvesWithout (table : SymbolsOf ids nodeOf symbols)
    (table' : SymbolsOf (ids.filter fun other => other ≠ id) nodeOf' symbols') (here : id ∈ ids)
    (piece : Piece) :
    ResolvesWithout id ids nodeOf nodeOf' piece (piece.resolve symbols).text
      (piece.resolve symbols').text := by
  cases piece with
  | char c => exact .alike nofun (.char c)
  | mention found =>
      by_cases names : String.ofList found.id = id
      · obtain ⟨entityId, entity, resolved⟩ := table.resolve_of_mem (names ▸ here)
        have stays : found.resolve symbols' = found :=
          table'.resolve_of_not_mem (by simp [names])
        rw [Piece.resolve, Piece.resolve, resolved, stays]
        exact .removed names (names ▸ entity)
      · refine .alike (fun mention same => Piece.mention.inj same ▸ names) ?_
        by_cases listed : String.ofList found.id ∈ ids
        · obtain ⟨entityId, entity, resolved⟩ := table.resolve_of_mem listed
          obtain ⟨entityId', entity', resolved'⟩ := table'.resolve_of_mem
            (List.mem_filter.mpr ⟨listed, decide_eq_true names⟩)
          rw [Piece.resolve, Piece.resolve, resolved, resolved']
          exact .task listed entity entity'
        · have stays : found.resolve symbols = found := table.resolve_of_not_mem listed
          have stays' : found.resolve symbols' = found :=
            table'.resolve_of_not_mem fun kept => listed (List.mem_filter.mp kept).1
          rw [Piece.resolve, Piece.resolve, stays, stays']
          exact .unknown listed

/-- From the symbols of a canvas and of one that lacks a task, a prompt is resolved alike except for
mentions of that task. -/
theorem queriedWithout (table : SymbolsOf ids nodeOf symbols)
    (table' : SymbolsOf (ids.filter fun other => other ≠ id) nodeOf' symbols') (here : id ∈ ids)
    {task : Outline}
    (query : (nodeOf task.id).query? = some (.str (resolveMentions task.prompt symbols)))
    (query' : (nodeOf' task.id).query? = some (.str (resolveMentions task.prompt symbols'))) :
    task.QueriedWithout id ids nodeOf nodeOf' := by
  refine ⟨_, _, pieces task.prompt.toList, (pieces task.prompt.toList).map fun piece =>
    ((piece.resolve symbols).text, (piece.resolve symbols').text), query, query',
    splitsInto_iff.mpr rfl, ?_, ?_, ?_⟩
  · rw [List.forall₂_map_right_iff, List.forall₂_same]
    exact fun piece _ => table.resolvesWithout table' here piece
  · rw [toList_resolveMentions, List.flatMap_def, List.map_map, List.map_map]
    rfl
  · rw [toList_resolveMentions, List.flatMap_def, List.map_map, List.map_map]
    rfl

end SymbolsOf

/-! ## Canvases after a removal -/

/-- The nodes of a canvas are those of the tasks that it shows. -/
theorem Canvas.Shows.nodes_perm {canvas : Canvas} {tasks : List Outline} {toolsets : ToolsetSource}
    {model : Json} {nodeOf : String → Node} {joins : List (String × String)}
    (shows : canvas.Shows tasks toolsets model nodeOf joins) :
    canvas.nodes.Perm ((tasks.map Outline.id).map nodeOf) := by
  have ids : ((Compilation.ordered tasks).map fun task => nodeOf task.1.id) =
      (Compilation.orderedIds tasks).map nodeOf := by
    rw [Compilation.orderedIds, List.map_map]
    rfl
  rw [shows.nodes, ids]
  exact (Compilation.orderedIds_perm tasks).map nodeOf

/-- **Removing a task removes its node.** A plan that loads and whose tasks all have an id is
patched by removing one of them. Both plans compile whenever toolsets and the nodes on the canvas
are readable and allow placing. Whatever they compile to, the nodes of the second canvas are those
of the first one except for the node of the task, its edges join the same tasks except for those
with that task at one end, the titles and toolsets of the tasks that are left are as before, and in
their queries each mention names the same task as before or stays as before, except that mentions of
the task that is removed stay as they are written. -/
theorem applyPatch_graph_of_removal {input : PlanInput} {plan : Plan} {id : String}
    (loads : input.load = .ok plan) (named : ∀ task ∈ plan.tasks, task.id ≠ "")
    (listed : id ∈ plan.tasks.map Task.id) (toolsets : ToolsetSource) (options : CompileOptions)
    {supply supply' : Supply} (fresh : supply.Distinct (2 * plan.tasks.length))
    (fresh' : supply'.Distinct (2 * plan.tasks.length)) :
    ∃ after log, applyPatch input [.removal id] = .ok (.applied after log) ∧
      (∀ entries start, toolsets.entries = .ok entries →
        Node.listOfJson options.startNodes = .ok start → Grid.Open options.autoLayout start →
        (∃ canvas rest, (compile input toolsets options).Returns supply canvas rest) ∧
          ∃ canvas' rest',
            (compile (.parsed after) toolsets options).Returns supply' canvas' rest') ∧
      ∀ canvas rest canvas' rest',
        (compile input toolsets options).Returns supply canvas rest →
        (compile (.parsed after) toolsets options).Returns supply' canvas' rest' →
        ∃ nodeOf nodeOf' joins,
          canvas.Shows input.outlines toolsets options.defaultModel nodeOf joins ∧
          canvas'.Shows (PlanInput.parsed after).outlines toolsets options.defaultModel nodeOf'
            (joins.filter (Compilation.avoids id)) ∧
          canvas.nodes.Perm ((plan.tasks.map Task.id).map nodeOf) ∧
          canvas'.nodes.Perm
            (((plan.tasks.map Task.id).filter fun other => other ≠ id).map nodeOf') ∧
          ∀ task ∈ input.outlines, task.id ≠ id →
            (nodeOf' task.id).data.get? "title" = (nodeOf task.id).data.get? "title" ∧
            (nodeOf' task.id).metadata? "selectedToolsets" =
              (nodeOf task.id).metadata? "selectedToolsets" ∧
            task.QueriedWithout id (plan.tasks.map Task.id) nodeOf nodeOf' := by
  have named' : ∀ other ∈ plan.tasks.map Task.id, other ≠ "" := by
    intro other h
    obtain ⟨task, htask, rfl⟩ := List.mem_map.mp h
    exact named task htask
  obtain ⟨log, applied⟩ := applyPatch_removal loads (named' id listed) listed
  refine ⟨plan.withoutTask id, log, applied, ?_, ?_⟩
  · intro entries start readable known free
    exact ⟨exists_canvas_of_open readable known free input supply,
      exists_canvas_of_open readable known free _ supply'⟩
  · intro canvas rest canvas' rest' returned returned'
    have outlines := PlanInput.outlines_of_load loads
    have outlines' := plan.outlines_of_removal id
    rw [← outlines] at outlines'
    -- all ids are told by the ids of the plan
    have ids : input.outlines.map Outline.id = plan.tasks.map Task.id := by
      rw [outlines, PlanInput.outlines, List.map_map]
      rfl
    have ids' : (PlanInput.parsed (plan.withoutTask id)).outlines.map Outline.id =
        (plan.tasks.map Task.id).filter fun other => other ≠ id := by
      rw [outlines', Outline.ids_withoutTask, ids]
    have own : (plan.tasks.map Task.id).Nodup :=
      plan.nodup_ids_of_named (PlanInput.distinct_of_load loads) named'
    have count : input.outlines.length = plan.tasks.length := by
      simpa using congrArg List.length ids
    have count' : (PlanInput.parsed (plan.withoutTask id)).outlines.length ≤
        plan.tasks.length := by
      have shorter := List.length_filter_le (fun other => decide (other ≠ id))
        (plan.tasks.map Task.id)
      rwa [← ids', List.length_map, List.length_map] at shorter
    obtain ⟨nodeOf, symbols, shows, table, queries⟩ := Compilation.exists_shows
      (fun task h => named' _ (ids ▸ List.mem_map_of_mem h)) (ids ▸ own) (count ▸ fresh) returned
    obtain ⟨nodeOf', symbols', shows', table', queries'⟩ := Compilation.exists_shows
      (fun task h => named' _ (List.mem_filter.mp (ids' ▸ List.mem_map_of_mem h)).1)
      (ids' ▸ own.filter _) (fresh'.mono (Nat.mul_le_mul_left 2 count')) returned'
    have joins : Compilation.namedJoins (PlanInput.parsed (plan.withoutTask id)).outlines =
        (Compilation.namedJoins input.outlines).filter (Compilation.avoids id) := by
      rw [outlines', Compilation.namedJoins_withoutTask]
    rw [joins] at shows'
    rw [ids] at table
    rw [ids'] at table'
    refine ⟨nodeOf, nodeOf', _, shows, shows', ids ▸ shows.nodes_perm, ids' ▸ shows'.nodes_perm,
      fun task htask other => ?_⟩
    have left : task.without id ∈ (PlanInput.parsed (plan.withoutTask id)).outlines := by
      rw [outlines']
      exact List.mem_map_of_mem (List.mem_filter.mpr ⟨htask, decide_eq_true other⟩)
    have query' : (nodeOf' task.id).query? =
        some (.str (resolveMentions task.prompt symbols')) := queries' (task.without id) left
    refine ⟨(shows'.title _ left).trans (shows.title task htask).symm, ?_,
      table.queriedWithout table' listed (queries task htask) query'⟩
    obtain ⟨entries, readable, chosen⟩ := shows.toolsets task htask
    obtain ⟨entries', readable', chosen'⟩ := shows'.toolsets _ left
    obtain rfl : entries = entries' := Except.ok.inj (readable.symm.trans readable')
    exact chosen'.trans chosen.symm

/-- Of three tasks one is removed that both of the others depend on and that one of them mentions;
one of them is left without dependencies, and is then processed before the other one. -/
theorem applyPatch_graph_of_removal_of_middle :
    let first : Json := .obj [("id", .str "a"), ("title", .str "A"),
      ("prompt", .str "@\x7btype=agent,id=b,name=B\x7d @\x7btype=agent,id=c,name=C\x7d"),
      ("dependentTasks", .arr [.str "b", .str "c", .str "b", .str "z"])]
    let second : Json := .obj [("id", .str "b"), ("title", .str "B")]
    let third : Json := .obj [("id", .str "c"), ("dependent_tasks", .arr [.str "b"])]
    let input : PlanInput := .raw (.obj [("tasks", .arr [first, second, third])])
    let options : CompileOptions := ⟨true, .null, .arr []⟩
    ∃ after log canvas rest canvas' rest' nodeOf nodeOf',
      applyPatch input [.removal "b"] = .ok (.applied after log) ∧
      (compile input (.parsed []) options).Returns Supply.counting canvas rest ∧
      (compile (.parsed after) (.parsed []) options).Returns (Supply.countingFrom 4096) canvas'
        rest' ∧
      canvas.nodes.Perm (["a", "b", "c"].map nodeOf) ∧
      canvas'.nodes.Perm (["a", "c"].map nodeOf') ∧
      ∀ task ∈ input.outlines, task.id ≠ "b" →
        task.QueriedWithout "b" ["a", "b", "c"] nodeOf nodeOf' := by
  intro first second third input options
  have loads : input.load = .ok ⟨.str "", [
      ⟨"a", "A", "@\x7btype=agent,id=b,name=B\x7d @\x7btype=agent,id=c,name=C\x7d",
        some ["b", "c", "b", "z"], []⟩,
      ⟨"b", "B", "", none, []⟩, ⟨"c", "", "", some ["b"], []⟩], []⟩ := rfl
  have fresh : Supply.counting.Distinct 6 := by
    unfold Supply.Distinct
    decide +kernel
  have fresh' : (Supply.countingFrom 4096).Distinct 6 := by
    unfold Supply.Distinct
    decide +kernel
  obtain ⟨after, log, applied, compiles, told⟩ := applyPatch_graph_of_removal loads
    (by decide) (by decide : "b" ∈ ["a", "b", "c"]) (.parsed []) options fresh fresh'
  obtain ⟨⟨canvas, rest, returned⟩, canvas', rest', returned'⟩ :=
    compiles [] [] rfl rfl fun _ => by simp
  obtain ⟨nodeOf, nodeOf', joins, -, -, nodes, nodes', each⟩ :=
    told canvas rest canvas' rest' returned returned'
  exact ⟨after, log, canvas, rest, canvas', rest', nodeOf, nodeOf', applied, returned, returned',
    nodes, nodes', fun task h other => (each task h other).2.2⟩

end PlanGraph
