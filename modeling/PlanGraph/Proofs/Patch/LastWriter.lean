import Mathlib.Data.List.Induction
import PlanGraph.Proofs.Patch.Reading

/-!
# The last writer

What is left of the tasks and variables of a plan after a patch that is applied
(`applyPatch_lastWriter`). Tasks and variables are treated alike: an operation removes some of them,
revises each of the others in its place and adds some at the end. A list of things for which this is
known is a `Roster`, and one induction over a run (`Roster.undergoes`) serves both.

A task that stays is revised by each operation in turn. What has become of it in the end is told by
the operations alone: each member is what the last update that gives it says (`LastGiven`), and from
the dependencies the tasks that were removed since are missing (`Task.Revised`).
-/

namespace PlanGraph

/-! ## The last value that is given -/

/-- Some operations give a value. `LastGiven given before operations value since` says that `value`
is the one that is given last and that `since` are the operations after the one that gives it. If
none gives one, the value is the one `before`, and `since` are all operations. -/
inductive LastGiven {α : Type} (given : Operation → Option α) (before : α) :
    List Operation → α → List Operation → Prop where
  /-- No operation gives a value. -/
  | never {operations : List Operation}
      (silent : ∀ operation ∈ operations, given operation = none) :
      LastGiven given before operations before operations
  /-- An operation gives a value, and the later ones give none. -/
  | last {earlier since : List Operation} {operation : Operation} {value : α}
      (gives : given operation = some value) (silent : ∀ later ∈ since, given later = none) :
      LastGiven given before (earlier ++ operation :: since) value since

namespace LastGiven

variable {α : Type} {given : Operation → Option α} {before value : α}
  {operations since : List Operation} {operation : Operation}

theorem nil : LastGiven given before [] before [] :=
  .never fun _ h => absurd h List.not_mem_nil

/-- An operation that gives a value is the last one that does. -/
theorem snoc_of_some (gives : given operation = some value) :
    LastGiven given before (operations ++ [operation]) value [] :=
  .last gives fun _ h => absurd h List.not_mem_nil

/-- An operation that gives no value comes after the one that does. -/
theorem snoc_of_none (h : LastGiven given before operations value since)
    (gives : given operation = none) :
    LastGiven given before (operations ++ [operation]) value (since ++ [operation]) := by
  have silent_snoc {others : List Operation} (silent : ∀ other ∈ others, given other = none) :
      ∀ other ∈ others ++ [operation], given other = none :=
    List.forall_mem_append.mpr ⟨silent, List.forall_mem_singleton.mpr gives⟩
  cases h with
  | never silent => exact .never (silent_snoc silent)
  | last gives' silent =>
      rw [List.append_assoc, List.cons_append]
      exact .last gives' (silent_snoc silent)

/-- After one more operation, the last value is the one it gives or else the last one before. -/
theorem snoc_getD (h : ∃ since, LastGiven given before operations value since) :
    ∃ since, LastGiven given before (operations ++ [operation]) ((given operation).getD value)
      since := by
  obtain ⟨since, h⟩ := h
  rcases gives : given operation with _ | newer
  · exact ⟨since ++ [operation], h.snoc_of_none gives⟩
  · exact ⟨[], snoc_of_some gives⟩

/-- A value that each operation replaces by the one it gives ends up as the last one. -/
theorem foldl (given : Operation → Option α) (before : α) (operations : List Operation) :
    ∃ since, LastGiven given before operations
      (operations.foldl (fun value operation => (given operation).getD value) before) since := by
  induction operations using List.reverseRecOn with
  | nil => exact ⟨[], .nil⟩
  | append_singleton earlier operation ih =>
      rw [List.foldl_append]
      exact snoc_getD ih

end LastGiven

/-! ## What an operation does to one thing -/

namespace Operation

/-- The operation removes the task with an id. -/
def removesTask (operation : Operation) (id : String) : Bool :=
  match operation with
  | deleteTask gone => .str id == gone
  | _ => false

/-- The operation removes the variable with an id. -/
def removesVariable (operation : Operation) (id : String) : Bool :=
  match operation with
  | deleteVariable gone => .str id == gone
  | _ => false

/-- The changes that the operation makes to the task with an id. -/
def taskChanges? (id : String) : Operation → Option Changes
  | updateTask target changes => if .str id = target then some changes else none
  | _ => none

/-- The changes that the operation makes to the variable with an id. -/
def variableChanges? (id : String) : Operation → Option Changes
  | updateVariable target changes => if .str id = target then some changes else none
  | _ => none

/-- The value that the operation gives to a member of the task with an id. -/
def gives {α : Type} (id : String) (member : Changes → Option α) (operation : Operation) :
    Option α :=
  operation.taskChanges? id >>= member

/-- The id of the task that the operation adds. -/
def addedTask? : Operation → Option String
  | createTask body => (taskBody body).toOption.map Task.id
  | _ => none

/-- The id of the variable that the operation adds. -/
def addedVariable? : Operation → Option String
  | createVariable body => (variableBody body).toOption.map Variable.variableId
  | _ => none

/-- A task after an operation that does not remove it. -/
def reviseTask (operation : Operation) (task : Task) : Task :=
  match operation with
  | updateTask id changes => if task.hasId id then changes.mergeTask task else task
  | deleteTask id => Plan.withoutDependency id task
  | _ => task

/-- A variable after an operation that does not remove it. -/
def reviseVariable (operation : Operation) (input : Variable) : Variable :=
  match operation with
  | updateVariable id changes => if input.hasId id then changes.mergeVariable input else input
  | _ => input

variable {operation : Operation}

/-- A task keeps its id. -/
theorem id_reviseTask (operation : Operation) (task : Task) :
    (operation.reviseTask task).id = task.id := by
  cases operation with
  | updateTask id changes =>
      rw [reviseTask]
      split
      · rfl
      · rfl
  | _ => rfl

/-- A variable keeps its id. -/
theorem variableId_reviseVariable (operation : Operation) (input : Variable) :
    (operation.reviseVariable input).variableId = input.variableId := by
  cases operation with
  | updateVariable id changes =>
      rw [reviseVariable]
      split
      · rfl
      · rfl
  | _ => rfl

/-- A variable that an operation makes no changes to stays as it is. -/
theorem reviseVariable_of_untouched {input : Variable}
    (untouched : operation.variableChanges? input.variableId = none) :
    operation.reviseVariable input = input := by
  cases operation with
  | updateVariable id changes =>
      have other : Json.str input.variableId ≠ id := by
        intro same
        simp [variableChanges?, same] at untouched
      simp [reviseVariable, Variable.hasId, other]
  | _ => rfl

/-! ### The members of a revised task -/

variable {task : Task}

/-- A member that updates replace and removals leave alone is the one that is given, if one is. -/
theorem member_reviseTask {α : Type} (get : Task → α) (member : Changes → Option α)
    (merged : ∀ changes task, get (changes.mergeTask task) = (member changes).getD (get task))
    (kept : ∀ id task, get (Plan.withoutDependency id task) = get task) :
    get (operation.reviseTask task) = (operation.gives task.id member).getD (get task) := by
  cases operation with
  | updateTask id changes =>
      by_cases h : Json.str task.id = id
      · simp [reviseTask, gives, taskChanges?, Task.hasId, h, merged]
      · simp [reviseTask, gives, taskChanges?, Task.hasId, h]
  | deleteTask id => exact kept id task
  | _ => rfl

/-- The dependencies that are given replace those of the task. -/
theorem dependentTasks_reviseTask_of_some {ids : List String}
    (given : operation.gives task.id Changes.dependentTasks = some ids) :
    (operation.reviseTask task).dependentTasks = some ids := by
  cases operation with
  | updateTask id changes =>
      by_cases h : Json.str task.id = id
      · have listed : changes.dependentTasks = some ids := by
          simpa [gives, taskChanges?, h] using given
        simp [reviseTask, Task.hasId, Changes.mergeTask, h, listed]
      · simp [gives, taskChanges?, h] at given
  | _ => cases given

/-- Where no dependencies are given, those of the task stay, without a task that is removed. -/
theorem dependentTasks_reviseTask_of_none
    (given : operation.gives task.id Changes.dependentTasks = none) :
    (operation.reviseTask task).dependentTasks =
      task.dependentTasks.map (·.filter fun id => !operation.removesTask id) := by
  have whole : task.dependentTasks.map (·.filter fun _ => !false) = task.dependentTasks := by
    simp
  -- only a removal takes anything away
  cases operation with
  | updateTask id changes =>
      by_cases h : Json.str task.id = id
      · have silent : changes.dependentTasks = none := by
          simpa [gives, taskChanges?, h] using given
        simp [reviseTask, removesTask, Task.hasId, Changes.mergeTask, h, silent]
      · simp [reviseTask, removesTask, Task.hasId, h]
  | deleteTask id =>
      simp only [reviseTask, removesTask, Plan.withoutDependency]
      refine congrArg (task.dependentTasks.map ·) (funext fun ids => List.filter_congr ?_)
      intro other _
      by_cases h : Json.str other = id
      · simp [h]
      · simp [h]
  | _ => exact whole.symm

end Operation

/-! ## Changes that change nothing -/

namespace Changes

/-- Without a member of a task, changes leave a task as it is. -/
theorem mergeTask_of_idle {changes : Changes} (idle : changes.taskFields = []) (task : Task) :
    changes.mergeTask task = task := by
  have silent : changes.dependentTasks = .none ∧ changes.prompt = .none ∧
      changes.title = .none ∧ changes.toolsets = .none := by
    simpa [taskFields, and_assoc] using idle
  obtain ⟨dependentTasks, prompt, title, toolsets⟩ := silent
  simp [mergeTask, title, prompt, dependentTasks, toolsets]

/-- Without a member of a variable, changes leave a variable as it is. -/
theorem mergeVariable_of_idle {changes : Changes} (idle : changes.variableFields = [])
    (input : Variable) : changes.mergeVariable input = input := by
  have silent : changes.description = .none ∧ changes.name = .none ∧ changes.required = .none ∧
      changes.resourceTypes = .none ∧ changes.value = .none ∧ changes.variableType = .none := by
    simpa [variableFields, and_assoc] using idle
  obtain ⟨description, name, required, resourceTypes, value, variableType⟩ := silent
  simp [mergeVariable, description, name, required, resourceTypes, value, variableType]

end Changes

/-! ## What an operation does to all things of one sort -/

namespace Plan

variable {plan : Plan} {id : Json}

/-- Of the tasks of a plan with distinct ids, one at most goes by an id that is not empty. -/
theorem Distinct.task_once (ids : plan.Distinct) (named : id ≠ .str "") :
    plan.tasks.Pairwise fun task other => task.hasId id = true → other.hasId id = false := by
  have apart : plan.tasks.Pairwise fun task other =>
      task.id ≠ "" → other.id ≠ "" → task.id ≠ other.id := by
    have nodup := ids.tasks
    unfold taskIds List.Nodup at nodup
    rw [List.pairwise_filter, List.pairwise_map] at nodup
    simpa using nodup
  apply apart.imp
  intro task other apart here
  rw [Bool.eq_false_iff]
  intro there
  have first : Json.str task.id = id := by simpa [Task.hasId] using here
  have second : Json.str other.id = id := by simpa [Task.hasId] using there
  have filled : task.id ≠ "" := by
    intro empty
    rw [empty] at first
    exact named first.symm
  have same : task.id = other.id := Json.str.inj (first.trans second.symm)
  exact apart filled (same ▸ filled) same

/-- Of the variables of a plan with distinct ids, one at most goes by an id. -/
theorem Distinct.variable_once (ids : plan.Distinct) :
    plan.inputs.Pairwise fun input other => input.hasId id = true → other.hasId id = false := by
  have apart : plan.inputs.Pairwise fun input other => input.variableId ≠ other.variableId :=
    List.pairwise_map.mp ids.inputs
  apply apart.imp
  intro input other apart here
  rw [Bool.eq_false_iff]
  intro there
  exact apart (Variable.variableId_eq_of_hasId here there)

end Plan

namespace Operation

variable {operation : Operation} {plan next : Plan} {entry : Option String}

/-- An operation removes some tasks, revises the others in their places and adds some after them. -/
theorem Performs.tasks (h : operation.Performs plan next entry) (ids : plan.Distinct)
    (named : operation.target? ≠ some (.str "")) :
    ∃ added, next.tasks = (plan.tasks.filter fun task => !operation.removesTask task.id).map
        operation.reviseTask ++ added ∧ added.map Task.id = operation.addedTask?.toList := by
  have all : plan.tasks = (plan.tasks.filter fun _ => !false).map id := by simp
  cases h with
  | addTask read filled free =>
      refine ⟨[_], congrArg (· ++ _) all, ?_⟩
      simp [addedTask?, read, Except.toOption]
  | @keepTask _ id changes known idle =>
      refine ⟨[], ?_, rfl⟩
      have same : (updateTask id changes).reviseTask = fun task => task := by
        funext task
        simp [reviseTask, Changes.mergeTask_of_idle idle]
      rw [same, List.append_nil]
      exact all
  | @changeTask _ id changes known given =>
      refine ⟨[], ?_, rfl⟩
      have filled : id ≠ .str "" := fun empty => named (congrArg some empty)
      rw [List.append_nil]
      change Plan.updateFirst (Task.hasId id) changes.mergeTask plan.tasks = _
      rw [Plan.updateFirst_eq_map (ids.task_once filled)]
      simp [removesTask, reviseTask]
  | removeTask known => exact ⟨[], (List.append_nil _).symm, rfl⟩
  | _ => exact ⟨[], all.trans (List.append_nil _).symm, rfl⟩

/-- An operation removes some variables, revises the others in their places and adds some after
them. -/
theorem Performs.inputs (h : operation.Performs plan next entry) (ids : plan.Distinct) :
    ∃ added, next.inputs =
        (plan.inputs.filter fun input => !operation.removesVariable input.variableId).map
          operation.reviseVariable ++ added ∧
      added.map Variable.variableId = operation.addedVariable?.toList := by
  have all : plan.inputs = (plan.inputs.filter fun _ => !false).map id := by simp
  cases h with
  | addVariable read free =>
      refine ⟨[_], congrArg (· ++ _) all, ?_⟩
      simp [addedVariable?, read, Except.toOption]
  | @keepVariable _ id changes input found idle =>
      refine ⟨[], ?_, rfl⟩
      have same : (updateVariable id changes).reviseVariable = fun input => input := by
        funext input
        simp [reviseVariable, Changes.mergeVariable_of_idle idle]
      rw [same, List.append_nil]
      exact all
  | @changeVariable _ id changes input found given typed =>
      refine ⟨[], ?_, rfl⟩
      rw [List.append_nil]
      change Plan.updateFirst (Variable.hasId id) (fun _ => changes.mergeVariable input)
        plan.inputs = _
      rw [Plan.updateFirst_of_find? found, Plan.updateFirst_eq_map ids.variable_once]
      simp [removesVariable, reviseVariable]
  | @removeVariable _ id known =>
      refine ⟨[], ?_, rfl⟩
      have same : (deleteVariable id).reviseVariable = fun input => input := rfl
      rw [same, List.append_nil, List.map_id']
      rfl
  | _ => exact ⟨[], all.trans (List.append_nil _).symm, rfl⟩

end Operation

/-- The things of one sort in a plan, which have ids, and what becomes of them by an operation. -/
structure Roster (α : Type) where
  /-- The things of the sort in a plan. -/
  items : Plan → List α
  /-- The id of a thing. -/
  idOf : α → String
  /-- The operation removes the thing with an id. -/
  removes : Operation → String → Bool
  /-- A thing after an operation that does not remove it. -/
  revise : Operation → α → α
  /-- The id of the thing that an operation adds. -/
  added? : Operation → Option String
  /-- No operation changes an id. -/
  idOf_revise : ∀ operation item, idOf (revise operation item) = idOf item
  /-- An operation removes some things, revises the others in their places and adds some after
  them. -/
  performs : ∀ {operation plan next entry}, operation.Performs plan next entry →
    plan.Distinct → operation.target? ≠ some (.str "") →
    ∃ added, items next = ((items plan).filter fun item => !removes operation (idOf item)).map
        (revise operation) ++ added ∧ added.map idOf = (added? operation).toList

namespace Roster

/-- The tasks of a plan. -/
def tasks : Roster Task where
  items := Plan.tasks
  idOf := Task.id
  removes := Operation.removesTask
  revise := Operation.reviseTask
  added? := Operation.addedTask?
  idOf_revise := Operation.id_reviseTask
  performs h ids named := h.tasks ids named

/-- The variables of a plan. -/
def inputs : Roster Variable where
  items := Plan.inputs
  idOf := Variable.variableId
  removes := Operation.removesVariable
  revise := Operation.reviseVariable
  added? := Operation.addedVariable?
  idOf_revise := Operation.variableId_reviseVariable
  performs h ids _ := h.inputs ids

/-! ## What a run does to all things of one sort -/

variable {α : Type} (roster : Roster α) {plan final : Plan} {operations : List Operation}
  {log : List String}

/-- A thing after operations that do not remove it. -/
def reviseAll (operations : List Operation) (item : α) : α :=
  operations.foldl (fun item operation => roster.revise operation item) item

/-- A thing keeps its id. -/
theorem idOf_reviseAll (operations : List Operation) (item : α) :
    roster.idOf (roster.reviseAll operations item) = roster.idOf item := by
  induction operations generalizing item with
  | nil => rfl
  | cons operation rest ih => exact (ih _).trans (roster.idOf_revise operation item)

/-- What operations leave of some things: those that none of them removes, revised by each. -/
def leave (operations : List Operation) (items : List α) : List α :=
  (items.filter fun item => !operations.any (roster.removes · (roster.idOf item))).map
    (roster.reviseAll operations)

theorem leave_nil (items : List α) : roster.leave [] items = items := by
  have same : roster.reviseAll [] = id := rfl
  simp [leave, same]

/-- The later operations leave something of what the first one leaves. -/
theorem leave_cons (operation : Operation) (rest : List Operation) (items : List α) :
    roster.leave rest
        ((items.filter fun item => !roster.removes operation (roster.idOf item)).map
          (roster.revise operation)) =
      roster.leave (operation :: rest) items := by
  have both : ∀ item : α, ((!rest.any (roster.removes · (roster.idOf item))) &&
        !roster.removes operation (roster.idOf item)) =
      !(operation :: rest).any (roster.removes · (roster.idOf item)) := by
    intro item
    rw [List.any_cons, Bool.not_or, Bool.and_comm]
  unfold leave
  rw [List.filter_map, List.map_map, List.filter_filter]
  simp only [Function.comp_def, roster.idOf_revise, both]
  rfl

/-- Things one list after another are left one list after another. -/
theorem leave_append (operations : List Operation) (items more : List α) :
    roster.leave operations (items ++ more) =
      roster.leave operations items ++ roster.leave operations more := by
  rw [leave, List.filter_append, List.map_append]
  rfl

/-- What is left has ids that were there, in their order. -/
theorem ids_leave (operations : List Operation) (items : List α) :
    ((roster.leave operations items).map roster.idOf).Sublist (items.map roster.idOf) := by
  have same : roster.idOf ∘ roster.reviseAll operations = roster.idOf :=
    funext (roster.idOf_reviseAll operations)
  rw [leave, List.map_map, same]
  exact List.filter_sublist.map roster.idOf

/-- A run removes some things, revises the others by each operation in turn and leaves some of
those that it adds after them. -/
theorem undergoes (h : plan.Undergoes operations final log) (ids : plan.Distinct)
    (named : ∀ operation ∈ operations, operation.target? ≠ some (.str "")) :
    ∃ created, roster.items final = roster.leave operations (roster.items plan) ++ created ∧
      (created.map roster.idOf).Sublist (operations.filterMap roster.added?) := by
  induction h with
  | nil => exact ⟨[], by rw [leave_nil, List.append_nil], List.Sublist.refl _⟩
  | @cons plan next final operation rest entry log first later ih =>
      have filled := named operation List.mem_cons_self
      obtain ⟨added, nextItems, addedIds⟩ := roster.performs first ids filled
      obtain ⟨created, finalItems, createdIds⟩ := ih (first.distinct ids)
        fun later hlater => named later (List.mem_cons_of_mem _ hlater)
      -- the later operations may remove and revise what the first one adds, too
      refine ⟨roster.leave rest added ++ created, ?_, ?_⟩
      · rw [finalItems, nextItems, leave_append, leave_cons, List.append_assoc]
      · have split : (operation :: rest).filterMap roster.added? =
            (roster.added? operation).toList ++ rest.filterMap roster.added? := by
          rcases h : roster.added? operation with _ | id
          · rw [List.filterMap_cons_none h, Option.toList_none, List.nil_append]
          · rw [List.filterMap_cons_some h, Option.toList_some, List.singleton_append]
        rw [List.map_append, split]
        exact (addedIds ▸ roster.ids_leave rest added).append createdIds

end Roster

/-! ## Revised tasks and variables -/

/-- What has become of a task that operations did not remove. It keeps its id. Each member is what
the last update that gives it says, or else what it was before; of the dependencies, those on tasks
that were removed since are missing. -/
structure Task.Revised (operations : List Operation) (task revised : Task) : Prop where
  /-- The id stays. -/
  id : revised.id = task.id
  /-- The title is the one given last. -/
  title : ∃ since, LastGiven (Operation.gives task.id Changes.title) task.title operations
    revised.title since
  /-- The prompt is the one given last. -/
  prompt : ∃ since, LastGiven (Operation.gives task.id Changes.prompt) task.prompt operations
    revised.prompt since
  /-- The dependencies are those given last, without the tasks removed since. -/
  dependentTasks : ∃ ids since,
    LastGiven (fun operation => (operation.gives task.id Changes.dependentTasks).map some)
      task.dependentTasks operations ids since ∧
    revised.dependentTasks =
      ids.map (·.filter fun id => !since.any fun operation => operation.removesTask id)
  /-- The toolsets are those given last. -/
  toolsets : ∃ since, LastGiven (Operation.gives task.id Changes.toolsets) task.toolsets operations
    revised.toolsets since

/-- What has become of a variable that operations did not remove. It keeps its id, and it is what it
was if no operation makes changes to it. -/
structure Variable.Revised (operations : List Operation) (input revised : Variable) : Prop where
  /-- The id stays. -/
  variableId : revised.variableId = input.variableId
  /-- Without changes everything stays. -/
  untouched : (∀ operation ∈ operations, operation.variableChanges? input.variableId = none) →
    revised = input

/-- A task that one more operation revises. -/
theorem Task.Revised.snoc {operations : List Operation} {operation : Operation}
    {task revised : Task} (h : task.Revised operations revised) :
    task.Revised (operations ++ [operation]) (operation.reviseTask revised) := by
  obtain ⟨sameId, title, prompt, ⟨ids, since, given, listed⟩, toolsets⟩ := h
  refine ⟨(operation.id_reviseTask revised).trans sameId, ?_, ?_, ?_, ?_⟩
  · rw [Operation.member_reviseTask Task.title Changes.title (fun _ _ => rfl) fun _ _ => rfl,
      sameId]
    exact LastGiven.snoc_getD title
  · rw [Operation.member_reviseTask Task.prompt Changes.prompt (fun _ _ => rfl) fun _ _ => rfl,
      sameId]
    exact LastGiven.snoc_getD prompt
  · -- new dependencies make the earlier removals void; otherwise one more removal may count
    rcases gives : operation.gives task.id Changes.dependentTasks with _ | newer
    · refine ⟨ids, since ++ [operation], given.snoc_of_none (by simp [gives]), ?_⟩
      rw [Operation.dependentTasks_reviseTask_of_none (sameId ▸ gives), listed, Option.map_map]
      refine congrArg (ids.map ·) (funext fun ids => ?_)
      simp [List.filter_filter, Bool.and_comm]
    · refine ⟨some newer, [], LastGiven.snoc_of_some (by simp [gives]), ?_⟩
      rw [Operation.dependentTasks_reviseTask_of_some (sameId ▸ gives)]
      simp
  · rw [Operation.member_reviseTask Task.toolsets Changes.toolsets (fun _ _ => rfl) fun _ _ => rfl,
      sameId]
    exact LastGiven.snoc_getD toolsets

/-- A task that operations revise one after another. -/
theorem Task.revised_reviseAll (operations : List Operation) (task : Task) :
    task.Revised operations (Roster.tasks.reviseAll operations task) := by
  induction operations using List.reverseRecOn with
  | nil =>
      refine ⟨rfl, ⟨[], .nil⟩, ⟨[], .nil⟩, ⟨task.dependentTasks, [], .nil, ?_⟩, ⟨[], .nil⟩⟩
      simp [Roster.reviseAll]
  | append_singleton earlier operation ih =>
      have step : Roster.tasks.reviseAll (earlier ++ [operation]) task =
          operation.reviseTask (Roster.tasks.reviseAll earlier task) := by
        simp [Roster.reviseAll, Roster.tasks]
      rw [step]
      exact ih.snoc

/-- A variable that operations revise one after another. -/
theorem Variable.revised_reviseAll (operations : List Operation) (input : Variable) :
    input.Revised operations (Roster.inputs.reviseAll operations input) := by
  refine ⟨Roster.inputs.idOf_reviseAll operations input, ?_⟩
  intro untouched
  induction operations with
  | nil => rfl
  | cons operation rest ih =>
      have first : operation.reviseVariable input = input :=
        Operation.reviseVariable_of_untouched (untouched operation List.mem_cons_self)
      change Roster.inputs.reviseAll rest (operation.reviseVariable input) = input
      rw [first]
      exact ih fun later hlater => untouched later (List.mem_cons_of_mem _ hlater)

/-! ## Patches -/

/-- **The last writer wins, and nothing else is touched.** The values of a patch that is applied are
operations. The plan after it begins with the tasks of the plan before that no operation removed, in
their order, each as the last updates of it leave it (`Task.Revised`), and goes on with tasks that
the operations added, in the order in which they were added. The same holds of the variables; one
that no operation updates is what it was. -/
theorem applyPatch_lastWriter {input : PlanInput} {base final : Plan} {values : List Json}
    {log : List String} (loads : input.load = .ok base)
    (applied : applyPatch input (values.map .raw) = .ok (.applied final log)) :
    ∃ operations, List.Forall₂ (fun value operation => Operation.ofJson value = .ok operation)
        values operations ∧
      (∃ kept created, final.tasks = kept ++ created ∧
        List.Forall₂ (Task.Revised operations)
          (base.tasks.filter fun task => !operations.any (·.removesTask task.id)) kept ∧
        (created.map Task.id).Sublist (operations.filterMap Operation.addedTask?)) ∧
      ∃ kept created, final.inputs = kept ++ created ∧
        List.Forall₂ (Variable.Revised operations)
          (base.inputs.filter fun input => !operations.any (·.removesVariable input.variableId))
          kept ∧
        (created.map Variable.variableId).Sublist
          (operations.filterMap Operation.addedVariable?) := by
  obtain ⟨found, operations, load, reads, effects⟩ := applyPatch_raw_eq_applied_iff.mp applied
  obtain rfl : base = found := Except.ok.inj (loads.symm.trans load)
  have ids : base.Distinct := PlanInput.distinct_of_load loads
  have named : ∀ operation ∈ operations, operation.target? ≠ some (.str "") :=
    Operation.targets_ne_empty reads
  refine ⟨operations, reads, ?_, ?_⟩
  · obtain ⟨created, tasks, createdIds⟩ := Roster.tasks.undergoes effects ids named
    refine ⟨_, created, tasks, List.forall₂_map_right_iff.mpr ?_, createdIds⟩
    exact List.forall₂_same.mpr fun task _ => task.revised_reviseAll operations
  · obtain ⟨created, inputs, createdIds⟩ := Roster.inputs.undergoes effects ids named
    refine ⟨_, created, inputs, List.forall₂_map_right_iff.mpr ?_, createdIds⟩
    exact List.forall₂_same.mpr fun input _ => input.revised_reviseAll operations

/-- Two updates of one task, with a removal between them of a task that it depends on twice, and a
task that is added. -/
theorem applyPatch_lastWriter_of_removal :
    let unnamed : Task := ⟨"", "", "", some ["b"], []⟩
    let first : Task := ⟨"a", "old", "old", none, []⟩
    let third : Task := ⟨"c", "", "", none, []⟩
    let base : Plan := ⟨.str "", [unnamed, first, ⟨"b", "", "", none, []⟩, third], []⟩
    let values : List Json := [
      .obj [("op", .str "updateTask"), ("taskId", .str "a"), ("data", .obj [("title", .str "new"),
        ("dependentTasks", .arr [.str "b", .str "c", .str "b", .str "c"])])],
      .obj [("op", .str "deleteTask"), ("taskId", .str "b")],
      .obj [("op", .str "updateTask"), ("taskId", .str "a"),
        ("data", .obj [("title", .null), ("prompt", .str "new")])],
      .obj [("op", .str "createTask"), ("task", .obj [("id", .str "d")])]]
    let operations : List Operation := [
      .updateTask (.str "a") { Changes.none with
        title := some "new", dependentTasks := some ["b", "c", "b", "c"] },
      .deleteTask (.str "b"),
      .updateTask (.str "a") { Changes.none with prompt := some "new" },
      .createTask (.raw (.obj [("id", .str "d")]))]
    let final : Plan := ⟨.str "", [⟨"", "", "", some [], []⟩,
      ⟨"a", "new", "new", some ["c", "c"], []⟩, third, ⟨"d", "", "", none, []⟩], []⟩
    ∃ log, applyPatch (.parsed base) (values.map .raw) = .ok (.applied final log) ∧
      ∃ kept created, final.tasks = kept ++ created ∧
        List.Forall₂ (Task.Revised operations) [unnamed, first, third] kept ∧
        (created.map Task.id).Sublist ["d"] := by
  intro unnamed first third base values operations final
  obtain ⟨log, applied⟩ : ∃ log, applyPatch (.parsed base) (values.map .raw) =
      .ok (.applied final log) := ⟨_, rfl⟩
  have loads : (PlanInput.parsed base).load = .ok base := rfl
  refine ⟨log, applied, ?_⟩
  obtain ⟨found, reads, ⟨kept, created, tasks, revised, createdIds⟩, -⟩ :=
    applyPatch_lastWriter loads applied
  have same : operations = found := by
    have each : List.Forall₂ (fun value operation => Operation.ofJson value = .ok operation)
        values operations := .cons rfl (.cons rfl (.cons rfl (.cons rfl .nil)))
    exact List.right_unique_forall₂' (fun _ _ _ h h' => Except.ok.inj (h.symm.trans h')) each reads
  subst same
  exact ⟨kept, created, tasks, revised, createdIds⟩

end PlanGraph
