import PlanGraph.Proofs.Patch.Answers
import PlanGraph.Proofs.Patch.References
import PlanGraph.Proofs.Plan.Grammar

/-!
# Creating and removing again

What an operation creates, the next one can remove, and the plan is then what it was before
(`applyPatch_undone`). A task or variable that is created comes last, so removing it leaves the
others in their places; and where no task depends on a new task already, no dependency goes with it.

As operations, the two undo each other whatever the id is. Objects that the operations are read from
do so for every id but the empty one, which counts as a missing payload: no task is created under
it, but a variable is, and no object that is read as an operation removes this variable again
(`created_not_removed`).
-/

namespace PlanGraph

/-! ## Objects that tell an operation -/

namespace Operation

/-- The value is an object that names an operation and gives the payload that it needs, under either
spelling of its key. Whatever else the object holds is passed over. -/
structure Orders (kind : OperationKind) (payload value : Json) : Prop where
  /-- The operation is named. -/
  op : value.get? "op" = some (.str kind.name)
  /-- The payload is there. -/
  payload : ∃ key, kind.payloadKey? = some key ∧ value.either? key.wire key.plain = some payload

variable {kind : OperationKind} {key : Key} {make : Json → Operation} {payload value : Json}

/-- An object that names an operation is read by its members. -/
theorem Orders.exists_members (orders : Orders kind payload value)
    (needs : kind.payloadKey? = some key) :
    ∃ members, key.value? members = some payload ∧
      ofJson value = (ofMembers kind members).mapError .failure := by
  obtain ⟨named, used, same, there⟩ := orders
  obtain rfl : key = used := Option.some.inj (needs.symm.trans same)
  rcases value with _ | _ | _ | _ | _ | _ | members <;> simp only [Json.get?, reduceCtorEq] at named
  refine ⟨members, (key.value?_eq_either? members).trans there, ?_⟩
  simp only [ofJson, named, Option.getD_some, Json.text?, Option.bind_eq_bind, Option.bind_some,
    OperationKind.ofName?_name]

/-- Operations of a kind are made of their payload, whatever else the object holds. -/
structure MadeOf (kind : OperationKind) (key : Key) (make : Json → Operation) : Prop where
  /-- The payload is needed. -/
  needs : kind.payloadKey? = some key
  /-- Nothing else is. -/
  reads : ∀ members, ofMembers kind members =
    Operation.payload key kind members >>= fun payload => pure (make payload)

theorem madeOf_createTask : MadeOf .createTask (.word "task") fun body => .createTask (.raw body) :=
  ⟨rfl, fun _ => rfl⟩

theorem madeOf_deleteTask : MadeOf .deleteTask ⟨"taskId", "task_id"⟩ .deleteTask :=
  ⟨rfl, fun _ => rfl⟩

theorem madeOf_createVariable :
    MadeOf .createVariable (.word "variable") fun body => .createVariable (.raw body) :=
  ⟨rfl, fun _ => rfl⟩

theorem madeOf_deleteVariable : MadeOf .deleteVariable .variableId .deleteVariable :=
  ⟨rfl, fun _ => rfl⟩

/-- An operation is read from an object that gives its payload. -/
theorem MadeOf.ofJson_eq (madeOf : MadeOf kind key make) (orders : Orders kind payload value)
    (nonnull : payload ≠ .null) (filled : payload ≠ .str "") :
    ofJson value = .ok (make payload) := by
  obtain ⟨members, there, read⟩ := orders.exists_members madeOf.needs
  have given : Operation.payload key kind members = .ok payload :=
    payload_eq_ok_iff.mpr ⟨there, nonnull, filled⟩
  rw [read, madeOf.reads, given]
  rfl

/-- Whatever is read as a record is an object, so it is a payload. -/
theorem MadeOf.ofJson_eq_of_record {α : Type} {shape label : String}
    {check : List (String × Json) → Checked α} {made : α} (madeOf : MadeOf kind key make)
    (orders : Orders kind payload value)
    (read : (Json.checkRecord shape check payload).orFail label = .ok made) :
    ofJson value = .ok (make payload) := by
  obtain ⟨members, rfl, -⟩ := Json.checkRecord_eq_passed_iff.mp (Checked.orFail_eq_ok_iff.mp read)
  exact madeOf.ofJson_eq orders Json.noConfusion Json.noConfusion

/-- An id that is not empty is a payload. -/
theorem MadeOf.ofJson_eq_of_id {id : String} (madeOf : MadeOf kind key make)
    (orders : Orders kind (.str id) value) (named : id ≠ "") :
    ofJson value = .ok (make (.str id)) :=
  madeOf.ofJson_eq orders Json.noConfusion (by simpa using named)

/-- An empty payload is none. -/
theorem MadeOf.ofJson_eq_error (madeOf : MadeOf kind key make)
    (orders : Orders kind (.str "") value) :
    ofJson value = .error (.failure
      ⟨.invalid label [missingPayload key kind], some kind.name, .null, none⟩) := by
  obtain ⟨members, there, read⟩ := orders.exists_members madeOf.needs
  have missing : payload? key members = none := by
    rw [← Option.not_isSome_iff_eq_none, Option.isSome_iff_exists]
    rintro ⟨found, given⟩
    obtain ⟨here, -, filled⟩ := payload?_eq_some_iff.mp given
    exact filled (Option.some.inj (here.symm.trans there))
  rw [read, madeOf.reads, Operation.payload, missing]
  rfl

end Operation

/-! ## The plan is what it was -/

namespace Plan

variable {plan : Plan}

/-- Without an id that it lacks, a plan has the tasks that it had. -/
theorem Lacks.tasks_without {id : String} (lacks : plan.Lacks id) :
    (plan.tasks.filter fun task => !task.hasId (.str id)).map (withoutDependency (.str id)) =
      plan.tasks := by
  obtain ⟨free, independent⟩ := lacks
  have others : (plan.tasks.filter fun task => !task.hasId (.str id)) = plan.tasks := by
    refine List.filter_eq_self.mpr fun task listed => ?_
    rw [Bool.not_eq_true', Bool.eq_false_iff]
    intro here
    rw [hasTask, List.any_eq_false] at free
    exact free task listed here
  have untouched : ∀ task ∈ plan.tasks, withoutDependency (.str id) task = task := by
    intro task listed
    have spared := independent task listed
    obtain ⟨name, title, prompt, _ | ids, toolsets⟩ := task
    · rfl
    · have whole : ids.filter (fun d => Json.str d ≠ .str id) = ids := by
        refine List.filter_eq_self.mpr fun d depends => ?_
        have other : d ≠ id := fun same => spared (same ▸ depends)
        simpa using other
      simp only [withoutDependency, Option.map_some, whole]
  rw [others, List.map_congr_left untouched, List.map_id']

/-- A task that is created and removed leaves no trace, if no task depended on it before. -/
theorem undergoes_task {body : Draft Task} {task : Task}
    (read : Operation.taskBody body = .ok task) (named : task.id ≠ "")
    (lacks : plan.Lacks task.id) :
    plan.Undergoes [.createTask body, .deleteTask (.str task.id)] plan
      [LogEntry.taskAdded task, LogEntry.taskRemoved (.str task.id) 0] := by
  have known : hasTask { plan with tasks := plan.tasks ++ [task] } (.str task.id) = true := by
    simp [hasTask, Task.hasId]
  have kept : ((plan.tasks ++ [task]).filter fun other => !other.hasId (.str task.id)) =
      plan.tasks.filter fun other => !other.hasId (.str task.id) := by
    simp [Task.hasId]
  have independent : (plan.tasks.filter fun other => !other.hasId (.str task.id)).countP
      (dependsOn (.str task.id)) = 0 := by
    refine List.countP_eq_zero.mpr fun other listed depends => ?_
    obtain ⟨d, here, same⟩ := List.any_eq_true.mp depends
    obtain rfl := Json.str.inj (beq_iff_eq.mp same)
    exact lacks.2 other (List.mem_filter.mp listed).1 here
  have removed := Operation.Performs.removeTask known
  simp only [kept, independent, lacks.tasks_without] at removed
  exact .cons (.addTask read named lacks.1) (.cons removed .nil)

/-- A variable that is created and removed leaves no trace. -/
theorem undergoes_variable {body : Draft Variable} {input : Variable}
    (read : Operation.variableBody body = .ok input)
    (free : plan.hasVariable (.str input.variableId) = false) :
    plan.Undergoes [.createVariable body, .deleteVariable (.str input.variableId)] plan
      [LogEntry.variableAdded input, LogEntry.variableRemoved (.str input.variableId)] := by
  have known : hasVariable { plan with inputs := plan.inputs ++ [input] }
      (.str input.variableId) = true := by
    simp [hasVariable, Variable.hasId]
  have kept : ((plan.inputs ++ [input]).filter fun other => !other.hasId (.str input.variableId)) =
      plan.inputs := by
    have others : ∀ other ∈ plan.inputs, (!other.hasId (.str input.variableId)) = true := by
      intro other listed
      rw [hasVariable, List.any_eq_false] at free
      simpa using free other listed
    rw [List.filter_append, List.filter_eq_self.mpr others]
    simp [Variable.hasId]
  have removed := Operation.Performs.removeVariable known
  simp only [kept] at removed
  exact .cons (.addVariable read free) (.cons removed .nil)

end Plan

/-! ## Patches -/

section

open Operation

variable {input : PlanInput} {base : Plan}

/-- A patch of two steps whose operations take effect one after another. -/
theorem applyPatch_pair {first second : PatchStep} {one other : Operation} {final : Plan}
    {log : List String} (loads : input.load = .ok base) (read : first.operation = .ok one)
    (read' : second.operation = .ok other) (effects : base.Undergoes [one, other] final log) :
    applyPatch input [first, second] = .ok (.applied final log) :=
  applyPatch_of_undergoes loads (.cons read (.cons read' .nil)) effects

/-- A variable with the empty id is created, and the patch that goes on to remove it is refused. -/
theorem applyPatch_nameless {body create delete : Json} {made : Variable}
    (loads : input.load = .ok base) (read : Variable.ofJson body "Variable" = .ok made)
    (free : base.hasVariable (.str made.variableId) = false)
    (orders : Orders .createVariable body create)
    (orders' : Orders .deleteVariable (.str "") delete) :
    applyPatch input [.raw create] = .ok (.applied { base with inputs := base.inputs ++ [made] }
      [LogEntry.variableAdded made]) ∧
    ∃ error, applyPatch input [.raw create, .raw delete] = .ok (.refused error
      ⟨.invalid label [missingPayload .variableId .deleteVariable], some "deleteVariable", .null,
        some 1⟩) := by
  have bodyRead : variableBody (.raw body) = .ok made := mapError_eq_ok_iff.mpr read
  have createRead := madeOf_createVariable.ofJson_eq_of_record orders read
  have created : applyPatch input ([create].map .raw) =
      .ok (.applied { base with inputs := base.inputs ++ [made] } [LogEntry.variableAdded made]) :=
    applyPatch_of_undergoes loads (.cons createRead .nil)
      (.cons (.addVariable bodyRead free) .nil)
  have unread := madeOf_deleteVariable.ofJson_eq_error orders'
  have refused : applyPatch input (([create] ++ delete :: []).map .raw) = _ :=
    applyPatch_of_unread created unread
  exact ⟨created, _, refused⟩

/-- **What is created can be removed.** Take any plan.

* A task with an id that the plan lacks is created and removed again, and the plan is what it was.
  So is a variable with an id that is free, as operations.
* Objects in any spelling do the same if they name the two operations and give the body and the id,
  for tasks with an id and for variables whose id is not empty.
* With the empty id a variable is created as well, but the patch that goes on to remove it is
  refused at the second place, since the id counts as missing. -/
theorem applyPatch_undone (loads : input.load = .ok base) :
    (∀ draft task, taskBody draft = .ok task → task.id ≠ "" → base.Lacks task.id →
      applyPatch input [.ready (.createTask draft), .ready (.deleteTask (.str task.id))] =
        .ok (.applied base [LogEntry.taskAdded task, LogEntry.taskRemoved (.str task.id) 0])) ∧
    (∀ draft made, variableBody draft = .ok made →
      base.hasVariable (.str made.variableId) = false →
      applyPatch input
          [.ready (.createVariable draft), .ready (.deleteVariable (.str made.variableId))] =
        .ok (.applied base
          [LogEntry.variableAdded made, LogEntry.variableRemoved (.str made.variableId)])) ∧
    (∀ body task create delete, Task.ofJson body = .ok task → task.id ≠ "" →
      base.Lacks task.id → Orders .createTask body create →
      Orders .deleteTask (.str task.id) delete →
      applyPatch input [.raw create, .raw delete] =
        .ok (.applied base [LogEntry.taskAdded task, LogEntry.taskRemoved (.str task.id) 0])) ∧
    ∀ body made create delete, Variable.ofJson body "Variable" = .ok made →
      base.hasVariable (.str made.variableId) = false → Orders .createVariable body create →
      Orders .deleteVariable (.str made.variableId) delete →
      (made.variableId ≠ "" → applyPatch input [.raw create, .raw delete] =
        .ok (.applied base
          [LogEntry.variableAdded made, LogEntry.variableRemoved (.str made.variableId)])) ∧
      (made.variableId = "" →
        applyPatch input [.raw create] =
          .ok (.applied { base with inputs := base.inputs ++ [made] }
            [LogEntry.variableAdded made]) ∧
        ∃ error, applyPatch input [.raw create, .raw delete] = .ok (.refused error
          ⟨.invalid label [missingPayload .variableId .deleteVariable], some "deleteVariable",
            .null, some 1⟩)) := by
  refine ⟨?_, ?_, ?_, ?_⟩
  · intro draft task read named lacks
    exact applyPatch_pair loads rfl rfl (Plan.undergoes_task read named lacks)
  · intro draft made read free
    exact applyPatch_pair loads rfl rfl (Plan.undergoes_variable read free)
  · intro body task create delete read named lacks orders orders'
    have bodyRead : taskBody (.raw body) = .ok task := mapError_eq_ok_iff.mpr read
    have createRead := madeOf_createTask.ofJson_eq_of_record orders read
    have deleteRead := madeOf_deleteTask.ofJson_eq_of_id orders' named
    exact applyPatch_pair loads createRead deleteRead (Plan.undergoes_task bodyRead named lacks)
  · intro body made create delete read free orders orders'
    constructor
    · intro named
      have bodyRead : variableBody (.raw body) = .ok made := mapError_eq_ok_iff.mpr read
      have createRead := madeOf_createVariable.ofJson_eq_of_record orders read
      have deleteRead := madeOf_deleteVariable.ofJson_eq_of_id orders' named
      exact applyPatch_pair loads createRead deleteRead (Plan.undergoes_variable bodyRead free)
    · intro nameless
      rw [nameless] at orders'
      exact applyPatch_nameless loads read free orders orders'

end

/-- A task among two others that depend on each other, given under the plain spelling of its id, is
created and removed again. -/
theorem applyPatch_undone_of_two :
    let tasks : List Task := [⟨"a", "", "", some ["b"], []⟩, ⟨"b", "", "", some ["a"], []⟩]
    let body : Json := .obj [("id", .str "c"), ("dependent_tasks", .arr [.str "a"])]
    let create : Json := .obj [("op", .str "createTask"), ("task", body)]
    let delete : Json := .obj [("task_id", .str "c"), ("op", .str "deleteTask")]
    applyPatch (.parsed ⟨.str "", tasks, []⟩) [.raw create, .raw delete] =
      .ok (.applied ⟨.str "", tasks, []⟩
        ["TASK ADDED: [c] title=\"\"", "TASK REMOVED: [c] dependents_updated=0"]) := by
  intro tasks body create delete
  have loads : (PlanInput.parsed ⟨.str "", tasks, []⟩).load = .ok ⟨.str "", tasks, []⟩ :=
    PlanInput.load_parsed ⟨by decide, by decide⟩
  have lacks : Plan.Lacks ⟨.str "", tasks, []⟩ "c" := ⟨by decide, by decide⟩
  have orders : Operation.Orders .createTask body create := ⟨rfl, _, rfl, rfl⟩
  have orders' : Operation.Orders .deleteTask (.str "c") delete := ⟨rfl, _, rfl, rfl⟩
  obtain ⟨-, -, undone, -⟩ := applyPatch_undone loads
  exact undone body ⟨"c", "", "", some ["a"], []⟩ create delete rfl (by decide) lacks orders orders'

/-- A variable with the empty id is sound and its id is free in a plan without variables, but
removing it right after it was created is refused, so the plan is not what it was. -/
theorem created_not_removed :
    let body : Json := .obj [("variableId", .str ""), ("name", .str "n"),
      ("description", .str "d"), ("value", .arr [])]
    let create : Json := .obj [("op", .str "createVariable"), ("variable", body)]
    let delete : Json := .obj [("op", .str "deleteVariable"), ("variableId", .str "")]
    (∃ made, Variable.ofJson body "Variable" = .ok made ∧ made.variableId = "" ∧
      Plan.hasVariable ⟨.str "", [], []⟩ (.str made.variableId) = false) ∧
    (PlanInput.raw (.obj [])).load = .ok ⟨.str "", [], []⟩ ∧
    ∀ log, applyPatch (.raw (.obj [])) [.raw create, .raw delete] ≠
      .ok (.applied ⟨.str "", [], []⟩ log) := by
  intro body create delete
  refine ⟨⟨_, rfl, rfl, rfl⟩, rfl, ?_⟩
  intro log applied
  cases applied

end PlanGraph
