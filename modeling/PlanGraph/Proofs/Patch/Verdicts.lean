import PlanGraph.Proofs.Patch.Answers
import PlanGraph.Proofs.Patch.Merging
import PlanGraph.Proofs.Plan.Legible

/-!
# The kinds of failures

Which failure an operation that was read meets on a plan, if any (`applyPatch_verdict`). Three
relations between a plan, an operation and an id say so, and none of them looks at how an operation
is carried out.

* `Operation.Duplicates`: something is to be created under an id that is taken.
* `Operation.Misses`: something is to be changed or removed that is not there.
* `Operation.Spoils`: something would be there that does not validate.

Each relation leads to a failure of its own kind (`Duplicates.refused`, `Misses.refused`,
`Spoils.refused`), and where none holds the operation is carried out
(`Operation.exists_performs`). A plan that patches lead to is sound (`Plan.Reachable.sound`), so
that an update without a change never comes upon a variable that is ill typed already.
-/

namespace PlanGraph

/-! ## Plans that patches lead to -/

/-- Patches lead to the plan from one that was accepted. -/
inductive Plan.Reachable : Plan → Prop where
  /-- A value was accepted. -/
  | read {value : Json} {plan : Plan} (accepted : Plan.ofJson value = .ok plan) : Reachable plan
  /-- A plan was accepted that was not read, with variables that keep the rule of their type. -/
  | given {plan : Plan} (accepted : plan.distinct = .ok plan)
      (typed : ∀ input ∈ plan.inputs, input.wellTyped = true) : Reachable plan
  /-- A patch was applied. -/
  | patched {plan next : Plan} {steps : List PatchStep} {log : List String}
      (before : Reachable plan)
      (applied : applyPatch (.parsed plan) steps = .ok (.applied next log)) : Reachable next

/-- A plan that patches lead to is sound. -/
theorem Plan.Reachable.sound {plan : Plan} (h : plan.Reachable) : plan.Sound := by
  induction h with
  | read accepted => exact sound_of_ofJson accepted
  | given accepted typed => exact ⟨(distinct_eq_ok_iff.mp accepted).2, typed⟩
  | patched before applied sound =>
      obtain ⟨loaded, load, run⟩ := applyPatch_eq_applied_iff.mp applied
      obtain ⟨rfl, -⟩ := distinct_eq_ok_iff.mp load
      exact sound.runSteps run

/-! ## What is not there -/

namespace Plan

variable {plan : Plan} {id : Json}

/-- A plan has no task with an id when none of its tasks has it. -/
theorem hasTask_eq_false_iff :
    plan.hasTask id = false ↔ ¬ ∃ task ∈ plan.tasks, .str task.id = id := by
  rw [← Bool.not_eq_true, hasTask_iff]

/-- A plan has no variable with an id when none of its variables has it. -/
theorem hasVariable_eq_false_iff :
    plan.hasVariable id = false ↔ ¬ ∃ input ∈ plan.inputs, .str input.variableId = id := by
  rw [← Bool.not_eq_true, hasVariable_iff]

/-- No variable is found by an id when none has it. -/
theorem find?_hasId_eq_none_iff :
    plan.inputs.find? (Variable.hasId id) = none ↔
      ¬ ∃ input ∈ plan.inputs, .str input.variableId = id := by
  simp [Variable.hasId]

end Plan

/-- A variable is ill typed when it lists resource types and is no resource variable. -/
theorem Variable.wellTyped_eq_false_iff {input : Variable} :
    input.wellTyped = false ↔
      ∃ types, input.resourceTypes = some types ∧ types ≠ [] ∧ input.variableType ≠ .resource := by
  rw [← Bool.not_eq_true, wellTyped_iff]
  push Not
  rfl

/-! ## What stands in the way of an operation -/

namespace Operation

/-- Something valid is to be created, under an id that something in the plan has. -/
inductive Duplicates (plan : Plan) : Operation → Json → Prop where
  /-- A task has the id of the task. -/
  | task {body : Json} {task other : Task} (valid : Task.ofJson body = .ok task)
      (named : task.id ≠ "") (there : other ∈ plan.tasks) (same : other.id = task.id) :
      Duplicates plan (.createTask (.raw body)) (.str task.id)
  /-- A variable has the id of the variable. -/
  | input {body : Json} {input other : Variable}
      (valid : Variable.ofJson body "Variable" = .ok input)
      (there : other ∈ plan.inputs) (same : other.variableId = input.variableId) :
      Duplicates plan (.createVariable (.raw body)) (.str input.variableId)

/-- Something is to be changed or removed, and nothing in the plan has its id. -/
inductive Misses (plan : Plan) : Operation → Json → Prop where
  /-- No task has the id of the task to change. -/
  | updateTask {id : Json} {changes : Changes} (absent : ¬ ∃ task ∈ plan.tasks, .str task.id = id) :
      Misses plan (.updateTask id changes) id
  /-- No task has the id of the task to remove. -/
  | deleteTask {id : Json} (absent : ¬ ∃ task ∈ plan.tasks, .str task.id = id) :
      Misses plan (.deleteTask id) id
  /-- No variable has the id of the variable to change. -/
  | updateVariable {id : Json} {changes : Changes}
      (absent : ¬ ∃ input ∈ plan.inputs, .str input.variableId = id) :
      Misses plan (.updateVariable id changes) id
  /-- No variable has the id of the variable to remove. -/
  | deleteVariable {id : Json} (absent : ¬ ∃ input ∈ plan.inputs, .str input.variableId = id) :
      Misses plan (.deleteVariable id) id

/-- Something would be there that is not valid. -/
inductive Spoils (plan : Plan) : Operation → Json → Prop where
  /-- The body of a task is not valid. -/
  | taskBody {body : Json} {failure : Failure} (invalid : Task.ofJson body = .error failure) :
      Spoils plan (.createTask (.raw body)) (rawTarget "id" body)
  /-- The body of a task is valid, but it names no id. -/
  | taskId {body : Json} {task : Task} (valid : Task.ofJson body = .ok task)
      (nameless : task.id = "") : Spoils plan (.createTask (.raw body)) .null
  /-- The body of a variable is not valid. -/
  | variableBody {body : Json} {failure : Failure}
      (invalid : Variable.ofJson body "Variable" = .error failure) :
      Spoils plan (.createVariable (.raw body)) (rawTarget "variableId" body)
  /-- A variable would list resource types, and be no resource variable. -/
  | resourceTypes {id : Json} {changes : Changes} {input : Variable} {types : List ResourceType}
      (there : input ∈ plan.inputs) (named : .str input.variableId = id)
      (listed : (changes.mergeVariable input).resourceTypes = some types) (filled : types ≠ [])
      (other : (changes.mergeVariable input).variableType ≠ .resource) :
      Spoils plan (.updateVariable id changes) id

/-- The operation is refused on the plan, by its name: with a failure of a kind, about an id. -/
def Refused (operation : Operation) (plan : Plan) (kind : String) (target : Json) : Prop :=
  ∃ failure, operation.perform plan = .error failure ∧ failure.kind = kind ∧
    failure.operation = some operation.kind.name ∧ failure.target = target

variable {operation : Operation} {plan : Plan} {id : Json}

/-! ## Each is refused as it says -/

/-- What is there already is refused as a duplicate. -/
theorem Duplicates.refused (h : operation.Duplicates plan id) :
    operation.Refused plan "DuplicateError" id := by
  cases h with
  | @task body task other valid named there same =>
      have read : Operation.taskBody (.raw body) = .ok task := mapError_eq_ok_iff.mpr valid
      have known : plan.hasTask (.str task.id) = true :=
        Plan.hasTask_iff.mpr ⟨other, there, congrArg Json.str same⟩
      refine ⟨taken .createTask .task task.id, ?_, rfl, rfl, rfl⟩
      show createTaskIn plan (.raw body) = _
      rw [createTaskIn, read, ok_bind, if_neg named, if_pos known]
  | @input body input other valid there same =>
      have read : Operation.variableBody (.raw body) = .ok input := mapError_eq_ok_iff.mpr valid
      have known : plan.hasVariable (.str input.variableId) = true :=
        Plan.hasVariable_iff.mpr ⟨other, there, congrArg Json.str same⟩
      refine ⟨taken .createVariable .var input.variableId, ?_, rfl, rfl, rfl⟩
      show createVariableIn plan (.raw body) = _
      rw [createVariableIn, read, ok_bind, if_pos known]

/-- What is not there is refused as such. -/
theorem Misses.refused (h : operation.Misses plan id) :
    operation.Refused plan "NotFoundError" id := by
  cases h with
  | @updateTask _ changes absent =>
      have unknown := Plan.hasTask_eq_false_iff.mpr absent
      refine ⟨Operation.absent .updateTask .task .update id, ?_, rfl, rfl, rfl⟩
      show updateTaskIn plan id changes = _
      simp [updateTaskIn, unknown]
  | deleteTask absent =>
      have unknown := Plan.hasTask_eq_false_iff.mpr absent
      refine ⟨Operation.absent .deleteTask .task .delete id, ?_, rfl, rfl, rfl⟩
      show deleteTaskIn plan id = _
      simp [deleteTaskIn, unknown]
  | @updateVariable _ changes absent =>
      have unknown := Plan.find?_hasId_eq_none_iff.mpr absent
      refine ⟨Operation.absent .updateVariable .var .update id, ?_, rfl, rfl, rfl⟩
      show updateVariableIn plan id changes = _
      rw [updateVariableIn, unknown]
  | deleteVariable absent =>
      have unknown := Plan.hasVariable_eq_false_iff.mpr absent
      refine ⟨Operation.absent .deleteVariable .var .delete id, ?_, rfl, rfl, rfl⟩
      show deleteVariableIn plan id = _
      simp [deleteVariableIn, unknown]

/-- What would not be valid is refused as such, provided that what is there is. -/
theorem Spoils.refused (h : operation.Spoils plan id) (sound : plan.Sound) :
    operation.Refused plan "PlanValidationError" id := by
  cases h with
  | @taskBody body failure invalid =>
      obtain ⟨issues, rfl⟩ := Checked.exists_issues_of_orFail invalid
      have read : Operation.taskBody (.raw body) = .error { Failure.invalid "Task" issues with
          operation := some OperationKind.createTask.name, target := rawTarget "id" body } :=
        mapError_eq_error_iff.mpr ⟨_, invalid, rfl⟩
      exact ⟨_, bind_eq_error_iff.mpr (.inl read), rfl, rfl, rfl⟩
  | @taskId body task valid nameless =>
      have read : Operation.taskBody (.raw body) = .ok task := mapError_eq_ok_iff.mpr valid
      refine ⟨⟨.invalid "Task" [⟨[.member "task", .member "id"], .emptyTaskId⟩],
        some OperationKind.createTask.name, .null, none⟩, ?_, rfl, rfl, rfl⟩
      show createTaskIn plan (.raw body) = _
      rw [createTaskIn, read, ok_bind, if_pos nameless]
  | @variableBody body failure invalid =>
      obtain ⟨issues, rfl⟩ := Checked.exists_issues_of_orFail invalid
      have read : Operation.variableBody (.raw body) =
          .error { Failure.invalid "Variable" issues with
            operation := some OperationKind.createVariable.name,
            target := rawTarget "variableId" body } :=
        mapError_eq_error_iff.mpr ⟨_, invalid, rfl⟩
      exact ⟨_, bind_eq_error_iff.mpr (.inl read), rfl, rfl, rfl⟩
  | @resourceTypes _ changes input types there named listed filled other =>
      obtain ⟨place, here⟩ := List.mem_iff_getElem?.mp there
      have stray : (changes.mergeVariable input).wellTyped = false :=
        Variable.wellTyped_eq_false_iff.mpr ⟨types, listed, filled, other⟩
      have given : changes.variableFields ≠ [] := by
        intro idle
        rw [Changes.mergeVariable_of_idle idle, sound.wellTyped input there] at stray
        cases stray
      rw [← named]
      exact ⟨_, updateVariableIn_of_stray sound.toDistinct here given stray, rfl, rfl, rfl⟩

/-! ## Nothing else stands in the way -/

/-- What is to be created comes as it was given. -/
def Unchecked : Operation → Prop
  | createTask (.checked _) => False
  | createVariable (.checked _) => False
  | _ => True

/-- An operation that was read brings what it creates as it was given. -/
theorem unchecked_of_ofJson {value : Json} (h : ofJson value = .ok operation) :
    operation.Unchecked := by
  obtain ⟨members, name, kind, rfl, -, -, read⟩ := ofJson_eq_ok_iff.mp h
  cases kind with
  | updateTitle =>
      cases read
      trivial
  | updateTask =>
      obtain ⟨id, -, rest⟩ := bind_eq_ok_iff.mp read
      obtain ⟨changes, -, made⟩ := bind_eq_ok_iff.mp rest
      cases made
      trivial
  | updateVariable =>
      obtain ⟨id, -, rest⟩ := bind_eq_ok_iff.mp read
      obtain ⟨changes, -, made⟩ := bind_eq_ok_iff.mp rest
      cases made
      trivial
  | _ =>
      obtain ⟨payload, -, made⟩ := bind_eq_ok_iff.mp read
      cases made
      trivial

/-- Where nothing stands in its way, an operation is carried out. -/
theorem exists_performs (unchecked : operation.Unchecked)
    (fresh : ∀ id, ¬ operation.Duplicates plan id) (present : ∀ id, ¬ operation.Misses plan id)
    (valid : ∀ id, ¬ operation.Spoils plan id) :
    ∃ next entry, operation.Performs plan next entry := by
  cases operation with
  | updateTitle title =>
      cases title with
      | none => exact ⟨_, _, .keepTitle⟩
      | some title => exact ⟨_, _, .setTitle⟩
  | createTask body =>
      rcases body with body | task
      · rcases read : Task.ofJson body with failure | task
        · exact absurd (.taskBody read) (valid _)
        · have named : task.id ≠ "" := fun nameless => valid _ (.taskId read nameless)
          have free : plan.hasTask (.str task.id) = false := by
            rw [Plan.hasTask_eq_false_iff]
            rintro ⟨other, there, same⟩
            exact fresh _ (.task read named there (Json.str.inj same))
          exact ⟨_, _, .addTask (mapError_eq_ok_iff.mpr read) named free⟩
      · exact unchecked.elim
  | updateTask id changes =>
      have known : plan.hasTask id = true :=
        Plan.hasTask_iff.mpr (by_contra fun absent => present id (.updateTask absent))
      by_cases idle : changes.taskFields = []
      · exact ⟨_, _, .keepTask known idle⟩
      · exact ⟨_, _, .changeTask known idle⟩
  | deleteTask id =>
      have known : plan.hasTask id = true :=
        Plan.hasTask_iff.mpr (by_contra fun absent => present id (.deleteTask absent))
      exact ⟨_, _, .removeTask known⟩
  | createVariable body =>
      rcases body with body | input
      · rcases read : Variable.ofJson body "Variable" with failure | input
        · exact absurd (.variableBody read) (valid _)
        · have free : plan.hasVariable (.str input.variableId) = false := by
            rw [Plan.hasVariable_eq_false_iff]
            rintro ⟨other, there, same⟩
            exact fresh _ (.input read there (Json.str.inj same))
          exact ⟨_, _, .addVariable (mapError_eq_ok_iff.mpr read) free⟩
      · exact unchecked.elim
  | updateVariable id changes =>
      rcases found : plan.inputs.find? (Variable.hasId id) with _ | input
      · exact absurd (.updateVariable (Plan.find?_hasId_eq_none_iff.mp found)) (present id)
      · by_cases idle : changes.variableFields = []
        · exact ⟨_, _, .keepVariable found idle⟩
        · have named : Json.str input.variableId = id := by
            simpa [Variable.hasId] using List.find?_some found
          have typed : (changes.mergeVariable input).wellTyped = true := by
            rw [← Bool.not_eq_false, Variable.wellTyped_eq_false_iff]
            rintro ⟨types, listed, filled, other⟩
            have there := List.mem_of_find?_eq_some found
            exact valid id (.resourceTypes there named listed filled other)
          exact ⟨_, _, .changeVariable found idle typed⟩
  | deleteVariable id =>
      have known : plan.hasVariable id = true :=
        Plan.hasVariable_iff.mpr (by_contra fun absent => present id (.deleteVariable absent))
      exact ⟨_, _, .removeVariable known⟩

/-- Something stands in the way of an operation, for which the failure has a kind. -/
def Hindered (operation : Operation) (plan : Plan) (kind : String) (id : Json) : Prop :=
  (kind = "DuplicateError" ∧ operation.Duplicates plan id) ∨
    (kind = "NotFoundError" ∧ operation.Misses plan id) ∨
    (kind = "PlanValidationError" ∧ operation.Spoils plan id)

theorem Duplicates.hindered (h : operation.Duplicates plan id) :
    operation.Hindered plan "DuplicateError" id :=
  .inl ⟨rfl, h⟩

theorem Misses.hindered (h : operation.Misses plan id) :
    operation.Hindered plan "NotFoundError" id :=
  .inr (.inl ⟨rfl, h⟩)

theorem Spoils.hindered (h : operation.Spoils plan id) :
    operation.Hindered plan "PlanValidationError" id :=
  .inr (.inr ⟨rfl, h⟩)

variable {kind : String}

/-- What stands in the way of an operation is what it is refused for. -/
theorem Hindered.refused (h : operation.Hindered plan kind id) (sound : plan.Sound) :
    operation.Refused plan kind id := by
  rcases h with ⟨rfl, duplicates⟩ | ⟨rfl, misses⟩ | ⟨rfl, spoils⟩
  · exact duplicates.refused
  · exact misses.refused
  · exact spoils.refused sound

/-- Something stands in the way of an operation, or it is carried out. -/
theorem hindered_or_performs (unchecked : operation.Unchecked) (plan : Plan) :
    (∃ kind id, operation.Hindered plan kind id) ∨
      ∃ next entry, operation.perform plan = .ok (next, entry) := by
  by_cases hindered : ∃ kind id, operation.Hindered plan kind id
  · exact .inl hindered
  · push Not at hindered
    simp only [perform_eq_ok_iff]
    refine .inr (exists_performs unchecked ?_ ?_ ?_)
    · exact fun id duplicates => hindered _ id duplicates.hindered
    · exact fun id misses => hindered _ id misses.hindered
    · exact fun id spoils => hindered _ id spoils.hindered

end Operation

/-! ## Patches -/

/-- The patch is refused with a failure of a kind. -/
def PatchResult.FailsWith (kind : String) (result : Except Fault PatchResult) : Prop :=
  ∃ error failure, result = .ok (.refused error failure) ∧ failure.kind = kind

section single

variable {input : PlanInput} {plan : Plan} {step : PatchStep} {operation : Operation}
  (loads : input.load = .ok plan) (read : step.operation = .ok operation)
include loads read

/-- A patch of one operation that is refused is refused for the same reason, at the first place. -/
theorem applyPatch_of_refusal {kind : String} {id : Json} (h : operation.Refused plan kind id) :
    ∃ error failure, applyPatch input [step] = .ok (.refused error failure) ∧
      failure.kind = kind ∧ failure.index = some 0 ∧
      failure.operation = some operation.kind.name ∧ failure.target = id := by
  obtain ⟨failure, performs, ofKind, named, about⟩ := h
  rw [applyPatch_single loads read, performs]
  exact ⟨_, _, rfl, ofKind, rfl, named, about⟩

/-- A patch of one operation fails with the kinds of what stands in its way, and is applied where
nothing does. -/
theorem applyPatch_hindered (sound : plan.Sound) (unchecked : operation.Unchecked) :
    let result := applyPatch input [step]
    (∀ kind, PatchResult.FailsWith kind result ↔ ∃ id, operation.Hindered plan kind id) ∧
      ((∃ final log, result = .ok (.applied final log)) ↔
        ∀ kind id, ¬ operation.Hindered plan kind id) ∧
      ((∃ final log, result = .ok (.applied final log)) ∨
        ∃ error failure, result = .ok (.refused error failure) ∧ failure.index = some 0 ∧
          failure.operation = some operation.kind.name ∧
          ∀ kind id, operation.Hindered plan kind id → failure.target = id) := by
  intro result
  have refusal {kind : String} {id : Json} (h : operation.Hindered plan kind id) :=
    applyPatch_of_refusal loads read (h.refused sound)
  rcases Operation.hindered_or_performs unchecked plan with
    ⟨kind, id, hindered⟩ | ⟨next, entry, performs⟩
  · obtain ⟨error, failure, refused, ofKind, place, named, about⟩ := refusal hindered
    change result = _ at refused
    -- whatever stands in the way is met by the one failure
    have single {kind' : String} {id' : Json} (h : operation.Hindered plan kind' id') :
        failure.kind = kind' ∧ failure.target = id' := by
      obtain ⟨error', failure', refused', ofKind', -, -, about'⟩ := refusal h
      change result = _ at refused'
      rw [refused] at refused'
      cases refused'
      exact ⟨ofKind', about'⟩
    refine ⟨fun kind' => ⟨?_, ?_⟩, ⟨?_, fun clear => absurd hindered (clear kind id)⟩, .inr ?_⟩
    · rintro ⟨error', failure', refused', rfl⟩
      rw [refused] at refused'
      cases refused'
      exact ⟨id, ofKind ▸ hindered⟩
    · rintro ⟨id', h⟩
      exact ⟨error, failure, refused, (single h).1⟩
    · rintro ⟨final, log, applied⟩
      rw [refused] at applied
      cases applied
    · exact ⟨error, failure, refused, place, named, fun kind' id' h => (single h).2⟩
  · have applied : result = .ok (.applied next entry.toList) := by
      show applyPatch input [step] = _
      rw [applyPatch_single loads read, performs]
    have clear (kind : String) (id : Json) : ¬ operation.Hindered plan kind id := by
      intro h
      obtain ⟨error, failure, refused, -⟩ := refusal h
      change result = _ at refused
      rw [applied] at refused
      cases refused
    refine ⟨fun kind => ⟨?_, ?_⟩, ⟨fun _ => clear, fun _ => ⟨_, _, applied⟩⟩, .inl ⟨_, _, applied⟩⟩
    · rintro ⟨error, failure, refused, -⟩
      rw [applied] at refused
      cases refused
    · rintro ⟨id, h⟩
      exact absurd h (clear kind id)

end single

/-- **Each failure has exactly its kind.** On a plan that patches lead to, an operation that was
read, given as it is or as the value that it was read from, fails as a duplicate, as missing or as
invalid just where something of that sort stands in its way, and is applied where nothing does.
Whatever fails names the place and the operation, and the id in question. A value that is refused
as an operation is invalid, and it is refused so on every plan that loads, with the place added. -/
theorem applyPatch_verdict {plan : Plan} (reachable : plan.Reachable) :
    (∀ value operation, Operation.ofJson value = .ok operation →
      ∀ step ∈ [PatchStep.raw value, .ready operation],
        let result := applyPatch (.parsed plan) [step]
        (PatchResult.FailsWith "DuplicateError" result ↔ ∃ id, operation.Duplicates plan id) ∧
        (PatchResult.FailsWith "NotFoundError" result ↔ ∃ id, operation.Misses plan id) ∧
        (PatchResult.FailsWith "PlanValidationError" result ↔ ∃ id, operation.Spoils plan id) ∧
        ((∃ final log, result = .ok (.applied final log)) ↔ ∀ id, ¬ operation.Duplicates plan id ∧
          ¬ operation.Misses plan id ∧ ¬ operation.Spoils plan id) ∧
        ((∃ final log, result = .ok (.applied final log)) ∨
          ∃ error failure, result = .ok (.refused error failure) ∧ failure.index = some 0 ∧
            failure.operation = some operation.kind.name ∧
            ∀ id, operation.Duplicates plan id ∨ operation.Misses plan id ∨
              operation.Spoils plan id → failure.target = id)) ∧
    ∀ value failure, Operation.ofJson value = .error (.failure failure) →
      failure.kind = "PlanValidationError" ∧
      ∀ input base, PlanInput.load input = .ok base →
        let placed : Failure := { failure with index := some 0 }
        applyPatch input [.raw value] = .ok (.refused (PatchResult.runError placed) placed) := by
  constructor
  · intro value operation read step listed result
    have sound := reachable.sound
    have loads := PlanInput.load_parsed sound.toDistinct
    have readStep : step.operation = .ok operation := by
      rcases List.mem_pair.mp listed with rfl | rfl
      · exact read
      · rfl
    obtain ⟨fails, applied, outcome⟩ :=
      applyPatch_hindered loads readStep sound (Operation.unchecked_of_ofJson read)
    refine ⟨?_, ?_, ?_, ?_, ?_⟩
    · rw [fails]
      simp [Operation.Hindered]
    · rw [fails]
      simp [Operation.Hindered]
    · rw [fails]
      simp [Operation.Hindered]
    · rw [applied]
      constructor
      · intro clear id
        exact ⟨fun duplicates => clear _ id duplicates.hindered,
          fun misses => clear _ id misses.hindered, fun spoils => clear _ id spoils.hindered⟩
      · rintro clear kind id (⟨-, duplicates⟩ | ⟨-, misses⟩ | ⟨-, spoils⟩)
        · exact (clear id).1 duplicates
        · exact (clear id).2.1 misses
        · exact (clear id).2.2 spoils
    · refine outcome.imp_right ?_
      rintro ⟨error, failure, refused, place, named, about⟩
      refine ⟨error, failure, refused, place, named, ?_⟩
      rintro id (duplicates | misses | spoils)
      · exact about _ id duplicates.hindered
      · exact about _ id misses.hindered
      · exact about _ id spoils.hindered
  · intro value failure read
    refine ⟨Operation.kind_of_ofJson read, ?_⟩
    intro input base loads
    have applied : applyPatch input (([] : List Json).map .raw) = .ok (.applied base []) :=
      applyPatch_eq_applied_iff.mpr ⟨base, loads, rfl⟩
    show applyPatch input (([] ++ value :: []).map .raw) = _
    exact applyPatch_of_unread applied read

/-- A task is created once more, and another one is changed that is not there. -/
theorem applyPatch_verdict_of_repeat :
    let create : Json := .obj [("op", .str "createTask"), ("task", .obj [("id", .str "a")])]
    let update : Json := .obj [("op", .str "updateTask"), ("taskId", .int 5)]
    let plan : Plan := ⟨.str "", [⟨"a", "", "", none, []⟩], []⟩
    plan.Reachable ∧
      PatchResult.FailsWith "DuplicateError" (applyPatch (.parsed plan) [.raw create]) ∧
      PatchResult.FailsWith "NotFoundError" (applyPatch (.parsed plan) [.raw update]) := by
  intro create update plan
  have accepted : Plan.ofJson (.obj []) = .ok ⟨.str "", [], []⟩ := rfl
  have applied : applyPatch (.parsed ⟨.str "", [], []⟩) [.raw create] =
      .ok (.applied plan ["TASK ADDED: [a] title=\"\""]) := rfl
  have reachable : plan.Reachable := .patched (.read accepted) applied
  obtain ⟨verdict, -⟩ := applyPatch_verdict reachable
  refine ⟨reachable, ?_, ?_⟩
  · obtain ⟨duplicate, -⟩ := verdict create (.createTask (.raw (.obj [("id", .str "a")]))) rfl
      (.raw create) List.mem_cons_self
    have valid : Task.ofJson (.obj [("id", .str "a")]) = .ok ⟨"a", "", "", none, []⟩ := rfl
    exact duplicate.mpr ⟨_, .task valid (by decide) List.mem_cons_self rfl⟩
  · obtain ⟨-, missing, -⟩ := verdict update (.updateTask (.int 5) .none) rfl (.raw update)
      List.mem_cons_self
    exact missing.mpr ⟨_, .updateTask (by decide)⟩

end PlanGraph
