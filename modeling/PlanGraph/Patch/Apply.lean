import PlanGraph.Patch.Operation

/-!
# Applying patches

Operations are applied to a plan one after another. The first one that is refused ends the run, and
nothing of the run is kept; otherwise the result is the changed plan and a log with one entry for
each operation that changed something.

The limits of an interpreter are no part of this. A value that is taken over or copied may be nested
to any depth, and an integer that is shown in a log entry or in a message may have any number of
digits.
-/

namespace PlanGraph

/-! ## One operation -/

/-- The task goes by this id. -/
def Task.hasId (id : Json) (task : Task) : Bool :=
  .str task.id == id

/-- The variable goes by this id. -/
def Variable.hasId (id : Json) (input : Variable) : Bool :=
  .str input.variableId == id

namespace Plan

/-- The plan has a task with this id. -/
def hasTask (plan : Plan) (id : Json) : Bool :=
  plan.tasks.any (Task.hasId id)

/-- The plan has a variable with this id. -/
def hasVariable (plan : Plan) (id : Json) : Bool :=
  plan.inputs.any (Variable.hasId id)

/-- Changes the first item that is meant. -/
def updateFirst {α : Type} (meant : α → Bool) (f : α → α) : List α → List α
  | [] => []
  | item :: rest => if meant item then f item :: rest else item :: updateFirst meant f rest

/-- A task without a dependency on a task id. -/
def withoutDependency (id : Json) (task : Task) : Task :=
  { task with dependentTasks := task.dependentTasks.map (·.filter fun d => .str d ≠ id) }

/-- The task depends on a task id. -/
def dependsOn (id : Json) (task : Task) : Bool :=
  task.dependencies.any fun d => .str d == id

end Plan

/-! ## Log entries -/

namespace LogEntry

/-- The title of the plan was set. -/
def titleUpdated (title : Json) : String :=
  "TITLE UPDATED: \"" ++ title.display ++ "\""

/-- A task was added. -/
def taskAdded (task : Task) : String :=
  "TASK ADDED: [" ++ task.id ++ "] title=\"" ++ task.title ++ "\""

/-- Members of a task were changed. -/
def taskModified (id : Json) (fields : List String) : String :=
  "TASK MODIFIED: [" ++ id.display ++ "] fields=" ++ String.intercalate "," fields

/-- A task was removed, and a number of tasks that depended on it were changed. -/
def taskRemoved (id : Json) (dependents : Nat) : String :=
  "TASK REMOVED: [" ++ id.display ++ "] dependents_updated=" ++ toString dependents

/-- A variable was added. -/
def variableAdded (input : Variable) : String :=
  "VARIABLE ADDED: [" ++ input.variableId ++ "] name=\"" ++ input.name ++ "\""

/-- Members of a variable were changed. -/
def variableModified (id : Json) (fields : List String) : String :=
  "VARIABLE MODIFIED: [" ++ id.display ++ "] fields=" ++ String.intercalate "," fields

/-- A variable was removed. -/
def variableRemoved (id : Json) : String :=
  "VARIABLE REMOVED: [" ++ id.display ++ "]"

end LogEntry

/-! ## Effects -/

namespace Operation

/-- The plan after an operation, and the log entry if something was changed. -/
abbrev Effect := Except Failure (Plan × Option String)

/-- The id that the body of a created task or variable names, if it is a text. -/
def rawTarget (name : String) (body : Json) : Json :=
  match body.getD name with
  | .str id => .str id
  | _ => .null

/-- Reads the body of a created task. -/
def taskBody : Draft Task → Except Failure Task
  | .checked task => .ok task
  | .raw value => (Task.ofJson value).mapError fun failure =>
    { failure with
      operation := some OperationKind.createTask.name, target := rawTarget "id" value }

/-- Reads the body of a created variable. -/
def variableBody : Draft Variable → Except Failure Variable
  | .checked input => (input.recheck "Variable").mapError fun failure =>
    { failure with
      operation := some OperationKind.createVariable.name, target := .str input.variableId }
  | .raw value => (Variable.ofJson value "Variable").mapError fun failure =>
    { failure with
      operation := some OperationKind.createVariable.name,
      target := rawTarget "variableId" value }

/-- The failure that the target of an operation is not there. -/
def absent (kind : OperationKind) (entity : Entity) (use : Use) (id : Json) : Failure :=
  ⟨.absent entity use id, some kind.name, id, none⟩

/-- The failure that the target of an operation is there already. -/
def taken (kind : OperationKind) (entity : Entity) (id : String) : Failure :=
  ⟨.taken entity id, some kind.name, .str id, none⟩

/-- Adds a task at the end. -/
def createTaskIn (plan : Plan) (body : Draft Task) : Effect := do
  let task ← taskBody body
  if task.id = "" then
    .error ⟨.invalid "Task" [⟨[.member "task", .member "id"], .emptyTaskId⟩],
      some OperationKind.createTask.name, .null, none⟩
  else if plan.hasTask (.str task.id) then .error (taken .createTask .task task.id)
  else pure ({ plan with tasks := plan.tasks ++ [task] }, some (LogEntry.taskAdded task))

/-- Merges changes into a task. -/
def updateTaskIn (plan : Plan) (id : Json) (changes : Changes) : Effect :=
  if !plan.hasTask id then .error (absent .updateTask .task .update id)
  else if changes.taskFields.isEmpty then .ok (plan, none)
  else
    .ok ({ plan with tasks := Plan.updateFirst (Task.hasId id) changes.mergeTask plan.tasks },
      some (LogEntry.taskModified id changes.taskFields))

/-- Removes a task and every dependency on it. -/
def deleteTaskIn (plan : Plan) (id : Json) : Effect :=
  if !plan.hasTask id then .error (absent .deleteTask .task .delete id)
  else
    let kept := plan.tasks.filter fun task => !task.hasId id
    .ok ({ plan with tasks := kept.map (Plan.withoutDependency id) },
      some (LogEntry.taskRemoved id (kept.countP (Plan.dependsOn id))))

/-- Adds a variable at the end. -/
def createVariableIn (plan : Plan) (body : Draft Variable) : Effect := do
  let input ← variableBody body
  if plan.hasVariable (.str input.variableId) then
    .error (taken .createVariable .var input.variableId)
  else
    pure ({ plan with inputs := plan.inputs ++ [input] }, some (LogEntry.variableAdded input))

/-- Merges changes into a variable, which is then checked as a whole. -/
def updateVariableIn (plan : Plan) (id : Json) (changes : Changes) : Effect :=
  match plan.inputs.find? (Variable.hasId id) with
  | none => .error (absent .updateVariable .var .update id)
  | some input =>
    if changes.variableFields.isEmpty then .ok (plan, none)
    else
      match (changes.mergeVariable input).recheck "Variable update" with
      | .error failure =>
        .error { failure with
          operation := some OperationKind.updateVariable.name, target := id }
      | .ok merged =>
        .ok ({ plan with
            inputs := Plan.updateFirst (Variable.hasId id) (fun _ => merged) plan.inputs },
          some (LogEntry.variableModified id changes.variableFields))

/-- Removes a variable. -/
def deleteVariableIn (plan : Plan) (id : Json) : Effect :=
  if !plan.hasVariable id then .error (absent .deleteVariable .var .delete id)
  else
    .ok ({ plan with inputs := plan.inputs.filter fun input => !input.hasId id },
      some (LogEntry.variableRemoved id))

/-- Carries out an operation. -/
def perform (operation : Operation) (plan : Plan) : Effect :=
  match operation with
  | updateTitle none => .ok (plan, none)
  | updateTitle (some title) => .ok ({ plan with title }, some (LogEntry.titleUpdated title))
  | createTask body => createTaskIn plan body
  | updateTask id changes => updateTaskIn plan id changes
  | deleteTask id => deleteTaskIn plan id
  | createVariable body => createVariableIn plan body
  | updateVariable id changes => updateVariableIn plan id changes
  | deleteVariable id => deleteVariableIn plan id

end Operation

/-! ## Lists of operations -/

/-- An operation as a caller gives it. -/
inductive PatchStep where
  /-- An operation that was read before. -/
  | ready (operation : Operation)
  /-- A value that has yet to be read. -/
  | raw (value : Json)

namespace PatchStep

/-- The operation of a step. -/
def operation : PatchStep → Except Halt Operation
  | ready operation => .ok operation
  | raw value => Operation.ofJson value

/-- Stamps a failure with the place of its operation. -/
def stamp (index : Nat) : Halt → Halt
  | .failure failure => .failure { failure with index := some index }
  | .fault fault => .fault fault

/-- The plan after the step at a place, and the log entry if something was changed. -/
def perform (index : Nat) (plan : Plan) (step : PatchStep) :
    Except Halt (Plan × Option String) :=
  (do
    let operation ← step.operation
    (operation.perform plan).mapError Halt.failure).mapError (stamp index)

end PatchStep

namespace Plan

/-- Carries out steps from the given place on, adding to the log. -/
def runSteps (index : Nat) (plan : Plan) (log : List String) :
    List PatchStep → Except Halt (Plan × List String)
  | [] => .ok (plan, log)
  | step :: rest => do
    let (next, entry) ← step.perform index plan
    runSteps (index + 1) next (log ++ entry.toList) rest

end Plan

/-! ## Patches -/

/-- What became of a patch. -/
inductive PatchResult where
  /-- Every operation was carried out. -/
  | applied (plan : Plan) (log : List String)
  /-- The patch was refused, and the plan is as it was. -/
  | refused (error : String) (failure : Failure)

namespace PatchResult

/-- The log of a patch as one text. -/
def diff : PatchResult → String
  | applied _ (entry :: rest) => String.intercalate "\n" (entry :: rest)
  | _ => "(no changes)"

/-- The plan after the patch, if it was carried out. -/
def plan? : PatchResult → Option Plan
  | applied plan _ => some plan
  | refused _ _ => none

/-- The error of a patch that was refused. -/
def error? : PatchResult → Option String
  | applied _ _ => none
  | refused error _ => some error

/-- The failure of a patch that was refused. -/
def failure? : PatchResult → Option Failure
  | applied _ _ => none
  | refused _ failure => some failure

/-- The name of an operation in the heading of an error; an empty name is no name. -/
def operationTitle (failure : Failure) : String :=
  match failure.operation with
  | some "" => "unknown"
  | some name => name
  | none => "unknown"

/-- The error of a run that ended at an operation. -/
def runError (failure : Failure) : String :=
  "Operation " ++ toString (failure.index.getD 0) ++ " (" ++ operationTitle failure ++ "): " ++
    failure.message

/-- The result of a run. -/
def ofRun : Except Halt (Plan × List String) → Except Fault PatchResult
  | .ok (plan, log) => .ok (applied plan log)
  | .error (.failure failure) => .ok (refused (runError failure) failure)
  | .error (.fault fault) => .error fault

end PatchResult

/-- Applies a patch to a plan: all of it or nothing. -/
def applyPatch (input : PlanInput) (steps : List PatchStep) : Except Fault PatchResult :=
  match input.load with
  | .error failure => .ok (.refused failure.message failure)
  | .ok plan => PatchResult.ofRun (plan.runSteps 0 [] steps)

/-- Applies the operations that a value offers one after another. A plan that does not load is
reported before a value that offers nothing to go through. -/
def applyPatchValue (input : PlanInput) (operations : Json) : Except Fault PatchResult :=
  match input.load, operations.elements? with
  | .ok _, none => .error .notSequence
  | _, steps => applyPatch input ((steps.getD []).map .raw)

end PlanGraph
