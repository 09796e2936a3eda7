import PlanGraph.Patch.Operation

/-!
# Patch envelopes

A patch comes in an envelope: a list of operations and, if known, the id of the plan they are for.
The structure of the whole envelope is checked first, with the bodies of tasks, variables and
changes; then every operation is checked for its name and the payload it needs. An operation read
in this way holds checked bodies.
-/

namespace PlanGraph

/-! ## Forms -/

/-- The flat form of an operation, with every member that some operation uses. -/
structure OperationForm where
  /-- The name of the operation. -/
  op : String
  /-- A title. -/
  title : Option String
  /-- The id of a task. -/
  taskId : Option String
  /-- A task. -/
  task : Option Task
  /-- The id of a variable. -/
  variableId : Option String
  /-- A variable. -/
  input : Option Variable
  /-- Changes. -/
  changes : Option Changes

/-- A whole envelope. -/
structure EnvelopeForm where
  /-- The id of the plan. -/
  planId : Option String
  /-- The operations. -/
  operations : List OperationForm

/-- A patch whose operations are known to be complete. -/
structure Envelope where
  /-- The id of the plan. -/
  planId : Option String
  /-- The operations. -/
  operations : List Operation

namespace OperationForm

/-- Checks the members of a form. -/
def checkMembers (members : List (String × Json)) : Checked OperationForm :=
  OperationForm.mk
    <$> Key.required (.word "op") Json.checkText members
    <*> Changes.checkMember (.word "title") Json.checkText members
    <*> Changes.checkMember ⟨"taskId", "task_id"⟩ Json.checkText members
    <*> Changes.checkMember (.word "task") Task.check members
    <*> Changes.checkMember .variableId Json.checkText members
    <*> Changes.checkMember (.word "variable") Variable.check members
    <*> Changes.checkMember (.word "data") Changes.check members

/-- Checks a form. -/
def check : Json → Checked OperationForm :=
  Json.checkRecord "PatchOperationModel" checkMembers

/-- A payload that is there, or the issue that it is not. -/
def needed {α : Type} (key : String) (kind : OperationKind) : Option α → Except Issue α
  | some value => .ok value
  | none => .error (Operation.missingPayload (.word key) kind)

/-- An id that is there and not empty, or the issue that it is not. -/
def neededId (key : String) (kind : OperationKind) (id : Option String) : Except Issue Json :=
  Json.str <$> needed key kind (id.filter (· ≠ ""))

/-- The operation of a known kind that a form stands for, or the issue of what it lacks. -/
def complete (form : OperationForm) (kind : OperationKind) : Except Issue Operation :=
  match kind with
  | .updateTitle => .ok (.updateTitle (form.title.map Json.str))
  | .createTask => (.createTask ∘ .checked) <$> needed "task" kind form.task
  | .updateTask =>
    (.updateTask · (form.changes.getD .none)) <$> neededId "taskId" kind form.taskId
  | .deleteTask => .deleteTask <$> neededId "taskId" kind form.taskId
  | .createVariable => (.createVariable ∘ .checked) <$> needed "variable" kind form.input
  | .updateVariable =>
    (.updateVariable · (form.changes.getD .none)) <$> neededId "variableId" kind form.variableId
  | .deleteVariable => .deleteVariable <$> neededId "variableId" kind form.variableId

/-- The operation that a form stands for, or the issue of what it lacks. -/
def toOperation (form : OperationForm) : Except Issue Operation :=
  match OperationKind.ofName? form.op with
  | some kind => form.complete kind
  | none => .error (Operation.unknownName (.str form.op))

/-- The operation of a form as a check of its own. -/
def checkComplete (form : OperationForm) : Checked Operation :=
  match form.toOperation with
  | .ok operation => pure operation
  | .error issue => .failed issue []

end OperationForm

/-! ## Envelopes -/

namespace EnvelopeForm

/-- The key of the operations. -/
def operationsKey : Key := .word "operations"

/-- Checks the members of an envelope. -/
def checkMembers (members : List (String × Json)) : Checked EnvelopeForm :=
  EnvelopeForm.mk
    <$> Changes.checkMember ⟨"planId", "plan_id"⟩ Json.checkText members
    <*> Key.required operationsKey (Json.checkItems OperationForm.check) members

/-- Checks the structure of an envelope. -/
def check : Json → Checked EnvelopeForm :=
  Json.checkRecord "WorkflowPlanPatch" checkMembers

end EnvelopeForm

namespace Envelope

/-- The label of an envelope in failures. -/
def label : String := "Workflow plan patch"

/-- Checks that every operation is complete. -/
def checkComplete (forms : List OperationForm) : Checked (List Operation) :=
  (Checked.itemsFrom OperationForm.checkComplete 0 forms).under (.member "operations")

/-- Reads an envelope. -/
def ofJson (value : Json) : Except Failure Envelope :=
  match (EnvelopeForm.check value).orFail label with
  | .error failure => .error failure
  | .ok form => Envelope.mk form.planId <$> (checkComplete form.operations).orFail label

end Envelope

end PlanGraph
