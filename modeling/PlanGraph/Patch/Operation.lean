import PlanGraph.Patch.Changes

/-!
# Operations

An operation is one semantic change to a plan. On the wire it is a flat object told apart by the
name of its operation. Reading one checks that the payload it needs is there and that an update is
sound; the body of a task or a variable to be created is checked when the operation is carried out,
and ids are taken as they come.
-/

namespace PlanGraph

/-! ## Names -/

/-- The seven operations. -/
inductive OperationKind where
  /-- Set the title of the plan. -/
  | updateTitle
  /-- Add a task. -/
  | createTask
  /-- Change a task. -/
  | updateTask
  /-- Remove a task. -/
  | deleteTask
  /-- Add a variable. -/
  | createVariable
  /-- Change a variable. -/
  | updateVariable
  /-- Remove a variable. -/
  | deleteVariable
deriving DecidableEq

namespace OperationKind

/-- The name of an operation. -/
def name : OperationKind → String
  | updateTitle => "updateTitle"
  | createTask => "createTask"
  | updateTask => "updateTask"
  | deleteTask => "deleteTask"
  | createVariable => "createVariable"
  | updateVariable => "updateVariable"
  | deleteVariable => "deleteVariable"

/-- Every operation. -/
def all : List OperationKind :=
  [updateTitle, createTask, updateTask, deleteTask, createVariable, updateVariable,
    deleteVariable]

/-- The operation of a name. -/
def ofName? (name : String) : Option OperationKind :=
  all.find? fun kind => kind.name == name

/-- The key of the payload that an operation cannot do without. -/
def payloadKey? : OperationKind → Option Key
  | updateTitle => none
  | createTask => some (.word "task")
  | updateTask => some ⟨"taskId", "task_id"⟩
  | deleteTask => some ⟨"taskId", "task_id"⟩
  | createVariable => some (.word "variable")
  | updateVariable => some .variableId
  | deleteVariable => some .variableId

end OperationKind

/-! ## Operations -/

/-- A thing to be created: as it was given, or checked before. -/
inductive Draft (α : Type) where
  /-- As it was given. -/
  | raw (value : Json)
  /-- Checked before. -/
  | checked (value : α)
deriving DecidableEq

/-- One change to a plan. -/
inductive Operation where
  /-- Sets the title; without one it does nothing. -/
  | updateTitle (title : Option Json)
  /-- Adds a task. -/
  | createTask (body : Draft Task)
  /-- Changes the task with an id. -/
  | updateTask (id : Json) (changes : Changes)
  /-- Removes the task with an id and every dependency on it. -/
  | deleteTask (id : Json)
  /-- Adds a variable. -/
  | createVariable (body : Draft Variable)
  /-- Changes the variable with an id. -/
  | updateVariable (id : Json) (changes : Changes)
  /-- Removes the variable with an id. -/
  | deleteVariable (id : Json)
deriving DecidableEq

namespace Operation

/-- Which of the seven operations it is. -/
def kind : Operation → OperationKind
  | updateTitle _ => .updateTitle
  | createTask _ => .createTask
  | updateTask _ _ => .updateTask
  | deleteTask _ => .deleteTask
  | createVariable _ => .createVariable
  | updateVariable _ _ => .updateVariable
  | deleteVariable _ => .deleteVariable

/-! ## Reading -/

/-- The label of an operation in failures. -/
def label : String := "Patch operation"

/-- A failure to read an operation, at one of its members. -/
def malformed (operation : Option String) (path : List Segment) (cause : Cause) : Failure :=
  ⟨.invalid label [⟨path, cause⟩], operation, .null, none⟩

/-- The names of all operations. -/
def knownNames : List String :=
  OperationKind.all.map OperationKind.name

/-- The issue of a name that no operation has. -/
def unknownName (name : Json) : Issue :=
  ⟨[.member "op"], .unknownOperation name knownNames⟩

/-- The issue of a payload that is missing. -/
def missingPayload (key : Key) (kind : OperationKind) : Issue :=
  ⟨[.member key.wire], .missingPayload key.wire kind.name⟩

/-- The payload that an operation needs: neither missing nor null nor the empty text. -/
def payload? (key : Key) (members : List (String × Json)) : Option Json :=
  match key.find? members with
  | some (_, .null) => none
  | some (_, .str "") => none
  | some (_, value) => some value
  | none => none

/-- The payload of an operation that needs one. -/
def payload (key : Key) (kind : OperationKind) (members : List (String × Json)) :
    Except Failure Json :=
  match payload? key members with
  | some value => .ok value
  | none => .error ⟨.invalid label [missingPayload key kind], some kind.name, .null, none⟩

/-- The changes of an update; missing or null changes change nothing. -/
def changesOf (kind : OperationKind) (target : Json) (members : List (String × Json)) :
    Except Failure Changes :=
  match (Json.member? "data" members).getD .null with
  | .null => .ok .none
  | value =>
    match (Changes.check value).under (.member "data") with
    | .passed changes => .ok changes
    | .failed first more =>
      .error ⟨.invalid "Patch data" (first :: more), some kind.name, target, none⟩

/-- The id of a task as a failure names it: an empty one is passed over. -/
def taskTarget (id : Json) : Json :=
  if id.truthy then id else .null

/-- Reads the members of an operation of a known kind. -/
def ofMembers (kind : OperationKind) (members : List (String × Json)) :
    Except Failure Operation :=
  match kind with
  | .updateTitle =>
    .ok (.updateTitle (match (Json.member? "title" members).getD .null with
      | .null => none
      | title => some title))
  | .createTask => do
    pure (.createTask (.raw (← payload (.word "task") kind members)))
  | .updateTask => do
    let id ← payload ⟨"taskId", "task_id"⟩ kind members
    pure (.updateTask id (← changesOf kind (taskTarget id) members))
  | .deleteTask => do
    pure (.deleteTask (← payload ⟨"taskId", "task_id"⟩ kind members))
  | .createVariable => do
    pure (.createVariable (.raw (← payload (.word "variable") kind members)))
  | .updateVariable => do
    let id ← payload .variableId kind members
    pure (.updateVariable id (← changesOf kind id members))
  | .deleteVariable => do
    pure (.deleteVariable (← payload .variableId kind members))

/-- Reads an operation. A name that is an array or an object cannot be looked up at all. -/
def ofJson : Json → Except Halt Operation
  | .obj members =>
    match (Json.member? "op" members).getD .null with
    | .arr _ => .error (.fault .unkeyable)
    | .obj _ => .error (.fault .unkeyable)
    | name =>
      match name.text? >>= OperationKind.ofName? with
      | some kind => (ofMembers kind members).mapError .failure
      | none =>
        .error (.failure
          ⟨.invalid label [unknownName name], name.text?, .null, none⟩)
  | value => .error (.failure (malformed none [] (.notOperation value.kindName)))

/-! ## Writing -/

/-- The body of something to be created, as a value. -/
def Draft.toJson {α : Type} (dump : α → Json) : Draft α → Json
  | .raw value => value
  | .checked value => dump value

/-- An operation as a value, its name first. -/
def toJson (operation : Operation) : Json :=
  .obj (("op", .str operation.kind.name) ::
    match operation with
    | updateTitle title => Json.memberIf "title" title
    | createTask body => [("task", Draft.toJson Task.dump body)]
    | updateTask id changes => [("taskId", id), ("data", changes.dump)]
    | deleteTask id => [("taskId", id)]
    | createVariable body => [("variable", Draft.toJson Variable.dump body)]
    | updateVariable id changes => [("variableId", id), ("data", changes.dump)]
    | deleteVariable id => [("variableId", id)])

end Operation

end PlanGraph
