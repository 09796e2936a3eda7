import PlanGraph.Plan.Basic

/-!
# Changes

The payload of an update: new values for members of a task or of a variable. What is absent or null
stays as it is. One payload may carry members of both; an update reads those of its own kind.
-/

namespace PlanGraph

/-- New values for the members of a task or a variable. -/
structure Changes where
  /-- The title of a task. -/
  title : Option String
  /-- The prompt of a task. -/
  prompt : Option String
  /-- The dependencies of a task. -/
  dependentTasks : Option (List String)
  /-- The toolsets of a task. -/
  toolsets : Option (List String)
  /-- The type of a variable. -/
  variableType : Option VariableType
  /-- The name of a variable. -/
  name : Option String
  /-- The description of a variable. -/
  description : Option String
  /-- Whether a variable must be given. -/
  required : Option Bool
  /-- The resource types of a variable. -/
  resourceTypes : Option (List ResourceType)
  /-- The values of a variable. -/
  value : Option (List VariableValue)
deriving DecidableEq

namespace Changes

/-- No change. -/
def none : Changes :=
  ⟨.none, .none, .none, .none, .none, .none, .none, .none, .none, .none⟩

/-! ## Reading and writing -/

/-- Checks a member that may be missing or null. -/
def checkMember {α : Type} (key : Key) (check : Json → Checked α)
    (members : List (String × Json)) : Checked (Option α) :=
  Key.optional key .none (Json.checkNullable check) members

/-- Checks the members of a payload. -/
def checkMembers (members : List (String × Json)) : Checked Changes :=
  Changes.mk
    <$> checkMember (.word "title") Json.checkText members
    <*> checkMember (.word "prompt") Json.checkText members
    <*> checkMember .dependentTasks Task.checkTexts members
    <*> checkMember (.word "toolsets") Task.checkTexts members
    <*> checkMember .variableType VariableType.check members
    <*> checkMember (.word "name") Json.checkText members
    <*> checkMember (.word "description") Json.checkText members
    <*> checkMember (.word "required") Json.checkFlag members
    <*> checkMember .resourceTypes (Json.checkItems ResourceType.check) members
    <*> checkMember (.word "value") (Json.checkItems VariableValue.check) members

/-- Checks a payload. -/
def check : Json → Checked Changes :=
  Json.checkRecord "PatchData" checkMembers

/-- A payload as a value; what is absent is left out. -/
def dump (changes : Changes) : Json :=
  .obj (Json.memberIf "title" (changes.title.map Json.str) ++
    Json.memberIf "prompt" (changes.prompt.map Json.str) ++
    Json.memberIf "dependentTasks" (changes.dependentTasks.map Json.ofStrings) ++
    Json.memberIf "toolsets" (changes.toolsets.map Json.ofStrings) ++
    Json.memberIf "variableType" (changes.variableType.map fun type => .str type.name) ++
    Json.memberIf "name" (changes.name.map Json.str) ++
    Json.memberIf "description" (changes.description.map Json.str) ++
    Json.memberIf "required" (changes.required.map Json.bool) ++
    Json.memberIf "resourceTypes"
      (changes.resourceTypes.map fun types => Json.ofStrings (types.map ResourceType.name)) ++
    Json.memberIf "value"
      (changes.value.map fun values => .arr (values.map VariableValue.dump)))

/-! ## What is changed -/

/-- The names of the task members that change, in alphabetical order. -/
def taskFields (changes : Changes) : List String :=
  (if changes.dependentTasks.isSome then ["dependent_tasks"] else []) ++
    (if changes.prompt.isSome then ["prompt"] else []) ++
    (if changes.title.isSome then ["title"] else []) ++
    (if changes.toolsets.isSome then ["toolsets"] else [])

/-- The names of the variable members that change, in alphabetical order. -/
def variableFields (changes : Changes) : List String :=
  (if changes.description.isSome then ["description"] else []) ++
    (if changes.name.isSome then ["name"] else []) ++
    (if changes.required.isSome then ["required"] else []) ++
    (if changes.resourceTypes.isSome then ["resource_types"] else []) ++
    (if changes.value.isSome then ["value"] else []) ++
    (if changes.variableType.isSome then ["variable_type"] else [])

/-- A task with the changes made to it. -/
def mergeTask (changes : Changes) (task : Task) : Task where
  id := task.id
  title := changes.title.getD task.title
  prompt := changes.prompt.getD task.prompt
  dependentTasks := changes.dependentTasks <|> task.dependentTasks
  toolsets := changes.toolsets.getD task.toolsets

/-- A variable with the changes made to it. -/
def mergeVariable (changes : Changes) (input : Variable) : Variable where
  variableId := input.variableId
  variableType := changes.variableType.getD input.variableType
  name := changes.name.getD input.name
  description := changes.description.getD input.description
  required := changes.required.getD input.required
  resourceTypes := changes.resourceTypes <|> input.resourceTypes
  value := changes.value.getD input.value

end Changes

end PlanGraph
