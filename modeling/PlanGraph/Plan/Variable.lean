import PlanGraph.Plan.Task

/-!
# Variables

A variable is an input that the user of a workflow gives when it runs. Variables are checked more
strictly than tasks, since a bad one breaks the form they are entered in. Resource types belong to
resource variables only; this rule is applied once every member has passed.
-/

namespace PlanGraph

/-! ## Kinds -/

/-- The kinds of resources. -/
inductive ResourceType where
  /-- A document. -/
  | document
  /-- An image. -/
  | image
  /-- A sound. -/
  | audio
  /-- A film. -/
  | video
deriving DecidableEq

namespace ResourceType

/-- The name of a kind. -/
def name : ResourceType → String
  | document => "document"
  | image => "image"
  | audio => "audio"
  | video => "video"

/-- Every kind by its name. -/
def choices : List (String × ResourceType) :=
  [document, image, audio, video].map fun kind => (kind.name, kind)

/-- Checks a kind. -/
def check : Json → Checked ResourceType :=
  Json.checkName choices

end ResourceType

/-- The types of variables. -/
inductive VariableType where
  /-- A text. -/
  | string
  /-- A resource. -/
  | resource
deriving DecidableEq

namespace VariableType

/-- The name of a type. -/
def name : VariableType → String
  | string => "string"
  | resource => "resource"

/-- Every type by its name. -/
def choices : List (String × VariableType) :=
  [string, resource].map fun type => (type.name, type)

/-- Checks a type. -/
def check : Json → Checked VariableType :=
  Json.checkName choices

end VariableType

/-- The types of values. -/
inductive ValueType where
  /-- A text. -/
  | text
  /-- A resource. -/
  | resource
deriving DecidableEq

namespace ValueType

/-- The name of a type. -/
def name : ValueType → String
  | text => "text"
  | resource => "resource"

/-- Every type by its name. -/
def choices : List (String × ValueType) :=
  [text, resource].map fun type => (type.name, type)

/-- Checks a type. -/
def check : Json → Checked ValueType :=
  Json.checkName choices

end ValueType

/-! ## Values -/

/-- The key of the kind of a resource. -/
def Key.fileType : Key := ⟨"fileType", "file_type"⟩

/-- A resource. -/
structure Resource where
  /-- The name of the resource. -/
  name : String
  /-- Its kind. -/
  fileType : ResourceType
deriving DecidableEq

namespace Resource

/-- Checks the members of a resource. -/
def checkMembers (members : List (String × Json)) : Checked Resource :=
  Resource.mk
    <$> Key.required (.word "name") Json.checkText members
    <*> Key.required .fileType ResourceType.check members

/-- Checks a resource. -/
def check : Json → Checked Resource :=
  Json.checkRecord "VariableResource" checkMembers

/-- A resource as a value. -/
def dump (resource : Resource) : Json :=
  .obj [("name", .str resource.name), ("fileType", .str resource.fileType.name)]

end Resource

/-- One value of a variable. -/
structure VariableValue where
  /-- The type of the value. -/
  type : ValueType
  /-- Its text. -/
  text : Option String
  /-- Its resource. -/
  resource : Option Resource
deriving DecidableEq

namespace VariableValue

/-- Checks the members of a value. -/
def checkMembers (members : List (String × Json)) : Checked VariableValue :=
  VariableValue.mk
    <$> Key.optional (.word "type") .text ValueType.check members
    <*> Key.optional (.word "text") none (Json.checkNullable Json.checkText) members
    <*> Key.optional (.word "resource") none (Json.checkNullable Resource.check) members

/-- Checks a value. -/
def check : Json → Checked VariableValue :=
  Json.checkRecord "WorkflowVariableValue" checkMembers

/-- The value as a value of the wire form; what is absent is left out. -/
def dump (value : VariableValue) : Json :=
  .obj ([("type", .str value.type.name)] ++
    Json.memberIf "text" (value.text.map Json.str) ++
    Json.memberIf "resource" (value.resource.map Resource.dump))

/-- The same with null for what is absent. -/
def dumpFull (value : VariableValue) : Json :=
  .obj [("type", .str value.type.name), ("text", .ofString? value.text),
    ("resource", (value.resource.map Resource.dump).getD .null)]

end VariableValue

/-! ## Variables -/

/-- The key of the id of a variable. -/
def Key.variableId : Key := ⟨"variableId", "variable_id"⟩

/-- The key of the type of a variable. -/
def Key.variableType : Key := ⟨"variableType", "variable_type"⟩

/-- The key of the resource types of a variable. -/
def Key.resourceTypes : Key := ⟨"resourceTypes", "resource_types"⟩

/-- An input of a workflow. -/
structure Variable where
  /-- The id, which never changes once the variable exists. -/
  variableId : String
  /-- The type. -/
  variableType : VariableType
  /-- The name that is displayed. -/
  name : String
  /-- The description that is displayed. -/
  description : String
  /-- Whether a value must be given. -/
  required : Bool
  /-- The kinds of resources that are accepted. -/
  resourceTypes : Option (List ResourceType)
  /-- The values. -/
  value : List VariableValue
deriving DecidableEq

namespace Variable

/-- Resource types are listed on a resource variable only. -/
def wellTyped (input : Variable) : Bool :=
  (input.resourceTypes.getD []).isEmpty || input.variableType == .resource

/-- Checks the members of a variable, one by one. -/
def checkMembers (members : List (String × Json)) : Checked Variable :=
  Variable.mk
    <$> Key.required .variableId Json.checkText members
    <*> Key.optional .variableType .string VariableType.check members
    <*> Key.required (.word "name") Json.checkText members
    <*> Key.required (.word "description") Json.checkText members
    <*> Key.optional (.word "required") false Json.checkFlag members
    <*> Key.optional .resourceTypes none
      (Json.checkNullable (Json.checkItems ResourceType.check)) members
    <*> Key.required (.word "value") (Json.checkItems VariableValue.check) members

/-- Checks a variable as a whole. -/
def check : Json → Checked Variable :=
  Json.checkRecord "WorkflowVariable" fun members =>
    (checkMembers members).guard wellTyped .strayResourceTypes

/-- Reads a variable on its own; the label names it in a failure. -/
def ofJson (value : Json) (label : String) : Except Failure Variable :=
  (check value).orFail label

/-- A variable whose members are valid, checked as a whole. -/
def recheck (input : Variable) (label : String) : Except Failure Variable :=
  ((Checked.passed input).guard wellTyped .strayResourceTypes).orFail label

/-- The resource types as a value. -/
def resourceTypesJson? (input : Variable) : Option Json :=
  input.resourceTypes.map fun types => Json.ofStrings (types.map ResourceType.name)

/-- A variable as a value; absent resource types are left out. -/
def dump (input : Variable) : Json :=
  .obj ([("variableId", .str input.variableId),
      ("variableType", .str input.variableType.name), ("name", .str input.name),
      ("description", .str input.description), ("required", .bool input.required)] ++
    Json.memberIf "resourceTypes" input.resourceTypesJson? ++
    [("value", .arr (input.value.map VariableValue.dump))])

/-- The same with null for what is absent. -/
def dumpFull (input : Variable) : Json :=
  .obj [("variableId", .str input.variableId),
    ("variableType", .str input.variableType.name), ("name", .str input.name),
    ("description", .str input.description), ("required", .bool input.required),
    ("resourceTypes", input.resourceTypesJson?.getD .null),
    ("value", .arr (input.value.map VariableValue.dumpFull))]

end Variable

end PlanGraph
