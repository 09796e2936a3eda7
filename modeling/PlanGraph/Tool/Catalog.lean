import PlanGraph.Json.Basic

/-!
# The catalog of tools

Four tools let an agent validate, compile, patch and summarize plans. The catalog describes each
tool and its parameters to the agent, and the arguments of a call are checked against the same
description.
-/

namespace PlanGraph

/-! ## Parameters -/

/-- The shape of an argument. -/
inductive Shape where
  /-- An object. -/
  | object
  /-- An array of objects. -/
  | objects
  /-- A text. -/
  | text
  /-- A flag. -/
  | flag
deriving DecidableEq

namespace Shape

/-- The name of the kind of values that have a shape. -/
def typeName : Shape → String
  | object => "object"
  | objects => "array"
  | text => "string"
  | flag => "boolean"

/-- The members of a schema that tell the shape. -/
def schemaMembers (shape : Shape) : List (String × Json) :=
  ("type", .str shape.typeName) ::
    match shape with
    | objects => [("items", .obj [("type", .str object.typeName)])]
    | _ => []

end Shape

/-- A parameter of a tool. -/
structure Parameter where
  /-- The name. -/
  name : String
  /-- The shape of its argument. -/
  shape : Shape
  /-- What it stands for. -/
  description : String
  /-- Whether an argument must be given. -/
  required : Bool

/-- A parameter as a member of a schema. -/
def Parameter.schemaMember (parameter : Parameter) : String × Json :=
  (parameter.name,
    .obj (parameter.shape.schemaMembers ++ [("description", .str parameter.description)]))

/-! ## Tools -/

/-- A tool for plans. -/
inductive Tool where
  /-- Tells what is wrong with a plan. -/
  | validate
  /-- Compiles a plan. -/
  | compile
  /-- Applies a patch to a plan. -/
  | patch
  /-- Summarizes a plan. -/
  | summarize
deriving DecidableEq

namespace Tool

/-- Every tool, in the order of the catalog. -/
def all : List Tool := [validate, compile, patch, summarize]

/-- The name of a tool. -/
def name : Tool → String
  | validate => "validate_workflow_plan"
  | compile => "compile_workflow_plan"
  | patch => "patch_workflow_plan"
  | summarize => "get_workflow_summary"

/-- The tool of a name. -/
def ofName? (name : String) : Option Tool :=
  all.find? fun tool => tool.name == name

/-- What a tool does. -/
def description : Tool → String
  | validate =>
    "Validate a workflow plan and return it normalized; errors list every invalid field path"
  | compile => "Compile a workflow plan into canvas nodes, dependency edges and variables"
  | patch =>
    "Apply ordered operations to a workflow plan; all-or-nothing, returns the new plan"
  | summarize =>
    "Summarize a workflow plan: task and variable ids, titles, dependencies, prompt previews"

/-- The parameter that every tool has: a plan. -/
def planParameter : Parameter where
  name := "plan"
  shape := .object
  description :=
    "Workflow plan object \x7btitle, tasks: " ++
      "[\x7bid, title, prompt, dependentTasks, toolsets\x7d], variables: " ++
      "[\x7bvariableId, variableType, name, description, required, value\x7d]\x7d"
  required := true

/-- The parameter of the operations of a patch. -/
def operationsParameter : Parameter where
  name := "operations"
  shape := .objects
  description :=
    "Ordered patch operations. Each is \x7bop, ...\x7d: " ++
      "updateTitle \x7btitle\x7d; createTask \x7btask\x7d; updateTask \x7btaskId, data\x7d; " ++
      "deleteTask \x7btaskId\x7d; createVariable \x7bvariable\x7d; " ++
      "updateVariable \x7bvariableId, data\x7d; deleteVariable \x7bvariableId\x7d"
  required := true

/-- The parameter of the toolsets of an environment. -/
def toolsetsParameter : Parameter where
  name := "toolsets"
  shape := .objects
  description :=
    "Available toolsets \x7bid, name, type, toolset: \x7bkey\x7d\x7d; unknown ids are dropped"
  required := false

/-- The parameter that leaves positions to the layout. -/
def autoLayoutParameter : Parameter :=
  ⟨"auto_layout", .flag, "Let the layout place nodes instead of stacking them", false⟩

/-- The parameter of the id of a plan. -/
def planIdParameter (description : String) : Parameter :=
  ⟨"plan_id", .text, description, false⟩

/-- The parameters of a tool. -/
def parameters : Tool → List Parameter
  | validate => [planParameter]
  | compile => [planParameter, toolsetsParameter, autoLayoutParameter]
  | patch =>
    [planParameter, operationsParameter, planIdParameter "Optional id of the plan being patched"]
  | summarize => [planParameter, planIdParameter "Optional id of the plan"]

/-- The names of the parameters that need an argument. -/
def requiredNames (tool : Tool) : List String :=
  (tool.parameters.filter Parameter.required).map Parameter.name

/-! ## The catalog as a value -/

/-- The schema of the arguments of a tool. -/
def inputSchema (tool : Tool) : Json :=
  .obj [("type", .str Shape.object.typeName),
    ("properties", .obj (tool.parameters.map Parameter.schemaMember)),
    ("required", .ofStrings tool.requiredNames)]

/-- The entry of a tool. -/
def entry (tool : Tool) : Json :=
  .obj [("name", .str tool.name), ("description", .str tool.description),
    ("inputSchema", tool.inputSchema)]

/-- The entries of all tools. -/
def catalog : Json :=
  .arr (all.map entry)

end Tool

end PlanGraph
