import PlanGraph.Compile.Outline
import PlanGraph.Fault

/-!
# Inputs of a canvas

A canvas carries the variables of its plan as objects with seven members. A value of a variable
keeps its resource when the resource has both a name and a file type.
-/

namespace PlanGraph

namespace CanvasInput

/-- The resource of a value, if it is complete. -/
def resource? : Json → Option Json
  | .obj members =>
    let name := (Json.member? "name" members).getD .null
    let fileType := (Json.member? "fileType" members).getD .null
    if name.truthy && fileType.truthy then
      some (.obj [("name", name), ("fileType", fileType)])
    else none
  | _ => none

/-- A value of a variable; what is no object is passed over. -/
def value? : Json → Option Json
  | .obj members =>
    let value := Json.obj members
    some (.obj ([("type", value.getD "type"), ("text", value.getD "text")] ++
      Json.memberIf "resource" (resource? (value.getD "resource"))))
  | _ => none

/-- The input of a canvas for a variable given as an object. -/
def ofObject (input : Json) : Json :=
  .obj [("variableId", input.getD "variableId"), ("variableType", input.getD "variableType"),
    ("name", input.getD "name"),
    ("value", .arr ((input.itemsOf "value").filterMap value?)),
    ("description", input.getD "description"),
    ("required", .bool (input.getD "required").truthy),
    ("resourceTypes", input.getD "resourceTypes")]

/-- The input for a variable given as a value, which must be an object. -/
def ofJson (value : Json) : Except Fault Json :=
  if value.isObject then .ok (ofObject value) else .error .notRecord

end CanvasInput

/-- The input of a canvas for a variable. -/
def Variable.canvasInput (input : Variable) : Json :=
  CanvasInput.ofObject input.dumpFull

/-- The inputs of a canvas for the variables of a plan; what is no object is passed over. -/
def PlanInput.canvasInputs : PlanInput → List Json
  | parsed plan => plan.inputs.map Variable.canvasInput
  | raw value => ((value.itemsOf "variables").filter Json.isObject).map CanvasInput.ofObject

end PlanGraph
