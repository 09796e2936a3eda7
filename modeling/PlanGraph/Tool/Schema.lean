import PlanGraph.Json.Shown
import PlanGraph.Tool.Arguments

/-!
# Checking arguments by schema

The arguments of a call are checked against the schema of their tool before the call is made. Of
several violations one is reported: a missing argument before all others, an argument of the wrong
shape before a wrong item of an array, and among violations of one depth the one whose path comes
last.
-/

namespace PlanGraph

/-! ## Violations -/

/-- How arguments violate a schema. -/
inductive Violation where
  /-- An argument is missing. -/
  | missing (name : String)
  /-- A value has the wrong type. -/
  | wrongType (value : Json) (typeName : String)
deriving DecidableEq

/-- What is said about a violation. -/
def Violation.message : Violation → String
  | missing name => Text.quote name ++ " is a required property"
  | wrongType value typeName =>
    value.inspect ++ " is not of type " ++ Text.quote typeName

/-! ## Shapes -/

namespace Shape

/-- The value has a shape, as far as its outermost level goes. -/
def admits : Shape → Json → Bool
  | object, .obj _ => true
  | objects, .arr _ => true
  | text, .str _ => true
  | flag, .bool _ => true
  | _, _ => false

/-- The last item of a value that is no object where objects are asked for. -/
def strayItem? : Shape → Json → Option Json
  | objects, .arr items => items.reverse.find? fun item => !item.isObject
  | _, _ => none

end Shape

namespace Parameter

/-- The violation of an argument by its shape. -/
def shapeViolation? (parameter : Parameter) (arguments : Arguments) : Option Violation :=
  match Json.member? parameter.name arguments with
  | some value =>
    if parameter.shape.admits value then none
    else some (.wrongType value parameter.shape.typeName)
  | none => none

/-- The violation of an argument by one of its items. -/
def itemViolation? (parameter : Parameter) (arguments : Arguments) : Option Violation :=
  (Json.member? parameter.name arguments >>= parameter.shape.strayItem?).map fun item =>
    .wrongType item Shape.object.typeName

/-- The parameters from the last name to the first. -/
def descending : List Parameter → List Parameter
  | [] => []
  | parameter :: rest => insert parameter (descending rest)
where
  /-- Puts a parameter before the first one with a smaller name. -/
  insert (parameter : Parameter) : List Parameter → List Parameter
    | [] => [parameter]
    | first :: rest =>
      if first.name < parameter.name then parameter :: first :: rest
      else first :: insert parameter rest

end Parameter

/-! ## Tools -/

namespace Tool

/-- The violation that is reported about the arguments of a call, if there is any. -/
def violation? (tool : Tool) (arguments : Arguments) : Option Violation :=
  let missing := tool.requiredNames.find? fun name => (Json.member? name arguments).isNone
  let parameters := Parameter.descending tool.parameters
  (missing.map Violation.missing).or
    ((parameters.findSome? (·.shapeViolation? arguments)).or
      (parameters.findSome? (·.itemViolation? arguments)))

end Tool

end PlanGraph
