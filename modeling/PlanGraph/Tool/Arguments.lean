import PlanGraph.Failure
import PlanGraph.Json.Reader
import PlanGraph.Tool.Catalog

/-!
# Arguments of tools

Arguments are given by name. A name that the tool does not know is an error of the call, and so is
an argument that is missing. An argument may be given as the text of its JSON.
-/

namespace PlanGraph

/-- The arguments of a call, by name. -/
abbrev Arguments := List (String × Json)

namespace Arguments

/-- An argument, null where it is missing. -/
def value (name : String) (arguments : Arguments) : Json :=
  (Json.member? name arguments).getD .null

end Arguments

namespace Tool

/-- The name that stands for the receiver of a call and is taken in every call. -/
def receiverName : String := "self"

/-- The parameters of a call of the tool by their names, and whether each needs an argument. -/
def signature : Tool → List (String × Bool)
  | validate => [("plan", true)]
  | compile => [("plan", true), ("toolsets", false), ("auto_layout", false)]
  | patch => [("plan", true), ("operations", true), ("plan_id", false)]
  | summarize => [("plan", true), ("plan_id", false)]

/-- The names of the arguments that the tool takes. -/
def takenNames (tool : Tool) : List String :=
  tool.signature.map Prod.fst

/-- The names of the arguments that the tool cannot do without. -/
def neededNames (tool : Tool) : List String :=
  (tool.signature.filter Prod.snd).map Prod.fst

/-- The tool takes an argument of this name. -/
def accepts (tool : Tool) (name : String) : Bool :=
  tool.takenNames.contains name

/-- What is wrong with the name of an argument. -/
def nameFault? (tool : Tool) (name : String) : Option Fault :=
  if name = receiverName then some (.repeatedArgument tool.name name)
  else if tool.accepts name then none
  else some (.unexpectedArgument tool.name name)

/-- What is wrong with the arguments of a call: the first name that is not accepted, or else the
first parameter that has no argument. -/
def callFault? (tool : Tool) (arguments : Arguments) : Option Fault :=
  (arguments.findSome? fun argument => tool.nameFault? argument.1).or
    ((tool.neededNames.find? fun name => (Json.member? name arguments).isNone).map
      (.missingArgument tool.name))

end Tool

namespace Json

/-- The label of an argument in failures. -/
def argumentLabel : String := "Tool argument"

/-- A failure about one argument. -/
def argumentFailure (name : String) (cause : Cause) : Failure :=
  .invalid argumentLabel [⟨[.member name], cause⟩]

/-- An argument that may be given as the text of its JSON. -/
def ofArgument (name : String) : Json → Except Halt Json
  | .str text =>
    match Json.read text with
    | .ok value => .ok value
    | .error fault =>
      match fault.flaw with
      | .oversizedInteger digits => .error (.fault (.oversizedInteger digits))
      | flaw => .error (.failure (argumentFailure name (.invalidJson flaw.message)))
  | value => .ok value

end Json

end PlanGraph
