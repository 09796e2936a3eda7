import PlanGraph.Tool.Call
import PlanGraph.Tool.Schema

/-!
# The tool server

A server offers the tools of the catalog to agents. It answers every call with a text: the result as
JSON, or what is wrong with the call.
-/

namespace PlanGraph

namespace Fault

/-- What is said about a fault that ends a call. -/
def message : Fault → String
  | unkeyable => "an array or an object cannot be looked up"
  | notSequence => "the value offers nothing to go through"
  | notNumber => "the values have no order"
  | notRecord => "the value has no members"
  | unknownTool name => "Unknown tool: " ++ name
  | unexpectedArgument tool argument =>
    "PlanMCPTools." ++ tool ++ "() got an unexpected keyword argument '" ++ argument ++ "'"
  | repeatedArgument tool argument =>
    "PlanMCPTools." ++ tool ++ "() got multiple values for argument '" ++ argument ++ "'"
  | missingArgument tool argument =>
    "PlanMCPTools." ++ tool ++ "() missing 1 required positional argument: '" ++ argument ++ "'"
  | oversizedInteger digits => Text.oversizedIntegerMessage digits

end Fault

/-- The answer to a call. -/
structure Answer where
  /-- Whether the call itself was in error. -/
  isError : Bool
  /-- The text of the answer. -/
  text : String
deriving DecidableEq

namespace Answer

/-- The answer of a tool that ran. -/
def ofResult (result : ToolResult) : Answer :=
  ⟨false, (Json.obj result.sentMembers).spaced⟩

/-- The answer to a call of a tool that is not in the catalog. -/
def unknownTool (name : String) : Answer :=
  ⟨false, (Json.obj
    [("ok", .bool false), ("error", .str (Fault.unknownTool name).message)]).spaced⟩

/-- The answer to a call whose arguments violate the schema. -/
def ofViolation (violation : Violation) : Answer :=
  ⟨true, "Input validation error: " ++ violation.message⟩

/-- The answer to a call that could not be carried out. -/
def ofFault (fault : Fault) : Answer :=
  ⟨true, fault.message⟩

/-- The answer of a call. -/
def ofCall : Except Fault ToolResult → Answer
  | .ok result => ofResult result
  | .error fault => ofFault fault

end Answer

namespace Server

/-- The name of the server. -/
def name : String := "canvas-planner"

/-- Answers a call. -/
def call (settings : Settings) (toolName : String) (arguments : Arguments) : Minting Answer :=
  match Tool.ofName? toolName with
  | none => pure (.unknownTool toolName)
  | some tool =>
    match tool.violation? arguments with
    | some violation => pure (.ofViolation violation)
    | none => do pure (.ofCall (← (tool.call settings arguments).run))

end Server

end PlanGraph
