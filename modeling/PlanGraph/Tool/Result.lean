import PlanGraph.Failure
import PlanGraph.Text.Lines

/-!
# Results of tools

A tool either does its work, and tells in one text what it did, or meets a failure, whose first
line becomes that text. Both are shown in one form with the same six members.
-/

namespace PlanGraph

/-- What a call of a tool gives. -/
inductive ToolResult where
  /-- The work was done. -/
  | done (summary : String) (data : Json) (facts : List (String × Nat)) (artifacts : Option Json)
  /-- The work was refused. The message may say more than the failure itself. -/
  | failed (message : String) (failure : Failure)

namespace ToolResult

/-- A failure with its own message. -/
def ofFailure (failure : Failure) : ToolResult :=
  failed failure.message failure

/-- Whether the work was done. -/
def ok : ToolResult → Bool
  | done _ _ _ _ => true
  | failed _ _ => false

/-- What the agent is told first. -/
def summary : ToolResult → String
  | done summary _ _ _ => summary
  | failed message _ => "Failed: " ++ String.ofList (Text.firstLine message.toList)

/-- Counts found on the way. -/
def facts : ToolResult → Json
  | done _ _ facts _ => .obj (facts.map fun fact => (fact.1, .ofNat fact.2))
  | failed _ _ => .obj []

/-- The product of the work. -/
def data : ToolResult → Json
  | done _ data _ _ => data
  | failed _ _ => .null

/-- The error, with the failure in detail. -/
def error : ToolResult → Json
  | done _ _ _ _ => .null
  | failed message failure =>
    .obj [("type", .str failure.kind), ("message", .str message), ("detail", failure.toJson)]

/-- References to what was produced. -/
def artifacts : ToolResult → Json
  | done _ _ _ artifacts => artifacts.getD .null
  | failed _ _ => .null

/-- The members that are sent to the agent. -/
def sentMembers (result : ToolResult) : List (String × Json) :=
  [("ok", .bool result.ok), ("summary", .str result.summary), ("data", result.data),
    ("error", result.error)]

/-- A result as a value, with everything it holds. -/
def toJson (result : ToolResult) : Json :=
  .obj (result.sentMembers ++ [("facts", result.facts), ("artifacts", result.artifacts)])

end ToolResult

end PlanGraph
