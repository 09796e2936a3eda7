import PlanGraph.Json.Reader
import PlanGraph.Server

/-!
# Messages of the server

An agent and the server exchange messages of JSON-RPC 2.0, one on a line. A message with an id is a
request and has one reply; a message without an id is a notice and has none.
-/

namespace PlanGraph

namespace Server

/-! ## Replies -/

/-- The version of the protocol that the server prefers. -/
def protocolVersion : Json := .str "2025-06-18"

/-- A reply that gives a result. -/
def reply (id result : Json) : Json :=
  .obj [("jsonrpc", .str "2.0"), ("id", id), ("result", result)]

/-- A reply that tells of an error. -/
def errorReply (id : Json) (code : Int) (message : String) : Json :=
  .obj [("jsonrpc", .str "2.0"), ("id", id),
    ("error", .obj [("code", .int code), ("message", .str message)])]

/-- What the server says of itself. -/
def greeting (params : Json) : Json :=
  .obj [("protocolVersion", Node.orElse (params.getD "protocolVersion") protocolVersion),
    ("capabilities", .obj [("tools", .obj [])]),
    ("serverInfo", .obj [("name", .str name), ("version", .str "1.0.0")])]

/-- An answer as a value. -/
def answerJson (answer : Answer) : Json :=
  .obj [("content", .arr [.obj [("type", .str "text"), ("text", .str answer.text)]]),
    ("isError", .bool answer.isError)]

/-- The arguments in the parameters of a call; none where they are null or missing. -/
def argumentsOf? (params : Json) : Option Arguments :=
  match params.getD "arguments" with
  | .null => some []
  | .obj members => some members
  | _ => none

/-- The reply to a call of a tool. -/
def callReply (settings : Settings) (id params : Json) : Minting Json :=
  match (params.getD "name").text?, argumentsOf? params with
  | some toolName, some arguments => do
    pure (reply id (answerJson (← call settings toolName arguments)))
  | _, _ => pure (errorReply id (-32602) "Invalid params")

/-- The reply to a request. -/
def requestReply (settings : Settings) (id request : Json) : Minting Json :=
  let params := request.getD "params"
  match request.getD "method" with
  | .str "initialize" => pure (reply id (greeting params))
  | .str "ping" => pure (reply id (.obj []))
  | .str "tools/list" => pure (reply id (.obj [("tools", Tool.catalog)]))
  | .str "tools/call" => callReply settings id params
  | _ => pure (errorReply id (-32601) "Method not found")

/-- The line in answer to a line, if there is one. -/
def lineReply? (settings : Settings) (line : String) : Minting (Option String) :=
  match Json.read line with
  | .error _ => pure (some (errorReply .null (-32700) "Parse error").spaced)
  | .ok message =>
    match message.get? "id" with
    | some id => do pure (some (← requestReply settings id message).spaced)
    | none => pure none

end Server

end PlanGraph
