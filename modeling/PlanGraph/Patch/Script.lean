import PlanGraph.Json.Reader
import PlanGraph.Patch.Operation
import PlanGraph.Text.Blank
import PlanGraph.Text.Lines

/-!
# Operations as text

A list of operations is written as indented JSON. It is read back from JSON that may stand between
two fences of three backquotes, as generated text often puts it: the line of the first fence and a
last fence are dropped, and the lines between them are joined again.
-/

namespace PlanGraph

/-! ## Fences -/

namespace Text

/-- A fence: three backquotes. -/
def fence : List Char := List.replicate 3 (Char.ofNat 0x60)

/-- The text without the fence it ends with and the blanks around that fence. -/
def dropLastFence (text : List Char) : List Char :=
  let body := trimEnd text
  if fence.isSuffixOf body then trimEnd (body.take (body.length - fence.length)) else text

/-- The text between the fences, or the trimmed text where there is no fence. -/
def unfence (text : List Char) : List Char :=
  let body := trim text
  if fence.isPrefixOf body then trim (dropLastFence (joinLines ((lines body).drop 1))) else body

end Text

/-! ## Reading and writing -/

/-- Why a text is no list of operations. -/
inductive ScriptFault where
  /-- The text is no JSON. -/
  | notJson (fault : Json.SyntaxFault)
  /-- The value is no array but of the named kind. -/
  | notArray (kind : String)
  /-- One of the operations could not be read. -/
  | halt (halt : Halt)

/-- What is said about a text that is no list of operations. -/
def ScriptFault.message : ScriptFault → String
  | notJson fault => fault.message
  | notArray kind => "Expected a JSON array of ops, got " ++ kind
  | halt (.failure failure) => failure.message
  | halt (.fault _) => ""

namespace Operation

/-- The text of a list of operations. -/
def scriptOf (operations : List Operation) : String :=
  (Json.arr (operations.map toJson)).indented

/-- Reads operations one after another, up to the first that cannot be read. -/
def listOfJson : List Json → Except Halt (List Operation)
  | [] => .ok []
  | value :: rest => do
    let first ← ofJson value
    pure (first :: (← listOfJson rest))

/-- Reads a list of operations from a text. -/
def ofScript (text : String) : Except ScriptFault (List Operation) :=
  match Json.read (String.ofList (Text.unfence text.toList)) with
  | .error fault => .error (.notJson fault)
  | .ok (.arr items) => (listOfJson items).mapError .halt
  | .ok value => .error (.notArray value.kindName)

end Operation

end PlanGraph
