import PlanGraph.Fault
import PlanGraph.Json.Order
import PlanGraph.Json.Printer
import PlanGraph.Json.Sequence

/-!
# Canvases

A canvas is a graph of nodes and edges with the variables that belong to it. Nodes and edges may
come from canvas JSON of any origin, so their members are values of any kind, and wherever members
are compared, they are compared by value.
-/

namespace PlanGraph

/-! ## Nodes -/

/-- A node of a canvas. -/
structure Node where
  /-- The id, which is settled when the node is placed. -/
  id : Json
  /-- The type. -/
  type : Json
  /-- The payload. -/
  data : Json
  /-- The position, none as long as the node is not placed. -/
  position : Option Json
  /-- Whether the node is selected. -/
  selected : Bool
deriving DecidableEq

namespace Node

/-- A value, or a default where it does not count as true. -/
def orElse (value default : Json) : Json :=
  if value.truthy then value else default

/-- Reads a node; members that are missing or empty have defaults. -/
def ofJson : Json → Except Fault Node
  | .obj members =>
    let value := Json.obj members
    .ok {
      id := orElse (value.getD "id") (.str "")
      type := orElse (value.getD "type") (.str "")
      data := orElse (value.getD "data") (.obj [])
      position := match value.getD "position" with
        | .null => none
        | position => some position
      selected := (value.getD "selected").truthy }
  | _ => .error .notRecord

/-- Reads the nodes that a value offers one after another. -/
def listOfJson (value : Json) : Except Fault (List Node) := do
  (← value.sequence).mapM ofJson

/-- The entity id of a node, null where there is none. -/
def entityId (node : Node) : Except Fault Json :=
  match node.data with
  | .obj members => .ok ((Json.member? "entityId" members).getD .null)
  | _ => .error .notRecord

/-- A node as a value. -/
def toJson (node : Node) : Json :=
  .obj ([("id", node.id), ("type", node.type), ("data", node.data),
      ("selected", .bool node.selected)] ++ Json.memberIf "position" node.position)

end Node

/-! ## Edges and filters -/

/-- A directed edge between two nodes. -/
structure Edge where
  /-- The id. -/
  id : Json
  /-- The id of the node it starts from. -/
  source : Json
  /-- The id of the node it leads to. -/
  target : Json
  /-- The type. -/
  type : Json
deriving DecidableEq

/-- An edge as a value. -/
def Edge.toJson (edge : Edge) : Json :=
  .obj [("id", edge.id), ("source", edge.source), ("target", edge.target), ("type", edge.type)]

/-- Selects a node to connect a new one with. A filter with the handle `source` selects a node that
feeds the new one. -/
structure NodeFilter where
  /-- The type of the node. -/
  type : Json
  /-- The entity id of the node. -/
  entityId : Json
  /-- The side on which the node is connected. -/
  handle : String
deriving DecidableEq

namespace NodeFilter

/-- The handle of a node that feeds the new one. -/
def sourceHandle : String := "source"

/-- The filter selects a node. The entity id is read only if the type agrees. -/
def selects (filter : NodeFilter) (node : Node) : Except Fault Bool :=
  if node.type.same filter.type then do
    pure ((← node.entityId).same filter.entityId)
  else .ok false

end NodeFilter

/-! ## Canvases -/

/-- A graph with its variables. -/
structure Canvas where
  /-- The nodes. -/
  nodes : List Node
  /-- The edges. -/
  edges : List Edge
  /-- The variables. -/
  inputs : List Json
deriving DecidableEq

namespace Canvas

/-- The canvas that holds nothing. -/
def empty : Canvas := ⟨[], [], []⟩

/-- A value that can be looked up as a key. -/
def keyable : Json → Bool
  | .arr _ => false
  | .obj _ => false
  | _ => true

/-- The values without those that equal an earlier one. -/
def distinctValues (seen : List Json) : List Json → List Json
  | [] => []
  | value :: rest =>
    if seen.any value.same then distinctValues seen rest
    else value :: distinctValues (value :: seen) rest

/-- The ids of the nodes, each once. -/
def nodeIds (canvas : Canvas) : Except Fault (List Json) :=
  let ids := canvas.nodes.map Node.id
  if ids.all keyable then .ok (distinctValues [] ids) else .error .unkeyable

/-- The ids of the nodes in ascending order. -/
def sortedNodeIds (canvas : Canvas) : Except Fault (List Json) := do
  match Json.sort? (← canvas.nodeIds) with
  | some ids => pure ids
  | none => .error .notNumber

/-- The first node with an id. -/
def getNode? (canvas : Canvas) (id : Json) : Option Node :=
  canvas.nodes.find? fun node => node.id.same id

/-- A canvas as a value. -/
def toJson (canvas : Canvas) : Json :=
  .obj [("nodes", .arr (canvas.nodes.map Node.toJson)),
    ("edges", .arr (canvas.edges.map Edge.toJson)), ("variables", .arr canvas.inputs)]

/-- The text of a canvas, without blanks. -/
def toText (canvas : Canvas) : String :=
  canvas.toJson.compact

end Canvas

end PlanGraph
