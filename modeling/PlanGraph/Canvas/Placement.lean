import PlanGraph.Canvas.Basic
import PlanGraph.Supply

/-!
# Placing nodes

A layout settles the id and the position of a new node. It is told the node, the nodes that are on
the canvas already, which of them the node will be connected with, and whether positions are left
to it. The grid is the layout used by default: a position that is given stays; otherwise, where
positions are left to the layout, the node goes one column to the right of the nodes that feed it,
below what stands in that column.

The limits of an interpreter are no part of this: the payload of a node, like whatever else is
copied onto a canvas, may be nested to any depth.
-/

namespace PlanGraph

/-! ## Requests -/

/-- What a layout is told about a new node. -/
structure Placing where
  /-- The node, without an id and perhaps without a position. -/
  node : Node
  /-- The nodes that are on the canvas. -/
  nodes : List Node
  /-- The edges that are on the canvas. -/
  edges : List Edge
  /-- The nodes to connect the new node with. -/
  connectTo : List NodeFilter
  /-- Whether positions are left to the layout. -/
  autoLayout : Bool

/-- A layout answers the request of each call, counted from zero, with the finished node. -/
abbrev Layout := Nat → Placing → Making Node

namespace Making

/-- A result that needs no ids. -/
def ofExcept {α : Type} : Except Fault α → Making α
  | .ok value => pure value
  | .error fault => throw fault

end Making

/-! ## The grid -/

namespace Grid

/-- The distance between two columns. -/
def columnWidth : Int := 400

/-- The distance between two rows. -/
def rowHeight : Int := 240

/-- The coordinate of the first column and of the first row. -/
def origin : Json := .float (.finite false 0)

/-- The place where the first column and the first row meet. -/
def corner : Json := .obj [("x", origin), ("y", origin)]

/-- A coordinate of a position that is an object, zero where it is missing. -/
def coordinate (name : String) : Json → Except Fault Json
  | .obj members => .ok ((Json.member? name members).getD (.int 0))
  | _ => .error .notRecord

/-- The first coordinate of a node that feeds the new one; no position, or an empty one, is zero. -/
def sourceColumn (node : Node) : Except Fault Json :=
  coordinate "x" (Node.orElse (node.position.getD .null) (.obj []))

/-- The larger of two values, the first of equal ones. -/
def larger (best value : Json) : Except Fault Json :=
  match best.less? value with
  | some true => .ok value
  | some false => .ok best
  | none => .error .notNumber

/-- A value moved by a distance. -/
def move (value : Json) (distance : Int) : Except Fault Json :=
  match value.number? with
  | some n => .ok (.ofNumber (n.addInt distance))
  | none => .error .notNumber

/-- The largest first coordinate of some nodes, each looked at before it is compared. -/
def widestColumn (best : Json) : List Node → Except Fault Json
  | [] => .ok best
  | node :: rest => do
    let column ← sourceColumn node
    widestColumn (← larger best column) rest

/-- The column of a new node: one to the right of every node that feeds it. -/
def column : List Node → Except Fault Json
  | [] => .ok origin
  | node :: rest => do
    move (← widestColumn (← sourceColumn node) rest) columnWidth

/-- The second coordinates of the nodes that stand in a column. -/
def rowsIn (column : Json) : List Node → Except Fault (List Json)
  | [] => .ok []
  | node :: rest =>
    match node.position with
    | none => rowsIn column rest
    | some position => do
      if (← coordinate "x" position).same column then
        let row ← coordinate "y" position
        pure (row :: (← rowsIn column rest))
      else rowsIn column rest

/-- The row of a new node: below every node of its column. -/
def row : List Json → Except Fault Json
  | [] => .ok origin
  | first :: rest => do move (← rest.foldlM larger first) rowHeight

/-- The free place for a new node, given the nodes on the canvas and those that feed it. -/
def freePlace (existing sources : List Node) : Except Fault Json := do
  let x ← column sources
  let y ← row (← rowsIn x existing)
  pure (.obj [("x", x), ("y", y)])

/-- The nodes that a filter selects. -/
def selected (filter : NodeFilter) : List Node → Except Fault (List Node)
  | [] => .ok []
  | node :: rest => do
    if ← filter.selects node then
      pure (node :: (← selected filter rest))
    else selected filter rest

/-- The nodes that feed a new node: for each filter on that side, the nodes it selects. -/
def sources (nodes : List Node) : List NodeFilter → Except Fault (List Node)
  | [] => .ok []
  | filter :: rest =>
    if filter.handle = NodeFilter.sourceHandle then do
      pure ((← selected filter nodes) ++ (← sources nodes rest))
    else sources nodes rest

/-- The position of a new node. -/
def position (request : Placing) : Except Fault Json :=
  match request.node.position with
  | some position => .ok position
  | none =>
    if request.autoLayout then do
      freePlace request.nodes (← sources request.nodes request.connectTo)
    else .ok corner

/-- An id that counts as true, or a fresh one. -/
def settleId (id : Json) : Minting Json :=
  if id.truthy then pure id
  else do pure (.str ("node-" ++ (← Supply.draw)))

/-- The payload with a title. -/
def withTitle (members : List (String × Json)) : List (String × Json) :=
  if (Json.member? "title" members).isSome then members
  else Json.put "title" (.str "Untitled") members

/-- The payload with an entity id that counts as true, a fresh one if need be. -/
def withEntity (members : List (String × Json)) : Minting (List (String × Json)) :=
  if ((Json.member? "entityId" members).getD .null).truthy then pure members
  else do pure (Json.put "entityId" (.str ("entity-" ++ (← Supply.draw))) members)

/-- Finishes a node: its position, then its id, then its payload. -/
def place (request : Placing) : Making Node := do
  let position ← Making.ofExcept (position request)
  let id ← (settleId request.node.id : Minting Json)
  match request.node.data with
  | .obj members =>
    let data ← (withEntity (withTitle members) : Minting _)
    pure { request.node with position := some position, id, data := .obj data }
  | _ => throw .notRecord

/-- The grid as a layout. -/
def layout : Layout := fun _ request => place request

end Grid

end PlanGraph
