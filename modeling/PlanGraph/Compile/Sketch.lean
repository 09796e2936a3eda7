import PlanGraph.Canvas.Placement
import PlanGraph.Compile.Outline
import PlanGraph.Compile.Selection
import PlanGraph.Mention

/-!
# Sketches of nodes

A sketch is a task on its way to become a node: its outline with the entity id it was given. From
a sketch and what all nodes of a run share follows the request that the layout is asked: the node
with its payload, and the nodes to connect it with.
-/

namespace PlanGraph

/-! ## What nodes are made from -/

/-- How a plan is compiled. -/
structure CompileOptions where
  /-- Positions are left to the layout. -/
  autoLayout : Bool
  /-- The model that every node starts with. -/
  defaultModel : Json
  /-- A value that offers the nodes that are on the canvas before. -/
  startNodes : Json

namespace CompileOptions

/-- Nodes in one column, no model, and nothing on the canvas. -/
def standard : CompileOptions := ⟨false, .null, .arr []⟩

end CompileOptions

/-- What all nodes of a run share. -/
structure Setting where
  /-- The entity id that each task id stands for. -/
  symbols : List (String × String)
  /-- The toolsets of the environment. -/
  toolsets : List Json
  /-- The model that every node starts with. -/
  model : Json
  /-- Positions are left to the layout. -/
  autoLayout : Bool

/-- A task on its way to become a node. -/
structure Sketch where
  /-- The outline of the task. -/
  outline : Outline
  /-- The place of the task in its plan, from zero. -/
  place : Nat
  /-- The entity id that the task was given. -/
  entityId : String
deriving DecidableEq

/-! ## Requests -/

namespace Sketch

/-- The distance between two nodes of the column. -/
def rowStep : Int := 240

/-- The place in the column of the node with the given number. -/
def stacked (index : Nat) : Json :=
  .obj [("x", .int 0), ("y", .int (index * rowStep))]

/-- The prompt, with its mentions naming entities. -/
def query (setting : Setting) (sketch : Sketch) : String :=
  resolveMentions sketch.outline.prompt setting.symbols

/-- What is executed when the node runs. -/
def metadata (setting : Setting) (sketch : Sketch) : Json :=
  .obj [("query", .str (sketch.query setting)),
    ("selectedToolsets", .arr (Toolset.select setting.toolsets sketch.outline.toolsets)),
    ("contextItems", .arr []), ("status", .str "init"), ("modelInfo", setting.model)]

/-- The payload of the node. -/
def payload (setting : Setting) (sketch : Sketch) : Json :=
  .obj [("title", .str sketch.outline.title), ("editedTitle", .str sketch.outline.title),
    ("entityId", .str sketch.entityId), ("contentPreview", .str ""),
    ("metadata", sketch.metadata setting)]

/-- The node with the given number, as yet without an id. -/
def node (setting : Setting) (index : Nat) (sketch : Sketch) : Node where
  id := .str ""
  type := .str taskNodeType
  data := sketch.payload setting
  position := if setting.autoLayout then none else some (stacked index)
  selected := false

/-- The filter for the node of a task that this one depends on. A task is not connected with
itself, and an unknown id with nothing. -/
def connection? (setting : Setting) (sketch : Sketch) (dependency : String) :
    Option NodeFilter :=
  if dependency = sketch.outline.id then none
  else (setting.symbols.lookup dependency).map fun entityId =>
    ⟨.str taskNodeType, .str entityId, NodeFilter.sourceHandle⟩

/-- The filters for the nodes of all tasks that this one depends on. -/
def connections (setting : Setting) (sketch : Sketch) : List NodeFilter :=
  sketch.outline.dependencies.filterMap (sketch.connection? setting)

/-- What the layout is asked. No edge is on the canvas before every node is. -/
def request (setting : Setting) (nodes : List Node) (index : Nat) (sketch : Sketch) : Placing where
  node := sketch.node setting index
  nodes := nodes
  edges := []
  connectTo := sketch.connections setting
  autoLayout := setting.autoLayout

end Sketch

end PlanGraph
