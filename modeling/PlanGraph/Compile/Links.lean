import PlanGraph.Compile.Sketch

/-!
# Links

A link leads from the node of a task to the node of a task that depends on it. Links are found from
the finished nodes, so the layout may have given them any ids: an id that several tasks share names
the first of them that was processed, a node is not linked with itself, and no two nodes are linked
twice in one direction.
-/

namespace PlanGraph

/-! ## Placed tasks -/

/-- A task that has become a node. -/
structure PlacedTask where
  /-- The sketch of the node. -/
  sketch : Sketch
  /-- What the layout was asked. -/
  request : Placing
  /-- What the layout answered. -/
  node : Node

namespace PlacedTask

/-- The id of the node that a task id names; null is no id. -/
def nodeId? (placed : List PlacedTask) (taskId : String) : Option Json :=
  ((placed.find? fun task => task.sketch.outline.id == taskId).map fun task => task.node.id).filter
    (· ≠ .null)

/-- The tasks in the order of their plan, of which there are as many as given. -/
def inPlanOrder (placed : List PlacedTask) (count : Nat) : List PlacedTask :=
  (List.range count).filterMap fun place => placed.find? fun task => task.sketch.place == place

end PlacedTask

/-! ## Links -/

/-- A pair of node ids, the source first. -/
structure Link where
  /-- The id of the node that is depended on. -/
  source : Json
  /-- The id of the node that depends on it. -/
  target : Json
deriving DecidableEq

namespace Link

/-- The link leads from a node to itself. -/
def isLoop (link : Link) : Bool :=
  link.source.same link.target

/-- Both ends can be looked up. -/
def isKeyable (link : Link) : Bool :=
  Canvas.keyable link.source && Canvas.keyable link.target

/-- The links have the same ends. -/
def same (a b : Link) : Bool :=
  a.source.same b.source && a.target.same b.target

/-- The links without those that equal an earlier one. -/
def distinct (seen : List Link) : List Link → List Link
  | [] => []
  | link :: rest =>
    if seen.any link.same then distinct seen rest else link :: distinct (link :: seen) rest

/-- The links to the node of a task, one for each dependency that names a node. -/
def into (placed : List PlacedTask) (task : PlacedTask) : List Link :=
  task.sketch.outline.dependencies.filterMap fun dependency =>
    (PlacedTask.nodeId? placed dependency).map fun source => ⟨source, task.node.id⟩

/-- The links among placed tasks, in the order of the plan. -/
def among (placed : List PlacedTask) (count : Nat) : List Link :=
  (PlacedTask.inPlanOrder placed count).flatMap (into placed)

/-- The links that become edges: no loops and no repetitions. -/
def kept (links : List Link) : Except Fault (List Link) :=
  let proper := links.filter (!·.isLoop)
  if proper.all isKeyable then .ok (distinct [] proper) else .error .unkeyable

/-- The type of an edge. -/
def edgeType : String := "default"

/-- Draws an edge for each link. -/
def drawEdges : List Link → Minting (List Edge)
  | [] => pure []
  | link :: rest => do
    let id ← Supply.draw
    let edge : Edge := ⟨.str ("edge-" ++ id), link.source, link.target, .str edgeType⟩
    pure (edge :: (← drawEdges rest))

end Link

end PlanGraph
