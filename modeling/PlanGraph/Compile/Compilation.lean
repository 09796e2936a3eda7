import PlanGraph.Compile.Inputs
import PlanGraph.Compile.Links
import PlanGraph.Partition

/-!
# Compiling plans

A plan becomes a canvas with one node for each task, one edge for each dependency and one input for
each variable. First every task has an id and an entity id, so that prompts may mention tasks in
any order. Then the nodes are placed one after another, tasks without dependencies first, and each
is shown to the layout together with those before it. The edges come last.
-/

namespace PlanGraph

/-- What compiling a plan gives. -/
structure Compilation where
  /-- The canvas. -/
  canvas : Canvas
  /-- What the layout was asked, in order. -/
  requests : List Placing

namespace Compilation

/-- Nothing compiled. -/
def empty : Compilation := ⟨Canvas.empty, []⟩

/-- The outlines in the order in which they become nodes, each with its place in the plan. -/
def ordered (outlines : List Outline) : List (Outline × Nat) :=
  processingOrder (fun entry => entry.1.dependencies) outlines.zipIdx

/-- The sketches of outlines that were given entity ids. -/
def sketches (entries : List (Outline × Nat)) (entityIds : List String) : List Sketch :=
  entries.zipWith (fun entry entityId => ⟨entry.1, entry.2, entityId⟩) entityIds

/-- Places sketches one after another, the first with the given number and with the given nodes on
the canvas. -/
def place (layout : Layout) (setting : Setting) (nodes : List Node) (index : Nat) :
    List Sketch → Making (List PlacedTask)
  | [] => pure []
  | sketch :: rest => do
    let request := sketch.request setting nodes index
    let node ← layout index request
    let more ← place layout setting (nodes ++ [node]) (index + 1) rest
    pure (⟨sketch, request, node⟩ :: more)

/-- Compiles a list of tasks that is not empty. -/
def ofOutlines (layout : Layout) (outlines : List Outline) (inputs : List Json)
    (toolsets : ToolsetSource) (options : CompileOptions) : Making Compilation := do
  let outlines ← (Outline.identifyAll outlines : Minting _)
  let entries := ordered outlines
  let assignment ← (assignEntityIds (entries.map (·.1.id)) : Minting _)
  let toolsets ← Making.ofExcept toolsets.entries
  let start ← Making.ofExcept (Node.listOfJson options.startNodes)
  let setting : Setting :=
    ⟨assignment.symbols, toolsets, options.defaultModel, options.autoLayout⟩
  let placed ← place layout setting start 0 (sketches entries assignment.entityIds)
  let links ← Making.ofExcept (Link.kept (Link.among placed outlines.length))
  let edges ← (Link.drawEdges links : Minting _)
  pure ⟨⟨placed.map PlacedTask.node, edges, inputs⟩, placed.map PlacedTask.request⟩

/-- Compiles a plan with a layout. Without tasks there is nothing to compile. -/
def ofPlan (layout : Layout) (input : PlanInput) (toolsets : ToolsetSource)
    (options : CompileOptions) : Making Compilation :=
  match input.outlines with
  | [] => pure empty
  | outlines => ofOutlines layout outlines input.canvasInputs toolsets options

end Compilation

/-- Compiles a plan onto the grid. -/
def compile (input : PlanInput) (toolsets : ToolsetSource) (options : CompileOptions) :
    Making Canvas := do
  let compilation ← Compilation.ofPlan Grid.layout input toolsets options
  pure compilation.canvas

end PlanGraph
