import PlanGraph.Plan.Basic
import PlanGraph.Supply

/-!
# Outlines of tasks

Compiling asks less of a plan than reading it does. Of each entry of its list of tasks it takes an
outline, in which whatever has the wrong shape counts as absent, so that every entry becomes a node.
A task without an id gets a fresh one.
-/

namespace PlanGraph

/-! ## Outlines -/

/-- What compiling reads of a task. -/
structure Outline where
  /-- The id, empty where the task has none of use. -/
  id : String
  /-- The title. -/
  title : String
  /-- The prompt. -/
  prompt : String
  /-- The ids of the tasks that it depends on. -/
  dependencies : List String
  /-- The ids or keys of its toolsets. -/
  toolsets : List String
deriving DecidableEq

namespace Outline

/-- The text that a value is, or the empty text. -/
def textOf (value : Option Json) : String :=
  (value >>= Json.text?).getD ""

/-- The texts among the items of a value. -/
def textsOf : Option Json → List String
  | some (.arr items) => items.filterMap Json.text?
  | _ => []

/-- The outline of an entry of a list of tasks. -/
def ofJson (entry : Json) : Outline where
  id := textOf (entry.get? "id")
  title := textOf (entry.get? "title")
  prompt := textOf (entry.get? "prompt")
  dependencies := textsOf
    (match entry with
      | .obj members => (Key.dependentTasks.find? members).map Prod.snd
      | _ => none)
  toolsets := textsOf (entry.get? "toolsets")

/-- The outline of a task. -/
def ofTask (task : Task) : Outline where
  id := task.id
  title := task.title
  prompt := task.prompt
  dependencies := task.dependencies
  toolsets := task.toolsets

/-- The outline with an id: its own, or a fresh one. -/
def identify (outline : Outline) : Minting Outline :=
  if outline.id = "" then do
    pure { outline with id := "task-" ++ (← Supply.draw) }
  else pure outline

/-- The outlines with an id each, in order. -/
def identifyAll : List Outline → Minting (List Outline)
  | [] => pure []
  | outline :: rest => do
    let first ← outline.identify
    pure (first :: (← identifyAll rest))

end Outline

/-! ## Outlines of a plan -/

namespace PlanInput

/-- The outlines of the tasks of a plan, in the order of the plan. -/
def outlines : PlanInput → List Outline
  | parsed plan => plan.tasks.map Outline.ofTask
  | raw value => (value.itemsOf "tasks").map Outline.ofJson

end PlanInput

end PlanGraph
