import PlanGraph.Failure

/-!
# Tasks

A task is one unit of work of a plan. Plans come from partly generated text, so a task forgives what
is absent: a missing or null id, title or prompt is empty, and a missing or null list of toolsets
has no entries. A list of dependencies may be absent, which is not the same as an empty one.
-/

namespace PlanGraph

/-- One unit of work. -/
structure Task where
  /-- The symbol that the author of the plan chose for the task. -/
  id : String
  /-- The title that is displayed. -/
  title : String
  /-- The instruction, which may mention other tasks. -/
  prompt : String
  /-- The ids of the tasks that must be completed first. -/
  dependentTasks : Option (List String)
  /-- The ids or keys of the toolsets that the task may use. -/
  toolsets : List String
deriving DecidableEq

/-- The key of the dependencies. -/
def Key.dependentTasks : Key := ⟨"dependentTasks", "dependent_tasks"⟩

namespace Task

/-! ## Reading -/

/-- A text that may be null for an empty one. -/
def checkBlankable : Json → Checked String :=
  Json.checkOr "" Json.checkText

/-- A list of texts. -/
def checkTexts : Json → Checked (List String) :=
  Json.checkItems Json.checkText

/-- Checks the members of a task. -/
def checkMembers (members : List (String × Json)) : Checked Task :=
  Task.mk
    <$> Key.optional (.word "id") "" checkBlankable members
    <*> Key.optional (.word "title") "" checkBlankable members
    <*> Key.optional (.word "prompt") "" checkBlankable members
    <*> Key.optional .dependentTasks none (Json.checkNullable checkTexts) members
    <*> Key.optional (.word "toolsets") [] (Json.checkOr [] checkTexts) members

/-- Checks a task. -/
def check : Json → Checked Task :=
  Json.checkRecord "WorkflowTask" checkMembers

/-- Reads a task on its own. -/
def ofJson (value : Json) : Except Failure Task :=
  (check value).orFail "Task"

/-! ## Writing -/

/-- The dependencies, none where the list is absent. -/
def dependencies (task : Task) : List String :=
  task.dependentTasks.getD []

/-- A task as a value; absent dependencies are left out. -/
def dump (task : Task) : Json :=
  .obj ([("id", .str task.id), ("title", .str task.title), ("prompt", .str task.prompt)] ++
    Json.memberIf "dependentTasks" (task.dependentTasks.map Json.ofStrings) ++
    [("toolsets", .ofStrings task.toolsets)])

end Task

end PlanGraph
