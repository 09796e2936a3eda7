/-!
# Order of processing

Tasks that depend on nothing are processed before the others, and tasks of one kind keep their
order. This is a split into two and no sorting by dependency: dependencies become edges in a later
pass, when every task has its node.
-/

namespace PlanGraph

variable {α β : Type}

/-- A task that depends on nothing. -/
def isRoot (dependenciesOf : α → List β) (task : α) : Bool :=
  (dependenciesOf task).isEmpty

/-- The tasks that depend on nothing, and the others. -/
def partitionTasks (dependenciesOf : α → List β) (tasks : List α) : List α × List α :=
  (tasks.filter (isRoot dependenciesOf), tasks.filter fun task => !isRoot dependenciesOf task)

/-- The order in which tasks are processed. -/
def processingOrder (dependenciesOf : α → List β) (tasks : List α) : List α :=
  (partitionTasks dependenciesOf tasks).1 ++ (partitionTasks dependenciesOf tasks).2

/-- No task is lost or repeated. -/
theorem processingOrder_perm (dependenciesOf : α → List β) (tasks : List α) :
    (processingOrder dependenciesOf tasks).Perm tasks := by
  simpa [processingOrder, partitionTasks] using
    List.filter_append_perm (isRoot dependenciesOf) tasks

end PlanGraph
