import PlanGraph.Plan.Basic
import PlanGraph.Text.Preview

/-!
# Summaries

A summary shows the structure of a plan with a preview of each prompt. An author who has changed a
plan over many turns finds in it the ids that a correct patch needs.
-/

namespace PlanGraph

/-- How long previews are unless it is said otherwise. -/
def defaultPromptChars : Int := 100

/-- A prompt, cut if it is longer than a number of characters. -/
def promptPreview (promptChars : Int) (prompt : String) : String :=
  String.ofList (Text.preview promptChars prompt.toList)

/-- The number of characters that a value sets as the limit of previews, where the longest prompt
has the given length. What is no whole number sets a limit only if it cuts no prompt. -/
def previewLimit (longest : Nat) (value : Json) : Except Fault Int :=
  match value with
  | .int n => .ok n
  | .bool b => .ok (if b then 1 else 0)
  | _ =>
    let order := value.number? >>= fun limit => limit.compare? (.whole longest)
    if longest = 0 || order = some .gt || order = some .eq then .ok longest
    else .error .notNumber

/-- The summary of a task. -/
def Task.summary (promptChars : Int) (task : Task) : Json :=
  .obj [("id", .str task.id), ("title", .str task.title),
    ("dependentTasks", .ofStrings task.dependencies), ("toolsets", .ofStrings task.toolsets),
    ("prompt", .str (promptPreview promptChars task.prompt))]

/-- The summary of a variable. -/
def Variable.summary (input : Variable) : Json :=
  .obj [("variableId", .str input.variableId), ("name", .str input.name),
    ("variableType", .str input.variableType.name), ("required", .bool input.required)]

namespace Plan

/-- The length of the longest prompt. -/
def longestPrompt (plan : Plan) : Nat :=
  (plan.tasks.map fun task => task.prompt.length).foldl max 0

/-- The summary of a plan. The id of the plan is left out unless it counts as true. -/
def summary (promptChars : Int) (planId : Json) (plan : Plan) : Json :=
  .obj ((if planId.truthy then [("planId", planId)] else []) ++
    [("title", plan.title), ("taskCount", .ofNat plan.tasks.length),
      ("variableCount", .ofNat plan.inputs.length),
      ("tasks", .arr (plan.tasks.map (Task.summary promptChars))),
      ("variables", .arr (plan.inputs.map Variable.summary))])

end Plan

/-- The summary of a plan as given, if it can be loaded and the value for the length of previews
sets a limit. -/
def summarize (input : PlanInput) (promptChars planId : Json) : Except Halt Json := do
  let plan ← input.load.mapError Halt.failure
  let limit ← (previewLimit plan.longestPrompt promptChars).mapError Halt.fault
  pure (plan.summary limit planId)

end PlanGraph
