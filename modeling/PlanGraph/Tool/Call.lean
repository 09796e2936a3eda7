import PlanGraph.Compile.Compilation
import PlanGraph.Patch.Envelope
import PlanGraph.Patch.Apply
import PlanGraph.Patch.Script
import PlanGraph.Settings
import PlanGraph.Tool.Arguments
import PlanGraph.Tool.Result

/-!
# Calls of tools

Each tool unpacks its arguments, does one piece of work on a plan and packs the result. A failure
becomes part of the result; a fault ends the call.
-/

namespace PlanGraph

namespace ToolResult

/-- The result of work that may have been halted. -/
def ofHalting : Except Halt ToolResult → Except Fault ToolResult
  | .ok result => .ok result
  | .error (.failure failure) => .ok (ofFailure failure)
  | .error (.fault fault) => .error fault

end ToolResult

namespace Tool

/-- The counts of the tasks and variables of a plan. -/
def planFacts (plan : Plan) : List (String × Nat) :=
  [("task_count", plan.tasks.length), ("variable_count", plan.inputs.length)]

/-- The counts of the tasks and variables of a plan, in words. -/
def planCounts (plan : Plan) : String :=
  toString plan.tasks.length ++ " tasks, " ++ toString plan.inputs.length ++ " variables"

/-- The plan that is given as an argument. -/
def planArgument (arguments : Arguments) : Except Halt Json :=
  Json.ofArgument "plan" (arguments.value "plan")

/-! ## Validating -/

/-- Validates a plan. -/
def runValidate (arguments : Arguments) : Except Halt ToolResult := do
  let value ← planArgument arguments
  let plan ← (Plan.ofJson value).mapError Halt.failure
  let plan := plan.normalize
  pure (.done ("Plan is valid: " ++ planCounts plan) plan.dump (planFacts plan) none)

/-! ## Compiling -/

/-- The toolsets that are given as an argument: null or an array. -/
def toolsetsArgument (arguments : Arguments) : Except Halt Json := do
  match ← Json.ofArgument "toolsets" (arguments.value "toolsets") with
  | .null => pure .null
  | .arr items => pure (.arr items)
  | _ => throw (.failure (Json.argumentFailure "toolsets" .notToolsetList))

/-- The options of a call: the settings decide on the layout unless the call does. -/
def compileOptions (settings : Settings) (arguments : Arguments) : CompileOptions :=
  { CompileOptions.standard with
    autoLayout := match arguments.value "auto_layout" with
      | .null => settings.autoLayout
      | value => value.truthy }

/-- The result of compiling. -/
def compiled (canvas : Canvas) : ToolResult :=
  .done
    ("Compiled " ++ toString canvas.nodes.length ++ " nodes, " ++
      toString canvas.edges.length ++ " edges, " ++ toString canvas.inputs.length ++
      " variables")
    canvas.toJson
    [("node_count", canvas.nodes.length), ("edge_count", canvas.edges.length),
      ("variable_count", canvas.inputs.length)]
    (some (.obj [("node_ids", .arr (canvas.nodes.map Node.id))]))

/-- The plan and the toolsets of a call. -/
def compileInputs (arguments : Arguments) : Except Halt (Json × Json) := do
  let plan ← planArgument arguments
  pure (plan, ← toolsetsArgument arguments)

/-- Compiles a plan. -/
def runCompile (settings : Settings) (arguments : Arguments) : Making ToolResult := do
  match compileInputs arguments with
  | .ok (plan, toolsets) =>
    let canvas ← PlanGraph.compile (.raw plan) (.raw toolsets) (compileOptions settings arguments)
    pure (compiled canvas)
  | .error halt => Making.ofExcept (ToolResult.ofHalting (.error halt))

/-! ## Patching -/

/-- The operations that are given as an argument: a script, or the list of an envelope. -/
def operationsArgument (arguments : Arguments) : Except Halt (List Operation) :=
  match arguments.value "operations" with
  | .str script =>
    match Operation.ofScript script with
    | .ok operations => .ok operations
    | .error (.halt halt) => .error halt
    | .error fault =>
      .error (.failure (Json.argumentFailure "operations" (.stated fault.message)))
  | value =>
    ((Envelope.ofJson (.obj
        [("planId", arguments.value "plan_id"), ("operations", value)])).map
      Envelope.operations).mapError Halt.failure

/-- The reference to a plan with an id. -/
def planReference (planId : Json) : Option Json :=
  if planId.truthy then some (.obj [("plan_id", planId)]) else none

/-- The result of a patch with a number of operations. -/
def patched (count : Nat) (planId : Json) : PatchResult → ToolResult
  | .refused error failure => .failed error failure
  | .applied plan log =>
    .done
      ("Applied " ++ toString count ++ " operation(s)\n" ++ (PatchResult.applied plan log).diff)
      plan.dump (("operation_count", count) :: planFacts plan) (planReference planId)

/-- Applies a patch to a plan. -/
def runPatch (arguments : Arguments) : Except Halt ToolResult := do
  let plan ← planArgument arguments
  let operations ← operationsArgument arguments
  let result ← (applyPatch (.raw plan) (operations.map .ready)).mapError Halt.fault
  pure (patched operations.length (arguments.value "plan_id") result)

/-! ## Summarizing -/

/-- Summarizes a plan. -/
def runSummarize (settings : Settings) (arguments : Arguments) : Except Halt ToolResult := do
  let value ← planArgument arguments
  let plan ← (Plan.ofJson value).mapError Halt.failure
  pure (.done ("Plan '" ++ plan.title.display ++ "': " ++ planCounts plan)
    (plan.summary settings.promptChars (arguments.value "plan_id")) (planFacts plan) none)

/-! ## All tools -/

/-- Runs a tool on arguments that it accepts. -/
def run (settings : Settings) (arguments : Arguments) : Tool → Making ToolResult
  | validate => Making.ofExcept (ToolResult.ofHalting (runValidate arguments))
  | compile => runCompile settings arguments
  | patch => Making.ofExcept (ToolResult.ofHalting (runPatch arguments))
  | summarize => Making.ofExcept (ToolResult.ofHalting (runSummarize settings arguments))

/-- Calls a tool. -/
def call (settings : Settings) (tool : Tool) (arguments : Arguments) : Making ToolResult :=
  match tool.callFault? arguments with
  | some fault => throw fault
  | none => tool.run settings arguments

/-- Calls the tool of a name. -/
def callNamed (settings : Settings) (name : String) (arguments : Arguments) :
    Making ToolResult :=
  match ofName? name with
  | some tool => tool.call settings arguments
  | none => throw (.unknownTool name)

end Tool

end PlanGraph
