import PlanGraph.Proofs.Compile.Totality
import PlanGraph.Proofs.Patch.Run
import PlanGraph.Tool.Call

/-!
# Results of tools

A tool that is given arguments it takes always has a result, and the parts of the result agree with
each other (`Tool.exists_result`). Work that was done reports no error, and its counts are those of
the lists that it hands over (`ToolResult.Reports`); work that was refused hands over nothing, and
its error says the same on every level of detail (`ToolResult.Refuses`).

The work of a tool is a sequence of steps each of which is done or refused (`Faultless`). The one
step that may be cut off is the reading of a text with an integer that is too long for the reader
(`Json.Decodable`).
-/

namespace PlanGraph

/-! ## Work that is done or refused -/

/-- Work that is done or refused, and not cut off. -/
def Faultless {α : Type} (work : Except Halt α) : Prop :=
  ∀ fault, work ≠ .error (.fault fault)

namespace Faultless

variable {α β : Type}

theorem ok (a : α) : Faultless (.ok a) := nofun

theorem failure (failure : Failure) : Faultless (.error (.failure failure) : Except Halt α) :=
  nofun

/-- What may be refused only is not cut off. -/
theorem mapError (work : Except Failure α) : Faultless (work.mapError Halt.failure) := by
  intro fault ends
  obtain ⟨failure, -, same⟩ := mapError_eq_error_iff.mp ends
  cases same

/-- Two steps are not cut off when neither of them is. -/
theorem bind {work : Except Halt α} {next : α → Except Halt β} (first : Faultless work)
    (second : ∀ a, work = .ok a → Faultless (next a)) : Faultless (work >>= next) := by
  intro fault ends
  rcases bind_eq_error_iff.mp ends with here | ⟨a, done, later⟩
  · exact first fault here
  · exact second a done fault later

end Faultless

/-! ## Failures -/

namespace Refusal

/-- The names of the kinds of refusals. -/
def kinds : List String := ["PlanValidationError", "NotFoundError", "DuplicateError"]

theorem kind_mem_kinds (refusal : Refusal) : refusal.kind ∈ kinds := by
  cases refusal with
  | invalid => exact List.mem_cons_self
  | absent => exact List.mem_cons_of_mem _ List.mem_cons_self
  | taken => exact List.mem_cons_of_mem _ (List.mem_cons_of_mem _ List.mem_cons_self)

/-- A refusal has a wording. -/
theorem message_ne_empty (refusal : Refusal) : refusal.message ≠ "" := by
  intro empty
  have length := congrArg String.length empty
  cases refusal with
  | invalid => simp [message, issueReport, String.length_append] at length
  | absent => simp [message, String.length_append] at length
  | taken => simp [message, String.length_append] at length

end Refusal

/-- A failure as a value begins with its kind. -/
theorem Failure.type_toJson (failure : Failure) :
    failure.toJson.get? "type" = some (.str failure.kind) := by
  unfold toJson
  split <;> rfl

/-- The error of a patch that was refused has a wording. -/
theorem PatchResult.message_ne_empty_of_refused {input : PlanInput} {steps : List PatchStep}
    {error : String} {failure : Failure}
    (h : applyPatch input steps = .ok (.refused error failure)) : error ≠ "" := by
  unfold applyPatch at h
  split at h
  · cases h
    exact failure.refusal.message_ne_empty
  · rename_i plan _
    rcases run : plan.runSteps 0 [] steps with (found | fault) | ⟨final, log⟩
    all_goals
      rw [run] at h
      cases h
    intro empty
    have length := congrArg String.length empty
    simp [runError, String.length_append] at length

/-! ## Results that agree with themselves -/

/-- The counts among the facts of a tool, each with the list in the data that it counts. -/
def Tool.counts : Tool → List (String × String)
  | .compile => [("node_count", "nodes"), ("edge_count", "edges"), ("variable_count", "variables")]
  | _ => [("task_count", "tasks"), ("variable_count", "variables")]

namespace ToolResult

/-- What a result says of work that a tool has done. -/
structure Reports (tool : Tool) (result : ToolResult) : Prop where
  /-- There is no error. -/
  error : result.error = .null
  /-- Each count is the length of its list. -/
  counts : ∀ fact list, (fact, list) ∈ tool.counts → ∃ items,
    result.data.get? list = some (.arr items) ∧
      result.facts.get? fact = some (.ofNat items.length)
  /-- After compiling, the ids of the nodes are listed in their order. -/
  nodeIds : tool = .compile → ∃ nodes ids, result.data.get? "nodes" = some (.arr nodes) ∧
    result.artifacts = .obj [("node_ids", .arr ids)] ∧
    List.Forall₂ (fun node id => node.get? "id" = some id) nodes ids

/-- What a result says of work that was refused. -/
structure Refuses (result : ToolResult) : Prop where
  /-- Nothing is handed over. -/
  data : result.data = .null
  /-- Nothing is referred to. -/
  artifacts : result.artifacts = .null
  /-- Nothing was counted. -/
  facts : result.facts = .obj []
  /-- The error is of one of the known kinds, in short and in detail, and the first line of its
  message is what the agent is told first. -/
  error : ∃ kind ∈ Refusal.kinds, ∃ message detail line,
    result.error = .obj [("type", .str kind), ("message", .str message), ("detail", detail)] ∧
    detail.get? "type" = some (.str kind) ∧
    (Text.lines message.toList).head? = some line ∧
    result.summary = "Failed: " ++ String.ofList line

/-- The parts of a result of a tool agree with each other. -/
structure Consistent (tool : Tool) (result : ToolResult) : Prop where
  /-- Work that was done is reported. -/
  done : result.ok = true → result.Reports tool
  /-- Work that was not done was refused. -/
  failed : result.ok = false → result.Refuses

variable {tool : Tool} {summary message : String} {data : Json} {facts : List (String × Nat)}
  {artifacts : Option Json}

/-- A failure with a message makes a consistent result. -/
theorem consistent_failed (failure : Failure) (filled : message ≠ "") :
    (ToolResult.failed message failure).Consistent tool where
  done := nofun
  failed _ := {
    data := rfl
    artifacts := rfl
    facts := rfl
    error := by
      have nonempty : message.toList ≠ [] := fun empty =>
        filled (String.toList_inj.mp empty)
      exact ⟨failure.kind, failure.refusal.kind_mem_kinds, message, failure.toJson,
        Text.firstLine message.toList, rfl, failure.type_toJson,
        Text.lines_head?_eq_firstLine nonempty, rfl⟩ }

/-- A failure makes a consistent result. -/
theorem consistent_ofFailure (failure : Failure) : (ofFailure failure).Consistent tool :=
  consistent_failed failure failure.refusal.message_ne_empty

/-- Work on a plan that counts its tasks and its variables makes a consistent result. -/
theorem consistent_of_plan (plan : Plan) (compiles : tool ≠ .compile) {tasks inputs : List Json}
    (listed : data.get? "tasks" = some (.arr tasks))
    (described : data.get? "variables" = some (.arr inputs))
    (sameTasks : tasks.length = plan.tasks.length)
    (sameInputs : inputs.length = plan.inputs.length)
    (counted : (done summary data facts artifacts).facts.get? "task_count" =
      some (.ofNat plan.tasks.length))
    (countedInputs : (done summary data facts artifacts).facts.get? "variable_count" =
      some (.ofNat plan.inputs.length)) :
    (done summary data facts artifacts).Consistent tool where
  done _ := {
    error := rfl
    counts := by
      have known : tool.counts = [("task_count", "tasks"), ("variable_count", "variables")] := by
        cases tool <;> first | rfl | exact absurd rfl compiles
      rw [known]
      intro fact list here
      simp only [List.mem_cons, Prod.mk.injEq, List.not_mem_nil, or_false] at here
      rcases here with ⟨rfl, rfl⟩ | ⟨rfl, rfl⟩
      · exact ⟨tasks, listed, sameTasks ▸ counted⟩
      · exact ⟨inputs, described, sameInputs ▸ countedInputs⟩
    nodeIds := fun isCompile => absurd isCompile compiles }
  failed := nofun

end ToolResult

/-! ## Arguments -/

namespace Json

/-- The text is a value or is malformed; it is not cut off by an integer that is too long. -/
def Decodable (text : String) : Prop :=
  ∀ fault, read text = .error fault → ∀ digits, fault.flaw ≠ .oversizedInteger digits

/-- An argument is read or refused. -/
theorem faultless_ofArgument {name : String} {value : Json}
    (decodable : ∀ text, value = .str text → Decodable text) :
    Faultless (ofArgument name value) := by
  cases value with
  | str text =>
      intro fault ends
      rcases unread : read text with found | value
      · simp only [ofArgument, unread] at ends
        split at ends
        · rename_i digits long
          exact decodable text rfl found unread digits long
        · cases ends
      · simp only [ofArgument, unread] at ends
        cases ends
  | _ => exact Faultless.ok _

end Json

namespace Tool

/-- The names of the arguments that may be given as texts of JSON. -/
def decodedNames : List String := ["plan", "toolsets"]

section

variable {arguments : Arguments}
  (decodable : ∀ name ∈ decodedNames, ∀ text, arguments.value name = .str text →
    Json.Decodable text)

include decodable

theorem faultless_planArgument : Faultless (planArgument arguments) :=
  Json.faultless_ofArgument (decodable "plan" List.mem_cons_self)

theorem faultless_toolsetsArgument : Faultless (toolsetsArgument arguments) := by
  refine .bind (Json.faultless_ofArgument (decodable "toolsets" ?_)) ?_
  · exact List.mem_cons_of_mem _ List.mem_cons_self
  · intro value _
    split
    · exact .ok _
    · exact .ok _
    · exact .failure _

end

/-- The toolsets of a call are a list, or none. -/
theorem eq_elim_of_toolsetsArgument {arguments : Arguments} {toolsets : Json}
    (h : toolsetsArgument arguments = .ok toolsets) :
    ∃ offered : Option (List Json), toolsets = offered.elim .null .arr := by
  obtain ⟨value, -, taken⟩ := bind_eq_ok_iff.mp h
  split at taken
  · cases taken
    exact ⟨none, rfl⟩
  · rename_i items
    cases taken
    exact ⟨some items, rfl⟩
  · cases taken

/-- Operations that are not given as a script are read or refused. -/
theorem faultless_operationsArgument {arguments : Arguments}
    (plain : ∀ script, arguments.value "operations" ≠ .str script) :
    Faultless (operationsArgument arguments) := by
  unfold operationsArgument
  split
  · rename_i script given
    exact absurd given (plain script)
  · exact .mapError _

/-! ## The four tools -/

variable {settings : Settings} {arguments : Arguments} {result : ToolResult}

/-- A plan that was validated is handed over with its counts. -/
theorem consistent_of_runValidate (h : runValidate arguments = .ok result) :
    result.Consistent validate := by
  obtain ⟨value, -, rest⟩ := bind_eq_ok_iff.mp h
  obtain ⟨plan, -, made⟩ := bind_eq_ok_iff.mp rest
  cases made
  exact ToolResult.consistent_of_plan plan.normalize (by decide) rfl rfl
    (List.length_map _) (List.length_map _) rfl rfl

/-- A plan that was summarized is handed over with its counts. -/
theorem consistent_of_runSummarize (h : runSummarize settings arguments = .ok result) :
    result.Consistent summarize := by
  obtain ⟨value, -, rest⟩ := bind_eq_ok_iff.mp h
  obtain ⟨plan, -, made⟩ := bind_eq_ok_iff.mp rest
  cases made
  have member (name : String) (other : name ≠ "planId") :
      (plan.summary settings.promptChars (arguments.value "plan_id")).get? name =
        (plan.summary settings.promptChars .null).get? name := by
    unfold Plan.summary
    split
    · have skipped : (name == "planId") = false := by simpa using other
      simp [Json.get?, Json.member?, List.lookup_cons, skipped, Json.truthy]
    · rfl
  exact ToolResult.consistent_of_plan plan (by decide)
    (member "tasks" (by decide)) (member "variables" (by decide))
    (List.length_map _) (List.length_map _) rfl rfl

/-- A patch is handed over with the counts of the plan that came of it, or refused. -/
theorem consistent_patched {count : Nat} {planId : Json} {found : PatchResult}
    (worded : ∀ error failure, found = .refused error failure → error ≠ "") :
    (patched count planId found).Consistent patch := by
  cases found with
  | refused error failure =>
      exact ToolResult.consistent_failed failure (worded error failure rfl)
  | applied plan log =>
      exact ToolResult.consistent_of_plan plan (by decide) rfl rfl
        (List.length_map _) (List.length_map _) rfl rfl

theorem consistent_of_runPatch (h : runPatch arguments = .ok result) :
    result.Consistent patch := by
  obtain ⟨plan, -, rest⟩ := bind_eq_ok_iff.mp h
  obtain ⟨operations, -, rest⟩ := bind_eq_ok_iff.mp rest
  obtain ⟨found, applied, made⟩ := bind_eq_ok_iff.mp rest
  cases made
  refine consistent_patched fun error failure refused => ?_
  rw [refused] at applied
  exact PatchResult.message_ne_empty_of_refused (mapError_eq_ok_iff.mp applied)

/-- Operations that were read before do not cut a patch off. -/
theorem faultless_applyPatch (input : PlanInput) (operations : List Operation) :
    Faultless ((applyPatch input (operations.map .ready)).mapError Halt.fault) := by
  have readable : ∀ step ∈ operations.map PatchStep.ready, ∀ fault,
      step.operation ≠ .error (.fault fault) := by
    intro step listed fault
    obtain ⟨operation, -, rfl⟩ := List.mem_map.mp listed
    exact Faultless.ok operation fault
  obtain ⟨result, applied⟩ := applyPatch_returns readable input
  rw [applied]
  exact Faultless.ok result

/-- A canvas is handed over with its counts and the ids of its nodes. -/
theorem consistent_compiled (canvas : Canvas) : (compiled canvas).Consistent compile where
  done _ := {
    error := rfl
    counts := by
      intro fact list here
      simp only [counts, List.mem_cons, Prod.mk.injEq, List.not_mem_nil, or_false] at here
      rcases here with ⟨rfl, rfl⟩ | ⟨rfl, rfl⟩ | ⟨rfl, rfl⟩
      · exact ⟨canvas.nodes.map Node.toJson, rfl, by rw [List.length_map]; rfl⟩
      · exact ⟨canvas.edges.map Edge.toJson, rfl, by rw [List.length_map]; rfl⟩
      · exact ⟨canvas.inputs, rfl, rfl⟩
    nodeIds := by
      intro _
      refine ⟨canvas.nodes.map Node.toJson, canvas.nodes.map Node.id, rfl, rfl, ?_⟩
      rw [List.forall₂_map_left_iff, List.forall₂_map_right_iff, List.forall₂_same]
      exact fun _ _ => rfl }
  failed := nofun

/-- Work that is done or refused has a result, which is consistent if the work makes it so. -/
theorem exists_consistent {tool : Tool} {work : Except Halt ToolResult} (supply : Supply)
    (faultless : Faultless work)
    (consistent : ∀ result, work = .ok result → result.Consistent tool) :
    ∃ result rest, (Making.ofExcept (ToolResult.ofHalting work)).Returns supply result rest ∧
      result.Consistent tool := by
  simp only [Making.returns_ofExcept_iff]
  rcases work with (failure | fault) | result
  · exact ⟨_, _, ⟨rfl, rfl⟩, ToolResult.consistent_ofFailure failure⟩
  · exact absurd rfl (faultless fault)
  · exact ⟨_, _, ⟨rfl, rfl⟩, consistent result rfl⟩

/-- Compiling has a result, which is consistent. -/
theorem exists_consistent_compile (settings : Settings) (supply : Supply)
    (decodable : ∀ name ∈ decodedNames, ∀ text, arguments.value name = .str text →
      Json.Decodable text) :
    ∃ result rest, (runCompile settings arguments).Returns supply result rest ∧
      result.Consistent compile := by
  have readable : Faultless (compileInputs arguments) := by
    refine .bind (faultless_planArgument decodable) fun plan _ => ?_
    exact .bind (faultless_toolsetsArgument decodable) fun toolsets _ => .ok _
  unfold runCompile
  rcases inputs : compileInputs arguments with halt | ⟨plan, toolsets⟩
  · rw [inputs] at readable
    rcases halt with failure | fault
    · exact exists_consistent supply (.failure failure) nofun
    · exact absurd rfl (readable fault)
  · obtain ⟨found, -, rest⟩ := bind_eq_ok_iff.mp inputs
    obtain ⟨offered, given, made⟩ := bind_eq_ok_iff.mp rest
    cases made
    obtain ⟨listed, rfl⟩ := eq_elim_of_toolsetsArgument given
    obtain ⟨entries, known⟩ := Compilation.exists_entries listed
    have bare : (compileOptions settings arguments).startNodes = .arr [] := rfl
    obtain ⟨canvas, after, returned⟩ := exists_canvas known bare (.raw plan) supply
    refine ⟨compiled canvas, after, ?_, consistent_compiled canvas⟩
    exact Making.returns_bind_iff.mpr
      ⟨canvas, after, returned, Making.returns_pure_iff.mpr ⟨rfl, rfl⟩⟩

/-- A tool that is run has a result, which is consistent. -/
theorem exists_consistent_run (settings : Settings) (tool : Tool) (supply : Supply)
    (decodable : ∀ name ∈ decodedNames, ∀ text, arguments.value name = .str text →
      Json.Decodable text)
    (plain : tool = patch → ∀ script, arguments.value "operations" ≠ .str script) :
    ∃ result rest, (tool.run settings arguments).Returns supply result rest ∧
      result.Consistent tool := by
  have readable := faultless_planArgument decodable
  cases tool with
  | validate =>
      refine exists_consistent supply ?_ fun _ => consistent_of_runValidate
      exact readable.bind fun value _ => .bind (.mapError _) fun plan _ => .ok _
  | compile => exact exists_consistent_compile settings supply decodable
  | patch =>
      refine exists_consistent supply ?_ fun _ => consistent_of_runPatch
      refine readable.bind fun value _ => .bind (faultless_operationsArgument (plain rfl)) ?_
      exact fun operations _ => .bind (faultless_applyPatch _ operations) fun result _ => .ok _
  | summarize =>
      refine exists_consistent supply ?_ fun _ => consistent_of_runSummarize
      exact readable.bind fun value _ => .bind (.mapError _) fun plan _ => .ok _

/-- **Tools always answer.** Whatever values a tool is given for the arguments it takes, it has a
result whose parts agree with each other, provided that texts which stand for values are read or
malformed and that the operations of a patch are not given as a script. -/
theorem exists_result (settings : Settings) (tool : Tool) (arguments : Arguments) (supply : Supply)
    (taken : tool.callFault? arguments = none)
    (decodable : ∀ name ∈ decodedNames, ∀ text, arguments.value name = .str text →
      Json.Decodable text)
    (plain : tool = patch → ∀ script, arguments.value "operations" ≠ .str script) :
    ∃ result rest, (tool.call settings arguments).Returns supply result rest ∧
      result.Consistent tool := by
  rw [call, taken]
  exact exists_consistent_run settings tool supply decodable plain

/-- A list with a task that is null is compiled, with the toolsets given as a text. The canvas has
one node, with a title and a query that are empty. -/
theorem exists_result_of_null_task :
    let arguments : Arguments :=
      [("plan", .obj [("tasks", .arr [.null])]), ("toolsets", .str "[]")]
    let node : Node := ⟨.str "node-00000000000000000000000000000003", .str "skillResponse",
      .obj [("title", .str ""), ("editedTitle", .str ""),
        ("entityId", .str "ar-00000000000000000000000000000002"), ("contentPreview", .str ""),
        ("metadata", .obj [("query", .str ""), ("selectedToolsets", .arr []),
          ("contextItems", .arr []), ("status", .str "init"), ("modelInfo", .null)])],
      some (.obj [("x", .int 0), ("y", .int 0)]), false⟩
    let canvas : Json :=
      .obj [("nodes", .arr [node.toJson]), ("edges", .arr []), ("variables", .arr [])]
    let counts : Json :=
      .obj [("node_count", .int 1), ("edge_count", .int 0), ("variable_count", .int 0)]
    ∃ result rest, (compile.call Settings.standard arguments).Returns Supply.counting result rest ∧
      result.Consistent compile ∧ result.ok = true ∧ result.data = canvas ∧
      result.facts = counts ∧ result.artifacts = .obj [("node_ids", .arr [node.id])] := by
  intro arguments node canvas counts
  have decodable : ∀ name ∈ decodedNames, ∀ text, arguments.value name = .str text →
      Json.Decodable text := by
    simp only [decodedNames, List.forall_mem_cons]
    refine ⟨nofun, ?_, nofun⟩
    intro text given fault unread
    obtain rfl : "[]" = text := Json.str.inj given
    cases unread
  obtain ⟨result, rest, returned, consistent⟩ :=
    exists_result Settings.standard compile arguments Supply.counting rfl decodable nofun
  refine ⟨result, rest, returned, consistent, ?_⟩
  have shown : ((compile.call Settings.standard arguments).outcome Supply.counting).1.toOption.map
      (fun result => (result.ok, result.data, result.facts, result.artifacts)) =
      some (true, canvas, counts, .obj [("node_ids", .arr [node.id])]) := by
    decide +kernel
  rw [returned] at shown
  simpa only [Prod.mk.injEq] using Option.some.inj shown

end Tool

end PlanGraph
