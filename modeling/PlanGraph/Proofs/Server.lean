import PlanGraph.Proofs.Json.Written
import PlanGraph.Proofs.Tool.Legible
import PlanGraph.Proofs.Tool.Results
import PlanGraph.Server.Message

/-!
# Answers of the server

The server answers every call (`Server.call_answers`). A call of a tool is in error exactly where
its arguments do not meet the schema of the tool or one of them is not taken; any other call of a
tool is answered with the text of its result, which is read back. A call of no tool is answered with
a text that says so.

That no other call is in error has three reasons. Arguments that meet the schema are no texts where
a text would be read as JSON, so every tool comes to a result on them
(`Tool.exists_consistent_run`); the schema requires what a call cannot do without
(`Tool.callFault?_eq_none_iff_of_meets`); and what comes of decoded arguments is legible
(`Tool.legible_of_run`).

The arguments in a line that the server reads are decoded (`Server.AsksCall.decoded`), so all of
this holds of the calls that come in lines. Each of them is answered with one line, which is read as
the reply that holds the answer (`Server.lineReply?_of_call`).
-/

namespace PlanGraph

/-! ## Names of tools -/

namespace Tool

/-- A tool is found by its name. -/
theorem ofName?_name (tool : Tool) : ofName? tool.name = some tool := by
  cases tool <;> rfl

/-- Nothing is found by the name of no tool. -/
theorem ofName?_eq_none {name : String} (other : ∀ tool : Tool, tool.name ≠ name) :
    ofName? name = none := by
  rw [ofName?, List.find?_eq_none]
  intro tool _
  simpa using other tool

variable {tool : Tool} {arguments : Arguments}

/-- Arguments that meet the schema and are taken come to a result. -/
theorem exists_returns_of_meets (settings : Settings) (supply : Supply)
    (meets : (Json.obj arguments).Meets tool.inputSchema)
    (taken : ∀ argument ∈ arguments, argument.1 ∈ tool.takenNames) :
    ∃ result rest, (tool.run settings arguments).Returns supply result rest := by
  have noText {name : String} (other : name ≠ "plan_id") (text : String) :
      arguments.value name ≠ .str text := value_ne_str meets taken other text
  have decodable : ∀ name ∈ decodedNames, ∀ text, arguments.value name = .str text →
      Json.Decodable text := by
    simp only [decodedNames, List.forall_mem_cons]
    exact ⟨fun text given => absurd given (noText (by decide) text),
      fun text given => absurd given (noText (by decide) text), List.forall_mem_nil _⟩
  obtain ⟨result, rest, returned, -⟩ := exists_consistent_run settings tool supply decodable
    fun _ script => noText (by decide) script
  exact ⟨result, rest, returned⟩

end Tool

/-! ## Calls -/

namespace Server

variable {settings : Settings} {tool : Tool} {arguments : Arguments} {supply : Supply}

/-- A call of no tool is answered with a text that says so. -/
theorem call_of_no_tool {name : String} (other : ∀ tool : Tool, tool.name ≠ name) :
    (call settings name arguments supply).1 = .unknownTool name := by
  rw [call, Tool.ofName?_eq_none other]
  rfl

/-- A call of a tool is answered with what the call comes to, unless a violation is found. -/
theorem call_of_valid (valid : tool.violation? arguments = none) :
    (call settings tool.name arguments supply).1 =
      .ofCall ((tool.call settings arguments).outcome supply).1 := by
  rw [call, tool.ofName?_name]
  simp only [valid]
  rfl

/-- A call whose arguments do not meet the schema of the tool is in error. -/
theorem isError_of_not_meets (unmet : ¬ (Json.obj arguments).Meets tool.inputSchema) :
    (call settings tool.name arguments supply).1.isError = true := by
  obtain ⟨violation, found⟩ :=
    Option.ne_none_iff_exists'.mp (mt Tool.violation?_eq_none_iff.mp unmet)
  rw [call, tool.ofName?_name]
  simp only [found]
  rfl

/-- A call with an argument that is not taken is in error. -/
theorem isError_of_not_taken (untaken : ∃ argument ∈ arguments, argument.1 ∉ tool.takenNames) :
    (call settings tool.name arguments supply).1.isError = true := by
  by_cases meets : (Json.obj arguments).Meets tool.inputSchema
  · obtain ⟨argument, given, unknown⟩ := untaken
    have faulty : tool.callFault? arguments ≠ none := fun none =>
      unknown ((Tool.callFault?_eq_none_iff_of_meets meets).mp none argument given)
    obtain ⟨fault, found⟩ := Option.ne_none_iff_exists'.mp faulty
    rw [call_of_valid (Tool.violation?_eq_none_iff.mpr meets), Tool.call, found]
    rfl
  · exact isError_of_not_meets meets

/-- Any other call of a tool is answered with its result. -/
theorem call_of_meets (settings : Settings) (supply : Supply)
    (meets : (Json.obj arguments).Meets tool.inputSchema)
    (taken : ∀ argument ∈ arguments, argument.1 ∈ tool.takenNames) :
    ∃ result rest, (tool.run settings arguments).Returns supply result rest ∧
      (Tool.callNamed settings tool.name arguments).Returns supply result rest ∧
      (call settings tool.name arguments supply).1 = .ofResult result := by
  obtain ⟨result, rest, returned⟩ := Tool.exists_returns_of_meets settings supply meets taken
  have called : tool.call settings arguments = tool.run settings arguments := by
    rw [Tool.call, (Tool.callFault?_eq_none_iff_of_meets meets).mpr taken]
  refine ⟨result, rest, returned, ?_, ?_⟩
  · rw [Tool.callNamed, tool.ofName?_name]
    simp only [called]
    exact returned
  · rw [call_of_valid (Tool.violation?_eq_none_iff.mpr meets), called, returned]
    rfl

/-- **The server answers every call.** On decoded arguments, a call of a tool is in error exactly
where they do not meet the schema of the tool or one of them is not taken. Otherwise the call of the
tool has a result, and the answer is a text that is read as what is sent of it. The answer to a call
of no tool is no error, but a text that is read as saying so. -/
theorem call_answers (settings : Settings) (name : String) (arguments : Arguments)
    (supply : Supply) (decoded : (Json.obj arguments).Decoded) :
    let answer := (call settings name arguments supply).1
    (∀ tool : Tool, tool.name = name →
      (answer.isError = true ↔ ¬ (Json.obj arguments).Meets tool.inputSchema ∨
        ∃ argument ∈ arguments, argument.1 ∉ tool.takenNames) ∧
      (answer.isError = false → ∃ result rest,
        (Tool.callNamed settings name arguments).Returns supply result rest ∧
        Json.read answer.text = .ok (.obj [("ok", .bool result.ok),
          ("summary", .str result.summary), ("data", result.data), ("error", result.error)]))) ∧
    ((∀ tool : Tool, tool.name ≠ name) → answer.isError = false ∧
      Json.read answer.text =
        .ok (.obj [("ok", .bool false), ("error", .str ("Unknown tool: " ++ name))])) := by
  intro answer
  refine ⟨?_, ?_⟩
  · rintro tool rfl
    by_cases refused : ¬ (Json.obj arguments).Meets tool.inputSchema ∨
        ∃ argument ∈ arguments, argument.1 ∉ tool.takenNames
    · have inError : answer.isError = true := refused.elim isError_of_not_meets isError_of_not_taken
      exact ⟨iff_of_true inError refused, fun fine => absurd (inError.symm.trans fine) (by decide)⟩
    · obtain ⟨meets, taken⟩ := not_or.mp refused
      have meets := not_not.mp meets
      have taken : ∀ argument ∈ arguments, argument.1 ∈ tool.takenNames := fun argument given =>
        not_not.mp fun unknown => taken ⟨argument, given, unknown⟩
      obtain ⟨result, rest, run, called, answered⟩ : ∃ result rest,
          (tool.run settings arguments).Returns supply result rest ∧
          (Tool.callNamed settings tool.name arguments).Returns supply result rest ∧
          answer = .ofResult result := call_of_meets settings supply meets taken
      have legible := Tool.legible_of_run decoded meets taken run
      rw [answered]
      exact ⟨iff_of_false Bool.false_ne_true refused,
        fun _ => ⟨result, rest, called, Json.read_spaced legible⟩⟩
  · intro other
    have answered : answer = .unknownTool name := call_of_no_tool other
    rw [answered]
    exact ⟨rfl, Json.read_spaced (.obj (by simp) (by simp))⟩

/-- A plan with one task is summarized, under an id. -/
theorem call_answers_of_summary :
    let arguments : Arguments := [("plan", .obj [("title", .str "Report"),
      ("tasks", .arr [.obj [("id", .str "a"), ("prompt", .str "Write it")]])]),
      ("plan_id", .str "p")]
    let answer := (call Settings.standard "get_workflow_summary" arguments Supply.counting).1
    (Json.obj arguments).Decoded ∧ answer.isError = false ∧
      Json.read answer.text = .ok (.obj [("ok", .bool true),
        ("summary", .str "Plan 'Report': 1 tasks, 0 variables"),
        ("data", .obj [("planId", .str "p"), ("title", .str "Report"), ("taskCount", .int 1),
          ("variableCount", .int 0), ("tasks", .arr [.obj [("id", .str "a"), ("title", .str ""),
            ("dependentTasks", .arr []), ("toolsets", .arr []), ("prompt", .str "Write it")]]),
          ("variables", .arr [])]),
        ("error", .null)]) := by
  intro arguments answer
  have decoded : (Json.obj arguments).Decoded := by
    simp [arguments, Json.arrayLimit]
  obtain ⟨tools, -⟩ := call_answers Settings.standard "get_workflow_summary" arguments
    Supply.counting decoded
  obtain ⟨-, answered⟩ := tools .summarize rfl
  have fine : answer.isError = false := rfl
  obtain ⟨result, rest, returned, read⟩ := answered fine
  cases returned
  exact ⟨decoded, fine, read⟩

/-! ## Lines -/

/-- A line asks for a call: it is read as a request, with an id, whose parameters give the name of
a tool and the arguments. -/
structure AsksCall (line : String) (message id : Json) (name : String) (arguments : Arguments) :
    Prop where
  read : Json.read line = .ok message
  id : message.get? "id" = some id
  method : message.getD "method" = .str "tools/call"
  name : (message.getD "params").getD "name" = .str name
  arguments : argumentsOf? (message.getD "params") = some arguments

variable {line name : String} {message id : Json}

/-- The arguments in decoded parameters are decoded. -/
theorem decoded_of_argumentsOf? {params : Json} (decoded : params.Decoded)
    (given : argumentsOf? params = some arguments) : (Json.obj arguments).Decoded := by
  have member := decoded.getD "arguments"
  unfold argumentsOf? at given
  split at given
  · cases given
    exact Json.Decoded.obj_iff.mpr ⟨List.nodup_nil, List.forall_mem_nil _⟩
  · rename_i members found
    cases given
    exact found ▸ member
  · cases given

/-- The arguments in a line are decoded, unless the line is longer than any line is. -/
theorem AsksCall.decoded (asks : AsksCall line message id name arguments)
    (short : line.length < 2 ^ 62) : (Json.obj arguments).Decoded :=
  decoded_of_argumentsOf? ((Json.decoded_of_read short asks.read).getD "params") asks.arguments

/-- A request for a call is replied to with the answer to the call. -/
theorem AsksCall.requestReply_eq (asks : AsksCall line message id name arguments)
    (settings : Settings) (supply : Supply) :
    requestReply settings id message supply =
      (reply id (answerJson (call settings name arguments supply).1),
        (call settings name arguments supply).2) := by
  simp only [requestReply, asks.method, callReply, asks.name, asks.arguments, Json.text?]
  rfl

/-- A reply with an answer is legible where the id of the request is. -/
theorem legible_reply (legible : id.Legible) (answer : Answer) :
    (reply id (answerJson answer)).Legible := by
  refine .obj (by simp) ?_
  simp only [List.forall_mem_cons]
  exact ⟨.str _, legible, .obj (by simp) (by simp), List.forall_mem_nil _⟩

/-- **A call in a line is answered in a line.** The arguments of the call are decoded. The answer is
that of the call, and so is the state that it leaves; it is sent on one line, which is read as the
reply to the request. -/
theorem lineReply?_of_call (settings : Settings) (supply : Supply)
    (asks : AsksCall line message id name arguments) (short : line.length < 2 ^ 62) :
    (Json.obj arguments).Decoded ∧ ∃ text : String,
      lineReply? settings line supply =
        (some text, (call settings name arguments supply).2) ∧
      '\n' ∉ text.toList ∧
      Json.read text = .ok (reply id (answerJson (call settings name arguments supply).1)) := by
  have identified : id.Legible :=
    ((Json.decoded_of_read short asks.read).of_get? asks.id).legible
  refine ⟨asks.decoded short, _, ?_, (Json.inline_spaced _).feed_not_mem,
    Json.read_spaced (legible_reply identified _)⟩
  simp only [lineReply?, asks.read, asks.id]
  change (some (requestReply settings id message supply).1.spaced,
    (requestReply settings id message supply).2) = _
  rw [asks.requestReply_eq]

/-- A request may leave the arguments out. -/
example :
    let message : Json := .obj [("id", .str "7"), ("method", .str "tools/call"),
      ("params", .obj [("name", .str "get_workflow_summary")])]
    AsksCall message.spaced message (.str "7") "get_workflow_summary" [] :=
  ⟨Json.read_spaced (by simp), rfl, rfl, rfl, rfl⟩

end Server

end PlanGraph
