import PlanGraph.Proofs.Compile.Legible
import PlanGraph.Proofs.Patch.Refusals
import PlanGraph.Proofs.Tool.Schema
import PlanGraph.Tool.Call

/-!
# Results that are sent legibly

A tool that is run on decoded arguments which meet its schema has a result that is sent legibly
(`Tool.legible_of_run`). A plan that is handed over, a summary or a canvas is legible as its parts
are; and what refuses the work is written legibly since it is about no more than a text.
-/

namespace PlanGraph

open Json (Legible Decoded)

namespace ToolResult

variable {supply rest : Supply} {result : ToolResult}

/-- What was done is sent legibly when its data are legible. -/
theorem legible_done (summary : String) {data : Json} (facts : List (String × Nat))
    (artifacts : Option Json) (h : Legible data) :
    Legible (.obj (done summary data facts artifacts).sentMembers) := by
  refine .obj (by simp [sentMembers]) ?_
  simp only [sentMembers, List.forall_mem_cons]
  exact ⟨.bool _, .str _, h, .null, List.forall_mem_nil _⟩

/-- What was refused is sent legibly when the failure is legible. -/
theorem legible_failed (message : String) {failure : Failure} (h : Legible failure.toJson) :
    Legible (.obj (failed message failure).sentMembers) := by
  have error : Legible (failed message failure).error :=
    .obj (by simp) (by simp [h])
  refine .obj (by simp [sentMembers]) ?_
  simp only [sentMembers, List.forall_mem_cons]
  exact ⟨.bool _, .str _, .null, error, List.forall_mem_nil _⟩

/-- Work has a result that is sent legibly when that is so of what is done and what is refused. -/
theorem legible_of_returns {work : Except Halt ToolResult}
    (done : ∀ result, work = .ok result → Legible (.obj result.sentMembers))
    (refused : ∀ failure, work = .error (.failure failure) → Legible failure.toJson)
    (h : (Making.ofExcept (ofHalting work)).Returns supply result rest) :
    Legible (.obj result.sentMembers) := by
  obtain ⟨returned, -⟩ := Making.returns_ofExcept_iff.mp h
  rcases work with (failure | fault) | made
  · cases returned
    exact legible_failed _ (refused failure rfl)
  · cases returned
  · cases returned
    exact done result rfl

end ToolResult

namespace Tool

variable {settings : Settings} {arguments : Arguments} {supply rest : Supply} {result : ToolResult}

/-- An argument of decoded ones is decoded. -/
theorem decoded_value (decoded : Decoded (.obj arguments)) (name : String) :
    Decoded (arguments.value name) :=
  decoded.getD name

/-- What is refused after all that may be refused is a failure of that. -/
theorem eq_error_of_mapError {α : Type} {work : Except Failure α} {failure : Failure}
    (h : work.mapError Halt.failure = .error (.failure failure)) : work = .error failure := by
  obtain ⟨found, refused, same⟩ := mapError_eq_error_iff.mp h
  cases same
  exact refused

/-- What refuses a plan is written legibly. -/
theorem legible_of_refused_plan {value : Json} {failure : Failure}
    (h : (Plan.ofJson value).mapError Halt.failure = .error (.failure failure)) :
    Legible failure.toJson := by
  obtain ⟨issues, rfl⟩ := Plan.exists_issues_of_ofJson (eq_error_of_mapError h)
  exact Failure.legible_invalid _ issues

section operations

variable (plain : ∀ script, arguments.value "operations" ≠ .str script)

include plain

/-- The operations that are not given as a script are those of an envelope. -/
theorem operationsArgument_eq :
    operationsArgument arguments =
      (Envelope.operations <$> Envelope.ofJson (.obj [("planId", arguments.value "plan_id"),
        ("operations", arguments.value "operations")])).mapError Halt.failure := by
  unfold operationsArgument
  split
  · rename_i script written
    exact absurd written (plain script)
  · rfl

/-- The operations of a call name texts, and there are no more of them than an array may hold. -/
theorem textual_of_operationsArgument (decoded : Decoded (.obj arguments))
    {operations : List Operation} (h : operationsArgument arguments = .ok operations) :
    (∀ operation ∈ operations, operation.Textual) ∧ operations.length < Json.arrayLimit := by
  rw [operationsArgument_eq plain, mapError_eq_ok_iff] at h
  obtain ⟨envelope, read, rfl⟩ := map_eq_ok_iff.mp h
  refine ⟨Envelope.textual_of_ofJson read, ?_⟩
  have enclosed : Decoded (.obj [("planId", arguments.value "plan_id"),
      ("operations", arguments.value "operations")]) :=
    Decoded.obj_iff.mpr ⟨by simp, by simp [decoded_value decoded]⟩
  rw [Envelope.length_operations_of_ofJson read]
  exact (Decoded.arr_iff.mp (enclosed.itemsOf "operations")).1

/-- What refuses the operations of a call is written legibly. -/
theorem legible_of_refused_operations {failure : Failure}
    (h : operationsArgument arguments = .error (.failure failure)) : Legible failure.toJson := by
  rw [operationsArgument_eq plain] at h
  have refused := eq_error_of_mapError h
  rcases read : Envelope.ofJson (.obj [("planId", arguments.value "plan_id"),
      ("operations", arguments.value "operations")]) with found | envelope
  · rw [read] at refused
    cases refused
    obtain ⟨issues, rfl⟩ := Envelope.exists_issues_of_ofJson read
    exact Failure.legible_invalid _ issues
  · rw [read] at refused
    cases refused

end operations

/-- Toolsets that are not given as a text are taken as they are, or refused. -/
theorem toolsetsArgument_eq_or (plain : ∀ text, arguments.value "toolsets" ≠ .str text) :
    toolsetsArgument arguments = .ok (arguments.value "toolsets") ∨
      toolsetsArgument arguments =
        .error (.failure (Json.argumentFailure "toolsets" .notToolsetList)) := by
  unfold toolsetsArgument
  generalize arguments.value "toolsets" = toolsets at plain ⊢
  cases toolsets with
  | str text => exact absurd rfl (plain text)
  | null => exact .inl rfl
  | arr items => exact .inl rfl
  | _ => exact .inr rfl

section plan

variable {members : List (String × Json)} (given : arguments.value "plan" = .obj members)

include given

/-- A plan that is given as an object is taken as it is. -/
theorem planArgument_eq : planArgument arguments = .ok (.obj members) := by
  rw [planArgument, given]
  rfl

theorem legible_of_runValidate
    (h : (validate.run settings arguments).Returns supply result rest) :
    Legible (.obj result.sentMembers) := by
  refine ToolResult.legible_of_returns ?_ ?_ h
  · intro result done
    rw [runValidate, planArgument_eq given, ok_bind] at done
    obtain ⟨plan, read, made⟩ := bind_eq_ok_iff.mp done
    cases made
    refine ToolResult.legible_done _ _ _ ?_
    rw [plan.normalize_eq]
    exact Plan.legible_dump (Plan.exists_title_of_ofJson (mapError_eq_ok_iff.mp read))
  · intro failure refused
    rw [runValidate, planArgument_eq given, ok_bind] at refused
    rcases bind_eq_error_iff.mp refused with unread | ⟨plan, -, made⟩
    · exact legible_of_refused_plan unread
    · cases made

theorem legible_of_runSummarize (decoded : Decoded (.obj arguments))
    (h : (summarize.run settings arguments).Returns supply result rest) :
    Legible (.obj result.sentMembers) := by
  refine ToolResult.legible_of_returns ?_ ?_ h
  · intro result done
    rw [runSummarize, planArgument_eq given, ok_bind] at done
    obtain ⟨plan, read, made⟩ := bind_eq_ok_iff.mp done
    cases made
    have read := mapError_eq_ok_iff.mp read
    obtain ⟨tasks, inputs⟩ := Plan.lengths_of_ofJson (given ▸ decoded_value decoded "plan") read
    exact ToolResult.legible_done _ _ _ (Plan.legible_summary _ (Plan.exists_title_of_ofJson read)
      tasks inputs (decoded_value decoded "plan_id").legible)
  · intro failure refused
    rw [runSummarize, planArgument_eq given, ok_bind] at refused
    rcases bind_eq_error_iff.mp refused with unread | ⟨plan, -, made⟩
    · exact legible_of_refused_plan unread
    · cases made

theorem legible_of_runPatch (decoded : Decoded (.obj arguments))
    (plain : ∀ script, arguments.value "operations" ≠ .str script)
    (h : (patch.run settings arguments).Returns supply result rest) :
    Legible (.obj result.sentMembers) := by
  refine ToolResult.legible_of_returns ?_ ?_ h
  · intro result done
    rw [runPatch, planArgument_eq given, ok_bind] at done
    obtain ⟨operations, taken, later⟩ := bind_eq_ok_iff.mp done
    obtain ⟨found, applied, made⟩ := bind_eq_ok_iff.mp later
    cases made
    obtain ⟨textual, few⟩ := textual_of_operationsArgument plain decoded taken
    have applied := mapError_eq_ok_iff.mp applied
    cases found with
    | refused error failure =>
        exact ToolResult.legible_failed _ (PatchResult.legible_of_refused textual few applied)
    | applied plan log =>
        exact ToolResult.legible_done _ _ _
          (Plan.legible_dump (PatchResult.titled_of_applied textual applied))
  · intro failure refused
    rw [runPatch, planArgument_eq given, ok_bind] at refused
    rcases bind_eq_error_iff.mp refused with untaken | ⟨operations, -, later⟩
    · exact legible_of_refused_operations plain untaken
    · rcases bind_eq_error_iff.mp later with faulty | ⟨found, -, made⟩
      · obtain ⟨fault, -, same⟩ := mapError_eq_error_iff.mp faulty
        cases same
      · cases made

theorem legible_of_runCompile (decoded : Decoded (.obj arguments))
    (plain : ∀ text, arguments.value "toolsets" ≠ .str text)
    (h : (compile.run settings arguments).Returns supply result rest) :
    Legible (.obj result.sentMembers) := by
  change (runCompile settings arguments).Returns supply result rest at h
  rw [runCompile, compileInputs, planArgument_eq given, ok_bind] at h
  rcases toolsetsArgument_eq_or plain with taken | refused
  · rw [taken, ok_bind] at h
    obtain ⟨canvas, between, returned, made⟩ := Making.returns_bind_iff.mp h
    obtain ⟨rfl, -⟩ := Making.returns_pure_iff.mp made
    exact ToolResult.legible_done _ _ _ (Compilation.legible_of_compile
      (given ▸ decoded_value decoded "plan") (decoded_value decoded "toolsets").legible .null rfl
      returned)
  · rw [refused] at h
    have ends : (Making.ofExcept (ToolResult.ofHalting (.error (.failure
        (Json.argumentFailure "toolsets" .notToolsetList))))).Returns supply result rest := h
    refine ToolResult.legible_of_returns ?_ ?_ ends
    · intro result done
      cases done
    · intro failure refused
      cases refused
      exact Failure.legible_invalid _ _

end plan

/-- **Results are sent legibly.** A tool that is run on decoded arguments which meet its schema has
a result that is read back from its text. -/
theorem legible_of_run {tool : Tool} (decoded : Decoded (.obj arguments))
    (meets : (Json.obj arguments).Meets tool.inputSchema)
    (taken : ∀ argument ∈ arguments, argument.1 ∈ tool.takenNames)
    (h : (tool.run settings arguments).Returns supply result rest) :
    Legible (.obj result.sentMembers) := by
  obtain ⟨members, given⟩ := value_plan_of_meets meets
  cases tool with
  | validate => exact legible_of_runValidate given h
  | compile =>
      exact legible_of_runCompile given decoded (value_ne_str meets taken (by decide)) h
  | patch => exact legible_of_runPatch given decoded (value_ne_str meets taken (by decide)) h
  | summarize => exact legible_of_runSummarize given decoded h

end Tool

end PlanGraph
