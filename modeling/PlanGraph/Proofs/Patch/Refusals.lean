import PlanGraph.Proofs.Patch.Ingestion
import PlanGraph.Proofs.Patch.Persistence
import PlanGraph.Proofs.Patch.Run
import PlanGraph.Proofs.Plan.Legible

/-!
# Refusals that are written legibly

The operations of an envelope name texts: the ids that they are about, and the title that they set
(`Operation.Textual`, `Envelope.textual_of_ofJson`). So whatever refuses one of them is about a text
or about nothing (`Operation.Textual.target`). A run fails as one of its steps does, at the place of
that step (`Plan.exists_step_of_runSteps`); so what becomes of a patch with such operations is
written legibly, whether it is refused (`PatchResult.legible_of_refused`) or applied
(`PatchResult.titled_of_applied`).
-/

namespace PlanGraph

open Json (Legible)

/-! ## Operations of an envelope -/

/-- The operation names texts, and what it creates was checked before. -/
inductive Operation.Textual : Operation → Prop where
  /-- The title is a text. -/
  | updateTitle (title : Option String) : Textual (.updateTitle (title.map Json.str))
  /-- The task was checked. -/
  | createTask (task : Task) : Textual (.createTask (.checked task))
  /-- The id is a text. -/
  | updateTask (id : String) (changes : Changes) : Textual (.updateTask (.str id) changes)
  /-- The id is a text. -/
  | deleteTask (id : String) : Textual (.deleteTask (.str id))
  /-- The variable was checked. -/
  | createVariable (input : Variable) : Textual (.createVariable (.checked input))
  /-- The id is a text. -/
  | updateVariable (id : String) (changes : Changes) : Textual (.updateVariable (.str id) changes)
  /-- The id is a text. -/
  | deleteVariable (id : String) : Textual (.deleteVariable (.str id))

/-- A complete form stands for an operation that names texts. -/
theorem OperationForm.textual_of_complete {form : OperationForm} {kind : OperationKind}
    {operation : Operation} (h : form.complete kind = .ok operation) : operation.Textual := by
  cases kind with
  | updateTitle =>
      cases h
      exact .updateTitle form.title
  | createTask =>
      obtain ⟨task, -, rfl⟩ := map_eq_ok_iff.mp h
      exact .createTask task
  | updateTask =>
      obtain ⟨_, given, rfl⟩ := map_eq_ok_iff.mp h
      obtain ⟨id, -, -, rfl⟩ := neededId_eq_ok_iff.mp given
      exact .updateTask id _
  | deleteTask =>
      obtain ⟨_, given, rfl⟩ := map_eq_ok_iff.mp h
      obtain ⟨id, -, -, rfl⟩ := neededId_eq_ok_iff.mp given
      exact .deleteTask id
  | createVariable =>
      obtain ⟨input, -, rfl⟩ := map_eq_ok_iff.mp h
      exact .createVariable input
  | updateVariable =>
      obtain ⟨_, given, rfl⟩ := map_eq_ok_iff.mp h
      obtain ⟨id, -, -, rfl⟩ := neededId_eq_ok_iff.mp given
      exact .updateVariable id _
  | deleteVariable =>
      obtain ⟨_, given, rfl⟩ := map_eq_ok_iff.mp h
      obtain ⟨id, -, -, rfl⟩ := neededId_eq_ok_iff.mp given
      exact .deleteVariable id

namespace Envelope

variable {value : Json} {envelope : Envelope}

/-- The operations of an envelope name texts. -/
theorem textual_of_ofJson (h : ofJson value = .ok envelope) :
    ∀ operation ∈ envelope.operations, operation.Textual := by
  obtain ⟨forms, -, completes⟩ := exists_forms_of_ofJson h
  intro operation listed
  obtain ⟨form, -, complete⟩ := Checked.exists_item_of_mem completes listed
  have read := OperationForm.checkComplete_eq_passed_iff.mp complete
  unfold OperationForm.toOperation at read
  split at read
  · exact OperationForm.textual_of_complete read
  · cases read

/-- An envelope holds as many operations as its list has items. -/
theorem length_operations_of_ofJson (h : ofJson value = .ok envelope) :
    envelope.operations.length = (value.itemsOf "operations").length := by
  obtain ⟨forms, checked, completes⟩ := exists_forms_of_ofJson h
  rw [checked.length_eq, completes.length_eq]

/-- What refuses an envelope is about none of its operations. -/
theorem exists_issues_of_ofJson {failure : Failure} (h : ofJson value = .error failure) :
    ∃ issues, failure = .invalid label issues := by
  unfold ofJson at h
  split at h
  · rename_i found unread
    cases h
    exact Checked.exists_issues_of_orFail unread
  · rename_i form _
    rcases complete : (checkComplete form.operations).orFail label with found | operations
    · rw [complete] at h
      cases h
      exact Checked.exists_issues_of_orFail complete
    · rw [complete] at h
      cases h

end Envelope

/-! ## What refuses an operation -/

namespace Operation

variable {operation : Operation} {plan next : Plan} {failure : Failure}

/-- What refuses an operation that names texts is about a text or about nothing. -/
theorem Textual.target (h : operation.Textual) (refused : operation.perform plan = .error failure) :
    Legible failure.target := by
  cases h with
  | updateTitle title =>
      cases title <;> cases refused
  | createTask task =>
      change createTaskIn plan (.checked task) = _ at refused
      rcases bind_eq_error_iff.mp refused with unread | ⟨found, -, refused⟩
      · cases unread
      · split at refused
        · cases refused
          exact .null
        · split at refused
          · cases refused
            exact .str _
          · cases refused
  | updateTask id changes =>
      change updateTaskIn plan (.str id) changes = _ at refused
      unfold updateTaskIn at refused
      split at refused
      · cases refused
        exact .str id
      · split at refused <;> cases refused
  | deleteTask id =>
      change deleteTaskIn plan (.str id) = _ at refused
      unfold deleteTaskIn at refused
      split at refused
      · cases refused
        exact .str id
      · cases refused
  | createVariable input =>
      change createVariableIn plan (.checked input) = _ at refused
      rcases bind_eq_error_iff.mp refused with unsound | ⟨found, -, refused⟩
      · obtain ⟨found, -, rfl⟩ := mapError_eq_error_iff.mp unsound
        exact .str _
      · split at refused
        · cases refused
          exact .str _
        · cases refused
  | updateVariable id changes =>
      change updateVariableIn plan (.str id) changes = _ at refused
      unfold updateVariableIn at refused
      split at refused
      · cases refused
        exact .str id
      · split at refused
        · cases refused
        · split at refused
          · cases refused
            exact .str id
          · cases refused
  | deleteVariable id =>
      change deleteVariableIn plan (.str id) = _ at refused
      unfold deleteVariableIn at refused
      split at refused
      · cases refused
        exact .str id
      · cases refused

/-- The title stays a text where the operation names texts. -/
theorem Textual.titled {entry : Option String} (h : operation.Textual)
    (performs : operation.Performs plan next entry) (titled : ∃ text, plan.title = .str text) :
    ∃ text, next.title = .str text := by
  rw [performs.title]
  cases h with
  | updateTitle title =>
      cases title with
      | none => exact titled
      | some text => exact ⟨text, rfl⟩
  | _ => exact titled

end Operation

/-! ## What refuses a run -/

/-- A step whose operation was read before fails as the operation does. -/
theorem PatchStep.exists_failure_of_ready {index : Nat} {plan : Plan} {operation : Operation}
    {failure : Failure} (h : (ready operation).perform index plan = .error (.failure failure)) :
    ∃ found, operation.perform plan = .error found ∧ failure.target = found.target := by
  obtain ⟨halt, run, stamped⟩ := mapError_eq_error_iff.mp h
  rcases halt with found | fault
  · cases stamped
    obtain ⟨given, refused, same⟩ := mapError_eq_error_iff.mp run
    cases same
    exact ⟨found, refused, rfl⟩
  · cases stamped

namespace Plan

variable {index : Nat} {plan final : Plan} {log entries : List String} {steps : List PatchStep}

/-- A run fails as one of its steps does. -/
theorem exists_step_of_runSteps {halt : Halt}
    (h : runSteps index plan log steps = .error halt) :
    ∃ step ∈ steps, ∃ place before, step.perform place before = .error halt := by
  induction steps generalizing index plan log with
  | nil => cases h
  | cons step rest ih =>
      rw [runSteps_cons] at h
      rcases bind_eq_error_iff.mp h with here | ⟨⟨next, entry⟩, -, later⟩
      · exact ⟨step, List.mem_cons_self, index, plan, here⟩
      · obtain ⟨other, listed, fails⟩ := ih later
        exact ⟨other, List.mem_cons_of_mem _ listed, fails⟩

end Plan

/-! ## Patches -/

namespace PatchResult

variable {value : Json} {operations : List Operation}
  (textual : ∀ operation ∈ operations, operation.Textual)

include textual

/-- What refuses a patch is written legibly. -/
theorem legible_of_refused (few : operations.length < Json.arrayLimit) {error : String}
    {failure : Failure}
    (h : applyPatch (.raw value) (operations.map .ready) = .ok (.refused error failure)) :
    Legible failure.toJson := by
  rcases loads : (PlanInput.raw value).load with found | base
  · simp only [applyPatch, loads] at h
    cases h
    obtain ⟨issues, rfl⟩ := Plan.exists_issues_of_ofJson loads
    exact Failure.legible_invalid _ issues
  · rw [applyPatch_of_load loads] at h
    rcases run : base.runSteps 0 [] (operations.map .ready) with (found | fault) | ⟨final, log⟩
    · rw [run] at h
      cases h
      refine Failure.legible_toJson ?_ ?_
      · obtain ⟨step, listed, place, before, fails⟩ := Plan.exists_step_of_runSteps run
        obtain ⟨operation, here, rfl⟩ := List.mem_map.mp listed
        obtain ⟨found, refused, same⟩ := PatchStep.exists_failure_of_ready fails
        rw [same]
        exact (textual operation here).target refused
      · intro index placed
        obtain ⟨place, inside, known⟩ := Plan.index_of_runSteps run
        rw [List.length_map] at inside
        rw [placed, Nat.zero_add] at known
        exact ⟨place, inside.trans few, Option.some.inj known⟩
    · rw [run] at h
      cases h
    · rw [run] at h
      cases h

/-- A patch that was applied leaves a text for the title. -/
theorem titled_of_applied {final : Plan} {log : List String}
    (h : applyPatch (.raw value) (operations.map .ready) = .ok (.applied final log)) :
    ∃ text, final.title = .str text := by
  obtain ⟨base, loads, run⟩ := applyPatch_eq_applied_iff.mp h
  have titled : ∃ text, base.title = .str text := Plan.exists_title_of_ofJson loads
  refine Plan.runSteps_induction (motive := fun plan => ∃ text, plan.title = .str text) ?_ run
    titled
  intro step listed operation read plan next entry performs titled
  obtain ⟨given, here, rfl⟩ := List.mem_map.mp listed
  cases read
  exact (textual operation here).titled performs titled

end PatchResult

end PlanGraph
