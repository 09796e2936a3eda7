import PlanGraph.Proofs.Json.Decoded
import PlanGraph.Proofs.Patch.Legible
import PlanGraph.Proofs.Plan.RoundTrip
import PlanGraph.Summary

/-!
# Plans and failures that are written legibly

A plan with a text for its title is written as a value that is read back, in full
(`Plan.legible_dump`) and as a summary (`Plan.legible_summary`), and so is a failure, as long as its
target is legible and its place is not beyond all lists (`Failure.legible_toJson`). A plan that was
read from a decoded value has such a title, and as many tasks as an array may hold; and what refuses
a plan as a whole is about no operation (`Plan.exists_issues_of_ofJson`).
-/

namespace PlanGraph

open Json (Legible Decoded)

/-! ## Plans -/

/-- A task is written legibly. -/
theorem Task.legible_dump (task : Task) : Legible task.dump := by
  refine .obj (List.Sublist.nodup (?_ : List.Sublist _ (["id", "title", "prompt"] ++
    ["dependentTasks"] ++ ["toolsets"])) (by decide)) ?_
  · simp only [List.map_append]
    exact ((List.Sublist.refl _).append (Json.names_memberIf _ _)).append (List.Sublist.refl _)
  · simp only [List.forall_mem_append]
    exact ⟨⟨by simp, .of_mem_memberIf .ofStrings⟩, by simp [Legible.ofStrings]⟩

/-- A variable is written legibly. -/
theorem Variable.legible_dump (input : Variable) : Legible input.dump := by
  have values : Legible (.arr (input.value.map VariableValue.dump)) :=
    .arr (List.forall_mem_map.mpr fun value _ => value.legible_dump)
  refine .obj (List.Sublist.nodup (?_ : List.Sublist _ (["variableId", "variableType", "name",
    "description", "required"] ++ ["resourceTypes"] ++ ["value"])) (by decide)) ?_
  · simp only [List.map_append]
    exact ((List.Sublist.refl _).append (Json.names_memberIf _ _)).append (List.Sublist.refl _)
  · simp only [List.forall_mem_append]
    exact ⟨⟨by simp, .of_mem_memberIf fun types => .ofStrings (types.map ResourceType.name)⟩,
      by simpa using values⟩

namespace Plan

variable {plan : Plan} {value : Json}

/-- A plan with a text for its title is written legibly. -/
theorem legible_dump (titled : ∃ text, plan.title = .str text) : Legible plan.dump := by
  obtain ⟨text, title⟩ := titled
  refine .obj (by simp) ?_
  simp only [List.forall_mem_cons, title]
  exact ⟨.str text, .arr (List.forall_mem_map.mpr fun task _ => task.legible_dump),
    .arr (List.forall_mem_map.mpr fun input _ => input.legible_dump), List.forall_mem_nil _⟩

/-- A plan with a text for its title is summarized legibly, as long as its lists can be counted and
the id that stands for it is legible. -/
theorem legible_summary (promptChars : Int) {planId : Json}
    (titled : ∃ text, plan.title = .str text) (tasks : plan.tasks.length < Json.arrayLimit)
    (inputs : plan.inputs.length < Json.arrayLimit) (id : Legible planId) :
    Legible (plan.summary promptChars planId) := by
  obtain ⟨text, title⟩ := titled
  have outlined : ∀ task : Task, Legible (task.summary promptChars) := fun task =>
    .obj (by simp) (by simp [Legible.ofStrings])
  have described : ∀ input : Variable, Legible input.summary := fun input =>
    .obj (by simp) (by simp)
  have each : ∀ member ∈ [("title", plan.title), ("taskCount", Json.ofNat plan.tasks.length),
      ("variableCount", .ofNat plan.inputs.length),
      ("tasks", .arr (plan.tasks.map (Task.summary promptChars))),
      ("variables", .arr (plan.inputs.map Variable.summary))], Legible member.2 := by
    simp only [List.forall_mem_cons, title]
    exact ⟨.str text, Json.legible_ofNat tasks, Json.legible_ofNat inputs,
      .arr (List.forall_mem_map.mpr fun task _ => outlined task),
      .arr (List.forall_mem_map.mpr fun input _ => described input), List.forall_mem_nil _⟩
  unfold summary
  split
  · exact .obj (by simp) (List.forall_mem_cons.mpr ⟨id, each⟩)
  · exact .obj (by simp) each

/-- A plan that was read from a decoded value has no more tasks and variables than an array may
hold. -/
theorem lengths_of_ofJson (decoded : Decoded value) (h : ofJson value = .ok plan) :
    plan.tasks.length < Json.arrayLimit ∧ plan.inputs.length < Json.arrayLimit := by
  obtain ⟨found, passes, rest⟩ := bind_eq_ok_iff.mp h
  obtain ⟨rfl, -⟩ := distinct_eq_ok_iff.mp rest
  have passed := Checked.orFail_eq_ok_iff.mp passes
  have tasks := congrArg List.length (PlanInput.outlines_of_check passed)
  have inputs := congrArg List.length (inputIds_of_check passed)
  simp only [PlanInput.outlines, inputIds, List.length_map] at tasks inputs
  rw [← tasks, inputs]
  exact ⟨(Decoded.arr_iff.mp (decoded.itemsOf _)).1, (Decoded.arr_iff.mp (decoded.itemsOf _)).1⟩

end Plan

/-! ## Failures -/

/-- What fails has issues. -/
theorem Checked.exists_issues_of_orFail {α : Type} {x : Checked α} {label : String}
    {failure : Failure} (h : x.orFail label = .error failure) :
    ∃ issues, failure = .invalid label issues := by
  cases x with
  | passed value => cases h
  | failed first more =>
      cases h
      exact ⟨first :: more, rfl⟩

/-- What refuses a plan as a whole is about no operation. -/
theorem Plan.exists_issues_of_ofJson {value : Json} {failure : Failure}
    (h : ofJson value = .error failure) : ∃ issues, failure = .invalid label issues := by
  rcases bind_eq_error_iff.mp h with unsound | ⟨plan, -, repeated⟩
  · exact Checked.exists_issues_of_orFail unsound
  · unfold distinct at repeated
    split at repeated
    · cases repeated
    · cases repeated
      exact ⟨_, rfl⟩

namespace Failure

variable {failure : Failure}

/-- What every failure is written with is legible when its target is legible and its place is one
of an array. -/
theorem legible_of_mem_commonMembers (target : Legible failure.target)
    (place : ∀ index, failure.index = some index →
      ∃ place : Nat, place < Json.arrayLimit ∧ index = place) :
    ∀ member ∈ failure.commonMembers, Legible member.2 := by
  obtain ⟨refusal, operation, target', index⟩ := failure
  have operation : Legible (Json.ofString? operation) := by
    cases operation with
    | none => exact .null
    | some name => exact .str name
  simp only [commonMembers, List.forall_mem_cons]
  refine ⟨.str _, .str _, operation, target, ?_, List.forall_mem_nil _⟩
  cases index with
  | none => exact .null
  | some index =>
      obtain ⟨place, few, rfl⟩ := place index rfl
      exact Json.legible_ofNat few

/-- A failure is written legibly when its target is legible and its place is one of an array. -/
theorem legible_toJson (target : Legible failure.target)
    (place : ∀ index, failure.index = some index →
      ∃ place : Nat, place < Json.arrayLimit ∧ index = place) : Legible failure.toJson := by
  have common := legible_of_mem_commonMembers target place
  unfold toJson
  split
  · rename_i label issues _
    refine .obj (by simp [commonMembers]) (List.forall_mem_append.mpr ⟨common, ?_⟩)
    simp [Issue.toJson]
  · exact .obj (by simp [commonMembers]) common

/-- A failure that is about no operation is written legibly. -/
theorem legible_invalid (label : String) (issues : List Issue) :
    Legible (Failure.invalid label issues).toJson :=
  legible_toJson .null fun _ placed => by cases placed

end Failure

end PlanGraph
