import PlanGraph.Proofs.Patch.Reading

/-!
# Patches in parts

A patch can be applied in parts: first some of its operations, and then the others to the plan that
the first ones lead to (`applyPatch_append`). Where the first part is refused, the whole is refused
in the same words. Otherwise the whole goes as the second part does: its log is the one log after
the other, and a failure differs in its place alone, which counts from the beginning of the whole.

The second call searches its plan for repeated ids once more, so this rests on every plan that a run
leads to having distinct ids (`Plan.Distinct.runSteps`).
-/

namespace PlanGraph

/-! ## Results of plain operations -/

/-- Operations with plain names are all read or refused. -/
theorem PatchStep.readable_of_plain {operations : List Json}
    (plain : ∀ value ∈ operations, Operation.PlainlyNamed value) :
    ∀ step ∈ operations.map PatchStep.raw, ∀ fault, step.operation ≠ .error (.fault fault) := by
  intro step hstep fault
  obtain ⟨value, hvalue, rfl⟩ := List.mem_map.mp hstep
  exact Operation.ofJson_ne_fault (plain value hvalue) fault

/-! ## The second part of a patch -/

namespace Failure

variable {failure : Failure} {place : Nat} (count : Nat)

/-- A failure that is moved on counts its place from further back. -/
theorem shift_eq (h : failure.index = some (place : Int)) :
    failure.shift count = { failure with index := some ((place + count : Nat) : Int) } := by
  rw [shift, h]
  rfl

/-- The error of a failure that is moved on names its place and is the same otherwise. -/
theorem runError_shift (h : failure.index = some (place : Int)) :
    PatchResult.runError (failure.shift count) =
      "Operation " ++ toString (place + count) ++ " (" ++ PatchResult.operationTitle failure ++
        "): " ++ failure.message := by
  rw [shift_eq count h]
  rfl

end Failure

namespace Plan

variable {base middle : Plan} {log : List String} {first second : List PatchStep}

/-- A refused first part decides the whole. -/
theorem runSteps_append_of_refused {failure : Failure}
    (run : base.runSteps 0 [] first = .error (.failure failure)) :
    base.runSteps 0 [] (first ++ second) = .error (.failure failure) := by
  rw [runSteps_append, run]
  rfl

/-- After a first part that succeeds, the whole is the run of the second part from the plan and the
log that the first one leaves. -/
theorem runSteps_append_of_applied (run : base.runSteps 0 [] first = .ok (middle, log)) :
    base.runSteps 0 [] (first ++ second) =
      ((fun result => (result.1, log ++ result.2)) <$>
        middle.runSteps 0 [] second).mapError (Halt.shift first.length) := by
  rw [← runSteps_shift, runSteps_append, run]
  change middle.runSteps (0 + first.length) log second = _
  rw [List.append_nil]

end Plan

/-- **Patches in parts.** A patch whose first part is refused is refused in the same way. Otherwise
the first part leads to a plan, and the whole goes as the second part does from there: to the same
plan, with one log after the other, or to the same failure, some places further on. -/
theorem applyPatch_append {input : PlanInput} {base : Plan} (loads : input.load = .ok base)
    {first second : List Json} (hfirst : ∀ value ∈ first, Operation.PlainlyNamed value)
    (hsecond : ∀ value ∈ second, Operation.PlainlyNamed value) :
    ∃ result, applyPatch input (first.map .raw) = .ok result ∧
      match result with
      | .refused error failure =>
        applyPatch input ((first ++ second).map .raw) = .ok (.refused error failure)
      | .applied middle log =>
        ∃ rest, applyPatch (.parsed middle) (second.map .raw) = .ok rest ∧
          match rest with
          | .applied final more =>
            applyPatch input ((first ++ second).map .raw) = .ok (.applied final (log ++ more))
          | .refused _ failure =>
            ∃ place : Nat, place < second.length ∧ failure.index = some (place : Int) ∧
              applyPatch input ((first ++ second).map .raw) = .ok (.refused
                ("Operation " ++ toString (place + first.length) ++ " (" ++
                  PatchResult.operationTitle failure ++ "): " ++ failure.message)
                { failure with index := some ((place + first.length : Nat) : Int) }) := by
  have readFirst := PatchStep.readable_of_plain hfirst
  have readSecond := PatchStep.readable_of_plain hsecond
  rw [List.map_append]
  rcases base.runSteps_of_readable 0 [] readFirst with ⟨middle, log, run⟩ | ⟨failure, run⟩
  · have whole : base.runSteps 0 [] (first.map .raw ++ second.map .raw) = _ :=
      Plan.runSteps_append_of_applied run
    have reload : (PlanInput.parsed middle).load = .ok middle :=
      PlanInput.load_parsed ((PlanInput.distinct_of_load loads).runSteps run)
    refine ⟨.applied middle log, applyPatch_eq_applied_iff.mpr ⟨base, loads, run⟩, ?_⟩
    rcases middle.runSteps_of_readable 0 [] readSecond with ⟨final, more, later⟩ | ⟨failure, later⟩
    · rw [later] at whole
      exact ⟨.applied final more, applyPatch_eq_applied_iff.mpr ⟨middle, reload, later⟩,
        applyPatch_eq_applied_iff.mpr ⟨base, loads, whole⟩⟩
    · obtain ⟨place, inside, index⟩ := Plan.index_of_runSteps later
      rw [List.length_map] at inside
      rw [Nat.zero_add] at index
      rw [later, List.length_map] at whole
      refine ⟨_, applyPatch_of_refused reload later, place, inside, index, ?_⟩
      rw [← Failure.runError_shift _ index, ← Failure.shift_eq _ index]
      exact applyPatch_of_refused loads whole
  · exact ⟨_, applyPatch_of_refused loads run,
      applyPatch_of_refused loads (Plan.runSteps_append_of_refused run)⟩

/-- A task is added by the first part; the second part removes another one twice, and is refused. -/
theorem applyPatch_append_of_removal :
    let input : PlanInput := .raw (.obj [("tasks", .arr [.obj [("id", .str "a")]])])
    let first : List Json := [.obj [("op", .str "createTask"), ("task", .obj [("id", .str "b")])]]
    let removal : Json := .obj [("op", .str "deleteTask"), ("taskId", .str "a")]
    input.load = .ok ⟨.str "", [⟨"a", "", "", none, []⟩], []⟩ ∧
    (∀ value ∈ first, Operation.PlainlyNamed value) ∧
    (∀ value ∈ [removal, removal], Operation.PlainlyNamed value) ∧
    applyPatch input ((first ++ [removal, removal]).map .raw) = .ok (.refused
      "Operation 2 (deleteTask): Task with ID \"a\" not found."
      ⟨.absent .task .delete (.str "a"), some "deleteTask", .str "a", some 2⟩) := by
  intro input first removal
  have loads : input.load = .ok ⟨.str "", [⟨"a", "", "", none, []⟩], []⟩ := rfl
  have hfirst : ∀ value ∈ first, Operation.PlainlyNamed value := by
    simp [first, Operation.PlainlyNamed, Json.get?, Json.member?, Canvas.keyable]
  have hsecond : ∀ value ∈ [removal, removal], Operation.PlainlyNamed value := by
    simp [removal, Operation.PlainlyNamed, Json.get?, Json.member?, Canvas.keyable]
  refine ⟨loads, hfirst, hsecond, ?_⟩
  obtain ⟨result, start, whole⟩ := applyPatch_append loads hfirst hsecond
  have added : applyPatch input (first.map .raw) = .ok (.applied
      ⟨.str "", [⟨"a", "", "", none, []⟩, ⟨"b", "", "", none, []⟩], []⟩
      ["TASK ADDED: [b] title=\"\""]) := rfl
  rw [added] at start
  cases start
  obtain ⟨rest, later, whole⟩ := whole
  have removed : applyPatch
      (.parsed ⟨.str "", [⟨"a", "", "", none, []⟩, ⟨"b", "", "", none, []⟩], []⟩)
      ([removal, removal].map .raw) = .ok (.refused
        "Operation 1 (deleteTask): Task with ID \"a\" not found."
        ⟨.absent .task .delete (.str "a"), some "deleteTask", .str "a", some 1⟩) := rfl
  rw [removed] at later
  cases later
  obtain ⟨place, -, index, whole⟩ := whole
  have second : place = 1 := Int.ofNat.inj (Option.some.inj index).symm
  subst second
  rw [whole]
  simp only [first, List.length_cons, List.length_nil]
  rfl

end PlanGraph
