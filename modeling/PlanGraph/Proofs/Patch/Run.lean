import PlanGraph.Proofs.Patch.Effect

/-!
# Runs of operations

A patch carries out its operations one after another. What one operation can do (`Effect`) is
carried over to whole runs here.

* A step succeeds exactly when its value can be read and the operation takes effect
  (`PatchStep.perform_eq_ok_iff`).
* What every effect keeps, a run keeps (`Plan.runSteps_induction`).
* A run succeeds exactly when every step can be read and the operations take effect one after
  another (`Plan.runSteps_eq_ok_iff`).
* A run over two lists is the run over the first followed by the run over the second
  (`Plan.runSteps_append`).
* A run that begins later, with a log that is not empty, differs from one that begins at zero in
  the places it reports and in the beginning of its log alone (`Plan.runSteps_shift`).
-/

namespace PlanGraph

/-! ## Places of failures -/

/-- The failure, with its operation some places further on. -/
def Failure.shift (count : Nat) (failure : Failure) : Failure :=
  { failure with index := failure.index.map (· + count) }

/-- The end of a request, with its operation some places further on. -/
def Halt.shift (count : Nat) : Halt → Halt
  | .failure found => .failure (found.shift count)
  | .fault found => .fault found

namespace PatchStep

/-- A place that is stamped later is the earlier place moved on. -/
theorem stamp_add (index count : Nat) (halt : Halt) :
    stamp (index + count) halt = (stamp index halt).shift count := by
  rcases halt with failure | fault
  · simp [stamp, Halt.shift, Failure.shift]
  · rfl

variable {index : Nat} {plan next : Plan} {entry : Option String} {step : PatchStep}

/-- A step at a later place fails there and does the same otherwise. -/
theorem perform_add (count : Nat) :
    step.perform (index + count) plan = (step.perform index plan).mapError (Halt.shift count) := by
  unfold perform
  rcases (do
    let operation ← step.operation
    (operation.perform plan).mapError Halt.failure : Except Halt (Plan × Option String))
    with halt | result
  · rw [mapError_error, mapError_error, mapError_error, stamp_add]
  · rfl

/-- A step succeeds when its operation can be read and takes effect. -/
theorem perform_eq_ok_iff :
    step.perform index plan = .ok (next, entry) ↔
      ∃ operation, step.operation = .ok operation ∧ operation.Performs plan next entry := by
  unfold perform
  rw [mapError_eq_ok_iff, bind_eq_ok_iff]
  simp only [mapError_eq_ok_iff, Operation.perform_eq_ok_iff]

/-- A step that is refused says at which place it stands. -/
theorem index_of_perform {failure : Failure}
    (h : step.perform index plan = .error (.failure failure)) :
    failure.index = some (index : Int) := by
  obtain ⟨halt, -, stamped⟩ := mapError_eq_error_iff.mp h
  rcases halt with found | fault
  · cases stamped
    rfl
  · cases stamped

/-- Only a step that cannot be read ends in a fault. -/
theorem operation_eq_fault {fault : Fault} (h : step.perform index plan = .error (.fault fault)) :
    step.operation = .error (.fault fault) := by
  obtain ⟨halt, run, stamped⟩ := mapError_eq_error_iff.mp h
  rcases halt with found | fault'
  · cases stamped
  · cases stamped
    rcases hread : step.operation with halt | operation
    · rw [hread] at run
      cases run
      rfl
    · rw [hread] at run
      obtain ⟨failure, -, mapped⟩ := mapError_eq_error_iff.mp run
      cases mapped

end PatchStep

/-! ## Runs -/

namespace Plan

variable {index : Nat} {plan final : Plan} {log entries : List String} {steps : List PatchStep}

/-- A run begins with its first step. -/
theorem runSteps_cons (step : PatchStep) (rest : List PatchStep) :
    runSteps index plan log (step :: rest) =
      step.perform index plan >>= fun result =>
        runSteps (index + 1) result.1 (log ++ result.2.toList) rest := rfl

/-- Operations take effect one after another, and leave a log. -/
inductive Undergoes : Plan → List Operation → Plan → List String → Prop where
  /-- Without operations the plan stays. -/
  | nil {plan : Plan} : Undergoes plan [] plan []
  /-- The first operation takes effect, and the others follow. -/
  | cons {plan next final : Plan} {operation : Operation} {rest : List Operation}
      {entry : Option String} {log : List String} (first : operation.Performs plan next entry)
      (later : Undergoes next rest final log) :
      Undergoes plan (operation :: rest) final (entry.toList ++ log)

/-- A run succeeds when its steps can be read as operations that take effect one after another. -/
theorem runSteps_eq_ok_iff :
    runSteps index plan log steps = .ok (final, entries) ↔
      ∃ operations added, List.Forall₂ (fun step operation => step.operation = .ok operation)
          steps operations ∧
        plan.Undergoes operations final added ∧ entries = log ++ added := by
  induction steps generalizing index plan log with
  | nil =>
      constructor
      · intro h
        cases h
        exact ⟨[], [], .nil, .nil, (List.append_nil _).symm⟩
      · rintro ⟨operations, added, read, effects, rfl⟩
        cases read
        cases effects
        rw [List.append_nil]
        rfl
  | cons step rest ih =>
      rw [runSteps_cons, bind_eq_ok_iff]
      constructor
      · rintro ⟨⟨next, entry⟩, first, later⟩
        obtain ⟨operation, read, performs⟩ := PatchStep.perform_eq_ok_iff.mp first
        obtain ⟨operations, added, reads, effects, rfl⟩ := ih.mp later
        exact ⟨operation :: operations, entry.toList ++ added, .cons read reads,
          .cons performs effects, List.append_assoc _ _ _⟩
      · rintro ⟨operations, added, reads, effects, rfl⟩
        cases reads with
        | cons read reads =>
            cases effects with
            | @cons _ next _ _ _ entry added performs effects =>
                have first : step.perform index plan = .ok (next, entry) :=
                  PatchStep.perform_eq_ok_iff.mpr ⟨_, read, performs⟩
                exact ⟨(next, entry), first, ih.mpr
                  ⟨_, added, reads, effects, (List.append_assoc _ _ _).symm⟩⟩

/-- What every effect of the operations of a run keeps is kept by the run. -/
theorem runSteps_induction {motive : Plan → Prop}
    (each : ∀ step ∈ steps, ∀ operation, step.operation = .ok operation →
      ∀ plan next entry, operation.Performs plan next entry → motive plan → motive next)
    (h : runSteps index plan log steps = .ok (final, entries)) (start : motive plan) :
    motive final := by
  induction steps generalizing index plan log with
  | nil =>
      cases h
      exact start
  | cons step rest ih =>
      rw [runSteps_cons] at h
      obtain ⟨⟨next, entry⟩, first, later⟩ := bind_eq_ok_iff.mp h
      obtain ⟨operation, read, performs⟩ := PatchStep.perform_eq_ok_iff.mp first
      refine ih (fun step hstep => each step (List.mem_cons_of_mem _ hstep)) later ?_
      exact each step List.mem_cons_self operation read plan next entry performs start

/-- Ids stay distinct in a run. -/
theorem Distinct.runSteps (ids : plan.Distinct)
    (h : runSteps index plan log steps = .ok (final, entries)) : final.Distinct :=
  runSteps_induction (fun _ _ _ _ _ _ _ performs => performs.distinct) h ids

/-- A sound plan stays sound in a run. -/
theorem Sound.runSteps (sound : plan.Sound)
    (h : runSteps index plan log steps = .ok (final, entries)) : final.Sound :=
  runSteps_induction (fun _ _ _ _ _ _ _ performs => performs.sound) h sound

/-- A run over two lists is a run over the first and then one over the second. -/
theorem runSteps_append (first second : List PatchStep) :
    runSteps index plan log (first ++ second) =
      runSteps index plan log first >>= fun result =>
        runSteps (index + first.length) result.1 result.2 second := by
  induction first generalizing index plan log with
  | nil => rfl
  | cons step rest ih =>
      rw [List.cons_append, runSteps_cons, runSteps_cons, bind_assoc]
      refine congrArg _ (funext fun result => ?_)
      rw [ih, List.length_cons, Nat.add_right_comm, Nat.add_assoc]

/-- A run that begins later with a log that is not empty. -/
theorem runSteps_shift (count : Nat) (earlier : List String) :
    runSteps (index + count) plan (earlier ++ log) steps =
      ((fun result => (result.1, earlier ++ result.2)) <$>
        runSteps index plan log steps).mapError (Halt.shift count) := by
  induction steps generalizing index plan log with
  | nil => rfl
  | cons step rest ih =>
      rw [runSteps_cons, runSteps_cons, PatchStep.perform_add]
      rcases step.perform index plan with halt | ⟨next, entry⟩
      · rfl
      · change runSteps (index + count + 1) next (earlier ++ log ++ entry.toList) rest =
          ((fun result => (result.1, earlier ++ result.2)) <$>
            runSteps (index + 1) next (log ++ entry.toList) rest).mapError (Halt.shift count)
        rw [← ih, Nat.add_right_comm, List.append_assoc]

/-- Steps that do the same make a run that does the same. -/
theorem runSteps_congr {others : List PatchStep}
    (each : List.Forall₂ (fun step other : PatchStep =>
      ∀ index plan, step.perform index plan = other.perform index plan) steps others) :
    runSteps index plan log steps = runSteps index plan log others := by
  induction each generalizing index plan log with
  | nil => rfl
  | cons same _ ih =>
      rw [runSteps_cons, runSteps_cons, same]
      exact congrArg _ (funext fun _ => ih)

/-- A run that is refused says at which of its places. -/
theorem index_of_runSteps {failure : Failure}
    (h : runSteps index plan log steps = .error (.failure failure)) :
    ∃ place, place < steps.length ∧ failure.index = some ((index + place : Nat) : Int) := by
  induction steps generalizing index plan log with
  | nil => cases h
  | cons step rest ih =>
      rw [runSteps_cons] at h
      rcases hstep : step.perform index plan with halt | ⟨next, entry⟩
      · rw [hstep] at h
        cases h
        exact ⟨0, Nat.succ_pos _, PatchStep.index_of_perform hstep⟩
      · rw [hstep] at h
        obtain ⟨place, inside, found⟩ := ih h
        refine ⟨place + 1, Nat.succ_lt_succ inside, ?_⟩
        rw [found, Nat.add_assoc, Nat.add_comm 1 place]

/-- A run whose steps can all be looked at ends in no fault. -/
theorem runSteps_ne_fault {fault : Fault}
    (readable : ∀ step ∈ steps, ∀ fault, step.operation ≠ .error (.fault fault)) :
    runSteps index plan log steps ≠ .error (.fault fault) := by
  induction steps generalizing index plan log with
  | nil =>
      intro h
      cases h
  | cons step rest ih =>
      intro h
      rw [runSteps_cons] at h
      rcases hstep : step.perform index plan with halt | ⟨next, entry⟩
      · rw [hstep] at h
        cases h
        exact readable step List.mem_cons_self fault (PatchStep.operation_eq_fault hstep)
      · rw [hstep] at h
        exact ih (fun step hstep => readable step (List.mem_cons_of_mem _ hstep)) h

/-- A run whose steps can all be looked at succeeds or is refused. -/
theorem runSteps_of_readable (index : Nat) (plan : Plan) (log : List String)
    (readable : ∀ step ∈ steps, ∀ fault, step.operation ≠ .error (.fault fault)) :
    (∃ final entries, runSteps index plan log steps = .ok (final, entries)) ∨
      ∃ failure, runSteps index plan log steps = .error (.failure failure) := by
  rcases h : runSteps index plan log steps with (failure | fault) | ⟨final, entries⟩
  · exact Or.inr ⟨failure, rfl⟩
  · exact absurd h (runSteps_ne_fault readable)
  · exact Or.inl ⟨final, entries, rfl⟩

end Plan

/-! ## Patches -/

/-- A patch of a plan that loads is a run from the beginning. -/
theorem applyPatch_of_load {input : PlanInput} {base : Plan} (h : input.load = .ok base)
    (steps : List PatchStep) :
    applyPatch input steps = PatchResult.ofRun (base.runSteps 0 [] steps) := by
  simp only [applyPatch, h]

/-- A plan with distinct ids loads as it is. -/
theorem PlanInput.load_parsed {plan : Plan} (ids : plan.Distinct) :
    (PlanInput.parsed plan).load = .ok plan :=
  Plan.distinct_eq_ok_iff.mpr ⟨rfl, ids⟩

/-- A patch is applied when the plan loads and the whole run succeeds. -/
theorem applyPatch_eq_applied_iff {input : PlanInput} {steps : List PatchStep} {final : Plan}
    {log : List String} :
    applyPatch input steps = .ok (.applied final log) ↔
      ∃ base, input.load = .ok base ∧ base.runSteps 0 [] steps = .ok (final, log) := by
  unfold applyPatch
  rcases input.load with failure | base
  · simp
  · rcases hrun : base.runSteps 0 [] steps with (failure | fault) | ⟨last, entries⟩
    · simp [PatchResult.ofRun, hrun]
    · simp [PatchResult.ofRun, hrun]
    · simp [PatchResult.ofRun, hrun]

/-- A patch is applied when its steps can be read as operations that take effect one after
another. -/
theorem applyPatch_of_undergoes {input : PlanInput} {base final : Plan} {steps : List PatchStep}
    {operations : List Operation} {log : List String} (loads : input.load = .ok base)
    (reads : List.Forall₂ (fun step operation => step.operation = .ok operation) steps operations)
    (effects : base.Undergoes operations final log) :
    applyPatch input steps = .ok (.applied final log) :=
  applyPatch_eq_applied_iff.mpr ⟨base, loads,
    Plan.runSteps_eq_ok_iff.mpr ⟨operations, log, reads, effects, rfl⟩⟩

/-- A patch of values is applied when the plan loads, every value can be read and the operations
take effect one after another. -/
theorem applyPatch_raw_eq_applied_iff {input : PlanInput} {values : List Json} {final : Plan}
    {log : List String} :
    applyPatch input (values.map .raw) = .ok (.applied final log) ↔
      ∃ base operations, input.load = .ok base ∧
        List.Forall₂ (fun value operation => Operation.ofJson value = .ok operation)
          values operations ∧
        base.Undergoes operations final log := by
  rw [applyPatch_eq_applied_iff]
  simp only [Plan.runSteps_eq_ok_iff, List.forall₂_map_left_iff, List.nil_append]
  constructor
  · rintro ⟨base, loads, operations, added, reads, effects, rfl⟩
    exact ⟨base, operations, loads, reads, effects⟩
  · rintro ⟨base, operations, loads, reads, effects⟩
    exact ⟨base, loads, operations, log, reads, effects, rfl⟩

/-- A patch is refused when the run of a plan that loads is. -/
theorem applyPatch_of_refused {input : PlanInput} {base : Plan} {steps : List PatchStep}
    {failure : Failure} (h : input.load = .ok base)
    (run : base.runSteps 0 [] steps = .error (.failure failure)) :
    applyPatch input steps = .ok (.refused (PatchResult.runError failure) failure) := by
  rw [applyPatch_of_load h, run]
  rfl

/-- A patch of one step does what the operation of the step does. -/
theorem applyPatch_single {input : PlanInput} {base : Plan} {step : PatchStep}
    {operation : Operation} (loads : input.load = .ok base)
    (read : step.operation = .ok operation) :
    applyPatch input [step] = .ok (match operation.perform base with
      | .ok (next, entry) => .applied next entry.toList
      | .error failure =>
        .refused (PatchResult.runError { failure with index := some 0 })
          { failure with index := some 0 }) := by
  rw [applyPatch_of_load loads, Plan.runSteps_cons, PatchStep.perform, read]
  rcases h : operation.perform base with failure | ⟨next, entry⟩
  · rw [ok_bind, h]
    rfl
  · rw [ok_bind, h]
    rfl

/-- A patch whose steps can all be looked at has a result. -/
theorem applyPatch_returns {steps : List PatchStep}
    (readable : ∀ step ∈ steps, ∀ fault, step.operation ≠ .error (.fault fault))
    (input : PlanInput) : ∃ result, applyPatch input steps = .ok result := by
  rcases hload : input.load with failure | base
  · refine ⟨.refused failure.message failure, ?_⟩
    simp only [applyPatch, hload]
  · rcases base.runSteps_of_readable 0 [] readable with ⟨final, log, run⟩ | ⟨failure, run⟩
    · exact ⟨.applied final log, applyPatch_eq_applied_iff.mpr ⟨base, hload, run⟩⟩
    · exact ⟨_, applyPatch_of_refused hload run⟩

end PlanGraph
