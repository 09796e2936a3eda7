import PlanGraph.Proofs.Patch.Reading

/-!
# Patches that have a result

Which patches have a result at all, and what it is where an operation cannot be read
(`applyPatch_returns_iff`).

* A value whose name of an operation is an array or an object cannot be looked up
  (`Operation.ofJson_eq_fault_iff`). Any other value is read as an operation or refused as invalid
  (`Operation.invalid_of_ofJson`).
* A run ends in a fault exactly at a step that ends in one, after steps that succeed
  (`Plan.runSteps_eq_fault_iff`). So a patch has a result exactly when each value that it comes to
  has a plain name.
* A value that is refused when its turn comes makes the patch refused at its place.
-/

namespace PlanGraph

/-! ## Values that cannot be read -/

namespace Operation

variable {value : Json} {failure : Failure}

/-- A value cannot be looked up when its name of an operation is an array or an object. -/
theorem ofJson_eq_fault_iff :
    (∃ fault, ofJson value = .error (.fault fault)) ↔ ¬ PlainlyNamed value := by
  constructor
  · rintro ⟨fault, read⟩ plain
    exact ofJson_ne_fault plain fault read
  · intro strange
    unfold PlainlyNamed at strange
    simp only [not_forall] at strange
    obtain ⟨name, named, keyless⟩ := strange
    rcases value with _ | _ | _ | _ | _ | _ | members <;>
      simp only [Json.get?, reduceCtorEq] at named
    rcases name with _ | _ | _ | _ | _ | items | fields
    case arr => exact ⟨.unkeyable, by simp [ofJson, named]⟩
    case obj => exact ⟨.unkeyable, by simp [ofJson, named]⟩
    all_goals exact absurd rfl keyless

/-- A payload that is missing is reported as invalid. -/
theorem kind_of_payload {key : Key} {kind : OperationKind} {members : List (String × Json)}
    (h : payload key kind members = .error failure) : failure.kind = "PlanValidationError" := by
  unfold payload at h
  split at h
  · cases h
  · cases h
    rfl

/-- Changes that are not sound are reported as invalid. -/
theorem kind_of_changesOf {kind : OperationKind} {target : Json} {members : List (String × Json)}
    (h : changesOf kind target members = .error failure) :
    failure.kind = "PlanValidationError" := by
  unfold changesOf at h
  split at h
  · cases h
  · split at h
    · cases h
    · cases h
      rfl

/-- An operation that needs a payload only is invalid without it. -/
theorem kind_of_payload_bind {α : Type} {key : Key} {kind : OperationKind}
    {members : List (String × Json)} {make : Json → Except Failure α}
    (h : payload key kind members >>= make = .error failure)
    (made : ∀ value, make value = .error failure → failure.kind = "PlanValidationError") :
    failure.kind = "PlanValidationError" := by
  rcases bind_eq_error_iff.mp h with missing | ⟨value, -, rest⟩
  · exact kind_of_payload missing
  · exact made value rest

/-- Members that make no operation are reported as invalid. -/
theorem kind_of_ofMembers {kind : OperationKind} {members : List (String × Json)}
    (h : ofMembers kind members = .error failure) : failure.kind = "PlanValidationError" := by
  -- an update also needs changes, which may be reported in their turn
  have update {id : Json} {make : Changes → Operation}
      (h : changesOf kind id members >>= (pure ∘ make) = .error failure) :
      failure.kind = "PlanValidationError" := by
    rcases bind_eq_error_iff.mp h with unsound | ⟨changes, -, made⟩
    · exact kind_of_changesOf unsound
    · cases made
  cases kind with
  | updateTitle => cases h
  | updateTask => exact kind_of_payload_bind h fun _ rest => update rest
  | updateVariable => exact kind_of_payload_bind h fun _ rest => update rest
  | _ => exact kind_of_payload_bind h fun _ made => nomatch made

/-- A value that is refused as an operation is reported as invalid. -/
theorem kind_of_ofJson (h : ofJson value = .error (.failure failure)) :
    failure.kind = "PlanValidationError" := by
  rcases value with _ | _ | _ | _ | _ | _ | members
  case obj =>
    simp only [ofJson] at h
    split at h
    · cases h
    · cases h
    · split at h
      · obtain ⟨found, read, same⟩ := mapError_eq_error_iff.mp h
        cases same
        exact kind_of_ofMembers read
      · cases h
        rfl
  all_goals
    cases h
    rfl

end Operation

/-! ## Runs that come to a step that cannot be read -/

/-- A step that cannot be read ends there. -/
theorem PatchStep.perform_of_unread {index : Nat} {plan : Plan} {step : PatchStep} {halt : Halt}
    (read : step.operation = .error halt) :
    step.perform index plan = .error (stamp index halt) := by
  rw [perform, read]
  rfl

namespace Plan

variable {index : Nat} {plan middle : Plan} {log done : List String}
  {before after steps : List PatchStep} {step : PatchStep}

/-- After steps that succeed, a run ends at a step that cannot be read. -/
theorem runSteps_of_unread {halt : Halt}
    (run : runSteps index plan log before = .ok (middle, done))
    (read : step.operation = .error halt) :
    runSteps index plan log (before ++ step :: after) =
      .error (PatchStep.stamp (index + before.length) halt) := by
  rw [runSteps_append, run, ok_bind, runSteps_cons, PatchStep.perform_of_unread read]
  rfl

/-- A run ends in a fault at a step that does, after steps that succeed. -/
theorem runSteps_eq_fault_iff {fault : Fault} :
    runSteps index plan log steps = .error (.fault fault) ↔
      ∃ before step after middle done, steps = before ++ step :: after ∧
        runSteps index plan log before = .ok (middle, done) ∧
        step.operation = .error (.fault fault) := by
  constructor
  · intro h
    induction steps generalizing index plan log with
    | nil => cases h
    | cons step rest ih =>
        rw [runSteps_cons] at h
        rcases bind_eq_error_iff.mp h with here | ⟨⟨next, entry⟩, first, later⟩
        · exact ⟨[], step, rest, plan, log, rfl, rfl, PatchStep.operation_eq_fault here⟩
        · obtain ⟨before, found, after, middle, done, rfl, run, read⟩ := ih later
          refine ⟨step :: before, found, after, middle, done, rfl, ?_, read⟩
          rw [runSteps_cons, first]
          exact run
  · rintro ⟨before, step, after, middle, done, rfl, run, read⟩
    exact runSteps_of_unread run read

end Plan

/-! ## Patches -/

/-- A patch ends in a fault when it comes to a value that does. -/
theorem applyPatch_eq_fault_iff {input : PlanInput} {values : List Json} {fault : Fault} :
    applyPatch input (values.map .raw) = .error fault ↔
      ∃ before value after middle log, values = before ++ value :: after ∧
        applyPatch input (before.map .raw) = .ok (.applied middle log) ∧
        Operation.ofJson value = .error (.fault fault) := by
  simp only [applyPatch_eq_applied_iff]
  rcases hload : input.load with failure | base
  · simp [applyPatch, hload]
  · have run : applyPatch input (values.map .raw) = .error fault ↔
        base.runSteps 0 [] (values.map .raw) = .error (.fault fault) := by
      rw [applyPatch_of_load hload]
      rcases base.runSteps 0 [] (values.map .raw) with (failure | other) | ⟨final, log⟩
      · simp [PatchResult.ofRun]
      · simp [PatchResult.ofRun]
      · simp [PatchResult.ofRun]
    rw [run, Plan.runSteps_eq_fault_iff]
    constructor
    · rintro ⟨before, step, after, middle, log, parts, applied, read⟩
      obtain ⟨first, rest, rfl, rfl, others⟩ := List.map_eq_append_iff.mp parts
      obtain ⟨value, later, rfl, rfl, rfl⟩ := List.map_eq_cons_iff.mp others
      exact ⟨first, value, later, middle, log, rfl, ⟨base, rfl, applied⟩, read⟩
    · rintro ⟨before, value, after, middle, log, rfl, ⟨found, load, applied⟩, read⟩
      obtain rfl : base = found := Except.ok.inj load
      exact ⟨before.map .raw, .raw value, after.map .raw, middle, log, by simp, applied, read⟩

section

variable {input : PlanInput} {before after : List Json} {value : Json}

/-- A patch with a value that is no operation is not applied. -/
theorem applyPatch_ne_applied (unread : ∀ operation, Operation.ofJson value ≠ .ok operation)
    (final : Plan) (log : List String) :
    applyPatch input ((before ++ value :: after).map .raw) ≠ .ok (.applied final log) := by
  intro applied
  obtain ⟨base, -, run⟩ := applyPatch_eq_applied_iff.mp applied
  rw [List.map_append, Plan.runSteps_append] at run
  obtain ⟨⟨middle, done⟩, -, later⟩ := bind_eq_ok_iff.mp run
  obtain ⟨⟨next, entry⟩, first, -⟩ := bind_eq_ok_iff.mp later
  obtain ⟨operation, read, -⟩ := PatchStep.perform_eq_ok_iff.mp first
  exact unread operation read

/-- A patch that comes to a value that is refused as an operation is refused at its place. -/
theorem applyPatch_of_unread {middle : Plan} {log : List String} {failure : Failure}
    (applied : applyPatch input (before.map .raw) = .ok (.applied middle log))
    (read : Operation.ofJson value = .error (.failure failure)) :
    applyPatch input ((before ++ value :: after).map .raw) = .ok (.refused
      (PatchResult.runError { failure with index := some (before.length : Int) })
      { failure with index := some (before.length : Int) }) := by
  obtain ⟨base, load, run⟩ := applyPatch_eq_applied_iff.mp applied
  have refused : (PatchStep.raw value).operation = .error (.failure failure) := read
  have ends : base.runSteps 0 [] ((before ++ value :: after).map .raw) =
      .error (.failure { failure with index := some (before.length : Int) }) := by
    rw [List.map_append, List.map_cons, Plan.runSteps_of_unread run refused, Nat.zero_add,
      List.length_map]
    rfl
  exact applyPatch_of_refused load ends

end

/-- **Patches that have a result.** A patch has a result exactly when each value that it comes to,
after values that are applied, has a plain name. A value that has one but cannot be read is never
applied with the others, and where the patch comes to it the patch is refused: as invalid, at the
place of the value, and with an error that begins with that place. -/
theorem applyPatch_returns_iff (input : PlanInput) (values : List Json) :
    ((∃ result, applyPatch input (values.map .raw) = .ok result) ↔
      ∀ before value after, values = before ++ value :: after →
        (∃ middle log, applyPatch input (before.map .raw) = .ok (.applied middle log)) →
        Operation.PlainlyNamed value) ∧
    ∀ before value after, values = before ++ value :: after → Operation.PlainlyNamed value →
      (∀ operation, Operation.ofJson value ≠ .ok operation) →
      (∀ final log, applyPatch input (values.map .raw) ≠ .ok (.applied final log)) ∧
      ∀ middle log, applyPatch input (before.map .raw) = .ok (.applied middle log) →
        ∃ error failure, applyPatch input (values.map .raw) = .ok (.refused error failure) ∧
          failure.kind = "PlanValidationError" ∧ failure.index = some (before.length : Int) ∧
          error = "Operation " ++ toString before.length ++ " (" ++
            PatchResult.operationTitle failure ++ "): " ++ failure.message := by
  constructor
  · constructor
    · rintro ⟨result, returns⟩ before value after parts ⟨middle, log, applied⟩
      by_contra strange
      obtain ⟨fault, read⟩ := Operation.ofJson_eq_fault_iff.mpr strange
      have ends : applyPatch input (values.map .raw) = .error fault :=
        applyPatch_eq_fault_iff.mpr ⟨before, value, after, middle, log, parts, applied, read⟩
      rw [returns] at ends
      cases ends
    · intro plain
      rcases h : applyPatch input (values.map .raw) with fault | result
      · obtain ⟨before, value, after, middle, log, parts, applied, read⟩ :=
          applyPatch_eq_fault_iff.mp h
        have named := plain before value after parts ⟨middle, log, applied⟩
        exact absurd read (Operation.ofJson_ne_fault named fault)
      · exact ⟨result, rfl⟩
  · rintro before value after rfl plain unread
    refine ⟨applyPatch_ne_applied unread, ?_⟩
    intro middle log applied
    rcases read : Operation.ofJson value with (failure | fault) | operation
    · have kind : failure.kind = "PlanValidationError" := Operation.kind_of_ofJson read
      exact ⟨_, _, applyPatch_of_unread applied read, kind, rfl, rfl⟩
    · exact absurd read (Operation.ofJson_ne_fault plain fault)
    · exact absurd read (unread operation)

/-- A value with an unknown name comes after a task that is added; a value that cannot be looked up
comes after it and is never come to. -/
theorem applyPatch_returns_iff_of_unknown :
    let first : Json := .obj [("op", .str "createTask"), ("task", .obj [("id", .str "a")])]
    let unknown : Json := .obj [("op", .str "renameTask"), ("title", .str "t")]
    let strange : Json := .obj [("op", .obj [])]
    ¬ Operation.PlainlyNamed strange ∧
      ∃ error failure, applyPatch (.raw (.obj [])) ([first, unknown, strange].map .raw) =
          .ok (.refused error failure) ∧
        failure.kind = "PlanValidationError" ∧ failure.index = some 1 ∧
        error = "Operation 1 (" ++ PatchResult.operationTitle failure ++ "): " ++
          failure.message := by
  intro first unknown strange
  have nameless : ¬ Operation.PlainlyNamed strange :=
    Operation.ofJson_eq_fault_iff.mp ⟨.unkeyable, rfl⟩
  have plain : Operation.PlainlyNamed unknown := by
    simp [unknown, Operation.PlainlyNamed, Json.get?, Json.member?, Canvas.keyable]
  have unread : ∀ operation, Operation.ofJson unknown ≠ .ok operation := by
    rintro operation ⟨⟩
  have applied : applyPatch (.raw (.obj [])) ([first].map .raw) =
      .ok (.applied ⟨.str "", [⟨"a", "", "", none, []⟩], []⟩ ["TASK ADDED: [a] title=\"\""]) := rfl
  obtain ⟨-, refused⟩ := applyPatch_returns_iff (.raw (.obj [])) [first, unknown, strange]
  obtain ⟨-, placed⟩ := refused [first] unknown [strange] rfl plain unread
  obtain ⟨error, failure, returns, kind, index, worded⟩ := placed _ _ applied
  have opening : "Operation " ++ toString [first].length ++ " (" = "Operation 1 (" := by decide
  rw [opening] at worded
  exact ⟨nameless, error, failure, returns, kind, index, worded⟩

/-- A value whose name of an operation is an array leaves a patch without a result. -/
theorem applyPatch_eq_unkeyable :
    applyPatch (.raw (.obj [])) [.raw (.obj [("op", .arr [])])] = .error .unkeyable := rfl

end PlanGraph
