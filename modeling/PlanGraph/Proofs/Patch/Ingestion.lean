import PlanGraph.Patch.Envelope
import PlanGraph.Proofs.Patch.Reading

/-!
# Two ways to give operations

Operations may be given as values, to be read one by one as a patch is applied, or they may come
from an envelope, which checks all of them before. For values that an envelope accepts, the two ways
lead to the same result on every plan (`applyPatch_envelope`).

Reading alone does not give equal operations: the body of something to be created stays a value in
the one way and is checked in the other. So the proof goes through a relation between operations
(`Operation.Settles`). Related operations do the same to every plan (`Settles.perform_eq`), and what
an envelope makes of a value is related to what is read from it (`OperationForm.settles`).
-/

namespace PlanGraph

/-! ## Operations whose body was checked before -/

namespace Operation

/-- The second operation is the first one, its body checked if it has one. -/
inductive Settles : Operation → Operation → Prop where
  /-- An operation without a body is the same in both ways. -/
  | same (operation : Operation) : Settles operation operation
  /-- The body of a created task is checked. -/
  | createTask {value : Json} {task : Task} (passed : Task.check value = .passed task) :
      Settles (.createTask (.raw value)) (.createTask (.checked task))
  /-- The body of a created variable is checked. -/
  | createVariable {value : Json} {input : Variable}
      (passed : Variable.check value = .passed input) :
      Settles (.createVariable (.raw value)) (.createVariable (.checked input))

/-- A body that passes is the task that it passes as. -/
theorem taskBody_raw {value : Json} {task : Task} (passed : Task.check value = .passed task) :
    taskBody (.raw value) = .ok task :=
  mapError_eq_ok_iff.mpr (Checked.orFail_eq_ok_iff.mpr passed)

/-- A body that passes is the variable that it passes as. -/
theorem variableBody_raw {value : Json} {input : Variable}
    (passed : Variable.check value = .passed input) : variableBody (.raw value) = .ok input :=
  mapError_eq_ok_iff.mpr (Checked.orFail_eq_ok_iff.mpr passed)

/-- A variable that passed before passes once more. -/
theorem variableBody_checked {input : Variable} (typed : input.wellTyped = true) :
    variableBody (.checked input) = .ok input :=
  mapError_eq_ok_iff.mpr (Variable.recheck_eq_ok_iff.mpr ⟨rfl, typed⟩)

/-- Checking the body before changes nothing about what an operation does, or why it is refused. -/
theorem Settles.perform_eq {operation settled : Operation} (h : operation.Settles settled)
    (plan : Plan) : operation.perform plan = settled.perform plan := by
  cases h with
  | same => rfl
  | @createTask value task passed =>
      change createTaskIn plan _ = createTaskIn plan _
      rw [createTaskIn, createTaskIn, taskBody_raw passed]
      rfl
  | @createVariable value input passed =>
      change createVariableIn plan _ = createVariableIn plan _
      rw [createVariableIn, createVariableIn, variableBody_raw passed,
        variableBody_checked (Variable.wellTyped_of_check passed)]

end Operation

/-! ## Forms -/

namespace OperationForm

open Operation

variable {members : List (String × Json)} {form : OperationForm}

/-- The members of a form pass when each of them does. -/
theorem checkMembers_eq_passed_iff :
    checkMembers members = .passed form ↔
      Key.required (.word "op") Json.checkText members = .passed form.op ∧
      Changes.checkMember (.word "title") Json.checkText members = .passed form.title ∧
      Changes.checkMember ⟨"taskId", "task_id"⟩ Json.checkText members = .passed form.taskId ∧
      Changes.checkMember (.word "task") Task.check members = .passed form.task ∧
      Changes.checkMember .variableId Json.checkText members = .passed form.variableId ∧
      Changes.checkMember (.word "variable") Variable.check members = .passed form.input ∧
      Changes.checkMember (.word "data") Changes.check members = .passed form.changes := by
  obtain ⟨op, title, taskId, task, variableId, input, changes⟩ := form
  simp only [checkMembers, Checked.seq_eq_passed_iff, Checked.map_eq_passed_iff]
  constructor
  · rintro ⟨_, _, ⟨_, _, ⟨_, _, ⟨_, _, ⟨_, _, ⟨_, _, ⟨_, h₁, rfl⟩, h₂, rfl⟩, h₃, rfl⟩, h₄, rfl⟩,
      h₅, rfl⟩, h₆, rfl⟩, h₇, made⟩
    cases made
    exact ⟨h₁, h₂, h₃, h₄, h₅, h₆, h₇⟩
  · rintro ⟨h₁, h₂, h₃, h₄, h₅, h₆, h₇⟩
    exact ⟨_, _, ⟨_, _, ⟨_, _, ⟨_, _, ⟨_, _, ⟨_, _, ⟨_, h₁, rfl⟩, h₂, rfl⟩, h₃, rfl⟩, h₄, rfl⟩,
      h₅, rfl⟩, h₆, rfl⟩, h₇, rfl⟩

/-- A needed payload is there. -/
theorem needed_eq_ok_iff {α : Type} {key : String} {kind : OperationKind} {given : Option α}
    {a : α} : needed key kind given = .ok a ↔ given = some a := by
  rcases given with _ | value
  · simp [needed]
  · simp [needed]

/-- A needed id is there and not empty. -/
theorem neededId_eq_ok_iff {key : String} {kind : OperationKind} {given : Option String}
    {id : Json} :
    neededId key kind given = .ok id ↔
      ∃ text, given = some text ∧ text ≠ "" ∧ Json.str text = id := by
  simp only [neededId, map_eq_ok_iff, needed_eq_ok_iff, Option.filter_eq_some_iff, and_assoc,
    decide_eq_true_eq]

/-- The payload of a form is read from its members, provided that the empty text does not pass. -/
theorem payload_of_checkMember {α : Type} {check : Json → Checked α} {name : String} {a : α}
    (proper : check (.str "") ≠ .passed a) (kind : OperationKind)
    (h : Changes.checkMember (.word name) check members = .passed (some a)) :
    ∃ value, payload (.word name) kind members = .ok value ∧ check value = .passed a := by
  obtain ⟨value, found, nonnull, passed⟩ := Changes.checkMember_eq_some_iff.mp h
  refine ⟨value, payload_eq_ok_iff.mpr ⟨found, nonnull, ?_⟩, passed⟩
  rintro rfl
  exact proper passed

/-- The id that a form works on is read from its members. -/
theorem payload_of_neededId {key : Key} {name : String} {given : Option String} {id : Json}
    (kind : OperationKind)
    (h : Changes.checkMember key Json.checkText members = .passed given)
    (needs : neededId name kind given = .ok id) : payload key kind members = .ok id := by
  obtain ⟨text, rfl, nonempty, rfl⟩ := neededId_eq_ok_iff.mp needs
  obtain ⟨value, found, nonnull, passed⟩ := Changes.checkMember_eq_some_iff.mp h
  obtain rfl := Json.checkText_eq_passed_iff.mp passed
  refine payload_eq_ok_iff.mpr ⟨found, nonnull, ?_⟩
  intro empty
  exact nonempty (Json.str.inj empty)

/-- The changes of a form are read from its members, and none of them where there are none. -/
theorem changesOf_of_checkMember {changes : Option Changes} (kind : OperationKind) (target : Json)
    (h : Changes.checkMember (.word "data") Changes.check members = .passed changes) :
    changesOf kind target members = .ok (changes.getD .none) := by
  unfold changesOf
  rcases changes with _ | changes
  · have absent := Changes.checkMember_eq_none_iff.mp h
    rw [Key.value?_word] at absent
    rw [absent]
    rfl
  · obtain ⟨value, found, nonnull, passed⟩ := Changes.checkMember_eq_some_iff.mp h
    rw [Key.value?_word] at found
    rw [found, Option.getD_some]
    split
    · exact absurd rfl nonnull
    · rw [passed]
      rfl

/-- The title of a form is read from its members. -/
theorem title_of_checkMember {title : Option String}
    (h : Changes.checkMember (.word "title") Json.checkText members = .passed title) :
    ofMembers .updateTitle members = .ok (.updateTitle (title.map Json.str)) := by
  unfold ofMembers
  rcases title with _ | text
  · have absent := Changes.checkMember_eq_none_iff.mp h
    rw [Key.value?_word] at absent
    rw [absent]
    rfl
  · obtain ⟨value, found, -, passed⟩ := Changes.checkMember_eq_some_iff.mp h
    obtain rfl := Json.checkText_eq_passed_iff.mp passed
    rw [Key.value?_word] at found
    rw [found]
    rfl

/-- The members of a form that is complete are read as an operation, whose body the form checked. -/
theorem settles_ofMembers {kind : OperationKind} {settled : Operation}
    (h : checkMembers members = .passed form) (complete : form.complete kind = .ok settled) :
    ∃ operation, ofMembers kind members = .ok operation ∧ operation.Settles settled := by
  obtain ⟨-, title, taskId, task, inputId, input, changes⟩ := checkMembers_eq_passed_iff.mp h
  cases kind with
  | updateTitle =>
      cases complete
      exact ⟨_, title_of_checkMember title, .same _⟩
  | createTask =>
      obtain ⟨body, needs, rfl⟩ := map_eq_ok_iff.mp complete
      rw [needed_eq_ok_iff.mp needs] at task
      have proper : Task.check (.str "") ≠ .passed body := by simp [Task.check, Json.checkRecord]
      obtain ⟨value, read, passed⟩ := payload_of_checkMember proper .createTask task
      exact ⟨_, bind_eq_ok_iff.mpr ⟨value, read, rfl⟩, .createTask passed⟩
  | updateTask =>
      obtain ⟨id, needs, rfl⟩ := map_eq_ok_iff.mp complete
      have read := payload_of_neededId .updateTask taskId needs
      have changed := changesOf_of_checkMember .updateTask (taskTarget id) changes
      exact ⟨_, bind_eq_ok_iff.mpr ⟨id, read, bind_eq_ok_iff.mpr ⟨_, changed, rfl⟩⟩, .same _⟩
  | deleteTask =>
      obtain ⟨id, needs, rfl⟩ := map_eq_ok_iff.mp complete
      have read := payload_of_neededId .deleteTask taskId needs
      exact ⟨_, bind_eq_ok_iff.mpr ⟨id, read, rfl⟩, .same _⟩
  | createVariable =>
      obtain ⟨body, needs, rfl⟩ := map_eq_ok_iff.mp complete
      rw [needed_eq_ok_iff.mp needs] at input
      have proper : Variable.check (.str "") ≠ .passed body := by
        simp [Variable.check, Json.checkRecord]
      obtain ⟨value, read, passed⟩ := payload_of_checkMember proper .createVariable input
      exact ⟨_, bind_eq_ok_iff.mpr ⟨value, read, rfl⟩, .createVariable passed⟩
  | updateVariable =>
      obtain ⟨id, needs, rfl⟩ := map_eq_ok_iff.mp complete
      have read := payload_of_neededId .updateVariable inputId needs
      have changed := changesOf_of_checkMember .updateVariable id changes
      exact ⟨_, bind_eq_ok_iff.mpr ⟨id, read, bind_eq_ok_iff.mpr ⟨_, changed, rfl⟩⟩, .same _⟩
  | deleteVariable =>
      obtain ⟨id, needs, rfl⟩ := map_eq_ok_iff.mp complete
      have read := payload_of_neededId .deleteVariable inputId needs
      exact ⟨_, bind_eq_ok_iff.mpr ⟨id, read, rfl⟩, .same _⟩

/-- A value that passes as a complete form is read as an operation, whose body the form checked. -/
theorem settles {value : Json} {settled : Operation} (h : check value = .passed form)
    (complete : form.toOperation = .ok settled) :
    ∃ operation, Operation.ofJson value = .ok operation ∧ operation.Settles settled := by
  obtain ⟨members, rfl, passes⟩ := Json.checkRecord_eq_passed_iff.mp h
  unfold toOperation at complete
  split at complete
  · rename_i kind known
    obtain ⟨operation, read, related⟩ := settles_ofMembers passes complete
    obtain ⟨name, found, text⟩ :=
      Key.required_eq_passed_iff.mp (checkMembers_eq_passed_iff.mp passes).1
    obtain rfl := Json.checkText_eq_passed_iff.mp text
    rw [Key.value?_word] at found
    exact ⟨operation, ofJson_eq_ok_iff.mpr ⟨members, _, kind, rfl, found, known, read⟩, related⟩
  · cases complete

/-- A form that passes as complete is an operation. -/
theorem checkComplete_eq_passed_iff {operation : Operation} :
    form.checkComplete = .passed operation ↔ form.toOperation = .ok operation := by
  unfold checkComplete
  rcases form.toOperation with issue | found
  · simp
  · simp

end OperationForm

/-! ## Envelopes -/

/-- Values that pass as forms, all of them complete, are read as operations one by one. -/
theorem OperationForm.settles_items {values : List Json} {forms : List OperationForm}
    {settled : List Operation}
    (checked : List.Forall₂ (fun value form => check value = .passed form) values forms)
    (complete : List.Forall₂ (fun form operation => checkComplete form = .passed operation)
      forms settled) :
    List.Forall₂ (fun value given =>
        ∃ operation, Operation.ofJson value = .ok operation ∧ operation.Settles given)
      values settled := by
  induction checked generalizing settled with
  | nil =>
      cases complete
      exact .nil
  | cons passes _ ih =>
      rcases complete with _ | ⟨completes, others⟩
      exact .cons (settles passes (checkComplete_eq_passed_iff.mp completes)) (ih others)

/-- The list of an envelope passes item by item. -/
theorem EnvelopeForm.forms_of_check {value : Json} {form : EnvelopeForm}
    (h : check value = .passed form) :
    List.Forall₂ (fun item form => OperationForm.check item = .passed form)
      (value.itemsOf "operations") form.operations := by
  obtain ⟨members, rfl, passes⟩ := Json.checkRecord_eq_passed_iff.mp h
  obtain ⟨_, forms, header, listed, rfl⟩ := Checked.seq_eq_passed_iff.mp passes
  obtain ⟨planId, -, rfl⟩ := Checked.map_eq_passed_iff.mp header
  obtain ⟨_, found, items⟩ := Key.required_eq_passed_iff.mp listed
  obtain ⟨operations, rfl, checked⟩ := Json.checkItems_eq_passed_iff.mp items
  have given : (Json.obj members).get? "operations" = some (.arr operations) :=
    (Key.value?_word _ _).symm.trans found
  rw [Json.itemsOf, given]
  exact checked

/-- An envelope holds the operations that the forms in its list stand for. -/
theorem Envelope.exists_forms_of_ofJson {value : Json} {envelope : Envelope}
    (h : Envelope.ofJson value = .ok envelope) :
    ∃ forms, List.Forall₂ (fun item form => OperationForm.check item = .passed form)
        (value.itemsOf "operations") forms ∧
      List.Forall₂ (fun form operation => OperationForm.checkComplete form = .passed operation)
        forms envelope.operations := by
  unfold Envelope.ofJson at h
  split at h
  · cases h
  · rename_i form structured
    obtain ⟨settled, complete, rfl⟩ := map_eq_ok_iff.mp h
    have completes := Checked.itemsFrom_eq_passed_iff.mp
      (Checked.under_eq_passed_iff.mp (Checked.orFail_eq_ok_iff.mp complete))
    have checked := EnvelopeForm.forms_of_check (Checked.orFail_eq_ok_iff.mp structured)
    exact ⟨form.operations, checked, completes⟩

/-- Each operation of an envelope is read from the value in its place, with the body checked. -/
theorem Envelope.settles_of_ofJson {operations : List Json} {envelope : Envelope}
    (h : Envelope.ofJson (.obj [("operations", .arr operations)]) = .ok envelope) :
    List.Forall₂ (fun value settled =>
        ∃ operation, Operation.ofJson value = .ok operation ∧ operation.Settles settled)
      operations envelope.operations := by
  obtain ⟨forms, checked, completes⟩ := Envelope.exists_forms_of_ofJson h
  exact OperationForm.settles_items checked completes

/-! ## Patches -/

/-- A value and an operation that settles it make steps that do the same. -/
theorem PatchStep.perform_raw_eq {value : Json} {operation settled : Operation}
    (read : Operation.ofJson value = .ok operation) (related : operation.Settles settled)
    (index : Nat) (plan : Plan) :
    (PatchStep.raw value).perform index plan = (PatchStep.ready settled).perform index plan := by
  have first : (PatchStep.raw value).operation = .ok operation := read
  have second : (PatchStep.ready settled).operation = .ok settled := rfl
  unfold perform
  rw [first, second]
  change ((operation.perform plan).mapError Halt.failure).mapError (stamp index) =
    ((settled.perform plan).mapError Halt.failure).mapError (stamp index)
  rw [related.perform_eq]

/-- **Two ways, one result.** Values that an envelope accepts have the same effect on every plan
whether they are given as they are or as the operations of the envelope, and that effect is a result
in both ways, never a fault. -/
theorem applyPatch_envelope {operations : List Json} {envelope : Envelope}
    (h : Envelope.ofJson (.obj [("operations", .arr operations)]) = .ok envelope)
    (input : PlanInput) :
    ∃ result, applyPatch input (operations.map .raw) = .ok result ∧
      applyPatch input (envelope.operations.map .ready) = .ok result := by
  have settled := Envelope.settles_of_ofJson h
  have readable : ∀ step ∈ envelope.operations.map PatchStep.ready, ∀ fault,
      step.operation ≠ .error (.fault fault) := by
    intro step hstep fault
    obtain ⟨operation, -, rfl⟩ := List.mem_map.mp hstep
    simp [PatchStep.operation]
  obtain ⟨result, typed⟩ := applyPatch_returns readable input
  refine ⟨result, ?_, typed⟩
  rw [← typed]
  rcases hload : input.load with failure | base
  · simp only [applyPatch, hload]
  · rw [applyPatch_of_load hload, applyPatch_of_load hload]
    congr 1
    apply Plan.runSteps_congr
    rw [List.forall₂_map_left_iff, List.forall₂_map_right_iff]
    apply settled.imp
    rintro value operation ⟨raw, read, related⟩ index plan
    exact PatchStep.perform_raw_eq read related index plan

/-- A task is created and changed, and a variable is created, in both ways alike. -/
theorem applyPatch_envelope_of_three :
    let operations : List Json := [
      .obj [("op", .str "createTask"), ("task", .obj [("id", .str "a"), ("title", .null)])],
      .obj [("op", .str "updateTask"), ("task_id", .str "a"),
        ("data", .obj [("dependent_tasks", .arr [.str "b"]), ("title", .null)])],
      .obj [("op", .str "createVariable"), ("variable", .obj [("variable_id", .str "v"),
        ("name", .str "n"), ("description", .str ""), ("value", .arr [])]), ("data", .null)]]
    let envelope : Envelope := ⟨none, [
      .createTask (.checked ⟨"a", "", "", none, []⟩),
      .updateTask (.str "a") { Changes.none with dependentTasks := some ["b"] },
      .createVariable (.checked ⟨"v", .string, "n", "", false, none, []⟩)]⟩
    Envelope.ofJson (.obj [("operations", .arr operations)]) = .ok envelope ∧
    applyPatch (.raw (.obj [])) (envelope.operations.map .ready) = .ok (.applied
      ⟨.str "", [⟨"a", "", "", some ["b"], []⟩], [⟨"v", .string, "n", "", false, none, []⟩]⟩
      ["TASK ADDED: [a] title=\"\"", "TASK MODIFIED: [a] fields=dependent_tasks",
        "VARIABLE ADDED: [v] name=\"n\""]) := by
  intro operations envelope
  have accepted : Envelope.ofJson (.obj [("operations", .arr operations)]) = .ok envelope := rfl
  obtain ⟨result, raw, typed⟩ := applyPatch_envelope accepted (.raw (.obj []))
  refine ⟨accepted, ?_⟩
  rw [typed, ← raw]
  rfl

end PlanGraph
