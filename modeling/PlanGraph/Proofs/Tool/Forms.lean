import PlanGraph.Proofs.Json.Decoded
import PlanGraph.Proofs.Json.Respacing.Numbers
import PlanGraph.Proofs.Patch.Completeness
import PlanGraph.Proofs.Patch.Script
import PlanGraph.Proofs.Tool.Results

/-!
# Operations as an array and as text

The operations of a patch are given as an array or as the text of that array. An array is checked as
an envelope, with every member of every operation; from a text the operations are read one after
another, each by the members that it uses. So the array is the stricter form, and by no more than
what it says about members: it succeeds exactly where the text does and each operation is typed
(`OperationForm.Typed`), and then with the same result (`Tool.patch_forms`).

* A form passes and is complete exactly where its value is typed and can be read as an operation
  (`OperationForm.exists_toOperation`, `OperationForm.typed_of_check`).
* What the two forms give settles one in the other (`OperationForm.settles_items`), so the same
  patch is made of them (`Tool.patchOf_congr`).
-/

namespace PlanGraph

/-! ## Typed operations -/

/-- The member is missing, or null, or passes a check. -/
def Key.Fits {α : Type} (key : Key) (check : Json → Checked α) (members : List (String × Json)) :
    Prop :=
  ∀ value, key.value? members = some value → value = .null ∨ ∃ a, check value = .passed a

/-- What fits is a value that was checked, or none. -/
theorem Key.fits_iff {α : Type} {key : Key} {check : Json → Checked α}
    {members : List (String × Json)} :
    key.Fits check members ↔ ∃ given, Changes.checkMember key check members = .passed given := by
  constructor
  · intro fits
    by_cases absent : (key.value? members).getD .null = .null
    · exact ⟨none, Changes.checkMember_eq_none_iff.mpr absent⟩
    · rcases there : key.value? members with _ | value
      · exact absurd (congrArg (Option.getD · Json.null) there) absent
      · rw [there, Option.getD_some] at absent
        obtain ⟨a, passed⟩ := (fits value there).resolve_left absent
        exact ⟨some a, Changes.checkMember_eq_some_iff.mpr ⟨value, there, absent, passed⟩⟩
  · rintro ⟨_ | a, checked⟩ value there
    · left
      have absent := Changes.checkMember_eq_none_iff.mp checked
      rwa [there] at absent
    · right
      obtain ⟨found, same, -, passed⟩ := Changes.checkMember_eq_some_iff.mp checked
      rw [there] at same
      exact ⟨a, Option.some.inj same ▸ passed⟩

namespace OperationForm

open Operation

/-- Every member that some operation uses is missing, null or of its type, whether this operation
uses it or not. -/
structure Typed (members : List (String × Json)) : Prop where
  /-- A title is a text. -/
  title : Key.Fits (.word "title") Json.checkText members
  /-- The id of a task is a text. -/
  taskId : Key.Fits ⟨"taskId", "task_id"⟩ Json.checkText members
  /-- A task is sound. -/
  task : Key.Fits (.word "task") Task.check members
  /-- The id of a variable is a text. -/
  variableId : Key.Fits .variableId Json.checkText members
  /-- A variable is sound. -/
  input : Key.Fits (.word "variable") Variable.check members
  /-- Changes are sound. -/
  changes : Key.Fits (.word "data") Changes.check members

variable {members : List (String × Json)} {form : OperationForm} {item : Json}

/-- The members of a form pass when they are typed and the name of the operation is a text. -/
theorem exists_checkMembers {name : String} (typed : Typed members)
    (named : Json.member? "op" members = some (.str name)) :
    ∃ form, checkMembers members = .passed form ∧ form.op = name := by
  have op : Key.required (.word "op") Json.checkText members = .passed name :=
    Key.required_eq_passed_iff.mpr ⟨_, by rwa [Key.value?_word], rfl⟩
  obtain ⟨title, hasTitle⟩ := Key.fits_iff.mp typed.title
  obtain ⟨taskId, hasTaskId⟩ := Key.fits_iff.mp typed.taskId
  obtain ⟨task, hasTask⟩ := Key.fits_iff.mp typed.task
  obtain ⟨variableId, hasVariableId⟩ := Key.fits_iff.mp typed.variableId
  obtain ⟨input, hasInput⟩ := Key.fits_iff.mp typed.input
  obtain ⟨changes, hasChanges⟩ := Key.fits_iff.mp typed.changes
  exact ⟨⟨name, title, taskId, task, variableId, input, changes⟩, checkMembers_eq_passed_iff.mpr
    ⟨op, hasTitle, hasTaskId, hasTask, hasVariableId, hasInput, hasChanges⟩, rfl⟩

/-- What passes as a form is typed. -/
theorem typed_of_check (h : check (.obj members) = .passed form) : Typed members := by
  obtain ⟨_, same, passes⟩ := Json.checkRecord_eq_passed_iff.mp h
  cases same
  obtain ⟨-, title, taskId, task, variableId, input, changes⟩ :=
    checkMembers_eq_passed_iff.mp passes
  exact ⟨Key.fits_iff.mpr ⟨_, title⟩, Key.fits_iff.mpr ⟨_, taskId⟩, Key.fits_iff.mpr ⟨_, task⟩,
    Key.fits_iff.mpr ⟨_, variableId⟩, Key.fits_iff.mpr ⟨_, input⟩, Key.fits_iff.mpr ⟨_, changes⟩⟩

/-- A form is complete when an operation can be read from its members. -/
theorem exists_complete {kind : OperationKind} {operation : Operation}
    (h : checkMembers members = .passed form) (read : ofMembers kind members = .ok operation) :
    ∃ settled, form.complete kind = .ok settled := by
  have comes := completes h kind
  generalize form.complete kind = result at comes
  rcases comes with - | ⟨needs, lacks⟩
  · exact ⟨_, rfl⟩
  · exact absurd (gives_of_ofMembers read needs) lacks

/-- A value that is typed and can be read as an operation passes as a form that is complete. -/
theorem exists_toOperation {operation : Operation} (read : Operation.ofJson item = .ok operation)
    (typed : ∀ members, item = .obj members → Typed members) :
    ∃ form settled, check item = .passed form ∧ form.checkComplete = .passed settled := by
  obtain ⟨members, name, kind, rfl, named, known, read⟩ := ofJson_eq_ok_iff.mp read
  obtain ⟨form, passes, rfl⟩ := exists_checkMembers (typed members rfl) named
  obtain ⟨settled, complete⟩ := exists_complete passes read
  refine ⟨form, settled, Json.checkRecord_eq_passed_iff.mpr ⟨members, rfl, passes⟩, ?_⟩
  rw [checkComplete_eq_passed_iff, toOperation, known]
  exact complete

/-- Values that are typed and can be read as operations pass as forms that are complete. -/
theorem exists_forms {items : List Json} {operations : List Operation}
    (reads : List.Forall₂ (fun item operation => Operation.ofJson item = .ok operation)
      items operations)
    (typed : ∀ members, Json.obj members ∈ items → Typed members) :
    ∃ forms settled, List.Forall₂ (fun item form => check item = .passed form) items forms ∧
      List.Forall₂ (fun form operation => checkComplete form = .passed operation)
        forms settled := by
  induction reads with
  | nil => exact ⟨[], [], .nil, .nil⟩
  | cons read _ ih =>
      obtain ⟨form, first, passes, completes⟩ := exists_toOperation read fun members same =>
        typed members (same ▸ List.mem_cons_self)
      obtain ⟨forms, settled, checked, complete⟩ := ih fun members listed =>
        typed members (List.mem_cons_of_mem _ listed)
      exact ⟨form :: forms, first :: settled, .cons passes checked, .cons completes complete⟩

/-- Values that pass as forms are typed. -/
theorem typed_of_forms {items : List Json} {forms : List OperationForm}
    (checked : List.Forall₂ (fun item form => check item = .passed form) items forms) :
    ∀ members, Json.obj members ∈ items → Typed members := by
  induction checked with
  | nil => exact fun members listed => absurd listed List.not_mem_nil
  | cons passes _ ih =>
      intro members listed
      rcases List.mem_cons.mp listed with rfl | later
      · exact typed_of_check passes
      · exact ih members later

end OperationForm

/-! ## Lists of operations -/

namespace Operation

/-- Operations are read one after another from as many values. -/
theorem listOfJson_eq_ok_iff {items : List Json} {operations : List Operation} :
    listOfJson items = .ok operations ↔
      List.Forall₂ (fun item operation => ofJson item = .ok operation) items operations := by
  induction items generalizing operations with
  | nil =>
      rw [listOfJson, List.forall₂_nil_left_iff]
      exact ⟨fun same => (Except.ok.inj same).symm, fun none => congrArg Except.ok none.symm⟩
  | cons item rest ih =>
      rw [listOfJson, List.forall₂_cons_left_iff, bind_eq_ok_iff]
      simp only [bind_eq_ok_iff, ih]
      constructor
      · rintro ⟨first, read, more, reads, made⟩
        exact ⟨first, more, read, reads, (Except.ok.inj made).symm⟩
      · rintro ⟨first, more, read, reads, rfl⟩
        exact ⟨first, read, more, reads, rfl⟩

/-- Values with plain names are read or refused. -/
theorem faultless_listOfJson {items : List Json} (plain : ∀ item ∈ items, PlainlyNamed item) :
    Faultless (listOfJson items) := by
  induction items with
  | nil => exact .ok _
  | cons item rest ih =>
      have first : Faultless (ofJson item) := fun fault =>
        ofJson_ne_fault (plain item List.mem_cons_self) fault
      have later : Faultless (listOfJson rest) :=
        ih fun other listed => plain other (List.mem_cons_of_mem _ listed)
      exact first.bind fun operation _ => later.bind fun more _ => .ok _

end Operation

/-- An envelope around forms that are complete holds what they stand for. -/
theorem Envelope.exists_ofJson {planId : Option String} {items : List Json}
    {forms : List OperationForm} {settled : List Operation}
    (checked : List.Forall₂ (fun item form => OperationForm.check item = .passed form) items forms)
    (complete : List.Forall₂
      (fun form operation => OperationForm.checkComplete form = .passed operation) forms settled) :
    Envelope.ofJson (.obj [("planId", (planId.map Json.str).getD .null),
      ("operations", .arr items)]) = .ok ⟨planId, settled⟩ := by
  have header : Changes.checkMember ⟨"planId", "plan_id"⟩ Json.checkText
      [("planId", (planId.map Json.str).getD .null), ("operations", .arr items)] =
        .passed planId := by
    rcases planId with _ | id
    · rfl
    · rfl
  have listed : Key.required EnvelopeForm.operationsKey (Json.checkItems OperationForm.check)
      [("planId", (planId.map Json.str).getD .null), ("operations", .arr items)] =
        .passed forms :=
    Key.required_eq_passed_iff.mpr
      ⟨.arr items, rfl, Json.checkItems_eq_passed_iff.mpr ⟨items, rfl, checked⟩⟩
  have structured : EnvelopeForm.check (.obj [("planId", (planId.map Json.str).getD .null),
      ("operations", .arr items)]) = .passed ⟨planId, forms⟩ :=
    Json.checkRecord_eq_passed_iff.mpr ⟨_, rfl, Checked.seq_eq_passed_iff.mpr
      ⟨_, forms, Checked.map_eq_passed_iff.mpr ⟨planId, header, rfl⟩, listed, rfl⟩⟩
  have completed : Envelope.checkComplete forms = .passed settled :=
    Checked.under_eq_passed_iff.mpr (Checked.itemsFrom_eq_passed_iff.mpr complete)
  rw [Envelope.ofJson, Checked.orFail_eq_ok_iff.mpr structured]
  exact map_eq_ok_iff.mpr ⟨settled, Checked.orFail_eq_ok_iff.mpr completed, rfl⟩

/-- A text whose inside is an array is the script of the operations in it. -/
theorem Operation.ofScript_of_readText {text : String} {items : List Json}
    (read : Json.readText (Text.trim text.toList) = .ok (.arr items)) :
    ofScript text = (listOfJson items).mapError .halt := by
  have bare : Text.unfence text.toList = Text.trim text.toList := by
    rw [Text.unfence, if_neg]
    intro opened
    obtain ⟨rest, fenced⟩ := List.isPrefixOf_iff_prefix.mp opened
    -- no value starts with a fence
    rw [← fenced] at read
    obtain ⟨after, value⟩ := Json.exists_readValue_of_readText read
    obtain ⟨c, more, same, starts⟩ := Json.exists_start_of_readValue value
    obtain ⟨rfl, -⟩ := List.cons.inj same
    exact absurd starts (by decide)
  rw [ofScript, Json.read, String.toList_ofList, bare, read]
  rfl

namespace Tool

/-! ## The two forms of a call -/

/-- The arguments of a call that patches a plan. -/
def patchArguments (plan operations : Json) (planId : Option String) : Arguments :=
  [("plan", plan), ("operations", operations)] ++ Json.memberIf "plan_id" (planId.map .str)

variable {plan base : Json} {planId : Option String} {text : String} {items : List Json}

/-- What is made of a plan and the operations for it. -/
def patchOf (base : Json) (planId : Option String) (operations : List Operation) :
    Except Halt ToolResult := do
  let result ← (applyPatch (.raw base) (operations.map .ready)).mapError Halt.fault
  pure (patched operations.length ((planId.map Json.str).getD .null) result)

/-- A call reads the plan, then the operations, and then makes a patch of them. -/
theorem runPatch_patchArguments (plan operations : Json) (planId : Option String) :
    runPatch (patchArguments plan operations planId) =
      (Json.ofArgument "plan" plan >>= fun base =>
        operationsArgument (patchArguments plan operations planId) >>= patchOf base planId) := by
  rcases planId with _ | id
  · rfl
  · rfl

/-- A patch is called as it is run, and draws no ids. -/
theorem outcome_patch (settings : Settings) (plan operations : Json) (planId : Option String)
    (supply : Supply) :
    (patch.call settings (patchArguments plan operations planId)).outcome supply =
      (ToolResult.ofHalting (runPatch (patchArguments plan operations planId)), supply) := by
  have taken : patch.callFault? (patchArguments plan operations planId) = none := by
    rcases planId with _ | id
    · rfl
    · rfl
  rw [call, taken]
  change (Making.ofExcept (ToolResult.ofHalting _)).outcome supply = _
  rcases ToolResult.ofHalting (runPatch (patchArguments plan operations planId)) with fault | result
  · rfl
  · rfl

/-- As a text, the operations are read one after another. -/
theorem operationsArgument_text
    (read : Json.readText (Text.trim text.toList) = .ok (.arr items)) :
    operationsArgument (patchArguments plan (.str text) planId) = Operation.listOfJson items := by
  have given : (patchArguments plan (.str text) planId).value "operations" = .str text := rfl
  rw [operationsArgument, given]
  dsimp only
  rw [Operation.ofScript_of_readText read]
  rcases Operation.listOfJson items with halt | operations
  · rfl
  · rfl

/-- As an array, the operations are those of an envelope. -/
theorem operationsArgument_array_eq_ok_iff {settled : List Operation} :
    operationsArgument (patchArguments plan (.arr items) planId) = .ok settled ↔
      ∃ forms, List.Forall₂ (fun item form => OperationForm.check item = .passed form) items forms ∧
        List.Forall₂ (fun form operation => OperationForm.checkComplete form = .passed operation)
          forms settled := by
  have given : operationsArgument (patchArguments plan (.arr items) planId) =
      (Envelope.operations <$> Envelope.ofJson (.obj [("planId", (planId.map Json.str).getD .null),
        ("operations", .arr items)])).mapError Halt.failure := by
    rcases planId with _ | id
    · rfl
    · rfl
  rw [given, mapError_eq_ok_iff, map_eq_ok_iff]
  constructor
  · rintro ⟨envelope, accepted, rfl⟩
    exact Envelope.exists_forms_of_ofJson accepted
  · rintro ⟨forms, checked, complete⟩
    exact ⟨_, Envelope.exists_ofJson checked complete, rfl⟩

/-- Operations that settle others are the same patch. -/
theorem patchOf_congr {operations settled : List Operation}
    (related : List.Forall₂ Operation.Settles operations settled) :
    patchOf base planId operations = patchOf base planId settled := by
  have same : applyPatch (.raw base) (operations.map .ready) =
      applyPatch (.raw base) (settled.map .ready) := by
    unfold applyPatch
    split
    · rfl
    · congr 1
      apply Plan.runSteps_congr
      rw [List.forall₂_map_left_iff, List.forall₂_map_right_iff]
      refine related.imp fun operation settled settles index plan => ?_
      change ((operation.perform plan).mapError Halt.failure).mapError (PatchStep.stamp index) =
        ((settled.perform plan).mapError Halt.failure).mapError (PatchStep.stamp index)
      rw [settles.perform_eq]
  rw [patchOf, patchOf, same, related.length_eq]

/-- What an array of operations gives, its text gives settled, and the operations are typed. -/
theorem exists_settling {settled : List Operation}
    (given : operationsArgument (patchArguments plan (.arr items) planId) = .ok settled) :
    (∃ operations, Operation.listOfJson items = .ok operations ∧
      List.Forall₂ Operation.Settles operations settled) ∧
    ∀ members, .obj members ∈ items → OperationForm.Typed members := by
  obtain ⟨forms, checked, complete⟩ := operationsArgument_array_eq_ok_iff.mp given
  refine ⟨?_, OperationForm.typed_of_forms checked⟩
  have settles := OperationForm.settles_items checked complete
  clear given checked complete
  induction settles with
  | nil => exact ⟨[], rfl, .nil⟩
  | cons first _ ih =>
      obtain ⟨operation, read, related⟩ := first
      obtain ⟨operations, reads, others⟩ := ih
      refine ⟨operation :: operations, ?_, .cons related others⟩
      exact Operation.listOfJson_eq_ok_iff.mpr
        (.cons read (Operation.listOfJson_eq_ok_iff.mp reads))

/-- Typed operations that are read from the text of an array are given by the array, too. -/
theorem exists_settled {operations : List Operation}
    (reads : Operation.listOfJson items = .ok operations)
    (typed : ∀ members, .obj members ∈ items → OperationForm.Typed members) :
    ∃ settled, operationsArgument (patchArguments plan (.arr items) planId) = .ok settled ∧
      List.Forall₂ Operation.Settles operations settled := by
  obtain ⟨forms, settled, checked, complete⟩ :=
    OperationForm.exists_forms (Operation.listOfJson_eq_ok_iff.mp reads) typed
  have given : operationsArgument (patchArguments plan (.arr items) planId) = .ok settled :=
    operationsArgument_array_eq_ok_iff.mpr ⟨forms, checked, complete⟩
  obtain ⟨⟨found, same, related⟩, -⟩ := exists_settling given
  obtain rfl := Except.ok.inj (reads.symm.trans same)
  exact ⟨settled, given, related⟩

/-- The array is a patch where the text is one and the operations are typed, and then the same. -/
theorem runPatch_array_eq_ok_iff {result : ToolResult}
    (read : Json.readText (Text.trim text.toList) = .ok (.arr items)) :
    runPatch (patchArguments plan (.arr items) planId) = .ok result ↔
      runPatch (patchArguments plan (.str text) planId) = .ok result ∧
        ∀ members, .obj members ∈ items → OperationForm.Typed members := by
  simp only [runPatch_patchArguments, bind_eq_ok_iff, operationsArgument_text read]
  constructor
  · rintro ⟨base, found, settled, given, made⟩
    obtain ⟨⟨operations, reads, related⟩, typed⟩ := exists_settling given
    exact ⟨⟨base, found, operations, reads, (patchOf_congr related).trans made⟩, typed⟩
  · rintro ⟨⟨base, found, operations, reads, made⟩, typed⟩
    obtain ⟨settled, given, related⟩ := exists_settled reads typed
    exact ⟨base, found, settled, given, (patchOf_congr related).symm.trans made⟩

/-- Only work that was not halted has a result that is done. -/
theorem ofHalting_eq_done_iff {work : Except Halt ToolResult} {result : ToolResult}
    (done : result.ok = true) : ToolResult.ofHalting work = .ok result ↔ work = .ok result := by
  rcases work with (failure | fault) | found
  · constructor
    · intro same
      cases same
      cases done
    · nofun
  · exact ⟨nofun, nofun⟩
  · rw [ToolResult.ofHalting, Except.ok.injEq, Except.ok.injEq]

/-- A plan that is given as a text with an integer that is too long ends every call. -/
theorem eq_oversized_of_ofArgument {name : String} {value : Json} {fault : Fault}
    (h : Json.ofArgument name value = .error (.fault fault)) :
    ∃ digits, fault = .oversizedInteger digits := by
  cases value with
  | str text =>
      rw [Json.ofArgument] at h
      split at h
      · cases h
      · split at h
        · rename_i digits _
          cases h
          exact ⟨digits, rfl⟩
        · cases h
  | _ => cases h

/-- Work that is done or refused, with the result that it comes to. -/
theorem exists_ofHalting {work : Except Halt ToolResult} (faultless : Faultless work) :
    ∃ result, ToolResult.ofHalting work = .ok result := by
  rcases work with (failure | fault) | result
  · exact ⟨_, rfl⟩
  · exact absurd rfl (faultless fault)
  · exact ⟨result, rfl⟩

/-- Once the plan is read, a patch of operations that are read or refused has a result. -/
theorem exists_returns_patch {operations : Json} (found : Json.ofArgument "plan" plan = .ok base)
    (given : Faultless (operationsArgument (patchArguments plan operations planId)))
    (settings : Settings) (supply : Supply) : ∃ result,
      (patch.call settings (patchArguments plan operations planId)).Returns supply result
        supply := by
  have faultless : Faultless (runPatch (patchArguments plan operations planId)) := by
    rw [runPatch_patchArguments, found, ok_bind]
    refine given.bind fun operations _ => ?_
    exact .bind (faultless_applyPatch _ operations) fun result _ => .ok _
  obtain ⟨result, ends⟩ := exists_ofHalting faultless
  exact ⟨result, by rw [Making.Returns, outcome_patch, ends]⟩

/-- A plan that cannot be read ends a call in the same way, whatever its operations. -/
theorem outcome_patch_of_unread {halt : Halt} (unread : Json.ofArgument "plan" plan = .error halt)
    (settings : Settings) (operations : Json) (planId : Option String) (supply : Supply) :
    (patch.call settings (patchArguments plan operations planId)).outcome supply =
      (ToolResult.ofHalting (.error halt), supply) := by
  rw [outcome_patch, runPatch_patchArguments, unread]
  rfl

/-- **Two forms of the operations.** A patch succeeds with an array of operations exactly where it
succeeds with the text of that array and each operation is typed, down to the members that it does
not use; and then the two forms have the same result, with one summary, one plan and one set of
facts. Where each operation is typed and has a plain name, the two forms also fail together: either
the text of the plan cannot be read for an integer that is too long, or both have a result. -/
theorem patch_forms (settings : Settings) (plan : Json) (planId : Option String) {text : String}
    {items : List Json} (read : Json.readText (Text.trim text.toList) = .ok (.arr items)) :
    let byArray := patch.call settings (patchArguments plan (.arr items) planId)
    let byText := patch.call settings (patchArguments plan (.str text) planId)
    (∀ supply result rest, result.ok = true →
      (byArray.Returns supply result rest ↔ byText.Returns supply result rest ∧
        ∀ members, .obj members ∈ items → OperationForm.Typed members)) ∧
    ((∀ members, .obj members ∈ items → OperationForm.Typed members) →
      (∀ item ∈ items, Operation.PlainlyNamed item) → ∀ supply,
      (∃ digits, byArray.outcome supply = (.error (.oversizedInteger digits), supply) ∧
        byText.outcome supply = (.error (.oversizedInteger digits), supply)) ∨
      ∃ result result', byArray.Returns supply result supply ∧
        byText.Returns supply result' supply ∧ result.ok = result'.ok ∧
        (result.ok = true → result = result')) := by
  intro byArray byText
  have succeeds : ∀ supply result rest, result.ok = true →
      (byArray.Returns supply result rest ↔ byText.Returns supply result rest ∧
        ∀ members, .obj members ∈ items → OperationForm.Typed members) := by
    intro supply result rest done
    simp only [byArray, byText, Making.Returns, outcome_patch, Prod.mk.injEq,
      ofHalting_eq_done_iff done, runPatch_array_eq_ok_iff read, and_right_comm]
  refine ⟨succeeds, fun typed plain supply => ?_⟩
  rcases found : Json.ofArgument "plan" plan with (failure | fault) | base
  · right
    have refused := outcome_patch_of_unread found settings
    exact ⟨_, _, refused _ planId supply, refused _ planId supply, rfl, fun _ => rfl⟩
  · left
    obtain ⟨digits, rfl⟩ := eq_oversized_of_ofArgument found
    have ends := outcome_patch_of_unread found settings
    exact ⟨digits, ends _ planId supply, ends _ planId supply⟩
  · right
    have listed : Faultless (operationsArgument (patchArguments plan (.arr items) planId)) :=
      faultless_operationsArgument fun _ same => Json.noConfusion same
    have written : Faultless (operationsArgument (patchArguments plan (.str text) planId)) := by
      rw [operationsArgument_text read]
      exact Operation.faultless_listOfJson plain
    obtain ⟨result, arrayed⟩ := exists_returns_patch found listed settings supply
    obtain ⟨result', texted⟩ := exists_returns_patch found written settings supply
    refine ⟨result, result', arrayed, texted, ?_⟩
    -- a result of one form that is done is a result of the other, which has no second one
    by_cases done : result.ok = true
    · have same := ((succeeds supply result supply done).mp arrayed).1
      obtain rfl := Except.ok.inj (congrArg Prod.fst (same.symm.trans texted))
      exact ⟨rfl, fun _ => rfl⟩
    · by_cases done' : result'.ok = true
      · have same := (succeeds supply result' supply done').mpr ⟨texted, typed⟩
        obtain rfl := Except.ok.inj (congrArg Prod.fst (same.symm.trans arrayed))
        exact absurd done' done
      · rw [Bool.eq_false_iff.mpr done, Bool.eq_false_iff.mpr done']
        exact ⟨rfl, fun holds => absurd holds Bool.false_ne_true⟩

/-- A task is created with the id of a variable that nothing asks for, and changed under the other
spelling of its id; the text has blanks around it. -/
theorem patch_forms_of_two :
    let items : List Json := [
      .obj [("op", .str "createTask"), ("task", .obj [("id", .str "a")]), ("variableId", .str "v")],
      .obj [("op", .str "updateTask"), ("task_id", .str "a"), ("title", .null),
        ("data", .obj [("title", .str "A")])]]
    let text := " [\x7b\"op\": \"createTask\", \"task\": \x7b\"id\": \"a\"\x7d, " ++
      "\"variableId\": \"v\"\x7d,\n\x7b\"op\": \"updateTask\", \"task_id\": \"a\", " ++
      "\"title\": null, \"data\": \x7b\"title\": \"A\"\x7d\x7d]\n"
    let call := fun operations =>
      patch.call Settings.standard (patchArguments (.obj []) operations (some "p"))
    Json.readText (Text.trim text.toList) = .ok (.arr items) ∧
      (∀ members, .obj members ∈ items → OperationForm.Typed members) ∧
      ∃ result, (call (.arr items)).Returns Supply.counting result Supply.counting ∧
        (call (.str text)).Returns Supply.counting result Supply.counting ∧ result.ok = true := by
  intro items text call
  have read : Json.readText (Text.trim text.toList) = .ok (.arr items) := by decide +kernel
  obtain ⟨succeeds, -⟩ := patch_forms Settings.standard (.obj []) (some "p") read
  obtain ⟨result, returned, done⟩ : ∃ result,
      (call (.arr items)).Returns Supply.counting result Supply.counting ∧ result.ok = true :=
    ⟨_, rfl, rfl⟩
  obtain ⟨same, typed⟩ := (succeeds _ result _ done).mp returned
  exact ⟨read, typed, result, returned, same, done⟩

/-- The id of a task is a number where no id is asked for: as an array, the operations are refused,
and as a text they are carried out. -/
theorem patch_forms_differ :
    let items : List Json :=
      [.obj [("op", .str "updateTitle"), ("title", .str "New"), ("taskId", .int 5)]]
    let text := "[\x7b\"op\": \"updateTitle\", \"title\": \"New\", \"taskId\": 5\x7d]"
    let call := fun operations =>
      patch.call Settings.standard (patchArguments (.obj []) operations none)
    Json.readText text.toList = .ok (.arr items) ∧ ∃ result result',
      (call (.arr items)).Returns Supply.counting result Supply.counting ∧
      (call (.str text)).Returns Supply.counting result' Supply.counting ∧
      result.ok = false ∧ result'.ok = true := by
  intro items text call
  have read : Json.readText text.toList = .ok (.arr items) := by decide +kernel
  have trimmed : Text.trim text.toList = text.toList := by decide +kernel
  have listed : operationsArgument (patchArguments (.obj []) (.str text) none) =
      .ok [.updateTitle (some (.str "New"))] := by
    rw [operationsArgument_text (by rw [trimmed]; exact read)]
    rfl
  have written : (call (.str text)).outcome Supply.counting =
      (ToolResult.ofHalting (patchOf (.obj []) none [.updateTitle (some (.str "New"))]),
        Supply.counting) := by
    rw [outcome_patch, runPatch_patchArguments, listed]
    rfl
  exact ⟨read, _, _, rfl, written, rfl, rfl⟩

end Tool

end PlanGraph
