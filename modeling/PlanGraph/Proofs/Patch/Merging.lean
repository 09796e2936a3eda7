import PlanGraph.Proofs.Patch.Ingestion
import PlanGraph.Proofs.Patch.LastWriter
import PlanGraph.Proofs.Patch.Script

/-!
# Merging changes into a variable

What an update of a variable does, told by the members of its payload alone
(`applyPatch_updateVariable`). A member that is given replaces what the variable has; one that is
missing or null leaves it (`Key.Takes`, `Variable.Merges`). Only the rule of resource types can
refuse the result: checked once more, members that passed before are read as what they are.

That last point is the reason why an update may check the merged variable as it is
(`Variable.recheck`). Written out as a record, laid over with the members that are given and read
again, the variable is the same, or refused for the same reason
(`Operation.updateVariableIn_eq_overlay`).
-/

namespace PlanGraph

/-! ## Members that are given -/

namespace Key

/-- The member is there and not null. -/
def Given (key : Key) (members : List (String × Json)) : Prop :=
  (key.value? members).getD .null ≠ .null

/-- A member that is given is read as the new value; without it the old value stays. -/
inductive Takes {α : Type} (key : Key) (check : Json → Checked α)
    (members : List (String × Json)) (old : α) : α → Prop where
  /-- The member is missing or null. -/
  | kept (absent : ¬ key.Given members) : Takes key check members old old
  /-- The member is there and passes its check. -/
  | replaced {value : Json} {new : α} (found : key.value? members = some value)
      (given : value ≠ .null) (reads : check value = .passed new) : Takes key check members old new

variable {α : Type} {key : Key} {check : Json → Checked α} {members : List (String × Json)}

/-- A member is read as a value exactly when it is given. -/
theorem given_iff_isSome {a? : Option α}
    (checked : Changes.checkMember key check members = .passed a?) :
    key.Given members ↔ a?.isSome = true := by
  cases a? with
  | none =>
      have absent := Changes.checkMember_eq_none_iff.mp checked
      simp [Given, absent]
  | some a =>
      obtain ⟨value, found, given, -⟩ := Changes.checkMember_eq_some_iff.mp checked
      simp [Given, found, given]

/-- What a member that passed takes the place of. -/
theorem takes_iff {a? : Option α} {old new : α}
    (checked : Changes.checkMember key check members = .passed a?) :
    key.Takes check members old new ↔ new = a?.getD old := by
  cases a? with
  | none =>
      have absent := Changes.checkMember_eq_none_iff.mp checked
      constructor
      · rintro (_ | ⟨found, given, -⟩)
        · rfl
        · rw [found] at absent
          exact absurd absent given
      · rintro rfl
        exact .kept fun given => given absent
  | some a =>
      obtain ⟨value, found, given, passed⟩ := Changes.checkMember_eq_some_iff.mp checked
      constructor
      · rintro (absent | ⟨found', -, reads⟩)
        · rw [Given, found] at absent
          exact absurd given absent
        · obtain rfl := Option.some.inj (found.symm.trans found')
          exact Checked.passed.inj (reads.symm.trans passed)
      · rintro rfl
        exact .replaced found given passed

end Key

namespace Variable

/-- The members of a variable that an update may give. -/
def changeable : List Key :=
  [.variableType, .word "name", .word "description", .word "required", .resourceTypes,
    .word "value"]

/-- The second variable is the first one with the members that are given in place of its own. -/
structure Merges (members : List (String × Json)) (input merged : Variable) : Prop where
  /-- The id stays. -/
  variableId : merged.variableId = input.variableId
  /-- The type is the one that is given, if one is. -/
  variableType : Key.variableType.Takes VariableType.check members input.variableType
    merged.variableType
  /-- So is the name. -/
  name : (Key.word "name").Takes Json.checkText members input.name merged.name
  /-- So is the description. -/
  description : (Key.word "description").Takes Json.checkText members input.description
    merged.description
  /-- So is the flag. -/
  required : (Key.word "required").Takes Json.checkFlag members input.required merged.required
  /-- So are the resource types, which a variable need not have. -/
  resourceTypes : Key.resourceTypes.Takes
    (fun types => some <$> Json.checkItems ResourceType.check types) members input.resourceTypes
    merged.resourceTypes
  /-- So are the values. -/
  value : (Key.word "value").Takes (Json.checkItems VariableValue.check) members input.value
    merged.value

end Variable

namespace Changes

variable {members : List (String × Json)} {changes : Changes}

/-- A member is read as a function of what it is read as. -/
theorem checkMember_map {α β : Type} {key : Key} {check : Json → Checked α} {a? : Option α}
    (checked : checkMember key check members = .passed a?) (f : α → β) :
    checkMember key (fun value => f <$> check value) members = .passed (a?.map f) := by
  cases a? with
  | none => exact checkMember_eq_none_iff.mpr (checkMember_eq_none_iff.mp checked)
  | some a =>
      obtain ⟨value, found, given, passed⟩ := checkMember_eq_some_iff.mp checked
      exact checkMember_eq_some_iff.mpr
        ⟨value, found, given, Checked.map_eq_passed_iff.mpr ⟨a, passed, rfl⟩⟩

/-- The members of a payload that are for variables. -/
theorem variableMembers_of_check (accepted : Changes.check (.obj members) = .passed changes) :
    checkMember .variableType VariableType.check members = .passed changes.variableType ∧
      checkMember (.word "name") Json.checkText members = .passed changes.name ∧
      checkMember (.word "description") Json.checkText members = .passed changes.description ∧
      checkMember (.word "required") Json.checkFlag members = .passed changes.required ∧
      checkMember .resourceTypes (Json.checkItems ResourceType.check) members =
        .passed changes.resourceTypes ∧
      checkMember (.word "value") (Json.checkItems VariableValue.check) members =
        .passed changes.value := by
  change checkMembers members = _ at accepted
  simp only [checkMembers, Checked.seq_eq_passed_iff, Checked.map_eq_passed_iff] at accepted
  obtain ⟨_, _, ⟨_, _, ⟨_, _, ⟨_, _, ⟨_, _, ⟨_, _, before, variableType, rfl⟩, name, rfl⟩,
    description, rfl⟩, required, rfl⟩, resourceTypes, rfl⟩, value, made⟩ := accepted
  obtain ⟨_, _, ⟨_, _, ⟨_, _, ⟨_, -, rfl⟩, -, rfl⟩, -, rfl⟩, -, rfl⟩ := before
  cases made
  exact ⟨variableType, name, description, required, resourceTypes, value⟩

/-- Nothing changes about a variable exactly when no member of a variable is given. -/
theorem variableFields_eq_nil_iff (accepted : Changes.check (.obj members) = .passed changes) :
    changes.variableFields = [] ↔ ∀ key ∈ Variable.changeable, ¬ key.Given members := by
  obtain ⟨variableType, name, description, required, resourceTypes, value⟩ :=
    variableMembers_of_check accepted
  simp only [Variable.changeable, List.forall_mem_cons, List.not_mem_nil, false_imp_iff,
    implies_true, and_true, Key.given_iff_isSome variableType, Key.given_iff_isSome name,
    Key.given_iff_isSome description, Key.given_iff_isSome required,
    Key.given_iff_isSome resourceTypes, Key.given_iff_isSome value]
  simp only [variableFields, List.append_eq_nil_iff, ite_eq_right_iff, List.cons_ne_nil, imp_false]
  tauto

/-- A payload that passes is merged member by member. -/
theorem merges_iff (accepted : Changes.check (.obj members) = .passed changes)
    {input merged : Variable} :
    input.Merges members merged ↔ merged = changes.mergeVariable input := by
  obtain ⟨variableType, name, description, required, resourceTypes, value⟩ :=
    variableMembers_of_check accepted
  have kinds : Key.resourceTypes.Takes
      (fun types => some <$> Json.checkItems ResourceType.check types) members
      input.resourceTypes merged.resourceTypes ↔
        merged.resourceTypes = (changes.resourceTypes <|> input.resourceTypes) := by
    rw [Key.takes_iff (checkMember_map resourceTypes some)]
    cases changes.resourceTypes <;> rfl
  constructor
  · intro h
    have type := (Key.takes_iff variableType).mp h.variableType
    have title := (Key.takes_iff name).mp h.name
    have text := (Key.takes_iff description).mp h.description
    have flag := (Key.takes_iff required).mp h.required
    have types := kinds.mp h.resourceTypes
    have values := (Key.takes_iff value).mp h.value
    have id := h.variableId
    cases merged
    rw [mergeVariable, Variable.mk.injEq]
    exact ⟨id, type, title, text, flag, types, values⟩
  · rintro rfl
    exact {
      variableId := rfl
      variableType := (Key.takes_iff variableType).mpr rfl
      name := (Key.takes_iff name).mpr rfl
      description := (Key.takes_iff description).mpr rfl
      required := (Key.takes_iff required).mpr rfl
      resourceTypes := kinds.mpr rfl
      value := (Key.takes_iff value).mpr rfl }

end Changes

/-! ## Merging by records -/

namespace Json

/-- The members of a record, those of some fields with the values of the fields. -/
def overlay (fields record : List (String × Json)) : List (String × Json) :=
  record.map fun member => (member.1, (member? member.1 fields).getD member.2)

end Json

/-- A resource as a record: every member is there, under its name in programs. -/
def Resource.record (resource : Resource) : Json :=
  .obj [("name", .str resource.name), ("file_type", .str resource.fileType.name)]

/-- A value of a variable as a record. -/
def VariableValue.record (value : VariableValue) : Json :=
  .obj [("type", .str value.type.name), ("text", .ofString? value.text),
    ("resource", (value.resource.map Resource.record).getD .null)]

/-- The members of a variable as a record. -/
def Variable.record (input : Variable) : List (String × Json) :=
  [("variable_id", .str input.variableId), ("variable_type", .str input.variableType.name),
    ("name", .str input.name), ("description", .str input.description),
    ("required", .bool input.required), ("resource_types", input.resourceTypesJson?.getD .null),
    ("value", .arr (input.value.map VariableValue.record))]

/-- The changes to a variable as fields of a record. -/
def Changes.variableRecord (changes : Changes) : List (String × Json) :=
  Json.memberIf "variable_type" (changes.variableType.map fun type => .str type.name) ++
    Json.memberIf "name" (changes.name.map Json.str) ++
    Json.memberIf "description" (changes.description.map Json.str) ++
    Json.memberIf "required" (changes.required.map Json.bool) ++
    Json.memberIf "resource_types"
      (changes.resourceTypes.map fun types => Json.ofStrings (types.map ResourceType.name)) ++
    Json.memberIf "value"
      (changes.value.map fun values => .arr (values.map VariableValue.record))

/-- A record that changes are laid over is the record of the merged variable. -/
theorem Changes.overlay_record (changes : Changes) (input : Variable) :
    Json.overlay changes.variableRecord input.record = (changes.mergeVariable input).record := by
  have member {α : Type} (write : α → Json) (new : Option α) (old : α) :
      (new.map write).getD (write old) = write (new.getD old) := by
    cases new <;> rfl
  have types (write : List ResourceType → Json) (new old : Option (List ResourceType)) :
      (new.map write).getD ((old.map write).getD .null) = ((new <|> old).map write).getD .null := by
    cases new <;> rfl
  simp only [Json.overlay, Variable.record, variableRecord, Json.member?, List.map_cons,
    List.map_nil, List.lookup_append, Json.lookup_memberIf, Variable.resourceTypesJson?,
    String.reduceEq, if_true, if_false, Option.or_none, Option.none_or, Option.getD_none,
    mergeVariable, List.cons.injEq, Prod.mk.injEq, true_and, and_true]
  exact ⟨member (fun type : VariableType => .str type.name) .., member .str .., member .str ..,
    member .bool .., types ..,
    member (fun values : List VariableValue => .arr (values.map VariableValue.record)) ..⟩

/-- The record of a resource respells it. -/
theorem Resource.respells_record (resource : Resource) :
    Respells resource.dump resource.record where
  object := rfl
  name := ⟨_, rfl, rfl⟩
  fileType := ⟨_, rfl, rfl⟩

/-- The record of a value respells it. -/
theorem VariableValue.respells_record (value : VariableValue) :
    Respells value.dump value.record where
  object := rfl
  type := ⟨_, rfl, rfl⟩
  text := by
    obtain ⟨type, _ | text, resource⟩ := value
    · cases resource <;> rfl
    · exact ⟨_, rfl, rfl⟩
  resource := by
    obtain ⟨type, text, _ | resource⟩ := value
    · cases text <;> rfl
    · cases text <;> exact ⟨_, rfl, resource.respells_record⟩

namespace Variable

/-- The members of a record pass as those of the variable that it is the record of, whether or not
this is well typed. -/
theorem checkMembers_record (input : Variable) : checkMembers input.record = .passed input := by
  have values : Json.checkItems VariableValue.check (.arr (input.value.map VariableValue.record)) =
      .passed input.value := by
    refine Json.checkItems_eq_passed_iff.mpr ⟨_, rfl, ?_⟩
    rw [List.forall₂_map_left_iff, List.forall₂_same]
    exact fun value _ => VariableValue.check_of_respells value.respells_record
  have types : Json.checkNullable (Json.checkItems ResourceType.check)
      (input.resourceTypesJson?.getD .null) = .passed input.resourceTypes := by
    unfold resourceTypesJson?
    cases input.resourceTypes with
    | none => rfl
    | some kinds =>
        exact Json.checkNullable_eq_some_iff.mpr ⟨nofun, ResourceType.checkItems_names kinds⟩
  refine checkMembers_eq_passed_iff.mpr ⟨?_, ?_, ?_, ?_, ?_, ?_, ?_⟩
  · exact Key.required_eq_passed_iff.mpr ⟨_, rfl, rfl⟩
  · exact Key.optional_eq_passed_iff.mpr (.inr ⟨_, rfl, VariableType.check_eq_passed_iff.mpr rfl⟩)
  · exact Key.required_eq_passed_iff.mpr ⟨_, rfl, rfl⟩
  · exact Key.required_eq_passed_iff.mpr ⟨_, rfl, rfl⟩
  · exact Key.optional_eq_passed_iff.mpr (.inr ⟨_, rfl, rfl⟩)
  · exact Key.optional_eq_passed_iff.mpr (.inr ⟨_, rfl, types⟩)
  · exact Key.required_eq_passed_iff.mpr ⟨_, rfl, values⟩

/-- A record is read as checking the variable once more has it. -/
theorem ofJson_record (input : Variable) (label : String) :
    ofJson (.obj input.record) label = input.recheck label := by
  rw [ofJson, recheck, ← checkMembers_record input]
  rfl

end Variable

/-- An update reads the record of the variable again, with the changes laid over it. -/
theorem Operation.updateVariableIn_eq_overlay {plan : Plan} {id : Json} {changes : Changes}
    {input : Variable} (found : plan.inputs.find? (Variable.hasId id) = some input)
    (given : changes.variableFields ≠ []) :
    updateVariableIn plan id changes =
      match Variable.ofJson (.obj (Json.overlay changes.variableRecord input.record))
        "Variable update" with
      | .error failure =>
        .error { failure with
          operation := some OperationKind.updateVariable.name, target := id }
      | .ok merged =>
        .ok ({ plan with
            inputs := Plan.updateFirst (Variable.hasId id) (fun _ => merged) plan.inputs },
          some (LogEntry.variableModified id changes.variableFields)) := by
  rw [changes.overlay_record, Variable.ofJson_record, updateVariableIn, found]
  show (if changes.variableFields.isEmpty then _ else _) = _
  exact if_neg (by simpa using given)

/-! ## The variable in its place -/

namespace Plan

variable {α : Type} {meant : α → Bool} {items : List α} {place : Nat} {item : α}

/-- Where one item at most is meant, the one that is meant is found. -/
theorem find?_of_once (once : items.Pairwise fun a b => meant a = true → meant b = false)
    (listed : item ∈ items) (goal : meant item = true) : items.find? meant = some item := by
  obtain ⟨place, inside, rfl⟩ := List.mem_iff_getElem.mp listed
  refine List.find?_eq_some_iff_getElem.mpr ⟨goal, place, inside, rfl, ?_⟩
  intro earlier before
  rw [Bool.not_eq_true', Bool.eq_false_iff]
  intro also
  have other := List.pairwise_iff_getElem.mp once earlier place (before.trans inside) inside before
  rw [other also] at goal
  cases goal

/-- The variable that is found by an id is the one that has it. -/
theorem Distinct.find?_hasId_iff {plan : Plan} (ids : plan.Distinct) {id : Json}
    {input : Variable} :
    plan.inputs.find? (Variable.hasId id) = some input ↔
      input ∈ plan.inputs ∧ .str input.variableId = id := by
  constructor
  · intro found
    exact ⟨List.mem_of_find?_eq_some found, by simpa [Variable.hasId] using List.find?_some found⟩
  · rintro ⟨listed, rfl⟩
    exact find?_of_once ids.variable_once listed (by simp [Variable.hasId])

/-- Where one item at most is meant, changing the first one changes it in its place. -/
theorem updateFirst_eq_set (once : items.Pairwise fun a b => meant a = true → meant b = false)
    (here : items[place]? = some item) (goal : meant item = true) (f : α → α) :
    updateFirst meant f items = items.set place (f item) := by
  induction items generalizing place with
  | nil => cases here
  | cons first rest ih =>
      obtain ⟨alone, once⟩ := List.pairwise_cons.mp once
      cases place with
      | zero =>
          obtain rfl : first = item := Option.some.inj here
          rw [updateFirst, if_pos goal, List.set_cons_zero]
      | succ place =>
          have unmeant : ¬ meant first = true := by
            intro also
            have other := alone item (List.mem_of_getElem? here) also
            rw [goal] at other
            cases other
          rw [updateFirst, if_neg unmeant, List.set_cons_succ, ih once here]

end Plan

namespace Operation

/-- The operation that updates a variable is read from an object that says so. -/
theorem ofJson_updateVariable {members : List (String × Json)} {changes : Changes} {id : String}
    (accepted : Changes.check (.obj members) = .passed changes) (named : id ≠ "") :
    ofJson (.obj [("op", .str "updateVariable"), ("variableId", .str id), ("data", .obj members)]) =
      .ok (.updateVariable (.str id) changes) := by
  refine ofJson_eq_ok_iff.mpr ⟨_, "updateVariable", .updateVariable, rfl, rfl, by decide, ?_⟩
  refine bind_eq_ok_iff.mpr ⟨.str id, payload_eq_ok_iff.mpr ⟨rfl, nofun, ?_⟩, ?_⟩
  · intro empty
    exact named (Json.str.inj empty)
  · have data : Changes.checkMember (.word "data") Changes.check
        [("op", .str "updateVariable"), ("variableId", .str id), ("data", .obj members)] =
          .passed (some changes) :=
      Changes.checkMember_eq_some_iff.mpr ⟨.obj members, rfl, nofun, accepted⟩
    exact bind_eq_ok_iff.mpr ⟨changes, OperationForm.changesOf_of_checkMember _ _ data, rfl⟩

section placed

variable {plan : Plan} {place : Nat} {input : Variable} {changes : Changes}
  (ids : plan.Distinct) (here : plan.inputs[place]? = some input)
include ids here

/-- Changes that change nothing, or that leave a variable well typed, are merged in its place. -/
theorem updateVariableIn_of_fits
    (fits : changes.variableFields = [] ∨ (changes.mergeVariable input).wellTyped = true) :
    ∃ entry, updateVariableIn plan (.str input.variableId) changes =
      .ok ({ plan with inputs := plan.inputs.set place (changes.mergeVariable input) }, entry) := by
  have found := ids.find?_hasId_iff.mpr ⟨List.mem_of_getElem? here, rfl⟩
  by_cases idle : changes.variableFields = []
  · have same : plan.inputs.set place (changes.mergeVariable input) = plan.inputs := by
      obtain ⟨inside, rfl⟩ := List.getElem?_eq_some_iff.mp here
      rw [Changes.mergeVariable_of_idle idle, List.set_getElem_self]
    rw [same]
    exact ⟨_, updateVariableIn_eq_ok_iff.mpr (.keepVariable found idle)⟩
  · have typed := fits.resolve_left idle
    have placed : Plan.updateFirst (Variable.hasId (.str input.variableId))
        (fun _ => changes.mergeVariable input) plan.inputs =
          plan.inputs.set place (changes.mergeVariable input) :=
      Plan.updateFirst_eq_set ids.variable_once here (by simp [Variable.hasId]) _
    rw [← placed]
    exact ⟨_, updateVariableIn_eq_ok_iff.mpr (.changeVariable found idle typed)⟩

/-- Changes that leave a variable ill typed are refused, for the variable as a whole. -/
theorem updateVariableIn_of_stray (given : changes.variableFields ≠ [])
    (stray : (changes.mergeVariable input).wellTyped = false) :
    updateVariableIn plan (.str input.variableId) changes =
      .error ⟨.invalid "Variable update" [⟨[], .strayResourceTypes⟩], some "updateVariable",
        .str input.variableId, none⟩ := by
  have refused : (changes.mergeVariable input).recheck "Variable update" =
      .error (.invalid "Variable update" [⟨[], .strayResourceTypes⟩]) := by
    simp [Variable.recheck, Checked.guard, stray, Checked.fail, Checked.orFail]
  have found := ids.find?_hasId_iff.mpr ⟨List.mem_of_getElem? here, rfl⟩
  rw [updateVariableIn_eq_overlay found given, changes.overlay_record,
    Variable.ofJson_record, refused]
  rfl

end placed

end Operation

/-! ## Patches -/

/-- **An update of a variable is a merge with one rule.** Of a plan that loads, take a variable with
an id, and any payload that passes. There is just one variable that the payload makes of it, with
the same id. The update is applied exactly when no member of a variable is given or that variable
lists resource types only if it is a resource variable. Then it stands in the place of the old one,
and nothing else is changed. Otherwise the one issue is that of the variable as a whole. -/
theorem applyPatch_updateVariable {input : PlanInput} {base : Plan} (loads : input.load = .ok base)
    {place : Nat} {old : Variable} (found : base.inputs[place]? = some old)
    (named : old.variableId ≠ "") {members : List (String × Json)}
    (accepted : ∃ changes, Changes.check (.obj members) = .passed changes) :
    let operation : Json := .obj [("op", .str "updateVariable"),
      ("variableId", .str old.variableId), ("data", .obj members)]
    let result := applyPatch input [.raw operation]
    ∃ merged, old.Merges members merged ∧ (∀ other, old.Merges members other → other = merged) ∧
      ((∃ final log, result = .ok (.applied final log)) ↔
        (∀ key ∈ Variable.changeable, ¬ key.Given members) ∨
          ∀ types, merged.resourceTypes = some types → types ≠ [] →
            merged.variableType = .resource) ∧
      (∀ final log, result = .ok (.applied final log) →
        final = { base with inputs := base.inputs.set place merged }) ∧
      ((∀ final log, result ≠ .ok (.applied final log)) →
        ∃ error issue, issue.place = "root" ∧ result = .ok (.refused error
          ⟨.invalid "Variable update" [issue], some "updateVariable", .str old.variableId,
            some 0⟩)) := by
  intro operation result
  obtain ⟨changes, accepted⟩ := accepted
  have ids : base.Distinct := PlanInput.distinct_of_load loads
  have read : (PatchStep.raw operation).operation =
      .ok (.updateVariable (.str old.variableId) changes) :=
    Operation.ofJson_updateVariable accepted named
  have returns := applyPatch_single loads read
  refine ⟨changes.mergeVariable old, (Changes.merges_iff accepted).mpr rfl,
    fun other => (Changes.merges_iff accepted).mp, ?_⟩
  rw [← Changes.variableFields_eq_nil_iff accepted, ← Variable.wellTyped_iff]
  by_cases fits : changes.variableFields = [] ∨ (changes.mergeVariable old).wellTyped = true
  · obtain ⟨entry, performs⟩ := Operation.updateVariableIn_of_fits ids found fits
    have applied : result = .ok (.applied
        { base with inputs := base.inputs.set place (changes.mergeVariable old) }
        entry.toList) := by
      rw [show result = _ from returns, Operation.perform, performs]
    refine ⟨⟨fun _ => fits, fun _ => ⟨_, _, applied⟩⟩, ?_, ?_⟩
    · intro final log same
      rw [applied] at same
      cases same
      rfl
    · intro other
      exact absurd applied (other _ _)
  · have given : changes.variableFields ≠ [] := fun idle => fits (.inl idle)
    have stray : (changes.mergeVariable old).wellTyped = false :=
      Bool.eq_false_iff.mpr fun typed => fits (.inr typed)
    have performs := Operation.updateVariableIn_of_stray ids found given stray
    have refused : ∃ error, result = .ok (.refused error
        ⟨.invalid "Variable update" [⟨[], .strayResourceTypes⟩], some "updateVariable",
          .str old.variableId, some 0⟩) := by
      rw [show result = _ from returns, Operation.perform, performs]
      exact ⟨_, rfl⟩
    obtain ⟨error, refused⟩ := refused
    refine ⟨⟨?_, fun h => absurd h fits⟩, ?_, ?_⟩
    · rintro ⟨final, log, applied⟩
      rw [refused] at applied
      cases applied
    · intro final log applied
      rw [refused] at applied
      cases applied
    · intro _
      exact ⟨error, ⟨[], .strayResourceTypes⟩, rfl, refused⟩

/-- The second of three variables becomes a resource variable, together with resource types; its
name is null in the payload and stays. -/
theorem applyPatch_updateVariable_of_types :
    let unnamed : Variable := ⟨"", .string, "u", "", false, none, []⟩
    let old : Variable := ⟨"v", .string, "n", "", false, none, [⟨.text, some "t", none⟩]⟩
    let other : Variable := ⟨"w", .resource, "m", "", true, some [.audio], []⟩
    let merged : Variable :=
      ⟨"v", .resource, "n", "", true, some [.image], [⟨.text, some "t", none⟩]⟩
    let members : List (String × Json) := [("variable_type", .str "resource"), ("name", .null),
      ("required", .str "Yes"), ("resourceTypes", .arr [.str "image"]), ("title", .str "t")]
    ∃ log, applyPatch (.parsed ⟨.str "", [], [unnamed, old, other]⟩) [.raw (.obj [
      ("op", .str "updateVariable"), ("variableId", .str "v"), ("data", .obj members)])] =
        .ok (.applied ⟨.str "", [], [unnamed, merged, other]⟩ log) := by
  intro unnamed old other merged members
  have loads : (PlanInput.parsed ⟨.str "", [], [unnamed, old, other]⟩).load =
      .ok ⟨.str "", [], [unnamed, old, other]⟩ := rfl
  have found : [unnamed, old, other][1]? = some old := rfl
  have accepted : ∃ changes, Changes.check (.obj members) = .passed changes := ⟨_, rfl⟩
  obtain ⟨made, -, unique, applied, final, -⟩ :=
    applyPatch_updateVariable loads found (by decide) accepted
  have same : merged = made := unique merged {
    variableId := rfl
    variableType := .replaced rfl nofun rfl
    name := .kept fun given => given rfl
    description := .kept fun given => given rfl
    required := .replaced rfl nofun rfl
    resourceTypes := .replaced rfl nofun rfl
    value := .kept fun given => given rfl }
  obtain ⟨plan, log, run⟩ := applied.mpr (.inr fun _ _ _ => same ▸ rfl)
  rw [final plan log run, ← same] at run
  exact ⟨log, run⟩

end PlanGraph
