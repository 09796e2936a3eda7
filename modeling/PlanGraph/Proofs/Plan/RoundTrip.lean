import PlanGraph.Proofs.Plan.Grammar

/-!
# Reading what was written

A plan that was read and is written out is read back as it was, and so it is from every other
spelling of what was written (`Plan.ofJson_of_respells`).

* A value respells another one when it has the same fields (`Json.SameField`): each under either of
  its two names, with the same value or a respelled one, and null or nothing for a field that the
  other one leaves out. Nothing is said of members that are no fields, nor of the order of members.
* Reading follows the nesting: a resource, a value, a variable, a task and a plan are each read back
  from every respelling of what they are written as (`check_of_respells`), given that the level
  below is.
-/

namespace PlanGraph

/-! ## Spellings -/

namespace Json

/-- Of a field that the first object has under its written name, the second one says the same, in
the sense given for the values, under either name; where the first one has no such field, the second
one has none either, or null. -/
def SameField (key : Key) (same : Json → Json → Prop) (value spelled : Json) : Prop :=
  match value.get? key.wire with
  | some written => ∃ other, spelled.either? key.wire key.plain = some other ∧ same written other
  | none => (spelled.either? key.wire key.plain).getD null = null

/-- Two arrays whose items say the same, in the sense given for the items. -/
def SameItems (same : Json → Json → Prop) (value spelled : Json) : Prop :=
  ∃ items others, value = .arr items ∧ spelled = .arr others ∧ List.Forall₂ same items others

end Json

/-- The second value respells a resource that was written as the first one. -/
structure Resource.Respells (value spelled : Json) : Prop where
  object : spelled.isObject = true
  name : Json.SameField (.word "name") Eq value spelled
  fileType : Json.SameField .fileType Eq value spelled

/-- The second value respells a value of a variable that was written as the first one. -/
structure VariableValue.Respells (value spelled : Json) : Prop where
  object : spelled.isObject = true
  type : Json.SameField (.word "type") Eq value spelled
  text : Json.SameField (.word "text") Eq value spelled
  resource : Json.SameField (.word "resource") Resource.Respells value spelled

/-- The second value respells a variable that was written as the first one. -/
structure Variable.Respells (value spelled : Json) : Prop where
  object : spelled.isObject = true
  variableId : Json.SameField .variableId Eq value spelled
  variableType : Json.SameField .variableType Eq value spelled
  name : Json.SameField (.word "name") Eq value spelled
  description : Json.SameField (.word "description") Eq value spelled
  required : Json.SameField (.word "required") Eq value spelled
  resourceTypes : Json.SameField .resourceTypes Eq value spelled
  value : Json.SameField (.word "value") (Json.SameItems VariableValue.Respells) value spelled

/-- The second value respells a task that was written as the first one. -/
structure Task.Respells (value spelled : Json) : Prop where
  object : spelled.isObject = true
  id : Json.SameField (.word "id") Eq value spelled
  title : Json.SameField (.word "title") Eq value spelled
  prompt : Json.SameField (.word "prompt") Eq value spelled
  dependentTasks : Json.SameField .dependentTasks Eq value spelled
  toolsets : Json.SameField (.word "toolsets") Eq value spelled

/-- The second value respells a plan that was written as the first one. -/
structure Plan.Respells (value spelled : Json) : Prop where
  object : spelled.isObject = true
  title : Json.SameField (.word "title") Eq value spelled
  tasks : Json.SameField (.word "tasks") (Json.SameItems Task.Respells) value spelled
  inputs : Json.SameField (.word "variables") (Json.SameItems Variable.Respells) value spelled

/-! ## Fields that are read back -/

namespace Json

section

variable {α : Type} {key : Key} {same : Json → Json → Prop} {value written : Json}
  {members : List (String × Json)} {check : Json → Checked α} {a : α}

/-- What is said of a field that was written. -/
theorem SameField.exists_value (h : SameField key same value (.obj members))
    (found : value.get? key.wire = some written) :
    ∃ other, key.value? members = some other ∧ same written other := by
  rw [SameField, found] at h
  rw [Key.value?_eq_either?]
  exact h

/-- What is said of a field that was left out. -/
theorem SameField.value_null (h : SameField key same value (.obj members))
    (missing : value.get? key.wire = none) : (key.value? members).getD .null = .null := by
  rw [SameField, missing] at h
  rw [Key.value?_eq_either?]
  exact h

/-- A field that must be there is read from what is said of it. -/
theorem SameField.required (h : SameField key same value (.obj members))
    (found : value.get? key.wire = some written)
    (reads : ∀ other, same written other → check other = .passed a) :
    Key.required key check members = .passed a := by
  obtain ⟨other, there, told⟩ := h.exists_value found
  exact Key.required_eq_passed_iff.mpr ⟨other, there, reads other told⟩

/-- A field that may be missing is read from what is said of it where it was written. -/
theorem SameField.optional (h : SameField key same value (.obj members))
    (found : value.get? key.wire = some written)
    (reads : ∀ other, same written other → check other = .passed a) {default : α} :
    Key.optional key default check members = .passed a := by
  obtain ⟨other, there, told⟩ := h.exists_value found
  exact Key.optional_eq_passed_iff.mpr (.inr ⟨other, there, reads other told⟩)

/-- A field that may be absent is read from what is said of it, and as absent where nothing or null
is. Null by itself must not pass for a value. -/
theorem SameField.nullable {a? : Option α} {write : α → Json}
    (h : SameField key same value (.obj members)) (found : value.get? key.wire = a?.map write)
    (reads : ∀ a other, same (write a) other → check other = .passed a)
    (strict : ∀ a, check .null ≠ .passed a) :
    Key.optional key none (checkNullable check) members = .passed a? := by
  rcases a? with _ | a
  · have absent := h.value_null found
    rw [Key.optional_eq_passed_iff]
    rcases there : key.value? members with _ | other
    · exact .inl ⟨rfl, rfl⟩
    · rw [there] at absent
      exact .inr ⟨other, rfl, checkNullable_eq_none_iff.mpr absent⟩
  · refine h.optional found fun other told => ?_
    have passed := reads a other told
    refine checkNullable_eq_some_iff.mpr ⟨?_, passed⟩
    rintro rfl
    exact strict a passed

/-- An object says the same as itself, provided that no field hides behind its other name. -/
theorem SameField.refl (each : ∀ written, value.get? key.wire = some written → same written written)
    (alone : value.get? key.wire = none → value.get? key.plain = none) :
    SameField key same value value := by
  unfold SameField either?
  rcases found : value.get? key.wire with _ | written
  · simp [alone found]
  · exact ⟨written, rfl, each written found⟩

/-- A field of one name says the same as itself. -/
theorem SameField.word {name : String}
    (each : ∀ written, value.get? name = some written → same written written) :
    SameField (.word name) same value value :=
  .refl each id

/-- An array says the same as itself when its items do. -/
theorem SameItems.refl {items : List Json} (each : ∀ item ∈ items, same item item) :
    SameItems same (.arr items) (.arr items) :=
  ⟨items, items, rfl, rfl, List.forall₂_same.mpr each⟩

/-- The items of an array are read from items that say the same. -/
theorem SameItems.checkItems {values : List α} {write : α → Json} {spelled : Json}
    (h : SameItems same (.arr (values.map write)) spelled)
    (reads : ∀ a ∈ values, ∀ other, same (write a) other → check other = .passed a) :
    Json.checkItems check spelled = .passed values := by
  obtain ⟨items, others, written, rfl, each⟩ := h
  cases written
  refine checkItems_eq_passed_iff.mpr ⟨others, rfl, ?_⟩
  rw [List.forall₂_map_left_iff] at each
  rw [List.forall₂_iff_get] at each ⊢
  refine ⟨each.1.symm, fun i hi hi' => ?_⟩
  exact reads _ (List.get_mem ..) _ (each.2 i hi' hi)

end

end Json

/-! ## Records that are read back -/

/-- A list of kinds passes by their names. -/
theorem ResourceType.checkItems_names (kinds : List ResourceType) :
    Json.checkItems check (.ofStrings (kinds.map name)) = .passed kinds := by
  refine Json.checkItems_eq_passed_iff.mpr ⟨_, rfl, ?_⟩
  rw [List.map_map, List.forall₂_map_left_iff, List.forall₂_same]
  intro kind _
  exact check_eq_passed_iff.mpr rfl

/-- A resource is read back from every respelling. -/
theorem Resource.check_of_respells {resource : Resource} {spelled : Json}
    (h : Respells resource.dump spelled) : check spelled = .passed resource := by
  obtain ⟨members, rfl⟩ := Json.isObject_iff.mp h.object
  have name : Key.required (.word "name") Json.checkText members = .passed resource.name :=
    h.name.required rfl (by rintro _ rfl; rfl)
  have fileType : Key.required .fileType ResourceType.check members = .passed resource.fileType :=
    h.fileType.required rfl (by rintro _ rfl; exact ResourceType.check_eq_passed_iff.mpr rfl)
  change checkMembers members = _
  rw [checkMembers, name, fileType]
  rfl

namespace VariableValue

theorem get?_text_dump (value : VariableValue) :
    value.dump.get? "text" = value.text.map Json.str := by
  obtain ⟨type, _ | text, _ | resource⟩ := value
  all_goals rfl

theorem get?_resource_dump (value : VariableValue) :
    value.dump.get? "resource" = value.resource.map Resource.dump := by
  obtain ⟨type, _ | text, _ | resource⟩ := value
  all_goals rfl

/-- A value of a variable is read back from every respelling. -/
theorem check_of_respells {value : VariableValue} {spelled : Json}
    (h : Respells value.dump spelled) : check spelled = .passed value := by
  obtain ⟨members, rfl⟩ := Json.isObject_iff.mp h.object
  have type : Key.optional (.word "type") .text ValueType.check members = .passed value.type :=
    h.type.optional rfl (by rintro _ rfl; exact ValueType.check_eq_passed_iff.mpr rfl)
  have text : Key.optional (.word "text") none (Json.checkNullable Json.checkText) members =
      .passed value.text :=
    h.text.nullable value.get?_text_dump (by rintro text _ rfl; rfl) (by simp [Json.checkText])
  have resource : Key.optional (.word "resource") none (Json.checkNullable Resource.check)
      members = .passed value.resource :=
    h.resource.nullable value.get?_resource_dump
      (fun _ _ told => Resource.check_of_respells told)
      (by simp [Resource.check, Json.checkRecord])
  change checkMembers members = _
  rw [checkMembers, type, text, resource]
  rfl

end VariableValue

namespace Variable

theorem get?_resourceTypes_dump (input : Variable) :
    input.dump.get? "resourceTypes" =
      input.resourceTypes.map fun kinds => Json.ofStrings (kinds.map ResourceType.name) := by
  obtain ⟨variableId, variableType, name, description, required, _ | kinds, value⟩ := input
  all_goals rfl

theorem get?_value_dump (input : Variable) :
    input.dump.get? "value" = some (.arr (input.value.map VariableValue.dump)) := by
  obtain ⟨variableId, variableType, name, description, required, _ | kinds, value⟩ := input
  all_goals rfl

/-- A well-typed variable is read back from every respelling. -/
theorem check_of_respells {input : Variable} {spelled : Json} (typed : input.wellTyped = true)
    (h : Respells input.dump spelled) : check spelled = .passed input := by
  obtain ⟨members, rfl⟩ := Json.isObject_iff.mp h.object
  refine check_eq_passed_iff.mpr ⟨members, rfl, checkMembers_eq_passed_iff.mpr ?_, typed⟩
  refine ⟨?_, ?_, ?_, ?_, ?_, ?_, ?_⟩
  · exact h.variableId.required rfl (by rintro _ rfl; rfl)
  · exact h.variableType.optional rfl
      (by rintro _ rfl; exact VariableType.check_eq_passed_iff.mpr rfl)
  · exact h.name.required rfl (by rintro _ rfl; rfl)
  · exact h.description.required rfl (by rintro _ rfl; rfl)
  · exact h.required.optional rfl (by rintro _ rfl; rfl)
  · exact h.resourceTypes.nullable input.get?_resourceTypes_dump
      (by rintro kinds _ rfl; exact ResourceType.checkItems_names kinds) (by simp [Json.checkItems])
  · exact h.value.required input.get?_value_dump fun _ told =>
      told.checkItems fun _ _ _ told => VariableValue.check_of_respells told

end Variable

namespace Task

theorem get?_dependentTasks_dump (task : Task) :
    task.dump.get? "dependentTasks" = task.dependentTasks.map Json.ofStrings := by
  obtain ⟨id, title, prompt, _ | ids, toolsets⟩ := task
  all_goals rfl

theorem get?_toolsets_dump (task : Task) :
    task.dump.get? "toolsets" = some (.ofStrings task.toolsets) := by
  obtain ⟨id, title, prompt, _ | ids, toolsets⟩ := task
  all_goals rfl

/-- A task is read back from every respelling. -/
theorem check_of_respells {task : Task} {spelled : Json} (h : Respells task.dump spelled) :
    check spelled = .passed task := by
  obtain ⟨members, rfl⟩ := Json.isObject_iff.mp h.object
  refine Json.checkRecord_eq_passed_iff.mpr
    ⟨members, rfl, checkMembers_eq_passed_iff.mpr ⟨?_, ?_, ?_, ?_, ?_⟩⟩
  · exact h.id.optional rfl (by rintro _ rfl; rfl)
  · exact h.title.optional rfl (by rintro _ rfl; rfl)
  · exact h.prompt.optional rfl (by rintro _ rfl; rfl)
  · exact h.dependentTasks.nullable task.get?_dependentTasks_dump
      (by rintro ids _ rfl; exact checkTexts_eq_passed_iff.mpr rfl)
      (by simp [checkTexts, Json.checkItems])
  · exact h.toolsets.optional task.get?_toolsets_dump
      (by rintro _ rfl; exact checkTexts_eq_passed_iff.mpr rfl)

end Task

/-! ## What is written respells itself -/

theorem Resource.respells_dump (resource : Resource) : Respells resource.dump resource.dump where
  object := rfl
  name := .word fun _ _ => rfl
  fileType := .refl (fun _ _ => rfl) fun _ => rfl

theorem VariableValue.respells_dump (value : VariableValue) : Respells value.dump value.dump where
  object := rfl
  type := .word fun _ _ => rfl
  text := .word fun _ _ => rfl
  resource := .word fun written found => by
    rw [get?_resource_dump, Option.map_eq_some_iff] at found
    obtain ⟨resource, -, rfl⟩ := found
    exact resource.respells_dump

theorem Variable.respells_dump (input : Variable) : Respells input.dump input.dump where
  object := rfl
  variableId := .refl (fun _ _ => rfl) fun missing => nomatch missing
  variableType := .refl (fun _ _ => rfl) fun missing => nomatch missing
  name := .word fun _ _ => rfl
  description := .word fun _ _ => rfl
  required := .word fun _ _ => rfl
  resourceTypes := .refl (fun _ _ => rfl) fun _ => by
    obtain ⟨variableId, variableType, name, description, required, _ | kinds, value⟩ := input
    all_goals rfl
  value := .word fun written found => by
    rw [get?_value_dump, Option.some.injEq] at found
    rw [← found]
    refine .refl fun item listed => ?_
    obtain ⟨value, -, rfl⟩ := List.mem_map.mp listed
    exact value.respells_dump

theorem Task.respells_dump (task : Task) : Respells task.dump task.dump where
  object := rfl
  id := .word fun _ _ => rfl
  title := .word fun _ _ => rfl
  prompt := .word fun _ _ => rfl
  dependentTasks := .refl (fun _ _ => rfl) fun _ => by
    obtain ⟨id, title, prompt, _ | ids, toolsets⟩ := task
    all_goals rfl
  toolsets := .word fun _ _ => rfl

theorem Plan.respells_dump (plan : Plan) : Respells plan.dump plan.dump where
  object := rfl
  title := .word fun _ _ => rfl
  tasks := .word fun written found => by
    cases found
    refine .refl fun item listed => ?_
    obtain ⟨task, -, rfl⟩ := List.mem_map.mp listed
    exact task.respells_dump
  inputs := .word fun written found => by
    cases found
    refine .refl fun item listed => ?_
    obtain ⟨input, -, rfl⟩ := List.mem_map.mp listed
    exact input.respells_dump

/-! ## Plans that are read back -/

namespace Plan

/-- The title of a plan that was read is a text. -/
theorem exists_title_of_ofJson {value : Json} {plan : Plan} (h : ofJson value = .ok plan) :
    ∃ text, plan.title = .str text := by
  obtain ⟨found, passes, rest⟩ := bind_eq_ok_iff.mp h
  obtain ⟨rfl, -⟩ := distinct_eq_ok_iff.mp rest
  obtain ⟨members, -, passed⟩ := Json.checkRecord_eq_passed_iff.mp
    (Checked.orFail_eq_ok_iff.mp passes)
  obtain ⟨⟨text, -, title⟩, -⟩ := checkMembers_eq_passed_iff.mp passed
  exact ⟨text, title⟩

/-- A sound plan with a text for its title is read back from every respelling. -/
theorem check_of_respells {plan : Plan} {spelled : Json} {text : String}
    (title : plan.title = .str text) (typed : ∀ input ∈ plan.inputs, input.wellTyped = true)
    (h : Respells plan.dump spelled) : check spelled = .passed plan := by
  obtain ⟨members, rfl⟩ := Json.isObject_iff.mp h.object
  refine Json.checkRecord_eq_passed_iff.mpr
    ⟨members, rfl, checkMembers_eq_passed_iff.mpr ⟨⟨text, ?_, title⟩, ?_, ?_⟩⟩
  · have written : plan.dump.get? "title" = some (.str text) := by
      change some plan.title.finiteOnly = _
      rw [title]
      rfl
    exact h.title.optional written (by rintro _ rfl; rfl)
  · exact h.tasks.optional rfl (fun _ told => told.checkItems fun _ _ _ told =>
      Task.check_of_respells told)
  · exact h.inputs.optional rfl (fun _ told => told.checkItems fun input listed _ told =>
      Variable.check_of_respells (typed input listed) told)

/-- **Reading undoes writing.** A plan that was read is read back from every respelling of what it
is written as, and so it is written as before. -/
theorem ofJson_of_respells {value : Json} {plan : Plan} (accepted : ofJson value = .ok plan) :
    (∀ spelled, Respells plan.dump spelled → ofJson spelled = .ok plan) ∧
      dump <$> ofJson plan.dump = .ok plan.dump := by
  have sound := sound_of_ofJson accepted
  obtain ⟨text, title⟩ := exists_title_of_ofJson accepted
  have readBack (spelled : Json) (h : Respells plan.dump spelled) : ofJson spelled = .ok plan := by
    have passed := check_of_respells title sound.wellTyped h
    rw [ofJson, passed]
    exact distinct_eq_ok_iff.mpr ⟨rfl, sound.toDistinct⟩
  refine ⟨readBack, ?_⟩
  rw [readBack plan.dump plan.respells_dump]
  rfl

/-- Names in their other spelling, null for what is absent, members that are no fields and members
in another order, on every level. -/
theorem ofJson_of_respells_of_mixed :
    let value : Json := .obj [
      ("tasks", .arr [.obj [("id", .str "a"), ("dependentTasks", .arr [.str "b"])],
        .obj [("id", .str "b"), ("title", .null)]]),
      ("variables", .arr [.obj [("variableId", .str "v"), ("variableType", .str "resource"),
        ("name", .str "n"), ("description", .str ""), ("required", .str "Yes"),
        ("resourceTypes", .arr [.str "image"]),
        ("value", .arr [.obj [("type", .str "resource"),
          ("resource", .obj [("name", .str "f"), ("fileType", .str "image")])]])]])]
    let spelled : Json := .obj [("version", .int 2),
      ("variables", .arr [.obj [("variable_id", .str "v"), ("variable_type", .str "resource"),
        ("required", .bool true), ("name", .str "n"), ("hint", .null), ("description", .str ""),
        ("resource_types", .arr [.str "image"]),
        ("value", .arr [.obj [("text", .null), ("type", .str "resource"),
          ("resource", .obj [("size", .int 3), ("file_type", .str "image"),
            ("name", .str "f")])]])]]),
      ("tasks", .arr [
        .obj [("id", .str "a"), ("title", .str ""), ("prompt", .str ""), ("done", .bool false),
          ("dependent_tasks", .arr [.str "b"]), ("toolsets", .arr [])],
        .obj [("dependent_tasks", .null), ("id", .str "b"), ("title", .str ""),
          ("prompt", .str ""), ("toolsets", .arr [])]]),
      ("title", .str "")]
    ∃ plan, ofJson value = .ok plan ∧ Respells plan.dump spelled ∧ plan.dump ≠ spelled ∧
      ofJson spelled = .ok plan := by
  intro value spelled
  obtain ⟨plan, accepted, differs, respells⟩ : ∃ plan, ofJson value = .ok plan ∧
      plan.dump ≠ spelled ∧ Respells plan.dump spelled := by
    refine ⟨_, rfl, by decide, ?_⟩
    -- each level is compared field by field
    refine ⟨rfl, ⟨_, rfl, rfl⟩, ⟨_, rfl, _, _, rfl, rfl, .cons ?_ (.cons ?_ .nil)⟩,
      ⟨_, rfl, _, _, rfl, rfl, .cons ?_ .nil⟩⟩
    · exact ⟨rfl, ⟨_, rfl, rfl⟩, ⟨_, rfl, rfl⟩, ⟨_, rfl, rfl⟩, ⟨_, rfl, rfl⟩, ⟨_, rfl, rfl⟩⟩
    · exact ⟨rfl, ⟨_, rfl, rfl⟩, ⟨_, rfl, rfl⟩, ⟨_, rfl, rfl⟩, rfl, ⟨_, rfl, rfl⟩⟩
    · refine ⟨rfl, ⟨_, rfl, rfl⟩, ⟨_, rfl, rfl⟩, ⟨_, rfl, rfl⟩, ⟨_, rfl, rfl⟩, ⟨_, rfl, rfl⟩,
        ⟨_, rfl, rfl⟩, ⟨_, rfl, _, _, rfl, rfl, .cons ?_ .nil⟩⟩
      exact ⟨rfl, ⟨_, rfl, rfl⟩, rfl, ⟨_, rfl, rfl, ⟨_, rfl, rfl⟩, ⟨_, rfl, rfl⟩⟩⟩
  exact ⟨plan, accepted, respells, differs, (ofJson_of_respells accepted).1 spelled respells⟩

end Plan

end PlanGraph
