import PlanGraph.Proofs.Compile.Run
import PlanGraph.Proofs.Plan.Grammar

/-!
# Two readings of a variable

The inputs of a canvas are read off variables that were checked, or off objects as they were given.
For an object that passes its check the two come to the same exactly where the object is explicit
(`CanvasInput.Explicit`): a lenient reading fills in no default, and takes every text for a yes
where the check knows words that say no (`Json.truthy_eq_iff_of_checkFlag`). Everything else reads
the same, provided that no member is hidden under the other spelling of its name
(`CanvasInput.Unhidden`).

So a plan that passes has one graph, but two lists of inputs where one of its variables is not
explicit (`Compilation.inputs_of_accepted`).
-/

namespace PlanGraph

/-- Two lists are read alike where, item by item, both are read, and alike exactly where the first
item has a property. -/
theorem filterMap_eq_iff_of_forall₂ {α β γ : Type} {f : α → Option γ} {g : β → Option γ}
    {holds : α → Prop} {as : List α} {bs : List β}
    (each : List.Forall₂ (fun a b => (f a).isSome = true ∧ (g b).isSome = true ∧
      (f a = g b ↔ holds a)) as bs) :
    as.filterMap f = bs.filterMap g ↔ ∀ a ∈ as, holds a := by
  induction each with
  | nil => simp
  | @cons a b as bs first _ ih =>
      obtain ⟨read, read', same⟩ := first
      obtain ⟨c, read⟩ := Option.isSome_iff_exists.mp read
      obtain ⟨c', read'⟩ := Option.isSome_iff_exists.mp read'
      rw [read, read', Option.some.injEq] at same
      rw [List.filterMap_cons_some read, List.filterMap_cons_some read', List.cons.injEq, same, ih,
        List.forall_mem_cons]

namespace Json

/-! ## Members under their written names -/

/-- A member is not hidden under the other spelling of its name. -/
def Unhidden (key : Key) (value : Json) : Prop :=
  value.get? key.wire = none → value.get? key.plain = none

section

variable {α : Type} {key : Key} {members : List (String × Json)}

/-- A member that is not hidden is found under its written name. -/
theorem Unhidden.value?_eq (shown : Unhidden key (obj members)) :
    key.value? members = (obj members).get? key.wire := by
  rw [Key.value?_eq_either?, either?]
  rcases found : (obj members).get? key.wire with _ | value
  · rw [shown found]
    rfl
  · rfl

/-- A name of one spelling hides nothing. -/
theorem unhidden_word (name : String) (value : Json) : Unhidden (.word name) value :=
  fun missing => missing

/-- What passes as a text that must be there is that text. -/
theorem Unhidden.getD_of_required {text : String} (shown : Unhidden key (obj members))
    (passed : Key.required key checkText members = .passed text) :
    (obj members).getD key.wire = .str text := by
  obtain ⟨value, found, isText⟩ := Key.required_eq_passed_iff.mp passed
  rw [shown.value?_eq] at found
  rw [getD, found, checkText_eq_passed_iff.mp isText]
  rfl

/-- What passes as a value that may be absent reads as that value, provided that each value that
passes does; where it is absent, there is nothing or null. -/
theorem Unhidden.getD_of_nullable {β : Type} {check : Json → Checked α} {a? : Option α}
    (read : Json → β) (write : α → Json) (shown : Unhidden key (obj members))
    (passed : Key.optional key none (checkNullable check) members = .passed a?)
    (reads : ∀ value a, (obj members).get? key.wire = some value → check value = .passed a →
      read value = read (write a)) :
    read ((obj members).getD key.wire) = read ((a?.map write).getD .null) := by
  rw [getD, ← shown.value?_eq]
  rcases a? with _ | a
  · rw [Changes.checkMember_eq_none_iff.mp passed]
    rfl
  · obtain ⟨value, found, -, passed⟩ := Changes.checkMember_eq_some_iff.mp passed
    rw [found]
    rw [shown.value?_eq] at found
    exact reads value a found passed

/-- What passes as a name with a default reads as its name exactly where it is there. -/
theorem Unhidden.getD_of_named {name : α → String} {default a : α} {check : Json → Checked α}
    (shown : Unhidden key (obj members))
    (passed : Key.optional key default check members = .passed a)
    (named : ∀ value a, check value = .passed a → value = .str (name a)) :
    (obj members).getD key.wire = .str (name a) ↔ ((obj members).get? key.wire).isSome = true := by
  rw [Key.optional_eq_passed_iff, shown.value?_eq] at passed
  rcases passed with ⟨missing, rfl⟩ | ⟨value, found, passed⟩
  · simp [getD, missing]
  · simp [getD, found, named value a passed]

/-! ## Flags as they are read leniently -/

/-- The words that say no. -/
def refusals : List String :=
  ["0", "f", "false", "n", "no", "off"]

/-- A word that spells a flag says yes exactly where it is none of those that say no. -/
theorem flagSpelling_iff : ∀ pair ∈ flagSpellings, pair.2 = true ↔ pair.1 ∉ refusals := by
  decide

/-- A flag that is given counts as true where it is true, except that every text does. -/
theorem truthy_eq_iff_of_checkFlag {value : Json} {flag : Bool}
    (passed : checkFlag value = .passed flag) :
    value.truthy = flag ↔
      ∀ text, value = .str text → String.ofList (text.toList.map Char.toLower) ∉ refusals := by
  have lax : IsLaxFlag value :=
    issues_checkFlag_eq_nil_iff.mp (Checked.issues_eq_nil_iff.mpr ⟨flag, passed⟩)
  cases lax with
  | flag b =>
      cases passed
      simp [truthy]
  | zero =>
      cases passed
      simp [truthy]
  | one =>
      cases passed
      simp [truthy]
  | floatZero negative =>
      rw [checkFlag, Binary64.toInt?_eq_zero_iff.mpr ⟨negative, rfl⟩] at passed
      cases passed
      simp [truthy, Binary64.isZero]
  | floatOne =>
      rw [checkFlag, Binary64.toInt?_eq_one_iff.mpr rfl] at passed
      cases passed
      simp [truthy, Binary64.isZero, Nat.ne_of_gt Binary64.unitsPerOne_pos]
  | @word text small =>
      have filled : text ≠ "" := by
        rintro rfl
        exact absurd small (by decide)
      have isTrue : (str text).truthy = true := bne_iff_ne.mpr filled
      rw [checkFlag] at passed
      split at passed
      case h_1 spelled found =>
        cases passed
        obtain ⟨before, after, parts, -⟩ := List.lookup_eq_some_iff.mp found
        have listed : (String.ofList (text.toList.map Char.toLower), flag) ∈ flagSpellings := by
          simp [parts]
        rw [isTrue, eq_comm, flagSpelling_iff _ listed]
        simp
      case h_2 => exact absurd passed Checked.fail_ne_passed

end

end Json

/-! ## Values -/

/-- The members of a resource pass when each of them does. -/
theorem Resource.checkMembers_eq_passed_iff {members : List (String × Json)}
    {resource : Resource} :
    checkMembers members = .passed resource ↔
      Key.required (.word "name") Json.checkText members = .passed resource.name ∧
      Key.required .fileType ResourceType.check members = .passed resource.fileType := by
  obtain ⟨name, fileType⟩ := resource
  simp only [checkMembers, Checked.seq_eq_passed_iff, Checked.map_eq_passed_iff]
  constructor
  · rintro ⟨_, _, ⟨_, hname, rfl⟩, htype, made⟩
    cases made
    exact ⟨hname, htype⟩
  · rintro ⟨hname, htype⟩
    exact ⟨_, _, ⟨_, hname, rfl⟩, htype, rfl⟩

/-- The members of a value pass when each of them does. -/
theorem VariableValue.checkMembers_eq_passed_iff {members : List (String × Json)}
    {value : VariableValue} :
    checkMembers members = .passed value ↔
      Key.optional (.word "type") .text ValueType.check members = .passed value.type ∧
      Key.optional (.word "text") none (Json.checkNullable Json.checkText) members =
        .passed value.text ∧
      Key.optional (.word "resource") none (Json.checkNullable Resource.check) members =
        .passed value.resource := by
  obtain ⟨type, text, resource⟩ := value
  simp only [checkMembers, Checked.seq_eq_passed_iff, Checked.map_eq_passed_iff]
  constructor
  · rintro ⟨_, _, ⟨_, _, ⟨_, htype, rfl⟩, htext, rfl⟩, hresource, made⟩
    cases made
    exact ⟨htype, htext, hresource⟩
  · rintro ⟨htype, htext, hresource⟩
    exact ⟨_, _, ⟨_, _, ⟨_, htype, rfl⟩, htext, rfl⟩, hresource, rfl⟩

namespace CanvasInput

/-- A resource that passes is kept where its value is, with the same name and file type. -/
theorem resource?_of_check {value : Json} {resource : Resource}
    (shown : value.Unhidden .fileType) (passed : Resource.check value = .passed resource) :
    resource? value = resource? resource.dump := by
  obtain ⟨members, rfl, passed⟩ := Json.checkRecord_eq_passed_iff.mp passed
  obtain ⟨hasName, hasType⟩ := Resource.checkMembers_eq_passed_iff.mp passed
  have name : (Json.obj members).getD "name" = .str resource.name :=
    (Json.unhidden_word _ _).getD_of_required hasName
  have fileType : (Json.obj members).getD "fileType" = .str resource.fileType.name := by
    obtain ⟨value, found, named⟩ := Key.required_eq_passed_iff.mp hasType
    rw [shown.value?_eq] at found
    have found : (Json.obj members).get? "fileType" = some value := found
    rw [Json.getD, found, ResourceType.check_eq_passed_iff.mp named]
    rfl
  have read : ∀ members : List (String × Json), resource? (.obj members) =
      if ((Json.obj members).getD "name").truthy && ((Json.obj members).getD "fileType").truthy then
        some (.obj [("name", (Json.obj members).getD "name"),
          ("fileType", (Json.obj members).getD "fileType")])
      else none := fun _ => rfl
  rw [read, name, fileType]
  rfl

/-- A value of a variable that passes is read leniently as it passes, exactly where its type is
there. -/
theorem value?_eq_iff_of_check {item : Json} {value : VariableValue}
    (shown : ∀ resource, item.get? "resource" = some resource → resource.Unhidden .fileType)
    (passed : VariableValue.check item = .passed value) :
    value? item = value? value.dumpFull ↔ (item.get? "type").isSome = true := by
  obtain ⟨members, rfl, passed⟩ := Json.checkRecord_eq_passed_iff.mp passed
  obtain ⟨hasType, hasText, hasResource⟩ := VariableValue.checkMembers_eq_passed_iff.mp passed
  have type : (Json.obj members).getD "type" = .str value.type.name ↔
      ((Json.obj members).get? "type").isSome = true :=
    (Json.unhidden_word "type" _).getD_of_named hasType fun _ _ => ValueType.check_eq_passed_iff.mp
  have text : (Json.obj members).getD "text" = .ofString? value.text := by
    have same := (Json.unhidden_word "text" _).getD_of_nullable id Json.str hasText
      fun _ _ _ => Json.checkText_eq_passed_iff.mp
    refine same.trans ?_
    rcases value.text with _ | text
    · rfl
    · rfl
  have resource : resource? ((Json.obj members).getD "resource") =
      resource? ((value.resource.map Resource.dump).getD .null) :=
    (Json.unhidden_word "resource" _).getD_of_nullable resource? Resource.dump hasResource
      fun given _ found => resource?_of_check (shown given found)
  have lenient : value? (.obj members) = some (.obj ([("type", (Json.obj members).getD "type"),
      ("text", .ofString? value.text)] ++ Json.memberIf "resource"
        (resource? ((value.resource.map Resource.dump).getD .null)))) := by
    rw [← text, ← resource]
    rfl
  have strict : value? value.dumpFull = some (.obj ([("type", .str value.type.name),
      ("text", .ofString? value.text)] ++ Json.memberIf "resource"
        (resource? ((value.resource.map Resource.dump).getD .null)))) := rfl
  rw [← type, lenient, strict]
  simp only [Option.some.injEq, Json.obj.injEq, List.append_left_inj, List.cons.injEq,
    Prod.mk.injEq, true_and, and_true]

/-- Values that pass are read leniently as they pass, exactly where the type of each is there. -/
theorem values_eq_iff_of_check {items : List Json} {values : List VariableValue}
    (shown : ∀ item ∈ items, ∀ resource, item.get? "resource" = some resource →
      resource.Unhidden .fileType)
    (passed : List.Forall₂ (fun item value => VariableValue.check item = .passed value) items
      values) :
    items.filterMap value? = (values.map VariableValue.dumpFull).filterMap value? ↔
      ∀ item ∈ items, (item.get? "type").isSome = true := by
  refine filterMap_eq_iff_of_forall₂ ?_
  rw [List.forall₂_map_right_iff]
  refine ((List.forall₂_and_left _ _).mpr ⟨shown, passed⟩).imp fun item value h => ?_
  obtain ⟨members, rfl, -⟩ := Json.checkRecord_eq_passed_iff.mp h.2
  exact ⟨rfl, rfl, value?_eq_iff_of_check h.1 h.2⟩

end CanvasInput

/-! ## Variables -/

/-- The input of a canvas for a variable, member by member. -/
theorem Variable.canvasInput_eq (input : Variable) :
    input.canvasInput = .obj [("variableId", .str input.variableId),
      ("variableType", .str input.variableType.name), ("name", .str input.name),
      ("value", .arr ((input.value.map VariableValue.dumpFull).filterMap CanvasInput.value?)),
      ("description", .str input.description), ("required", .bool input.required),
      ("resourceTypes", input.resourceTypesJson?.getD .null)] := rfl

namespace CanvasInput

/-- No member of a variable that has two spellings is hidden under the other one. -/
structure Unhidden (input : Json) : Prop where
  variableId : input.Unhidden .variableId
  variableType : input.Unhidden .variableType
  resourceTypes : input.Unhidden .resourceTypes
  fileType : ∀ item ∈ input.itemsOf "value", ∀ resource, item.get? "resource" = some resource →
    resource.Unhidden .fileType

/-- A variable says what has a default: its type and the type of each value. Where a text says
whether a value is required, it says yes. -/
structure Explicit (input : Json) : Prop where
  variableType : (input.get? "variableType").isSome = true
  types : ∀ item ∈ input.itemsOf "value", (item.get? "type").isSome = true
  required : ∀ text, input.get? "required" = some (.str text) →
    String.ofList (text.toList.map Char.toLower) ∉ Json.refusals

section

variable {members : List (String × Json)} {input : Variable}

/-- Of a variable that passes, the id, the name, the description and the resource types are read
leniently as they pass. -/
theorem ofObject_of_check (shown : Unhidden (.obj members))
    (passed : Variable.checkMembers members = .passed input) :
    ofObject (.obj members) = .obj [("variableId", .str input.variableId),
      ("variableType", (Json.obj members).getD "variableType"), ("name", .str input.name),
      ("value", .arr (((Json.obj members).itemsOf "value").filterMap value?)),
      ("description", .str input.description),
      ("required", .bool ((Json.obj members).getD "required").truthy),
      ("resourceTypes", input.resourceTypesJson?.getD .null)] := by
  obtain ⟨hasId, -, hasName, hasDescription, -, hasKinds, -⟩ :=
    Variable.checkMembers_eq_passed_iff.mp passed
  have variableId : (Json.obj members).getD "variableId" = .str input.variableId :=
    shown.variableId.getD_of_required hasId
  have name : (Json.obj members).getD "name" = .str input.name :=
    (Json.unhidden_word _ _).getD_of_required hasName
  have description : (Json.obj members).getD "description" = .str input.description :=
    (Json.unhidden_word _ _).getD_of_required hasDescription
  have kinds : (Json.obj members).getD "resourceTypes" = input.resourceTypesJson?.getD .null := by
    refine shown.resourceTypes.getD_of_nullable id _ hasKinds fun value kinds _ passed => ?_
    obtain ⟨items, rfl, each⟩ := Json.checkItems_eq_passed_iff.mp passed
    have names : items = (kinds.map ResourceType.name).map Json.str := by
      rw [List.map_map, ← List.forall₂_eq_eq_eq, List.forall₂_map_right_iff]
      exact each.imp fun _ _ => ResourceType.check_eq_passed_iff.mp
    exact congrArg Json.arr names
  rw [← variableId, ← name, ← description, ← kinds]
  rfl

/-- Whether a value is required is read leniently as it passes, unless a text says no. -/
theorem required_eq_iff_of_check (passed : Variable.checkMembers members = .passed input) :
    ((Json.obj members).getD "required").truthy = input.required ↔
      ∀ text, (Json.obj members).get? "required" = some (.str text) →
        String.ofList (text.toList.map Char.toLower) ∉ Json.refusals := by
  obtain ⟨-, -, -, -, hasRequired, -, -⟩ := Variable.checkMembers_eq_passed_iff.mp passed
  rw [Key.optional_eq_passed_iff, Key.value?_word_eq_get?] at hasRequired
  rcases hasRequired with ⟨missing, none⟩ | ⟨value, found, flag⟩
  · simp [Json.getD, missing, ← none, Json.truthy]
  · rw [Json.getD, found, Option.getD_some, Json.truthy_eq_iff_of_checkFlag flag]
    simp

/-- The values are read leniently as they pass where the type of each of them is there. -/
theorem value_eq_iff_of_check (shown : Unhidden (.obj members))
    (passed : Variable.checkMembers members = .passed input) :
    ((Json.obj members).itemsOf "value").filterMap value? =
        (input.value.map VariableValue.dumpFull).filterMap value? ↔
      ∀ item ∈ (Json.obj members).itemsOf "value", (item.get? "type").isSome = true := by
  obtain ⟨-, -, -, -, -, -, hasValue⟩ := Variable.checkMembers_eq_passed_iff.mp passed
  obtain ⟨value, found, isList⟩ := Key.required_eq_passed_iff.mp hasValue
  obtain ⟨items, rfl, each⟩ := Json.checkItems_eq_passed_iff.mp isList
  rw [Key.value?_word_eq_get?] at found
  have listed : (Json.obj members).itemsOf "value" = items := by
    rw [Json.itemsOf, found]
  have shown := shown.fileType
  rw [listed] at shown ⊢
  exact values_eq_iff_of_check shown each

end

/-- A variable that passes is read leniently as it passes, exactly where it is explicit. -/
theorem ofObject_eq_iff_of_check {value : Json} {input : Variable} (shown : Unhidden value)
    (passed : Variable.check value = .passed input) :
    ofObject value = input.canvasInput ↔ Explicit value := by
  obtain ⟨members, rfl, passed, -⟩ := Variable.check_eq_passed_iff.mp passed
  obtain ⟨-, hasType, -⟩ := Variable.checkMembers_eq_passed_iff.mp passed
  have type : (Json.obj members).getD "variableType" = .str input.variableType.name ↔
      ((Json.obj members).get? "variableType").isSome = true :=
    shown.variableType.getD_of_named hasType fun _ _ => VariableType.check_eq_passed_iff.mp
  rw [ofObject_of_check shown passed, Variable.canvasInput_eq]
  simp only [Json.obj.injEq, List.cons.injEq, Prod.mk.injEq, true_and, and_true, Json.arr.injEq,
    Json.bool.injEq, type, value_eq_iff_of_check shown passed, required_eq_iff_of_check passed]
  exact ⟨fun ⟨hasType, types, flag⟩ => ⟨hasType, types, flag⟩,
    fun ⟨hasType, types, flag⟩ => ⟨hasType, types, flag⟩⟩

/-- Members other than the type, the values and the flag are the same in any case. -/
theorem get?_ofObject_of_check {value : Json} {input : Variable} {name : String}
    (shown : Unhidden value) (passed : Variable.check value = .passed input)
    (apart : name ∉ ["variableType", "value", "required"]) :
    (ofObject value).get? name = input.canvasInput.get? name := by
  obtain ⟨members, rfl, passed, -⟩ := Variable.check_eq_passed_iff.mp passed
  simp only [List.mem_cons, List.not_mem_nil, or_false, not_or] at apart
  obtain ⟨notType, notValue, notFlag⟩ := apart
  rw [ofObject_of_check shown passed, Variable.canvasInput_eq]
  simp only [Json.get?, Json.member?, List.lookup_cons, beq_eq_false_iff_ne.mpr notType,
    beq_eq_false_iff_ne.mpr notValue, beq_eq_false_iff_ne.mpr notFlag]

end CanvasInput

/-! ## Plans -/

/-- The variables of a plan that passes are read leniently as they pass, exactly where each of them
is explicit. -/
theorem PlanInput.canvasInputs_eq_iff_of_check {value : Json} {plan : Plan}
    (shown : ∀ item ∈ value.itemsOf "variables", CanvasInput.Unhidden item)
    (passed : Plan.check value = .passed plan) :
    (raw value).canvasInputs = (parsed plan).canvasInputs ↔
      ∀ item ∈ value.itemsOf "variables", CanvasInput.Explicit item := by
  obtain ⟨members, rfl, passed⟩ := Json.checkRecord_eq_passed_iff.mp passed
  obtain ⟨-, -, inputs⟩ := Plan.checkMembers_eq_passed_iff.mp passed
  rw [Key.optional_eq_passed_iff, Key.value?_word_eq_get?] at inputs
  rw [canvasInputs, canvasInputs]
  rcases inputs with ⟨missing, none⟩ | ⟨list, found, isList⟩
  · rw [Json.itemsOf, missing, ← none]
    simp
  · obtain ⟨items, rfl, each⟩ := Json.checkItems_eq_passed_iff.mp isList
    have listed : (Json.obj members).itemsOf "variables" = items := by
      rw [Json.itemsOf, found]
    rw [listed] at shown ⊢
    have objects : items.filter Json.isObject = items := by
      refine List.filter_eq_self.mpr fun item listed => ?_
      obtain ⟨input, -, passed⟩ := Checked.exists_value_of_mem each listed
      obtain ⟨members, rfl, -⟩ := Json.checkRecord_eq_passed_iff.mp passed
      rfl
    rw [objects, ← List.filterMap_eq_map, ← List.filterMap_eq_map]
    refine filterMap_eq_iff_of_forall₂ ?_
    refine ((List.forall₂_and_left _ _).mpr ⟨shown, each⟩).imp fun item input h => ⟨rfl, rfl, ?_⟩
    rw [Function.comp_apply, Function.comp_apply, Option.some.injEq]
    exact CanvasInput.ofObject_eq_iff_of_check h.1 h.2

namespace Compilation

/-- What a compilation of tasks carries are the inputs of its plan. -/
theorem inputs_of_returns {layout : Layout} {input : PlanInput} {toolsets : ToolsetSource}
    {options : CompileOptions} {supply rest : Supply} {compilation : Compilation}
    (busy : input.outlines ≠ [])
    (returned : (ofPlan layout input toolsets options).Returns supply compilation rest) :
    compilation.canvas.inputs = input.canvasInputs := by
  rcases ofPlan_returns_iff.mp returned with ⟨idle, -⟩ | ⟨-, run, rfl, -⟩
  · exact absurd idle busy
  · rfl

/-- **Two readings of a variable.** Let a variable pass its check, and let none of its members be
hidden under another spelling. The input of a canvas that is read off the variable as it was given
is the one that is read off what it passes as exactly where the variable is explicit, and in any
case they agree on all members but the type, the values and the flag. A plan with tasks that passes
compiles to one graph in both readings, and to the same inputs exactly where every variable is
explicit. -/
theorem inputs_of_accepted (item value : Json) (layout : Layout) (toolsets : ToolsetSource)
    (options : CompileOptions) :
    (∀ label input, Variable.ofJson item label = .ok input → CanvasInput.Unhidden item →
      (CanvasInput.ofObject item = input.canvasInput ↔ CanvasInput.Explicit item) ∧
      ∀ name ∉ ["variableType", "value", "required"],
        (CanvasInput.ofObject item).get? name = input.canvasInput.get? name) ∧
    ∀ plan, Plan.ofJson value = .ok plan → plan.tasks ≠ [] →
      (∀ item ∈ value.itemsOf "variables", CanvasInput.Unhidden item) →
      ∀ supply compilation rest,
        (ofPlan layout (.raw value) toolsets options).Returns supply compilation rest →
        ∃ compilation', (ofPlan layout (.parsed plan) toolsets options).Returns supply compilation'
            rest ∧ compilation.graph = compilation'.graph ∧
          (compilation.canvas.inputs = compilation'.canvas.inputs ↔
            ∀ item ∈ value.itemsOf "variables", CanvasInput.Explicit item) := by
  constructor
  · intro label input accepted shown
    have passed := Checked.orFail_eq_ok_iff.mp accepted
    exact ⟨CanvasInput.ofObject_eq_iff_of_check shown passed,
      fun _ => CanvasInput.get?_ofObject_of_check shown passed⟩
  · intro plan accepted busy shown supply compilation rest returned
    obtain ⟨found, passed, later⟩ := bind_eq_ok_iff.mp accepted
    obtain ⟨rfl, -⟩ := Plan.distinct_eq_ok_iff.mp later
    have checked := Checked.orFail_eq_ok_iff.mp passed
    have outlines := PlanInput.outlines_of_check checked
    obtain ⟨compilation', returned', same⟩ :=
      Making.exists_returns_of_map_eq (graph_ofPlan outlines layout toolsets options) returned
    refine ⟨compilation', returned', same, ?_⟩
    have tasks : (PlanInput.parsed found).outlines ≠ [] := List.map_eq_nil_iff.not.mpr busy
    rw [inputs_of_returns (outlines ▸ tasks) returned, inputs_of_returns tasks returned']
    exact PlanInput.canvasInputs_eq_iff_of_check shown checked

/-- An explicit variable, with a flag that is a text, a member that is unknown, and a value whose
text is null. -/
theorem inputs_of_accepted_of_explicit :
    let item : Json := .obj [("variableId", .str "v"), ("variableType", .str "resource"),
      ("name", .str "n"), ("description", .str ""), ("required", .str "YES"),
      ("value", .arr [.obj [("type", .str "resource"), ("text", .null), ("resource",
        .obj [("size", .int 3), ("fileType", .str "audio"), ("name", .str "f")])]])]
    let value : Json := .obj [("tasks", .arr [.obj [("id", .str "t")]]),
      ("variables", .arr [item])]
    let written : Json := .obj [("variableId", .str "v"), ("variableType", .str "resource"),
      ("name", .str "n"), ("value", .arr [.obj [("type", .str "resource"), ("text", .null),
        ("resource", .obj [("name", .str "f"), ("fileType", .str "audio")])]]),
      ("description", .str ""), ("required", .bool true), ("resourceTypes", .null)]
    ∃ input plan compilation compilation' rest,
      Variable.ofJson item "Variable" = .ok input ∧ CanvasInput.ofObject item = input.canvasInput ∧
      Plan.ofJson value = .ok plan ∧
      (ofPlan Grid.layout (.raw value) (.parsed []) .standard).Returns .counting compilation rest ∧
      (ofPlan Grid.layout (.parsed plan) (.parsed []) .standard).Returns .counting compilation'
        rest ∧
      compilation.canvas.inputs = [written] ∧ compilation'.canvas.inputs = [written] := by
  intro item value written
  have shown : CanvasInput.Unhidden item := by
    refine ⟨nofun, nofun, fun _ => rfl, fun given listed resource found => ?_⟩
    rw [List.mem_singleton.mp listed] at found
    cases found
    exact nofun
  have explicit : CanvasInput.Explicit item := by
    refine ⟨rfl, fun given listed => ?_, fun text found => ?_⟩
    · rw [List.mem_singleton.mp listed]
      rfl
    · cases found
      decide
  have every {holds : Json → Prop} (h : holds item) : ∀ other ∈ value.itemsOf "variables",
      holds other := List.forall_mem_singleton.mpr h
  obtain ⟨alone, among⟩ :=
    inputs_of_accepted item value Grid.layout (.parsed []) CompileOptions.standard
  obtain ⟨input, accepted⟩ : ∃ input, Variable.ofJson item "Variable" = .ok input := ⟨_, rfl⟩
  obtain ⟨plan, read, busy⟩ : ∃ plan, Plan.ofJson value = .ok plan ∧ plan.tasks ≠ [] :=
    ⟨_, rfl, nofun⟩
  obtain ⟨compilation, rest, returned, inputs⟩ : ∃ compilation rest,
      (ofPlan Grid.layout (.raw value) (.parsed []) .standard).Returns .counting compilation rest ∧
      compilation.canvas.inputs = [written] := ⟨_, _, rfl, rfl⟩
  obtain ⟨compilation', returned', -, same⟩ :=
    among plan read busy (every shown) _ _ _ returned
  exact ⟨input, plan, compilation, compilation', rest, accepted,
    (alone _ input accepted shown).1.mpr explicit, read, returned, returned', inputs,
    (same.mpr (every explicit)).symm.trans inputs⟩

end Compilation

/-- A variable without a type, with a value without one, and with a text that says no: the check
fills in both types and reads a no, and a lenient reading finds null twice and a yes. -/
theorem CanvasInput.read_differently :
    let value : Json := .obj [("variableId", .str "v"), ("name", .str "n"),
      ("description", .str "d"), ("required", .str "false"),
      ("value", .arr [.obj [("text", .str "a")]])]
    ∃ input, Variable.ofJson value "Variable" = .ok input ∧ CanvasInput.Unhidden value ∧
      CanvasInput.ofObject value ≠ input.canvasInput ∧
      CanvasInput.ofObject value = .obj [("variableId", .str "v"), ("variableType", .null),
        ("name", .str "n"), ("value", .arr [.obj [("type", .null), ("text", .str "a")]]),
        ("description", .str "d"), ("required", .bool true), ("resourceTypes", .null)] ∧
      input.canvasInput = .obj [("variableId", .str "v"), ("variableType", .str "string"),
        ("name", .str "n"), ("value", .arr [.obj [("type", .str "text"), ("text", .str "a")]]),
        ("description", .str "d"), ("required", .bool false), ("resourceTypes", .null)] := by
  intro value
  refine ⟨_, rfl, ⟨nofun, fun _ => rfl, fun _ => rfl, ?_⟩, by decide, rfl, rfl⟩
  intro item listed resource found
  rw [List.mem_singleton.mp listed] at found
  cases found

end PlanGraph
