import PlanGraph.Proofs.Compile.Readings
import PlanGraph.Proofs.Number.Rounding

/-!
# The grammar of plans

Which values are plans, said of the values alone. A grammar names, for each member of an object, the
two names it is looked up by, whether it may be missing, and the shape of its value; it does not
mention checks, defaults or issues.

* Every check finds no issue exactly where the grammar of what it reads is kept
  (`Task.issues_check_eq_nil_iff`, `Variable.issues_check_eq_nil_iff` and the shapes below them).
* A plan is read exactly from the values that keep the grammar of plans (`Plan.exists_ofJson_iff`):
  those whose members have their shapes, and in which no id occurs twice.
-/

namespace PlanGraph

namespace Json

/-! ## Shapes -/

/-- The value is a text. -/
def IsText (value : Json) : Prop :=
  ∃ text, value = .str text

/-- The value is one of some texts. -/
def IsOneOf (names : List String) (value : Json) : Prop :=
  ∃ name ∈ names, value = .str name

/-- The value is an array of values of a shape. -/
def IsListOf (shape : Json → Prop) (value : Json) : Prop :=
  ∃ items, value = .arr items ∧ ∀ item ∈ items, shape item

/-- The value is null or of a shape. -/
def IsNullOr (shape : Json → Prop) (value : Json) : Prop :=
  value = .null ∨ shape value

/-- The values that spell a flag: a flag, zero or one as a number of either kind, and some words in
letters of any ASCII case. -/
inductive IsLaxFlag : Json → Prop
  | flag (b : Bool) : IsLaxFlag (.bool b)
  | zero : IsLaxFlag (.int 0)
  | one : IsLaxFlag (.int 1)
  | floatZero (negative : Bool) : IsLaxFlag (.float (.finite negative 0))
  | floatOne : IsLaxFlag (.float (.finite false Binary64.unitsPerOne))
  | word {text : String} (small : String.ofList (text.toList.map Char.toLower) ∈
      ["0", "f", "false", "n", "no", "off", "1", "t", "true", "y", "yes", "on"]) :
      IsLaxFlag (.str text)

/-- The member of a value under the first name, or else the one under the second name. -/
def either? (first second : String) (value : Json) : Option Json :=
  (value.get? first).or (value.get? second)

/-! ## Grammars -/

/-- The grammar of tasks. -/
structure IsTask (value : Json) : Prop where
  object : value.isObject = true
  id : ∀ id ∈ value.get? "id", IsNullOr IsText id
  title : ∀ title ∈ value.get? "title", IsNullOr IsText title
  prompt : ∀ prompt ∈ value.get? "prompt", IsNullOr IsText prompt
  dependentTasks : ∀ ids ∈ value.either? "dependentTasks" "dependent_tasks",
    IsNullOr (IsListOf IsText) ids
  toolsets : ∀ toolsets ∈ value.get? "toolsets", IsNullOr (IsListOf IsText) toolsets

/-- The kinds of resources. -/
def IsResourceType : Json → Prop :=
  IsOneOf ["document", "image", "audio", "video"]

/-- The grammar of resources. -/
structure IsResource (value : Json) : Prop where
  object : value.isObject = true
  name : ∃ name ∈ value.get? "name", IsText name
  fileType : ∃ type ∈ value.either? "fileType" "file_type", IsResourceType type

/-- The grammar of the values of a variable. -/
structure IsVariableValue (value : Json) : Prop where
  object : value.isObject = true
  type : ∀ type ∈ value.get? "type", IsOneOf ["text", "resource"] type
  text : ∀ text ∈ value.get? "text", IsNullOr IsText text
  resource : ∀ resource ∈ value.get? "resource", IsNullOr IsResource resource

/-- The shapes of the members of a variable. -/
structure IsVariableRecord (input : Json) : Prop where
  object : input.isObject = true
  variableId : ∃ id ∈ input.either? "variableId" "variable_id", IsText id
  variableType : ∀ type ∈ input.either? "variableType" "variable_type",
    IsOneOf ["string", "resource"] type
  name : ∃ name ∈ input.get? "name", IsText name
  description : ∃ description ∈ input.get? "description", IsText description
  required : ∀ flag ∈ input.get? "required", IsLaxFlag flag
  resourceTypes : ∀ types ∈ input.either? "resourceTypes" "resource_types",
    IsNullOr (IsListOf IsResourceType) types
  value : ∃ values ∈ input.get? "value", IsListOf IsVariableValue values

/-- The grammar of variables. Resource types belong to resource variables, but an empty list of them
may stand anywhere. -/
structure IsVariable (input : Json) : Prop extends IsVariableRecord input where
  resourceOnly : ∀ types, input.either? "resourceTypes" "resource_types" = some (.arr types) →
    types ≠ [] → input.either? "variableType" "variable_type" = some (.str "resource")

/-- The id of a task, empty where it has none. -/
def taskId (task : Json) : String :=
  ((task.get? "id").bind text?).getD ""

/-- The id of a variable. -/
def variableId? (input : Json) : Option String :=
  (input.either? "variableId" "variable_id").bind text?

/-- The shapes of the members of a plan. -/
structure IsPlanRecord (value : Json) : Prop where
  object : value.isObject = true
  title : ∀ title ∈ value.get? "title", IsNullOr IsText title
  tasks : ∀ tasks ∈ value.get? "tasks", IsListOf IsTask tasks
  inputs : ∀ inputs ∈ value.get? "variables", IsListOf IsVariable inputs

/-- The grammar of plans. Ids are distinct; any number of tasks may have none. -/
structure IsPlan (value : Json) : Prop extends IsPlanRecord value where
  distinctTasks : (((value.itemsOf "tasks").map taskId).filter (· != "")).Nodup
  distinctInputs : ((value.itemsOf "variables").map variableId?).Nodup

end Json

/-! ## Checks without issues -/

namespace Checked

variable {α β : Type}

@[simp]
theorem issues_fail (cause : Cause) : (fail cause : Checked α).issues = [⟨[], cause⟩] := rfl

/-- The items of a list have no issues when none of them has one. -/
@[simp]
theorem issues_itemsFrom_eq_nil_iff {check : α → Checked β} {index : Nat} {items : List α} :
    (itemsFrom check index items).issues = [] ↔ ∀ item ∈ items, (check item).issues = [] := by
  induction items generalizing index with
  | nil => simp [itemsFrom, issues]
  | cons item rest ih => simp [itemsFrom, ih]

/-- With a further rule, a value has no issues when it passed and keeps the rule. -/
theorem issues_guard_eq_nil_iff {x : Checked α} {holds : α → Bool} {cause : Cause} :
    (x.guard holds cause).issues = [] ↔ ∃ a, x = passed a ∧ holds a = true := by
  simp only [issues_eq_nil_iff, guard_eq_passed_iff]

end Checked

namespace Key

variable {α : Type} {key : Key} {check : Json → Checked α} {members : List (String × Json)}

/-- A member that may be missing has no issues when its value has none. -/
theorem issues_optional_eq_nil_iff {default : α} :
    (optional key default check members).issues = [] ↔
      ∀ value ∈ key.value? members, (check value).issues = [] := by
  unfold optional value?
  rcases key.find? members with _ | ⟨spelling, value⟩
  · simp
  · simp

/-- A member that must be there has no issues when it is there and its value has none. -/
theorem issues_required_eq_nil_iff :
    (required key check members).issues = [] ↔
      ∃ value ∈ key.value? members, (check value).issues = [] := by
  unfold required value?
  rcases key.find? members with _ | ⟨spelling, value⟩
  · simp
  · simp

/-- The two spellings of a key are the two names that its member is looked up by. -/
theorem value?_eq_either? (key : Key) (members : List (String × Json)) :
    key.value? members = (Json.obj members).either? key.wire key.plain :=
  key.value?_eq_or members

/-- A name of one spelling is looked up in the object. -/
theorem value?_word_eq_get? (name : String) (members : List (String × Json)) :
    (word name).value? members = (Json.obj members).get? name :=
  value?_word name members

end Key

/-! ## Numbers that are whole -/

namespace Binary64

/-- A number is an integer when its count of units is that many times the units in one. -/
theorem toInt?_eq_some_iff {x : Binary64} {n : Int} :
    x.toInt? = some n ↔ x.signed? = some (n * unitsPerOne) := by
  have nonzero : (unitsPerOne : Int) ≠ 0 := Int.natCast_ne_zero.mpr (Nat.ne_of_gt unitsPerOne_pos)
  unfold toInt?
  -- how many units there are in one does not matter, and is too much to compute with
  generalize unitsPerOne = one at nonzero ⊢
  rcases x.signed? with _ | count
  · exact ⟨nofun, nofun⟩
  · simp only [Option.ite_none_right_eq_some, Option.some.injEq]
    constructor
    · rintro ⟨whole, rfl⟩
      exact (Int.ediv_mul_cancel (Int.dvd_of_emod_eq_zero whole)).symm
    · rintro rfl
      exact ⟨Int.mul_emod_left n _, Int.mul_ediv_cancel n nonzero⟩

/-- Zero has either sign. -/
theorem toInt?_eq_zero_iff {x : Binary64} :
    x.toInt? = some 0 ↔ ∃ negative, x = .finite negative 0 := by
  rw [toInt?_eq_some_iff, Int.zero_mul]
  rcases x with _ | _ | ⟨_ | _, units⟩
  · simp [signed?]
  · simp [signed?]
  · simp [signed?]
  · simp [signed?]

/-- One is positive. -/
theorem toInt?_eq_one_iff {x : Binary64} :
    x.toInt? = some 1 ↔ x = .finite false unitsPerOne := by
  have positive := unitsPerOne_pos
  rw [toInt?_eq_some_iff, Int.one_mul]
  generalize unitsPerOne = one at positive ⊢
  rcases x with _ | _ | ⟨_ | _, units⟩
  · simp [signed?]
  · simp [signed?]
  · simp only [signed?, Option.some.injEq, finite.injEq, true_and]
    omega
  · simp only [signed?, Option.some.injEq, finite.injEq, Bool.true_eq_false, false_and, iff_false]
    omega

end Binary64

namespace Json

/-! ## Shapes that pass -/

section

variable {α : Type} {check : Json → Checked α} {value : Json}

theorem issues_checkText_eq_nil_iff : (checkText value).issues = [] ↔ value.IsText := by
  cases value <;> simp [checkText, IsText]

theorem issues_checkItems_eq_nil_iff :
    (checkItems check value).issues = [] ↔
      IsListOf (fun item => (check item).issues = []) value := by
  cases value <;> simp [checkItems, IsListOf]

theorem issues_checkNullable_eq_nil_iff :
    (checkNullable check value).issues = [] ↔
      IsNullOr (fun value => (check value).issues = []) value := by
  cases value <;> simp [checkNullable, IsNullOr]

theorem issues_checkOr_eq_nil_iff {default : α} :
    (checkOr default check value).issues = [] ↔
      IsNullOr (fun value => (check value).issues = []) value := by
  cases value <;> simp [checkOr, IsNullOr]

theorem issues_checkRecord_eq_nil_iff {shape : String}
    {check : List (String × Json) → Checked α} :
    (checkRecord shape check value).issues = [] ↔
      ∃ members, value = .obj members ∧ (check members).issues = [] := by
  cases value <;> simp [checkRecord]

/-- A name passes when it is one of the choices. -/
theorem lookup_isSome_iff_mem (choices : List (String × α)) (name : String) :
    (choices.lookup name).isSome = true ↔ name ∈ choices.map Prod.fst := by
  simp [List.lookup_isSome_iff]

theorem issues_checkName_eq_nil_iff {choices : List (String × α)} :
    (checkName choices value).issues = [] ↔ IsOneOf (choices.map Prod.fst) value := by
  rcases value with _ | _ | _ | _ | name | _ | _
  case str =>
    have known := lookup_isSome_iff_mem choices name
    rcases found : choices.lookup name with _ | choice
    · simpa [checkName, IsOneOf, found] using known
    · simpa [checkName, IsOneOf, found] using known
  all_goals simp [checkName, IsOneOf]

/-- The choices of some values by their names are found by name, where names differ. -/
theorem checkName_eq_passed_iff {name : α → String} {kinds : List α} {kind : α}
    (differ : (kinds.map name).Nodup) (known : kind ∈ kinds) :
    checkName (kinds.map fun kind => (name kind, kind)) value = .passed kind ↔
      value = .str (name kind) := by
  have lookup (text : String) :
      (kinds.map fun kind => (name kind, kind)).lookup text = some kind ↔ text = name kind := by
    rw [List.lookup_eq_some_iff]
    constructor
    · rintro ⟨before, after, parts, -⟩
      have listed : (text, kind) ∈ kinds.map fun kind => (name kind, kind) := by simp [parts]
      obtain ⟨other, -, same⟩ := List.mem_map.mp listed
      cases same
      rfl
    · rintro rfl
      obtain ⟨before, after, rfl⟩ := List.append_of_mem known
      refine ⟨before.map fun kind => (name kind, kind), _, List.map_append, ?_⟩
      simp only [List.map_append, List.map_cons, List.nodup_append, List.mem_map,
        List.mem_cons] at differ
      grind
  rcases value with _ | _ | _ | _ | text | _ | _
  case str =>
    rw [Json.str.injEq, ← lookup text]
    rcases found : (kinds.map fun kind => (name kind, kind)).lookup text with _ | choice
    · simp [checkName, found]
    · simp [checkName, found]
  all_goals simp [checkName]

theorem isObject_iff : value.isObject = true ↔ ∃ members, value = .obj members := by
  cases value <;> simp [isObject]

end

/-! ## Flags that pass -/

theorem issues_flagOfInt_eq_nil_iff {n : Int} : (flagOfInt n).issues = [] ↔ n = 0 ∨ n = 1 := by
  unfold flagOfInt
  split
  · simp [*]
  · split
    · simp [*]
    · simp [*]

/-- A bound that zero and one are within makes no difference to the integers that pass. -/
theorem issues_flagOfInt_of_bound {n : Int} {bound : Prop} [Decidable bound] {cause : Cause}
    (within : n = 0 ∨ n = 1 → bound) :
    (if bound then flagOfInt n else .fail cause).issues = [] ↔ n = 0 ∨ n = 1 := by
  split
  · exact issues_flagOfInt_eq_nil_iff
  · rename_i beyond
    exact ⟨fun failed => absurd failed (by simp), fun small => absurd (within small) beyond⟩

/-- A value passes as a flag when it spells one. -/
theorem issues_checkFlag_eq_nil_iff {value : Json} :
    (checkFlag value).issues = [] ↔ IsLaxFlag value := by
  rcases value with _ | b | n | x | text | items | members
  case bool => exact ⟨fun _ => .flag b, fun _ => rfl⟩
  case int =>
    rw [checkFlag, issues_flagOfInt_of_bound (by unfold wordBound; omega)]
    constructor
    · rintro (rfl | rfl)
      · exact .zero
      · exact .one
    · rintro (_ | _)
      · exact .inl rfl
      · exact .inr rfl
  case float =>
    have whole : (checkFlag (.float x)).issues = [] ↔ x.toInt? = some 0 ∨ x.toInt? = some 1 := by
      rw [checkFlag]
      rcases x.toInt? with _ | n
      · simp
      · simpa using issues_flagOfInt_of_bound (by unfold wordBound; omega)
    rw [whole, Binary64.toInt?_eq_zero_iff, Binary64.toInt?_eq_one_iff]
    constructor
    · rintro (⟨negative, rfl⟩ | rfl)
      · exact .floatZero negative
      · exact .floatOne
    · rintro (_ | _)
      · exact .inl ⟨_, rfl⟩
      · exact .inr rfl
  case str =>
    have known := lookup_isSome_iff_mem flagSpellings
      (String.ofList (text.toList.map Char.toLower))
    have spelled : (checkFlag (.str text)).issues = [] ↔
        (flagSpellings.lookup (String.ofList (text.toList.map Char.toLower))).isSome = true := by
      rw [checkFlag]
      split
      · simp [*]
      · simp [*]
    rw [spelled, known]
    exact ⟨fun h => .word h, fun | .word h => h⟩
  all_goals exact ⟨nofun, nofun⟩

end Json

/-! ## Kinds that pass -/

theorem ResourceType.check_eq_passed_iff {value : Json} {kind : ResourceType} :
    check value = .passed kind ↔ value = .str kind.name :=
  Json.checkName_eq_passed_iff (by decide) (by cases kind <;> decide)

theorem ResourceType.issues_check_eq_nil_iff {value : Json} :
    (check value).issues = [] ↔ value.IsResourceType :=
  Json.issues_checkName_eq_nil_iff

theorem ValueType.check_eq_passed_iff {value : Json} {type : ValueType} :
    check value = .passed type ↔ value = .str type.name :=
  Json.checkName_eq_passed_iff (by decide) (by cases type <;> decide)

theorem ValueType.issues_check_eq_nil_iff {value : Json} :
    (check value).issues = [] ↔ value.IsOneOf ["text", "resource"] :=
  Json.issues_checkName_eq_nil_iff

theorem VariableType.check_eq_passed_iff {value : Json} {type : VariableType} :
    check value = .passed type ↔ value = .str type.name :=
  Json.checkName_eq_passed_iff (by decide) (by cases type <;> decide)

theorem VariableType.issues_check_eq_nil_iff {value : Json} :
    (check value).issues = [] ↔ value.IsOneOf ["string", "resource"] :=
  Json.issues_checkName_eq_nil_iff

/-! ## Records that pass -/

namespace Task

/-- A task has no issues when its value keeps the grammar of tasks. -/
theorem issues_check_eq_nil_iff {value : Json} : (check value).issues = [] ↔ value.IsTask := by
  rw [check, Json.issues_checkRecord_eq_nil_iff]
  simp only [checkMembers, checkBlankable, checkTexts, Checked.issues_seq, Checked.issues_map,
    List.append_eq_nil_iff, Key.issues_optional_eq_nil_iff, Json.issues_checkOr_eq_nil_iff,
    Json.issues_checkNullable_eq_nil_iff, Json.issues_checkItems_eq_nil_iff,
    Json.issues_checkText_eq_nil_iff, Key.value?_word_eq_get?]
  simp only [Key.value?_eq_either?]
  constructor
  · rintro ⟨members, rfl, ⟨⟨⟨id, title⟩, prompt⟩, dependentTasks⟩, toolsets⟩
    exact ⟨rfl, id, title, prompt, dependentTasks, toolsets⟩
  · rintro ⟨object, id, title, prompt, dependentTasks, toolsets⟩
    obtain ⟨members, rfl⟩ := Json.isObject_iff.mp object
    exact ⟨members, rfl, ⟨⟨⟨id, title⟩, prompt⟩, dependentTasks⟩, toolsets⟩

end Task

/-- A resource has no issues when its value keeps the grammar of resources. -/
theorem Resource.issues_check_eq_nil_iff {value : Json} :
    (check value).issues = [] ↔ value.IsResource := by
  rw [check, Json.issues_checkRecord_eq_nil_iff]
  simp only [checkMembers, Checked.issues_seq, Checked.issues_map, List.append_eq_nil_iff,
    Key.issues_required_eq_nil_iff, Json.issues_checkText_eq_nil_iff,
    ResourceType.issues_check_eq_nil_iff, Key.value?_word_eq_get?]
  simp only [Key.value?_eq_either?]
  constructor
  · rintro ⟨members, rfl, name, fileType⟩
    exact ⟨rfl, name, fileType⟩
  · rintro ⟨object, name, fileType⟩
    obtain ⟨members, rfl⟩ := Json.isObject_iff.mp object
    exact ⟨members, rfl, name, fileType⟩

/-- A value of a variable has no issues when it keeps the grammar of such values. -/
theorem VariableValue.issues_check_eq_nil_iff {value : Json} :
    (check value).issues = [] ↔ value.IsVariableValue := by
  rw [check, Json.issues_checkRecord_eq_nil_iff]
  simp only [checkMembers, Checked.issues_seq, Checked.issues_map, List.append_eq_nil_iff,
    Key.issues_optional_eq_nil_iff, Json.issues_checkNullable_eq_nil_iff,
    Json.issues_checkText_eq_nil_iff, ValueType.issues_check_eq_nil_iff,
    Resource.issues_check_eq_nil_iff, Key.value?_word_eq_get?]
  constructor
  · rintro ⟨members, rfl, ⟨type, text⟩, resource⟩
    exact ⟨rfl, type, text, resource⟩
  · rintro ⟨object, type, text, resource⟩
    obtain ⟨members, rfl⟩ := Json.isObject_iff.mp object
    exact ⟨members, rfl, ⟨type, text⟩, resource⟩

namespace Variable

variable {members : List (String × Json)} {input : Variable}

/-- The members of a variable pass each by itself; the rule of resource types is left to later. -/
theorem checkMembers_eq_passed_iff :
    checkMembers members = .passed input ↔
      Key.required .variableId Json.checkText members = .passed input.variableId ∧
      Key.optional .variableType .string VariableType.check members =
        .passed input.variableType ∧
      Key.required (.word "name") Json.checkText members = .passed input.name ∧
      Key.required (.word "description") Json.checkText members = .passed input.description ∧
      Key.optional (.word "required") false Json.checkFlag members = .passed input.required ∧
      Key.optional .resourceTypes none (Json.checkNullable (Json.checkItems ResourceType.check))
        members = .passed input.resourceTypes ∧
      Key.required (.word "value") (Json.checkItems VariableValue.check) members =
        .passed input.value := by
  obtain ⟨variableId, variableType, name, description, required, resourceTypes, value⟩ := input
  simp only [checkMembers, Checked.seq_eq_passed_iff, Checked.map_eq_passed_iff]
  constructor
  · rintro ⟨_, _, ⟨_, _, ⟨_, _, ⟨_, _, ⟨_, _, ⟨_, _, ⟨_, hid, rfl⟩, htype, rfl⟩, hname, rfl⟩,
      hdesc, rfl⟩, hreq, rfl⟩, hres, rfl⟩, hvalue, made⟩
    cases made
    exact ⟨hid, htype, hname, hdesc, hreq, hres, hvalue⟩
  · rintro ⟨hid, htype, hname, hdesc, hreq, hres, hvalue⟩
    exact ⟨_, _, ⟨_, _, ⟨_, _, ⟨_, _, ⟨_, _, ⟨_, _, ⟨_, hid, rfl⟩, htype, rfl⟩, hname, rfl⟩,
      hdesc, rfl⟩, hreq, rfl⟩, hres, rfl⟩, hvalue, rfl⟩

/-- A variable type that passes is the one its value names, and a missing one is no resource. -/
theorem variableType_eq_resource_iff {type : VariableType}
    (h : Key.optional .variableType .string VariableType.check members = .passed type) :
    type = .resource ↔ Key.variableType.value? members = some (.str "resource") := by
  rcases Key.optional_eq_passed_iff.mp h with ⟨missing, rfl⟩ | ⟨value, found, passed⟩
  · simp [missing]
  · rw [VariableType.check_eq_passed_iff.mp passed] at found
    rw [found]
    cases type <;> decide

/-- Resource types that pass are there and not empty exactly when their value is such an array. -/
theorem resourceTypes_ne_nil_iff {kinds? : Option (List ResourceType)}
    (h : Key.optional .resourceTypes none
      (Json.checkNullable (Json.checkItems ResourceType.check)) members = .passed kinds?) :
    (∃ kinds, kinds? = some kinds ∧ kinds ≠ []) ↔
      ∃ types, Key.resourceTypes.value? members = some (.arr types) ∧ types ≠ [] := by
  rcases Key.optional_eq_passed_iff.mp h with ⟨missing, rfl⟩ | ⟨value, found, passed⟩
  · simp [missing]
  · rcases kinds? with _ | kinds
    · rw [Json.checkNullable_eq_none_iff.mp passed] at found
      simp [found]
    · obtain ⟨-, passed⟩ := Json.checkNullable_eq_some_iff.mp passed
      obtain ⟨types, rfl, each⟩ := Json.checkItems_eq_passed_iff.mp passed
      have same : kinds ≠ [] ↔ types ≠ [] := by
        rw [← List.length_pos_iff, ← List.length_pos_iff, each.length_eq]
      simp [found, same]

/-- The rule of resource types, said of the value that a variable was read from. -/
theorem wellTyped_iff_of_checkMembers (h : checkMembers members = .passed input) :
    input.wellTyped = true ↔
      ∀ types, Key.resourceTypes.value? members = some (.arr types) → types ≠ [] →
        Key.variableType.value? members = some (.str "resource") := by
  obtain ⟨-, type, -, -, -, kinds, -⟩ := checkMembers_eq_passed_iff.mp h
  rw [wellTyped_iff, ← variableType_eq_resource_iff type]
  have listed := resourceTypes_ne_nil_iff kinds
  grind

/-- The members of a variable have no issues when each of them has its shape. -/
theorem issues_checkMembers_eq_nil_iff :
    (checkMembers members).issues = [] ↔ (Json.obj members).IsVariableRecord := by
  simp only [checkMembers, Checked.issues_seq, Checked.issues_map, List.append_eq_nil_iff,
    Key.issues_required_eq_nil_iff, Key.issues_optional_eq_nil_iff,
    Json.issues_checkText_eq_nil_iff, VariableType.issues_check_eq_nil_iff,
    Json.issues_checkFlag_eq_nil_iff, Json.issues_checkNullable_eq_nil_iff,
    Json.issues_checkItems_eq_nil_iff, ResourceType.issues_check_eq_nil_iff,
    VariableValue.issues_check_eq_nil_iff, Key.value?_word_eq_get?]
  simp only [Key.value?_eq_either?]
  constructor
  · rintro ⟨⟨⟨⟨⟨⟨id, type⟩, name⟩, description⟩, required⟩, resourceTypes⟩, value⟩
    exact ⟨rfl, id, type, name, description, required, resourceTypes, value⟩
  · rintro ⟨-, id, type, name, description, required, resourceTypes, value⟩
    exact ⟨⟨⟨⟨⟨⟨id, type⟩, name⟩, description⟩, required⟩, resourceTypes⟩, value⟩

/-- A variable has no issues when its value keeps the grammar of variables. -/
theorem issues_check_eq_nil_iff {value : Json} :
    (check value).issues = [] ↔ value.IsVariable := by
  rw [check, Json.issues_checkRecord_eq_nil_iff]
  simp only [Checked.issues_guard_eq_nil_iff]
  constructor
  · rintro ⟨members, rfl, input, passed, typed⟩
    rw [wellTyped_iff_of_checkMembers passed] at typed
    simp only [Key.value?_eq_either?] at typed
    exact ⟨issues_checkMembers_eq_nil_iff.mp (Checked.issues_eq_nil_iff.mpr ⟨input, passed⟩),
      typed⟩
  · rintro ⟨shapes, typed⟩
    obtain ⟨members, rfl⟩ := Json.isObject_iff.mp shapes.object
    obtain ⟨input, passed⟩ :=
      Checked.issues_eq_nil_iff.mp (issues_checkMembers_eq_nil_iff.mpr shapes)
    refine ⟨members, rfl, input, passed, ?_⟩
    rw [wellTyped_iff_of_checkMembers passed]
    simp only [Key.value?_eq_either?]
    exact typed

/-- The id of a variable is the one that its value has. -/
theorem variableId?_of_check {value : Json} (h : check value = .passed input) :
    value.variableId? = some input.variableId := by
  obtain ⟨members, rfl, passed, -⟩ := check_eq_passed_iff.mp h
  obtain ⟨id, -⟩ := checkMembers_eq_passed_iff.mp passed
  obtain ⟨value, found, text⟩ := Key.required_eq_passed_iff.mp id
  rw [Key.value?_eq_either?, Json.checkText_eq_passed_iff.mp text] at found
  have named : (Json.obj members).either? "variableId" "variable_id" =
      some (.str input.variableId) := found
  rw [Json.variableId?, named]
  rfl

end Variable

/-! ## Plans -/

namespace Plan

/-- The structure of a plan has no issues when its members have their shapes. -/
theorem issues_check_eq_nil_iff {value : Json} :
    (check value).issues = [] ↔ value.IsPlanRecord := by
  rw [check, Json.issues_checkRecord_eq_nil_iff]
  simp only [checkMembers, Task.checkBlankable, Checked.issues_seq, Checked.issues_map,
    List.append_eq_nil_iff, Key.issues_optional_eq_nil_iff, Json.issues_checkOr_eq_nil_iff,
    Json.issues_checkItems_eq_nil_iff, Json.issues_checkText_eq_nil_iff,
    Task.issues_check_eq_nil_iff, Variable.issues_check_eq_nil_iff, Key.value?_word_eq_get?]
  constructor
  · rintro ⟨members, rfl, ⟨title, tasks⟩, inputs⟩
    exact ⟨rfl, title, tasks, inputs⟩
  · rintro ⟨object, title, tasks, inputs⟩
    obtain ⟨members, rfl⟩ := Json.isObject_iff.mp object
    exact ⟨members, rfl, ⟨title, tasks⟩, inputs⟩

/-- The ids of the tasks of a plan are those that its value has. -/
theorem taskIds_of_check {value : Json} {plan : Plan} (h : check value = .passed plan) :
    plan.taskIds = ((value.itemsOf "tasks").map Json.taskId).filter (· != "") := by
  have same := congrArg (List.map Outline.id) (PlanInput.outlines_of_check h)
  simp only [PlanInput.outlines, List.map_map] at same
  rw [taskIds]
  exact congrArg (List.filter (· != "")) same.symm

/-- The ids of the variables of a plan are those that its value has. -/
theorem inputIds_of_check {value : Json} {plan : Plan} (h : check value = .passed plan) :
    plan.inputIds.map some = (value.itemsOf "variables").map Json.variableId? := by
  obtain ⟨members, rfl, passed⟩ := Json.checkRecord_eq_passed_iff.mp h
  obtain ⟨-, -, inputs⟩ := checkMembers_eq_passed_iff.mp passed
  rw [inputIds, List.map_map]
  exact (Json.map_itemsOf_of_check inputs fun _ _ => Variable.variableId?_of_check).symm

/-- **The grammar of plans.** A plan is read from a value exactly when the value keeps the grammar
of plans. -/
theorem exists_ofJson_iff {value : Json} : (∃ plan, ofJson value = .ok plan) ↔ value.IsPlan := by
  have accepted : (∃ plan, ofJson value = .ok plan) ↔
      ∃ plan, check value = .passed plan ∧ plan.Distinct := by
    simp only [ofJson, bind_eq_ok_iff, Checked.orFail_eq_ok_iff, distinct_eq_ok_iff]
    grind
  rw [accepted]
  constructor
  · rintro ⟨plan, passed, ids⟩
    refine ⟨issues_check_eq_nil_iff.mp (Checked.issues_eq_nil_iff.mpr ⟨plan, passed⟩), ?_, ?_⟩
    · rw [← taskIds_of_check passed]
      exact ids.tasks
    · rw [← inputIds_of_check passed]
      exact ids.inputs.map fun _ _ => Option.some.inj
  · rintro ⟨shapes, tasks, inputs⟩
    obtain ⟨plan, passed⟩ := Checked.issues_eq_nil_iff.mp (issues_check_eq_nil_iff.mpr shapes)
    rw [← taskIds_of_check passed] at tasks
    rw [← inputIds_of_check passed] at inputs
    exact ⟨plan, passed, tasks, inputs.of_map some⟩

/-- A written name hides the other spelling, whatever stands there; an empty list of resource types
may stand on a text variable. -/
example : ∃ plan, ofJson (.obj [
    ("tasks", .arr [.obj [("dependentTasks", .null), ("dependent_tasks", .int 3)], .obj []]),
    ("variables", .arr [.obj [("variable_id", .str "v"), ("name", .str ""),
      ("description", .str ""), ("required", .str "oFF"), ("resourceTypes", .arr []),
      ("value", .arr [])]])]) = .ok plan :=
  ⟨_, rfl⟩

end Plan

end PlanGraph
