import PlanGraph.Tool.Schema

/-!
# What schemas and calls ask for

The catalog describes the arguments of each tool by a schema. Which values meet a schema is said
here for any schema with the four keywords that the catalog uses (`Json.Meets`). The check that is
made before a call finds a violation exactly where the arguments do not meet the schema of the tool
(`Tool.violation?_eq_none_iff`), and the call goes through exactly where each argument is taken and
none is missing (`Tool.callFault?_eq_none_iff`). An argument that meets its schema has the shape of
its parameter (`Tool.value_of_meets`), so none but the id of a plan is a text
(`Tool.value_ne_str`).
-/

namespace PlanGraph

/-! ## Schemas -/

namespace Json

/-- The types of a value, by the names that schemas have for them. -/
def typeNames : Json → List String
  | null => ["null"]
  | bool _ => ["boolean"]
  | int _ => ["integer", "number"]
  | float x => if x.toInt?.isSome then ["integer", "number"] else ["number"]
  | str _ => ["string"]
  | arr _ => ["array"]
  | obj _ => ["object"]

/-- The value meets the schema, which is an object of keywords. A keyword that is missing asks for
nothing, and so does one for values of another type. -/
inductive Meets : Json → Json → Prop where
  /-- The value meets each keyword. -/
  | each {value : Json} {keywords : List (String × Json)}
      (type : ∀ name, member? "type" keywords = some (.str name) → name ∈ value.typeNames)
      (required : ∀ names, member? "required" keywords = some (.arr names) →
        ∀ members, value = .obj members → ∀ name, .str name ∈ names →
          ∃ member, member? name members = some member)
      (properties : ∀ schemas, member? "properties" keywords = some (.obj schemas) →
        ∀ members, value = .obj members → ∀ name schema member,
          member? name schemas = some schema → member? name members = some member →
            Meets member schema)
      (items : ∀ schema, member? "items" keywords = some schema →
        ∀ list, value = .arr list → ∀ item ∈ list, Meets item schema) :
      Meets value (.obj keywords)

variable {value : Json} {keywords : List (String × Json)} {type : String}

/-- A schema without properties asks for a type and for the schema of items. -/
theorem meets_iff_of_type (typed : member? "type" keywords = some (.str type))
    (free : member? "required" keywords = none) (plain : member? "properties" keywords = none) :
    value.Meets (.obj keywords) ↔ type ∈ value.typeNames ∧
      ∀ schema, member? "items" keywords = some schema →
        ∀ list, value = .arr list → ∀ item ∈ list, item.Meets schema := by
  constructor
  · rintro ⟨here, -, -, items⟩
    exact ⟨here type typed, items⟩
  · rintro ⟨here, items⟩
    refine .each ?_ (fun names given => ?_) (fun schemas given => ?_) items
    · intro name given
      obtain rfl : type = name := Json.str.inj (Option.some.inj (typed.symm.trans given))
      exact here
    · rw [free] at given
      cases given
    · rw [plain] at given
      cases given

/-- An object meets a schema of objects when it has all that is required and its members meet the
schemas of the properties. -/
theorem meets_iff_of_object {members schemas : List (String × Json)} {names : List Json}
    (typed : member? "type" keywords = some (.str "object"))
    (needed : member? "required" keywords = some (.arr names))
    (described : member? "properties" keywords = some (.obj schemas)) :
    (obj members).Meets (.obj keywords) ↔
      (∀ name, .str name ∈ names → ∃ member, member? name members = some member) ∧
        ∀ name schema member, member? name schemas = some schema →
          member? name members = some member → member.Meets schema := by
  constructor
  · rintro ⟨-, required, properties, -⟩
    exact ⟨required names needed members rfl, properties schemas described members rfl⟩
  · rintro ⟨required, properties⟩
    refine .each ?_ ?_ ?_ fun schema _ list other => nomatch other
    · intro name given
      obtain rfl : "object" = name := Json.str.inj (Option.some.inj (typed.symm.trans given))
      exact List.mem_singleton.mpr rfl
    · rintro _ given _ ⟨⟩
      obtain rfl := Json.arr.inj (Option.some.inj (needed.symm.trans given))
      exact required
    · rintro _ given _ ⟨⟩
      obtain rfl := Json.obj.inj (Option.some.inj (described.symm.trans given))
      exact properties

end Json

/-! ## Shapes -/

namespace Shape

/-- A value has a shape when it is of the type that is named. -/
theorem admits_iff {shape : Shape} {value : Json} :
    shape.admits value = true ↔ shape.typeName ∈ value.typeNames := by
  cases value with
  | float x =>
      rw [Json.typeNames]
      cases shape <;> split <;> simp [admits, typeName]
  | _ => cases shape <;> simp [admits, typeName, Json.typeNames]

/-- A text has no other shape. -/
theorem eq_text_of_admits {shape : Shape} {s : String} (h : shape.admits (.str s) = true) :
    shape = text := by
  cases shape with
  | text => rfl
  | _ => cases h

/-- An item meets the schema of items when it is an object. -/
theorem meets_object_iff {value : Json} :
    value.Meets (.obj [("type", .str object.typeName)]) ↔ value.isObject = true := by
  rw [Json.meets_iff_of_type rfl rfl rfl, ← admits_iff]
  cases value <;> simp [admits, Json.isObject, Json.member?]

/-- There is no stray item when all items are objects. -/
theorem strayItem?_eq_none_iff {items : List Json} :
    objects.strayItem? (.arr items) = none ↔ ∀ item ∈ items, item.isObject = true := by
  simp [strayItem?]

/-- A value meets the schema of a shape when it has the shape and none of its items is stray. -/
theorem meets_iff {shape : Shape} {description : Json} {value : Json} :
    value.Meets (.obj (shape.schemaMembers ++ [("description", description)])) ↔
      shape.admits value = true ∧ shape.strayItem? value = none := by
  have typed : Json.member? "type" (shape.schemaMembers ++ [("description", description)]) =
      some (.str shape.typeName) := rfl
  rw [admits_iff]
  cases shape with
  | objects =>
      rw [Json.meets_iff_of_type typed rfl rfl]
      refine and_congr_right fun listed => ?_
      cases value with
      | arr items =>
          rw [strayItem?_eq_none_iff]
          simp only [← meets_object_iff]
          exact ⟨fun h => h _ rfl items rfl, by rintro h _ ⟨⟩ _ ⟨⟩; exact h⟩
      | _ => simp [admits_iff.symm, admits] at listed
  | _ =>
      rw [Json.meets_iff_of_type typed rfl rfl]
      refine and_congr_right fun _ => ?_
      simp [strayItem?, schemaMembers, Json.member?, List.lookup_cons]

end Shape

/-! ## Parameters -/

namespace Parameter

/-- What the value of a parameter has to meet. -/
def schema (parameter : Parameter) : Json :=
  parameter.schemaMember.2

/-- Parameters are found by their names, which differ. -/
theorem member?_schemaMember {parameters : List Parameter}
    (distinct : (parameters.map name).Nodup) {parameter : Parameter} (h : parameter ∈ parameters) :
    Json.member? parameter.name (parameters.map schemaMember) = some parameter.schema := by
  induction parameters with
  | nil => cases h
  | cons first rest ih =>
      obtain ⟨fresh, distinct⟩ := List.nodup_cons.mp distinct
      rw [List.map_cons, Json.member?, List.lookup_cons]
      rcases List.mem_cons.mp h with rfl | later
      · simp [schemaMember, schema]
      · have other : parameter.name ≠ first.name := fun same =>
          fresh (same ▸ List.mem_map_of_mem later)
        have skipped : (parameter.name == first.schemaMember.1) = false := by
          simpa [schemaMember] using other
        rw [skipped]
        exact ih distinct later

/-- Whatever is found under a name is the schema of a parameter. -/
theorem exists_of_member?_schemaMember {parameters : List Parameter} {name : String}
    {schema : Json} (found : Json.member? name (parameters.map schemaMember) = some schema) :
    ∃ parameter ∈ parameters, parameter.name = name ∧ parameter.schema = schema := by
  obtain ⟨parameter, here, same⟩ := List.mem_map.mp (Json.mem_of_member? found)
  exact ⟨parameter, here, congrArg Prod.fst same, congrArg Prod.snd same⟩

theorem mem_insert_iff {parameter other : Parameter} {parameters : List Parameter} :
    other ∈ descending.insert parameter parameters ↔ other = parameter ∨ other ∈ parameters := by
  induction parameters with
  | nil => simp [descending.insert]
  | cons first rest ih =>
      rw [descending.insert]
      split
      · exact List.mem_cons
      · rw [List.mem_cons, ih, List.mem_cons]
        exact or_left_comm

/-- Sorting the parameters loses none of them. -/
theorem mem_descending_iff {parameter : Parameter} {parameters : List Parameter} :
    parameter ∈ descending parameters ↔ parameter ∈ parameters := by
  induction parameters with
  | nil => rfl
  | cons first rest ih => rw [descending, mem_insert_iff, ih, List.mem_cons]

variable {parameter : Parameter} {arguments : Arguments}

/-- There is no violation by the shape when the argument has it. -/
theorem shapeViolation?_eq_none_iff :
    parameter.shapeViolation? arguments = none ↔
      ∀ value, Json.member? parameter.name arguments = some value →
        parameter.shape.admits value = true := by
  unfold shapeViolation?
  cases Json.member? parameter.name arguments with
  | none => simp
  | some value => simp

/-- There is no violation by an item when no item is stray. -/
theorem itemViolation?_eq_none_iff :
    parameter.itemViolation? arguments = none ↔
      ∀ value, Json.member? parameter.name arguments = some value →
        parameter.shape.strayItem? value = none := by
  unfold itemViolation?
  cases Json.member? parameter.name arguments with
  | none => simp
  | some value => simp

end Parameter

/-! ## Tools -/

namespace Tool

variable {tool : Tool} {arguments : Arguments}

/-- The parameters of a tool have different names. -/
theorem nodup_parameters (tool : Tool) : (tool.parameters.map Parameter.name).Nodup := by
  cases tool <;> decide

/-- The arguments meet the schema when none is missing and each meets the schema of its
parameter. -/
theorem meets_inputSchema_iff :
    (Json.obj arguments).Meets tool.inputSchema ↔
      (∀ name ∈ tool.requiredNames, ∃ value, Json.member? name arguments = some value) ∧
        ∀ parameter ∈ tool.parameters, ∀ value,
          Json.member? parameter.name arguments = some value → value.Meets parameter.schema := by
  rw [inputSchema, Json.meets_iff_of_object rfl rfl rfl]
  refine and_congr ?_ ?_
  · simp
  · constructor
    · intro properties parameter listed value given
      exact properties _ _ _ (Parameter.member?_schemaMember tool.nodup_parameters listed) given
    · intro each name schema value described given
      obtain ⟨parameter, listed, rfl, rfl⟩ := Parameter.exists_of_member?_schemaMember described
      exact each parameter listed value given

/-- **The check before a call decides the schema.** It finds a violation exactly where the
arguments do not meet the schema of the tool. -/
theorem violation?_eq_none_iff :
    tool.violation? arguments = none ↔ (Json.obj arguments).Meets tool.inputSchema := by
  rw [meets_inputSchema_iff]
  simp only [violation?, Option.or_eq_none_iff, Option.map_eq_none_iff, List.find?_eq_none,
    List.findSome?_eq_none_iff, Parameter.mem_descending_iff,
    Parameter.shapeViolation?_eq_none_iff, Parameter.itemViolation?_eq_none_iff]
  refine and_congr ?_ ?_
  · simp [Option.eq_none_iff_forall_ne_some]
  · constructor
    · rintro ⟨shapes, items⟩ parameter listed value given
      exact Shape.meets_iff.mpr
        ⟨shapes parameter listed value given, items parameter listed value given⟩
    · intro each
      exact ⟨fun parameter listed value given =>
          (Shape.meets_iff.mp (each parameter listed value given)).1,
        fun parameter listed value given =>
          (Shape.meets_iff.mp (each parameter listed value given)).2⟩

/-- The receiver of a call is no argument. -/
theorem receiverName_not_mem_takenNames (tool : Tool) : receiverName ∉ tool.takenNames := by
  cases tool <;> decide

theorem nameFault?_eq_none_iff {name : String} :
    tool.nameFault? name = none ↔ name ∈ tool.takenNames := by
  unfold nameFault? accepts
  split
  · rename_i receiver
    simp [receiver, tool.receiverName_not_mem_takenNames]
  · simp

/-- A call goes through when each argument is taken and none is missing. -/
theorem callFault?_eq_none_iff :
    tool.callFault? arguments = none ↔
      (∀ argument ∈ arguments, argument.1 ∈ tool.takenNames) ∧
        ∀ name ∈ tool.neededNames, ∃ value, Json.member? name arguments = some value := by
  simp only [callFault?, Option.or_eq_none_iff, Option.map_eq_none_iff, List.find?_eq_none,
    List.findSome?_eq_none_iff, nameFault?_eq_none_iff]
  refine and_congr_right fun _ => ?_
  simp [Option.eq_none_iff_forall_ne_some]

/-- **The catalog and the calls agree.** A tool takes the arguments that its schema describes, and
needs those that the schema requires. -/
theorem signature_eq (tool : Tool) :
    tool.signature = tool.parameters.map fun parameter => (parameter.name, parameter.required) := by
  cases tool <;> rfl

/-- A call needs what the schema requires. -/
theorem neededNames_eq (tool : Tool) : tool.neededNames = tool.requiredNames := by
  rw [neededNames, signature_eq, requiredNames, List.filter_map, List.map_map]
  rfl

/-- Of arguments that meet the schema, a call refuses nothing but those that it does not take. -/
theorem callFault?_eq_none_iff_of_meets (meets : (Json.obj arguments).Meets tool.inputSchema) :
    tool.callFault? arguments = none ↔ ∀ argument ∈ arguments, argument.1 ∈ tool.takenNames := by
  rw [callFault?_eq_none_iff, neededNames_eq]
  exact and_iff_left (meets_inputSchema_iff.mp meets).1

/-! ## Arguments that meet the schema -/

/-- The one parameter for a text is the id of a plan. -/
theorem name_of_text {parameter : Parameter} (listed : parameter ∈ tool.parameters)
    (text : parameter.shape = .text) : parameter.name = "plan_id" := by
  have each : ∀ tool : Tool, ∀ parameter ∈ tool.parameters,
      parameter.shape = .text → parameter.name = "plan_id" := by
    intro tool
    cases tool <;> decide
  exact each tool parameter listed text

section

variable (meets : (Json.obj arguments).Meets tool.inputSchema)

include meets

/-- An argument that meets the schema has the shape of its parameter, unless it is left out. -/
theorem value_of_meets {parameter : Parameter} (listed : parameter ∈ tool.parameters) :
    (parameter.required = false ∧ arguments.value parameter.name = .null) ∨
      parameter.shape.admits (arguments.value parameter.name) = true := by
  obtain ⟨needed, each⟩ := meets_inputSchema_iff.mp meets
  rcases given : Json.member? parameter.name arguments with _ | value
  · refine .inl ⟨?_, by rw [Arguments.value, given, Option.getD_none]⟩
    cases required : parameter.required with
    | false => rfl
    | true =>
        obtain ⟨value, found⟩ := needed parameter.name
          (List.mem_map_of_mem (List.mem_filter.mpr ⟨listed, required⟩))
        rw [given] at found
        cases found
  · rw [Arguments.value, given, Option.getD_some]
    exact .inr (Shape.meets_iff.mp (each parameter listed value given)).1

/-- The plan is given as an object. -/
theorem value_plan_of_meets : ∃ members, arguments.value "plan" = .obj members := by
  have listed : planParameter ∈ tool.parameters := by cases tool <;> exact List.mem_cons_self
  rcases value_of_meets meets listed with ⟨optional, -⟩ | object
  · cases optional
  · change Shape.object.admits (arguments.value "plan") = true at object
    generalize arguments.value "plan" = plan at object
    cases plan with
    | obj members => exact ⟨members, rfl⟩
    | _ => cases object

/-- No argument but the id of a plan is a text. -/
theorem value_ne_str (taken : ∀ argument ∈ arguments, argument.1 ∈ tool.takenNames) {name : String}
    (other : name ≠ "plan_id") (text : String) : arguments.value name ≠ .str text := by
  intro written
  rcases given : Json.member? name arguments with _ | value
  · rw [Arguments.value, given] at written
    cases written
  · have known : name ∈ tool.takenNames := taken (name, value) (Json.mem_of_member? given)
    rw [takenNames, signature_eq, List.map_map] at known
    obtain ⟨parameter, listed, rfl⟩ := List.mem_map.mp known
    rcases value_of_meets meets listed with ⟨-, missing⟩ | admitted
    · exact Json.noConfusion (written.symm.trans missing)
    · change arguments.value parameter.name = .str text at written
      rw [written] at admitted
      exact other (name_of_text listed (Shape.eq_text_of_admits admitted))

end

end Tool

end PlanGraph
