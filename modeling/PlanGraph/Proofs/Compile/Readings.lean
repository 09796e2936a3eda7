import PlanGraph.Compile.Compilation
import PlanGraph.Proofs.Plan.Soundness

/-!
# Two readings of a plan

A plan can be compiled as it was given, by its outlines, or after it was read and checked. Where the
check passes, both come to the same graph (`Compilation.graph_of_accepted`).

* A task that passes its check has the outline of its value (`Outline.ofJson_of_check`), whichever
  spelling its members have and whichever of them are null or missing.
* A task, a variable and a plan that are written out are outlined as they are
  (`Outline.ofJson_dump`, `CanvasInput.ofObject_dump`, `PlanInput.outlines_dump`).
* Compiling looks at a plan only through its outlines and the inputs of the canvas, and the graph
  does not depend on the latter (`Compilation.graph_ofOutlines`).
-/

namespace PlanGraph

/-! ## Members that may be null -/

namespace Json

/-- With null standing for a default, a value passes as null or as the check says. -/
theorem checkOr_eq_passed_iff {α : Type} {default a : α} {check : Json → Checked α} {value : Json} :
    checkOr default check value = .passed a ↔
      (value = .null ∧ default = a) ∨ (value ≠ .null ∧ check value = .passed a) := by
  cases value <;> simp [checkOr]

/-- What is read off the items of a member that passes, missing for an empty list, is read off the
values that they pass as. -/
theorem map_itemsOf_of_check {α β : Type} {name : String} {check : Json → Checked α}
    {members : List (String × Json)} {values : List α} {read : Json → β} {made : α → β}
    (h : Key.optional (.word name) [] (checkItems check) members = .passed values)
    (same : ∀ item value, check item = .passed value → read item = made value) :
    ((obj members).itemsOf name).map read = values.map made := by
  rw [Key.optional_eq_passed_iff, Key.value?_word] at h
  rcases h with ⟨missing, none⟩ | ⟨value, found, passed⟩
  · have member : (obj members).get? name = Option.none := missing
    rw [itemsOf, member, ← none]
    rfl
  · obtain ⟨items, rfl, each⟩ := checkItems_eq_passed_iff.mp passed
    have member : (obj members).get? name = some (.arr items) := found
    rw [itemsOf, member, ← List.forall₂_eq_eq_eq, List.forall₂_map_left_iff,
      List.forall₂_map_right_iff]
    exact each.imp same

end Json

namespace Task

/-- A list of texts passes when it is one. -/
theorem checkTexts_eq_passed_iff {value : Json} {texts : List String} :
    checkTexts value = .passed texts ↔ value = .ofStrings texts := by
  simp only [checkTexts, Json.checkItems_eq_passed_iff, Json.checkText_eq_passed_iff,
    Json.ofStrings]
  constructor
  · rintro ⟨items, rfl, each⟩
    rw [← List.forall₂_map_right_iff (f := Json.str), List.forall₂_eq_eq_eq] at each
    rw [each]
  · rintro rfl
    refine ⟨_, rfl, ?_⟩
    rw [← List.forall₂_map_right_iff (f := Json.str), List.forall₂_eq_eq_eq]

/-- The members of a task pass when each of them does. -/
theorem checkMembers_eq_passed_iff {members : List (String × Json)} {task : Task} :
    checkMembers members = .passed task ↔
      Key.optional (.word "id") "" checkBlankable members = .passed task.id ∧
      Key.optional (.word "title") "" checkBlankable members = .passed task.title ∧
      Key.optional (.word "prompt") "" checkBlankable members = .passed task.prompt ∧
      Key.optional .dependentTasks none (Json.checkNullable checkTexts) members =
        .passed task.dependentTasks ∧
      Key.optional (.word "toolsets") [] (Json.checkOr [] checkTexts) members =
        .passed task.toolsets := by
  obtain ⟨id, title, prompt, dependentTasks, toolsets⟩ := task
  simp only [checkMembers, Checked.seq_eq_passed_iff, Checked.map_eq_passed_iff]
  constructor
  · rintro ⟨_, _, ⟨_, _, ⟨_, _, ⟨_, _, ⟨_, hid, rfl⟩, htitle, rfl⟩, hprompt, rfl⟩, hdeps, rfl⟩,
      htoolsets, made⟩
    cases made
    exact ⟨hid, htitle, hprompt, hdeps, htoolsets⟩
  · rintro ⟨hid, htitle, hprompt, hdeps, htoolsets⟩
    exact ⟨_, _, ⟨_, _, ⟨_, _, ⟨_, _, ⟨_, hid, rfl⟩, htitle, rfl⟩, hprompt, rfl⟩, hdeps, rfl⟩,
      htoolsets, rfl⟩

end Task

namespace Outline

/-! ## Outlines of values that pass -/

/-- The texts of an array of texts are all of its items. -/
@[simp]
theorem textsOf_ofStrings (texts : List String) : textsOf (some (.ofStrings texts)) = texts := by
  change (texts.map Json.str).filterMap Json.text? = texts
  rw [List.filterMap_map]
  exact List.filterMap_some

/-- What passes as a text, missing or null for an empty one, is outlined as that text. -/
theorem textOf_of_check {key : Key} {members : List (String × Json)} {text : String}
    (h : key.optional "" Task.checkBlankable members = .passed text) :
    textOf (key.value? members) = text := by
  rcases Key.optional_eq_passed_iff.mp h with ⟨missing, rfl⟩ | ⟨value, found, passed⟩
  · rw [missing]
    rfl
  · rw [found]
    rcases Json.checkOr_eq_passed_iff.mp passed with ⟨rfl, rfl⟩ | ⟨-, passed⟩
    · rfl
    · rw [Json.checkText_eq_passed_iff.mp passed]
      rfl

/-- What passes as a list of texts, missing or null for an empty one, is outlined as that list. -/
theorem textsOf_of_check {key : Key} {members : List (String × Json)} {texts : List String}
    (h : key.optional [] (Json.checkOr [] Task.checkTexts) members = .passed texts) :
    textsOf (key.value? members) = texts := by
  rcases Key.optional_eq_passed_iff.mp h with ⟨missing, rfl⟩ | ⟨value, found, passed⟩
  · rw [missing]
    rfl
  · rw [found]
    rcases Json.checkOr_eq_passed_iff.mp passed with ⟨rfl, rfl⟩ | ⟨-, passed⟩
    · rfl
    · rw [Task.checkTexts_eq_passed_iff.mp passed, textsOf_ofStrings]

/-- What passes as a list of texts that may be absent is outlined as that list, empty for an absent
one. -/
theorem textsOf_of_checkNullable {key : Key} {members : List (String × Json)}
    {texts? : Option (List String)}
    (h : key.optional none (Json.checkNullable Task.checkTexts) members = .passed texts?) :
    textsOf (key.value? members) = texts?.getD [] := by
  rcases Key.optional_eq_passed_iff.mp h with ⟨missing, rfl⟩ | ⟨value, found, passed⟩
  · rw [missing]
    rfl
  · rw [found]
    rcases texts? with _ | texts
    · rw [Json.checkNullable_eq_none_iff.mp passed]
      rfl
    · obtain ⟨-, passed⟩ := Json.checkNullable_eq_some_iff.mp passed
      rw [Task.checkTexts_eq_passed_iff.mp passed, textsOf_ofStrings]
      rfl

/-- The outline of an object looks its members up one by one; of the two spellings of the
dependencies, the written one counts where it is there. -/
theorem ofJson_obj (members : List (String × Json)) :
    ofJson (.obj members) =
      ⟨textOf ((Key.word "id").value? members), textOf ((Key.word "title").value? members),
        textOf ((Key.word "prompt").value? members), textsOf (Key.dependentTasks.value? members),
        textsOf ((Key.word "toolsets").value? members)⟩ := by
  simp only [Key.value?_word]
  rfl

/-- A task that passes has the outline of its value. -/
theorem ofJson_of_check {value : Json} {task : Task} (h : Task.check value = .passed task) :
    ofJson value = ofTask task := by
  obtain ⟨members, rfl, passed⟩ := Json.checkRecord_eq_passed_iff.mp h
  obtain ⟨hid, htitle, hprompt, hdeps, htoolsets⟩ := Task.checkMembers_eq_passed_iff.mp passed
  rw [ofJson_obj, textOf_of_check hid, textOf_of_check htitle, textOf_of_check hprompt,
    textsOf_of_checkNullable hdeps, textsOf_of_check htoolsets]
  rfl

/-- A task that is written out has its own outline. -/
theorem ofJson_dump (task : Task) : ofJson task.dump = ofTask task := by
  obtain ⟨id, title, prompt, _ | texts, toolsets⟩ := task
  · change Outline.mk id title prompt [] (textsOf (some (.ofStrings toolsets))) = _
    rw [textsOf_ofStrings]
    rfl
  · change Outline.mk id title prompt (textsOf (some (.ofStrings texts)))
      (textsOf (some (.ofStrings toolsets))) = _
    rw [textsOf_ofStrings, textsOf_ofStrings]
    rfl

end Outline

/-! ## Inputs of values that were written out -/

namespace CanvasInput

/-- The inputs of a canvas for a value are the same whether null stands for what is absent or it is
left out. -/
theorem value?_dump (value : VariableValue) : value? value.dump = value? value.dumpFull := by
  obtain ⟨type, _ | text, _ | resource⟩ := value
  all_goals rfl

/-- The same for a variable. -/
theorem ofObject_dump (input : Variable) : ofObject input.dump = ofObject input.dumpFull := by
  have values : (input.value.map VariableValue.dump).filterMap value? =
      (input.value.map VariableValue.dumpFull).filterMap value? := by
    rw [List.filterMap_map, List.filterMap_map]
    exact List.filterMap_congr fun value _ => value?_dump value
  obtain ⟨variableId, variableType, name, description, required, _ | types, value⟩ := input
  · exact congrArg (fun items => Json.obj [_, _, _, ("value", .arr items), _, _, _]) values
  · exact congrArg (fun items => Json.obj [_, _, _, ("value", .arr items), _, _, _]) values

end CanvasInput

namespace PlanInput

/-! ## Outlines of a plan -/

/-- A list of tasks that passes, missing for an empty one, has the outlines of its values. -/
theorem outlines_of_check {value : Json} {plan : Plan} (h : Plan.check value = .passed plan) :
    (raw value).outlines = (parsed plan).outlines := by
  obtain ⟨members, rfl, passed⟩ := Json.checkRecord_eq_passed_iff.mp h
  obtain ⟨-, tasks, -⟩ := Plan.checkMembers_eq_passed_iff.mp passed
  exact Json.map_itemsOf_of_check tasks fun _ _ => Outline.ofJson_of_check

/-- A plan that is written out has its own outlines. -/
theorem outlines_dump (plan : Plan) : (raw plan.dump).outlines = (parsed plan).outlines := by
  change (plan.tasks.map Task.dump).map Outline.ofJson = plan.tasks.map Outline.ofTask
  rw [List.map_map]
  exact List.map_congr_left fun task _ => Outline.ofJson_dump task

/-- A plan that is written out has its own inputs. -/
theorem canvasInputs_dump (plan : Plan) :
    (raw plan.dump).canvasInputs = (parsed plan).canvasInputs := by
  change ((plan.inputs.map Variable.dump).filter Json.isObject).map CanvasInput.ofObject =
    plan.inputs.map Variable.canvasInput
  rw [List.filter_eq_self.mpr (by simp [Variable.dump, Json.isObject]), List.map_map]
  exact List.map_congr_left fun input _ => CanvasInput.ofObject_dump input

end PlanInput

namespace Compilation

/-! ## Graphs -/

/-- What a compilation gives besides the inputs of the canvas: the nodes, the edges and what the
layout was asked. -/
def graph (compilation : Compilation) : List Node × List Edge × List Placing :=
  (compilation.canvas.nodes, compilation.canvas.edges, compilation.requests)

/-- The graph of a list of tasks does not depend on the inputs. -/
theorem graph_ofOutlines (layout : Layout) (outlines : List Outline) (inputs inputs' : List Json)
    (toolsets : ToolsetSource) (options : CompileOptions) :
    graph <$> ofOutlines layout outlines inputs toolsets options =
      graph <$> ofOutlines layout outlines inputs' toolsets options := by
  simp only [ofOutlines, map_bind, map_pure]
  rfl

/-- The graph of a plan is that of its outlines. -/
theorem graph_ofPlan {input input' : PlanInput} (same : input.outlines = input'.outlines)
    (layout : Layout) (toolsets : ToolsetSource) (options : CompileOptions) :
    graph <$> ofPlan layout input toolsets options =
      graph <$> ofPlan layout input' toolsets options := by
  unfold ofPlan
  rw [same]
  rcases input'.outlines with _ | ⟨first, rest⟩
  · rfl
  · exact graph_ofOutlines layout (first :: rest) _ _ toolsets options

/-- **Lenient and strict readings agree.** Whatever the layout, a value that passes the check of
plans has the nodes and edges of the plan it is read as, with the same ids drawn, the same requests
and the same fault where compiling ends in one. A plan that is written out compiles as it is, inputs
included. -/
theorem graph_of_accepted (layout : Layout) (toolsets : ToolsetSource) (options : CompileOptions) :
    (∀ value plan, Plan.ofJson value = .ok plan →
      graph <$> ofPlan layout (.raw value) toolsets options =
        graph <$> ofPlan layout (.parsed plan) toolsets options) ∧
    ∀ plan : Plan, ofPlan layout (.raw plan.dump) toolsets options =
      ofPlan layout (.parsed plan) toolsets options := by
  constructor
  · intro value plan accepted
    obtain ⟨found, passed, rest⟩ := bind_eq_ok_iff.mp accepted
    obtain ⟨rfl, -⟩ := Plan.distinct_eq_ok_iff.mp rest
    have checked := Checked.orFail_eq_ok_iff.mp passed
    exact graph_ofPlan (PlanInput.outlines_of_check checked) layout toolsets options
  · intro plan
    unfold ofPlan
    rw [PlanInput.outlines_dump, PlanInput.canvasInputs_dump]

/-- A null title, null and missing members, and a null list of dependencies that hides another one.
The file type of a resource is spelled in a way that only the check knows, so the inputs differ. -/
theorem graph_of_accepted_of_mixed :
    let value : Json := .obj [("title", .null),
      ("tasks", .arr [
        .obj [("id", .null), ("dependentTasks", .null), ("dependent_tasks", .arr [.str "b"])],
        .obj [("id", .str "b"), ("prompt", .null), ("dependent_tasks", .arr [.str "c", .str "b"]),
          ("toolsets", .null)],
        .obj []]),
      ("variables", .arr [.obj [("variable_id", .str "v"), ("name", .str "n"),
        ("description", .str ""), ("required", .str "Yes"),
        ("value", .arr [.obj [("resource",
          .obj [("name", .str "f"), ("file_type", .str "audio")])]])]])]
    ∃ plan, Plan.ofJson value = .ok plan ∧
      plan.tasks.map Task.dependentTasks = [none, some ["c", "b"], none] ∧
      graph <$> ofPlan Grid.layout (.raw value) (.parsed []) .standard =
        graph <$> ofPlan Grid.layout (.parsed plan) (.parsed []) .standard ∧
      (PlanInput.raw value).canvasInputs ≠ (PlanInput.parsed plan).canvasInputs := by
  intro value
  obtain ⟨plan, accepted, tasks, inputs⟩ : ∃ plan, Plan.ofJson value = .ok plan ∧
      plan.tasks.map Task.dependentTasks = [none, some ["c", "b"], none] ∧
      (PlanInput.raw value).canvasInputs ≠ (PlanInput.parsed plan).canvasInputs :=
    ⟨_, rfl, rfl, by decide⟩
  exact ⟨plan, accepted, tasks, (graph_of_accepted _ _ _).1 value plan accepted, inputs⟩

end Compilation

end PlanGraph
