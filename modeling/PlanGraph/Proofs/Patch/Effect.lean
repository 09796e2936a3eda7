import PlanGraph.Patch.Apply
import PlanGraph.Proofs.Plan.Soundness

/-!
# Effects of operations

What one operation can do to a plan, said once and used for every property of patches.

* `Operation.Performs operation plan next entry` lists the ways in which an operation is carried
  out, with the condition under which each is taken; it holds exactly when the operation succeeds
  (`Operation.perform_eq_ok_iff`).
* No operation that succeeds makes two ids equal (`Operation.Performs.distinct`) or a variable
  ill-typed (`Operation.Performs.wellTyped`).
-/

namespace PlanGraph

/-! ## Changing the first item that is meant -/

namespace Plan

variable {α β : Type} {meant : α → Bool} {f : α → α}

/-- What the change keeps is kept of the whole list. -/
theorem map_updateFirst {g : α → β} {items : List α}
    (same : ∀ item, meant item = true → g (f item) = g item) :
    (updateFirst meant f items).map g = items.map g := by
  induction items with
  | nil => rfl
  | cons item rest ih =>
      rw [updateFirst]
      split
      · rename_i hmeant
        rw [List.map_cons, List.map_cons, same item hmeant]
      · rw [List.map_cons, List.map_cons, ih]

/-- Each item of the changed list was there or is a changed one. -/
theorem mem_or_eq_of_mem_updateFirst {items : List α} {item : α}
    (h : item ∈ updateFirst meant f items) :
    item ∈ items ∨ ∃ old ∈ items, meant old = true ∧ item = f old := by
  induction items with
  | nil => exact absurd h List.not_mem_nil
  | cons first rest ih =>
      rw [updateFirst] at h
      split at h
      · rename_i hmeant
        rcases List.mem_cons.mp h with rfl | h
        · exact Or.inr ⟨first, List.mem_cons_self, hmeant, rfl⟩
        · exact Or.inl (List.mem_cons_of_mem _ h)
      · rcases List.mem_cons.mp h with rfl | h
        · exact Or.inl List.mem_cons_self
        · rcases ih h with h | ⟨old, hold, hmeant, rfl⟩
          · exact Or.inl (List.mem_cons_of_mem _ h)
          · exact Or.inr ⟨old, List.mem_cons_of_mem _ hold, hmeant, rfl⟩

/-- Items that are not meant, before or after the change, are untouched. -/
theorem filter_updateFirst {p : α → Bool} {items : List α}
    (apart : ∀ item, meant item = true → p item = false ∧ p (f item) = false) :
    (updateFirst meant f items).filter p = items.filter p := by
  induction items with
  | nil => rfl
  | cons item rest ih =>
      rw [updateFirst]
      split
      · rename_i hmeant
        obtain ⟨before, after⟩ := apart item hmeant
        rw [List.filter_cons_of_neg (by simp [after]), List.filter_cons_of_neg (by simp [before])]
      · rw [List.filter_cons, List.filter_cons, ih]

/-- Where one item at most is meant, changing the first one changes each one that is meant. -/
theorem updateFirst_eq_map {items : List α}
    (once : items.Pairwise fun a b => meant a = true → meant b = false) :
    updateFirst meant f items = items.map fun item => if meant item then f item else item := by
  induction items with
  | nil => rfl
  | cons item rest ih =>
      obtain ⟨alone, once⟩ := List.pairwise_cons.mp once
      rw [updateFirst, List.map_cons]
      by_cases hmeant : meant item = true
      · have others : (rest.map fun item => if meant item then f item else item) = rest := by
          rw [List.map_congr_left (g := id), List.map_id]
          intro other hother
          simp [alone other hother hmeant]
        simp only [hmeant, if_true, others]
      · simp only [hmeant, Bool.false_eq_true, if_false, ih once]

/-- A change to what was found is a change to the first item that is meant. -/
theorem updateFirst_of_find? {items : List α} {found : α} (h : items.find? meant = some found) :
    updateFirst meant (fun _ => f found) items = updateFirst meant f items := by
  induction items with
  | nil => rfl
  | cons item rest ih =>
      rw [updateFirst, updateFirst]
      by_cases hmeant : meant item = true
      · rw [List.find?_cons_of_pos hmeant] at h
        rw [if_pos hmeant, if_pos hmeant, Option.some.inj h]
      · rw [List.find?_cons_of_neg hmeant] at h
        rw [if_neg hmeant, if_neg hmeant, ih h]

/-- A plan has a task with an id when one of its tasks has it. -/
theorem hasTask_iff {plan : Plan} {id : Json} :
    plan.hasTask id = true ↔ ∃ task ∈ plan.tasks, .str task.id = id := by
  simp [hasTask, Task.hasId]

/-- A plan has a variable with an id when one of its variables has it. -/
theorem hasVariable_iff {plan : Plan} {id : Json} :
    plan.hasVariable id = true ↔ ∃ input ∈ plan.inputs, .str input.variableId = id := by
  simp [hasVariable, Variable.hasId]

end Plan

/-- An id belongs to one text, so variables that go by it have the same id. -/
theorem Variable.variableId_eq_of_hasId {id : Json} {input other : Variable}
    (h : input.hasId id = true) (h' : other.hasId id = true) :
    input.variableId = other.variableId := by
  have first : Json.str input.variableId = id := by simpa [Variable.hasId] using h
  have second : Json.str other.variableId = id := by simpa [Variable.hasId] using h'
  exact Json.str.inj (first.trans second.symm)

/-! ## The effect of each operation -/

namespace Operation

/-- An operation turns a plan into the next one and leaves a log entry if it changed something. -/
inductive Performs : Operation → Plan → Plan → Option String → Prop where
  /-- Without a title the title stays. -/
  | keepTitle {plan : Plan} : Performs (.updateTitle none) plan plan none
  /-- The title is set, whatever it is. -/
  | setTitle {plan : Plan} {title : Json} :
      Performs (.updateTitle (some title)) plan { plan with title }
        (some (LogEntry.titleUpdated title))
  /-- A task with an id that is free comes last. -/
  | addTask {plan : Plan} {body : Draft Task} {task : Task} (read : taskBody body = .ok task)
      (named : task.id ≠ "") (free : plan.hasTask (.str task.id) = false) :
      Performs (.createTask body) plan { plan with tasks := plan.tasks ++ [task] }
        (some (LogEntry.taskAdded task))
  /-- Without changes a task stays, provided that it is there. -/
  | keepTask {plan : Plan} {id : Json} {changes : Changes} (known : plan.hasTask id = true)
      (idle : changes.taskFields = []) : Performs (.updateTask id changes) plan plan none
  /-- Changes are merged into a task that is there. -/
  | changeTask {plan : Plan} {id : Json} {changes : Changes} (known : plan.hasTask id = true)
      (given : changes.taskFields ≠ []) :
      Performs (.updateTask id changes) plan
        { plan with tasks := Plan.updateFirst (Task.hasId id) changes.mergeTask plan.tasks }
        (some (LogEntry.taskModified id changes.taskFields))
  /-- A task that is there goes, and so does every dependency on it. -/
  | removeTask {plan : Plan} {id : Json} (known : plan.hasTask id = true) :
      Performs (.deleteTask id) plan
        { plan with
          tasks := (plan.tasks.filter fun task => !task.hasId id).map (Plan.withoutDependency id) }
        (some (LogEntry.taskRemoved id
          ((plan.tasks.filter fun task => !task.hasId id).countP (Plan.dependsOn id))))
  /-- A variable with an id that is free comes last. -/
  | addVariable {plan : Plan} {body : Draft Variable} {input : Variable}
      (read : variableBody body = .ok input)
      (free : plan.hasVariable (.str input.variableId) = false) :
      Performs (.createVariable body) plan { plan with inputs := plan.inputs ++ [input] }
        (some (LogEntry.variableAdded input))
  /-- Without changes a variable stays, provided that it is there. -/
  | keepVariable {plan : Plan} {id : Json} {changes : Changes} {input : Variable}
      (found : plan.inputs.find? (Variable.hasId id) = some input)
      (idle : changes.variableFields = []) : Performs (.updateVariable id changes) plan plan none
  /-- Changes are merged into a variable that is there and remains well typed. -/
  | changeVariable {plan : Plan} {id : Json} {changes : Changes} {input : Variable}
      (found : plan.inputs.find? (Variable.hasId id) = some input)
      (given : changes.variableFields ≠ [])
      (typed : (changes.mergeVariable input).wellTyped = true) :
      Performs (.updateVariable id changes) plan
        { plan with
          inputs := Plan.updateFirst (Variable.hasId id) (fun _ => changes.mergeVariable input)
            plan.inputs }
        (some (LogEntry.variableModified id changes.variableFields))
  /-- A variable that is there goes. -/
  | removeVariable {plan : Plan} {id : Json} (known : plan.hasVariable id = true) :
      Performs (.deleteVariable id) plan
        { plan with inputs := plan.inputs.filter fun input => !input.hasId id }
        (some (LogEntry.variableRemoved id))

variable {operation : Operation} {plan next : Plan} {entry : Option String}

theorem createTaskIn_eq_ok_iff {body : Draft Task} :
    createTaskIn plan body = .ok (next, entry) ↔ Performs (.createTask body) plan next entry := by
  constructor
  · intro h
    obtain ⟨task, read, rest⟩ := bind_eq_ok_iff.mp h
    split at rest
    · cases rest
    · rename_i named
      split at rest
      · cases rest
      · rename_i free
        cases rest
        exact .addTask read named (by simpa using free)
  · intro h
    cases h with
    | @addTask _ _ task read named free =>
        exact bind_eq_ok_iff.mpr ⟨task, read, by simp [named, free, pure, Except.pure]⟩

theorem updateTaskIn_eq_ok_iff {id : Json} {changes : Changes} :
    updateTaskIn plan id changes = .ok (next, entry) ↔
      Performs (.updateTask id changes) plan next entry := by
  constructor
  · intro h
    unfold updateTaskIn at h
    split at h
    · cases h
    · rename_i known
      split at h
      · rename_i idle
        cases h
        exact .keepTask (by simpa using known) (by simpa using idle)
      · rename_i given
        cases h
        exact .changeTask (by simpa using known) (by simpa using given)
  · intro h
    cases h with
    | keepTask known idle => simp [updateTaskIn, known, idle]
    | changeTask known given => simp [updateTaskIn, known, given]

theorem deleteTaskIn_eq_ok_iff {id : Json} :
    deleteTaskIn plan id = .ok (next, entry) ↔ Performs (.deleteTask id) plan next entry := by
  constructor
  · intro h
    unfold deleteTaskIn at h
    split at h
    · cases h
    · rename_i known
      cases h
      exact .removeTask (by simpa using known)
  · intro h
    cases h with
    | removeTask known => simp [deleteTaskIn, known]

theorem createVariableIn_eq_ok_iff {body : Draft Variable} :
    createVariableIn plan body = .ok (next, entry) ↔
      Performs (.createVariable body) plan next entry := by
  constructor
  · intro h
    obtain ⟨input, read, rest⟩ := bind_eq_ok_iff.mp h
    split at rest
    · cases rest
    · rename_i free
      cases rest
      exact .addVariable read (by simpa using free)
  · intro h
    cases h with
    | @addVariable _ _ input read free =>
        exact bind_eq_ok_iff.mpr ⟨input, read, by simp [free, pure, Except.pure]⟩

theorem updateVariableIn_eq_ok_iff {id : Json} {changes : Changes} :
    updateVariableIn plan id changes = .ok (next, entry) ↔
      Performs (.updateVariable id changes) plan next entry := by
  constructor
  · intro h
    unfold updateVariableIn at h
    split at h
    · cases h
    · rename_i input found
      split at h
      · rename_i idle
        cases h
        exact .keepVariable found (by simpa using idle)
      · rename_i given
        split at h
        · cases h
        · rename_i merged passed
          obtain ⟨rfl, typed⟩ := Variable.recheck_eq_ok_iff.mp passed
          cases h
          exact .changeVariable found (by simpa using given) typed
  · intro h
    cases h with
    | keepVariable found idle => simp [updateVariableIn, found, idle]
    | @changeVariable _ _ _ input found given typed =>
        have passed : (changes.mergeVariable input).recheck "Variable update" =
            .ok (changes.mergeVariable input) :=
          Variable.recheck_eq_ok_iff.mpr ⟨rfl, typed⟩
        simp [updateVariableIn, found, given, passed]

theorem deleteVariableIn_eq_ok_iff {id : Json} :
    deleteVariableIn plan id = .ok (next, entry) ↔
      Performs (.deleteVariable id) plan next entry := by
  constructor
  · intro h
    unfold deleteVariableIn at h
    split at h
    · cases h
    · rename_i known
      cases h
      exact .removeVariable (by simpa using known)
  · intro h
    cases h with
    | removeVariable known => simp [deleteVariableIn, known]

/-- An operation succeeds exactly in the ways listed, with the effects listed. -/
theorem perform_eq_ok_iff :
    operation.perform plan = .ok (next, entry) ↔ operation.Performs plan next entry := by
  cases operation with
  | updateTitle title =>
      rcases title with _ | title
      · constructor
        · intro h
          cases h
          exact .keepTitle
        · rintro ⟨⟩
          rfl
      · constructor
        · intro h
          cases h
          exact .setTitle
        · rintro ⟨⟩
          rfl
  | createTask body => exact createTaskIn_eq_ok_iff
  | updateTask id changes => exact updateTaskIn_eq_ok_iff
  | deleteTask id => exact deleteTaskIn_eq_ok_iff
  | createVariable body => exact createVariableIn_eq_ok_iff
  | updateVariable id changes => exact updateVariableIn_eq_ok_iff
  | deleteVariable id => exact deleteVariableIn_eq_ok_iff

/-! ## What every effect keeps -/

/-- The body of a created variable is well typed, however it was given. -/
theorem wellTyped_of_variableBody {body : Draft Variable} {input : Variable}
    (h : variableBody body = .ok input) : input.wellTyped = true := by
  rcases body with value | given
  · have passed := Checked.orFail_eq_ok_iff.mp (mapError_eq_ok_iff.mp h)
    exact Variable.wellTyped_of_check passed
  · obtain ⟨rfl, typed⟩ := Variable.recheck_eq_ok_iff.mp (mapError_eq_ok_iff.mp h)
    exact typed

/-- An id that is free is not among the ids of tasks. -/
theorem not_mem_taskIds_of_free {id : String} (free : plan.hasTask (.str id) = false) :
    id ∉ plan.taskIds := by
  intro h
  obtain ⟨task, htask, rfl⟩ := List.mem_map.mp (List.mem_filter.mp h).1
  have known : plan.hasTask (.str task.id) = true :=
    List.any_eq_true.mpr ⟨task, htask, by simp [Task.hasId]⟩
  rw [known] at free
  cases free

/-- An id that is free is not among the ids of variables. -/
theorem not_mem_inputIds_of_free {id : String} (free : plan.hasVariable (.str id) = false) :
    id ∉ plan.inputIds := by
  intro h
  obtain ⟨input, hinput, rfl⟩ := List.mem_map.mp h
  have known : plan.hasVariable (.str input.variableId) = true :=
    List.any_eq_true.mpr ⟨input, hinput, by simp [Variable.hasId]⟩
  rw [known] at free
  cases free

namespace Performs

/-- Ids stay distinct. -/
theorem distinct (h : operation.Performs plan next entry) (ids : plan.Distinct) :
    next.Distinct := by
  cases h with
  | keepTitle => exact ids
  | setTitle => exact ⟨ids.tasks, ids.inputs⟩
  | @addTask _ _ task read named free =>
      refine ⟨?_, ids.inputs⟩
      have added : Plan.taskIds { plan with tasks := plan.tasks ++ [task] } =
          plan.taskIds ++ [task.id] := by
        simp [Plan.taskIds, named]
      rw [added, ← List.concat_eq_append]
      exact ids.tasks.concat (not_mem_taskIds_of_free free)
  | keepTask => exact ids
  | @changeTask _ id changes known given =>
      refine ⟨?_, ids.inputs⟩
      have same : (Plan.updateFirst (Task.hasId id) changes.mergeTask plan.tasks).map Task.id =
          plan.tasks.map Task.id :=
        Plan.map_updateFirst fun _ _ => rfl
      unfold Plan.taskIds
      rw [same]
      exact ids.tasks
  | removeTask known =>
      refine ⟨?_, ids.inputs⟩
      unfold Plan.taskIds
      rw [List.map_map]
      exact ids.tasks.sublist ((List.filter_sublist.map Task.id).filter _)
  | @addVariable _ _ input read free =>
      refine ⟨ids.tasks, ?_⟩
      have added : Plan.inputIds { plan with inputs := plan.inputs ++ [input] } =
          plan.inputIds ++ [input.variableId] := by
        simp [Plan.inputIds]
      rw [added, ← List.concat_eq_append]
      exact ids.inputs.concat (not_mem_inputIds_of_free free)
  | keepVariable => exact ids
  | @changeVariable _ id changes input found given typed =>
      refine ⟨ids.tasks, ?_⟩
      have same : (Plan.updateFirst (Variable.hasId id) (fun _ => changes.mergeVariable input)
          plan.inputs).map Variable.variableId = plan.inputs.map Variable.variableId := by
        apply Plan.map_updateFirst
        intro other hother
        have meant : input.hasId id = true := List.find?_some found
        change input.variableId = other.variableId
        exact Variable.variableId_eq_of_hasId meant hother
      unfold Plan.inputIds
      rw [same]
      exact ids.inputs
  | removeVariable known =>
      refine ⟨ids.tasks, ?_⟩
      exact ids.inputs.sublist (List.filter_sublist.map Variable.variableId)

/-- Variables stay well typed. -/
theorem wellTyped (h : operation.Performs plan next entry)
    (typed : ∀ input ∈ plan.inputs, input.wellTyped = true) :
    ∀ input ∈ next.inputs, input.wellTyped = true := by
  cases h with
  | addVariable read free =>
      intro input hinput
      rcases List.mem_append.mp hinput with hinput | hinput
      · exact typed input hinput
      · rw [List.mem_singleton.mp hinput]
        exact wellTyped_of_variableBody read
  | changeVariable found given merged =>
      intro input hinput
      rcases Plan.mem_or_eq_of_mem_updateFirst hinput with hinput | ⟨-, -, -, rfl⟩
      · exact typed input hinput
      · exact merged
  | removeVariable known =>
      intro input hinput
      exact typed input (List.mem_filter.mp hinput).1
  | _ => exact typed

/-- A sound plan stays sound. -/
theorem sound (h : operation.Performs plan next entry) (sound : plan.Sound) : next.Sound :=
  ⟨h.distinct sound.toDistinct, h.wellTyped sound.wellTyped⟩

end Performs

end Operation

end PlanGraph
