import PlanGraph.Proofs.Patch.Reading

/-!
# Histories of patches

A plan is patched over and over. A call that is refused, or that cannot be carried out, leaves the
plan as it was; one that succeeds replaces it. Whatever the calls are, the plans that are reached
from a plan that was read keep the invariant of plans (`Plan.afterCalls_invariant`):

* ids of tasks that have one are distinct, and so are the ids of variables;
* resource types are listed on resource variables only;
* the tasks without an id are those of the plan that was read, in their order, less some of their
  dependencies.
-/

namespace PlanGraph

/-! ## Tasks without an id -/

namespace Task

/-- The task with the dependencies that are kept. -/
def keeping (kept : String → Bool) (task : Task) : Task :=
  { task with dependentTasks := task.dependentTasks.map (·.filter kept) }

/-- A task that keeps all its dependencies stays what it is. -/
@[simp]
theorem keeping_all (task : Task) : task.keeping (fun _ => true) = task := by
  simp [keeping]

/-- Dependencies that go one after another are gone together. -/
theorem keeping_keeping (kept later : String → Bool) (task : Task) :
    (task.keeping kept).keeping later = task.keeping fun id => kept id && later id := by
  simp only [keeping, Option.map_map, Task.mk.injEq, true_and, and_true]
  congr 1
  funext ids
  simp [List.filter_filter, Bool.and_comm]

/-- Without the dependencies on one id, a task keeps all others. -/
theorem withoutDependency_eq_keeping (id : Json) :
    Plan.withoutDependency id = keeping fun d => decide (Json.str d ≠ id) := rfl

end Task

namespace Plan

/-- The tasks that have no id. -/
def unnamedTasks (plan : Plan) : List Task :=
  plan.tasks.filter (·.id == "")

/-- The tasks without an id are those of an earlier plan, less some dependencies. -/
def KeepsUnnamed (earlier plan : Plan) : Prop :=
  ∃ kept, plan.unnamedTasks = earlier.unnamedTasks.map (Task.keeping kept)

/-- Where the tasks without an id are the same, none of their dependencies is gone. -/
theorem KeepsUnnamed.of_eq {earlier plan : Plan}
    (same : plan.unnamedTasks = earlier.unnamedTasks) : KeepsUnnamed earlier plan := by
  refine ⟨fun _ => true, ?_⟩
  rw [same, List.map_congr_left fun task _ => Task.keeping_all task, List.map_id']

theorem KeepsUnnamed.refl (plan : Plan) : KeepsUnnamed plan plan :=
  .of_eq rfl

theorem KeepsUnnamed.trans {first second third : Plan} (h : KeepsUnnamed first second)
    (h' : KeepsUnnamed second third) : KeepsUnnamed first third := by
  obtain ⟨kept, same⟩ := h
  obtain ⟨later, same'⟩ := h'
  refine ⟨fun id => kept id && later id, ?_⟩
  rw [same', same, List.map_map]
  exact List.map_congr_left fun task _ => Task.keeping_keeping kept later task

end Plan

namespace Operation

variable {operation : Operation} {plan next : Plan} {entry : Option String}

/-- A task that goes by an id other than the empty one has an id. -/
theorem id_ne_empty_of_hasId {id : Json} {task : Task} (h : task.hasId id = true)
    (named : id ≠ .str "") : task.id ≠ "" := by
  rintro empty
  have same : Json.str task.id = id := by simpa [Task.hasId] using h
  rw [empty] at same
  exact named same.symm

/-- An operation that works on no empty id leaves the tasks without an id where they are. -/
theorem Performs.keepsUnnamed (h : operation.Performs plan next entry)
    (named : operation.target? ≠ some (.str "")) : plan.KeepsUnnamed next := by
  cases h with
  | @addTask _ _ task read hasName free =>
      apply Plan.KeepsUnnamed.of_eq
      simp [Plan.unnamedTasks, hasName]
  | @changeTask _ id changes known given =>
      have apart : ∀ task : Task, task.hasId id = true →
          (task.id == "") = false ∧ ((changes.mergeTask task).id == "") = false := by
        intro task htask
        have hasName : task.id ≠ "" :=
          id_ne_empty_of_hasId htask fun empty => named (congrArg some empty)
        exact ⟨beq_false_of_ne hasName, beq_false_of_ne hasName⟩
      exact Plan.KeepsUnnamed.of_eq (Plan.filter_updateFirst apart)
  | @removeTask _ id known =>
      refine ⟨fun d => decide (Json.str d ≠ id), ?_⟩
      have stays : ∀ task : Task, (task.id == "" && !task.hasId id) = (task.id == "") := by
        intro task
        by_cases empty : task.id = ""
        · have other : task.hasId id = false := by
            rw [Bool.eq_false_iff]
            exact fun htask =>
              id_ne_empty_of_hasId htask (fun same => named (congrArg some same)) empty
          simp [empty, other]
        · simp [empty]
      unfold Plan.unnamedTasks
      rw [← Task.withoutDependency_eq_keeping, List.filter_map, List.filter_filter]
      exact congrArg _ (List.filter_congr fun task _ => stays task)
  | _ => exact Plan.KeepsUnnamed.refl _

end Operation

namespace Plan

/-- A run of operations that are read from values leaves the tasks without an id where they are. -/
theorem keepsUnnamed_of_runSteps {plan final : Plan} {index : Nat} {log entries : List String}
    {operations : List Json}
    (h : runSteps index plan log (operations.map .raw) = .ok (final, entries)) :
    plan.KeepsUnnamed final := by
  refine runSteps_induction (fun step hstep operation read middle next entry performs kept => ?_) h
    (KeepsUnnamed.refl plan)
  obtain ⟨value, -, rfl⟩ := List.mem_map.mp hstep
  exact kept.trans (performs.keepsUnnamed (Operation.target_ne_empty read))

/-! ## Calls one after another -/

/-- The plan after a call: the patched one if the call succeeds, and the same one otherwise. -/
def afterCall (plan : Plan) (operations : List Json) : Plan :=
  match applyPatch (.parsed plan) (operations.map .raw) with
  | .ok (.applied next _) => next
  | _ => plan

/-- The plan after calls one after another. -/
def afterCalls (plan : Plan) (calls : List (List Json)) : Plan :=
  calls.foldl afterCall plan

/-- A call keeps a plan sound, and its tasks without an id. -/
theorem afterCall_invariant {base plan : Plan} (operations : List Json)
    (h : plan.Sound ∧ base.KeepsUnnamed plan) :
    (plan.afterCall operations).Sound ∧ base.KeepsUnnamed (plan.afterCall operations) := by
  obtain ⟨sound, unnamed⟩ := h
  unfold afterCall
  split
  · rename_i next log applied
    obtain ⟨loaded, load, run⟩ := applyPatch_eq_applied_iff.mp applied
    obtain ⟨rfl, -⟩ := distinct_eq_ok_iff.mp load
    exact ⟨sound.runSteps run, unnamed.trans (keepsUnnamed_of_runSteps run)⟩
  · exact ⟨sound, unnamed⟩

/-- Calls one after another keep a plan sound, and its tasks without an id. -/
theorem sound_afterCalls {base plan : Plan} (calls : List (List Json))
    (h : plan.Sound ∧ base.KeepsUnnamed plan) :
    (plan.afterCalls calls).Sound ∧ base.KeepsUnnamed (plan.afterCalls calls) := by
  induction calls generalizing plan with
  | nil => exact h
  | cons operations rest ih => exact ih (afterCall_invariant operations h)

/-- **The invariant of histories.** Every plan that is reached from a plan that was read, by calls
with any operations, has distinct ids and well-typed variables, and no task without an id but those
that the plan had when it was read. -/
theorem afterCalls_invariant {value : Json} {base : Plan} (h : ofJson value = .ok base)
    (calls : List (List Json)) :
    (base.afterCalls calls).taskIds.Nodup ∧ (base.afterCalls calls).inputIds.Nodup ∧
      (∀ input ∈ (base.afterCalls calls).inputs, ∀ types, input.resourceTypes = some types →
        types ≠ [] → input.variableType = .resource) ∧
      ∃ kept, (base.afterCalls calls).unnamedTasks = base.unnamedTasks.map (Task.keeping kept) := by
  obtain ⟨sound, unnamed⟩ := sound_afterCalls calls ⟨sound_of_ofJson h, KeepsUnnamed.refl base⟩
  refine ⟨sound.tasks, sound.inputs, ?_, unnamed⟩
  intro input hinput
  exact Variable.wellTyped_iff.mp (sound.wellTyped input hinput)

/-- A task without an id loses its dependency in the first of three calls, of which the second is
refused. -/
theorem afterCalls_invariant_of_three :
    let base : Plan := ⟨.str "", [⟨"", "", "", some ["a", "x"], []⟩, ⟨"a", "", "", none, []⟩], []⟩
    let calls : List (List Json) :=
      [[.obj [("op", .str "deleteTask"), ("taskId", .str "a")],
          .obj [("op", .str "createTask"), ("task", .obj [("id", .str "b")])]],
        [.obj [("op", .str "createTask"), ("task", .obj [("id", .str "b")])]],
        [.obj [("op", .str "createTask"), ("task", .obj [("id", .str "c")])]]]
    ofJson (.obj [("tasks", .arr [.obj [("dependentTasks", .arr [.str "a", .str "x"])],
      .obj [("id", .str "a")]])]) = .ok base ∧
    base.afterCalls calls = ⟨.str "", [⟨"", "", "", some ["x"], []⟩, ⟨"b", "", "", none, []⟩,
      ⟨"c", "", "", none, []⟩], []⟩ ∧
    (base.afterCalls calls).taskIds.Nodup ∧
    ∃ kept, (base.afterCalls calls).unnamedTasks = base.unnamedTasks.map (Task.keeping kept) := by
  intro base calls
  have read : ofJson (.obj [("tasks", .arr [.obj [("dependentTasks", .arr [.str "a", .str "x"])],
      .obj [("id", .str "a")]])]) = .ok base := rfl
  have reached : base.afterCalls calls = ⟨.str "", [⟨"", "", "", some ["x"], []⟩,
      ⟨"b", "", "", none, []⟩, ⟨"c", "", "", none, []⟩], []⟩ := by
    decide +kernel
  obtain ⟨tasks, -, -, unnamed⟩ := afterCalls_invariant read calls
  exact ⟨read, reached, tasks, unnamed⟩

end Plan

end PlanGraph
