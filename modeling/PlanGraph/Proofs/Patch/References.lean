import PlanGraph.Proofs.Patch.Run

/-!
# References between tasks

A dependency dangles when no task of the plan has its id. Patches do not make dependencies dangle
(`applyPatch_closed`):

* A plan without dangling dependencies (`Plan.Closed`) is patched to such a plan, provided that each
  operation names only tasks that are there when its turn comes, or the task that it adds
  (`Operation.Grounded`).
* A task that was removed is gone, and with it every dependency on it (`Plan.Lacks`), up to the
  first operation whose own payload names its id (`Operation.Names`).

Both are invariants of a run. The second one does not depend on when an operation is carried out,
the first one does: it is carried along by `Plan.runSteps_induction_at`, which knows the plan that
each operation finds.
-/

namespace PlanGraph

/-! ## Plans and ids -/

namespace Plan

/-- Every dependency of a task is the id of a task. -/
def Closed (plan : Plan) : Prop :=
  ∀ task ∈ plan.tasks, ∀ id ∈ task.dependencies, plan.hasTask (.str id) = true

/-- No task has the id, and no task depends on it. -/
def Lacks (plan : Plan) (id : String) : Prop :=
  plan.hasTask (.str id) = false ∧ ∀ task ∈ plan.tasks, id ∉ task.dependencies

/-- An id of the plan is the id of one of its tasks. -/
theorem hasTask_str_iff {plan : Plan} {id : String} :
    plan.hasTask (.str id) = true ↔ ∃ task ∈ plan.tasks, task.id = id := by
  simp only [hasTask_iff, Json.str.injEq]

/-- Without a dependency on an id, a task has the others that it had. -/
theorem mem_dependencies_withoutDependency {task : Task} {gone : Json} {id : String} :
    id ∈ (withoutDependency gone task).dependencies ↔
      id ∈ task.dependencies ∧ .str id ≠ gone := by
  obtain ⟨name, title, prompt, _ | ids, toolsets⟩ := task
  · simp [withoutDependency, Task.dependencies]
  · simp [withoutDependency, Task.dependencies]

end Plan

/-- After changes, a task depends on what the changes say, and otherwise on what it did before. -/
theorem Changes.mem_dependencies_mergeTask {changes : Changes} {task : Task} {id : String}
    (h : id ∈ (changes.mergeTask task).dependencies) :
    (∃ ids, changes.dependentTasks = some ids ∧ id ∈ ids) ∨ id ∈ task.dependencies := by
  rcases given : changes.dependentTasks with _ | ids
  · right
    simpa [mergeTask, Task.dependencies, given] using h
  · left
    refine ⟨ids, rfl, ?_⟩
    simpa [mergeTask, Task.dependencies, given] using h

/-! ## Operations and ids -/

namespace Operation

/-- The dependencies in the payload are ids of tasks of the plan; a task that is added may depend on
itself. -/
def Grounded (plan : Plan) : Operation → Prop
  | createTask body => ∀ task, taskBody body = .ok task → ∀ id ∈ task.dependencies,
      plan.hasTask (.str id) = true ∨ id = task.id
  | updateTask _ changes => ∀ ids, changes.dependentTasks = some ids → ∀ id ∈ ids,
      plan.hasTask (.str id) = true
  | _ => True

/-- The payload adds a task with the id, or a dependency on it. -/
def Names (id : String) : Operation → Prop
  | createTask body => ∃ task, taskBody body = .ok task ∧ (task.id = id ∨ id ∈ task.dependencies)
  | updateTask _ changes => ∃ ids, changes.dependentTasks = some ids ∧ id ∈ ids
  | _ => False

namespace Performs

variable {operation : Operation} {plan next : Plan} {entry : Option String} {id : String}

/-- An operation whose payload names tasks that are there makes no dependency dangle. -/
theorem closed (h : operation.Performs plan next entry) (grounded : operation.Grounded plan)
    (closed : plan.Closed) : next.Closed := by
  cases h with
  | @addTask _ _ added read named free =>
      intro task htask id hid
      rw [Plan.hasTask_str_iff]
      have known : plan.hasTask (.str id) = true ∨ id = added.id := by
        rcases List.mem_append.mp htask with htask | htask
        · exact .inl (closed task htask id hid)
        · rw [List.mem_singleton.mp htask] at hid
          exact grounded added read id hid
      rcases known with known | rfl
      · obtain ⟨other, hother, same⟩ := Plan.hasTask_str_iff.mp known
        exact ⟨other, List.mem_append_left _ hother, same⟩
      · exact ⟨added, List.mem_append_right _ List.mem_cons_self, rfl⟩
  | @changeTask _ target changes known given =>
      have sameIds : (Plan.updateFirst (Task.hasId target) changes.mergeTask plan.tasks).map
          Task.id = plan.tasks.map Task.id :=
        Plan.map_updateFirst fun _ _ => rfl
      -- the tasks keep their ids, so what was the id of a task still is
      have stays : ∀ id, plan.hasTask (.str id) = true → Plan.hasTask { plan with
          tasks := Plan.updateFirst (Task.hasId target) changes.mergeTask plan.tasks }
            (.str id) = true := by
        intro id here
        rw [Plan.hasTask_str_iff, ← List.mem_map] at here ⊢
        rw [sameIds]
        exact here
      intro task htask id hid
      apply stays
      rcases Plan.mem_or_eq_of_mem_updateFirst htask with htask | ⟨old, hold, -, rfl⟩
      · exact closed task htask id hid
      · rcases Changes.mem_dependencies_mergeTask hid with ⟨ids, some, listed⟩ | hid
        · exact grounded ids some id listed
        · exact closed old hold id hid
  | @removeTask _ gone known =>
      intro task htask id hid
      obtain ⟨old, hold, rfl⟩ := List.mem_map.mp htask
      obtain ⟨hid, other⟩ := Plan.mem_dependencies_withoutDependency.mp hid
      obtain ⟨found, hfound, rfl⟩ :=
        Plan.hasTask_str_iff.mp (closed old (List.mem_filter.mp hold).1 id hid)
      rw [Plan.hasTask_str_iff]
      -- the task that is depended on has another id than the one that goes, so it stays
      have stays : (!found.hasId gone) = true := by simpa [Task.hasId] using other
      exact ⟨_, List.mem_map_of_mem (List.mem_filter.mpr ⟨hfound, stays⟩), rfl⟩
  | _ => exact closed

/-- A task that is removed is gone, and every dependency on it. -/
theorem lacks_of_deleteTask (h : (deleteTask (.str id)).Performs plan next entry) :
    next.Lacks id := by
  cases h with
  | removeTask known =>
      constructor
      · rw [Bool.eq_false_iff]
        intro here
        obtain ⟨task, htask, same⟩ := Plan.hasTask_str_iff.mp here
        obtain ⟨old, hold, rfl⟩ := List.mem_map.mp htask
        have other := (List.mem_filter.mp hold).2
        change old.id = id at same
        simp [Task.hasId, same] at other
      · intro task htask hid
        obtain ⟨old, -, rfl⟩ := List.mem_map.mp htask
        exact (Plan.mem_dependencies_withoutDependency.mp hid).2 rfl

/-- An id that a plan lacks is not brought back by an operation whose payload does not name it. -/
theorem lacks (h : operation.Performs plan next entry) (silent : ¬ operation.Names id)
    (lacks : plan.Lacks id) : next.Lacks id := by
  obtain ⟨free, unused⟩ := lacks
  have absent : ∀ task ∈ plan.tasks, task.id ≠ id := by
    intro task htask same
    rw [Plan.hasTask_str_iff.mpr ⟨task, htask, same⟩] at free
    cases free
  -- it is enough to look at the tasks of the next plan one by one
  suffices each : ∀ task ∈ next.tasks, task.id ≠ id ∧ id ∉ task.dependencies by
    refine ⟨?_, fun task htask => (each task htask).2⟩
    rw [Bool.eq_false_iff]
    intro here
    obtain ⟨task, htask, same⟩ := Plan.hasTask_str_iff.mp here
    exact (each task htask).1 same
  have before : ∀ task ∈ plan.tasks, task.id ≠ id ∧ id ∉ task.dependencies :=
    fun task htask => ⟨absent task htask, unused task htask⟩
  cases h with
  | @addTask _ _ added read named _ =>
      intro task htask
      rcases List.mem_append.mp htask with htask | htask
      · exact before task htask
      · rw [List.mem_singleton.mp htask]
        exact ⟨fun same => silent ⟨added, read, .inl same⟩,
          fun hid => silent ⟨added, read, .inr hid⟩⟩
  | changeTask known given =>
      intro task htask
      rcases Plan.mem_or_eq_of_mem_updateFirst htask with htask | ⟨old, hold, -, rfl⟩
      · exact before task htask
      · refine ⟨absent old hold, fun hid => ?_⟩
        rcases Changes.mem_dependencies_mergeTask hid with named | hid
        · exact silent named
        · exact unused old hold hid
  | removeTask known =>
      intro task htask
      obtain ⟨old, hold, rfl⟩ := List.mem_map.mp htask
      have there := (List.mem_filter.mp hold).1
      exact ⟨absent old there,
        fun hid => unused old there (Plan.mem_dependencies_withoutDependency.mp hid).1⟩
  | _ => exact before

end Performs

end Operation

/-! ## Runs -/

namespace Plan

variable {index : Nat} {plan final : Plan} {log entries : List String} {steps : List PatchStep}

/-- What every operation of a run keeps, of the plan that it finds, is kept by the run. -/
theorem runSteps_induction_at {motive : Plan → Prop}
    (each : ∀ before step after, steps = before ++ step :: after → ∀ middle done,
      runSteps index plan log before = .ok (middle, done) →
      ∀ operation, step.operation = .ok operation →
      ∀ next entry, operation.Performs middle next entry → motive middle → motive next)
    (h : runSteps index plan log steps = .ok (final, entries)) (start : motive plan) :
    motive final := by
  induction steps generalizing index plan log with
  | nil =>
      cases h
      exact start
  | cons step rest ih =>
      rw [runSteps_cons] at h
      obtain ⟨⟨next, entry⟩, first, later⟩ := bind_eq_ok_iff.mp h
      obtain ⟨operation, read, performs⟩ := PatchStep.perform_eq_ok_iff.mp first
      refine ih ?_ later (each [] step rest rfl plan log rfl operation read next entry performs
        start)
      intro before other after parts middle done run
      refine each (step :: before) other after (congrArg (step :: ·) parts) middle done ?_
      rw [runSteps_cons]
      exact bind_eq_ok_iff.mpr ⟨(next, entry), first, run⟩

/-- A run lacks an id that one of its operations removed and that none of the later ones names. -/
theorem lacks_of_runSteps {before between : List PatchStep} {step : PatchStep} {id : String}
    (removal : step.operation = .ok (.deleteTask (.str id)))
    (silent : ∀ later ∈ between, ∀ operation, later.operation = .ok operation →
      ¬ operation.Names id)
    (h : runSteps index plan log (before ++ step :: between) = .ok (final, entries)) :
    final.Lacks id := by
  rw [runSteps_append] at h
  obtain ⟨⟨middle, done⟩, -, run⟩ := bind_eq_ok_iff.mp h
  rw [runSteps_cons] at run
  obtain ⟨⟨next, entry⟩, first, later⟩ := bind_eq_ok_iff.mp run
  obtain ⟨operation, read, performs⟩ := PatchStep.perform_eq_ok_iff.mp first
  obtain rfl : .deleteTask (.str id) = operation := Except.ok.inj (removal.symm.trans read)
  exact runSteps_induction
    (fun step hstep operation read _ _ _ performs =>
      performs.lacks (silent step hstep operation read))
    later performs.lacks_of_deleteTask

end Plan

/-! ## Patches -/

/-- **No dependency dangles.** A plan in which every dependency is the id of a task is patched to
such a plan, if each operation names only tasks that the operations before it leave in the plan, or
the task that it adds. And whatever the plan and the operations are, once a task is removed, no task
has its id or depends on it, as long as no later operation names the id in its own payload. -/
theorem applyPatch_closed (input : PlanInput) :
    (∀ base steps final log, input.load = .ok base → base.Closed →
      applyPatch input steps = .ok (.applied final log) →
      (∀ before step after, steps = before ++ step :: after → ∀ middle done,
        applyPatch input before = .ok (.applied middle done) →
        ∀ operation, step.operation = .ok operation → operation.Grounded middle) →
      final.Closed) ∧
    ∀ before step between final log id,
      applyPatch input (before ++ step :: between) = .ok (.applied final log) →
      step.operation = .ok (.deleteTask (.str id)) →
      (∀ later ∈ between, ∀ operation, later.operation = .ok operation → ¬ operation.Names id) →
      final.Lacks id := by
  constructor
  · intro base steps final log loads closed applied grounded
    obtain ⟨found, load, run⟩ := applyPatch_eq_applied_iff.mp applied
    obtain rfl : base = found := Except.ok.inj (loads.symm.trans load)
    refine Plan.runSteps_induction_at ?_ run closed
    intro before step after parts middle done run operation read next entry performs
    have reached : applyPatch input before = .ok (.applied middle done) :=
      applyPatch_eq_applied_iff.mpr ⟨base, loads, run⟩
    exact performs.closed (grounded before step after parts middle done reached operation read)
  · intro before step between final log id applied removal silent
    obtain ⟨base, -, run⟩ := applyPatch_eq_applied_iff.mp applied
    exact Plan.lacks_of_runSteps removal silent run

/-- A task is added that depends on itself and on a task that is removed next, and a third one is
then made to depend on it. -/
theorem applyPatch_closed_of_three :
    let base : Plan := ⟨.str "", [⟨"a", "", "", none, []⟩, ⟨"b", "", "", some ["a"], []⟩], []⟩
    let addition : PatchStep := .raw (.obj [("op", .str "createTask"),
      ("task", .obj [("id", .str "c"), ("dependentTasks", .arr [.str "a", .str "c", .str "a"])])])
    let removal : PatchStep := .raw (.obj [("op", .str "deleteTask"), ("taskId", .str "a")])
    let change : PatchStep := .raw (.obj [("op", .str "updateTask"), ("taskId", .str "b"),
      ("data", .obj [("dependentTasks", .arr [.str "c"])])])
    let final : Plan :=
      ⟨.str "", [⟨"b", "", "", some ["c"], []⟩, ⟨"c", "", "", some ["c"], []⟩], []⟩
    ∃ log, applyPatch (.parsed base) [addition, removal, change] = .ok (.applied final log) ∧
      base.Closed ∧ final.Closed ∧ final.Lacks "a" := by
  intro base addition removal change final
  obtain ⟨log, applied⟩ : ∃ log, applyPatch (.parsed base) [addition, removal, change] =
      .ok (.applied final log) := ⟨_, rfl⟩
  have closed : base.Closed := by
    unfold Plan.Closed
    decide
  obtain ⟨keeps, removes⟩ := applyPatch_closed (.parsed base)
  refine ⟨log, applied, closed, keeps base _ final log rfl closed applied ?_,
    removes [addition] removal [change] final log "a" applied rfl ?_⟩
  · intro before step after parts middle done reached operation read
    rcases before with _ | ⟨_, _ | ⟨_, _ | ⟨_, before⟩⟩⟩
    · cases parts
      cases reached
      cases read
      rintro task ⟨⟩
      decide
    · cases parts
      cases read
      trivial
    · cases parts
      cases reached
      cases read
      rintro ids ⟨⟩
      decide
    · simp at parts
  · intro later hlater operation read
    rw [List.mem_singleton.mp hlater] at read
    cases read
    rintro ⟨ids, ⟨⟩, named⟩
    simp at named

end PlanGraph
