import PlanGraph.Proofs.Patch.Merging
import PlanGraph.Proofs.Patch.Persistence
import PlanGraph.Proofs.Patch.References

/-!
# Edits that commute

An edit changes or removes one task or one variable. Edits of different things can be made in any
order, unless one of them removes a task that the other one makes a task depend on
(`Operation.Apart`): in the one order the dependency goes with the task, in the other it stays.

* Whether an edit can be made depends on the thing that it edits alone (`Operation.Enabled`), and
  another edit leaves that as it is (`Performs.enabled_iff`).
* What edits leave of the tasks and variables is the same in both orders, item by item
  (`reviseTask_comm`, `reviseVariable_comm`).

So two steps close a diamond (`Performs.diamond`), and a run can be rearranged at will
(`Plan.Undergoes.perm`).
-/

namespace PlanGraph

namespace Operation

/-! ## Edits of different things -/

/-- What the operation changes or removes: its sort and its id. -/
def edited? : Operation → Option (Entity × Json)
  | updateTask id _ => some (.task, id)
  | deleteTask id => some (.task, id)
  | updateVariable id _ => some (.var, id)
  | deleteVariable id => some (.var, id)
  | _ => none

/-- The operations edit different things, and neither removes a task that the other one names. -/
structure Apart (operation other : Operation) : Prop where
  /-- The first one is an edit. -/
  edits : operation.edited?.isSome = true
  /-- So is the second one. -/
  edits' : other.edited?.isSome = true
  /-- They edit things of different sorts, or with different ids. -/
  targets : operation.edited? ≠ other.edited?
  /-- The second one makes no task depend on one that the first one removes. -/
  names : ∀ id, operation = .deleteTask (.str id) → ¬ other.Names id
  /-- Nor the other way round. -/
  names' : ∀ id, other = .deleteTask (.str id) → ¬ operation.Names id

variable {operation other : Operation} {plan next : Plan} {entry : Option String}

theorem Apart.symm (h : operation.Apart other) : other.Apart operation :=
  ⟨h.edits', h.edits, h.targets.symm, h.names', h.names⟩

/-- An edit adds no task. -/
theorem addedTask?_of_edits (edits : operation.edited?.isSome = true) :
    operation.addedTask? = none := by
  cases operation with
  | createTask => cases edits
  | _ => rfl

/-- An edit adds no variable. -/
theorem addedVariable?_of_edits (edits : operation.edited?.isSome = true) :
    operation.addedVariable? = none := by
  cases operation with
  | createVariable => cases edits
  | _ => rfl

/-- An edit leaves the title. -/
theorem title?_of_edits (edits : operation.edited?.isSome = true) : operation.title? = none := by
  cases operation with
  | updateTitle => cases edits
  | _ => rfl

/-- A task that is not edited is not removed. -/
theorem removesTask_of_unedited {id : String} (h : operation.edited? ≠ some (.task, .str id)) :
    operation.removesTask id = false := by
  cases operation with
  | deleteTask gone =>
      simp only [removesTask, beq_eq_false_iff_ne]
      rintro rfl
      exact h rfl
  | _ => rfl

/-- A variable that is not edited is not removed. -/
theorem removesVariable_of_unedited {id : String} (h : operation.edited? ≠ some (.var, .str id)) :
    operation.removesVariable id = false := by
  cases operation with
  | deleteVariable gone =>
      simp only [removesVariable, beq_eq_false_iff_ne]
      rintro rfl
      exact h rfl
  | _ => rfl

/-- A variable that is not edited stays as it is. -/
theorem reviseVariable_of_unedited {input : Variable}
    (h : operation.edited? ≠ some (.var, .str input.variableId)) :
    operation.reviseVariable input = input := by
  refine reviseVariable_of_untouched ?_
  cases operation with
  | updateVariable id changes =>
      have elsewhere : Json.str input.variableId ≠ id := by
        rintro rfl
        exact h rfl
      exact if_neg elsewhere
  | _ => rfl

/-! ## What an edit leaves of other things -/

namespace Performs

variable (h : operation.Performs plan next entry) (ids : plan.Distinct)
  (edits : operation.edited?.isSome = true)
include h ids edits

/-- An edit leaves the ids of other tasks. -/
theorem exists_task_iff (named : operation.target? ≠ some (.str "")) {id : Json}
    (unedited : operation.edited? ≠ some (.task, id)) :
    (∃ task ∈ next.tasks, .str task.id = id) ↔ ∃ task ∈ plan.tasks, .str task.id = id := by
  obtain ⟨added, tasks, addedIds⟩ := h.tasks ids named
  rw [addedTask?_of_edits edits, Option.toList_none, List.map_eq_nil_iff] at addedIds
  rw [tasks, addedIds, List.append_nil]
  constructor
  · rintro ⟨revised, listed, same⟩
    obtain ⟨task, kept, rfl⟩ := List.mem_map.mp listed
    rw [id_reviseTask] at same
    exact ⟨task, (List.mem_filter.mp kept).1, same⟩
  · rintro ⟨task, listed, rfl⟩
    refine ⟨operation.reviseTask task, List.mem_map_of_mem (List.mem_filter.mpr ⟨listed, ?_⟩), ?_⟩
    · rw [removesTask_of_unedited unedited]
      rfl
    · rw [id_reviseTask]

/-- An edit leaves other variables as they are. -/
theorem mem_inputs_iff {input : Variable}
    (unedited : operation.edited? ≠ some (.var, .str input.variableId)) :
    input ∈ next.inputs ↔ input ∈ plan.inputs := by
  obtain ⟨added, inputs, addedIds⟩ := h.inputs ids
  rw [addedVariable?_of_edits edits, Option.toList_none, List.map_eq_nil_iff] at addedIds
  rw [inputs, addedIds, List.append_nil]
  constructor
  · intro listed
    obtain ⟨old, kept, same⟩ := List.mem_map.mp listed
    have sameId : old.variableId = input.variableId := by
      rw [← same, variableId_reviseVariable]
    rw [← sameId] at unedited
    rw [← same, reviseVariable_of_unedited unedited]
    exact (List.mem_filter.mp kept).1
  · intro listed
    refine List.mem_map.mpr ⟨input, List.mem_filter.mpr ⟨listed, ?_⟩,
      reviseVariable_of_unedited unedited⟩
    rw [removesVariable_of_unedited unedited]
    rfl

end Performs

/-! ## When an edit can be made -/

/-- The thing to be edited is there, and what becomes of it is well typed. -/
def Enabled (plan : Plan) : Operation → Prop
  | updateTask id _ => ∃ task ∈ plan.tasks, .str task.id = id
  | deleteTask id => ∃ task ∈ plan.tasks, .str task.id = id
  | updateVariable id changes => ∃ input ∈ plan.inputs, .str input.variableId = id ∧
      (changes.variableFields = [] ∨ (changes.mergeVariable input).wellTyped = true)
  | deleteVariable id => ∃ input ∈ plan.inputs, .str input.variableId = id
  | _ => False

/-- An edit can be made exactly when it is enabled. -/
theorem exists_performs_iff (ids : plan.Distinct) (edits : operation.edited?.isSome = true) :
    (∃ next entry, operation.Performs plan next entry) ↔ operation.Enabled plan := by
  constructor
  · rintro ⟨next, entry, performs⟩
    cases performs with
    | keepTask known idle => exact Plan.hasTask_iff.mp known
    | changeTask known given => exact Plan.hasTask_iff.mp known
    | removeTask known => exact Plan.hasTask_iff.mp known
    | @keepVariable _ id changes input found idle =>
        obtain ⟨listed, same⟩ := ids.find?_hasId_iff.mp found
        exact ⟨input, listed, same, .inl idle⟩
    | @changeVariable _ id changes input found given typed =>
        obtain ⟨listed, same⟩ := ids.find?_hasId_iff.mp found
        exact ⟨input, listed, same, .inr typed⟩
    | removeVariable known => exact Plan.hasVariable_iff.mp known
    | _ => cases edits
  · intro enabled
    cases operation with
    | updateTask id changes =>
        by_cases idle : changes.taskFields = []
        · exact ⟨_, _, .keepTask (Plan.hasTask_iff.mpr enabled) idle⟩
        · exact ⟨_, _, .changeTask (Plan.hasTask_iff.mpr enabled) idle⟩
    | deleteTask id => exact ⟨_, _, .removeTask (Plan.hasTask_iff.mpr enabled)⟩
    | updateVariable id changes =>
        obtain ⟨input, listed, same, fits⟩ := enabled
        have found := ids.find?_hasId_iff.mpr ⟨listed, same⟩
        by_cases idle : changes.variableFields = []
        · exact ⟨_, _, .keepVariable found idle⟩
        · exact ⟨_, _, .changeVariable found idle (fits.resolve_left idle)⟩
    | deleteVariable id => exact ⟨_, _, .removeVariable (Plan.hasVariable_iff.mpr enabled)⟩
    | _ => cases edits

/-- An edit leaves it open whether another one can be made. -/
theorem Performs.enabled_iff (h : operation.Performs plan next entry) (ids : plan.Distinct)
    (named : operation.target? ≠ some (.str "")) (apart : operation.Apart other) :
    other.Enabled next ↔ other.Enabled plan := by
  have tasks {id : Json} (target : other.edited? = some (.task, id)) :
      (∃ task ∈ next.tasks, .str task.id = id) ↔ ∃ task ∈ plan.tasks, .str task.id = id :=
    h.exists_task_iff ids apart.edits named (target ▸ apart.targets)
  have inputs {input : Variable} (target : other.edited? = some (.var, .str input.variableId)) :
      input ∈ next.inputs ↔ input ∈ plan.inputs :=
    h.mem_inputs_iff ids apart.edits (target ▸ apart.targets)
  cases other with
  | updateTask id changes => exact tasks rfl
  | deleteTask id => exact tasks rfl
  | updateVariable id changes =>
      refine exists_congr fun input => ?_
      constructor
      · rintro ⟨listed, rfl, fits⟩
        exact ⟨(inputs rfl).mp listed, rfl, fits⟩
      · rintro ⟨listed, rfl, fits⟩
        exact ⟨(inputs rfl).mpr listed, rfl, fits⟩
  | deleteVariable id =>
      refine exists_congr fun input => ?_
      constructor
      · rintro ⟨listed, rfl⟩
        exact ⟨(inputs rfl).mp listed, rfl⟩
      · rintro ⟨listed, rfl⟩
        exact ⟨(inputs rfl).mpr listed, rfl⟩
  | _ => exact Iff.rfl

/-! ## What two edits leave -/

/-- It makes no difference whether a dependency goes before changes are merged or after it, unless
the changes name it. -/
theorem mergeTask_withoutDependency {changes : Changes} {gone : Json} (task : Task)
    (spared : ∀ ids, changes.dependentTasks = some ids → ∀ id ∈ ids, .str id ≠ gone) :
    changes.mergeTask (Plan.withoutDependency gone task) =
      Plan.withoutDependency gone (changes.mergeTask task) := by
  rcases given : changes.dependentTasks with _ | ids
  · simp [Plan.withoutDependency, Changes.mergeTask, given]
  · have whole : ids.filter (fun id => .str id ≠ gone) = ids :=
      List.filter_eq_self.mpr fun id listed => by simpa using spared ids given id listed
    simp only [Plan.withoutDependency, Changes.mergeTask, given, Option.orElse_eq_orElse,
      Option.orElse_some, Option.map_some, whole]

/-- An update leaves another task as it is. -/
theorem reviseTask_of_elsewhere {id : Json} {changes : Changes} {task : Task}
    (elsewhere : .str task.id ≠ id) : (updateTask id changes).reviseTask task = task :=
  if_neg (by simpa [Task.hasId] using elsewhere)

/-- An update and a removal of another task revise a task in any order. -/
theorem reviseTask_update_delete {id gone : Json} {changes : Changes}
    (names : ∀ text, Operation.deleteTask gone = .deleteTask (.str text) →
      ¬ (updateTask id changes).Names text) (task : Task) :
    (deleteTask gone).reviseTask ((updateTask id changes).reviseTask task) =
      (updateTask id changes).reviseTask ((deleteTask gone).reviseTask task) := by
  have spared : ∀ ids, changes.dependentTasks = some ids → ∀ text ∈ ids, .str text ≠ gone := by
    rintro ids given text listed rfl
    exact names text rfl ⟨ids, given, listed⟩
  have kept : (Plan.withoutDependency gone task).hasId id = task.hasId id := rfl
  by_cases here : task.hasId id = true
  · simp [reviseTask, kept, here, mergeTask_withoutDependency task spared]
  · simp [reviseTask, kept, here]

/-- A task is revised by two edits of different things in any order. -/
theorem reviseTask_comm (apart : operation.Apart other) (task : Task) :
    other.reviseTask (operation.reviseTask task)
      = operation.reviseTask (other.reviseTask task) := by
  cases operation with
  | updateTask id changes =>
      cases other with
      | updateTask id' changes' =>
          -- one of the two edits another task and so leaves this one as it is
          by_cases here : Json.str task.id = id
          · have elsewhere : Json.str task.id ≠ id' := by
              rintro rfl
              exact apart.targets (by rw [edited?, edited?, here])
            have revised : Json.str ((updateTask id changes).reviseTask task).id ≠ id' := by
              rwa [id_reviseTask]
            rw [reviseTask_of_elsewhere elsewhere, reviseTask_of_elsewhere revised]
          · have revised : Json.str ((updateTask id' changes').reviseTask task).id ≠ id := by
              rwa [id_reviseTask]
            rw [reviseTask_of_elsewhere here, reviseTask_of_elsewhere revised]
      | deleteTask gone => exact reviseTask_update_delete apart.names' task
      | _ => rfl
  | deleteTask gone =>
      cases other with
      | updateTask id changes => exact (reviseTask_update_delete apart.names task).symm
      | deleteTask gone' =>
          simp only [reviseTask, Plan.withoutDependency, Option.map_map, Function.comp_def,
            List.filter_filter, Bool.and_comm]
      | _ => rfl
  | _ => rfl

/-- A variable is revised by two edits of different things in any order. -/
theorem reviseVariable_comm (apart : operation.Apart other) (input : Variable) :
    other.reviseVariable (operation.reviseVariable input) =
      operation.reviseVariable (other.reviseVariable input) := by
  -- one of the two edits another thing and so leaves the variable as it is
  by_cases here : operation.edited? = some (.var, .str input.variableId)
  · have elsewhere : other.edited? ≠ some (.var, .str input.variableId) :=
      fun there => apart.targets (here.trans there.symm)
    have revised : other.edited? ≠
        some (.var, .str (operation.reviseVariable input).variableId) := by
      rwa [variableId_reviseVariable]
    rw [reviseVariable_of_unedited elsewhere, reviseVariable_of_unedited revised]
  · have revised : operation.edited? ≠
        some (.var, .str (other.reviseVariable input).variableId) := by
      rwa [variableId_reviseVariable]
    rw [reviseVariable_of_unedited here, reviseVariable_of_unedited revised]

end Operation

namespace Roster

variable {α : Type} (roster : Roster α) {operation other : Operation}

/-- Two operations that revise each thing in any order leave the same in both orders. -/
theorem leave_swap (comm : ∀ item, roster.revise other (roster.revise operation item) =
      roster.revise operation (roster.revise other item)) (items : List α) :
    roster.leave [operation, other] items = roster.leave [other, operation] items := by
  have removed (item : α) : [operation, other].any (roster.removes · (roster.idOf item)) =
      [other, operation].any (roster.removes · (roster.idOf item)) := by
    simp [Bool.or_comm]
  have revised : roster.reviseAll [operation, other] = roster.reviseAll [other, operation] :=
    funext comm
  unfold leave
  rw [revised]
  simp only [removed]

end Roster

namespace Plan

variable {plan final : Plan} {operations : List Operation} {log : List String}

/-- A run of edits leaves the title. -/
theorem Undergoes.title_of_edits (h : plan.Undergoes operations final log)
    (edits : ∀ operation ∈ operations, operation.edited?.isSome = true) :
    final.title = plan.title := by
  induction h with
  | nil => rfl
  | cons first later ih =>
      obtain ⟨edit, edits⟩ := List.forall_mem_cons.mp edits
      rw [ih edits, first.title, Operation.title?_of_edits edit]
      rfl

/-- A run of edits leaves the title, and of the tasks and variables what the edits leave of them. -/
theorem Undergoes.eq_of_edits (h : plan.Undergoes operations final log) (ids : plan.Distinct)
    (named : ∀ operation ∈ operations, operation.target? ≠ some (.str ""))
    (edits : ∀ operation ∈ operations, operation.edited?.isSome = true) :
    final = ⟨plan.title, Roster.tasks.leave operations plan.tasks,
      Roster.inputs.leave operations plan.inputs⟩ := by
  have title := h.title_of_edits edits
  have none {α : Type} {roster : Roster α} {created : List α}
      (adds : ∀ operation ∈ operations, roster.added? operation = .none)
      (known : (created.map roster.idOf).Sublist (operations.filterMap roster.added?)) :
      created = [] := by
    rw [List.filterMap_eq_nil_iff.mpr adds, List.sublist_nil, List.map_eq_nil_iff] at known
    exact known
  obtain ⟨tasks, taskItems, fromTasks⟩ := Roster.tasks.undergoes h ids named
  obtain ⟨inputs, inputItems, fromInputs⟩ := Roster.inputs.undergoes h ids named
  rw [none (fun operation listed => Operation.addedTask?_of_edits (edits operation listed))
    fromTasks, List.append_nil] at taskItems
  rw [none (fun operation listed => Operation.addedVariable?_of_edits (edits operation listed))
    fromInputs, List.append_nil] at inputItems
  cases final
  exact congr (congr (congrArg Plan.mk title) taskItems) inputItems

end Plan

namespace Operation

variable {operation other : Operation} {plan middle final : Plan} {entry entry' : Option String}

/-- **The diamond of edits.** Two edits of different things can be made in the other order as well,
with the same plan after them. -/
theorem Performs.diamond (first : operation.Performs plan middle entry)
    (second : other.Performs middle final entry') (apart : operation.Apart other)
    (ids : plan.Distinct) (named : operation.target? ≠ some (.str ""))
    (named' : other.target? ≠ some (.str "")) :
    ∃ between entry entry', other.Performs plan between entry ∧
      operation.Performs between final entry' := by
  have enabled' : other.Enabled plan := (first.enabled_iff ids named apart).mp
    ((exists_performs_iff (first.distinct ids) apart.edits').mp ⟨_, _, second⟩)
  obtain ⟨between, entry₁, first'⟩ := (exists_performs_iff ids apart.edits').mpr enabled'
  have enabled : operation.Enabled between := (first'.enabled_iff ids named' apart.symm).mpr
    ((exists_performs_iff ids apart.edits).mp ⟨_, _, first⟩)
  obtain ⟨last, entry₂, second'⟩ :=
    (exists_performs_iff (first'.distinct ids) apart.edits).mpr enabled
  have both {p : Operation → Prop} {one two : Operation} (h : p one) (h' : p two) :
      ∀ operation ∈ [one, two], p operation :=
    List.forall_mem_cons.mpr ⟨h, List.forall_mem_singleton.mpr h'⟩
  have forth := Plan.Undergoes.eq_of_edits (.cons first (.cons second .nil)) ids
    (both named named') (both apart.edits apart.edits')
  have back := Plan.Undergoes.eq_of_edits (.cons first' (.cons second' .nil)) ids
    (both named' named) (both apart.edits' apart.edits)
  have same : last = final := by
    rw [forth, back, Roster.tasks.leave_swap (reviseTask_comm apart),
      Roster.inputs.leave_swap (reviseVariable_comm apart)]
  exact ⟨between, entry₁, entry₂, first', same ▸ second'⟩

end Operation

/-- Edits of different things can be made in any order, with the same plan after them. -/
theorem Plan.Undergoes.perm {operations others : List Operation} (perm : operations.Perm others) :
    ∀ {plan final : Plan}, plan.Distinct →
      (∀ operation ∈ operations, operation.target? ≠ some (.str "")) →
      operations.Pairwise Operation.Apart →
      (∃ log, plan.Undergoes operations final log) → ∃ log, plan.Undergoes others final log := by
  induction perm with
  | nil => exact fun _ _ _ h => h
  | cons operation perm ih =>
      rintro plan final ids named apart ⟨log, _ | ⟨first, later⟩⟩
      obtain ⟨log, later⟩ := ih (first.distinct ids) (List.forall_mem_cons.mp named).2
        (List.pairwise_cons.mp apart).2 ⟨_, later⟩
      exact ⟨_, .cons first later⟩
  | swap operation other rest =>
      rintro plan final ids named apart ⟨log, _ | ⟨first, _ | ⟨second, later⟩⟩⟩
      obtain ⟨firstNamed, named⟩ := List.forall_mem_cons.mp named
      obtain ⟨secondNamed, -⟩ := List.forall_mem_cons.mp named
      have pair := (List.pairwise_cons.mp apart).1 operation List.mem_cons_self
      obtain ⟨between, _, _, first', second'⟩ :=
        first.diamond second pair ids firstNamed secondNamed
      exact ⟨_, .cons first' (.cons second' later)⟩
  | trans perm _ ih ih' =>
      intro plan final ids named apart h
      refine ih' ids (fun operation listed => named operation (perm.mem_iff.mpr listed)) ?_
        (ih ids named apart h)
      exact (perm.pairwise_iff Operation.Apart.symm).mp apart

/-! ## Patches -/

/-- **Edits of different things commute.** Two values that are read as edits of different things,
neither of which removes a task that the other one makes a task depend on, are applied to a plan in
the one order exactly when they are in the other, and the patched plans are equal. -/
theorem applyPatch_swap {first second : Json}
    (apart : ∀ operation other, Operation.ofJson first = .ok operation →
      Operation.ofJson second = .ok other → operation.Apart other) (input : PlanInput) :
    let forth := applyPatch input [.raw first, .raw second]
    let back := applyPatch input [.raw second, .raw first]
    ((∃ final log, forth = .ok (.applied final log)) ↔
      ∃ final log, back = .ok (.applied final log)) ∧
    ∀ final log final' log', forth = .ok (.applied final log) →
      back = .ok (.applied final' log') → final = final' := by
  -- what is applied in one order is applied in the other
  have turn {one two : Json} (apart : ∀ operation other, Operation.ofJson one = .ok operation →
      Operation.ofJson two = .ok other → operation.Apart other) {final : Plan} {log : List String}
      (applied : applyPatch input [.raw one, .raw two] = .ok (.applied final log)) :
      ∃ log, applyPatch input [.raw two, .raw one] = .ok (.applied final log) := by
    change applyPatch input ([one, two].map .raw) = _ at applied
    obtain ⟨base, operations, loads, reads, effects⟩ := applyPatch_raw_eq_applied_iff.mp applied
    have named := Operation.targets_ne_empty reads
    rcases reads with _ | ⟨readOne, _ | ⟨readTwo, _ | _⟩⟩
    have pair : List.Pairwise Operation.Apart [_, _] :=
      List.pairwise_pair.mpr (apart _ _ readOne readTwo)
    obtain ⟨log, effects⟩ := Plan.Undergoes.perm (.swap ..) (PlanInput.distinct_of_load loads)
      named pair ⟨_, effects⟩
    exact ⟨log, applyPatch_raw_eq_applied_iff.mpr
      ⟨base, _, loads, .cons readTwo (.cons readOne .nil), effects⟩⟩
  intro forth back
  have turned : ∀ final log, forth = .ok (.applied final log) →
      ∃ log, back = .ok (.applied final log) :=
    fun final log applied => turn apart applied
  refine ⟨⟨?_, ?_⟩, ?_⟩
  · rintro ⟨final, log, applied⟩
    exact ⟨final, turned final log applied⟩
  · rintro ⟨final, log, applied⟩
    exact ⟨final, turn (fun operation other read read' => (apart _ _ read' read).symm) applied⟩
  · intro final log final' log' applied applied'
    obtain ⟨log, again⟩ := turned final log applied
    rw [applied'] at again
    cases again
    rfl

/-- A task comes to depend on another one in place of one that is removed, which a third task
depends on as well. -/
theorem applyPatch_swap_of_removal :
    let update : Json := .obj [("op", .str "updateTask"), ("taskId", .str "a"),
      ("data", .obj [("dependentTasks", .arr [.str "c"])])]
    let delete : Json := .obj [("op", .str "deleteTask"), ("taskId", .str "b")]
    let input : PlanInput := .raw (.obj [("tasks", .arr [
      .obj [("id", .str "a"), ("dependentTasks", .arr [.str "b"])], .obj [("id", .str "b")],
      .obj [("id", .str "c"), ("dependentTasks", .arr [.str "b"])]])])
    let final : Plan :=
      ⟨.str "", [⟨"a", "", "", some ["c"], []⟩, ⟨"c", "", "", some [], []⟩], []⟩
    ∃ log log', applyPatch input [.raw update, .raw delete] = .ok (.applied final log) ∧
      applyPatch input [.raw delete, .raw update] = .ok (.applied final log') := by
  intro update delete input final
  have apart : ∀ operation other, Operation.ofJson update = .ok operation →
      Operation.ofJson delete = .ok other → operation.Apart other := by
    rintro operation other ⟨⟩ ⟨⟩
    refine ⟨rfl, rfl, by decide, nofun, ?_⟩
    rintro id ⟨⟩ ⟨ids, ⟨⟩, listed⟩
    exact absurd listed (by decide)
  obtain ⟨exchanged, same⟩ := applyPatch_swap apart input
  obtain ⟨log, forth⟩ : ∃ log,
      applyPatch input [.raw update, .raw delete] = .ok (.applied final log) := ⟨_, rfl⟩
  obtain ⟨final', log', back⟩ := exchanged.mp ⟨final, log, forth⟩
  obtain rfl : final = final' := same final log final' log' forth back
  exact ⟨log, log', forth, back⟩

/-- A dependency on a task that is removed goes with it, or comes after it. -/
example :
    let update : Json := .obj [("op", .str "updateTask"), ("taskId", .str "a"),
      ("data", .obj [("dependentTasks", .arr [.str "b"])])]
    let delete : Json := .obj [("op", .str "deleteTask"), ("taskId", .str "b")]
    let input : PlanInput := .raw (.obj [("tasks", .arr [
      .obj [("id", .str "a")], .obj [("id", .str "b")]])])
    ∃ log log', applyPatch input [.raw update, .raw delete] =
        .ok (.applied ⟨.str "", [⟨"a", "", "", some [], []⟩], []⟩ log) ∧
      applyPatch input [.raw delete, .raw update] =
        .ok (.applied ⟨.str "", [⟨"a", "", "", some ["b"], []⟩], []⟩ log') :=
  ⟨_, _, rfl, rfl⟩

end PlanGraph
