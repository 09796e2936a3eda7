import Mathlib.Data.List.ReduceOption
import PlanGraph.Proofs.Patch.History
import PlanGraph.Proofs.Patch.LastWriter

/-!
# The log of a patch

A patch that is applied keeps a log, with one entry for each operation that changes something
(`Plan.Records`). Nothing changes without an entry (`applyPatch_logged`):

* If the log is empty, the plan is what it was.
* A task or variable about which no entry tells (`LogEntry.Tells`) is what it was, except that a
  task no longer depends on the tasks that were removed (`Plan.KeepsTask`, `Plan.KeepsVariable`).
* If no entry tells of a title, the title is what it was.

The plan at the end is compared with the one at the beginning, so for each of the three it is said
what one operation does, and then what operations do one after another.
-/

namespace PlanGraph

/-! ## Operations and their entries -/

namespace Plan

/-- Operations take effect one after another, and each leaves an entry or none. -/
inductive Records : Plan → List Operation → Plan → List (Option String) → Prop where
  /-- Without operations the plan stays. -/
  | nil {plan : Plan} : Records plan [] plan []
  /-- The first operation takes effect, and the others follow. -/
  | cons {plan next final : Plan} {operation : Operation} {rest : List Operation}
      {entry : Option String} {entries : List (Option String)}
      (first : operation.Performs plan next entry) (later : Records next rest final entries) :
      Records plan (operation :: rest) final (entry :: entries)

variable {plan final : Plan} {operations : List Operation} {log : List String}

/-- The log of a run holds the entries that its operations leave, in their order. -/
theorem undergoes_iff_records :
    plan.Undergoes operations final log ↔
      ∃ entries, plan.Records operations final entries ∧ log = entries.reduceOption := by
  constructor
  · intro h
    induction h with
    | nil => exact ⟨[], .nil, rfl⟩
    | @cons _ _ _ _ _ entry _ first _ ih =>
        obtain ⟨entries, records, rfl⟩ := ih
        refine ⟨entry :: entries, .cons first records, ?_⟩
        rcases entry with _ | line
        · rfl
        · rfl
  · rintro ⟨entries, records, rfl⟩
    induction records with
    | nil => exact .nil
    | @cons _ _ _ _ _ entry _ first _ ih =>
        rcases entry with _ | line
        · exact .cons first ih
        · exact .cons first ih

end Plan

/-! ## What an entry tells -/

namespace LogEntry

/-- What became of a task or a variable. -/
inductive Event where
  /-- It was added. -/
  | added
  /-- It was changed. -/
  | modified
  /-- It was removed. -/
  | removed

/-- The words that begin an entry about a task or a variable, up to its id. -/
def heading : Entity → Event → String
  | .task, .added => "TASK ADDED: ["
  | .task, .modified => "TASK MODIFIED: ["
  | .task, .removed => "TASK REMOVED: ["
  | .var, .added => "VARIABLE ADDED: ["
  | .var, .modified => "VARIABLE MODIFIED: ["
  | .var, .removed => "VARIABLE REMOVED: ["

/-- The entry tells about the task or variable with an id, which it names in brackets. -/
def Tells (entity : Entity) (id entry : String) : Prop :=
  ∃ event rest, entry = heading entity event ++ id ++ "]" ++ rest

theorem tells_taskAdded (task : Task) : Tells .task task.id (taskAdded task) := by
  refine ⟨.added, " title=\"" ++ task.title ++ "\"", ?_⟩
  have closing : "] title=\"" = "]" ++ " title=\"" := by decide
  unfold taskAdded heading
  simp only [closing, String.append_assoc]

theorem tells_taskModified (id : String) (fields : List String) :
    Tells .task id (taskModified (.str id) fields) := by
  refine ⟨.modified, " fields=" ++ String.intercalate "," fields, ?_⟩
  have closing : "] fields=" = "]" ++ " fields=" := by decide
  unfold taskModified heading
  simp only [Json.display, closing, String.append_assoc]

theorem tells_taskRemoved (id : String) (dependents : Nat) :
    Tells .task id (taskRemoved (.str id) dependents) := by
  refine ⟨.removed, " dependents_updated=" ++ toString dependents, ?_⟩
  have closing : "] dependents_updated=" = "]" ++ " dependents_updated=" := by decide
  unfold taskRemoved heading
  simp only [Json.display, closing, String.append_assoc]

theorem tells_variableAdded (input : Variable) :
    Tells .var input.variableId (variableAdded input) := by
  refine ⟨.added, " name=\"" ++ input.name ++ "\"", ?_⟩
  have closing : "] name=\"" = "]" ++ " name=\"" := by decide
  unfold variableAdded heading
  simp only [closing, String.append_assoc]

theorem tells_variableModified (id : String) (fields : List String) :
    Tells .var id (variableModified (.str id) fields) := by
  refine ⟨.modified, " fields=" ++ String.intercalate "," fields, ?_⟩
  have closing : "] fields=" = "]" ++ " fields=" := by decide
  unfold variableModified heading
  simp only [Json.display, closing, String.append_assoc]

theorem tells_variableRemoved (id : String) : Tells .var id (variableRemoved (.str id)) :=
  ⟨.removed, "", (String.append_empty).symm⟩

end LogEntry

/-! ## What is kept without an entry -/

namespace Plan

/-- The tasks with an id are those of an earlier plan, less their dependencies on tasks that are
gone. -/
def KeepsTask (earlier : Plan) (gone : String → Bool) (later : Plan) (id : String) : Prop :=
  later.tasks.filter (·.id == id) =
    (earlier.tasks.filter (·.id == id)).map (Task.keeping fun d => !gone d)

/-- The variables with an id are those of an earlier plan. -/
def KeepsVariable (earlier later : Plan) (id : String) : Prop :=
  later.inputs.filter (·.variableId == id) = earlier.inputs.filter (·.variableId == id)

variable {earlier middle later : Plan} {gone goneLater : String → Bool} {id : String}

/-- Where the tasks with an id are the same, none of their dependencies is gone. -/
theorem KeepsTask.of_eq
    (same : later.tasks.filter (·.id == id) = earlier.tasks.filter (·.id == id)) :
    earlier.KeepsTask (fun _ => false) later id := by
  have whole : (Task.keeping fun _ => !false) = fun task => task := funext Task.keeping_all
  rw [KeepsTask, whole, List.map_id', same]

/-- Tasks that keep what they have twice lack what is gone at one time or the other. -/
theorem KeepsTask.trans (h : earlier.KeepsTask gone middle id)
    (h' : middle.KeepsTask goneLater later id) :
    earlier.KeepsTask (fun d => gone d || goneLater d) later id := by
  rw [KeepsTask, h', h, List.map_map]
  refine List.map_congr_left fun task _ => ?_
  simp [Task.keeping_keeping]

/-- A plan has a task with an id if the earlier plan had. -/
theorem KeepsTask.hasTask_eq (h : earlier.KeepsTask gone later id) :
    later.hasTask (.str id) = earlier.hasTask (.str id) := by
  have filtered (plan : Plan) :
      plan.hasTask (.str id) = !(plan.tasks.filter (·.id == id)).isEmpty := by
    rw [Bool.eq_iff_iff]
    simp [hasTask, Task.hasId]
  rw [filtered, filtered, h, List.isEmpty_map]

/-- A plan has a variable with an id if the earlier plan had. -/
theorem KeepsVariable.hasVariable_eq (h : earlier.KeepsVariable later id) :
    later.hasVariable (.str id) = earlier.hasVariable (.str id) := by
  have filtered (plan : Plan) :
      plan.hasVariable (.str id) = !(plan.inputs.filter (·.variableId == id)).isEmpty := by
    rw [Bool.eq_iff_iff]
    simp [hasVariable, Variable.hasId]
  rw [filtered, filtered, h]

end Plan

/-! ## One operation -/

namespace Operation

namespace Performs

variable {operation : Operation} {plan next : Plan} {entry : Option String}

/-- An operation without an entry changes nothing. -/
theorem eq_of_silent (h : operation.Performs plan next none) : next = plan := by
  cases h with
  | keepTitle => rfl
  | keepTask => rfl
  | keepVariable => rfl

/-- An entry begins with the letter of one of three words. -/
theorem exists_head (h : operation.Performs plan next entry) {line : String}
    (left : entry = some line) : ∃ first ∈ ['T', 'V'], ∃ rest, line.toList = first :: rest := by
  cases h with
  | keepTitle => cases left
  | keepTask => cases left
  | keepVariable => cases left
  | setTitle =>
      cases left
      exact ⟨'T', by decide, by unfold LogEntry.titleUpdated; simp⟩
  | addTask =>
      cases left
      exact ⟨'T', by decide, by unfold LogEntry.taskAdded; simp⟩
  | changeTask =>
      cases left
      exact ⟨'T', by decide, by unfold LogEntry.taskModified; simp⟩
  | removeTask =>
      cases left
      exact ⟨'T', by decide, by unfold LogEntry.taskRemoved; simp⟩
  | addVariable =>
      cases left
      exact ⟨'V', by decide, by unfold LogEntry.variableAdded; simp⟩
  | changeVariable =>
      cases left
      exact ⟨'V', by decide, by unfold LogEntry.variableModified; simp⟩
  | removeVariable =>
      cases left
      exact ⟨'V', by decide, by unfold LogEntry.variableRemoved; simp⟩

/-- An operation tells about a task that it touches, other than by removing another task. -/
theorem tells_or_keepsTask (h : operation.Performs plan next entry) (id : String) :
    (∃ line, entry = some line ∧ LogEntry.Tells .task id line) ∨
      plan.KeepsTask operation.removesTask next id := by
  cases h with
  | @addTask _ _ task read named free =>
      by_cases same : task.id = id
      · left
        exact ⟨_, rfl, same ▸ LogEntry.tells_taskAdded task⟩
      · right
        exact .of_eq (by simp [same])
  | @changeTask _ target changes known given =>
      obtain ⟨old, -, rfl⟩ := Plan.hasTask_iff.mp known
      by_cases same : old.id = id
      · left
        exact ⟨_, rfl, same ▸ LogEntry.tells_taskModified old.id _⟩
      · right
        refine .of_eq (Plan.filter_updateFirst fun task meant => ?_)
        have other : task.id ≠ id := by
          rintro rfl
          exact same (Json.str.inj (beq_iff_eq.mp meant)).symm
        exact ⟨beq_false_of_ne other, beq_false_of_ne other⟩
  | @removeTask _ target known =>
      obtain ⟨old, -, rfl⟩ := Plan.hasTask_iff.mp known
      by_cases same : old.id = id
      · left
        exact ⟨_, rfl, same ▸ LogEntry.tells_taskRemoved old.id _⟩
      · right
        -- the task removed is another one, so it is looked for in vain
        have spared : ∀ task : Task, (task.id == id && !task.hasId (.str old.id)) =
            (task.id == id) := by
          intro task
          by_cases here : task.id = id
          · simp [here, Task.hasId, Ne.symm same]
          · simp [here]
        have lost : (Task.keeping fun d => !(deleteTask (.str old.id)).removesTask d) =
            Plan.withoutDependency (.str old.id) := by
          rw [Task.withoutDependency_eq_keeping]
          refine congrArg Task.keeping (funext fun d => ?_)
          by_cases here : d = old.id
          · simp [removesTask, here]
          · simp [removesTask, here, beq_eq_false_iff_ne.mpr fun same => here (Json.str.inj same)]
        rw [Plan.KeepsTask, lost, List.filter_map, List.filter_filter]
        exact congrArg _ (List.filter_congr fun task _ => spared task)
  | _ => exact .inr (.of_eq rfl)

/-- An operation tells about a variable that it touches. -/
theorem tells_or_keepsVariable (h : operation.Performs plan next entry) (id : String) :
    (∃ line, entry = some line ∧ LogEntry.Tells .var id line) ∨ plan.KeepsVariable next id := by
  cases h with
  | @addVariable _ _ input read free =>
      by_cases same : input.variableId = id
      · left
        exact ⟨_, rfl, same ▸ LogEntry.tells_variableAdded input⟩
      · right
        simp [Plan.KeepsVariable, same]
  | @changeVariable _ target changes input found given typed =>
      have meant : Json.str input.variableId = target := by
        have found' := List.find?_some found
        exact beq_iff_eq.mp found'
      subst meant
      by_cases same : input.variableId = id
      · left
        exact ⟨_, rfl, same ▸ LogEntry.tells_variableModified input.variableId _⟩
      · right
        refine Plan.filter_updateFirst fun other meant => ?_
        have apart : other.variableId ≠ id := by
          rintro rfl
          exact same (Json.str.inj (beq_iff_eq.mp meant)).symm
        exact ⟨beq_false_of_ne apart, beq_false_of_ne same⟩
  | @removeVariable _ target known =>
      obtain ⟨old, -, rfl⟩ := Plan.hasVariable_iff.mp known
      by_cases same : old.variableId = id
      · left
        exact ⟨_, rfl, same ▸ LogEntry.tells_variableRemoved old.variableId⟩
      · right
        have spared : ∀ input : Variable,
            (input.variableId == id && !input.hasId (.str old.variableId)) =
              (input.variableId == id) := by
          intro input
          by_cases here : input.variableId = id
          · simp [here, Variable.hasId, Ne.symm same]
          · simp [here]
        rw [Plan.KeepsVariable, List.filter_filter]
        exact List.filter_congr fun input _ => spared input
  | _ => exact .inr rfl

/-- An operation tells of the title that it sets. -/
theorem tells_or_keepsTitle (h : operation.Performs plan next entry) :
    (operation = .updateTitle (some next.title) ∧
      entry = some (LogEntry.titleUpdated next.title)) ∨ next.title = plan.title := by
  cases h with
  | setTitle => exact .inl ⟨rfl, rfl⟩
  | _ => exact .inr rfl

end Performs

end Operation

/-! ## Operations one after another -/

namespace Plan

namespace Records

variable {plan final : Plan} {operations : List Operation} {entries : List (Option String)}

/-- Operations without entries change nothing. -/
theorem eq_of_silent (h : plan.Records operations final entries)
    (silent : entries.reduceOption = []) : final = plan := by
  induction h with
  | nil => rfl
  | @cons _ _ _ _ _ entry _ first _ ih =>
      rcases entry with _ | line
      · rw [ih silent, first.eq_of_silent]
      · cases silent

/-- Entries begin with the letter of one of three words. -/
theorem exists_head (h : plan.Records operations final entries) {line : String}
    (listed : line ∈ entries.reduceOption) :
    ∃ first ∈ ['T', 'V'], ∃ rest, line.toList = first :: rest := by
  rw [List.reduceOption_mem_iff] at listed
  induction h with
  | nil => exact absurd listed List.not_mem_nil
  | cons first _ ih =>
      rcases List.mem_cons.mp listed with here | later
      · exact first.exists_head here.symm
      · exact ih later

/-- Some operation tells about a task, or the task is what it was, less its dependencies on tasks
that were removed. -/
theorem tells_or_keepsTask (h : plan.Records operations final entries) (id : String) :
    (∃ operation line, (operation, some line) ∈ operations.zip entries ∧
      LogEntry.Tells .task id line) ∨
    plan.KeepsTask (fun d => operations.any (·.removesTask d)) final id := by
  induction h with
  | nil => exact .inr (.of_eq rfl)
  | cons first _ ih =>
      rcases first.tells_or_keepsTask id with ⟨line, rfl, tells⟩ | kept
      · exact .inl ⟨_, line, List.mem_cons_self, tells⟩
      · rcases ih with ⟨operation, line, listed, tells⟩ | keptLater
        · exact .inl ⟨operation, line, List.mem_cons_of_mem _ listed, tells⟩
        · exact .inr (kept.trans keptLater)

/-- Some operation tells about a variable, or the variable is what it was. -/
theorem tells_or_keepsVariable (h : plan.Records operations final entries) (id : String) :
    (∃ operation line, (operation, some line) ∈ operations.zip entries ∧
      LogEntry.Tells .var id line) ∨ plan.KeepsVariable final id := by
  induction h with
  | nil => exact .inr rfl
  | cons first _ ih =>
      rcases first.tells_or_keepsVariable id with ⟨line, rfl, tells⟩ | kept
      · exact .inl ⟨_, line, List.mem_cons_self, tells⟩
      · rcases ih with ⟨operation, line, listed, tells⟩ | keptLater
        · exact .inl ⟨operation, line, List.mem_cons_of_mem _ listed, tells⟩
        · exact .inr (Eq.trans keptLater kept)

/-- Some operation tells of the title, or the title is what it was. -/
theorem tells_or_keepsTitle (h : plan.Records operations final entries) :
    (.updateTitle (some final.title), some (LogEntry.titleUpdated final.title)) ∈
      operations.zip entries ∨ final.title = plan.title := by
  induction h with
  | nil => exact .inr rfl
  | cons first _ ih =>
      rcases ih with told | kept
      · exact .inl (List.mem_cons_of_mem _ told)
      · rw [kept]
        rcases first.tells_or_keepsTitle with ⟨rfl, rfl⟩ | kept'
        · exact .inl List.mem_cons_self
        · exact .inr kept'

end Records

end Plan

/-! ## Patches -/

/-- A log reads as one without changes only if it is empty. -/
theorem PatchResult.log_eq_nil_of_diff {base final : Plan} {operations : List Operation}
    {entries : List (Option String)} (records : base.Records operations final entries)
    (unchanged : (PatchResult.applied final entries.reduceOption).diff = "(no changes)") :
    entries.reduceOption = [] := by
  rcases log : entries.reduceOption with _ | ⟨line, more⟩
  · rfl
  · obtain ⟨first, letter, rest, spelled⟩ :=
      records.exists_head (log.symm ▸ List.mem_cons_self : line ∈ entries.reduceOption)
    rw [log] at unchanged
    have opening : (String.intercalate "\n" (line :: more)).toList.head? = some '(' :=
      congrArg (fun text => text.toList.head?) unchanged
    have first_eq : some first = some '(' := by
      rw [← opening]
      rcases more with _ | ⟨next, others⟩
      · rw [String.intercalate_singleton, spelled]
        rfl
      · rw [String.intercalate_cons_cons, String.toList_append, String.toList_append, spelled]
        rfl
    cases first_eq
    exact absurd letter (by decide)

/-- **No silent change.** Take a patch that is applied. Its log holds the entries that its
operations leave, in their order.

* If the log reads as one without changes, the plan is what it was.
* For each id, an operation leaves an entry that tells about the task with this id, or the plan has
  such a task if it had one before, and the task is the same, less its dependencies on tasks that
  operations of the patch removed.
* For each id, an operation leaves an entry that tells about the variable with this id, or the plan
  has such a variable if it had one before, and the variable is the same.
* An operation that sets the title leaves an entry about it, and it is the title that the plan has
  in the end, or the title is what it was. -/
theorem applyPatch_logged {input : PlanInput} {steps : List PatchStep} {base final : Plan}
    {log : List String} (loads : input.load = .ok base)
    (applied : applyPatch input steps = .ok (.applied final log)) :
    ((PatchResult.applied final log).diff = "(no changes)" → final = base) ∧
    ∃ operations entries,
      List.Forall₂ (fun step operation => step.operation = .ok operation) steps operations ∧
      base.Records operations final entries ∧ log = entries.reduceOption ∧
      (∀ id, (∃ operation line, (operation, some line) ∈ operations.zip entries ∧
          LogEntry.Tells .task id line) ∨
        final.hasTask (.str id) = base.hasTask (.str id) ∧
          base.KeepsTask (fun d => operations.any (·.removesTask d)) final id) ∧
      (∀ id, (∃ operation line, (operation, some line) ∈ operations.zip entries ∧
          LogEntry.Tells .var id line) ∨
        final.hasVariable (.str id) = base.hasVariable (.str id) ∧
          base.KeepsVariable final id) ∧
      ((.updateTitle (some final.title), some (LogEntry.titleUpdated final.title)) ∈
        operations.zip entries ∨ final.title = base.title) := by
  obtain ⟨found, loads', run⟩ := applyPatch_eq_applied_iff.mp applied
  obtain rfl := Except.ok.inj (loads.symm.trans loads')
  obtain ⟨operations, added, reads, effects, rfl⟩ := Plan.runSteps_eq_ok_iff.mp run
  obtain ⟨entries, records, rfl⟩ := Plan.undergoes_iff_records.mp effects
  refine ⟨?_, operations, entries, reads, records, rfl, ?_, ?_, records.tells_or_keepsTitle⟩
  · intro unchanged
    exact records.eq_of_silent (PatchResult.log_eq_nil_of_diff records unchanged)
  · intro id
    rcases records.tells_or_keepsTask id with told | kept
    · exact .inl told
    · exact .inr ⟨kept.hasTask_eq, kept⟩
  · intro id
    rcases records.tells_or_keepsVariable id with told | kept
    · exact .inl told
    · exact .inr ⟨kept.hasVariable_eq, kept⟩

/-- When a task is removed that another one depends on, the log tells about the one that is gone,
and the other one keeps what it had but for this dependency. -/
theorem applyPatch_logged_of_removal :
    let base : Plan := ⟨.str "t", [⟨"a", "", "", none, []⟩, ⟨"b", "", "", some ["a", "b"], []⟩], []⟩
    let final : Plan := ⟨.str "t", [⟨"b", "", "", some ["b"], []⟩], []⟩
    let log := ["TASK REMOVED: [a] dependents_updated=1"]
    applyPatch (.parsed base) [.raw (.obj [("op", .str "deleteTask"), ("taskId", .str "a")])] =
        .ok (.applied final log) ∧
      ∃ operations entries, base.Records operations final entries ∧ log = entries.reduceOption ∧
        ((∃ operation line, (operation, some line) ∈ operations.zip entries ∧
            LogEntry.Tells .task "b" line) ∨
          final.hasTask (.str "b") = base.hasTask (.str "b") ∧
            base.KeepsTask (fun d => operations.any (·.removesTask d)) final "b") := by
  intro base final log
  have loads : (PlanInput.parsed base).load = .ok base :=
    PlanInput.load_parsed ⟨by decide, by decide⟩
  have applied : applyPatch (.parsed base)
      [.raw (.obj [("op", .str "deleteTask"), ("taskId", .str "a")])] =
        .ok (.applied final log) := by
    dsimp only [base, final, log]
    rfl
  obtain ⟨-, operations, entries, -, records, same, tasks, -⟩ := applyPatch_logged loads applied
  exact ⟨applied, operations, entries, records, same, tasks "b"⟩

end PlanGraph
