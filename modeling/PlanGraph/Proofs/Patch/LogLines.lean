import PlanGraph.Proofs.Json.Shown
import PlanGraph.Proofs.Patch.Log
import PlanGraph.Proofs.Text.Feeds

/-!
# The lines of a log

The log of a patch is handed over as one text, its entries one under another. There is one entry for
each operation that asks for a change (`Operation.Performs.entry_eq_none_iff`). An entry shows the
titles, names and ids of its operation as they are (`Operation.quoted`), and it has the line feeds
that these have and no others (`Operation.Performs.feeds_eq`).

So the text has one line for each entry exactly if no text that is shown holds a line feed
(`applyPatch_lines`). A title with a line feed makes a line that no operation stands for
(`applied_on_two_lines`).
-/

namespace PlanGraph

open Text (feeds feedParts feeds_append)

/-! ## Line feeds of entries -/

/-- A value that is quoted has no line feeds. -/
theorem Json.feeds_inspect (value : Json) : feeds value.inspect = 0 := by
  rw [Text.feeds_eq_zero_iff, inspect, String.toList_ofList]
  exact value.feed_not_mem_shown

/-- A value in a message has the line feeds of the text that it is, and none if it is no text. -/
theorem Json.feeds_display (value : Json) :
    feeds value.display = (value.text?.toList.map feeds).sum := by
  cases value with
  | str text => simp [display, text?]
  | _ => exact feeds_inspect _

/-- A number is written without line feeds. -/
theorem Text.feeds_toString (n : Nat) : feeds (toString n) = 0 := by
  refine feeds_eq_zero_iff.mpr ?_
  have digits : (toString n).toList = Nat.toDigits 10 n := by simp [toString, Nat.repr]
  rw [digits]
  exact (inline_toDigits n).feed_not_mem

namespace Changes

/-- A name that may be listed has no line feeds if it is listed. -/
theorem sum_feeds_optional {name : String} (bare : feeds name = 0) (given : Bool) :
    ((if given = true then [name] else []).map feeds).sum = 0 := by
  cases given with
  | false => rfl
  | true => simpa using bare

/-- The names of the members of a task have no line feeds. -/
theorem feeds_taskFields (changes : Changes) :
    feeds (String.intercalate "," changes.taskFields) = 0 := by
  rw [Text.feeds_intercalate (by decide), taskFields]
  simp only [List.map_append, List.sum_append]
  rw [sum_feeds_optional (by decide), sum_feeds_optional (by decide),
    sum_feeds_optional (by decide), sum_feeds_optional (by decide)]

/-- The names of the members of a variable have no line feeds. -/
theorem feeds_variableFields (changes : Changes) :
    feeds (String.intercalate "," changes.variableFields) = 0 := by
  rw [Text.feeds_intercalate (by decide), variableFields]
  simp only [List.map_append, List.sum_append]
  rw [sum_feeds_optional (by decide), sum_feeds_optional (by decide),
    sum_feeds_optional (by decide), sum_feeds_optional (by decide),
    sum_feeds_optional (by decide), sum_feeds_optional (by decide)]

end Changes

namespace LogEntry

theorem feeds_titleUpdated (title : Json) :
    feeds (titleUpdated title) = (title.text?.toList.map feeds).sum := by
  have opening : feeds "TITLE UPDATED: \"" = 0 := by decide
  have closing : feeds "\"" = 0 := by decide
  unfold titleUpdated
  rw [feeds_append, feeds_append, opening, closing, title.feeds_display]
  omega

theorem feeds_taskAdded (task : Task) :
    feeds (taskAdded task) = feeds task.id + feeds task.title := by
  have opening : feeds "TASK ADDED: [" = 0 := by decide
  have middle : feeds "] title=\"" = 0 := by decide
  have closing : feeds "\"" = 0 := by decide
  unfold taskAdded
  rw [feeds_append, feeds_append, feeds_append, feeds_append, opening, middle, closing]
  omega

theorem feeds_taskModified (id : Json) (changes : Changes) :
    feeds (taskModified id changes.taskFields) = (id.text?.toList.map feeds).sum := by
  have opening : feeds "TASK MODIFIED: [" = 0 := by decide
  have middle : feeds "] fields=" = 0 := by decide
  unfold taskModified
  rw [feeds_append, feeds_append, feeds_append, opening, middle, changes.feeds_taskFields,
    id.feeds_display]
  omega

theorem feeds_taskRemoved (id : Json) (dependents : Nat) :
    feeds (taskRemoved id dependents) = (id.text?.toList.map feeds).sum := by
  have opening : feeds "TASK REMOVED: [" = 0 := by decide
  have middle : feeds "] dependents_updated=" = 0 := by decide
  unfold taskRemoved
  rw [feeds_append, feeds_append, feeds_append, opening, middle, Text.feeds_toString,
    id.feeds_display]
  omega

theorem feeds_variableAdded (input : Variable) :
    feeds (variableAdded input) = feeds input.variableId + feeds input.name := by
  have opening : feeds "VARIABLE ADDED: [" = 0 := by decide
  have middle : feeds "] name=\"" = 0 := by decide
  have closing : feeds "\"" = 0 := by decide
  unfold variableAdded
  rw [feeds_append, feeds_append, feeds_append, feeds_append, opening, middle, closing]
  omega

theorem feeds_variableModified (id : Json) (changes : Changes) :
    feeds (variableModified id changes.variableFields) = (id.text?.toList.map feeds).sum := by
  have opening : feeds "VARIABLE MODIFIED: [" = 0 := by decide
  have middle : feeds "] fields=" = 0 := by decide
  unfold variableModified
  rw [feeds_append, feeds_append, feeds_append, opening, middle, changes.feeds_variableFields,
    id.feeds_display]
  omega

theorem feeds_variableRemoved (id : Json) :
    feeds (variableRemoved id) = (id.text?.toList.map feeds).sum := by
  have opening : feeds "VARIABLE REMOVED: [" = 0 := by decide
  have closing : feeds "]" = 0 := by decide
  unfold variableRemoved
  rw [feeds_append, feeds_append, opening, closing, id.feeds_display]
  omega

end LogEntry

/-! ## One operation -/

namespace Operation

/-- The operation asks for no change: it gives no title, or no member of what it works on. -/
def idle : Operation → Bool
  | updateTitle title => title.isNone
  | updateTask _ changes => changes.taskFields.isEmpty
  | updateVariable _ changes => changes.variableFields.isEmpty
  | _ => false

/-- The texts that the entry of an operation shows as they are. -/
def quoted : Operation → List String
  | updateTitle title => (title.bind Json.text?).toList
  | createTask body =>
    match taskBody body with
    | .ok task => [task.id, task.title]
    | .error _ => []
  | updateTask id _ => id.text?.toList
  | deleteTask id => id.text?.toList
  | createVariable body =>
    match variableBody body with
    | .ok input => [input.variableId, input.name]
    | .error _ => []
  | updateVariable id _ => id.text?.toList
  | deleteVariable id => id.text?.toList

namespace Performs

variable {operation : Operation} {plan next : Plan} {entry : Option String} {line : String}

/-- An operation leaves an entry exactly if it asks for a change. -/
theorem entry_eq_none_iff (h : operation.Performs plan next entry) :
    entry = none ↔ operation.idle = true := by
  cases h with
  | keepTitle => simp [idle]
  | keepTask known idle' => simp [idle, idle']
  | changeTask known given => simp [idle, given]
  | keepVariable found idle' => simp [idle, idle']
  | changeVariable found given typed => simp [idle, given]
  | _ => simp [idle]

/-- An entry has the line feeds of the texts that it shows. -/
theorem feeds_eq (h : operation.Performs plan next (some line)) :
    feeds line = (operation.quoted.map feeds).sum := by
  cases h with
  | setTitle => exact LogEntry.feeds_titleUpdated _
  | addTask read named free => simp [quoted, read, LogEntry.feeds_taskAdded]
  | changeTask => exact LogEntry.feeds_taskModified _ _
  | removeTask => exact LogEntry.feeds_taskRemoved _ _
  | addVariable read free => simp [quoted, read, LogEntry.feeds_variableAdded]
  | changeVariable => exact LogEntry.feeds_variableModified _ _
  | removeVariable => exact LogEntry.feeds_variableRemoved _

end Performs

end Operation

/-! ## Operations one after another -/

namespace Plan.Records

variable {plan final : Plan} {operations : List Operation} {entries : List (Option String)}

/-- Each operation leaves an entry exactly if it asks for a change. -/
theorem entries_eq_none_iff (h : plan.Records operations final entries) :
    List.Forall₂ (fun operation entry => entry = none ↔ operation.idle = true)
      operations entries := by
  induction h with
  | nil => exact .nil
  | cons first _ ih => exact .cons first.entry_eq_none_iff ih

/-- The log has one entry for each operation that asks for a change. -/
theorem length_log (h : plan.Records operations final entries) :
    entries.reduceOption.length = (operations.filter (!·.idle)).length := by
  induction h with
  | nil => rfl
  | @cons _ _ _ operation _ entry _ first _ ih =>
      rcases entry with _ | line
      · have idle : operation.idle = true := first.entry_eq_none_iff.mp rfl
        rw [List.reduceOption_cons_of_none, List.filter_cons_of_neg (by simp [idle]), ih]
      · have busy : operation.idle ≠ true := fun idle => nomatch first.entry_eq_none_iff.mpr idle
        rw [List.reduceOption_cons_of_some, List.filter_cons_of_pos (by simp [busy]),
          List.length_cons, List.length_cons, ih]

/-- The log has the line feeds of the texts that its entries show. -/
theorem sum_feeds (h : plan.Records operations final entries) :
    (entries.reduceOption.map feeds).sum =
      (((operations.filter (!·.idle)).flatMap Operation.quoted).map feeds).sum := by
  induction h with
  | nil => rfl
  | @cons _ _ _ operation _ entry _ first _ ih =>
      rcases entry with _ | line
      · have idle : operation.idle = true := first.entry_eq_none_iff.mp rfl
        rw [List.reduceOption_cons_of_none, List.filter_cons_of_neg (by simp [idle]), ih]
      · have busy : operation.idle ≠ true := fun idle => nomatch first.entry_eq_none_iff.mpr idle
        rw [List.reduceOption_cons_of_some, List.filter_cons_of_pos (by simp [busy]),
          List.flatMap_cons, List.map_append, List.sum_append, List.map_cons, List.sum_cons, ih,
          first.feeds_eq]

end Plan.Records

/-! ## Patches -/

/-- A log that is not empty is handed over with its entries one under another. -/
theorem PatchResult.feedParts_diff {final : Plan} {log : List String} (nonempty : log ≠ []) :
    feedParts (applied final log).diff = log.flatMap feedParts := by
  rcases log with _ | ⟨line, more⟩
  · exact absurd rfl nonempty
  · exact Text.feedParts_intercalate nonempty

/-- **The lines of a log.** Take a patch that is applied. Each of its operations leaves an entry
exactly if it asks for a change, and the log holds these entries in their order. If there are any,
the text of the log comes apart at its line feeds into the parts of each entry in turn.

* There is a line for each entry, and one more for each line feed in a title, a name or an id that
  an entry shows.
* So the lines are the entries exactly if no such title, name or id holds a line feed. -/
theorem applyPatch_lines {input : PlanInput} {steps : List PatchStep} {final : Plan}
    {log : List String} (applied : applyPatch input steps = .ok (.applied final log)) :
    ∃ base operations entries, input.load = .ok base ∧
      List.Forall₂ (fun step operation => step.operation = .ok operation) steps operations ∧
      base.Records operations final entries ∧
      List.Forall₂ (fun operation entry => entry = none ↔ operation.idle = true)
        operations entries ∧
      log = entries.reduceOption ∧ log.length = (operations.filter (!·.idle)).length ∧
      (log ≠ [] →
        feedParts (PatchResult.applied final log).diff = log.flatMap feedParts ∧
        (feedParts (PatchResult.applied final log).diff).length = log.length +
          (((operations.filter (!·.idle)).flatMap Operation.quoted).map feeds).sum ∧
        (feedParts (PatchResult.applied final log).diff = log ↔
          ∀ operation ∈ operations, operation.idle = false →
            ∀ text ∈ operation.quoted, '\n' ∉ text.toList)) := by
  obtain ⟨base, loads, run⟩ := applyPatch_eq_applied_iff.mp applied
  obtain ⟨operations, added, reads, effects, rfl⟩ := Plan.runSteps_eq_ok_iff.mp run
  obtain ⟨entries, records, rfl⟩ := Plan.undergoes_iff_records.mp effects
  refine ⟨base, operations, entries, loads, reads, records, records.entries_eq_none_iff, rfl,
    records.length_log, ?_⟩
  intro nonempty
  have parts : feedParts (PatchResult.applied final entries.reduceOption).diff = _ :=
    PatchResult.feedParts_diff nonempty
  refine ⟨parts, ?_, ?_⟩
  · rw [parts, Text.length_flatMap_feedParts, records.sum_feeds]
  · rw [parts, Text.flatMap_feedParts_eq_self_iff, records.sum_feeds,
      List.sum_eq_zero_iff_forall_eq_nat]
    simp only [List.forall_mem_map, List.mem_flatMap, List.mem_filter, Text.feeds_eq_zero_iff,
      Bool.not_eq_true']
    constructor
    · intro bare operation listed busy text shown
      exact bare text ⟨operation, ⟨listed, busy⟩, shown⟩
    · rintro bare text ⟨operation, ⟨listed, busy⟩, shown⟩
      exact bare operation listed busy text shown

/-- A task is added, nothing is changed about it, and it is removed: the log has two lines. -/
theorem applyPatch_lines_of_three :
    let operations : List Operation := [.createTask (.checked ⟨"a", "t", "", none, []⟩),
      .updateTask (.str "a") .none, .deleteTask (.str "a")]
    let log := ["TASK ADDED: [a] title=\"t\"", "TASK REMOVED: [a] dependents_updated=0"]
    applyPatch (.raw (.obj [])) (operations.map .ready) = .ok (.applied ⟨.str "", [], []⟩ log) ∧
      feedParts (PatchResult.applied ⟨.str "", [], []⟩ log).diff = log := by
  intro operations log
  have applied : applyPatch (.raw (.obj [])) (operations.map .ready) =
      .ok (.applied ⟨.str "", [], []⟩ log) := rfl
  obtain ⟨base, others, entries, -, reads, -, -, -, -, lines⟩ := applyPatch_lines applied
  have read : List.Forall₂ Eq operations others :=
    (List.forall₂_map_left_iff.mp reads).imp fun _ _ same => Except.ok.inj same
  obtain rfl : operations = others := List.forall₂_eq_eq_eq ▸ read
  obtain ⟨-, -, bare⟩ := lines (List.cons_ne_nil _ _)
  refine ⟨applied, bare.mpr ?_⟩
  dsimp only [operations]
  decide

/-- A title with a line feed makes two lines of the one entry that tells about it, and the second
one reads as part of an entry about a task that was never there. -/
theorem applied_on_two_lines :
    let title := "a\nTASK REMOVED: [b] dependents_updated=0"
    let patch : Json := .obj [("op", .str "updateTitle"), ("title", .str title)]
    let log := [LogEntry.titleUpdated (.str title)]
    applyPatch (.raw (.obj [])) [.raw patch] = .ok (.applied ⟨.str title, [], []⟩ log) ∧
      feedParts (PatchResult.applied ⟨.str title, [], []⟩ log).diff =
        ["TITLE UPDATED: \"a", "TASK REMOVED: [b] dependents_updated=0\""] ∧
      feedParts (PatchResult.applied ⟨.str title, [], []⟩ log).diff ≠ log := by
  intro title patch log
  exact ⟨rfl, by decide, by decide⟩

end PlanGraph
