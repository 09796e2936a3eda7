import PlanGraph.Proofs.Checked
import PlanGraph.Proofs.Compile.Queries

/-!
# Every value compiles

Compiling has no requirement on the content of a plan. Whatever a value holds where a plan is
expected, it compiles on an empty canvas, and each entry of its list of tasks, of whatever shape,
becomes one node (`Compilation.compile_total`). What a node shows of an entry is `Node.Depicts`;
entries without dependencies come first (`entriesInOrder`), as tasks do in the order of processing
(`Compilation.forall₂_ordered`).
-/

namespace PlanGraph

/-! ## Entries of a list of tasks -/

namespace Json

/-- No text is among the dependencies of an entry. The spelling that is written hides the other
one. -/
def isRootEntry (entry : Json) : Bool :=
  match (entry.get? "dependentTasks").or (entry.get? "dependent_tasks") with
  | some (.arr items) => items.all fun item => item.text?.isNone
  | _ => true

end Json

/-- The entries of a list of tasks, those without dependencies first. -/
def entriesInOrder (entries : List Json) : List Json :=
  entries.filter Json.isRootEntry ++ entries.filter fun entry => !entry.isRootEntry

/-- No entry is lost or repeated. -/
theorem entriesInOrder_perm (entries : List Json) : (entriesInOrder entries).Perm entries :=
  List.filter_append_perm Json.isRootEntry entries

namespace Outline

/-- The dependencies of an entry are read under the spelling that is written, or else under the
other one. -/
theorem dependencies_ofJson (entry : Json) :
    (ofJson entry).dependencies =
      textsOf ((entry.get? "dependentTasks").or (entry.get? "dependent_tasks")) := by
  cases entry with
  | obj members =>
      change textsOf (Key.dependentTasks.value? members) = _
      rw [Key.value?_eq_or]
      rfl
  | _ => rfl

/-- An outline depends on nothing when no text is among the dependencies of its entry. -/
theorem isRoot_ofJson (entry : Json) :
    isRoot Outline.dependencies (ofJson entry) = entry.isRootEntry := by
  rw [isRoot, dependencies_ofJson, Json.isRootEntry]
  rcases (entry.get? "dependentTasks").or (entry.get? "dependent_tasks") with _ | value
  · rfl
  · cases value with
    | arr items =>
        rw [Bool.eq_iff_iff]
        simp [textsOf, List.isEmpty_iff, List.filterMap_eq_nil_iff]
    | _ => rfl

end Outline

/-! ## What a node shows -/

/-- A node shows the entry that has a number among all entries, with the symbols of all tasks. -/
structure Node.Depicts (symbols : List (String × String)) (autoLayout : Bool) (index : Nat)
    (entry : Json) (node : Node) : Prop where
  /-- It is the node of a task. -/
  type : node.type = .str "skillResponse"
  /-- Its title is the title of the entry, empty where that is no text. -/
  title : node.data.get? "title" = some (.str (Outline.textOf (entry.get? "title")))
  /-- The title that is edited starts out the same. -/
  editedTitle : node.data.get? "editedTitle" = some (.str (Outline.textOf (entry.get? "title")))
  /-- Its query is the prompt of the entry, resolved; empty where that is no text. -/
  query : node.query? =
    some (.str (resolveMentions (Outline.textOf (entry.get? "prompt")) symbols))
  /-- It was not run yet. -/
  status : (node.data.get? "metadata" >>= Json.get? "status") = some (.str "init")
  /-- It stands in the column, unless positions are left to the layout. -/
  position : autoLayout = false →
    node.position = some (.obj [("x", .int 0), ("y", .int (240 * index))])

/-- Items at the same place of two lists that agree place by place agree. -/
theorem getElem?_of_forall₂ {α β : Type} {R : α → β → Prop} {as : List α} {bs : List β}
    (h : List.Forall₂ R as bs) {place : Nat} {a : α} {b : β} (ha : as[place]? = some a)
    (hb : bs[place]? = some b) : R a b := by
  obtain ⟨inside, rfl⟩ := List.getElem?_eq_some_iff.mp ha
  obtain ⟨inside', rfl⟩ := List.getElem?_eq_some_iff.mp hb
  exact h.get inside inside'

namespace Compilation

/-- The tasks in the order of processing are the entries in their order, each with an id. -/
theorem forall₂_ordered (entries : List Json) (supply : Supply) :
    List.Forall₂ (fun entry task => task.1 = { Outline.ofJson entry with id := task.1.id })
      (entriesInOrder entries)
      (ordered (identified (entries.map Outline.ofJson) supply).1) := by
  have each := Outline.identifyAll_forall₂ (entries.map Outline.ofJson) supply
  rw [List.forall₂_map_left_iff, ← List.zipIdx_map_fst 0 (Outline.identifyAll _ supply).1,
    List.forall₂_map_right_iff] at each
  have root : ∀ {entry : Json} {task : Outline × Nat},
      task.1 = { Outline.ofJson entry with id := task.1.id } →
      isRoot (fun task : Outline × Nat => task.1.dependencies) task = entry.isRootEntry := by
    intro entry task same
    rw [← Outline.isRoot_ofJson, isRoot, isRoot, same]
  refine List.rel_append (List.rel_filter ?_ each) (List.rel_filter ?_ each)
  · intro entry task same
    change entry.isRootEntry = true ↔ isRoot _ task = true
    rw [root same]
  · intro entry task same
    change (!entry.isRootEntry) = true ↔ (!isRoot _ task) = true
    rw [root same]

namespace Run

variable {outlines : List Outline} {toolsets : ToolsetSource} {options : CompileOptions}
  {supply : Supply} (run : Run Grid.layout outlines toolsets options supply)

/-- Where positions are not left to the layout, nodes stand in the column. -/
theorem position_eq (column : options.autoLayout = false) {count : Nat} {task : PlacedTask}
    (found : run.placed[count]? = some task) :
    task.node.position = some (Sketch.stacked count) := by
  obtain ⟨spot, settles, made⟩ := run.settled found
  obtain ⟨request, -⟩ := run.places.answers found
  have stacked : Grid.position task.request = .ok (Sketch.stacked count) := by
    rw [request, Nat.zero_add]
    exact Grid.position_of_column column _ _ _
  rw [stacked] at settles
  rw [made, Except.ok.inj settles]
  rfl

/-- The node with a number shows the entry whose outline the task with that number has. -/
theorem depicts {count : Nat} {task : PlacedTask} {entry : Json}
    (found : run.placed[count]? = some task)
    (same : task.sketch.outline = { Outline.ofJson entry with id := task.sketch.outline.id }) :
    task.node.Depicts run.setting.symbols options.autoLayout count entry := by
  obtain ⟨spot, -, made⟩ := run.settled found
  have title : Outline.textOf (entry.get? "title") = task.sketch.outline.title := by rw [same]; rfl
  have prompt : Outline.textOf (entry.get? "prompt") = task.sketch.outline.prompt := by
    rw [same]
    rfl
  constructor
  · rw [made]
    rfl
  · rw [made, title]
    rfl
  · rw [made, title]
    rfl
  · rw [made, prompt]
    rfl
  · rw [made]
    rfl
  · intro column
    rw [run.position_eq column found, Int.mul_comm]
    rfl

end Run

/-- A list of toolsets, or none, can be read. -/
theorem exists_entries (offered : Option (List Json)) :
    ∃ entries, (ToolsetSource.raw (offered.elim .null .arr)).entries = .ok entries := by
  rcases offered with _ | _ | ⟨first, more⟩
  · exact ⟨_, rfl⟩
  · exact ⟨_, rfl⟩
  · exact ⟨_, rfl⟩

/-- The tasks of a value are the entries of its list. -/
theorem outlines_of_tasks {value : Json} {entries : List Json}
    (listed : value.get? "tasks" = some (.arr entries)) :
    (PlanInput.raw value).outlines = entries.map Outline.ofJson := by
  rw [PlanInput.outlines, Json.itemsOf, listed]

/-- A value has no tasks where it has no list of them that holds something. -/
theorem outlines_eq_nil {value : Json}
    (idle : ∀ entries, value.get? "tasks" = some (.arr entries) → entries = []) :
    (PlanInput.raw value).outlines = [] := by
  rw [PlanInput.outlines, Json.itemsOf, List.map_eq_nil_iff]
  split
  · rename_i entries listed
    exact idle entries listed
  · rfl

/-- **Every value compiles.** Whatever value stands for a plan, with any list of toolsets or none,
any model and either way to position nodes, compiling onto an empty canvas returns. Without a list
of tasks that holds something, the canvas is empty. Otherwise it has one node for each entry of the
list, those without dependencies first, which shows that entry with the symbols of all tasks. -/
theorem compile_total (value : Json) (offered : Option (List Json)) (model : Json)
    (autoLayout : Bool) (supply : Supply) :
    ∃ canvas rest,
      (compile (.raw value) (.raw (offered.elim .null .arr)) ⟨autoLayout, model, .arr []⟩).Returns
        supply canvas rest ∧
      ((∀ entries, value.get? "tasks" = some (.arr entries) → entries = []) →
        canvas = .empty) ∧
      ∀ entries, value.get? "tasks" = some (.arr entries) → entries ≠ [] →
        canvas.nodes.length = entries.length ∧
        ∃ symbols, SymbolTable (taskIds (entries.map Outline.ofJson) supply) canvas.nodes symbols ∧
          ∀ (index : Nat) (entry : Json) (node : Node),
            (entriesInOrder entries)[index]? = some entry → canvas.nodes[index]? = some node →
            node.Depicts symbols autoLayout index entry := by
  obtain ⟨toolsets, readable⟩ := exists_entries offered
  have bare : (CompileOptions.mk autoLayout model (.arr [])).startNodes = .arr [] := rfl
  obtain ⟨canvas, rest, returned⟩ := exists_canvas readable bare (.raw value) supply
  refine ⟨canvas, rest, returned, ?_, ?_⟩
  · intro idle
    rcases compile_returns_iff.mp returned with ⟨-, made, -⟩ | ⟨busy, -⟩
    · exact made.symm
    · exact absurd (outlines_eq_nil idle) busy
  · intro entries listed filled
    rcases compile_returns_iff.mp returned with ⟨idle, -⟩ | ⟨-, run, rfl, -⟩
    · rw [outlines_of_tasks listed, List.map_eq_nil_iff] at idle
      exact absurd idle filled
    · have tasks := forall₂_ordered entries supply
      rw [← outlines_of_tasks listed, ← run.map_entry] at tasks
      refine ⟨?_, run.setting.symbols, ?_, ?_⟩
      · change (run.placed.map PlacedTask.node).length = _
        rw [← (entriesInOrder_perm entries).length_eq, tasks.length_eq, List.length_map,
          List.length_map]
      · rw [← outlines_of_tasks listed]
        exact run.symbolTable
      · intro index entry node here placed
        change (run.placed.map PlacedTask.node)[index]? = _ at placed
        rw [List.getElem?_map, Option.map_eq_some_iff] at placed
        obtain ⟨task, found, rfl⟩ := placed
        have shown : (run.placed.map PlacedTask.entry)[index]? = some task.entry := by
          rw [List.getElem?_map, found, Option.map_some]
        exact run.depicts found (getElem?_of_forall₂ tasks here shown)

/-- Of four entries one is null, one is an array, one hides its dependency behind a null, and the
first one in the list is the only one that depends on something. -/
theorem compile_total_of_four :
    let value : Json := .obj [("title", .int 5), ("tasks", .arr [
      .obj [("id", .bool true), ("title", .str "late"),
        ("dependentTasks", .arr [.int 1, .str "x"])],
      .null, .arr [.str "a"],
      .obj [("title", .str "early"), ("prompt", .int 3), ("dependentTasks", .null),
        ("dependent_tasks", .arr [.str "x"])]])]
    ∃ canvas rest,
      (compile (.raw value) (.raw (.arr [.null])) ⟨false, .int 1, .arr []⟩).Returns Supply.counting
        canvas rest ∧
      canvas.nodes.map (fun node => (node.data.get? "title", node.position)) =
        [(some (.str ""), some (.obj [("x", .int 0), ("y", .int 0)])),
          (some (.str ""), some (.obj [("x", .int 0), ("y", .int 240)])),
          (some (.str "early"), some (.obj [("x", .int 0), ("y", .int 480)])),
          (some (.str "late"), some (.obj [("x", .int 0), ("y", .int 720)]))] := by
  intro value
  obtain ⟨canvas, rest, returned, -, tasks⟩ :=
    compile_total value (some [.null]) (.int 1) false Supply.counting
  obtain ⟨count, symbols, -, shown⟩ := tasks _ rfl (List.cons_ne_nil _ _)
  refine ⟨canvas, rest, returned, ?_⟩
  have four : canvas.nodes.length = 4 := count
  rcases nodes : canvas.nodes with _ | ⟨a, _ | ⟨b, _ | ⟨c, _ | ⟨d, _ | ⟨_, _⟩⟩⟩⟩⟩
  all_goals rw [nodes] at four
  case cons.cons.cons.cons.nil =>
    have first := shown 0 _ a rfl (by rw [nodes]; rfl)
    have second := shown 1 _ b rfl (by rw [nodes]; rfl)
    have third := shown 2 _ c rfl (by rw [nodes]; rfl)
    have last := shown 3 _ d rfl (by rw [nodes]; rfl)
    simp only [List.map_cons, List.map_nil, first.title, second.title, third.title, last.title,
      first.position, second.position, third.position, last.position]
    rfl
  all_goals simp at four

end Compilation

end PlanGraph
