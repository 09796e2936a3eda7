import Mathlib.Data.List.Pairwise
import PlanGraph.Proofs.Checked
import PlanGraph.Proofs.Compile.Reordering

/-!
# Toolsets in any order

What a name selects is said without the order in which toolsets are offered (`Toolset.Selects`): the
toolset with that id, or else the one with that key, or else none. Selecting always gives such a
toolset (`Toolset.selects_select?`). Where no two toolsets share an id and no two share a key, there
is no choice (`Toolset.Selects.unique`), so a plan compiles to the same graph from the toolsets in
any order, and each node carries what the names of its task select
(`Compilation.toolsets_of_compile`). An id may well be the key of another toolset: ids come first,
wherever that other one stands.
-/

namespace PlanGraph

namespace Toolset

/-! ## What a name selects -/

/-- The id of what is offered as a toolset, if it has one that is a text. -/
def id? (entry : Json) : Option String :=
  entry.get? "id" >>= Json.text?

/-- The key of what it stands for, if there is one that is a text. -/
def key? (entry : Json) : Option String :=
  entry.get? "toolset" >>= Json.get? "key" >>= Json.text?

/-- What a name selects among the toolsets that are offered, as a list of at most one. -/
inductive Selects (offered : List Json) (name : String) : List Json → Prop where
  /-- A toolset with that id. -/
  | named {entry : Json} (listed : entry ∈ offered) (id : id? entry = some name) :
      Selects offered name [entry]
  /-- A toolset with that key, where none has that id. -/
  | keyed {entry : Json} (unnamed : ∀ other ∈ offered, id? other ≠ some name)
      (listed : entry ∈ offered) (key : key? entry = some name) : Selects offered name [entry]
  /-- Nothing, where none has that id or that key. -/
  | nothing (unnamed : ∀ other ∈ offered, id? other ≠ some name)
      (unkeyed : ∀ other ∈ offered, key? other ≠ some name) : Selects offered name []

section

variable {offered offered' picked picked' : List Json} {entry : Json} {name : String}

/-- A text is found where a value is that text. -/
theorem beq_text_iff {value? : Option Json} :
    (value? == some (.str name)) = true ↔ value? >>= Json.text? = some name := by
  rcases value? with _ | value
  · simp
  · simpa using Json.text?_eq_some_iff.symm

theorem hasId_iff : hasId name entry = true ↔ id? entry = some name :=
  beq_text_iff

theorem hasKey_iff : hasKey name entry = true ↔ key? entry = some name :=
  beq_text_iff

/-- Only objects have an id. -/
theorem isObject_of_id (h : id? entry = some name) : entry.isObject = true := by
  cases entry with
  | obj members => rfl
  | _ => cases h

/-- Only objects have a key. -/
theorem isObject_of_key (h : key? entry = some name) : entry.isObject = true := by
  cases entry with
  | obj members => rfl
  | _ => cases h

/-- What is selected is selected by id, or else by key. -/
theorem selects_select? (entries : List Json) (name : String) :
    Selects entries name (select? entries name).toList := by
  unfold select?
  rcases byId : entries.find? (hasId name) with _ | entry
  · have unnamed : ∀ other ∈ entries, id? other ≠ some name := fun other listed id =>
      List.find?_eq_none.mp byId other listed (hasId_iff.mpr id)
    rcases byKey : entries.find? (hasKey name) with _ | entry
    · exact .nothing unnamed fun other listed key =>
        List.find?_eq_none.mp byKey other listed (hasKey_iff.mpr key)
    · exact .keyed unnamed (List.mem_of_find?_eq_some byKey)
        (hasKey_iff.mp (List.find?_some byKey))
  · exact .named (List.mem_of_find?_eq_some byId) (hasId_iff.mp (List.find?_some byId))

/-- It makes no difference in which order toolsets are offered, and what else is among them. -/
theorem Selects.congr (same : ∀ entry : Json, entry.isObject = true →
      (entry ∈ offered ↔ entry ∈ offered')) (h : Selects offered name picked) :
    Selects offered' name picked := by
  have unnamed' (unnamed : ∀ other ∈ offered, id? other ≠ some name) :
      ∀ other ∈ offered', id? other ≠ some name := fun other listed id =>
    unnamed other ((same other (isObject_of_id id)).mpr listed) id
  cases h with
  | named listed id => exact .named ((same _ (isObject_of_id id)).mp listed) id
  | keyed unnamed listed key =>
      exact .keyed (unnamed' unnamed) ((same _ (isObject_of_key key)).mp listed) key
  | nothing unnamed unkeyed =>
      exact .nothing (unnamed' unnamed) fun other listed key =>
        unkeyed other ((same other (isObject_of_key key)).mpr listed) key

/-- Where no two items have the same key, an item is told by its key. -/
theorem eq_of_nodup_filterMap {α β : Type} {key : α → Option β} {items : List α}
    (distinct : (items.filterMap key).Nodup) {a b : α} {found : β} (ha : a ∈ items)
    (hb : b ∈ items) (keyA : key a = some found) (keyB : key b = some found) : a = b := by
  rw [List.Nodup, List.pairwise_filterMap] at distinct
  by_contra apart
  have symmetric : Std.Symm fun x y => ∀ c, key x = some c → ∀ d, key y = some d → c ≠ d :=
    ⟨fun x y differ c hc d hd => (differ d hd c hc).symm⟩
  exact distinct.forall ha hb apart found keyA found keyB rfl

/-- Where no two toolsets share an id and no two share a key, a name selects one thing. -/
theorem Selects.unique (ids : (offered.filterMap id?).Nodup) (keys : (offered.filterMap key?).Nodup)
    (h : Selects offered name picked) (h' : Selects offered name picked') : picked = picked' := by
  cases h with
  | named listed id =>
      cases h' with
      | named listed' id' => rw [eq_of_nodup_filterMap ids listed listed' id id']
      | keyed unnamed _ _ => exact absurd id (unnamed _ listed)
      | nothing unnamed _ => exact absurd id (unnamed _ listed)
  | keyed unnamed listed key =>
      cases h' with
      | named listed' id => exact absurd id (unnamed _ listed')
      | keyed _ listed' key' => rw [eq_of_nodup_filterMap keys listed listed' key key']
      | nothing _ unkeyed => exact absurd key (unkeyed _ listed)
  | nothing unnamed unkeyed =>
      cases h' with
      | named listed id => exact absurd id (unnamed _ listed)
      | keyed _ listed key => exact absurd key (unkeyed _ listed)
      | nothing _ _ => rfl

end

end Toolset

/-! ## Runs that select alike -/

/-- The objects among the items of an array are offered. -/
theorem ToolsetSource.entries_arr (items : List Json) :
    (raw (.arr items)).entries = .ok (items.filter Json.isObject) := by
  cases items <;> rfl

/-- A node carries the toolsets that the names of its task select. -/
def Toolset.Carried (offered : List Json) (task : Outline × Nat) (node : Node) : Prop :=
  ∃ picked, List.Forall₂ (Selects offered) task.1.toolsets picked ∧
    node.metadata? "selectedToolsets" = some (.arr picked.flatten)

namespace Compilation

section

variable {entries entries' : List Json}

/-- What the layout is asked depends on the toolsets only through what names select. -/
theorem request_congr (same : ∀ name, Toolset.select? entries name = Toolset.select? entries' name)
    (symbols : List (String × String)) (model : Json) (autoLayout : Bool) (nodes : List Node)
    (index : Nat) (sketch : Sketch) :
    sketch.request ⟨symbols, entries, model, autoLayout⟩ nodes index =
      sketch.request ⟨symbols, entries', model, autoLayout⟩ nodes index := by
  have selects : Toolset.select? entries = Toolset.select? entries' := funext same
  simp only [Sketch.request, Sketch.node, Sketch.payload, Sketch.metadata, Toolset.select, selects]
  rfl

/-- So does what becomes of the tasks, whatever the layout. -/
theorem place_congr (same : ∀ name, Toolset.select? entries name = Toolset.select? entries' name)
    (layout : Layout) (symbols : List (String × String)) (model : Json) (autoLayout : Bool)
    (nodes : List Node) (index : Nat) (sketches : List Sketch) :
    place layout ⟨symbols, entries, model, autoLayout⟩ nodes index sketches =
      place layout ⟨symbols, entries', model, autoLayout⟩ nodes index sketches := by
  induction sketches generalizing nodes index with
  | nil => rfl
  | cons sketch rest ih =>
      simp only [place, request_congr same, ih]

/-- Toolsets that are selected alike compile alike. -/
theorem ofPlan_congr {toolsets toolsets' : ToolsetSource} (reads : toolsets.entries = .ok entries)
    (reads' : toolsets'.entries = .ok entries')
    (same : ∀ name, Toolset.select? entries name = Toolset.select? entries' name)
    (layout : Layout) (input : PlanInput) (options : CompileOptions) :
    ofPlan layout input toolsets options = ofPlan layout input toolsets' options := by
  unfold ofPlan
  split
  · rfl
  · simp only [ofOutlines, reads, reads', Making.ofExcept, pure_bind, place_congr same]

end

section

variable {layout : Layout} {outlines : List Outline} {toolsets : ToolsetSource}
  {options : CompileOptions} {supply : Supply}

/-- A node with the payload of its task carries what the names of the task select. -/
theorem Run.carried (run : Run layout outlines toolsets options supply) (shown : PlacedTask → Node)
    (payload : ∀ task ∈ run.placed, (shown task).data = task.sketch.payload run.setting) :
    List.Forall₂ (Toolset.Carried run.entries) (ordered (identified outlines supply).1)
      (run.placed.map shown) := by
  rw [← run.map_entry, List.forall₂_map_left_iff, List.forall₂_map_right_iff, List.forall₂_same]
  intro task listed
  refine ⟨task.entry.1.toolsets.map fun name =>
    (Toolset.select? run.entries name).toList, ?_, ?_⟩
  · rw [List.forall₂_map_right_iff, List.forall₂_same]
    exact fun name _ => Toolset.selects_select? _ name
  · rw [← List.flatMap_def, ← List.filterMap_eq_flatMap_toList, Node.metadata?,
      payload task listed]
    rfl

/-- The node that the layout is asked about has the payload of its task. -/
theorem Run.data_request (run : Run layout outlines toolsets options supply) {task : PlacedTask}
    (listed : task ∈ run.placed) : task.request.node.data = task.sketch.payload run.setting := by
  obtain ⟨count, found⟩ := List.getElem?_of_mem listed
  obtain ⟨request, -⟩ := run.places.answers found
  rw [request]
  rfl

/-- The grid keeps the payload. -/
theorem Run.data_node (run : Run Grid.layout outlines toolsets options supply) {task : PlacedTask}
    (listed : task ∈ run.placed) : task.node.data = task.sketch.payload run.setting := by
  obtain ⟨count, found⟩ := List.getElem?_of_mem listed
  obtain ⟨spot, -, made⟩ := run.settled found
  rw [made]
  rfl

end

/-- **Toolsets in any order.** Among the items of an array, let no two objects share an id that is
a text, and no two share a key that is one. From the same objects in any other order, with anything
else between them, every plan compiles as it did before, whatever the layout. Each node that the
layout is asked about, and each node on the grid, carries what the names of its task select, name by
name: the toolset with that id, or else the one with that key, or else nothing. -/
theorem toolsets_of_compile {offered offered' : List Json}
    (ids : (offered.filterMap Toolset.id?).Nodup) (keys : (offered.filterMap Toolset.key?).Nodup)
    (same : (offered'.filter Json.isObject).Perm (offered.filter Json.isObject))
    (input : PlanInput) (options : CompileOptions) :
    (∀ layout, ofPlan layout input (.raw (.arr offered')) options =
      ofPlan layout input (.raw (.arr offered)) options) ∧
    ∀ supply : Supply,
      (∀ layout compilation rest,
        (ofPlan layout input (.raw (.arr offered)) options).Returns supply compilation rest →
        List.Forall₂ (Toolset.Carried offered)
          (ordered (Outline.identifyAll input.outlines supply).1)
          (compilation.requests.map Placing.node)) ∧
      ∀ canvas rest, (compile input (.raw (.arr offered)) options).Returns supply canvas rest →
        List.Forall₂ (Toolset.Carried offered)
          (ordered (Outline.identifyAll input.outlines supply).1) canvas.nodes := by
  have reads := ToolsetSource.entries_arr
  have objects : ∀ entry : Json, entry.isObject = true →
      (entry ∈ offered.filter Json.isObject ↔ entry ∈ offered) := by
    intro entry object
    rw [List.mem_filter, and_iff_left object]
  have objects' : ∀ entry : Json, entry.isObject = true →
      (entry ∈ offered'.filter Json.isObject ↔ entry ∈ offered) := fun entry object =>
    same.mem_iff.trans (objects entry object)
  have selects : ∀ name, Toolset.select? (offered'.filter Json.isObject) name =
      Toolset.select? (offered.filter Json.isObject) name := by
    intro name
    have first := (Toolset.selects_select? _ name).congr objects
    have second := (Toolset.selects_select? _ name).congr objects'
    refine Option.ext fun entry => ?_
    rw [← Option.mem_toList, ← Option.mem_toList, second.unique ids keys first]
  refine ⟨fun layout => ofPlan_congr (reads _) (reads _) selects layout input options, ?_⟩
  intro supply
  have carried : ∀ {task : Outline × Nat} {node : Node},
      Toolset.Carried (offered.filter Json.isObject) task node →
        Toolset.Carried offered task node := by
    rintro task node ⟨picked, selected, shown⟩
    exact ⟨picked, selected.imp fun _ _ h => h.congr objects, shown⟩
  have entries : ∀ {layout : Layout} (run : Run layout input.outlines (.raw (.arr offered)) options
      supply), run.entries = offered.filter Json.isObject := fun run =>
    Except.ok.inj (run.entries_eq.symm.trans (reads offered))
  constructor
  · intro layout compilation rest returned
    rcases ofPlan_returns_iff.mp returned with ⟨idle, rfl, -⟩ | ⟨-, run, rfl, -⟩
    · rw [idle]
      exact .nil
    · have asked := run.carried (·.request.node) fun _ => run.data_request
      rw [entries run] at asked
      change List.Forall₂ _ _ ((run.placed.map PlacedTask.request).map Placing.node)
      rw [List.map_map]
      exact asked.imp fun _ _ => carried
  · intro canvas rest returned
    rcases compile_returns_iff.mp returned with ⟨idle, rfl, -⟩ | ⟨-, run, rfl, -⟩
    · rw [idle]
      exact .nil
    · have placed := run.carried PlacedTask.node fun _ => run.data_node
      rw [entries run] at placed
      exact placed.imp fun _ _ => carried

/-- The id of the second toolset is the key of the first one, which comes earlier, and the id of the
third one is no text. From the other end, with other values between them, they are selected as
before. -/
theorem toolsets_of_compile_of_shared :
    let first : Json := .obj [("id", .str "w"), ("toolset", .obj [("key", .str "a")])]
    let second : Json := .obj [("id", .str "a"), ("toolset", .null)]
    let third : Json := .obj [("id", .int 5), ("toolset", .obj [("key", .str "k")])]
    let offered : List Json := [first, .null, second, third]
    let offered' : List Json := [.str "a", third, second, .arr [first], first]
    let input : PlanInput := .raw (.obj [("tasks", .arr [.obj [("id", .str "t"),
      ("toolsets", .arr [.str "k", .str "a", .int 5, .str "none", .str "w", .str "k"])]])])
    ∃ canvas rest,
      (compile input (.raw (.arr offered)) .standard).Returns .counting canvas rest ∧
      (compile input (.raw (.arr offered')) .standard).Returns .counting canvas rest ∧
      canvas.nodes.map (fun node => node.metadata? "selectedToolsets") =
        [some (.arr [third, second, first, third])] ∧
      List.Forall₂ (Toolset.Carried offered)
        (ordered (Outline.identifyAll input.outlines .counting).1) canvas.nodes := by
  intro first second third offered offered' input
  have same : (offered'.filter Json.isObject).Perm (offered.filter Json.isObject) :=
    List.reverse_perm [first, second, third]
  have ids : (offered.filterMap Toolset.id?).Nodup := by decide
  have keys : (offered.filterMap Toolset.key?).Nodup := by decide
  obtain ⟨alike, carried⟩ := toolsets_of_compile ids keys same input .standard
  obtain ⟨canvas, rest, returned, shown⟩ : ∃ canvas rest,
      (compile input (.raw (.arr offered)) .standard).Returns .counting canvas rest ∧
      canvas.nodes.map (fun node => node.metadata? "selectedToolsets") =
        [some (.arr [third, second, first, third])] :=
    ⟨_, _, rfl, rfl⟩
  refine ⟨canvas, rest, returned, ?_, shown, (carried _).2 canvas rest returned⟩
  rw [compile, alike]
  exact returned

end Compilation

end PlanGraph
