import PlanGraph.Proofs.Compile.Totality
import PlanGraph.Proofs.Json.Decoded

/-!
# Canvases that are written legibly

Whatever is compiled onto an empty canvas is written legibly (`Compilation.legible_of_compile`), as
long as the plan and the toolsets are decoded and the model is legible. What a canvas takes from the
plan and the toolsets is legible because they are. What the compiler adds are texts, and positions:
in the column they are whole, and on the grid they are floating numbers of the format, for the
origin is one, and the grid makes coordinates from others by comparing and moving them alone
(`Grid.exists_floats_of_freePlace`, `Compilation.Places.floats`).
-/

namespace PlanGraph

open Json (Legible Decoded)

/-! ## Coordinates on the grid -/

/-- The value is a floating number of the format. -/
def Json.IsFloat (value : Json) : Prop :=
  ∃ x : Binary64, x.Representable ∧ value = .float x

theorem Json.IsFloat.legible {value : Json} (h : value.IsFloat) : Legible value := by
  obtain ⟨x, representable, rfl⟩ := h
  exact (Decoded.float representable).legible

/-- The node stands where both coordinates are floating numbers. -/
def Node.Floats (node : Node) : Prop :=
  ∃ x y, node.position = some (.obj [("x", x), ("y", y)]) ∧ x.IsFloat ∧ y.IsFloat

namespace Grid

theorem isFloat_origin : origin.IsFloat :=
  ⟨_, Binary64.representable_zero false, rfl⟩

/-- The larger of two values is one of them. -/
theorem eq_or_eq_of_larger {best value most : Json} (h : larger best value = .ok most) :
    most = best ∨ most = value := by
  unfold larger at h
  split at h
  · cases h
    exact .inr rfl
  · cases h
    exact .inl rfl
  · cases h

/-- A floating number that is moved is one of the format again. -/
theorem isFloat_of_move {value moved : Json} {distance : Int} (float : value.IsFloat)
    (h : move value distance = .ok moved) : moved.IsFloat := by
  obtain ⟨x, -, rfl⟩ := float
  exact ⟨_, Binary64.representable_add x (.ofInt distance), (Except.ok.inj h).symm⟩

theorem isFloat_of_larger {best value most : Json} (first : best.IsFloat) (second : value.IsFloat)
    (h : larger best value = .ok most) : most.IsFloat := by
  rcases eq_or_eq_of_larger h with rfl | rfl
  · exact first
  · exact second

theorem isFloat_of_sourceColumn {node : Node} {x : Json} (floats : node.Floats)
    (h : sourceColumn node = .ok x) : x.IsFloat := by
  obtain ⟨here, y, placed, float, -⟩ := floats
  rw [sourceColumn, placed] at h
  exact Except.ok.inj h ▸ float

theorem isFloat_of_widestColumn {best widest : Json} {nodes : List Node} (float : best.IsFloat)
    (floats : ∀ node ∈ nodes, node.Floats) (h : widestColumn best nodes = .ok widest) :
    widest.IsFloat := by
  induction nodes generalizing best with
  | nil => exact Except.ok.inj h ▸ float
  | cons node rest ih =>
      obtain ⟨here, others⟩ := List.forall_mem_cons.mp floats
      obtain ⟨x, found, later⟩ := bind_eq_ok_iff.mp h
      obtain ⟨most, compared, later⟩ := bind_eq_ok_iff.mp later
      exact ih (isFloat_of_larger float (isFloat_of_sourceColumn here found) compared) others later

/-- The column of a new node is a floating number, when those of the nodes that feed it are. -/
theorem isFloat_of_column {sources : List Node} {x : Json} (floats : ∀ node ∈ sources, node.Floats)
    (h : column sources = .ok x) : x.IsFloat := by
  rcases sources with _ | ⟨node, rest⟩
  · exact Except.ok.inj h ▸ isFloat_origin
  · obtain ⟨here, others⟩ := List.forall_mem_cons.mp floats
    obtain ⟨first, found, later⟩ := bind_eq_ok_iff.mp h
    obtain ⟨widest, wide, moved⟩ := bind_eq_ok_iff.mp later
    exact isFloat_of_move
      (isFloat_of_widestColumn (isFloat_of_sourceColumn here found) others wide) moved

theorem isFloat_of_rowsIn {column : Json} {existing : List Node} {rows : List Json}
    (floats : ∀ node ∈ existing, node.Floats) (h : rowsIn column existing = .ok rows) :
    ∀ row ∈ rows, row.IsFloat := by
  induction existing generalizing rows with
  | nil =>
      cases h
      exact List.forall_mem_nil _
  | cons node rest ih =>
      obtain ⟨⟨x, y, placed, -, float⟩, others⟩ := List.forall_mem_cons.mp floats
      rw [rowsIn, placed] at h
      change (if x.same column then (do pure (y :: (← rowsIn column rest)))
        else rowsIn column rest) = Except.ok rows at h
      split at h
      · obtain ⟨more, found, made⟩ := bind_eq_ok_iff.mp h
        cases made
        exact List.forall_mem_cons.mpr ⟨float, ih others found⟩
      · exact ih others h

/-- The row of a new node is a floating number, when those of its column are. -/
theorem isFloat_of_row {rows : List Json} {y : Json} (floats : ∀ row ∈ rows, row.IsFloat)
    (h : row rows = .ok y) : y.IsFloat := by
  have lowest : ∀ {rest : List Json} {first last : Json}, first.IsFloat →
      (∀ row ∈ rest, row.IsFloat) → rest.foldlM larger first = .ok last → last.IsFloat := by
    intro rest
    induction rest with
    | nil =>
        rintro first last float - ⟨⟩
        exact float
    | cons next rest ih =>
        intro first last float others found
        obtain ⟨here, others⟩ := List.forall_mem_cons.mp others
        obtain ⟨most, compared, later⟩ := bind_eq_ok_iff.mp found
        exact ih (isFloat_of_larger float here compared) others later
  rcases rows with _ | ⟨first, rest⟩
  · exact Except.ok.inj h ▸ isFloat_origin
  · obtain ⟨here, others⟩ := List.forall_mem_cons.mp floats
    obtain ⟨last, found, moved⟩ := bind_eq_ok_iff.mp h
    exact isFloat_of_move (lowest here others found) moved

/-- Among nodes at floating numbers, a free place is at floating numbers. -/
theorem exists_floats_of_freePlace {existing sources : List Node} {spot : Json}
    (stand : ∀ node ∈ existing, node.Floats) (feed : ∀ node ∈ sources, node.Floats)
    (h : freePlace existing sources = .ok spot) :
    ∃ x y, spot = .obj [("x", x), ("y", y)] ∧ x.IsFloat ∧ y.IsFloat := by
  obtain ⟨x, hcolumn, later⟩ := bind_eq_ok_iff.mp h
  obtain ⟨rows, hrows, later⟩ := bind_eq_ok_iff.mp later
  obtain ⟨y, hrow, made⟩ := bind_eq_ok_iff.mp later
  cases made
  exact ⟨x, y, rfl, isFloat_of_column feed hcolumn,
    isFloat_of_row (isFloat_of_rowsIn stand hrows) hrow⟩

end Grid

/-! ## Nodes and edges -/

/-- What is selected is among the toolsets of the environment. -/
theorem Toolset.mem_of_mem_select {entries : List Json} {names : List String} {entry : Json}
    (h : entry ∈ select entries names) : entry ∈ entries := by
  obtain ⟨name, -, found⟩ := List.mem_filterMap.mp h
  rcases Option.or_eq_some_iff.mp found with byId | ⟨-, byKey⟩
  · exact List.mem_of_find?_eq_some byId
  · exact List.mem_of_find?_eq_some byKey

/-- A place in the column is legible, as long as there are no more nodes than an array may hold. -/
theorem Sketch.legible_stacked {index : Nat} (few : index < Json.arrayLimit) :
    Legible (stacked index) := by
  have row : (index * rowStep : Int).natAbs = index * 240 := by
    rw [Int.natAbs_mul, Int.natAbs_natCast]
    rfl
  have below : index * 240 < 1000 * Json.arrayLimit := by omega
  refine .obj (by simp) ?_
  simp only [List.forall_mem_cons]
  exact ⟨.int (by decide), .int (row ▸ Json.length_toDigits_of_lt below), List.forall_mem_nil _⟩

theorem Node.Floats.legible_position {node : Node} {position : Json} (h : node.Floats)
    (placed : node.position = some position) : Legible position := by
  obtain ⟨x, y, here, hx, hy⟩ := h
  obtain rfl := Option.some.inj (here.symm.trans placed)
  exact .obj (by simp) (by simp [hx.legible, hy.legible])

namespace Compilation

/-- Where positions are left to the grid, and on a canvas where all nodes stand at floating numbers,
so do those that are placed. -/
theorem Places.floats {setting : Setting} (left : setting.autoLayout = true) {nodes : List Node}
    {index : Nat} {supply rest : Supply} {placed : List PlacedTask}
    (h : Places Grid.layout setting nodes index supply placed rest)
    (named : ∀ task ∈ placed, task.sketch.entityId ≠ "")
    (start : ∀ node ∈ nodes, node.Floats ∧ node.data.isObject = true) :
    ∀ task ∈ placed, task.node.Floats := by
  induction h with
  | nil => exact List.forall_mem_nil _
  | @cons nodes index supply between rest sketch node more answer later ih =>
      obtain ⟨spot, settles, made, -⟩ :=
        (Grid.layout_returns_iff (named _ List.mem_cons_self)).mp answer
      rw [Grid.position_request fun node listed => (start node listed).2, if_pos left] at settles
      obtain ⟨x, y, rfl, hx, hy⟩ := Grid.exists_floats_of_freePlace
        (fun node listed => (start node listed).1) (by
          intro node listed
          obtain ⟨filter, -, picked⟩ := List.mem_flatMap.mp listed
          exact (start node (List.mem_filter.mp picked).1).1) settles
      have here : node.Floats ∧ node.data.isObject = true := by
        rw [← made]
        exact ⟨⟨x, y, rfl, hx, hy⟩, rfl⟩
      refine List.forall_mem_cons.mpr ⟨here.1, ih ?_ ?_⟩
      · exact fun task listed => named task (List.mem_cons_of_mem _ listed)
      · exact List.forall_mem_append.mpr ⟨start, List.forall_mem_singleton.mpr here⟩

namespace Run

variable {outlines : List Outline} {toolsets : ToolsetSource} {options : CompileOptions}
  {supply : Supply} (run : Run Grid.layout outlines toolsets options supply)

/-- On an empty canvas every node is placed where it is legible. -/
theorem legible_position (bare : options.startNodes = .arr [])
    (few : outlines.length < Json.arrayLimit) {task : PlacedTask} (listed : task ∈ run.placed)
    {position : Json} (placed : task.node.position = some position) : Legible position := by
  rcases left : options.autoLayout with _ | _
  · obtain ⟨count, found⟩ := List.getElem?_of_mem listed
    obtain ⟨inside, -⟩ := List.getElem?_eq_some_iff.mp found
    rw [run.length_placed] at inside
    obtain rfl := Option.some.inj (placed.symm.trans (run.position_eq left found))
    exact Sketch.legible_stacked (inside.trans few)
  · have start : run.start = [] :=
      Except.ok.inj (run.start_eq.symm.trans (start_of_bare bare))
    have places := run.places
    rw [start] at places
    exact (places.floats left (fun _ => run.entityId_ne_empty_of_mem)
      (List.forall_mem_nil _) task listed).legible_position placed

/-- On an empty canvas every node is written legibly. -/
theorem legible_node (bare : options.startNodes = .arr [])
    (few : outlines.length < Json.arrayLimit) (model : Legible options.defaultModel)
    (entries : ∀ entry ∈ run.entries, Legible entry) {task : PlacedTask}
    (listed : task ∈ run.placed) : Legible task.node.toJson := by
  obtain ⟨count, found⟩ := List.getElem?_of_mem listed
  obtain ⟨spot, -, made⟩ := run.settled found
  have position : Legible spot := by
    refine run.legible_position bare few listed ?_
    rw [made]
    rfl
  have selected :
      Legible (.arr (Toolset.select run.setting.toolsets task.sketch.outline.toolsets)) :=
    .arr fun entry chosen => entries entry (Toolset.mem_of_mem_select chosen)
  have data : Legible (task.sketch.payload run.setting) := by
    refine .obj (by simp) ?_
    simp only [List.forall_mem_cons]
    refine ⟨.str _, .str _, .str _, .str _, .obj (by simp) ?_, List.forall_mem_nil _⟩
    simp only [List.forall_mem_cons]
    exact ⟨.str _, selected, .arr (List.forall_mem_nil _), .str _, model, List.forall_mem_nil _⟩
  rw [made]
  refine .obj (by simp [Json.memberIf, Sketch.settled]) ?_
  simp only [List.forall_mem_append, List.forall_mem_cons]
  exact ⟨⟨.str _, .str _, data, .bool _, List.forall_mem_nil _⟩,
    List.forall_mem_singleton.mpr position⟩

/-- Every edge that is drawn is written legibly. -/
theorem legible_edge (inputs : List Json) {edge : Edge}
    (drawn : edge ∈ (run.compilation inputs).canvas.edges) : Legible edge.toJson := by
  have plain : ∀ link ∈ run.links, link.Plain := by
    have kept := run.links_eq
    have among : ∀ link ∈ Link.among run.placed (identified outlines supply).1.length,
        link.Plain := fun _ => Link.plain_of_mem_among run.hasTexts_grid
    rw [Link.kept_of_plain among] at kept
    rw [← Except.ok.inj kept]
    exact fun link listed => among link (List.mem_filter.mp (List.mem_eraseDups.mp listed)).1
  change edge ∈ (Link.drawEdges run.links run.between).1 at drawn
  rw [Link.drawEdges_eq] at drawn
  obtain ⟨⟨link, number⟩, listed, rfl⟩ := List.mem_map.mp drawn
  obtain ⟨source, target, rfl⟩ := plain link (List.fst_mem_of_mem_zipIdx listed)
  exact .obj (by simp) (by simp)

end Run

end Compilation

/-! ## Inputs -/

namespace CanvasInput

variable {value : Json}

/-- The resource of a legible value is legible. -/
theorem legible_resource? (h : Legible value) {resource : Json}
    (found : resource? value = some resource) : Legible resource := by
  cases value with
  | obj members =>
      obtain ⟨-, made⟩ := Option.ite_none_right_eq_some.mp found
      cases made
      refine .obj (by simp) ?_
      simp only [List.forall_mem_cons]
      exact ⟨h.getD "name", h.getD "fileType", List.forall_mem_nil _⟩
  | _ => cases found

/-- A legible value of a variable stays legible. -/
theorem legible_value? (h : Legible value) {kept : Json} (found : value? value = some kept) :
    Legible kept := by
  cases value with
  | obj members =>
      cases found
      refine .obj (List.Sublist.nodup (?_ : List.Sublist _ (["type", "text"] ++ ["resource"]))
        (by decide)) ?_
      · rw [List.map_append]
        exact (List.Sublist.refl _).append (Json.names_memberIf _ _)
      · simp only [List.forall_mem_append, List.forall_mem_cons]
        refine ⟨⟨h.getD _, h.getD _, List.forall_mem_nil _⟩, ?_⟩
        cases complete : resource? ((Json.obj members).getD "resource") with
        | none => exact List.forall_mem_nil _
        | some resource =>
            exact List.forall_mem_singleton.mpr (legible_resource? (h.getD _) complete)
  | _ => cases found

/-- The input for a legible variable is legible. -/
theorem legible_ofObject (h : Legible value) : Legible (ofObject value) := by
  refine .obj (by simp) ?_
  simp only [List.forall_mem_cons]
  refine ⟨h.getD _, h.getD _, h.getD _, .arr ?_, h.getD _, .bool _, h.getD _, List.forall_mem_nil _⟩
  intro item listed
  obtain ⟨given, here, found⟩ := List.mem_filterMap.mp listed
  exact legible_value? (h.itemsOf _ given here) found

end CanvasInput

/-! ## Toolsets -/

/-- What a legible value offers one after another is legible. -/
theorem ToolsetSource.legible_entries {value : Json} {entries : List Json} (h : Legible value)
    (found : (raw value).entries = .ok entries) : ∀ entry ∈ entries, Legible entry := by
  rw [ToolsetSource.entries] at found
  split at found
  · obtain ⟨offered, sequence, made⟩ := bind_eq_ok_iff.mp found
    cases made
    intro entry listed
    have here := (List.mem_filter.mp listed).1
    cases value with
    | arr items =>
        cases sequence
        exact Legible.arr_iff.mp h entry here
    | str s =>
        cases sequence
        obtain ⟨c, -, rfl⟩ := List.mem_map.mp here
        exact .str _
    | obj members =>
        cases sequence
        obtain ⟨member, -, rfl⟩ := List.mem_map.mp here
        exact .str _
    | _ => cases sequence
  · cases found
    exact List.forall_mem_nil _

/-! ## Canvases -/

/-- **What is compiled is written legibly.** -/
theorem Compilation.legible_of_compile {plan toolsets : Json} {options : CompileOptions}
    {supply rest : Supply} {canvas : Canvas} (plans : Decoded plan) (offered : Legible toolsets)
    (model : Legible options.defaultModel) (bare : options.startNodes = .arr [])
    (h : (compile (.raw plan) (.raw toolsets) options).Returns supply canvas rest) :
    Legible canvas.toJson := by
  have tasks : (PlanInput.raw plan).outlines.length < Json.arrayLimit := by
    rw [PlanInput.outlines, List.length_map]
    exact (Decoded.arr_iff.mp (plans.itemsOf "tasks")).1
  have inputs : ∀ input ∈ (PlanInput.raw plan).canvasInputs, Legible input := by
    intro input listed
    obtain ⟨value, here, rfl⟩ := List.mem_map.mp listed
    exact CanvasInput.legible_ofObject
      (plans.legible.itemsOf "variables" value (List.mem_filter.mp here).1)
  refine .obj (by simp) ?_
  simp only [List.forall_mem_cons, Legible.arr_iff, List.forall_mem_map]
  rcases compile_returns_iff.mp h with ⟨-, rfl, -⟩ | ⟨-, run, rfl, -⟩
  · exact ⟨List.forall_mem_nil _, List.forall_mem_nil _, List.forall_mem_nil _,
      List.forall_mem_nil _⟩
  · refine ⟨?_, fun edge => run.legible_edge _, inputs, List.forall_mem_nil _⟩
    intro node placed
    obtain ⟨task, listed, rfl⟩ := List.mem_map.mp placed
    exact run.legible_node bare tasks model
      (ToolsetSource.legible_entries offered run.entries_eq) listed

end PlanGraph
