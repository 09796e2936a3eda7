import Mathlib.Data.List.Find
import PlanGraph.Proofs.Compile.Positions
import PlanGraph.Proofs.Compile.Recompilation
import PlanGraph.Proofs.Toolset

/-!
# Toolsets checked before

Toolsets may be checked before a plan is compiled with them, and it makes no difference but that
each node carries them as they are written out (`Compilation.compile_checkedToolsets`).

A name selects the same toolset, since a toolset is written out under the id and the key that it had
(`Toolset.select?_map_dump`). A node that carries other toolsets looks the same to the grid, which
finds the nodes that feed another one by their types and entity ids (`Grid.place_mapToolsets`), and
links are found from the ids of nodes (`Compilation.ofPlan_map`).
-/

namespace PlanGraph

/-! ## Other toolsets in the same places -/

namespace Json

/-- The members, with those of a name changed. -/
def changeMember (name : String) (change : Json → Json) (members : List (String × Json)) :
    List (String × Json) :=
  members.map fun pair => (pair.1, if pair.1 = name then change pair.2 else pair.2)

/-- An object with the members of a name changed. -/
def mapMember (name : String) (change : Json → Json) : Json → Json
  | obj members => obj (changeMember name change members)
  | value => value

/-- An array with every item changed. -/
def mapItems (change : Json → Json) : Json → Json
  | arr items => arr (items.map change)
  | value => value

section

variable {name other : String} (apart : other ≠ name) (change : Json → Json)
  (members : List (String × Json))

include apart

/-- The members of other names stay. -/
theorem member?_changeMember :
    member? other (changeMember name change members) = member? other members := by
  induction members with
  | nil => rfl
  | cons pair rest ih =>
      rw [changeMember, List.map_cons, member?, List.lookup_cons, member?, List.lookup_cons]
      by_cases found : other = pair.1
      · simp only [← found, if_neg apart, beq_self_eq_true]
      · simp only [beq_eq_false_iff_ne.mpr found]
        exact ih

/-- A member of another name is set in the same place. -/
theorem put_changeMember (value : Json) :
    put other value (changeMember name change members) =
      changeMember name change (put other value members) := by
  induction members with
  | nil =>
      rw [put, changeMember, changeMember, List.map_singleton, if_neg apart]
      rfl
  | cons pair rest ih =>
      obtain ⟨first, old⟩ := pair
      rw [changeMember, List.map_cons, put, put]
      by_cases found : first = other
      · subst found
        rw [if_pos rfl, if_pos rfl, changeMember, List.map_cons, if_neg apart]
      · rw [if_neg found, if_neg found, changeMember, List.map_cons]
        exact congrArg _ ih

end

end Json

/-- A node that carries other toolsets in the same places. -/
def Node.mapToolsets (change : Json → Json) (node : Node) : Node :=
  { node with
    data := node.data.mapMember "metadata"
      (Json.mapMember "selectedToolsets" (Json.mapItems change)) }

/-- A canvas whose nodes carry other toolsets in the same places. -/
def Canvas.mapToolsets (change : Json → Json) (canvas : Canvas) : Canvas :=
  { canvas with nodes := canvas.nodes.map (Node.mapToolsets change) }

/-! ## What the grid looks at -/

/-- What the grid looks at in a node that is on the canvas. -/
def Node.sight (node : Node) : Json × Option Json × Except Fault Json :=
  (node.type, node.position, node.entityId)

/-- The grid does not look at toolsets. -/
theorem Node.sight_mapToolsets (change : Json → Json) (node : Node) :
    (node.mapToolsets change).sight = node.sight := by
  obtain ⟨id, type, data, position, selected⟩ := node
  cases data with
  | obj members =>
      refine congrArg (fun value? : Option Json =>
        (type, position, (Except.ok (value?.getD .null) : Except Fault Json))) ?_
      exact Json.member?_changeMember (by decide) _ members
  | _ => rfl

namespace Grid

section

variable {nodes nodes' : List Node} (same : nodes.map Node.sight = nodes'.map Node.sight)

include same

/-- A filter selects nodes that look the same at the same positions. -/
theorem selected_congr (filter : NodeFilter) :
    List.map Node.position <$> selected filter nodes =
      List.map Node.position <$> selected filter nodes' := by
  induction nodes generalizing nodes' with
  | nil =>
      rw [List.map_eq_nil_iff.mp same.symm]
  | cons node rest ih =>
      obtain ⟨node', rest', rfl, first, others⟩ := List.map_eq_cons_iff.mp same.symm
      have type : node'.type = node.type := congrArg Prod.fst first
      have position : node'.position = node.position := congrArg (·.2.1) first
      have entity : node'.entityId = node.entityId := congrArg (·.2.2) first
      have selects : filter.selects node' = filter.selects node := by
        rw [NodeFilter.selects, NodeFilter.selects, type, entity]
      rw [selected, selected, selects]
      rcases filter.selects node with fault | _ | _
      · rfl
      · exact ih others.symm
      · have kept : ∀ (node : Node) (rest : List Node),
            (List.map Node.position <$> (do pure (node :: (← selected filter rest)))) =
              List.cons node.position <$> List.map Node.position <$> selected filter rest := by
          intro node rest
          simp only [bind_pure_comp, Functor.map_map, List.map_cons]
        refine (kept node rest).trans (Eq.trans ?_ (kept node' rest').symm)
        rw [ih others.symm, position]

/-- The nodes that feed a node look the same at the same positions. -/
theorem sources_congr (filters : List NodeFilter) :
    List.map Node.position <$> sources nodes filters =
      List.map Node.position <$> sources nodes' filters := by
  induction filters with
  | nil => rfl
  | cons filter rest ih =>
      rw [sources, sources]
      split
      · have both : ∀ nodes : List Node,
            (List.map Node.position <$>
              (do pure ((← selected filter nodes) ++ (← sources nodes rest)))) =
              List.map Node.position <$> selected filter nodes >>= fun front =>
                List.append front <$> List.map Node.position <$> sources nodes rest := by
          intro nodes
          simp only [bind_pure_comp, map_bind, bind_map_left, Functor.map_map, List.map_append,
            List.append_eq]
        refine (both nodes).trans (Eq.trans ?_ (both nodes').symm)
        rw [selected_congr same, ih]
      · exact ih

/-- The free place is the same. -/
theorem freePlace_sources_congr (filters : List NodeFilter) :
    sources nodes filters >>= freePlace nodes = sources nodes' filters >>= freePlace nodes' := by
  have positions : nodes.map Node.position = nodes'.map Node.position := by
    have shown := congrArg (List.map (·.2.1)) same
    rw [List.map_map, List.map_map] at shown
    exact shown
  have shown : ∀ nodes : List Node, sources nodes filters >>= freePlace nodes =
      List.map Node.position <$> sources nodes filters >>= fun feed =>
        freePlace nodes (feed.map marker) := by
    intro nodes
    rw [bind_map_left]
    refine bind_congr fun feed => freePlace_congr rfl ?_
    rw [List.map_map]
    exact (List.map_id _).symm
  rw [shown, shown, sources_congr same]
  exact bind_congr fun feed => freePlace_congr positions rfl

end

end Grid

/-! ## Placing nodes -/

namespace Grid

section

variable (change : Json → Json)

/-- A title is given to a payload whatever toolsets it carries. -/
theorem withTitle_changeMember (members : List (String × Json)) :
    withTitle (Json.changeMember "metadata" change members) =
      Json.changeMember "metadata" change (withTitle members) := by
  rw [withTitle, withTitle, Json.member?_changeMember (by decide),
    Json.put_changeMember (by decide)]
  split
  · rfl
  · rfl

/-- So is an entity id. -/
theorem withEntity_changeMember (members : List (String × Json)) :
    withEntity (Json.changeMember "metadata" change members) =
      Json.changeMember "metadata" change <$> withEntity members := by
  rw [withEntity, withEntity, Json.member?_changeMember (by decide)]
  split
  · rfl
  · rw [map_bind]
    refine bind_congr fun id => ?_
    rw [Json.put_changeMember (by decide)]
    rfl

/-- A node is placed whatever toolsets it carries, and those that are on the canvas. -/
theorem place_mapToolsets (request : Placing) {nodes : List Node}
    (same : nodes.map Node.sight = request.nodes.map Node.sight) :
    place { request with node := request.node.mapToolsets change, nodes } =
      Node.mapToolsets change <$> place request := by
  obtain ⟨⟨id, type, data, position?, selected⟩, existing, edges, connectTo, autoLayout⟩ := request
  have spot : position ⟨Node.mapToolsets change ⟨id, type, data, position?, selected⟩, nodes, edges,
      connectTo, autoLayout⟩ =
      position ⟨⟨id, type, data, position?, selected⟩, existing, edges, connectTo, autoLayout⟩ := by
    rcases position? with _ | given
    · rcases autoLayout with _ | _
      · rfl
      · exact freePlace_sources_congr same connectTo
    · rfl
  rw [place, place, spot, map_bind]
  refine bind_congr fun position => ?_
  rw [map_bind]
  refine bind_congr fun settled => ?_
  cases data with
  | obj members =>
      change (liftM (withEntity (withTitle (Json.changeMember _ _ members))) : Making _) >>= _ =
        Node.mapToolsets change <$> ((liftM (withEntity (withTitle members)) : Making _) >>= _)
      rw [withTitle_changeMember, withEntity_changeMember, liftM_map, bind_map_left, map_bind]
      rfl
  | _ => rfl

end

end Grid

/-! ## Compiling with other toolsets -/

section

variable {change : Json → Json} {entries entries' : List Json}
  (selects : ∀ name, Toolset.select? entries' name = (Toolset.select? entries name).map change)

include selects

/-- What a list of names selects is changed item by item. -/
theorem Toolset.select_map (names : List String) :
    select entries' names = (select entries names).map change := by
  rw [select, select, List.map_filterMap]
  exact List.filterMap_congr fun name _ => selects name

/-- So is what the node of a task carries. -/
theorem Sketch.node_map (symbols : List (String × String)) (model : Json) (autoLayout : Bool)
    (index : Nat) (sketch : Sketch) :
    sketch.node ⟨symbols, entries', model, autoLayout⟩ index =
      (sketch.node ⟨symbols, entries, model, autoLayout⟩ index).mapToolsets change := by
  rw [node, payload, metadata, Toolset.select_map selects]
  rfl

namespace Compilation

/-- The tasks are placed as before, one after another. -/
theorem place_map (symbols : List (String × String)) (model : Json) (autoLayout : Bool)
    {nodes nodes' : List Node} (same : nodes'.map Node.sight = nodes.map Node.sight) (index : Nat)
    (sketches : List Sketch) :
    List.map (fun task => (task.sketch, task.node)) <$>
        place Grid.layout ⟨symbols, entries', model, autoLayout⟩ nodes' index sketches =
      List.map (fun task => (task.sketch, task.node.mapToolsets change)) <$>
        place Grid.layout ⟨symbols, entries, model, autoLayout⟩ nodes index sketches := by
  -- the two canvases differ in toolsets before each task, so the requests are not the same; what
  -- carries the induction is that the grid sees no difference
  induction sketches generalizing nodes nodes' index with
  | nil => rfl
  | cons sketch rest ih =>
      have placed :
          Grid.place (sketch.request ⟨symbols, entries', model, autoLayout⟩ nodes' index) =
          Node.mapToolsets change <$>
            Grid.place (sketch.request ⟨symbols, entries, model, autoLayout⟩ nodes index) := by
        rw [← Grid.place_mapToolsets change _ same, Sketch.request, Sketch.node_map selects]
        rfl
      rw [place, place]
      simp only [Grid.layout, placed, map_bind, bind_map_left, map_pure, List.map_cons]
      refine bind_congr fun node => ?_
      have seen : (nodes' ++ [node.mapToolsets change]).map Node.sight =
          (nodes ++ [node]).map Node.sight := by
        rw [List.map_append, List.map_append, same, List.map_singleton, List.map_singleton,
          Node.sight_mapToolsets]
      refine Making.bind_eq_bind (ih seen (index + 1)) fun placed placed' same => ?_
      rw [same]

/-- A plan is compiled as before, to nodes that carry other toolsets in the same places. -/
theorem ofPlan_map {toolsets toolsets' : ToolsetSource} (reads : toolsets.entries = .ok entries)
    (reads' : toolsets'.entries = .ok entries') (input : PlanInput) (options : CompileOptions) :
    canvas <$> ofPlan Grid.layout input toolsets' options =
      Canvas.mapToolsets change <$> canvas <$> ofPlan Grid.layout input toolsets options := by
  rw [ofPlan, ofPlan]
  split
  · rfl
  · simp only [ofOutlines, reads, reads', Making.ofExcept, pure_bind, map_bind, map_pure]
    refine bind_congr fun outlines => bind_congr fun assignment => bind_congr fun start => ?_
    refine Making.bind_eq_bind (place_map selects _ _ _ rfl _ _) fun placed placed' same => ?_
    have ends : placed.map PlacedTask.ends = placed'.map PlacedTask.ends := by
      have shown := congrArg (List.map fun task => (task.1, task.2.id)) same
      rw [List.map_map, List.map_map] at shown
      exact shown
    have nodes : placed.map PlacedTask.node =
        (placed'.map PlacedTask.node).map (Node.mapToolsets change) := by
      have shown := congrArg (List.map Prod.snd) same
      rw [List.map_map, List.map_map] at shown
      rw [List.map_map]
      exact shown
    rw [Link.among_congr ends, nodes]
    rfl

end Compilation

end

/-! ## Compiling with the toolsets that were checked -/

namespace Toolset

/-- A value that passes as a toolset, written out; any other value stays. -/
def rewritten (item : Json) : Json :=
  ((check item).toOption.map dump).getD item

section

variable {items : List Json} {toolsets : List Toolset}
  (accepted : List.Forall₂ (fun item toolset => check item = .passed toolset) items toolsets)

include accepted

/-- The values, written out, are the toolsets written out. -/
theorem map_rewritten : items.map rewritten = toolsets.map dump := by
  rw [← List.forall₂_eq_eq_eq, List.forall₂_map_left_iff, List.forall₂_map_right_iff]
  refine accepted.imp fun item toolset passed => ?_
  rw [rewritten, passed]
  rfl

/-- A value that passes has the same id and the same key when it is written out. -/
theorem names_rewritten {item : Json} (listed : item ∈ items) :
    id? (rewritten item) = id? item ∧ key? (rewritten item) = key? item := by
  obtain ⟨toolset, -, passed⟩ := Checked.exists_value_of_mem accepted listed
  rw [rewritten, passed]
  exact ⟨(id?_dump toolset).trans (id?_of_check passed).symm,
    (key?_dump passed).trans (key?_of_check passed).symm⟩

/-- A name selects what it selects among the values, written out. -/
theorem select?_map_dump (name : String) :
    select? (toolsets.map dump) name = (select? items name).map rewritten := by
  have names {item : Json} (listed : item ∈ items) := names_rewritten accepted listed
  have byId : ∀ item ∈ items, (hasId name ∘ rewritten) item = hasId name item := by
    intro item listed
    rw [Function.comp_apply, Bool.eq_iff_iff, hasId_iff, hasId_iff, (names listed).1]
  have byKey : ∀ item ∈ items, (hasKey name ∘ rewritten) item = hasKey name item := by
    intro item listed
    rw [Function.comp_apply, Bool.eq_iff_iff, hasKey_iff, hasKey_iff, (names listed).2]
  rw [← map_rewritten accepted, select?, select?, List.find?_map, List.find?_map, Option.map_or,
    List.find?_congr byId, List.find?_congr byKey]

/-- Values that pass are offered as they are. -/
theorem entries_of_check : (ToolsetSource.raw (.arr items)).entries = .ok items := by
  rw [ToolsetSource.entries_arr, List.filter_eq_self.mpr]
  intro item listed
  obtain ⟨toolset, -, passed⟩ := Checked.exists_value_of_mem accepted listed
  obtain ⟨members, rfl, -⟩ := Json.checkRecord_eq_passed_iff.mp passed
  rfl

end

end Toolset

/-- **Toolsets checked before.** Where every item of an array passes as a toolset, a plan compiles
with the toolsets that they pass as in the same way as with the items themselves: with one supply of
ids, the same ids are drawn, and the canvas is the same but for the toolsets that its nodes carry,
each of which is written out as it passed. Written out, a toolset keeps its unknown members that are
not null, and so does what it stands for. -/
theorem Compilation.compile_checkedToolsets {items : List Json} {toolsets : List Toolset}
    (accepted : List.Forall₂ (fun item toolset => Toolset.check item = .passed toolset) items
      toolsets) :
    (∀ (input : PlanInput) (options : CompileOptions),
      compile input (.parsed toolsets) options =
        Canvas.mapToolsets Toolset.rewritten <$> compile input (.raw (.arr items)) options) ∧
    List.Forall₂ (fun item toolset => Toolset.rewritten item = toolset.dump ∧
      Json.Keeps (Toolset.IsUnknown item) item toolset.dump ∧
      Json.Keeps (· ≠ "key") (item.getD "toolset") (toolset.dump.getD "toolset")) items
      toolsets := by
  constructor
  · intro input options
    rw [compile, compile, bind_pure_comp, bind_pure_comp]
    exact ofPlan_map (Toolset.select?_map_dump accepted) (Toolset.entries_of_check accepted) rfl
      input options
  · refine accepted.imp fun item toolset passed => ?_
    refine ⟨?_, Toolset.keeps_dump passed, Toolset.keeps_dump_ref passed⟩
    rw [Toolset.rewritten, passed]
    rfl

/-- The first toolset has both spellings of the selected tools; a null member is left out. The
second one has the other spelling alone, and an id that is the key of the first one. -/
theorem Compilation.compile_checkedToolsets_of_two :
    let first : Json := .obj [("selected_tools", .ofStrings ["x"]), ("id", .str "w"),
      ("toolset", .obj [("port", .int 1), ("key", .str "a"), ("host", .null)]), ("note", .null),
      ("selectedTools", .ofStrings ["y"]), ("rank", .int 3)]
    let second : Json := .obj [("selected_tools", .ofStrings ["z"]), ("id", .str "a"),
      ("toolset", .null)]
    let written : Json := .obj [("id", .str "w"), ("name", .str ""), ("type", .str "regular"),
      ("toolset", .obj [("key", .str "a"), ("port", .int 1)]),
      ("selectedTools", .ofStrings ["y"]), ("selected_tools", .ofStrings ["x"]), ("rank", .int 3)]
    let written' : Json := .obj [("id", .str "a"), ("name", .str ""), ("type", .str "regular"),
      ("selectedTools", .ofStrings ["z"])]
    let input : PlanInput := .raw (.obj [("tasks", .arr [.obj [("id", .str "t"),
      ("toolsets", .arr [.str "a", .str "w"])]])])
    ∃ toolset toolset' canvas rest,
      Toolset.check first = .passed toolset ∧ Toolset.check second = .passed toolset' ∧
      (compile input (.raw (.arr [first, second])) .standard).Returns .counting canvas rest ∧
      (compile input (.parsed [toolset, toolset']) .standard).Returns .counting
        (canvas.mapToolsets Toolset.rewritten) rest ∧
      canvas.nodes.map (fun node => node.metadata? "selectedToolsets") =
        [some (.arr [second, first])] ∧
      (canvas.mapToolsets Toolset.rewritten).nodes.map (fun node =>
        node.metadata? "selectedToolsets") = [some (.arr [written', written])] ∧
      Json.Keeps (Toolset.IsUnknown first) first written := by
  intro first second written written' input
  obtain ⟨toolset, passed⟩ : ∃ toolset, Toolset.check first = .passed toolset := ⟨_, rfl⟩
  obtain ⟨toolset', passed'⟩ : ∃ toolset, Toolset.check second = .passed toolset := ⟨_, rfl⟩
  obtain ⟨same, kept⟩ := compile_checkedToolsets (.cons passed (.cons passed' .nil))
  obtain ⟨canvas, rest, returned, carried, carried'⟩ : ∃ canvas rest,
      (compile input (.raw (.arr [first, second])) .standard).Returns .counting canvas rest ∧
      canvas.nodes.map (fun node => node.metadata? "selectedToolsets") =
        [some (.arr [second, first])] ∧
      (canvas.mapToolsets Toolset.rewritten).nodes.map (fun node =>
        node.metadata? "selectedToolsets") = [some (.arr [written', written])] :=
    ⟨_, _, rfl, rfl, rfl⟩
  refine ⟨toolset, toolset', canvas, rest, passed, passed', returned, ?_, carried, carried', ?_⟩
  · rw [same, Making.Returns, Making.outcome_map, returned]
    rfl
  · obtain ⟨⟨shown, keeps, -⟩, -⟩ := List.forall₂_cons.mp kept
    rw [← shown] at keeps
    exact keeps

end PlanGraph
