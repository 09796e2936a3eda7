import PlanGraph.Proofs.Compile.Run
import PlanGraph.Proofs.Mention.Pieces

/-!
# Ids of a run

Every id of a run is drawn from the supply, and which one is known from the order of the draws: the
numbers of the ids of tasks, entities and edges (`Outline.identifyAll_of_named`,
`drawEntityIds_eq`, `Link.drawEdges_eq`), counted from where the supply stands
(`Supply.upcoming`).

A symbol stands for the entity of the first task of its id, in the order of processing
(`FirstAt`, `Compilation.lookup_symbols`).
-/

namespace PlanGraph

/-! ## What is drawn next -/

namespace Supply

/-- The supply after some more ids have been drawn. -/
def ahead (supply : Supply) (count : Nat) : Supply :=
  { supply with drawn := supply.drawn + count }

/-- The id that is drawn after so many others. -/
def upcoming (supply : Supply) (number : Nat) : String :=
  supply.name (supply.drawn + number)

/-- The next ids, as many as given, are distinct. -/
def Distinct (supply : Supply) (count : Nat) : Prop :=
  ∀ i < count, ∀ j < count, supply.upcoming i = supply.upcoming j → i = j

@[simp]
theorem ahead_ahead (supply : Supply) (count more : Nat) :
    (supply.ahead count).ahead more = supply.ahead (count + more) := by
  simp [ahead, Nat.add_assoc]

@[simp]
theorem upcoming_ahead (supply : Supply) (count number : Nat) :
    (supply.ahead count).upcoming number = supply.upcoming (count + number) := by
  simp [ahead, upcoming, Nat.add_assoc]

end Supply

/-- The entity id of a task. -/
def entityName (id : String) : String := "ar-" ++ id

/-- Entity ids are distinct where the ids drawn for them are. -/
theorem entityName_inj {id other : String} : entityName id = entityName other ↔ id = other := by
  simp [entityName]

/-- An entity id is not empty. -/
theorem entityName_ne_empty (id : String) : entityName id ≠ "" := by
  simp [entityName]

/-- Entity ids are drawn one after another. -/
theorem drawEntityIds_eq (taskIds : List String) (supply : Supply) :
    drawEntityIds taskIds supply =
      ((List.range taskIds.length).map fun number => entityName (supply.upcoming number),
        supply.ahead taskIds.length) := by
  induction taskIds generalizing supply with
  | nil => rfl
  | cons id rest ih =>
      change ((entityName (supply.upcoming 0)) :: (drawEntityIds rest (supply.ahead 1)).1,
        (drawEntityIds rest (supply.ahead 1)).2) = _
      rw [ih, List.length_cons, List.range_succ_eq_map, List.map_cons, List.map_map]
      simp [Function.comp_def, Nat.add_comm]

/-- Edges are numbered as their ids are drawn. -/
theorem Link.drawEdges_eq (links : List Link) (supply : Supply) :
    drawEdges links supply =
      (links.zipIdx.map fun link =>
        (⟨.str ("edge-" ++ supply.upcoming link.2), link.1.source, link.1.target, .str edgeType⟩ :
          Edge),
        supply.ahead links.length) := by
  induction links generalizing supply with
  | nil => rfl
  | cons link rest ih =>
      change ((⟨.str ("edge-" ++ supply.upcoming 0), link.source, link.target, .str edgeType⟩ :
          Edge) :: (drawEdges rest (supply.ahead 1)).1, (drawEdges rest (supply.ahead 1)).2) = _
      rw [ih, List.length_cons, List.zipIdx_cons', List.map_cons, List.map_map]
      simp [Function.comp_def, Nat.add_comm]

namespace Outline

/-- Tasks that have an id draw none. -/
theorem identifyAll_of_named {outlines : List Outline}
    (named : ∀ outline ∈ outlines, outline.id ≠ "") (supply : Supply) :
    identifyAll outlines supply = (outlines, supply) := by
  induction outlines generalizing supply with
  | nil => rfl
  | cons outline rest ih =>
      have own : outline.identify supply = (outline, supply) := by
        unfold identify
        rw [if_neg (named outline List.mem_cons_self)]
        rfl
      have later := ih (fun other hother => named other (List.mem_cons_of_mem _ hother)) supply
      change (((outline.identify supply).1 :: (identifyAll rest (outline.identify supply).2).1),
        (identifyAll rest (outline.identify supply).2).2) = _
      rw [own, later]

/-- A task that is given an id is otherwise the same. -/
theorem identifyAll_forall₂ (outlines : List Outline) (supply : Supply) :
    List.Forall₂ (fun outline task => task = { outline with id := task.id }) outlines
      (identifyAll outlines supply).1 := by
  induction outlines generalizing supply with
  | nil => exact .nil
  | cons outline rest ih =>
      refine .cons ?_ (ih _)
      change (outline.identify supply).1 = { outline with id := (outline.identify supply).1.id }
      unfold identify
      split
      · rfl
      · rfl

end Outline

/-! ## The first task of an id -/

/-- Among some ids, the given one stands first at this place. -/
def FirstAt (ids : List String) (id : String) (place : Nat) : Prop :=
  ids[place]? = some id ∧ ∀ earlier < place, ids[earlier]? ≠ some id

theorem firstAt_iff {ids : List String} {id : String} {place : Nat} :
    FirstAt ids id place ↔ ids.findIdx? (· == id) = some place := by
  rw [List.findIdx?_eq_some_iff_getElem]
  constructor
  · rintro ⟨here, first⟩
    obtain ⟨inside, same⟩ := List.getElem?_eq_some_iff.mp here
    refine ⟨inside, by simp [same], ?_⟩
    intro earlier before
    have other := first earlier before
    rw [List.getElem?_eq_getElem (before.trans inside)] at other
    simpa using other
  · rintro ⟨inside, same, first⟩
    refine ⟨by simpa [List.getElem?_eq_getElem inside] using same, ?_⟩
    intro earlier before
    rw [List.getElem?_eq_getElem (before.trans inside)]
    simpa using first earlier before

/-- In a table of keys and values, a key has the value at the place where it stands first. -/
theorem lookup_zip {β : Type} {ids : List String} {values : List β}
    (enough : values.length = ids.length) (id : String) :
    (ids.zip values).lookup id = (ids.findIdx? (· == id)).bind fun place => values[place]? := by
  induction ids generalizing values with
  | nil => rfl
  | cons first rest ih =>
      rcases values with _ | ⟨value, more⟩
      · cases enough
      · have later := ih (Nat.succ.inj enough)
        rw [List.zip_cons_cons, List.lookup_cons, List.findIdx?_cons]
        by_cases same : first = id
        · simp [same]
        · have other : (id == first) = false := by simpa using Ne.symm same
          simp only [beq_iff_eq, same, other, later, if_false, Option.bind_map]
          rfl

namespace Compilation

/-- The ids of tasks, in the order of processing. -/
def orderedIds (outlines : List Outline) : List String :=
  (ordered outlines).map (·.1.id)

/-- There is one id for each task. -/
theorem length_orderedIds (outlines : List Outline) :
    (orderedIds outlines).length = outlines.length := by
  rw [orderedIds, List.length_map, length_ordered]

/-- The ids of the tasks of a plan, once each of them has one. -/
def taskIds (outlines : List Outline) (supply : Supply) : List String :=
  orderedIds (identified outlines supply).1

/-- A symbol stands for the entity of the first task of its id. -/
theorem lookup_symbols (outlines : List Outline) (supply : Supply) (id : String) :
    (assigned outlines supply).1.symbols.lookup id =
      ((taskIds outlines supply).findIdx? (· == id)).map fun place =>
        entityName ((identified outlines supply).2.upcoming place) := by
  change (EntityAssignment.symbolsOf ((taskIds outlines supply).zip
    (drawEntityIds (taskIds outlines supply) (identified outlines supply).2).1)).lookup id = _
  rw [EntityAssignment.lookup_symbolsOf, drawEntityIds_eq, lookup_zip (by simp)]
  rcases found : (taskIds outlines supply).findIdx? (· == id) with _ | place
  · rfl
  · obtain ⟨inside, -⟩ := List.findIdx?_eq_some_iff_getElem.mp found
    simp [inside]

/-- Every task of a plan is given one id. -/
theorem length_taskIds (outlines : List Outline) (supply : Supply) :
    (taskIds outlines supply).length = outlines.length := by
  rw [taskIds, length_orderedIds]
  exact (Outline.identifyAll_forall₂ outlines supply).length_eq.symm

/-- The entity ids of the tasks, in the order of processing. -/
theorem entityIds_assigned (outlines : List Outline) (supply : Supply) :
    (assigned outlines supply).1.entityIds =
      (List.range outlines.length).map fun place =>
        entityName ((identified outlines supply).2.upcoming place) := by
  change (drawEntityIds (taskIds outlines supply) (identified outlines supply).2).1 = _
  rw [drawEntityIds_eq, length_taskIds]

/-- Every task takes one entity id from the supply, before any of them is placed. -/
theorem supply_assigned (outlines : List Outline) (supply : Supply) :
    (assigned outlines supply).2 = (identified outlines supply).2.ahead outlines.length := by
  change (drawEntityIds (taskIds outlines supply) (identified outlines supply).2).2 = _
  rw [drawEntityIds_eq, length_taskIds]

/-- The sketch with a number is of the task with that number, and has the entity id of that
number. -/
theorem getElem?_sketches {outlines : List Outline} {supply : Supply} {count : Nat}
    {sketch : Sketch}
    (h : (sketches (ordered (identified outlines supply).1)
      (assigned outlines supply).1.entityIds)[count]? = some sketch) :
    (ordered (identified outlines supply).1)[count]? = some (sketch.outline, sketch.place) ∧
      sketch.entityId = entityName ((identified outlines supply).2.upcoming count) := by
  rw [sketches, List.getElem?_zipWith_eq_some] at h
  obtain ⟨task, entityId, found, drawn, rfl⟩ := h
  rw [entityIds_assigned, List.getElem?_map, Option.map_eq_some_iff] at drawn
  obtain ⟨place, inside, rfl⟩ := drawn
  obtain ⟨_, same⟩ := List.getElem?_eq_some_iff.mp inside
  rw [List.getElem_range] at same
  exact ⟨found, by rw [same]⟩

namespace Run

variable {layout : Layout} {outlines : List Outline} {toolsets : ToolsetSource}
  {options : CompileOptions} {supply : Supply} (run : Run layout outlines toolsets options supply)

/-- There is one node for each task. -/
theorem length_placed : run.placed.length = outlines.length := by
  rw [← length_taskIds outlines supply, taskIds, orderedIds, ← run.map_entry, List.length_map,
    List.length_map]

/-- The task that is placed in a call is the one with that number, with the entity id of that
number. -/
theorem sketch_getElem? {count : Nat} {task : PlacedTask} (h : run.placed[count]? = some task) :
    (ordered (identified outlines supply).1)[count]? = some task.entry ∧
      task.sketch.entityId = entityName ((identified outlines supply).2.upcoming count) := by
  apply getElem?_sketches
  rw [← run.sketches_eq, List.getElem?_map, h]
  rfl

end Run

end Compilation

end PlanGraph
