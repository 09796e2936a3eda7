import Mathlib.Data.List.Forall2
import PlanGraph.Compile.Inputs

/-!
# Inputs that are read again

The input of a canvas for a variable is an object of one form, whatever the variable is: it has
seven members, a flag among them, and an array with a value for each object in the array of the
variable (`CanvasInput.Shows`). What is filled in, left out and cut down in a first reading stays as
it is in a second one, of a resource (`CanvasInput.resource?_of_resource?`), of a value
(`CanvasInput.value?_of_value?`) and so of the whole (`CanvasInput.ofObject_ofObject`).
-/

namespace PlanGraph

namespace CanvasInput

/-! ## Resources -/

/-- A resource is an object with a name and a file type that count as true. -/
structure IsComplete (resource : Json) : Prop where
  object : resource.isObject = true
  name : (resource.getD "name").truthy = true
  fileType : (resource.getD "fileType").truthy = true

/-- A resource is kept exactly if it is complete, and then its name and its file type are. -/
theorem resource?_eq_some_iff {resource kept : Json} :
    resource? resource = some kept ↔ IsComplete resource ∧
      kept = .obj [("name", resource.getD "name"), ("fileType", resource.getD "fileType")] := by
  cases resource with
  | obj members =>
      change (if ((Json.obj members).getD "name").truthy &&
        ((Json.obj members).getD "fileType").truthy then _ else _) = some kept ↔ _
      rw [Option.ite_none_right_eq_some, Bool.and_eq_true, Option.some.injEq, eq_comm (b := kept)]
      exact and_congr_left' ⟨fun both => ⟨rfl, both.1, both.2⟩, fun h => ⟨h.name, h.fileType⟩⟩
  | _ => exact iff_of_false nofun fun h => Bool.false_ne_true h.1.object

/-- A resource that was kept is complete, and kept as it is. -/
theorem resource?_of_resource? {resource kept : Json} (found : resource? resource = some kept) :
    resource? kept = some kept := by
  obtain ⟨complete, rfl⟩ := resource?_eq_some_iff.mp found
  exact resource?_eq_some_iff.mpr ⟨⟨rfl, complete.name, complete.fileType⟩, rfl⟩

/-- A resource that is kept, or none, is kept as it is. -/
theorem resource?_getD (resource : Json) :
    resource? ((resource? resource).getD .null) = resource? resource := by
  rcases found : resource? resource with _ | kept
  · rfl
  · exact resource?_of_resource? found

/-! ## Values -/

/-- What the canvas shows for an object among the values of a variable. -/
def shown (item : Json) : Json :=
  .obj ([("type", item.getD "type"), ("text", item.getD "text")] ++
    Json.memberIf "resource" (resource? (item.getD "resource")))

/-- The values are shown one by one; what is no object is passed over. -/
theorem filterMap_value? (items : List Json) :
    items.filterMap value? = (items.filter Json.isObject).map shown := by
  rw [← List.filterMap_eq_map, List.filterMap_filter]
  refine List.filterMap_congr fun item _ => ?_
  cases item with
  | obj members => rfl
  | _ => rfl

/-- A value is shown with its resource, if that is complete. -/
theorem get?_resource_shown (item : Json) :
    (shown item).get? "resource" = resource? (item.getD "resource") := by
  rw [shown]
  rcases resource? (item.getD "resource") with _ | kept
  · rfl
  · rfl

/-- What is shown for a value is shown as it is. -/
theorem shown_shown (item : Json) : shown (shown item) = shown item := by
  have type : (shown item).getD "type" = item.getD "type" := rfl
  have text : (shown item).getD "text" = item.getD "text" := rfl
  have resource : resource? ((shown item).getD "resource") = resource? (item.getD "resource") := by
    rw [Json.getD, get?_resource_shown, resource?_getD]
  rw [shown, type, text, resource]
  rfl

/-- An entry shows a value: it has its type and its text, null where one of them is missing, and a
resource exactly if that of the value is complete, with the name and the file type of that one. -/
structure Shows (item entry : Json) : Prop where
  type : entry.get? "type" = some (item.getD "type")
  text : entry.get? "text" = some (item.getD "text")
  resource : ∀ kept, entry.get? "resource" = some kept ↔ IsComplete (item.getD "resource") ∧
    kept = .obj [("name", (item.getD "resource").getD "name"),
      ("fileType", (item.getD "resource").getD "fileType")]

/-- What is shown for a value shows it. -/
theorem shows_shown (item : Json) : Shows item (shown item) where
  type := rfl
  text := rfl
  resource kept := by rw [get?_resource_shown, resource?_eq_some_iff]

/-! ## Variables -/

/-- The names of the members that an input has. -/
def memberNames : List String :=
  ["variableId", "variableType", "name", "value", "description", "required", "resourceTypes"]

/-- An input is read as it is. -/
theorem ofObject_ofObject (input : Json) : ofObject (ofObject input) = ofObject input := by
  have values : ((ofObject input).itemsOf "value").filterMap value? =
      (input.itemsOf "value").filterMap value? := by
    change ((input.itemsOf "value").filterMap value?).filterMap value? = _
    rw [filterMap_value?, filterMap_value?]
    have objects : (((input.itemsOf "value").filter Json.isObject).map shown).filter Json.isObject =
        ((input.itemsOf "value").filter Json.isObject).map shown := by
      refine List.filter_eq_self.mpr fun entry listed => ?_
      obtain ⟨item, -, rfl⟩ := List.mem_map.mp listed
      rfl
    rw [objects, List.map_map]
    exact List.map_congr_left fun item _ => shown_shown item
  rw [ofObject, values]
  rfl

/-- **Inputs have one form, and keep it.** For every object there is an input. It has seven members,
among them a flag that tells whether the object's own counts as true, and an array of entries that
show, one by one, the objects in the array of values that the object has; the others are those of
the object, null where one is missing. Read as a variable again, the input is the same. -/
theorem exists_fixed_input (members : List (String × Json)) :
    ∃ written entries, ofJson (.obj members) = .ok (.obj written) ∧
      written.map Prod.fst = memberNames ∧
      (∀ name ∈ memberNames, name ≠ "value" → name ≠ "required" →
        Json.member? name written = some ((Json.obj members).getD name)) ∧
      Json.member? "required" written =
        some (.bool ((Json.obj members).getD "required").truthy) ∧
      Json.member? "value" written = some (.arr entries) ∧
      List.Forall₂ Shows (((Json.obj members).itemsOf "value").filter Json.isObject) entries ∧
      ofJson (.obj written) = .ok (.obj written) := by
  refine ⟨_, ((Json.obj members).itemsOf "value").filterMap value?, rfl, rfl, ?_, rfl, rfl, ?_, ?_⟩
  · simp only [memberNames, List.forall_mem_cons]
    refine ⟨fun _ _ => rfl, fun _ _ => rfl, fun _ _ => rfl, fun apart => absurd rfl apart,
      fun _ _ => rfl, fun _ apart => absurd rfl apart, fun _ _ => rfl, List.forall_mem_nil _⟩
  · rw [filterMap_value?, List.forall₂_map_right_iff]
    exact List.forall₂_same.mpr fun item _ => shows_shown item
  · exact congrArg Except.ok (ofObject_ofObject (.obj members))

/-- A number among the values is passed over, a resource without a file type is left out, and every
text that is not empty is a yes. -/
example :
    ofObject (.obj [("required", .str "no"), ("name", .int 7), ("value", .arr [.int 1,
      .obj [("text", .str "a"), ("resource", .obj [("name", .str "f"), ("fileType", .null)])]])]) =
    .obj [("variableId", .null), ("variableType", .null), ("name", .int 7),
      ("value", .arr [.obj [("type", .null), ("text", .str "a")]]), ("description", .null),
      ("required", .bool true), ("resourceTypes", .null)] := rfl

end CanvasInput

end PlanGraph
