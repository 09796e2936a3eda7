import PlanGraph.Proofs.Json.ReadBack.Values
import PlanGraph.Proofs.Patch.Reading
import PlanGraph.Patch.Script

/-!
# Operations that are written legibly

An operation that was read from a legible value is written as one (`Operation.legible_toJson`): what
it took from the value is legible already, and changes are written under names that differ. So the
text of a list of such operations is read as what they are written as (`Operation.read_scriptOf`).
-/

namespace PlanGraph

open Json (Legible)

/-- A value of a variable is written legibly. -/
theorem VariableValue.legible_dump (value : VariableValue) : Legible value.dump := by
  refine .obj (List.Sublist.nodup (?_ : List.Sublist _ (["type"] ++ ["text"] ++ ["resource"]))
    (by decide)) ?_
  · simp only [List.map_append]
    exact ((List.Sublist.refl _).append (Json.names_memberIf _ _)).append (Json.names_memberIf _ _)
  · simp only [List.forall_mem_append]
    refine ⟨⟨?_, Legible.of_mem_memberIf .str⟩, Legible.of_mem_memberIf fun resource => ?_⟩
    · rintro member listed
      obtain rfl := List.mem_singleton.mp listed
      exact .str _
    · simp [Resource.dump]

/-- Changes are written legibly. -/
theorem Changes.legible_dump (changes : Changes) : Legible changes.dump := by
  refine .obj (List.Sublist.nodup (?_ : List.Sublist _ (["title"] ++ ["prompt"] ++
    ["dependentTasks"] ++ ["toolsets"] ++ ["variableType"] ++ ["name"] ++ ["description"] ++
    ["required"] ++ ["resourceTypes"] ++ ["value"])) (by decide)) ?_
  · simp only [List.map_append]
    repeat' first
      | exact Json.names_memberIf _ _
      | refine List.Sublist.append ?_ ?_
  · simp only [List.forall_mem_append]
    have values (list : List VariableValue) : Legible (.arr (list.map VariableValue.dump)) := by
      refine .arr fun item listed => ?_
      obtain ⟨value, -, rfl⟩ := List.mem_map.mp listed
      exact value.legible_dump
    exact ⟨⟨⟨⟨⟨⟨⟨⟨⟨.of_mem_memberIf .str, .of_mem_memberIf .str⟩, .of_mem_memberIf .ofStrings⟩,
      .of_mem_memberIf .ofStrings⟩, .of_mem_memberIf fun _ => .str _⟩, .of_mem_memberIf .str⟩,
      .of_mem_memberIf .str⟩, .of_mem_memberIf .bool⟩,
      .of_mem_memberIf fun types => .ofStrings (types.map ResourceType.name)⟩,
      .of_mem_memberIf values⟩

namespace Operation

variable {name key : String} {value : Json}

/-- The name of an operation and one thing more. -/
theorem legible_of_one (other : "op" ≠ key) (h : Legible value) :
    Legible (.obj [("op", .str name), (key, value)]) :=
  .obj (by simp [other]) (by simp [h])

/-- The name of an update, what it is about and the changes. -/
theorem legible_of_update {changes : Changes} (other : "op" ≠ key) (same : key ≠ "data")
    (h : Legible value) :
    Legible (.obj [("op", .str name), (key, value), ("data", changes.dump)]) :=
  .obj (by simp [other, same]) (by simp [h, changes.legible_dump])

/-- **An operation that was read from a legible value is written as one.** -/
theorem legible_toJson {operation : Operation} (h : ofJson value = .ok operation)
    (legible : Legible value) : Legible operation.toJson := by
  obtain ⟨members, name, kind, rfl, -, -, read⟩ := ofJson_eq_ok_iff.mp h
  have given {key : Key} {value : Json} (h : payload key kind members = .ok value) :
      Legible value :=
    legible.of_value? (payload_eq_ok_iff.mp h).1
  cases kind with
  | updateTitle =>
      cases read
      have titled : Legible ((Json.member? "title" members).getD .null) := legible.getD "title"
      generalize (Json.member? "title" members).getD .null = title at titled
      cases title with
      | null =>
          change Legible (.obj [("op", .str OperationKind.updateTitle.name)])
          simp
      | _ => exact legible_of_one (by decide) titled
  | createTask =>
      obtain ⟨body, body_given, made⟩ := bind_eq_ok_iff.mp read
      cases made
      exact legible_of_one (by decide) (given body_given)
  | updateTask =>
      obtain ⟨id, id_given, rest⟩ := bind_eq_ok_iff.mp read
      obtain ⟨changes, -, made⟩ := bind_eq_ok_iff.mp rest
      cases made
      exact legible_of_update (by decide) (by decide) (given id_given)
  | deleteTask =>
      obtain ⟨id, id_given, made⟩ := bind_eq_ok_iff.mp read
      cases made
      exact legible_of_one (by decide) (given id_given)
  | createVariable =>
      obtain ⟨body, body_given, made⟩ := bind_eq_ok_iff.mp read
      cases made
      exact legible_of_one (by decide) (given body_given)
  | updateVariable =>
      obtain ⟨id, id_given, rest⟩ := bind_eq_ok_iff.mp read
      obtain ⟨changes, -, made⟩ := bind_eq_ok_iff.mp rest
      cases made
      exact legible_of_update (by decide) (by decide) (given id_given)
  | deleteVariable =>
      obtain ⟨id, id_given, made⟩ := bind_eq_ok_iff.mp read
      cases made
      exact legible_of_one (by decide) (given id_given)

/-- **The text of operations is read as what they are written as**, when each of them was read from
a legible value. -/
theorem read_scriptOf {operations : List Operation}
    (read : ∀ operation ∈ operations, ∃ value, Legible value ∧ ofJson value = .ok operation) :
    Json.read (scriptOf operations) = .ok (.arr (operations.map toJson)) := by
  refine Json.read_indented (.arr fun item listed => ?_)
  obtain ⟨operation, here, rfl⟩ := List.mem_map.mp listed
  obtain ⟨value, legible, read⟩ := read operation here
  exact legible_toJson read legible

end Operation

end PlanGraph
