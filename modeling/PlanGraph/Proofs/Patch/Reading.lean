import PlanGraph.Proofs.Patch.Run

/-!
# Reading operations

When an operation can be read from a value, and what is known of it then.

* An operation is read from an object that names one of the seven operations, and from its members
  (`Operation.ofJson_eq_ok_iff`).
* The id that an operation read in this way works on is never the empty text
  (`Operation.target_ne_empty`), so it never works on a task without an id.
* Reading ends in a fault only where the name of the operation is an array or an object
  (`Operation.ofJson_ne_fault`).
-/

namespace PlanGraph

/-- The name of an operation is the name of no other one. -/
theorem OperationKind.ofName?_name (kind : OperationKind) : ofName? kind.name = some kind := by
  cases kind <;> decide

namespace Operation

/-! ## Payloads -/

/-- A payload is what the member holds, unless that is null or the empty text. -/
theorem payload?_eq_some_iff {key : Key} {members : List (String × Json)} {value : Json} :
    payload? key members = some value ↔
      key.value? members = some value ∧ value ≠ .null ∧ value ≠ .str "" := by
  unfold payload? Key.value?
  rcases key.find? members with _ | ⟨spelling, found⟩
  · simp
  · by_cases isNull : found = .null
    · subst isNull
      simp only [Option.map_some, Option.some.injEq, reduceCtorEq, false_iff]
      exact fun h => absurd h.1.symm h.2.1
    · by_cases isEmpty : found = .str ""
      · subst isEmpty
        simp only [Option.map_some, Option.some.injEq, reduceCtorEq, false_iff]
        exact fun h => absurd h.1.symm h.2.2
      · split
        · rename_i here
          cases here
          exact absurd rfl isNull
        · rename_i here
          cases here
          exact absurd rfl isEmpty
        · rename_i here
          cases here
          simp only [Option.some.injEq, Option.map_some]
          constructor
          · rintro rfl
            exact ⟨rfl, isNull, isEmpty⟩
          · exact fun h => h.1
        · rename_i absent
          cases absent

/-- The payload that an operation needs is there when the member holds one. -/
theorem payload_eq_ok_iff {key : Key} {kind : OperationKind} {members : List (String × Json)}
    {value : Json} :
    payload key kind members = .ok value ↔
      key.value? members = some value ∧ value ≠ .null ∧ value ≠ .str "" := by
  rw [← payload?_eq_some_iff]
  unfold payload
  rcases payload? key members with _ | found
  · simp
  · simp

/-- An id that was read as a payload is not the empty text. -/
theorem payload_ne_empty {key : Key} {kind : OperationKind} {members : List (String × Json)}
    {id : Json} (h : payload key kind members = .ok id) : some id ≠ some (.str "") := by
  intro same
  exact (payload_eq_ok_iff.mp h).2.2 (Option.some.inj same)

/-! ## Values that are operations -/

/-- An operation is read from an object that has the name of one. -/
theorem ofJson_eq_ok_iff {value : Json} {operation : Operation} :
    ofJson value = .ok operation ↔
      ∃ members name kind, value = .obj members ∧ Json.member? "op" members = some (.str name) ∧
        OperationKind.ofName? name = some kind ∧ ofMembers kind members = .ok operation := by
  constructor
  · intro h
    rcases value with _ | _ | _ | _ | _ | _ | members <;> simp only [ofJson, reduceCtorEq] at h
    split at h
    · cases h
    · cases h
    · split at h
      · rename_i kind found
        obtain ⟨name, text, known⟩ := Option.bind_eq_some_iff.mp found
        have named := Json.text?_eq_some_iff.mp text
        refine ⟨members, name, kind, rfl, ?_, known, mapError_eq_ok_iff.mp h⟩
        rcases hname : Json.member? "op" members with _ | given
        · rw [hname] at named
          cases named
        · rw [hname] at named
          exact congrArg some named
      · cases h
  · rintro ⟨members, name, kind, rfl, named, known, read⟩
    simp [ofJson, named, Json.text?, known, read]

/-- The id of the task or variable that an operation changes or removes. -/
def target? : Operation → Option Json
  | updateTask id _ => some id
  | deleteTask id => some id
  | updateVariable id _ => some id
  | deleteVariable id => some id
  | _ => none

/-- An operation that was read works on no empty id. -/
theorem target_ne_empty {value : Json} {operation : Operation} (h : ofJson value = .ok operation) :
    operation.target? ≠ some (.str "") := by
  obtain ⟨members, name, kind, rfl, -, -, read⟩ := ofJson_eq_ok_iff.mp h
  cases kind with
  | updateTitle =>
      cases read
      simp [target?]
  | createTask =>
      obtain ⟨body, -, made⟩ := bind_eq_ok_iff.mp read
      cases made
      simp [target?]
  | updateTask =>
      obtain ⟨id, found, rest⟩ := bind_eq_ok_iff.mp read
      obtain ⟨changes, -, made⟩ := bind_eq_ok_iff.mp rest
      cases made
      exact payload_ne_empty found
  | deleteTask =>
      obtain ⟨id, found, made⟩ := bind_eq_ok_iff.mp read
      cases made
      exact payload_ne_empty found
  | createVariable =>
      obtain ⟨body, -, made⟩ := bind_eq_ok_iff.mp read
      cases made
      simp [target?]
  | updateVariable =>
      obtain ⟨id, found, rest⟩ := bind_eq_ok_iff.mp read
      obtain ⟨changes, -, made⟩ := bind_eq_ok_iff.mp rest
      cases made
      exact payload_ne_empty found
  | deleteVariable =>
      obtain ⟨id, found, made⟩ := bind_eq_ok_iff.mp read
      cases made
      exact payload_ne_empty found

/-- Operations that were read work on no empty ids. -/
theorem targets_ne_empty {values : List Json} {operations : List Operation}
    (reads : List.Forall₂ (fun value operation => ofJson value = .ok operation) values operations) :
    ∀ operation ∈ operations, operation.target? ≠ some (.str "") := by
  induction reads with
  | nil => exact fun _ h => absurd h List.not_mem_nil
  | cons read _ ih =>
      intro operation h
      rcases List.mem_cons.mp h with rfl | h
      · exact target_ne_empty read
      · exact ih operation h

/-! ## Values that can be looked at -/

/-- The name of an operation, if it has one, is no array and no object. -/
def PlainlyNamed (value : Json) : Prop :=
  ∀ name, value.get? "op" = some name → Canvas.keyable name = true

/-- A value with a plain name is read or refused. -/
theorem ofJson_ne_fault {value : Json} (plain : PlainlyNamed value) (fault : Fault) :
    ofJson value ≠ .error (.fault fault) := by
  rcases value with _ | _ | _ | _ | _ | _ | members <;>
    simp only [ofJson, ne_eq, Except.error.injEq, reduceCtorEq, not_false_eq_true]
  have keyable : Canvas.keyable ((Json.member? "op" members).getD .null) = true := by
    rcases hname : Json.member? "op" members with _ | name
    · rfl
    · exact plain name hname
  split
  · rename_i isArray
    rw [isArray] at keyable
    cases keyable
  · rename_i isObject
    rw [isObject] at keyable
    cases keyable
  · split
    · intro h
      obtain ⟨failure, -, same⟩ := mapError_eq_error_iff.mp h
      cases same
    · simp

end Operation

end PlanGraph
