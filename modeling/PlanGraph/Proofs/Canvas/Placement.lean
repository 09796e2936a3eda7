import PlanGraph.Proofs.Outcome

/-!
# Nodes that are placed

The grid finishes a node: it settles what the node lacks of a position, an id, a title and an entity
id, and leaves the rest (`Node.Completes`). A node that lacks none of them is finished
(`Node.Finished`), and so is every node that the grid returns (`Grid.finished_of_place`). Placed
again, wherever and among whatever nodes, a finished node is returned as it is, and no id is drawn
(`Grid.place_of_finished`).
-/

namespace PlanGraph

namespace Json

variable {name other : String}

/-- A member that was set is found. -/
theorem member?_put_self (name : String) (value : Json) (members : List (String × Json)) :
    member? name (put name value members) = some value := by
  induction members with
  | nil => exact List.lookup_cons_self
  | cons pair rest ih =>
      obtain ⟨key, old⟩ := pair
      rw [put]
      split
      · exact List.lookup_cons_self
      · rename_i apart
        rw [member?, List.lookup_cons, beq_eq_false_iff_ne.mpr (Ne.symm apart)]
        exact ih

/-- The members of other names stay as they are. -/
theorem member?_put_of_ne (apart : other ≠ name) (value : Json) (members : List (String × Json)) :
    member? other (put name value members) = member? other members := by
  induction members with
  | nil => exact List.lookup_cons.trans (by rw [beq_eq_false_iff_ne.mpr apart]; rfl)
  | cons pair rest ih =>
      obtain ⟨key, old⟩ := pair
      rw [put]
      split
      · rename_i same
        rw [member?, List.lookup_cons, member?, List.lookup_cons, same,
          beq_eq_false_iff_ne.mpr apart]
      · rw [member?, List.lookup_cons, member?, List.lookup_cons]
        split
        · rfl
        · exact ih

end Json

namespace Node

/-! ## Finished nodes -/

/-- The payload has a title and an entity id that counts as true. -/
structure FinishedData (members : List (String × Json)) : Prop where
  title : (Json.member? "title" members).isSome = true
  entityId : ((Json.member? "entityId" members).getD .null).truthy = true

/-- Nothing is left to settle about the node. -/
structure Finished (node : Node) : Prop where
  position : node.position.isSome = true
  id : node.id.truthy = true
  data : ∃ members, node.data = .obj members ∧ FinishedData members

/-- The payload is the given one but for a title, if that one has none, and for an entity id, if
that one has none that counts as true. -/
structure CompletesData (given settled : List (String × Json)) : Prop where
  title : Json.member? "title" settled = Json.member? "title" given ∨
    Json.member? "title" given = none
  entityId : Json.member? "entityId" settled = Json.member? "entityId" given ∨
    ((Json.member? "entityId" given).getD .null).truthy = false
  rest : ∀ name, name ≠ "title" → name ≠ "entityId" →
    Json.member? name settled = Json.member? name given

/-- The node is the given one but for a position, if that one has none, for an id, if the given one
does not count as true (of texts, the empty one does not), and for its payload. -/
structure Completes (given settled : Node) : Prop where
  type : settled.type = given.type
  selected : settled.selected = given.selected
  position : settled.position = given.position ∨ given.position = none
  id : settled.id = given.id ∨ given.id.truthy = false
  data : ∃ members members', given.data = .obj members ∧ settled.data = .obj members' ∧
    CompletesData members members'

end Node

namespace Grid

variable {members : List (String × Json)} {request : Placing} {node : Node} {supply rest : Supply}

/-! ## Payloads -/

/-- A payload with a title is kept. -/
theorem withTitle_eq {title : Json} (h : Json.member? "title" members = some title) :
    withTitle members = members := by
  rw [withTitle, h]
  rfl

/-- A payload with an entity id that counts as true is kept, and nothing is drawn for it. -/
theorem withEntity_eq (h : ((Json.member? "entityId" members).getD .null).truthy = true)
    (supply : Supply) : withEntity members supply = (members, supply) := by
  rw [withEntity, h]
  rfl

/-- Every payload has a title in the end. -/
theorem isSome_title_withTitle (members : List (String × Json)) :
    (Json.member? "title" (withTitle members)).isSome = true := by
  rw [withTitle]
  split
  · assumption
  · rw [Json.member?_put_self]
    rfl

/-- Only the title is set. -/
theorem member?_withTitle {name : String} (apart : name ≠ "title")
    (members : List (String × Json)) :
    Json.member? name (withTitle members) = Json.member? name members := by
  rw [withTitle]
  split
  · rfl
  · exact Json.member?_put_of_ne apart _ _

/-- Every payload has an entity id in the end that counts as true. -/
theorem truthy_withEntity (members : List (String × Json)) (supply : Supply) :
    ((Json.member? "entityId" (withEntity members supply).1).getD .null).truthy = true := by
  rw [withEntity]
  split
  · assumption
  · change ((Json.member? "entityId" (Json.put "entityId" (.str ("entity-" ++ _)) members)).getD
      .null).truthy = true
    rw [Json.member?_put_self]
    simp [Json.truthy]

/-- Only the entity id is set. -/
theorem member?_withEntity {name : String} (apart : name ≠ "entityId")
    (members : List (String × Json)) (supply : Supply) :
    Json.member? name (withEntity members supply).1 = Json.member? name members := by
  rw [withEntity]
  split
  · rfl
  · exact Json.member?_put_of_ne apart _ _

/-- The payload that is settled is finished. -/
theorem finishedData_withEntity (members : List (String × Json)) (supply : Supply) :
    Node.FinishedData (withEntity (withTitle members) supply).1 where
  title := by
    rw [member?_withEntity (by decide)]
    exact isSome_title_withTitle members
  entityId := truthy_withEntity _ supply

/-- The payload that is settled completes the given one. -/
theorem completesData_withEntity (members : List (String × Json)) (supply : Supply) :
    Node.CompletesData members (withEntity (withTitle members) supply).1 where
  title := by
    rw [member?_withEntity (by decide)]
    rcases found : Json.member? "title" members with _ | title
    · exact .inr rfl
    · rw [withTitle_eq found, found]
      exact .inl rfl
  entityId := by
    have given : Json.member? "entityId" (withTitle members) = Json.member? "entityId" members :=
      member?_withTitle (by decide) members
    rcases counts : ((Json.member? "entityId" members).getD .null).truthy with _ | _
    · exact .inr rfl
    · rw [← given] at counts
      rw [withEntity_eq counts, given]
      exact .inl rfl
  rest name title entityId := by
    rw [member?_withEntity entityId, member?_withTitle title]

/-! ## Ids -/

/-- An id that counts as true is kept, and nothing is drawn for it. -/
theorem settleId_eq {id : Json} (h : id.truthy = true) (supply : Supply) :
    settleId id supply = (id, supply) := by
  rw [settleId, h]
  rfl

/-- Every id counts as true in the end. -/
theorem truthy_settleId (id : Json) (supply : Supply) :
    (settleId id supply).1.truthy = true := by
  rw [settleId]
  split
  · assumption
  · change (Json.str ("node-" ++ _)).truthy = true
    simp [Json.truthy]

/-! ## Nodes -/

/-- A node is placed where a position is found for it and its payload is an object. The position is
settled first, then the id, and then the payload. -/
theorem place_returns_iff :
    (place request).Returns supply node rest ↔ ∃ spot members,
      position request = .ok spot ∧ request.node.data = .obj members ∧
      (withEntity (withTitle members) (settleId request.node.id supply).2).2 = rest ∧
      { request.node with
        position := some spot
        id := (settleId request.node.id supply).1
        data := .obj (withEntity (withTitle members)
          (settleId request.node.id supply).2).1 } = node := by
  rw [place, Making.returns_bind_iff]
  constructor
  · rintro ⟨spot, _, settled, later⟩
    obtain ⟨settles, rfl⟩ := Making.returns_ofExcept_iff.mp settled
    obtain ⟨id, _, drawn, later⟩ := Making.returns_bind_iff.mp later
    obtain ⟨rfl, rfl⟩ := Making.returns_lift_iff.mp drawn
    split at later
    case h_1 members payload =>
      obtain ⟨data, _, drawn, later⟩ := Making.returns_bind_iff.mp later
      obtain ⟨rfl, rfl⟩ := Making.returns_lift_iff.mp drawn
      obtain ⟨made, left⟩ := Making.returns_pure_iff.mp later
      exact ⟨spot, members, settles, payload, left, made⟩
    case h_2 => cases later
  · rintro ⟨spot, members, settles, payload, left, made⟩
    refine ⟨spot, supply, Making.returns_ofExcept_iff.mpr ⟨settles, rfl⟩, ?_⟩
    refine Making.returns_bind_iff.mpr ⟨_, _, Making.returns_lift_iff.mpr ⟨rfl, rfl⟩, ?_⟩
    rw [payload]
    refine Making.returns_bind_iff.mpr ⟨_, _, Making.returns_lift_iff.mpr ⟨rfl, rfl⟩, ?_⟩
    exact Making.returns_pure_iff.mpr ⟨made, left⟩

/-- A node that is finished is returned as it is, whatever is on the canvas, and no id is drawn. -/
theorem place_of_finished (finished : request.node.Finished) (supply : Supply) :
    (place request).Returns supply request.node supply := by
  obtain ⟨spot, placed⟩ := Option.isSome_iff_exists.mp finished.position
  obtain ⟨members, payload, data⟩ := finished.data
  obtain ⟨title, titled⟩ := Option.isSome_iff_exists.mp data.title
  have settles : position request = .ok spot := by rw [position, placed]
  refine place_returns_iff.mpr ⟨spot, members, settles, payload, ?_, ?_⟩
  · rw [settleId_eq finished.id, withTitle_eq titled, withEntity_eq data.entityId]
  · rw [settleId_eq finished.id, withTitle_eq titled, withEntity_eq data.entityId, ← placed,
      ← payload]

/-- A node that was placed is finished. -/
theorem finished_of_place (returned : (place request).Returns supply node rest) :
    node.Finished := by
  obtain ⟨spot, members, -, -, -, rfl⟩ := place_returns_iff.mp returned
  exact ⟨rfl, truthy_settleId _ _, _, rfl, finishedData_withEntity _ _⟩

/-- A node that was placed completes the one that was given. -/
theorem completes_of_place (returned : (place request).Returns supply node rest) :
    request.node.Completes node := by
  obtain ⟨spot, members, settles, payload, -, rfl⟩ := place_returns_iff.mp returned
  refine ⟨rfl, rfl, ?_, ?_, members, _, payload, rfl, completesData_withEntity _ _⟩
  · rcases placed : request.node.position with _ | given
    · exact .inr rfl
    · rw [position, placed] at settles
      cases settles
      exact .inl rfl
  · rcases counts : request.node.id.truthy with _ | _
    · exact .inr rfl
    · rw [settleId_eq counts]
      exact .inl rfl

/-- **Placing a node twice is placing it once.** A node that the grid returns lacks nothing, and it
is the given node but for what that one lacked: a position, an id, a title or an entity id. Placed
again, among any nodes and edges and with any connections, whether positions are left to the grid or
not, it is returned as it is, and the supply is left as it was. -/
theorem place_idempotent (returned : (place request).Returns supply node rest) :
    request.node.Completes node ∧ node.Finished ∧
      ∀ nodes edges connectTo autoLayout supply',
        (place ⟨node, nodes, edges, connectTo, autoLayout⟩).Returns supply' node supply' :=
  ⟨completes_of_place returned, finished_of_place returned,
    fun _ _ _ _ => place_of_finished (finished_of_place returned)⟩

/-- A node that lacks a position, an id and a title, and has an entity id that counts as false, is
placed beside another one, and then on an empty canvas. -/
theorem place_idempotent_of_bare :
    let source : Node := ⟨.str "n", .str "memo", .obj [("entityId", .str "s")],
      some (.obj [("x", .int 40)]), false⟩
    let bare : Node :=
      ⟨.str "", .str "memo", .obj [("entityId", .int 0), ("note", .null)], none, true⟩
    let node : Node := ⟨.str "node-00000000000000000000000000000001", .str "memo",
      .obj [("entityId", .str "entity-00000000000000000000000000000002"), ("note", .null),
        ("title", .str "Untitled")], some (.obj [("x", .int 440), ("y", origin)]), true⟩
    ∃ rest, (place ⟨bare, [source], [], [⟨.str "memo", .str "s", "source"⟩], true⟩).Returns
        .counting node rest ∧ (place ⟨node, [], [], [], false⟩).Returns rest node rest := by
  intro source bare node
  have shown : ((place ⟨bare, [source], [], [⟨.str "memo", .str "s", "source"⟩],
      true⟩).outcome .counting).1.toOption.map id = some node := by
    decide +kernel
  obtain ⟨_, rest, returned, rfl⟩ := Making.exists_returns_of_part _ _ _ shown
  obtain ⟨-, -, again⟩ := place_idempotent returned
  exact ⟨rest, returned, again _ _ _ _ _⟩

end Grid

end PlanGraph
