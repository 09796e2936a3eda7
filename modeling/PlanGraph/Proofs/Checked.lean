import Mathlib.Data.List.Forall2
import PlanGraph.Patch.Changes
import PlanGraph.Proofs.Outcome

/-!
# When checks pass

A check passes exactly when each of its parts does, and its value is put together from theirs. The
lemmas say so for every way in which checks are combined (`map_eq_passed_iff`, `seq_eq_passed_iff`,
`itemsFrom_eq_passed_iff`, `guard_eq_passed_iff`) and for every way in which a member is looked up
(`Key.required_eq_passed_iff`, `Key.optional_eq_passed_iff`, `Changes.checkMember_eq_some_iff`,
`Changes.checkMember_eq_none_iff`).
-/

namespace PlanGraph

namespace Checked

variable {α β : Type}

/-! ## Combined checks -/

@[simp]
theorem pure_eq_passed_iff {value a : α} : (pure value : Checked α) = passed a ↔ value = a := by
  change passed value = passed a ↔ _
  simp

@[simp]
theorem fail_ne_passed {cause : Cause} {a : α} : (fail cause : Checked α) ≠ passed a := by
  simp [fail]

/-- A function of what is read passes when the reading does. -/
theorem map_eq_passed_iff {f : α → β} {x : Checked α} {b : β} :
    f <$> x = passed b ↔ ∃ a, x = passed a ∧ f a = b := by
  rcases x with a | ⟨first, more⟩
  · simp [Functor.map, ap]
  · simp [Functor.map, ap]

/-- Checks side by side pass when both do. -/
theorem seq_eq_passed_iff {f : Checked (α → β)} {x : Checked α} {b : β} :
    f <*> x = passed b ↔ ∃ g a, f = passed g ∧ x = passed a ∧ g a = b := by
  rcases f with g | ⟨first, more⟩
  · rcases x with a | ⟨first, more⟩
    · simp [Seq.seq, ap]
    · simp [Seq.seq, ap]
  · simp [Seq.seq, ap]

/-- Seen from above, a check passes as before. -/
@[simp]
theorem under_eq_passed_iff {segment : Segment} {x : Checked α} {a : α} :
    x.under segment = passed a ↔ x = passed a := by
  rcases x with value | ⟨first, more⟩
  · simp [under]
  · simp [under]

/-- A further rule lets the values through that keep it. -/
theorem guard_eq_passed_iff {x : Checked α} {holds : α → Bool} {cause : Cause} {a : α} :
    x.guard holds cause = passed a ↔ x = passed a ∧ holds a = true := by
  rcases x with value | ⟨first, more⟩
  · by_cases kept : holds value = true
    · simp only [guard, kept, if_true]
      constructor
      · intro same
        cases same
        exact ⟨rfl, kept⟩
      · exact fun h => h.1
    · simp only [guard, kept]
      constructor
      · intro same
        exact absurd same fail_ne_passed
      · rintro ⟨same, holds⟩
        cases same
        exact absurd holds kept
  · simp [guard]

/-- The items of a list pass when each of them does. -/
theorem itemsFrom_eq_passed_iff {check : α → Checked β} {index : Nat} {items : List α}
    {values : List β} :
    itemsFrom check index items = passed values ↔
      List.Forall₂ (fun item value => check item = passed value) items values := by
  induction items generalizing index values with
  | nil =>
      simp only [itemsFrom, passed.injEq, List.forall₂_nil_left_iff]
      exact eq_comm
  | cons item rest ih =>
      rw [itemsFrom, seq_eq_passed_iff, List.forall₂_cons_left_iff]
      constructor
      · rintro ⟨g, more, first, later, rfl⟩
        obtain ⟨value, found, rfl⟩ := map_eq_passed_iff.mp first
        exact ⟨value, more, under_eq_passed_iff.mp found, ih.mp later, rfl⟩
      · rintro ⟨value, more, found, later, rfl⟩
        exact ⟨List.cons value, more,
          map_eq_passed_iff.mpr ⟨value, under_eq_passed_iff.mpr found, rfl⟩, ih.mpr later, rfl⟩

/-- Every value that was read from a list was read from one of its items. -/
theorem exists_item_of_mem {check : α → Checked β} {items : List α} {values : List β}
    (each : List.Forall₂ (fun item value => check item = passed value) items values)
    {value : β} (h : value ∈ values) : ∃ item ∈ items, check item = passed value := by
  induction each with
  | nil => exact absurd h List.not_mem_nil
  | @cons item first rest more found _ ih =>
      rcases List.mem_cons.mp h with rfl | h
      · exact ⟨item, List.mem_cons_self, found⟩
      · obtain ⟨item, hitem, found⟩ := ih h
        exact ⟨item, List.mem_cons_of_mem _ hitem, found⟩

/-- Every item of a list that was read passed as one of its values. -/
theorem exists_value_of_mem {check : α → Checked β} {items : List α} {values : List β}
    (each : List.Forall₂ (fun item value => check item = passed value) items values)
    {item : α} (h : item ∈ items) : ∃ value ∈ values, check item = passed value := by
  induction each with
  | nil => exact absurd h List.not_mem_nil
  | @cons first value rest more found _ ih =>
      rcases List.mem_cons.mp h with rfl | h
      · exact ⟨value, List.mem_cons_self, found⟩
      · obtain ⟨value, hvalue, found⟩ := ih h
        exact ⟨value, List.mem_cons_of_mem _ hvalue, found⟩

/-- A check is no failure when it passes. -/
theorem orFail_eq_ok_iff {label : String} {x : Checked α} {a : α} :
    x.orFail label = .ok a ↔ x = passed a := by
  rcases x with value | ⟨first, more⟩
  · simp [orFail]
  · simp [orFail]

end Checked

/-! ## Values of one kind -/

namespace Json

theorem text?_eq_some_iff {value : Json} {text : String} :
    value.text? = some text ↔ value = .str text := by
  cases value <;> simp [text?]

theorem checkText_eq_passed_iff {value : Json} {text : String} :
    checkText value = .passed text ↔ value = .str text := by
  cases value <;> simp [checkText]

/-- An object passes when its members do, and nothing else passes. -/
theorem checkRecord_eq_passed_iff {α : Type} {shape : String}
    {check : List (String × Json) → Checked α} {value : Json} {a : α} :
    checkRecord shape check value = .passed a ↔
      ∃ members, value = .obj members ∧ check members = .passed a := by
  cases value <;> simp [checkRecord]

/-- An array passes when its items do, and nothing else passes. -/
theorem checkItems_eq_passed_iff {α : Type} {check : Json → Checked α} {value : Json}
    {values : List α} :
    checkItems check value = .passed values ↔
      ∃ items, value = .arr items ∧
        List.Forall₂ (fun item value => check item = .passed value) items values := by
  cases value <;> simp [checkItems, Checked.itemsFrom_eq_passed_iff]

theorem checkNullable_eq_some_iff {α : Type} {check : Json → Checked α} {value : Json} {a : α} :
    checkNullable check value = .passed (some a) ↔ value ≠ .null ∧ check value = .passed a := by
  cases value <;> simp [checkNullable, Checked.map_eq_passed_iff]

theorem checkNullable_eq_none_iff {α : Type} {check : Json → Checked α} {value : Json} :
    checkNullable check value = .passed none ↔ value = .null := by
  cases value <;> simp [checkNullable, Checked.map_eq_passed_iff]

end Json

/-! ## Members -/

namespace Key

variable {α : Type}

/-- The value that a member has, if it is there. -/
def value? (key : Key) (members : List (String × Json)) : Option Json :=
  (key.find? members).map Prod.snd

/-- The spelling that is written is looked up first. -/
theorem value?_eq_or (key : Key) (members : List (String × Json)) :
    key.value? members =
      (Json.member? key.wire members).or (Json.member? key.plain members) := by
  unfold value? find?
  rcases Json.member? key.wire members with _ | value
  · rcases Json.member? key.plain members with _ | value
    · rfl
    · rfl
  · rfl

/-- A name of one spelling is looked up once. -/
@[simp]
theorem value?_word (name : String) (members : List (String × Json)) :
    (word name).value? members = Json.member? name members := by
  rw [value?_eq_or]
  exact Option.or_self

/-- A member that must be there passes when it is there and its value does. -/
theorem required_eq_passed_iff {key : Key} {check : Json → Checked α}
    {members : List (String × Json)} {a : α} :
    required key check members = .passed a ↔
      ∃ value, key.value? members = some value ∧ check value = .passed a := by
  unfold required value?
  rcases key.find? members with _ | ⟨spelling, value⟩
  · simp [Checked.fail, Checked.under]
  · simp

/-- A member that may be missing passes when its value does, and with its default otherwise. -/
theorem optional_eq_passed_iff {key : Key} {default : α} {check : Json → Checked α}
    {members : List (String × Json)} {a : α} :
    optional key default check members = .passed a ↔
      (key.value? members = none ∧ default = a) ∨
        ∃ value, key.value? members = some value ∧ check value = .passed a := by
  unfold optional value?
  rcases key.find? members with _ | ⟨spelling, value⟩
  · simp
  · simp

end Key

namespace Changes

variable {α : Type}

/-- A member that may be missing or null is read as a value when it is neither. -/
theorem checkMember_eq_some_iff {key : Key} {check : Json → Checked α}
    {members : List (String × Json)} {a : α} :
    checkMember key check members = .passed (some a) ↔
      ∃ value, key.value? members = some value ∧ value ≠ .null ∧ check value = .passed a := by
  simp [checkMember, Key.optional_eq_passed_iff, Json.checkNullable_eq_some_iff]

/-- A member that may be missing or null is read as absent when it is one of them. -/
theorem checkMember_eq_none_iff {key : Key} {check : Json → Checked α}
    {members : List (String × Json)} :
    checkMember key check members = .passed .none ↔
      (key.value? members).getD .null = .null := by
  rw [checkMember, Key.optional_eq_passed_iff]
  rcases key.value? members with _ | value
  · simp
  · simp [Json.checkNullable_eq_none_iff]

end Changes

end PlanGraph
