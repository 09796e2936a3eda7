import PlanGraph.Proofs.Json.ReadBack.Layout

/-!
# Values that are read back

The reader undoes the indented printer (`read_indented`) and the printer on one line
(`read_spaced`) on each value that is legible: no object in it repeats a name, its integers have no
more digits than the reader takes, and each of its floating numbers is read back from its own text
(`Legible`). The induction is on how the value is built; each printer lays a container out in its
own way.
-/

namespace PlanGraph.Json

/-! ## Legible values -/

/-- The reader gives back each part of the value. -/
inductive Legible : Json → Prop where
  /-- The null value. -/
  | null : Legible null
  /-- A flag. -/
  | bool (b : Bool) : Legible (bool b)
  /-- An integer with as many digits as the reader takes. -/
  | int {n : Int} (short : (Nat.toDigits 10 n.natAbs).length ≤ Text.maxIntegerDigits) :
      Legible (int n)
  /-- A floating number that is read back from its own text. -/
  | float {x : Binary64} (read : readPlain (writeFloat x) = .ok (float x, [])) : Legible (float x)
  /-- A string. -/
  | str (s : String) : Legible (str s)
  /-- An array of legible items. -/
  | arr {items : List Json} (each : ∀ item ∈ items, Legible item) : Legible (arr items)
  /-- An object with legible values under different names. -/
  | obj {members : List (String × Json)} (names : (members.map Prod.fst).Nodup)
      (each : ∀ member ∈ members, Legible member.2) : Legible (obj members)

namespace Legible

attribute [simp] null bool str

variable {members : List (String × Json)} {name : String} {value : Json}

@[simp]
theorem int_iff {n : Int} :
    Legible (.int n) ↔ (Nat.toDigits 10 n.natAbs).length ≤ Text.maxIntegerDigits :=
  ⟨fun | .int short => short, .int⟩

@[simp]
theorem arr_iff {items : List Json} : Legible (.arr items) ↔ ∀ item ∈ items, Legible item :=
  ⟨fun | .arr each => each, .arr⟩

@[simp]
theorem obj_iff :
    Legible (.obj members) ↔
      (members.map Prod.fst).Nodup ∧ ∀ member ∈ members, Legible member.2 :=
  ⟨fun | .obj names each => ⟨names, each⟩, fun h => .obj h.1 h.2⟩

/-- An array of texts is legible. -/
theorem ofStrings (texts : List String) : Legible (ofStrings texts) := by
  refine .arr fun item listed => ?_
  obtain ⟨s, -, rfl⟩ := List.mem_map.mp listed
  exact .str s

/-- What a legible object holds is legible. -/
theorem of_member? (h : Legible (.obj members)) (found : member? name members = some value) :
    Legible value :=
  (obj_iff.mp h).2 (name, value) (mem_of_member? found)

/-- A member of a legible value is legible, and so is the null in place of one that is missing. -/
theorem getD (h : Legible value) (name : String) : Legible (value.getD name) := by
  cases value with
  | obj members =>
      change Legible ((Json.member? name members).getD .null)
      cases found : Json.member? name members with
      | none => exact .null
      | some member => exact h.of_member? found
  | _ => exact .null

/-- The items of a member of a legible value are legible. -/
theorem itemsOf (h : Legible value) (name : String) :
    ∀ item ∈ value.itemsOf name, Legible item := by
  unfold Json.itemsOf
  split
  · rename_i items found
    have listed := h.getD name
    rw [Json.getD, found] at listed
    exact arr_iff.mp listed
  · nofun

/-- What a legible object holds under either spelling of a key is legible. -/
theorem of_value? {key : Key} (h : Legible (.obj members))
    (found : key.value? members = some value) : Legible value := by
  rw [Key.value?_eq_or, Option.or_eq_some_iff] at found
  rcases found with written | ⟨-, plain⟩
  · exact h.of_member? written
  · exact h.of_member? plain

/-- A member that may be left out is legible where what is written of it is. -/
theorem of_mem_memberIf {α : Type} {a? : Option α} {write : α → Json}
    (each : ∀ a, Legible (write a)) :
    ∀ member ∈ memberIf name (a?.map write), Legible member.2 := by
  intro member listed
  cases a? with
  | none => cases listed
  | some a =>
      obtain rfl := List.mem_singleton.mp listed
      exact each a

end Legible

/-- A member that may be left out has no name but its own. -/
theorem names_memberIf (name : String) (value : Option Json) :
    ((memberIf name value).map Prod.fst).Sublist [name] := by
  cases value with
  | none => exact List.nil_sublist _
  | some value => exact List.Sublist.refl _

/-! ## The indented printer -/

section

variable {value : Json}

theorem indentedItems_eq_row (depth : Nat) {items : List Json} (nonempty : items ≠ []) :
    indentedItems depth items =
      newLine depth ++ row (newLine depth) (items.map (writeIndented depth)) := by
  induction items with
  | nil => exact absurd rfl nonempty
  | cons item more ih =>
      cases more with
      | nil => rw [indentedItems, List.map_cons, List.map_nil, row]
      | cons next more =>
          rw [indentedItems.eq_3 _ _ _ (by simp), ih (List.cons_ne_nil _ _),
            row_map_cons_cons]
          simp only [List.append_assoc, List.cons_append, List.nil_append]

theorem indentedMembers_eq_row (depth : Nat) {members : List (String × Json)}
    (nonempty : members ≠ []) :
    indentedMembers depth members =
      newLine depth ++ row (newLine depth) (members.map (memberText (writeIndented depth))) := by
  induction members with
  | nil => exact absurd rfl nonempty
  | cons member more ih =>
      obtain ⟨name, value⟩ := member
      cases more with
      | nil =>
          rw [indentedMembers, List.map_cons, List.map_nil, row, memberText]
          simp only [List.append_assoc]
      | cons next more =>
          rw [indentedMembers.eq_3 _ _ _ _ (by simp), ih (List.cons_ne_nil _ _),
            row_map_cons_cons, memberText]
          simp only [List.append_assoc, List.cons_append, List.nil_append]

/-- Each legible value is read back from its text at any depth. -/
theorem Legible.readsBack_indented (h : Legible value) (depth : Nat) :
    ReadsBack value (writeIndented depth value) := by
  induction h generalizing depth with
  | null => exact .of_plain rfl
  | bool b =>
      cases b with
      | false => exact .of_plain rfl
      | true => exact .of_plain rfl
  | int short => exact .of_plain (readPlain_writeInt short)
  | float read => exact .of_plain read
  | str s => exact .str s
  | @arr items _ ih =>
      cases items with
      | nil => exact fun fuel rest _ enough => by cases fuel <;> first | omega | rfl
      | cons item more =>
          rw [writeIndented, indentedItems_eq_row _ (List.cons_ne_nil _ _), ← List.cons_append]
          exact .arr (.newLine _) (.newLine _) (.newLine _) (List.cons_ne_nil _ _)
            fun item listed => ih item listed (depth + 1)
  | @obj members names _ ih =>
      cases members with
      | nil => exact fun fuel rest _ enough => by cases fuel <;> first | omega | rfl
      | cons member more =>
          rw [writeIndented, indentedMembers_eq_row _ (List.cons_ne_nil _ _), ← List.cons_append]
          exact .obj (.newLine _) (.newLine _) (.newLine _) (List.cons_ne_nil _ _) names
            fun member listed => ih member listed (depth + 1)

/-- **The reader undoes the indented printer** on every legible value. -/
theorem read_indented (h : Legible value) : read (indented value) = .ok value := by
  rw [read, indented, String.toList_ofList, (h.readsBack_indented 0).readText_eq]
  rfl

/-- One half is among them. -/
example :
    read (indented (float (.ofDecimal false 5 (-1)))) = .ok (float (.ofDecimal false 5 (-1))) :=
  read_indented (.float (by decide +kernel))

/-! ## The printer on one line -/

theorem writeItems_eq_row (items : List Json) :
    writeItems .spaced items = row [' '] (items.map (write .spaced)) := by
  induction items with
  | nil => rfl
  | cons item more ih =>
      cases more with
      | nil => rfl
      | cons next more =>
          rw [writeItems.eq_3 _ _ _ (by simp), ih, row_map_cons_cons]
          rfl

theorem writeMembers_eq_row (members : List (String × Json)) :
    writeMembers .spaced members = row [' '] (members.map (memberText (write .spaced))) := by
  induction members with
  | nil => rfl
  | cons member more ih =>
      obtain ⟨name, value⟩ := member
      cases more with
      | nil =>
          rw [writeMembers, List.map_cons, List.map_nil, row, memberText, List.append_assoc]
          rfl
      | cons next more =>
          rw [writeMembers.eq_3 _ _ _ _ (by simp), ih, row_map_cons_cons, memberText]
          simp only [Separators.spaced, List.append_assoc, List.cons_append, List.nil_append]

/-- Each legible value is read back from its text on one line. -/
theorem Legible.readsBack_spaced (h : Legible value) : ReadsBack value (write .spaced value) := by
  induction h with
  | null => exact .of_plain rfl
  | bool b =>
      cases b with
      | false => exact .of_plain rfl
      | true => exact .of_plain rfl
  | int short => exact .of_plain (readPlain_writeInt short)
  | float read => exact .of_plain read
  | str s => exact .str s
  | @arr items _ ih =>
      cases items with
      | nil => exact fun fuel rest _ enough => by cases fuel <;> first | omega | rfl
      | cons item more =>
          have read := ReadsBack.arr .nil .space .nil (List.cons_ne_nil item more) ih
          rw [List.append_nil] at read
          rw [write, writeItems_eq_row]
          exact read
  | @obj members names _ ih =>
      cases members with
      | nil => exact fun fuel rest _ enough => by cases fuel <;> first | omega | rfl
      | cons member more =>
          have read := ReadsBack.obj .nil .space .nil (List.cons_ne_nil member more) names ih
          rw [List.append_nil] at read
          rw [write, writeMembers_eq_row]
          exact read

/-- **The reader undoes the printer on one line** on every legible value. -/
theorem read_spaced (h : Legible value) : read (spaced value) = .ok value := by
  rw [read, spaced, String.toList_ofList, h.readsBack_spaced.readText_eq]
  rfl

end

end PlanGraph.Json
