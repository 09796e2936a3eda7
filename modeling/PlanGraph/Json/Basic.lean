import PlanGraph.Number.Mixed

/-!
# JSON values

A JSON value with its numbers kept exact and its members in written order. Integers and floating
numbers are different values even where they are equal in size.
-/

namespace PlanGraph

/-- A JSON value. -/
inductive Json where
  /-- The null value. -/
  | null
  /-- A flag. -/
  | bool (b : Bool)
  /-- An integer. -/
  | int (n : Int)
  /-- A floating number. -/
  | float (x : Binary64)
  /-- A text. -/
  | str (s : String)
  /-- An array. -/
  | arr (items : List Json)
  /-- An object, as its members in written order. -/
  | obj (members : List (String × Json))
deriving Inhabited

namespace Json

/-! ## Equality -/

mutual

/-- Structural equality of two values. -/
def identical : Json → Json → Bool
  | null, null => true
  | bool a, bool b => a == b
  | int a, int b => a == b
  | float a, float b => decide (a = b)
  | str a, str b => a == b
  | arr a, arr b => identicalItems a b
  | obj a, obj b => identicalMembers a b
  | _, _ => false

/-- Structural equality of two lists of items. -/
def identicalItems : List Json → List Json → Bool
  | [], [] => true
  | a :: as, b :: bs => identical a b && identicalItems as bs
  | _, _ => false

/-- Structural equality of two lists of members. -/
def identicalMembers : List (String × Json) → List (String × Json) → Bool
  | [], [] => true
  | (j, a) :: as, (k, b) :: bs => j == k && identical a b && identicalMembers as bs
  | _, _ => false

end

mutual

theorem eq_of_identical : ∀ {a b : Json}, identical a b = true → a = b
  | null, b, h => by cases b <;> simp_all [identical]
  | bool _, b, h => by cases b <;> simp_all [identical]
  | int _, b, h => by cases b <;> simp_all [identical]
  | float _, b, h => by cases b <;> simp_all [identical]
  | str _, b, h => by cases b <;> simp_all [identical]
  | arr _, b, h => by
    cases b <;> simp only [identical, Bool.false_eq_true] at h
    rw [eq_of_identicalItems h]
  | obj _, b, h => by
    cases b <;> simp only [identical, Bool.false_eq_true] at h
    rw [eq_of_identicalMembers h]

theorem eq_of_identicalItems : ∀ {as bs : List Json}, identicalItems as bs = true → as = bs
  | [], bs, h => by cases bs <;> simp_all [identicalItems]
  | _ :: _, bs, h => by
    cases bs <;> simp only [identicalItems, Bool.and_eq_true, Bool.false_eq_true] at h
    rw [eq_of_identical h.1, eq_of_identicalItems h.2]

theorem eq_of_identicalMembers :
    ∀ {as bs : List (String × Json)}, identicalMembers as bs = true → as = bs
  | [], bs, h => by cases bs <;> simp_all [identicalMembers]
  | (j, a) :: _, bs, h => by
    cases bs with
    | nil => simp [identicalMembers] at h
    | cons b bs =>
      obtain ⟨k, b⟩ := b
      simp only [identicalMembers, Bool.and_eq_true, beq_iff_eq] at h
      rw [h.1.1, eq_of_identical h.1.2, eq_of_identicalMembers h.2]

end

mutual

theorem identical_self : ∀ a : Json, identical a a = true
  | null => rfl
  | bool _ => by simp [identical]
  | int _ => by simp [identical]
  | float _ => by simp [identical]
  | str _ => by simp [identical]
  | arr items => by simp [identical, identicalItems_self items]
  | obj members => by simp [identical, identicalMembers_self members]

theorem identicalItems_self : ∀ as : List Json, identicalItems as as = true
  | [] => rfl
  | a :: as => by simp [identicalItems, identical_self a, identicalItems_self as]

theorem identicalMembers_self : ∀ as : List (String × Json), identicalMembers as as = true
  | [] => rfl
  | (_, a) :: as => by simp [identicalMembers, identical_self a, identicalMembers_self as]

end

instance : DecidableEq Json := fun a b =>
  if h : identical a b = true then isTrue (eq_of_identical h)
  else isFalse fun e => h (e ▸ identical_self a)

/-! ## Objects -/

/-- The value of a member by its name. -/
def member? (name : String) (members : List (String × Json)) : Option Json :=
  members.lookup name

/-- A member that is found is one of those that are looked at. -/
theorem mem_of_member? {name : String} {value : Json} {members : List (String × Json)}
    (found : member? name members = some value) : (name, value) ∈ members := by
  obtain ⟨front, back, rfl, -⟩ := List.lookup_eq_some_iff.mp found
  exact List.mem_append_right _ List.mem_cons_self

/-- The value of a member of an object; a value of another kind has no members. -/
def get? (name : String) : Json → Option Json
  | obj members => member? name members
  | _ => none

/-- The value of a member, null where it is missing. -/
def getD (name : String) (value : Json) : Json :=
  (value.get? name).getD null

/-- The value is an object. -/
def isObject : Json → Bool
  | obj _ => true
  | _ => false

/-- The items of a member; a member that is no array has none. -/
def itemsOf (name : String) (value : Json) : List Json :=
  match value.get? name with
  | some (arr items) => items
  | _ => []

/-- Sets a member: a name in use keeps its place, a new one comes last. -/
def put (name : String) (value : Json) : List (String × Json) → List (String × Json)
  | [] => [(name, value)]
  | (key, old) :: rest =>
    if key = name then (name, value) :: rest else (key, old) :: put name value rest

/-- A member that is left out where it has no value. -/
def memberIf (name : String) : Option Json → List (String × Json)
  | some value => [(name, value)]
  | none => []

/-! ## Readings -/

/-- A value counts as true unless it is null, false, zero or empty. -/
def truthy : Json → Bool
  | null => false
  | bool b => b
  | int n => n != 0
  | float x => !x.isZero
  | str s => s != ""
  | arr items => !items.isEmpty
  | obj members => !members.isEmpty

/-- The text a value is, if it is one. -/
def text? : Json → Option String
  | str s => some s
  | _ => none

/-- The value as a number; a flag counts as one or zero. -/
def number? : Json → Option Number
  | bool b => some (.whole (if b then 1 else 0))
  | int n => some (.whole n)
  | float x => some (.real x)
  | _ => none

/-- A number as a value. -/
def ofNumber : Number → Json
  | .whole n => int n
  | .real x => float x

/-- A count as a value. -/
def ofNat (n : Nat) : Json :=
  int n

/-- An array of texts. -/
def ofStrings (texts : List String) : Json :=
  arr (texts.map str)

/-- A text that may be absent, as null. -/
def ofString? : Option String → Json
  | some s => str s
  | none => null

/-- What a value offers one after another: the items of an array, the characters of a text, the
names of an object. Other values offer nothing to go through. -/
def elements? : Json → Option (List Json)
  | arr items => some items
  | str s => some (s.toList.map fun c => str (String.singleton c))
  | obj members => some (members.map fun pair => str pair.1)
  | _ => none

mutual

/-- The value with null in place of every floating number that is not finite. -/
def finiteOnly : Json → Json
  | float .nan => null
  | float (.infinite _) => null
  | arr items => arr (finiteItems items)
  | obj members => obj (finiteMembers members)
  | value => value

/-- The items with null for what is not finite. -/
def finiteItems : List Json → List Json
  | [] => []
  | item :: rest => finiteOnly item :: finiteItems rest

/-- The members with null for what is not finite. -/
def finiteMembers : List (String × Json) → List (String × Json)
  | [] => []
  | (name, value) :: rest => (name, finiteOnly value) :: finiteMembers rest

end

end Json

end PlanGraph
