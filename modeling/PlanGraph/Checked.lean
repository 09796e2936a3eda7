import PlanGraph.Issue

/-!
# Checking values

A check reads a value or reports every issue it finds. Checks of the parts of a value run side by
side, so that the issues of all of them are kept, in the order of the parts.
-/

namespace PlanGraph

/-- The outcome of a check: a value, or at least one issue. -/
inductive Checked (α : Type) where
  /-- The value that was read. -/
  | passed (value : α)
  /-- The issues, of which there is a first. -/
  | failed (first : Issue) (more : List Issue)

namespace Checked

variable {α β : Type}

/-! ## Outcomes -/

/-- Every issue that was found. -/
def issues : Checked α → List Issue
  | passed _ => []
  | failed first more => first :: more

/-- The value, if the check passed. -/
def toOption : Checked α → Option α
  | passed value => some value
  | failed _ _ => none

/-- The value, or the issues. -/
def toExcept : Checked α → Except (List Issue) α
  | passed value => .ok value
  | failed first more => .error (first :: more)

/-- A check that fails at the value itself. -/
def fail (cause : Cause) : Checked α :=
  failed ⟨[], cause⟩ []

/-- The outcome as seen from one level above. -/
def under (segment : Segment) : Checked α → Checked α
  | passed value => passed value
  | failed first more => failed (first.under segment) (more.map (Issue.under segment))

/-! ## Side by side -/

/-- Applies what one check read to what another read, keeping the issues of both. -/
def ap (f : Checked (α → β)) (x : Unit → Checked α) : Checked β :=
  match f, x () with
  | passed f, passed value => passed (f value)
  | passed _, failed first more => failed first more
  | failed first more, x => failed first (more ++ x.issues)

instance : Applicative Checked where
  pure := passed
  seq := ap

/-- Checks the items of a list, each under its place, from the given place on. -/
def itemsFrom (check : α → Checked β) : Nat → List α → Checked (List β)
  | _, [] => passed []
  | index, item :: rest =>
    List.cons <$> (check item).under (.item index) <*> itemsFrom check (index + 1) rest

/-- A further rule for a value that passed. -/
def guard (value : Checked α) (holds : α → Bool) (cause : Cause) : Checked α :=
  match value with
  | passed value => if holds value then passed value else fail cause
  | failed first more => failed first more

/-! ## Their issues -/

@[simp]
theorem issues_pure (value : α) : (pure value : Checked α).issues = [] := rfl

/-- The issues of two checks side by side are those of the first and then those of the second. -/
@[simp]
theorem issues_seq (f : Checked (α → β)) (x : Checked α) :
    (f <*> x).issues = f.issues ++ x.issues := by
  cases f <;> cases x <;> simp [Seq.seq, ap, issues]

@[simp]
theorem issues_map (f : α → β) (x : Checked α) : (f <$> x).issues = x.issues := by
  cases x <;> simp [Functor.map, ap, issues]

/-- Seen from above, every issue has one step more. -/
@[simp]
theorem issues_under (segment : Segment) (x : Checked α) :
    (x.under segment).issues = x.issues.map (Issue.under segment) := by
  cases x <;> simp [under, issues]

/-- A check passes exactly when it has no issues. -/
theorem issues_eq_nil_iff {x : Checked α} : x.issues = [] ↔ ∃ value, x = passed value := by
  cases x <;> simp [issues]

end Checked

/-! ## Values of one kind -/

namespace Json

/-- The value is a text. -/
def checkText : Json → Checked String
  | str s => pure s
  | _ => .fail .notText

/-- The value is an array whose items pass a check. -/
def checkItems {α : Type} (check : Json → Checked α) : Json → Checked (List α)
  | arr items => Checked.itemsFrom check 0 items
  | _ => .fail .notArray

/-- The value is null or passes a check. -/
def checkNullable {α : Type} (check : Json → Checked α) : Json → Checked (Option α)
  | null => pure none
  | value => some <$> check value

/-- The value passes a check, with null standing for a default. -/
def checkOr {α : Type} (default : α) (check : Json → Checked α) : Json → Checked α
  | null => pure default
  | value => check value

/-- The value is an object, whose members pass a check. -/
def checkRecord {α : Type} (shape : String) (check : List (String × Json) → Checked α) :
    Json → Checked α
  | obj members => check members
  | _ => .fail (.notRecord shape)

/-- The value is one of the given names. -/
def checkName {α : Type} (choices : List (String × α)) : Json → Checked α
  | str s =>
    match choices.lookup s with
    | some value => pure value
    | none => .fail (.notOneOf (choices.map Prod.fst))
  | _ => .fail (.notOneOf (choices.map Prod.fst))

/-! ## Flags -/

/-- The spellings of a flag, in small letters. -/
def flagSpellings : List (String × Bool) :=
  [("0", false), ("f", false), ("false", false), ("n", false), ("no", false), ("off", false),
    ("1", true), ("t", true), ("true", true), ("y", true), ("yes", true), ("on", true)]

/-- The first integer that is too large for 64 bits with a sign. -/
def wordBound : Int := 0x8000000000000000

/-- The flag that a whole number stands for. -/
def flagOfInt (n : Int) : Checked Bool :=
  if n = 0 then pure false else if n = 1 then pure true else .fail .unclearFlag

/-- The value is a flag: true or false, one or zero, or a spelling of one of them in letters of any
ASCII case. A number of another size is unclear while it is whole and fits in 64 bits. -/
def checkFlag : Json → Checked Bool
  | bool b => pure b
  | str s =>
    match flagSpellings.lookup (String.ofList (s.toList.map Char.toLower)) with
    | some b => pure b
    | none => .fail .unclearFlag
  | int n => if -wordBound ≤ n ∧ n < wordBound then flagOfInt n else .fail .notFlag
  | float x =>
    match x.toInt? with
    | some n => if -wordBound < n ∧ n < wordBound then flagOfInt n else .fail .notFlag
    | none => .fail .notFlag
  | _ => .fail .notFlag

end Json

/-! ## Members of an object -/

/-- The two spellings of a member's name: the one it is written with and the one that is accepted
beside it. -/
structure Key where
  /-- The spelling that is written. -/
  wire : String
  /-- The other spelling. -/
  plain : String
deriving DecidableEq

namespace Key

/-- A name of one word is spelled in one way. -/
def word (name : String) : Key := ⟨name, name⟩

/-- The member under the written spelling, or else under the other one, with the spelling it was
found under. -/
def find? (key : Key) (members : List (String × Json)) : Option (String × Json) :=
  match Json.member? key.wire members with
  | some value => some (key.wire, value)
  | none => (Json.member? key.plain members).map fun value => (key.plain, value)

/-- The spelling that a member is found under. -/
def used? (key : Key) (members : List (String × Json)) : Option String :=
  (key.find? members).map Prod.fst

/-- Checks a member that may be missing. -/
def optional {α : Type} (key : Key) (default : α) (check : Json → Checked α)
    (members : List (String × Json)) : Checked α :=
  match key.find? members with
  | some (spelling, value) => (check value).under (.member spelling)
  | none => pure default

/-- Checks a member that must be there. -/
def required {α : Type} (key : Key) (check : Json → Checked α)
    (members : List (String × Json)) : Checked α :=
  match key.find? members with
  | some (spelling, value) => (check value).under (.member spelling)
  | none => (Checked.fail .missing).under (.member key.wire)

end Key

end PlanGraph
