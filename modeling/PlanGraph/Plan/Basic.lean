import PlanGraph.Plan.Variable

/-!
# Plans

A plan has a title, tasks and variables. Reading a plan first checks its structure and reports all
that is wrong with it; of a plan that is sound in structure, ids that occur twice are reported. Task
ids may be empty, and any number of tasks may have no id; variable ids are distinct even when empty.
-/

namespace PlanGraph

/-- A workflow plan. -/
structure Plan where
  /-- The title: a text in every plan that was read; an unchecked change may put any value here. -/
  title : Json
  /-- The tasks. -/
  tasks : List Task
  /-- The variables. -/
  inputs : List Variable
deriving DecidableEq

namespace Plan

/-! ## Looking up -/

/-- The first task with an id. -/
def getTask? (plan : Plan) (id : String) : Option Task :=
  plan.tasks.find? fun task => task.id == id

/-- The first variable with an id. -/
def getVariable? (plan : Plan) (id : String) : Option Variable :=
  plan.inputs.find? fun input => input.variableId == id

/-! ## Structure -/

/-- Checks the members of a plan. -/
def checkMembers (members : List (String × Json)) : Checked Plan :=
  Plan.mk
    <$> (Json.str <$> Key.optional (.word "title") "" Task.checkBlankable members)
    <*> Key.optional (.word "tasks") [] (Json.checkItems Task.check) members
    <*> Key.optional (.word "variables") [] (Json.checkItems Variable.check) members

/-- Checks the structure of a plan. -/
def check : Json → Checked Plan :=
  Json.checkRecord "WorkflowPlan" checkMembers

/-! ## Repeated ids -/

/-- The places, from the given one on, where an id was already seen before, with the id. -/
def repeatsAfter (seen : List String) (place : Nat) : List String → List (Nat × String)
  | [] => []
  | id :: rest =>
    let later := repeatsAfter (id :: seen) (place + 1) rest
    if id ∈ seen then (place, id) :: later else later

/-- The issue of a repeated task id. -/
def repeatedTask (place : Nat) (id : String) : Issue :=
  ⟨[.member "tasks", .item place, .member "id"], .repeatedTask id⟩

/-- The issue of a repeated variable id. -/
def repeatedVariable (place : Nat) (id : String) : Issue :=
  ⟨[.member "variables", .item place, .member "variableId"], .repeatedVariable id⟩

/-- One issue for each id that occurs earlier in its list; empty task ids are passed over. -/
def duplicateIssues (plan : Plan) : List Issue :=
  ((repeatsAfter [] 0 (plan.tasks.map Task.id)).filter fun found => found.2 != "").map
      (fun found => repeatedTask found.1 found.2) ++
    (repeatsAfter [] 0 (plan.inputs.map Variable.variableId)).map
      (fun found => repeatedVariable found.1 found.2)

/-- The label of a plan in failures. -/
def label : String := "Workflow plan"

/-- A plan that is sound in structure, if no id occurs twice. -/
def distinct (plan : Plan) : Except Failure Plan :=
  match plan.duplicateIssues with
  | [] => .ok plan
  | issues => .error (.invalid label issues)

/-! ## Reading and writing -/

/-- Reads a plan. -/
def ofJson (value : Json) : Except Failure Plan :=
  (check value).orFail label >>= distinct

/-- A plan as a value; a title that is no text is written as it is, with null for what is not
finite in it. -/
def dump (plan : Plan) : Json :=
  .obj [("title", plan.title.finiteOnly), ("tasks", .arr (plan.tasks.map Task.dump)),
    ("variables", .arr (plan.inputs.map Variable.dump))]

/-- The plan with a list of toolsets on every task. The type provides that list, so a plan is its
own normal form. -/
def normalize (plan : Plan) : Plan :=
  { plan with tasks := plan.tasks.map fun task => { task with toolsets := task.toolsets } }

/-- A plan is its own normal form. -/
theorem normalize_eq (plan : Plan) : plan.normalize = plan := by
  simp [normalize]

end Plan

/-! ## Plans as given -/

/-- A plan as a caller gives it. -/
inductive PlanInput where
  /-- A plan that was read before. -/
  | parsed (plan : Plan)
  /-- A value that has yet to be read. -/
  | raw (value : Json)

/-- The plan that was given, read if need be, if no id occurs twice. -/
def PlanInput.load : PlanInput → Except Failure Plan
  | parsed plan => plan.distinct
  | raw value => Plan.ofJson value

end PlanGraph
