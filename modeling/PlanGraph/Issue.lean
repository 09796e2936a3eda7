import PlanGraph.Json.Shown

/-!
# Issues

An issue is one thing that is wrong with a value, with the path that leads to it. What is wrong is
a cause; its wording is found from the cause alone.
-/

namespace PlanGraph

/-! ## Paths -/

/-- One step of a path into a value. -/
inductive Segment where
  /-- Into a member, by the name it was found under. -/
  | member (name : String)
  /-- Into an item, by its place from zero. -/
  | item (index : Nat)
deriving DecidableEq

/-- The text of one step. -/
def Segment.text : Segment → String
  | member name => name
  | item index => toString index

/-- The text of a path: its steps with points between them, or `root` where there is none. -/
def pathText : List Segment → String
  | [] => "root"
  | path => String.intercalate "." (path.map Segment.text)

/-! ## Causes -/

/-- What is wrong with a value. -/
inductive Cause where
  /-- A member is missing that has no default. -/
  | missing
  /-- The value is no text. -/
  | notText
  /-- The value is no array. -/
  | notArray
  /-- The value is no object of the named shape. -/
  | notRecord (shape : String)
  /-- The value is none of the given names. -/
  | notOneOf (names : List String)
  /-- The value can be no flag. -/
  | notFlag
  /-- The value could be a flag but spells none. -/
  | unclearFlag
  /-- Resource types stand on a variable of another type. -/
  | strayResourceTypes
  /-- An earlier task has this id. -/
  | repeatedTask (id : String)
  /-- An earlier variable has this id. -/
  | repeatedVariable (id : String)
  /-- A task to be created has no id. -/
  | emptyTaskId
  /-- An operation is no object but a value of the named kind. -/
  | notOperation (kind : String)
  /-- No operation has this name. -/
  | unknownOperation (name : Json) (known : List String)
  /-- An operation lacks the payload it needs. -/
  | missingPayload (key operation : String)
  /-- A text is no JSON. -/
  | invalidJson (reason : String)
  /-- An argument is no list of toolsets. -/
  | notToolsetList
  /-- A cause in the words of whoever found it. -/
  | stated (text : String)

/-- A choice of names: the last two with `or`, the others with commas. -/
def choiceText : List String → String
  | [] => ""
  | [name] => Text.quote name
  | [name, last] => Text.quote name ++ " or " ++ Text.quote last
  | name :: rest => Text.quote name ++ ", " ++ choiceText rest

/-- The wording of a cause. -/
def Cause.message : Cause → String
  | missing => "Field required"
  | notText => "Input should be a valid string"
  | notArray => "Input should be a valid list"
  | notRecord shape => "Input should be a valid dictionary or instance of " ++ shape
  | notOneOf names => "Input should be " ++ choiceText names
  | notFlag => "Input should be a valid boolean"
  | unclearFlag => "Input should be a valid boolean, unable to interpret input"
  | strayResourceTypes =>
    "Value error, resourceTypes is only allowed when variableType is 'resource'"
  | repeatedTask id => "Duplicate task id '" ++ id ++ "'"
  | repeatedVariable id => "Duplicate variable id '" ++ id ++ "'"
  | emptyTaskId => "Task id must not be empty"
  | notOperation kind => "Expected an object, got " ++ kind
  | unknownOperation name known =>
    "Unknown op: " ++ name.inspect ++ ". Valid ops: " ++ (Json.ofStrings known).inspect
  | missingPayload key operation => "'" ++ key ++ "' is required for " ++ operation
  | invalidJson reason => "Invalid JSON: " ++ reason
  | notToolsetList => "Expected a list of toolsets"
  | stated text => text

/-! ## Issues -/

/-- One thing that is wrong, and where. -/
structure Issue where
  /-- The path to the value at fault. -/
  path : List Segment
  /-- What is wrong with it. -/
  cause : Cause

namespace Issue

/-- The issue as seen from one level above. -/
def under (segment : Segment) (issue : Issue) : Issue :=
  { issue with path := segment :: issue.path }

/-- The text of the path. -/
def place (issue : Issue) : String :=
  pathText issue.path

/-- The wording of the cause. -/
def message (issue : Issue) : String :=
  issue.cause.message

/-- The issue on a line of its own. -/
def line (issue : Issue) : String :=
  "[" ++ issue.place ++ "]: " ++ issue.message

/-- The issue as a value. -/
def toJson (issue : Issue) : Json :=
  .obj [("path", .str issue.place), ("message", .str issue.message)]

end Issue

/-- Issues under a heading that says what was validated. -/
def issueReport (label : String) (issues : List Issue) : String :=
  label ++ " validation failed:\n" ++ String.intercalate "\n" (issues.map Issue.line)

end PlanGraph
