import PlanGraph.Checked
import PlanGraph.Fault

/-!
# Failures

A failure says why a plan, an operation or a list of operations was refused. Every failure can be
shown to a user or handed back to the author of the plan: it tells what is wrong and, as far as it
is known, in which operation and about which task or variable.
-/

namespace PlanGraph

/-! ## Causes -/

/-- What an operation works on. -/
inductive Entity where
  /-- A task. -/
  | task
  /-- A variable. -/
  | var
deriving DecidableEq

/-- The name of an entity at the start of a sentence. -/
def Entity.title : Entity → String
  | task => "Task"
  | var => "Variable"

/-- What an operation wants with an entity that must be there. -/
inductive Use where
  /-- To change it. -/
  | update
  /-- To remove it. -/
  | delete
deriving DecidableEq

/-- Why something was refused. -/
inductive Refusal where
  /-- It does not validate. -/
  | invalid (label : String) (issues : List Issue)
  /-- The plan has no such entity. -/
  | absent (entity : Entity) (use : Use) (id : Json)
  /-- The plan has such an entity already. -/
  | taken (entity : Entity) (id : String)

namespace Refusal

/-- The name of the kind of a refusal. -/
def kind : Refusal → String
  | invalid _ _ => "PlanValidationError"
  | absent _ _ _ => "NotFoundError"
  | taken _ _ => "DuplicateError"

/-- The wording of a refusal. -/
def message : Refusal → String
  | invalid label issues => issueReport label issues
  | absent entity use id =>
    entity.title ++ " with ID \"" ++ id.display ++ "\" not found." ++
      (match use with
        | .update => " Use create" ++ entity.title ++ " to create new " ++
          (match entity with
            | .task => "tasks."
            | .var => "variables.")
        | .delete => "")
  | taken entity id =>
    entity.title ++ " with ID \"" ++ id ++ "\" already exists. Use update" ++ entity.title ++
      " to modify existing " ++
      (match entity with
        | .task => "tasks."
        | .var => "variables.")

end Refusal

/-! ## Failures -/

/-- A refusal with what is known about its occasion. -/
structure Failure where
  /-- Why it was refused. -/
  refusal : Refusal
  /-- The name of the operation. -/
  operation : Option String
  /-- The id that the operation names. -/
  target : Json
  /-- The place of the operation in its list. -/
  index : Option Int

namespace Failure

/-- A failure of a value that is no part of an operation. -/
def invalid (label : String) (issues : List Issue) : Failure :=
  ⟨.invalid label issues, none, .null, none⟩

/-- The wording of a failure. -/
def message (failure : Failure) : String :=
  failure.refusal.message

/-- The name of the kind of a failure. -/
def kind (failure : Failure) : String :=
  failure.refusal.kind

/-- The issues of a failure to validate. -/
def issues (failure : Failure) : List Issue :=
  match failure.refusal with
  | .invalid _ issues => issues
  | _ => []

/-- The members that every failure has as a value. -/
def commonMembers (failure : Failure) : List (String × Json) :=
  [("type", .str failure.kind), ("message", .str failure.message),
    ("op", Json.ofString? failure.operation), ("target_id", failure.target),
    ("index", match failure.index with
      | some index => .int index
      | none => .null)]

/-- A failure as a value. -/
def toJson (failure : Failure) : Json :=
  match failure.refusal with
  | .invalid _ issues =>
    .obj (failure.commonMembers ++ [("issues", .arr (issues.map Issue.toJson))])
  | _ => .obj failure.commonMembers

end Failure

namespace Checked

/-- The value, or a failure that reports every issue under a label. -/
def orFail {α : Type} (label : String) : Checked α → Except Failure α
  | passed value => .ok value
  | failed first more => .error (.invalid label (first :: more))

end Checked

/-! ## Ends of a request -/

/-- Why a request has no result: it was refused, or it could not be carried out. -/
inductive Halt where
  /-- It was refused. -/
  | failure (failure : Failure)
  /-- It could not be carried out. -/
  | fault (fault : Fault)

end PlanGraph
