import PlanGraph.Fault
import PlanGraph.Json.Basic

/-!
# Values gone through

Where nothing was checked before, a list may be given as any value that offers something to go
through. A value that offers nothing ends the request.
-/

namespace PlanGraph.Json

/-- What a value offers one after another, or the fault that it offers nothing. -/
def sequence (value : Json) : Except Fault (List Json) :=
  match value.elements? with
  | some items => .ok items
  | none => .error .notSequence

/-- An array is gone through item by item. -/
@[simp] theorem sequence_arr (items : List Json) : (arr items).sequence = .ok items := rfl

end PlanGraph.Json
