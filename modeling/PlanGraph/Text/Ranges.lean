/-!
# Ranges of code points

A class of characters is a list of closed ranges of code points.
-/

namespace PlanGraph.Text

/-- A code point belongs to a table when one of its ranges holds it. -/
def inRanges (table : List (Nat × Nat)) (code : Nat) : Bool :=
  table.any fun range => decide (range.1 ≤ code) && decide (code ≤ range.2)

end PlanGraph.Text
