import PlanGraph.Json.Basic

/-!
# Equality and order by value

Two values are the same when their numbers are equal in size, their texts and arrays agree, and
their objects have the same members in any order. Numbers are ordered by size, texts by code
points, and arrays by their first difference; other pairs have no order.
-/

namespace PlanGraph.Json

mutual

/-- Equality by value. -/
def same : Json → Json → Bool
  | null, null => true
  | str a, str b => a == b
  | arr as, arr bs => sameItems as bs
  | obj as, obj bs => as.length == bs.length && sameMembers as bs
  | a, b =>
    match a.number?, b.number? with
    | some m, some n => m.same n
    | _, _ => false

/-- Equality of items by value, place by place. -/
def sameItems : List Json → List Json → Bool
  | [], [] => true
  | a :: as, b :: bs => same a b && sameItems as bs
  | _, _ => false

/-- Every member has its like among the others. -/
def sameMembers : List (String × Json) → List (String × Json) → Bool
  | [], _ => true
  | (name, a) :: as, bs =>
    (match member? name bs with
      | some b => same a b
      | none => false) && sameMembers as bs

end

mutual

/-- Whether a value comes before another; none where the two have no order. -/
def less? : Json → Json → Option Bool
  | str a, str b => some (decide (a < b))
  | arr as, arr bs => lessItems? as bs
  | a, b =>
    match a.number?, b.number? with
    | some m, some n => some (m.less n)
    | _, _ => none

/-- The order of two lists of items: that of their first difference, or of their lengths. -/
def lessItems? : List Json → List Json → Option Bool
  | [], bs => some !bs.isEmpty
  | _ :: _, [] => some false
  | a :: as, b :: bs => if same a b then lessItems? as bs else less? a b

end

/-- Puts a value before the first one that it precedes. -/
def insertSorted? (value : Json) : List Json → Option (List Json)
  | [] => some [value]
  | first :: rest => do
    if ← less? value first then some (value :: first :: rest)
    else (insertSorted? value rest).map (first :: ·)

/-- The values in ascending order; none if two that are compared have no order. -/
def sort? : List Json → Option (List Json)
  | [] => some []
  | value :: rest => do insertSorted? value (← sort? rest)

end PlanGraph.Json
