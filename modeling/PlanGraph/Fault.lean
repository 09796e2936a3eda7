/-!
# Faults

A fault ends a request whose values cannot be used at all in the place where they stand. It is no
finding about a plan: findings are issues and failures.
-/

namespace PlanGraph

/-- Why a request cannot be carried out. -/
inductive Fault where
  /-- An array or an object stands where a key is looked up. -/
  | unkeyable
  /-- A value that offers nothing to go through stands for a sequence. -/
  | notSequence
  /-- Two values have no order, or a value has no sum with a number. -/
  | notNumber
  /-- A value that has no members is asked for one. -/
  | notRecord
  /-- No tool has this name. -/
  | unknownTool (name : String)
  /-- A tool takes no argument of this name. -/
  | unexpectedArgument (tool argument : String)
  /-- A tool is given an argument a second time. -/
  | repeatedArgument (tool argument : String)
  /-- A tool lacks an argument. -/
  | missingArgument (tool argument : String)
  /-- A text holds an integer that is too long to be read. -/
  | oversizedInteger (digits : Nat)
deriving DecidableEq

end PlanGraph
