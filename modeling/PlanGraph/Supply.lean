import PlanGraph.Fault
import PlanGraph.Text.Hex

/-!
# Supply of ids

Fresh ids are drawn one after another from a supply: a naming of the natural numbers and the count
of the ids drawn so far. So the ids of a run are known from the order in which they were drawn.
-/

namespace PlanGraph

/-- A source of ids. -/
structure Supply where
  /-- The id of each number. -/
  name : Nat → String
  /-- How many ids have been drawn. -/
  drawn : Nat

/-- A computation that draws ids. -/
abbrev Minting := StateM Supply

/-- A computation that draws ids and may end in a fault, with the ids drawn until then used up. -/
abbrev Making := ExceptT Fault (StateM Supply)

namespace Supply

/-- The supply that counts on from a number: each id is the next number in hexadecimal digits, with
zeros in front up to 32 of them. -/
def countingFrom (start : Nat) : Supply where
  name n := String.ofList (Text.paddedHex 32 (start + n + 1))
  drawn := 0

/-- The supply that counts from one. -/
def counting : Supply := countingFrom 0

/-- Draws the next id. -/
def draw : Minting String := fun supply =>
  (supply.name supply.drawn, { supply with drawn := supply.drawn + 1 })

/-- The beginning of an entity id, by the type of its node. -/
def entityPrefixes : List (String × String) :=
  [("skillResponse", "ar-"), ("document", "d-"), ("resource", "r-"), ("memo", "m-"),
    ("codeArtifact", "ca-"), ("image", "img-"), ("video", "v-"), ("audio", "a-"),
    ("mediaSkillResponse", "msr-"), ("start", "start-")]

/-- Draws an entity id for a node of the given type. -/
def drawEntity (nodeType : String) : Minting String := do
  let id ← draw
  pure ((entityPrefixes.lookup nodeType).getD "node-" ++ id)

end Supply

end PlanGraph
