import PlanGraph.Json.Sequence
import PlanGraph.Toolset

/-!
# Selecting toolsets

A task names toolsets by their ids, or by the keys of what they stand for. Each name selects the
first toolset of the environment with that id, or else the first with that key; a name that selects
nothing is dropped.
-/

namespace PlanGraph

/-- The toolsets of an environment as a caller gives them. -/
inductive ToolsetSource where
  /-- Toolsets that were read before. -/
  | parsed (toolsets : List Toolset)
  /-- A value that offers objects one after another. -/
  | raw (value : Json)

namespace ToolsetSource

/-- The toolsets as objects. A value that does not count as true has none, and what is no object
is passed over. -/
def entries : ToolsetSource → Except Fault (List Json)
  | parsed toolsets => .ok (toolsets.map Toolset.dump)
  | raw value =>
    if value.truthy then do
      pure ((← value.sequence).filter Json.isObject)
    else .ok []

end ToolsetSource

namespace Toolset

/-- The toolset has this id. -/
def hasId (name : String) (entry : Json) : Bool :=
  entry.get? "id" == some (.str name)

/-- The toolset stands for what has this key. -/
def hasKey (name : String) (entry : Json) : Bool :=
  (entry.get? "toolset" >>= Json.get? "key") == some (.str name)

/-- The toolset that a name selects. -/
def select? (entries : List Json) (name : String) : Option Json :=
  (entries.find? (hasId name)).or (entries.find? (hasKey name))

/-- The toolsets that a list of names selects. -/
def select (entries : List Json) (names : List String) : List Json :=
  names.filterMap (select? entries)

end Toolset

end PlanGraph
