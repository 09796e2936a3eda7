import PlanGraph.Plan.Task

/-!
# Toolsets

A toolset is a bundle of tools in the environment of a plan, described by a registry. Members that
this library does not know are kept, so that a compiled node carries a toolset as the registry
described it. A member counts as known under the spelling it was read from, and the other spelling
beside it as unknown.
-/

namespace PlanGraph

/-! ## Types -/

/-- The kinds of toolsets. -/
inductive ToolsetKind where
  /-- Built in. -/
  | regular
  /-- Reached through a tool server. -/
  | mcp
deriving DecidableEq

namespace ToolsetKind

/-- The name of a kind. -/
def name : ToolsetKind → String
  | regular => "regular"
  | mcp => "mcp"

/-- Every kind by its name. -/
def choices : List (String × ToolsetKind) :=
  [regular, mcp].map fun kind => (kind.name, kind)

end ToolsetKind

/-- What a toolset stands for in its registry. -/
structure ToolsetRef where
  /-- The key that plans may name it by. -/
  key : Option String
  /-- Unknown members. -/
  extra : List (String × Json)
deriving DecidableEq

/-- A bundle of tools. -/
structure Toolset where
  /-- The id. -/
  id : String
  /-- The name that is displayed. -/
  name : String
  /-- The kind. -/
  kind : ToolsetKind
  /-- What it stands for. -/
  ref : Option ToolsetRef
  /-- The tools selected from it. -/
  selectedTools : List String
  /-- Unknown members. -/
  extra : List (String × Json)
deriving DecidableEq

/-- The key of the selected tools. -/
def Key.selectedTools : Key := ⟨"selectedTools", "selected_tools"⟩

/-! ## Reading -/

/-- The members that no key was read from. -/
def unknownMembers (keys : List Key) (members : List (String × Json)) : List (String × Json) :=
  members.filter fun pair => !(keys.filterMap (·.used? members)).contains pair.1

/-- The members whose value is not null. -/
def presentMembers (members : List (String × Json)) : List (String × Json) :=
  members.filter fun pair => decide (pair.2 ≠ .null)

namespace ToolsetRef

/-- The keys that are known. -/
def keys : List Key := [.word "key"]

/-- Checks the members of a reference. -/
def checkMembers (members : List (String × Json)) : Checked ToolsetRef :=
  (fun key => ⟨key, unknownMembers keys members⟩)
    <$> Key.optional (.word "key") none (Json.checkNullable Json.checkText) members

/-- Checks a reference. -/
def check : Json → Checked ToolsetRef :=
  Json.checkRecord "ToolsetRef" checkMembers

/-- A reference as a value; null members are left out, and null is written for what is not
finite. -/
def dump (ref : ToolsetRef) : Json :=
  .obj (Json.memberIf "key" (ref.key.map Json.str) ++
    Json.finiteMembers (presentMembers ref.extra))

end ToolsetRef

namespace Toolset

/-- The keys that are known. -/
def keys : List Key :=
  [.word "id", .word "name", .word "type", .word "toolset", .selectedTools]

/-- Checks the members of a toolset. -/
def checkMembers (members : List (String × Json)) : Checked Toolset :=
  (fun id name kind ref selected =>
      (⟨id, name, kind, ref, selected, unknownMembers keys members⟩ : Toolset))
    <$> Key.required (.word "id") Json.checkText members
    <*> Key.optional (.word "name") "" Json.checkText members
    <*> Key.optional (.word "type") .regular (Json.checkName ToolsetKind.choices) members
    <*> Key.optional (.word "toolset") none (Json.checkNullable ToolsetRef.check) members
    <*> Key.optional .selectedTools [] Task.checkTexts members

/-- Checks a toolset. -/
def check : Json → Checked Toolset :=
  Json.checkRecord "GenericToolset" checkMembers

/-! ## Writing -/

/-- A toolset as a value: the known members, and the unknown ones that are not null, with null for
what is not finite in them. -/
def dump (toolset : Toolset) : Json :=
  .obj ([("id", .str toolset.id), ("name", .str toolset.name),
      ("type", .str toolset.kind.name)] ++
    Json.memberIf "toolset" (toolset.ref.map ToolsetRef.dump) ++
    [("selectedTools", .ofStrings toolset.selectedTools)] ++
    Json.finiteMembers (presentMembers toolset.extra))

end Toolset

end PlanGraph
