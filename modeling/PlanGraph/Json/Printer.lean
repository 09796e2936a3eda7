import PlanGraph.Json.Basic
import PlanGraph.Number.Shortest
import PlanGraph.Text.Hex

/-!
# Writing JSON text

Values are written in ASCII: inside a string everything but the printable ASCII characters is
escaped, above the basic plane as a pair of surrogates. Members keep their order. On one line the
separators are a parameter; in the indented form every item stands on a line of its own, two spaces
deeper than its container, and an empty container stays on one line.
-/

namespace PlanGraph.Json

/-! ## Scalars -/

/-- A unit of UTF-16 as an escape. -/
def unitEscape (unit : Nat) : List Char :=
  '\\' :: 'u' :: Text.hexDigits 4 unit

/-- One character inside a string. -/
def writeChar (c : Char) : List Char :=
  if c = '"' then ['\\', '"']
  else if c = '\\' then ['\\', '\\']
  else if c = '\n' then ['\\', 'n']
  else if c = '\r' then ['\\', 'r']
  else if c = '\t' then ['\\', 't']
  else if c.toNat = 0x8 then ['\\', 'b']
  else if c.toNat = 0xc then ['\\', 'f']
  else if 0x20 ≤ c.toNat ∧ c.toNat < 0x7f then [c]
  else if c.toNat < 0x10000 then unitEscape c.toNat
  else
    unitEscape (0xd800 + (c.toNat - 0x10000) / 0x400) ++
      unitEscape (0xdc00 + (c.toNat - 0x10000) % 0x400)

/-- A string with its quotes. -/
def writeString (s : String) : List Char :=
  '"' :: s.toList.flatMap writeChar ++ ['"']

/-- An integer in decimal. -/
def writeInt (n : Int) : List Char :=
  if n < 0 then '-' :: Nat.toDigits 10 n.natAbs else Nat.toDigits 10 n.natAbs

/-- A floating number: its shortest text, or a name where it is not finite. -/
def writeFloat : Binary64 → List Char
  | .nan => "NaN".toList
  | .infinite false => "Infinity".toList
  | .infinite true => "-Infinity".toList
  | .finite negative units => (Binary64.finiteText negative units).toList

/-- A value that is no container. -/
def writeScalar : Json → List Char
  | bool true => "true".toList
  | bool false => "false".toList
  | int n => writeInt n
  | float x => writeFloat x
  | str s => writeString s
  | _ => "null".toList

/-! ## One line -/

/-- What stands between items and after a member's name. -/
structure Separators where
  /-- Between two items. -/
  item : List Char
  /-- Between a name and its value. -/
  name : List Char

/-- No blanks at all. -/
def Separators.tight : Separators := ⟨[','], [':']⟩

/-- One blank after each mark. -/
def Separators.spaced : Separators := ⟨[',', ' '], [':', ' ']⟩

mutual

/-- A value on one line. -/
def write (sep : Separators) : Json → List Char
  | arr items => '[' :: writeItems sep items ++ [']']
  | obj members => '\x7b' :: writeMembers sep members ++ ['\x7d']
  | value => writeScalar value

/-- Items with their separators. -/
def writeItems (sep : Separators) : List Json → List Char
  | [] => []
  | [item] => write sep item
  | item :: rest => write sep item ++ sep.item ++ writeItems sep rest

/-- Members with their separators. -/
def writeMembers (sep : Separators) : List (String × Json) → List Char
  | [] => []
  | [(name, value)] => writeString name ++ sep.name ++ write sep value
  | (name, value) :: rest =>
    writeString name ++ sep.name ++ write sep value ++ sep.item ++ writeMembers sep rest

end

/-- The text of a value without blanks. -/
def compact (value : Json) : String :=
  String.ofList (write .tight value)

/-- The text of a value on one line, with a blank after each comma and colon. -/
def spaced (value : Json) : String :=
  String.ofList (write .spaced value)

/-! ## Indented -/

/-- A new line at the given depth. -/
def newLine (depth : Nat) : List Char :=
  '\n' :: List.replicate (2 * depth) ' '

mutual

/-- A value whose container stands at the given depth. -/
def writeIndented (depth : Nat) : Json → List Char
  | arr [] => ['[', ']']
  | arr (item :: rest) =>
    '[' :: indentedItems (depth + 1) (item :: rest) ++ newLine depth ++ [']']
  | obj [] => ['\x7b', '\x7d']
  | obj (pair :: rest) =>
    '\x7b' :: indentedMembers (depth + 1) (pair :: rest) ++ newLine depth ++ ['\x7d']
  | value => writeScalar value

/-- Items, each on its own line. -/
def indentedItems (depth : Nat) : List Json → List Char
  | [] => []
  | [item] => newLine depth ++ writeIndented depth item
  | item :: rest =>
    newLine depth ++ writeIndented depth item ++ [','] ++ indentedItems depth rest

/-- Members, each on its own line. -/
def indentedMembers (depth : Nat) : List (String × Json) → List Char
  | [] => []
  | [(name, value)] =>
    newLine depth ++ writeString name ++ [':', ' '] ++ writeIndented depth value
  | (name, value) :: rest =>
    newLine depth ++ writeString name ++ [':', ' '] ++ writeIndented depth value ++ [','] ++
      indentedMembers depth rest

end

/-- The indented text of a value. -/
def indented (value : Json) : String :=
  String.ofList (writeIndented 0 value)

end PlanGraph.Json
