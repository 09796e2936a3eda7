import PlanGraph.Json.Printer
import PlanGraph.Text.Quoted

/-!
# Values in messages

How a value reads inside a message: `None`, `True` and `False` for null and the flags, numbers in
decimal, strings between quotes, and containers in brackets. A string that stands for itself goes
into a message without quotes.
-/

namespace PlanGraph.Json

/-- A floating number in a message. -/
def showFloat : Binary64 → List Char
  | .nan => "nan".toList
  | .infinite false => "inf".toList
  | .infinite true => "-inf".toList
  | .finite negative units => (Binary64.finiteText negative units).toList

mutual

/-- A value in a message, with strings between quotes. -/
def shown : Json → List Char
  | null => "None".toList
  | bool true => "True".toList
  | bool false => "False".toList
  | int n => writeInt n
  | float x => showFloat x
  | str s => Text.quoted s.toList
  | arr items => '[' :: shownItems items ++ [']']
  | obj members => '\x7b' :: shownMembers members ++ ['\x7d']

/-- Items with a comma and a blank between them. -/
def shownItems : List Json → List Char
  | [] => []
  | [item] => shown item
  | item :: rest => shown item ++ [',', ' '] ++ shownItems rest

/-- Members with a comma and a blank between them. -/
def shownMembers : List (String × Json) → List Char
  | [] => []
  | [(name, value)] => Text.quoted name.toList ++ [':', ' '] ++ shown value
  | (name, value) :: rest =>
    Text.quoted name.toList ++ [':', ' '] ++ shown value ++ [',', ' '] ++ shownMembers rest

end

/-- A value as a message quotes it. -/
def inspect (value : Json) : String :=
  String.ofList value.shown

/-- A value as a message names it: a string stands for itself. -/
def display : Json → String
  | str s => s
  | value => value.inspect

/-- What a message calls the kind of a value. -/
def kindName : Json → String
  | null => "NoneType"
  | bool _ => "bool"
  | int _ => "int"
  | float _ => "float"
  | str _ => "str"
  | arr _ => "list"
  | obj _ => "dict"

end PlanGraph.Json
