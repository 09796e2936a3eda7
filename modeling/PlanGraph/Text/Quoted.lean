import PlanGraph.Text.Hex
import PlanGraph.Text.Printable

/-!
# Quoted text

Text between quotes, as messages show it: single quotes unless the text holds a single quote and
no double one, a backslash before the quote in use and before a backslash, short escapes for tab,
line feed and carriage return, and hexadecimal escapes of two, four or eight digits for everything
else that is not printable.
-/

namespace PlanGraph.Text

/-- The single quote. -/
def singleQuote : Char := Char.ofNat 39

/-- The quote a text is written between. -/
def quoteFor (text : List Char) : Char :=
  if singleQuote ∈ text ∧ '"' ∉ text then '"' else singleQuote

/-- One character between the given quotes. -/
def quotedChar (quote c : Char) : List Char :=
  if c = quote ∨ c = '\\' then ['\\', c]
  else if c = '\t' then ['\\', 't']
  else if c = '\n' then ['\\', 'n']
  else if c = '\r' then ['\\', 'r']
  else if isPrintable c then [c]
  else if c.toNat < 0x100 then '\\' :: 'x' :: hexDigits 2 c.toNat
  else if c.toNat < 0x10000 then '\\' :: 'u' :: hexDigits 4 c.toNat
  else '\\' :: 'U' :: hexDigits 8 c.toNat

/-- A text between quotes. -/
def quoted (text : List Char) : List Char :=
  let quote := quoteFor text
  quote :: text.flatMap (quotedChar quote) ++ [quote]

/-- A string between quotes. -/
def quote (text : String) : String :=
  String.ofList (quoted text.toList)

end PlanGraph.Text
