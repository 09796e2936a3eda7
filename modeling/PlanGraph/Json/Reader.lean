import PlanGraph.Json.Basic
import PlanGraph.Text.Digits
import PlanGraph.Text.Hex

/-!
# Reading JSON text

Reads one JSON value between blanks. Beyond the standard grammar the names `NaN`, `Infinity` and
`-Infinity` are numbers, and a repeated member name keeps its first place with its last value. A
fault tells what was expected and where; a reading function fails with the number of characters
that were left at that point, from which the position is found at the end.
-/

namespace PlanGraph.Json

/-! ## Faults -/

/-- What is wrong with a text. -/
inductive Flaw where
  /-- No value starts here. -/
  | expectedValue
  /-- No member name starts here. -/
  | expectedName
  /-- No colon follows the member name. -/
  | expectedColon
  /-- Neither a comma nor the end of the container follows. -/
  | expectedComma
  /-- A string has no end. -/
  | unterminatedString
  /-- A control character stands in a string. -/
  | controlCharacter
  /-- A backslash starts no escape. -/
  | badEscape
  /-- A code-unit escape has no four hexadecimal digits. -/
  | badUnitEscape
  /-- Something follows the value. -/
  | extraData
  /-- The text starts with a byte order mark. -/
  | byteOrderMark
  /-- An integer has too many digits to be read. -/
  | oversizedInteger (digits : Nat)
deriving DecidableEq

/-- What is said about a flaw. -/
def Flaw.message : Flaw → String
  | expectedValue => "Expecting value"
  | expectedName => "Expecting property name enclosed in double quotes"
  | expectedColon => "Expecting ':' delimiter"
  | expectedComma => "Expecting ',' delimiter"
  | unterminatedString => "Unterminated string starting at"
  | controlCharacter => "Invalid control character at"
  | badEscape => "Invalid \\escape"
  | badUnitEscape => "Invalid \\uXXXX escape"
  | extraData => "Extra data"
  | byteOrderMark => "Unexpected UTF-8 BOM (decode using utf-8-sig)"
  | oversizedInteger digits => Text.oversizedIntegerMessage digits

/-- A flaw and the number of characters left where it was met. -/
structure Stop where
  /-- What is wrong. -/
  flaw : Flaw
  /-- How many characters were left. -/
  left : Nat
deriving DecidableEq

/-- Stops in front of the rest of the text. -/
def stopAt {α : Type} (flaw : Flaw) (rest : List Char) : Except Stop α :=
  .error ⟨flaw, rest.length⟩

/-! ## Blanks -/

/-- A blank between tokens. -/
def isSpace (c : Char) : Bool :=
  c == ' ' || c == '\t' || c == '\n' || c == '\r'

/-- The text after the blanks it starts with. -/
def skipSpace (text : List Char) : List Char :=
  text.dropWhile isSpace

/-! ## Strings -/

/-- The value of the four hexadecimal digits that a text starts with. -/
def readUnit? : List Char → Option (Nat × List Char)
  | a :: b :: c :: d :: rest =>
    match Text.hexValue? a, Text.hexValue? b, Text.hexValue? c, Text.hexValue? d with
    | some w, some x, some y, some z => some (((w * 16 + x) * 16 + y) * 16 + z, rest)
    | _, _, _, _ => none
  | _ => none

/-- The character of a code point; a surrogate that has no partner is replaced. -/
def charOfUnit (unit : Nat) : Char :=
  if 0xd800 ≤ unit ∧ unit < 0xe000 then Char.ofNat 0xfffd else Char.ofNat unit

/-- The low surrogate whose escape a text starts with, and the text after it; none if another code
unit, or none at all, is escaped there. -/
def readLowSurrogate? (text : List Char) : Except Stop (Option Nat × List Char) :=
  match text with
  | '\\' :: 'u' :: rest =>
    if text.length ≤ 6 then .ok (none, text)
    else
      match readUnit? rest with
      | none => stopAt .badUnitEscape ('u' :: rest)
      | some (unit, after) =>
        if 0xdc00 ≤ unit ∧ unit < 0xe000 then .ok (some unit, after) else .ok (none, text)
  | _ => .ok (none, text)

/-- The character that a code-unit escape stands for, read after its `u`. A high surrogate takes
the low one that follows it. Something must follow the four digits. -/
def readUnitEscape (text : List Char) : Except Stop (Char × List Char) :=
  match readUnit? text with
  | none => .error ⟨.badUnitEscape, text.length + 1⟩
  | some (unit, rest) =>
    if rest.isEmpty then .error ⟨.badUnitEscape, text.length + 1⟩
    else if 0xd800 ≤ unit ∧ unit < 0xdc00 then do
      match ← readLowSurrogate? rest with
      | (some low, after) =>
        pure (Char.ofNat (0x10000 + (unit - 0xd800) * 0x400 + (low - 0xdc00)), after)
      | (none, after) => pure (charOfUnit unit, after)
    else pure (charOfUnit unit, rest)

/-- The character that an escape stands for, read after its backslash. `opened` is what was left at
the opening quote. -/
def readEscape (opened : Nat) : List Char → Except Stop (Char × List Char)
  | [] => .error ⟨.unterminatedString, opened⟩
  | '"' :: rest => .ok ('"', rest)
  | '\\' :: rest => .ok ('\\', rest)
  | '/' :: rest => .ok ('/', rest)
  | 'b' :: rest => .ok (Char.ofNat 0x8, rest)
  | 'f' :: rest => .ok (Char.ofNat 0xc, rest)
  | 'n' :: rest => .ok ('\n', rest)
  | 'r' :: rest => .ok ('\r', rest)
  | 't' :: rest => .ok ('\t', rest)
  | 'u' :: rest => readUnitEscape rest
  | rest => .error ⟨.badEscape, rest.length + 1⟩

/-- The characters of a string up to its closing quote. -/
def readChars (opened : Nat) : Nat → List Char → Except Stop (List Char × List Char)
  | 0, _ => .error ⟨.unterminatedString, opened⟩
  | _ + 1, [] => .error ⟨.unterminatedString, opened⟩
  | _ + 1, '"' :: rest => .ok ([], rest)
  | fuel + 1, '\\' :: rest => do
    let (c, after) ← readEscape opened rest
    let (more, final) ← readChars opened fuel after
    pure (c :: more, final)
  | fuel + 1, c :: rest =>
    if c.toNat < 0x20 then stopAt .controlCharacter (c :: rest)
    else do
      let (more, final) ← readChars opened fuel rest
      pure (c :: more, final)

/-- A string, read after its opening quote. -/
def readString (text : List Char) : Except Stop (String × List Char) := do
  let (chars, rest) ← readChars (text.length + 1) (text.length + 1) text
  pure (String.ofList chars, rest)

/-! ## Numbers -/

/-- A character is a decimal digit. -/
def isDigit (c : Char) : Bool :=
  '0' ≤ c && c ≤ '9'

/-- The digits that a text starts with, and the rest. -/
def spanDigits (text : List Char) : List Char × List Char :=
  (text.takeWhile isDigit, text.dropWhile isDigit)

/-- The number that digits spell. -/
def natOfDigits (digits : List Char) : Nat :=
  digits.foldl (fun total c => 10 * total + (c.toNat - 0x30)) 0

/-- The whole part that a text starts with: a zero alone, or digits that start with no zero. -/
def readWhole? : List Char → Option (List Char × List Char)
  | '0' :: rest => some (['0'], rest)
  | c :: rest => if isDigit c then some (spanDigits (c :: rest)) else none
  | [] => none

/-- The digits after a point; a point without digits belongs to no number. -/
def readFraction : List Char → List Char × List Char
  | '.' :: rest =>
    match spanDigits rest with
    | ([], _) => ([], '.' :: rest)
    | found => found
  | text => ([], text)

/-- The exponent after its mark and sign, where digits follow. -/
def signedExponent? : List Char → Option (Int × List Char)
  | '-' :: rest =>
    match spanDigits rest with
    | ([], _) => none
    | (digits, after) => some (-(natOfDigits digits : Int), after)
  | '+' :: rest =>
    match spanDigits rest with
    | ([], _) => none
    | (digits, after) => some (natOfDigits digits, after)
  | text =>
    match spanDigits text with
    | ([], _) => none
    | (digits, after) => some (natOfDigits digits, after)

/-- The exponent that a text starts with; a mark without digits belongs to no number. -/
def readExponent (text : List Char) : Option Int × List Char :=
  match text with
  | c :: rest =>
    if c = 'e' ∨ c = 'E' then
      match signedExponent? rest with
      | some (exponent, after) => (some exponent, after)
      | none => (none, text)
    else (none, text)
  | [] => (none, text)

/-- A number after its sign. It is whole when it has neither a fraction nor an exponent. -/
def readMagnitude? (negative : Bool) (text : List Char) :
    Option (Except Nat Json × List Char) := do
  let (whole, afterWhole) ← readWhole? text
  let (fraction, afterFraction) := readFraction afterWhole
  let (exponent, rest) := readExponent afterFraction
  if fraction.isEmpty && exponent.isNone then
    if Text.maxIntegerDigits < whole.length then some (.error whole.length, rest)
    else
      let size : Int := natOfDigits whole
      some (.ok (int (if negative then -size else size)), rest)
  else
    some (.ok (float (Binary64.ofDecimal negative (natOfDigits (whole ++ fraction))
      (exponent.getD 0 - fraction.length))), rest)

/-- The number that a text starts with. -/
def readNumber (text : List Char) : Except Stop (Json × List Char) :=
  let found := match text with
    | '-' :: rest => readMagnitude? true rest
    | _ => readMagnitude? false text
  match found with
  | some (.ok value, rest) => .ok (value, rest)
  | some (.error digits, rest) => stopAt (.oversizedInteger digits) rest
  | none => stopAt .expectedValue text

/-! ## Values -/

/-- The names that are values. -/
def keywords : List (List Char × Json) :=
  [("null".toList, null), ("true".toList, bool true), ("false".toList, bool false),
    ("NaN".toList, float .nan), ("Infinity".toList, float (.infinite false)),
    ("-Infinity".toList, float (.infinite true))]

/-- The text after a word that it starts with. -/
def dropWord? : List Char → List Char → Option (List Char)
  | [], text => some text
  | _ :: _, [] => none
  | w :: word, c :: text => if w = c then dropWord? word text else none

/-- A value that is no container: a name or a number. -/
def readPlain (text : List Char) : Except Stop (Json × List Char) :=
  match keywords.findSome? fun (word, value) => (dropWord? word text).map fun rest => (value, rest)
  with
  | some found => .ok found
  | none => readNumber text

mutual

/-- The value that a text starts with. -/
def readValue : Nat → List Char → Except Stop (Json × List Char)
  | 0, text => stopAt .expectedValue text
  | fuel + 1, text =>
    match text with
    | '"' :: rest => do
      let (s, after) ← readString rest
      pure (str s, after)
    | '[' :: rest =>
      match skipSpace rest with
      | ']' :: after => .ok (arr [], after)
      | first => do
        let (items, after) ← readItems fuel first
        pure (arr items, after)
    | '\x7b' :: rest =>
      match skipSpace rest with
      | '\x7d' :: after => .ok (obj [], after)
      | first => do
        let (members, after) ← readMembers fuel [] first
        pure (obj members, after)
    | _ => readPlain text

/-- The items of an array up to its closing bracket. -/
def readItems : Nat → List Char → Except Stop (List Json × List Char)
  | 0, text => stopAt .expectedValue text
  | fuel + 1, text => do
    let (item, after) ← readValue fuel text
    match skipSpace after with
    | ']' :: rest => pure ([item], rest)
    | ',' :: rest => do
      let (more, final) ← readItems fuel (skipSpace rest)
      pure (item :: more, final)
    | rest => stopAt .expectedComma rest

/-- The members of an object up to its closing brace, after those already read. -/
def readMembers :
    Nat → List (String × Json) → List Char → Except Stop (List (String × Json) × List Char)
  | 0, _, text => stopAt .expectedName text
  | fuel + 1, members, text =>
    match text with
    | '"' :: rest => do
      let (name, afterName) ← readString rest
      match skipSpace afterName with
      | ':' :: rest => do
        let (value, after) ← readValue fuel (skipSpace rest)
        match skipSpace after with
        | '\x7d' :: rest => pure (put name value members, rest)
        | ',' :: rest => readMembers fuel (put name value members) (skipSpace rest)
        | rest => stopAt .expectedComma rest
      | rest => stopAt .expectedColon rest
    | _ => stopAt .expectedName text

end

/-! ## Whole texts -/

/-- Why a text is no JSON value, and where. -/
structure SyntaxFault where
  /-- What is wrong. -/
  flaw : Flaw
  /-- How many characters stand before the fault. -/
  offset : Nat
  /-- The line of the fault, from one. -/
  line : Nat
  /-- The place in that line, from one. -/
  column : Nat
deriving DecidableEq

/-- The fault at a place of a text. -/
def SyntaxFault.locate (text : List Char) (stop : Stop) : SyntaxFault :=
  let before := text.take (text.length - stop.left)
  ⟨stop.flaw, before.length, before.count '\n' + 1,
    (before.reverse.takeWhile (· != '\n')).length + 1⟩

/-- The whole message about a fault. An integer that is too long is reported without a place. -/
def SyntaxFault.message (fault : SyntaxFault) : String :=
  match fault.flaw with
  | .oversizedInteger _ => fault.flaw.message
  | flaw =>
    flaw.message ++ ": line " ++ toString fault.line ++ " column " ++ toString fault.column ++
      " (char " ++ toString fault.offset ++ ")"

/-- One value between blanks and nothing else. -/
def readText (text : List Char) : Except Stop Json :=
  match text with
  | c :: _ =>
    if c.toNat = 0xfeff then stopAt .byteOrderMark text
    else do
      let (value, after) ← readValue (2 * text.length + 2) (skipSpace text)
      match skipSpace after with
      | [] => pure value
      | rest => stopAt .extraData rest
  | [] => stopAt .expectedValue text

/-- The value that a text is. -/
def read (text : String) : Except SyntaxFault Json :=
  (readText text.toList).mapError (SyntaxFault.locate text.toList)

end PlanGraph.Json
