import PlanGraph.Text.LetterCaseTable

/-!
# Letter case

Capital and small forms of a text. A letter may have a capital form of several letters, a dotted
capital I has a small form of two, and a capital sigma becomes final at the end of a word.
-/

namespace PlanGraph.Text

/-! ## Runs -/

/-- The code point is one that the run moves. -/
def CaseRun.covers (run : CaseRun) (code : Nat) : Bool :=
  decide (run.first ≤ code) && decide (code ≤ run.last) && (code - run.first) % run.step == 0

/-- Moves a character by the run that covers it, if there is one. -/
def shiftBy (runs : List CaseRun) (c : Char) : Char :=
  match runs.find? (·.covers c.toNat) with
  | some run => Char.ofNat (c.toNat + run.shift).toNat
  | none => c

/-! ## Capital forms -/

/-- The capital form of one character. -/
def capitalForm (c : Char) : List Char :=
  match capitalSpellings.lookup c.toNat with
  | some codes => codes.map Char.ofNat
  | none => [shiftBy capitalRuns c]

/-- The text with every letter in its capital form. -/
def capitals (text : List Char) : List Char :=
  text.flatMap capitalForm

/-! ## Small forms -/

/-- A character that has case, for the sigma beside it. -/
def isCased (c : Char) : Bool :=
  inRanges casedRanges c.toNat

/-- A mark that a sigma looks past. -/
def isCaseIgnorable (c : Char) : Bool :=
  inRanges caseIgnorableRanges c.toNat

/-- The nearest character that is no mark has case. -/
def meetsLetter (neighbours : List Char) : Bool :=
  match neighbours.dropWhile isCaseIgnorable with
  | [] => false
  | c :: _ => isCased c

/-- The small form of one character, given what stands before it, nearest first, and after it. -/
def smallForm (before : List Char) (c : Char) (after : List Char) : List Char :=
  if c.toNat = 0x130 then ['i', Char.ofNat 0x307]
  else if c.toNat = 0x3a3 then
    [Char.ofNat (if meetsLetter before && !meetsLetter after then 0x3c2 else 0x3c3)]
  else [shiftBy smallRuns c]

/-- The small forms of a text after the characters already passed, nearest first. -/
def smallsAfter (before : List Char) : List Char → List Char
  | [] => []
  | c :: after => smallForm before c after ++ smallsAfter (c :: before) after

/-- The text with every letter in its small form. -/
def smalls (text : List Char) : List Char :=
  smallsAfter [] text

end PlanGraph.Text
