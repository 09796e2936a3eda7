/-!
# Lines of text

A line ends at a line feed, a carriage return (alone or before a line feed), a vertical tab, a form
feed, one of the three ASCII separators above the unit, the next-line control, or one of the two
Unicode separators. A last line needs no ending, and an ending starts no empty line of its own.
-/

namespace PlanGraph.Text

/-- A character that ends a line. -/
def isLineEnd (c : Char) : Bool :=
  (0xa ≤ c.toNat && c.toNat ≤ 0xd) || (0x1c ≤ c.toNat && c.toNat ≤ 0x1e) || c.toNat == 0x85 ||
    c.toNat == 0x2028 || c.toNat == 0x2029

/-- Puts a character in front of the first line, which it opens if there is none. -/
def extendFirst (c : Char) : List (List Char) → List (List Char)
  | [] => [[c]]
  | line :: more => (c :: line) :: more

/-- The lines of a text, without their endings. -/
def lines : List Char → List (List Char)
  | [] => []
  | '\r' :: '\n' :: rest => [] :: lines rest
  | c :: rest => if isLineEnd c then [] :: lines rest else extendFirst c (lines rest)

/-- The first line of a text; the empty text counts as an empty line. -/
def firstLine (text : List Char) : List Char :=
  text.takeWhile fun c => !isLineEnd c

/-- Lines written one under another. -/
def joinLines (parts : List (List Char)) : List Char :=
  List.intercalate ['\n'] parts

/-- The first line is the first of the lines, whenever there is one. -/
theorem lines_head?_eq_firstLine {text : List Char} (h : text ≠ []) :
    (lines text).head? = some (firstLine text) := by
  fun_induction lines text with
  | case1 => exact absurd rfl h
  | case2 rest => simp [firstLine, isLineEnd]
  | case3 c rest _ hc => simp [firstLine, hc]
  | case4 c rest hcr hc ih =>
    cases rest with
    | nil => simp [lines, extendFirst, firstLine, hc]
    | cons d more =>
      have ih' := ih (by simp)
      cases hl : lines (d :: more) with
      | nil => simp [hl] at ih'
      | cons line others =>
        simp only [hl, List.head?_cons, Option.some.injEq] at ih'
        simp [extendFirst, firstLine, hc] at *
        simpa [firstLine] using ih'

end PlanGraph.Text
