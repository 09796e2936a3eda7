import Mathlib.Algebra.Ring.Nat

/-!
# Text between line feeds

A text is split at its line feeds alone, into one part more than it has line feeds
(`length_feedParts`). Lines that are written one under another come apart again into the parts of
each (`feedParts_intercalate`), so they come back as they were exactly if none of them holds a line
feed (`flatMap_feedParts_eq_self_iff`).
-/

namespace PlanGraph.Text

/-- How many line feeds a text has. -/
def feeds (text : String) : Nat :=
  text.toList.count '\n'

/-- The parts of a text between its line feeds. -/
def feedParts (text : String) : List String :=
  (text.toList.splitOn '\n').map String.ofList

variable {text : String} {lines : List String}

/-! ## Line feeds -/

@[simp]
theorem feeds_append (front back : String) : feeds (front ++ back) = feeds front + feeds back := by
  simp [feeds]

theorem feeds_eq_zero_iff : feeds text = 0 ↔ '\n' ∉ text.toList :=
  List.count_eq_zero

/-- Texts with marks between them have the line feeds of the marks and their own. -/
theorem feeds_intercalate {mark : String} (bare : feeds mark = 0) (texts : List String) :
    feeds (String.intercalate mark texts) = (texts.map feeds).sum := by
  rcases texts with _ | ⟨first, more⟩
  · rfl
  · induction more generalizing first with
    | nil => simp
    | cons next more ih =>
        rw [String.intercalate_cons_cons, feeds_append, feeds_append, bare, ih]
        rfl

/-! ## Parts -/

/-- A text without line feeds is one part. -/
theorem feedParts_of_bare (bare : feeds text = 0) : feedParts text = [text] := by
  rw [feedParts, List.splitOn_eq_singleton (feeds_eq_zero_iff.mp bare), List.map_singleton,
    String.ofList_toList]

/-- At a line feed a text comes apart. -/
theorem feedParts_append_feed (front back : String) :
    feedParts (front ++ "\n" ++ back) = feedParts front ++ feedParts back := by
  have feed : (front ++ "\n" ++ back).toList = front.toList ++ '\n' :: back.toList := by simp
  rw [feedParts, feed, List.splitOn_append_cons_self, List.map_append]
  rfl

/-- There is one part more than there are line feeds. -/
theorem length_feedParts (text : String) : (feedParts text).length = feeds text + 1 := by
  have split (chars : List Char) : (chars.splitOn '\n').length = chars.count '\n' + 1 := by
    induction chars with
    | nil => rfl
    | cons c rest ih =>
        rw [List.splitOn_cons_eq_if_modifyHead, List.count_cons]
        split
        · rw [List.length_cons, ih]
        · rw [List.length_modifyHead, ih]
  rw [feedParts, List.length_map, split, feeds]

/-- Lines that are written one under another come apart into the parts of each. -/
theorem feedParts_intercalate (nonempty : lines ≠ []) :
    feedParts (String.intercalate "\n" lines) = lines.flatMap feedParts := by
  rcases lines with _ | ⟨first, more⟩
  · exact absurd rfl nonempty
  · induction more generalizing first with
    | nil => simp
    | cons next more ih =>
        rw [String.intercalate_cons_cons, feedParts_append_feed, ih _ (List.cons_ne_nil _ _)]
        rfl

/-- Lines have as many parts as there are lines and line feeds in them. -/
theorem length_flatMap_feedParts (lines : List String) :
    (lines.flatMap feedParts).length = lines.length + (lines.map feeds).sum := by
  induction lines with
  | nil => rfl
  | cons line more ih =>
      rw [List.flatMap_cons, List.length_append, ih, length_feedParts, List.map_cons,
        List.sum_cons, List.length_cons]
      omega

/-- Lines are their own parts exactly if they hold no line feeds. -/
theorem flatMap_feedParts_eq_self_iff :
    lines.flatMap feedParts = lines ↔ (lines.map feeds).sum = 0 := by
  constructor
  · intro same
    have length := length_flatMap_feedParts lines
    rw [same] at length
    omega
  · intro bare
    induction lines with
    | nil => rfl
    | cons line more ih =>
        rw [List.map_cons, List.sum_cons, Nat.add_eq_zero_iff] at bare
        rw [List.flatMap_cons, feedParts_of_bare bare.1, ih bare.2]
        rfl

end PlanGraph.Text
