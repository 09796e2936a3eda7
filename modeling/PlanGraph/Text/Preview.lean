import PlanGraph.Text.Blank

/-!
# Previews of text

A text that is longer than a limit is cut, and three points mark the cut where there is room for
them. A limit below zero counts from the end of the text.
-/

namespace PlanGraph.Text

/-- The mark of a cut. -/
def ellipsis : List Char := ['.', '.', '.']

/-- The text up to a place, which is counted from the end if it is negative. -/
def upTo (place : Int) (text : List Char) : List Char :=
  if 0 ≤ place then text.take place.toNat else text.take (text.length - place.natAbs)

/-- The text, cut if it is longer than the limit. -/
def preview (limit : Int) (text : List Char) : List Char :=
  if text.length ≤ limit then text
  else if limit ≤ ellipsis.length then upTo limit text
  else trimEnd (upTo (limit - ellipsis.length) text) ++ ellipsis

theorem length_trimEnd_le (text : List Char) : (trimEnd text).length ≤ text.length := by
  simpa [trimEnd] using List.Sublist.length_le (List.dropWhile_sublist isBlank (l := text.reverse))

/-- A preview keeps to a limit that is not negative. -/
theorem length_preview_le {limit : Int} (h : 0 ≤ limit) (text : List Char) :
    (preview limit text).length ≤ limit := by
  unfold preview
  split
  · assumption
  · have bound : ∀ place, 0 ≤ place → ((upTo place text).length : Int) ≤ place := by
      intro place nonneg
      simp only [upTo, nonneg, ↓reduceIte, List.length_take]
      omega
    split
    · exact bound limit h
    · rename_i room
      have cut := length_trimEnd_le (upTo (limit - ellipsis.length) text)
      have fits := bound (limit - ellipsis.length) (by omega)
      rw [List.length_append]
      omega

end PlanGraph.Text
