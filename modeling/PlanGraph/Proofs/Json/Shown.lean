import Mathlib.Tactic.SplitIfs
import PlanGraph.Json.Shown
import PlanGraph.Proofs.Json.Written

/-!
# Values in messages stay on their line

In a message a value is written without line feeds (`Json.feed_not_mem_shown`): those of its strings
are escaped, and nothing else of it has any. Only a string that stands for itself, without quotes,
brings the line feeds that it holds into the message.
-/

namespace PlanGraph

/-! ## Strings between quotes -/

namespace Text

/-- A character between quotes is written without a line feed. -/
theorem feed_not_mem_quotedChar {quote : Char} (proper : quote ≠ '\n') (c : Char) :
    '\n' ∉ quotedChar quote c := by
  have escape {mark : Char} (bare : mark ≠ '\n') (width value : Nat) :
      '\n' ∉ '\\' :: mark :: hexDigits width value := by
    have digits := (inline_hexDigits width value).feed_not_mem
    simp [digits, Ne.symm bare]
  unfold quotedChar
  split_ifs with special tab feed back printable narrow basic
  · have other : c ≠ '\n' := by
      rintro rfl
      rcases special with same | same
      · exact proper same.symm
      · exact absurd same (by decide)
    simp [Ne.symm other]
  · decide
  · decide
  · decide
  · simp [Ne.symm feed]
  · exact escape (by decide) _ _
  · exact escape (by decide) _ _
  · exact escape (by decide) _ _

/-- A text between quotes is written without line feeds. -/
theorem feed_not_mem_quoted (text : List Char) : '\n' ∉ quoted text := by
  have proper : quoteFor text ≠ '\n' := by
    unfold quoteFor
    split
    · decide
    · decide
  intro listed
  rcases List.mem_append.mp listed with front | last
  · rcases List.mem_cons.mp front with opening | inside
    · exact proper opening.symm
    · obtain ⟨c, -, written⟩ := List.mem_flatMap.mp inside
      exact feed_not_mem_quotedChar proper c written
  · exact proper (List.mem_singleton.mp last).symm

end Text

/-! ## Values -/

namespace Json

theorem inline_writeInt (n : Int) : Inline (writeInt n) :=
  inline_writeScalar (.int n)

theorem inline_showFloat (x : Binary64) : Inline (showFloat x) := by
  cases x with
  | nan => exact .of_all (by decide)
  | infinite negative =>
      cases negative with
      | false => exact .of_all (by decide)
      | true => exact .of_all (by decide)
  | finite negative units => exact Binary64.inline_finiteText negative units

mutual

/-- A value in a message is written without line feeds. -/
theorem feed_not_mem_shown : ∀ value : Json, '\n' ∉ value.shown
  | null => by simp [shown]
  | bool true => by simp [shown]
  | bool false => by simp [shown]
  | int n => (inline_writeInt n).feed_not_mem
  | float x => (inline_showFloat x).feed_not_mem
  | str s => Text.feed_not_mem_quoted s.toList
  | arr items => by simp [shown, feed_not_mem_shownItems items]
  | obj members => by simp [shown, feed_not_mem_shownMembers members]

theorem feed_not_mem_shownItems : ∀ items : List Json, '\n' ∉ shownItems items
  | [] => List.not_mem_nil
  | [item] => feed_not_mem_shown item
  | item :: next :: rest => by
    simp [shownItems, feed_not_mem_shown item, feed_not_mem_shownItems (next :: rest)]

theorem feed_not_mem_shownMembers :
    ∀ members : List (String × Json), '\n' ∉ shownMembers members
  | [] => List.not_mem_nil
  | [(name, value)] => by
    simp [shownMembers, Text.feed_not_mem_quoted, feed_not_mem_shown value]
  | (name, value) :: next :: rest => by
    simp [shownMembers, Text.feed_not_mem_quoted, feed_not_mem_shown value,
      feed_not_mem_shownMembers (next :: rest)]

end

end Json

end PlanGraph
