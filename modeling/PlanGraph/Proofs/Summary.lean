import Mathlib.Data.List.Forall2
import PlanGraph.Proofs.Text.Fences
import PlanGraph.Summary

/-!
# Previews of prompts

A preview of a text that is too long is what stands before a place of the text, without the blanks
at its end (`Text.Cut`), and three points. The place and the text settle what that is
(`Text.Cut.eq_trimEnd`), so a preview may be made from a longer preview as well as from the text
itself (`Text.preview_preview`): either the shorter cut comes before the end of the longer one, or
it falls into the blanks that were left out there.
-/

namespace PlanGraph

namespace Text

/-! ## Cuts -/

/-- What is kept of a text that is cut at a place: a start of the text, as long as it can be, that
does not end with a blank. Up to the place there are only blanks behind it. -/
structure Cut (place : Nat) (text kept : List Char) : Prop where
  start : kept <+: text
  within : kept.length ≤ place
  bare : ∀ c ∈ kept.getLast?, isBlank c = false
  gap : AllBlank ((text.take place).drop kept.length)

section

variable {place : Nat} {text kept : List Char}

/-- Without the blanks at its end, what stands before the place is kept. -/
theorem cut_trimEnd (place : Nat) (text : List Char) :
    Cut place text (trimEnd (text.take place)) := by
  have start : trimEnd (text.take place) <+: text.take place := List.rdropWhile_prefix isBlank _
  refine ⟨start.trans (List.take_prefix ..), ?_, ?_, ?_⟩
  · exact start.length_le.trans (List.length_take_le ..)
  · intro c last
    obtain ⟨filled, rfl⟩ := List.mem_getLast?_eq_getLast last
    exact Bool.eq_false_iff.mpr (List.rdropWhile_last_not isBlank _ filled)
  · have parts : trimEnd (text.take place) ++ (text.take place).rtakeWhile isBlank =
        text.take place := List.rdropWhile_append_rtakeWhile
    have behind := congrArg (List.drop (trimEnd (text.take place)).length) parts
    rw [List.drop_left] at behind
    rw [← behind]
    exact fun c => List.mem_rtakeWhile_imp

/-- Nothing else is. -/
theorem Cut.eq_trimEnd (cut : Cut place text kept) : trimEnd (text.take place) = kept := by
  have before : (text.take place).take kept.length = kept := by
    rw [List.take_take, Nat.min_eq_left cut.within]
    exact (List.prefix_iff_eq_take.mp cut.start).symm
  have parts := List.take_append_drop kept.length (text.take place)
  rw [before] at parts
  rw [← parts, trimEnd_append cut.gap]
  refine List.rdropWhile_eq_self_iff.mpr fun filled => ?_
  rw [Bool.not_eq_true]
  exact cut.bare _ (List.getLast?_eq_getLast_of_ne_nil filled)

end

/-! ## Previews -/

section

variable {limit small large : Nat} {text : List Char}

/-- A text is its own preview where it keeps to the limit. -/
theorem preview_eq_self_iff : preview limit text = text ↔ text.length ≤ limit := by
  constructor
  · intro same
    have bound := length_preview_le (Int.natCast_nonneg limit) text
    rw [same] at bound
    exact Int.ofNat_le.mp bound
  · intro short
    exact if_pos (Int.ofNat_le.mpr short)

/-- A text that is too long is cut, where there is room for the mark. -/
theorem preview_of_long (long : limit < text.length) (room : 3 < limit) :
    preview limit text = trimEnd (text.take (limit - 3)) ++ ellipsis := by
  have mark : ellipsis.length = 3 := rfl
  have place : (limit : Int) - (3 : Nat) = (limit - 3 : Nat) := by omega
  rw [preview, if_neg (by omega), mark, if_neg (by omega), place, upTo,
    if_pos (Int.natCast_nonneg _), Int.toNat_natCast]

/-- A preview of a longer preview is a preview of the text. -/
theorem preview_preview (room : 3 < small) (order : small ≤ large) :
    preview small (preview large text) = preview small text := by
  by_cases short : text.length ≤ large
  · rw [preview_eq_self_iff.mpr short]
  have long : large < text.length := Nat.lt_of_not_le short
  have cut := cut_trimEnd (large - 3) text
  have direct : preview small text = trimEnd (text.take (small - 3)) ++ ellipsis :=
    preview_of_long (order.trans_lt long) room
  rw [preview_of_long long (room.trans_le order), direct]
  generalize trimEnd (text.take (large - 3)) = kept at cut
  have length : (kept ++ ellipsis).length = kept.length + 3 := List.length_append
  by_cases fits : kept.length + 3 ≤ small
  · -- the shorter cut falls into the blanks behind the longer one
    have sooner : Cut (small - 3) text kept := by
      refine ⟨cut.start, by omega, cut.bare, fun c listed => cut.gap c ?_⟩
      rw [List.drop_take] at listed ⊢
      exact (List.take_prefix_take_left (by omega)).subset listed
    rw [preview_eq_self_iff.mpr (length.le.trans fits), sooner.eq_trimEnd]
  · -- the shorter cut comes before the end of the longer one
    have same : (kept ++ ellipsis).take (small - 3) = text.take (small - 3) := by
      rw [List.take_append_of_le_length (by omega), List.prefix_iff_eq_take.mp cut.start,
        List.take_take, Nat.min_eq_left (by omega)]
    rw [preview_of_long (by omega) room, same]

end

end Text

/-! ## Previews in summaries -/

namespace Plan

/-- The tasks of a summary are those of the plan. -/
theorem itemsOf_tasks_summary (promptChars : Int) (planId : Json) (plan : Plan) :
    (plan.summary promptChars planId).itemsOf "tasks" =
      plan.tasks.map (Task.summary promptChars) := by
  unfold summary
  split
  · rfl
  · rfl

/-- So are the variables. -/
theorem itemsOf_variables_summary (promptChars : Int) (planId : Json) (plan : Plan) :
    (plan.summary promptChars planId).itemsOf "variables" = plan.inputs.map Variable.summary := by
  unfold summary
  split
  · rfl
  · rfl

end Plan

/-- **Previews are bounded, faithful and coherent.** A preview keeps to its limit. It is the prompt
exactly where the prompt keeps to the limit; where it does not, and there is room for the mark, the
preview is what is kept of the prompt that far in front of the limit, with the mark. Made from a
longer preview, a preview is the same as from the prompt. In the summary of a plan that can be
loaded, there is an entry for each task, with its id and the preview of its prompt, and one for each
variable, with its id, in the order of the plan. -/
theorem previews_of_summarize (limit : Nat) :
    (∀ prompt : String,
      (promptPreview limit prompt).length ≤ limit ∧
      (promptPreview limit prompt = prompt ↔ prompt.length ≤ limit) ∧
      (limit < prompt.length → 3 < limit → ∃ kept : String,
        promptPreview limit prompt = kept ++ "..." ∧
          Text.Cut (limit - 3) prompt.toList kept.toList) ∧
      ∀ small : Nat, 4 ≤ small → small ≤ limit →
        promptPreview small (promptPreview limit prompt) = promptPreview small prompt) ∧
    ∀ input plan planId, PlanInput.load input = .ok plan →
      ∃ summary, summarize input (.int limit) planId = .ok summary ∧
        List.Forall₂ (fun task entry => entry.get? "id" = some (.str task.id) ∧
            entry.get? "prompt" = some (.str (promptPreview limit task.prompt)))
          plan.tasks (summary.itemsOf "tasks") ∧
        List.Forall₂ (fun input entry => entry.get? "variableId" = some (.str input.variableId))
          plan.inputs (summary.itemsOf "variables") := by
  refine ⟨fun prompt => ⟨?_, ?_, ?_, ?_⟩, ?_⟩
  · rw [promptPreview, String.length_ofList]
    exact Int.ofNat_le.mp (Text.length_preview_le (Int.natCast_nonneg limit) _)
  · rw [promptPreview, ← String.toList_inj, String.toList_ofList, Text.preview_eq_self_iff,
      String.length_toList]
  · intro long room
    rw [← String.length_toList] at long
    refine ⟨String.ofList (Text.trimEnd (prompt.toList.take (limit - 3))), ?_, ?_⟩
    · rw [promptPreview, Text.preview_of_long long room, String.ofList_append]
      rfl
    · rw [String.toList_ofList]
      exact Text.cut_trimEnd _ _
  · intro small room order
    rw [promptPreview, promptPreview, promptPreview, String.toList_ofList,
      Text.preview_preview room order]
  · intro input plan planId loaded
    refine ⟨plan.summary limit planId, ?_, ?_, ?_⟩
    · rw [summarize, loaded]
      rfl
    · rw [Plan.itemsOf_tasks_summary, List.forall₂_map_right_iff, List.forall₂_same]
      exact fun task _ => ⟨rfl, rfl⟩
    · rw [Plan.itemsOf_variables_summary, List.forall₂_map_right_iff, List.forall₂_same]
      exact fun input _ => rfl

/-- The longer cut leaves two blanks out, and into the first of them falls the shorter one. -/
theorem previews_of_summarize_of_blanks :
    let prompt := "ab   cdefg"
    let input : PlanInput := .raw (.obj [("tasks", .arr [.obj [("id", .str "t"),
      ("prompt", .str prompt)], .obj []]), ("variables", .arr [])])
    promptPreview 7 prompt = "ab..." ∧ promptPreview 6 "ab..." = promptPreview 6 prompt ∧
    promptPreview 4 "ab..." = promptPreview 4 prompt ∧
    ∃ plan summary, input.load = .ok plan ∧ summarize input (.int 7) .null = .ok summary ∧
      List.Forall₂ (fun task entry => entry.get? "id" = some (.str task.id) ∧
          entry.get? "prompt" = some (.str (promptPreview 7 task.prompt)))
        plan.tasks (summary.itemsOf "tasks") ∧
      (summary.itemsOf "tasks").map (Json.get? "prompt") =
        [some (.str "ab..."), some (.str "")] := by
  intro prompt input
  obtain ⟨alone, among⟩ := previews_of_summarize 7
  have cut : promptPreview 7 prompt = "ab..." := by decide
  have shorter (small : Nat) (room : 4 ≤ small) (order : small ≤ 7) :
      promptPreview small "ab..." = promptPreview small prompt := by
    rw [← (alone prompt).2.2.2 small room order]
    exact congrArg _ cut.symm
  obtain ⟨plan, loaded⟩ : ∃ plan, input.load = .ok plan := ⟨_, rfl⟩
  obtain ⟨summary, summarized, shown⟩ : ∃ summary,
      summarize input (.int 7) .null = .ok summary ∧
      (summary.itemsOf "tasks").map (Json.get? "prompt") =
        [some (.str "ab..."), some (.str "")] := ⟨_, rfl, by decide⟩
  obtain ⟨same, returned, tasks, -⟩ := among input plan .null loaded
  obtain rfl : summary = same := Except.ok.inj (summarized.symm.trans returned)
  exact ⟨cut, shorter 6 (by decide) (by decide), shorter 4 (by decide) (by decide), plan, summary,
    loaded, summarized, tasks, shown⟩

end PlanGraph
