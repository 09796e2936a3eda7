import Mathlib.Data.List.Nodup
import PlanGraph.Proofs.Checked

/-!
# Sound plans

What every plan that was read keeps to, and what every change to a plan has to keep.

* `Plan.Distinct plan`: the ids of tasks that have one, and the ids of variables, are pairwise
  distinct. A plan passes the search for repeated ids exactly when it is so
  (`Plan.distinct_eq_ok_iff`).
* `Plan.Sound plan`: moreover, resource types are listed on resource variables only. Every plan
  that was read is sound (`Plan.sound_of_ofJson`).
-/

namespace PlanGraph

/-! ## Variables that are well typed -/

namespace Variable

/-- The rule of resource types, said of the members of a variable. -/
theorem wellTyped_iff {input : Variable} :
    input.wellTyped = true ↔
      ∀ types, input.resourceTypes = some types → types ≠ [] → input.variableType = .resource := by
  unfold wellTyped
  rcases input.resourceTypes with _ | types
  · simp
  · rcases types with _ | ⟨type, more⟩
    · simp
    · simp

/-- A variable passes when its members do and it is well typed. -/
theorem check_eq_passed_iff {value : Json} {input : Variable} :
    check value = .passed input ↔
      ∃ members, value = .obj members ∧ checkMembers members = .passed input ∧
        input.wellTyped = true := by
  simp [check, Json.checkRecord_eq_passed_iff, Checked.guard_eq_passed_iff]

/-- A variable that was read is well typed. -/
theorem wellTyped_of_check {value : Json} {input : Variable} (h : check value = .passed input) :
    input.wellTyped = true := by
  obtain ⟨members, -, -, typed⟩ := check_eq_passed_iff.mp h
  exact typed

/-- Checked again, a variable stays what it is, provided that it is well typed. -/
theorem recheck_eq_ok_iff {input next : Variable} {label : String} :
    input.recheck label = .ok next ↔ input = next ∧ input.wellTyped = true := by
  rw [recheck, Checked.orFail_eq_ok_iff, Checked.guard_eq_passed_iff, Checked.passed.injEq]
  constructor
  · rintro ⟨rfl, typed⟩
    exact ⟨rfl, typed⟩
  · rintro ⟨rfl, typed⟩
    exact ⟨rfl, typed⟩

end Variable

namespace Plan

/-! ## Distinct ids -/

/-- The ids of the tasks that have one. -/
def taskIds (plan : Plan) : List String :=
  (plan.tasks.map Task.id).filter (· != "")

/-- The ids of the variables. -/
def inputIds (plan : Plan) : List String :=
  plan.inputs.map Variable.variableId

/-- No id of a task and no id of a variable occurs twice; tasks may have no id. -/
structure Distinct (plan : Plan) : Prop where
  /-- No two tasks share an id. -/
  tasks : plan.taskIds.Nodup
  /-- No two variables share an id. -/
  inputs : plan.inputIds.Nodup

/-- Among the ids of one kind no place is reported exactly when none of them occurs twice and none
was seen before. -/
theorem filter_repeatsAfter_eq_nil_iff (kept : String → Bool) (ids seen : List String)
    (place : Nat) :
    (repeatsAfter seen place ids).filter (fun found => kept found.2) = [] ↔
      (ids.filter kept).Nodup ∧ ∀ id ∈ ids, kept id = true → id ∉ seen := by
  induction ids generalizing seen place with
  | nil => simp [repeatsAfter]
  | cons id rest ih =>
      have later := ih (id :: seen) (place + 1)
      by_cases hkept : kept id = true
      · by_cases hseen : id ∈ seen
        · simp [repeatsAfter, hseen, hkept]
        · have avoids : (∀ other ∈ rest, kept other = true → other ∉ id :: seen) ↔
              id ∉ rest.filter kept ∧ ∀ other ∈ rest, kept other = true → other ∉ seen := by
            grind
          simp only [repeatsAfter, hseen, if_false, later, avoids, List.filter_cons, hkept,
            if_true, List.nodup_cons, List.forall_mem_cons, not_false_eq_true, implies_true,
            true_and]
          rw [← and_assoc, and_comm (a := (rest.filter kept).Nodup)]
      · simp only [repeatsAfter, List.filter_cons, hkept]
        -- an id that does not count may be seen again
        have unseen : (∀ other ∈ rest, kept other = true → other ∉ id :: seen) ↔
            ∀ other ∈ rest, kept other = true → other ∉ seen := by
          grind
        rw [unseen] at later
        split
        · simp [hkept, later]
        · simp [hkept, later]

/-- The search for repeated ids finds nothing exactly when there are none. -/
theorem duplicateIssues_eq_nil_iff {plan : Plan} : plan.duplicateIssues = [] ↔ plan.Distinct := by
  have tasks := filter_repeatsAfter_eq_nil_iff (· != "") (plan.tasks.map Task.id) [] 0
  have inputs := filter_repeatsAfter_eq_nil_iff (fun _ => true)
    (plan.inputs.map Variable.variableId) [] 0
  simp only [List.not_mem_nil, not_false_eq_true, implies_true, and_true] at tasks inputs
  simp only [List.filter_true] at inputs
  rw [duplicateIssues, List.append_eq_nil_iff, List.map_eq_nil_iff, List.map_eq_nil_iff, tasks,
    inputs]
  exact ⟨fun h => ⟨h.1, h.2⟩, fun h => ⟨h.tasks, h.inputs⟩⟩

/-- A plan is passed on as it is, provided that its ids are distinct. -/
theorem distinct_eq_ok_iff {plan next : Plan} :
    plan.distinct = .ok next ↔ plan = next ∧ plan.Distinct := by
  rw [← duplicateIssues_eq_nil_iff, distinct]
  split
  · rename_i found
    simp [found]
  · rename_i found
    simpa using fun _ => found

/-! ## Soundness -/

/-- Ids are distinct, and resource types are listed on resource variables only. -/
structure Sound (plan : Plan) : Prop extends Distinct plan where
  /-- Every variable keeps the rule of resource types. -/
  wellTyped : ∀ input ∈ plan.inputs, input.wellTyped = true

/-- The members of a plan pass when each of them does. -/
theorem checkMembers_eq_passed_iff {members : List (String × Json)} {plan : Plan} :
    checkMembers members = .passed plan ↔
      (∃ title, Key.optional (.word "title") "" Task.checkBlankable members = .passed title ∧
        plan.title = .str title) ∧
      Key.optional (.word "tasks") [] (Json.checkItems Task.check) members = .passed plan.tasks ∧
      Key.optional (.word "variables") [] (Json.checkItems Variable.check) members =
        .passed plan.inputs := by
  obtain ⟨title, tasks, inputs⟩ := plan
  simp only [checkMembers, Checked.seq_eq_passed_iff, Checked.map_eq_passed_iff]
  constructor
  · rintro ⟨_, _, ⟨_, _, ⟨_, ⟨text, found, rfl⟩, rfl⟩, hasTasks, rfl⟩, hasInputs, made⟩
    cases made
    exact ⟨⟨text, found, rfl⟩, hasTasks, hasInputs⟩
  · rintro ⟨⟨text, found, rfl⟩, hasTasks, hasInputs⟩
    exact ⟨_, _, ⟨_, _, ⟨_, ⟨text, found, rfl⟩, rfl⟩, hasTasks, rfl⟩, hasInputs, rfl⟩

/-- Every variable of a plan that passes is well typed. -/
theorem wellTyped_of_check {value : Json} {plan : Plan} (h : check value = .passed plan) :
    ∀ input ∈ plan.inputs, input.wellTyped = true := by
  obtain ⟨members, -, passes⟩ := Json.checkRecord_eq_passed_iff.mp h
  obtain ⟨-, -, inputs⟩ := checkMembers_eq_passed_iff.mp passes
  intro input hinput
  rcases Key.optional_eq_passed_iff.mp inputs with ⟨-, none⟩ | ⟨list, -, passed⟩
  · rw [← none] at hinput
    exact absurd hinput List.not_mem_nil
  · obtain ⟨items, -, each⟩ := Json.checkItems_eq_passed_iff.mp passed
    obtain ⟨item, -, found⟩ := Checked.exists_item_of_mem each hinput
    exact Variable.wellTyped_of_check found

/-- A plan that was read is sound. -/
theorem sound_of_ofJson {value : Json} {plan : Plan} (h : ofJson value = .ok plan) :
    plan.Sound := by
  obtain ⟨found, passes, rest⟩ := bind_eq_ok_iff.mp h
  obtain ⟨rfl, ids⟩ := distinct_eq_ok_iff.mp rest
  exact ⟨ids, wellTyped_of_check (Checked.orFail_eq_ok_iff.mp passes)⟩

end Plan

/-- Ids of a plan that was given are distinct, whether it was read before or not. -/
theorem PlanInput.distinct_of_load {input : PlanInput} {plan : Plan} (h : input.load = .ok plan) :
    plan.Distinct := by
  rcases input with given | value
  · obtain ⟨rfl, ids⟩ := Plan.distinct_eq_ok_iff.mp h
    exact ids
  · exact (Plan.sound_of_ofJson h).toDistinct

end PlanGraph
