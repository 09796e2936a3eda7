import Mathlib.Data.Finset.Card
import PlanGraph.Proofs.Nesting

/-!
# Ids that are repeated

What is reported of the ids of a plan. A list of ids is gone through once, with the ids seen so far
at hand; what is found on the way are the places that hold an id which an earlier place holds too,
in ascending order (`Plan.repeatsAfter_eq_repeats`), and there are as many of them as there are ids
too many (`Plan.length_repeatsAfter`). So every repeat is reported, the third as well as the second,
and nothing else is: first for the tasks, where an empty id does not count, and then for the
variables, where it does (`Plan.reports_of_repeats`).
-/

namespace PlanGraph

namespace Plan

/-! ## Places of repeated ids -/

/-- A place before the given one holds the id. -/
def HeldBefore (ids : List String) (place : Nat) (id : String) : Prop :=
  ∃ earlier < place, ids[earlier]? = some id

instance (ids : List String) (place : Nat) (id : String) : Decidable (HeldBefore ids place id) :=
  inferInstanceAs (Decidable (∃ earlier < place, ids[earlier]? = some id))

/-- The ids that count and that an earlier place holds too, with their places in ascending order. -/
def repeats (counts : String → Bool) (ids : List String) : List (String × Nat) :=
  ids.zipIdx.filter fun entry => counts entry.1 && decide (HeldBefore ids entry.2 entry.1)

/-- The places before the end of a front are those of the front. -/
theorem heldBefore_length_iff {front back : List String} {id : String} :
    HeldBefore (front ++ back) front.length id ↔ id ∈ front := by
  rw [List.mem_iff_getElem?]
  constructor
  · rintro ⟨earlier, before, held⟩
    rw [List.getElem?_append_left before] at held
    exact ⟨earlier, held⟩
  · rintro ⟨earlier, held⟩
    obtain ⟨before, -⟩ := List.getElem?_eq_some_iff.mp held
    exact ⟨earlier, before, by rw [List.getElem?_append_left before, held]⟩

/-- Behind a front whose ids were seen, the places that are found hold an id which is held
before. -/
theorem repeatsAfter_append (ids : List String) {seen front : List String}
    (known : ∀ id, id ∈ seen ↔ id ∈ front) :
    repeatsAfter seen front.length ids =
      ((ids.zipIdx front.length).filter fun entry =>
        decide (HeldBefore (front ++ ids) entry.2 entry.1)).map Prod.swap := by
  induction ids generalizing seen front with
  | nil => rfl
  | cons id rest ih =>
      have known' : ∀ other, other ∈ id :: seen ↔ other ∈ front ++ [id] := by
        intro other
        rw [List.mem_cons, List.mem_append, List.mem_singleton, known other, or_comm]
      have later := ih known'
      rw [List.length_append, List.length_singleton, List.append_assoc,
        List.singleton_append] at later
      have first : id ∈ seen ↔ HeldBefore (front ++ id :: rest) front.length id := by
        rw [heldBefore_length_iff, known id]
      rw [repeatsAfter, later, List.zipIdx_cons, List.filter_cons]
      by_cases held : HeldBefore (front ++ id :: rest) front.length id
      · rw [if_pos (first.mpr held), if_pos (decide_eq_true held), List.map_cons]
        rfl
      · rw [if_neg (mt first.mp held), if_neg (mt of_decide_eq_true held)]

/-- From the start of a list, the ids that are found and count are its repeats. -/
theorem repeatsAfter_eq_repeats (counts : String → Bool) (ids : List String) :
    (repeatsAfter [] 0 ids).filter (fun found => counts found.2) =
      (repeats counts ids).map Prod.swap := by
  have found := @repeatsAfter_append ids [] [] fun _ => Iff.rfl
  rw [List.length_nil, List.nil_append] at found
  rw [found, List.filter_map, List.filter_filter]
  rfl

/-! ## How many there are -/

/-- An id that was not seen is one more. -/
theorem card_insert_sdiff {id : String} {ids seen : Finset String} (fresh : id ∉ seen) :
    (insert id ids \ seen).card = (ids \ insert id seen).card + 1 := by
  rw [← Finset.card_insert_of_notMem (a := id) (s := ids \ insert id seen) (by simp)]
  congr 1
  ext other
  by_cases same : other = id
  · simp [same, fresh]
  · simp [same]

/-- Each id that counts is either the first one of its kind or found to be repeated. -/
theorem length_repeatsAfter (counts : String → Bool) (ids seen : List String) (place : Nat) :
    ((repeatsAfter seen place ids).filter fun found => counts found.2).length +
      ((ids.filter counts).toFinset \ seen.toFinset).card = (ids.filter counts).length := by
  induction ids generalizing seen place with
  | nil => simp [repeatsAfter]
  | cons id rest ih =>
      have later := ih (id :: seen) (place + 1)
      rw [List.toFinset_cons] at later
      rw [repeatsAfter]
      by_cases counted : counts id = true
      · rw [List.filter_cons_of_pos counted, List.length_cons, List.toFinset_cons, ← later]
        by_cases held : id ∈ seen
        · have old : id ∈ seen.toFinset := List.mem_toFinset.mpr held
          rw [if_pos held, List.filter_cons_of_pos (by exact counted), List.length_cons,
            Finset.insert_sdiff_of_mem _ old, Finset.insert_eq_of_mem old]
          omega
        · rw [if_neg held, card_insert_sdiff (mt List.mem_toFinset.mp held)]
          omega
      · -- an id that does not count is not among those that were seen to be counted
        have apart : id ∉ (rest.filter counts).toFinset := by simp [counted]
        rw [Finset.sdiff_insert_of_notMem apart] at later
        rw [List.filter_cons_of_neg counted, ← later]
        split
        · rw [List.filter_cons_of_neg (by exact counted)]
        · rfl

/-! ## Reports -/

/-- What is reported of a repeated task id: where the id stands, and the id. -/
theorem report_repeatedTask (place : Nat) (id : String) :
    (repeatedTask place id).report =
      ("tasks." ++ toString place ++ ".id", "Duplicate task id '" ++ id ++ "'") :=
  Prod.ext ((pathText_itemMember _ _ _).trans String.append_assoc) rfl

/-- What is reported of a repeated variable id. -/
theorem report_repeatedVariable (place : Nat) (id : String) :
    (repeatedVariable place id).report =
      ("variables." ++ toString place ++ ".variableId", "Duplicate variable id '" ++ id ++ "'") :=
  Prod.ext ((pathText_itemMember _ _ _).trans String.append_assoc) rfl

/-- **Every repeat is reported, and nothing else.** Of the ids of a plan, what is reported are first
the tasks whose id is not empty and the id of an earlier task, in the order of the tasks, and then
the variables whose id is the id of an earlier variable, in the order of the variables. So nothing
is reported exactly where no task shares its id with another and no variable does, and with the
distinct ids there are as many reports as there are ids that count. A plan that is sound in
structure is refused with these reports. -/
theorem reports_of_repeats (plan : Plan) :
    plan.duplicateIssues.map Issue.report =
      ((repeats (· != "") (plan.tasks.map Task.id)).map fun entry =>
        ("tasks." ++ toString entry.2 ++ ".id", "Duplicate task id '" ++ entry.1 ++ "'")) ++
      ((repeats (fun _ => true) (plan.inputs.map Variable.variableId)).map fun entry =>
        ("variables." ++ toString entry.2 ++ ".variableId",
          "Duplicate variable id '" ++ entry.1 ++ "'")) ∧
    (plan.duplicateIssues = [] ↔ plan.taskIds.Nodup ∧ plan.inputIds.Nodup) ∧
    plan.duplicateIssues.length + (plan.taskIds.toFinset.card + plan.inputIds.toFinset.card) =
      plan.taskIds.length + plan.inputIds.length ∧
    ∀ value, check value = .passed plan →
      reportsOf (ofJson value) = plan.duplicateIssues.map Issue.report := by
  have inputs := repeatsAfter_eq_repeats (fun _ => true) (plan.inputs.map Variable.variableId)
  rw [List.filter_true] at inputs
  refine ⟨?_, ?_, ?_, ?_⟩
  · rw [duplicateIssues, repeatsAfter_eq_repeats (· != ""), inputs]
    simp only [List.map_append, List.map_map, Function.comp_def, Prod.fst_swap, Prod.snd_swap,
      report_repeatedTask, report_repeatedVariable]
  · rw [duplicateIssues_eq_nil_iff]
    exact ⟨fun distinct => ⟨distinct.tasks, distinct.inputs⟩,
      fun distinct => ⟨distinct.1, distinct.2⟩⟩
  · have tasks := length_repeatsAfter (· != "") (plan.tasks.map Task.id) [] 0
    have inputs := length_repeatsAfter (fun _ => true) (plan.inputs.map Variable.variableId) [] 0
    rw [List.toFinset_nil, Finset.sdiff_empty] at tasks inputs
    rw [List.filter_true, List.filter_true] at inputs
    rw [duplicateIssues, List.length_append, List.length_map, List.length_map, taskIds, inputIds]
    omega
  · intro value passed
    rw [← reportsOf_distinct, ofJson, passed]
    rfl

/-- Two tasks without an id, and three with one id; three variables with an empty id. -/
theorem reports_of_repeats_of_two :
    let task (id : String) : Task := ⟨id, "", "", none, []⟩
    let input (id : String) : Variable := ⟨id, .string, "", "", false, none, []⟩
    let plan : Plan :=
      ⟨.str "", ["a", "", "a", "", "b", "a"].map task, ["", "v", "", ""].map input⟩
    check plan.dump = .passed plan ∧
      reportsOf (ofJson plan.dump) =
        [("tasks.2.id", "Duplicate task id 'a'"), ("tasks.5.id", "Duplicate task id 'a'"),
          ("variables.2.variableId", "Duplicate variable id ''"),
          ("variables.3.variableId", "Duplicate variable id ''")] := by
  intro task input plan
  have passed : check plan.dump = .passed plan := rfl
  obtain ⟨found, -, -, reported⟩ := reports_of_repeats plan
  refine ⟨passed, (reported _ passed).trans (found.trans ?_)⟩
  decide +kernel

end Plan

end PlanGraph
