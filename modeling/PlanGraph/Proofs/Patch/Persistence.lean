import PlanGraph.Proofs.Patch.LastWriter
import PlanGraph.Proofs.Plan.RoundTrip

/-!
# Plans that persist

Whether a patched plan can be written out and read back (`applyPatch_persists_iff`).

* Of a sound plan, everything but the title is read back as it was written, so that reading it back
  comes down to reading its title (`Plan.ofJson_dump`).
* Patches keep a plan sound. They do not keep its title a text: an operation that sets the title
  does not look at what it is set to. A patched plan persists exactly when the last title that was
  set is a text, or none was set.
* A plan that persists can be patched again, and it makes no difference whether it was written out
  and read back before.
-/

namespace PlanGraph

/-! ## Reading back -/

namespace Plan

variable {plan : Plan}

/-- A written plan is checked by checking its title. -/
theorem check_dump (typed : ∀ input ∈ plan.inputs, input.wellTyped = true) :
    check plan.dump = (fun text => { plan with title := .str text }) <$>
      (Task.checkBlankable plan.title.finiteOnly).under (.member "title") := by
  -- a plan respells itself, so its tasks and variables are read back whatever the title is
  have same : Respells plan.dump plan.dump := plan.respells_dump
  have tasks : Key.optional (.word "tasks") [] (Json.checkItems Task.check) _ =
      .passed plan.tasks :=
    same.tasks.optional rfl fun _ told => told.checkItems fun _ _ _ => Task.check_of_respells
  have inputs : Key.optional (.word "variables") [] (Json.checkItems Variable.check) _ =
      .passed plan.inputs :=
    same.inputs.optional rfl fun _ told => told.checkItems fun input listed _ =>
      Variable.check_of_respells (typed input listed)
  change Plan.mk
      <$> (Json.str <$> (Task.checkBlankable plan.title.finiteOnly).under (.member "title"))
      <*> Key.optional (.word "tasks") [] (Json.checkItems Task.check) _
      <*> Key.optional (.word "variables") [] (Json.checkItems Variable.check) _ = _
  rw [tasks, inputs]
  rcases (Task.checkBlankable plan.title.finiteOnly).under (.member "title")
    with text | ⟨first, more⟩
  · rfl
  · simp [Functor.map, Seq.seq, Checked.ap, Checked.issues]

/-- A written plan that is sound is read back by reading its title. -/
theorem ofJson_dump (sound : plan.Sound) :
    ofJson plan.dump = ((fun text => { plan with title := .str text }) <$>
      (Task.checkBlankable plan.title.finiteOnly).under (.member "title")).orFail label := by
  rw [ofJson, check_dump sound.wellTyped]
  rcases (Task.checkBlankable plan.title.finiteOnly).under (.member "title")
    with text | ⟨first, more⟩
  · have ids : Distinct { plan with title := .str text } :=
      ⟨sound.toDistinct.tasks, sound.toDistinct.inputs⟩
    exact distinct_eq_ok_iff.mpr ⟨rfl, ids⟩
  · rfl

/-- A sound plan is read back as it was when its title is a text. -/
theorem ofJson_dump_eq_self_iff (sound : plan.Sound) :
    ofJson plan.dump = .ok plan ↔ ∃ text, plan.title = .str text := by
  constructor
  · exact exists_title_of_ofJson
  · rintro ⟨text, title⟩
    have written : plan.title.finiteOnly = .str text := by
      rw [title]
      rfl
    have whole : { plan with title := .str text } = plan := by
      rw [← title]
    rw [ofJson_dump sound, written]
    exact congrArg Except.ok whole

end Plan

/-! ## The title of a patched plan -/

/-- The title that the operation sets. -/
def Operation.title? : Operation → Option Json
  | updateTitle title => title
  | _ => none

/-- An operation leaves the title that it sets, or else the one that was there. -/
theorem Operation.Performs.title {operation : Operation} {plan next : Plan} {entry : Option String}
    (h : operation.Performs plan next entry) :
    next.title = operation.title?.getD plan.title := by
  cases h with
  | _ => rfl

/-- A run leaves the title that was set last. -/
theorem Plan.Undergoes.title {plan final : Plan} {operations : List Operation} {log : List String}
    (h : plan.Undergoes operations final log) :
    ∃ since, LastGiven Operation.title? plan.title operations final.title since := by
  have replaced : final.title =
      operations.foldl (fun title operation => operation.title?.getD title) plan.title := by
    induction h with
    | nil => rfl
    | cons first later ih => rw [ih, first.title, List.foldl_cons]
  rw [replaced]
  exact LastGiven.foldl Operation.title? plan.title operations

/-! ## Patches -/

/-- **Patched plans persist where their title is a text.** When a patch of a plan that was read is
applied, its values are operations, and the title of the patched plan is the one that they set last.
The patched plan is read back from what it is written as by reading its title, and so it is read
back as it is exactly when that is a text. It can then be patched again with the same results. -/
theorem applyPatch_persists_iff {value : Json} {input : PlanInput} {base final : Plan}
    {values : List Json} {log : List String} (accepted : Plan.ofJson value = .ok base)
    (loads : input.load = .ok base)
    (applied : applyPatch input (values.map .raw) = .ok (.applied final log)) :
    ∃ operations, List.Forall₂ (fun value operation => Operation.ofJson value = .ok operation)
        values operations ∧
      (∃ since, LastGiven Operation.title? base.title operations final.title since) ∧
      Plan.ofJson final.dump = ((fun text => { final with title := .str text }) <$>
        (Task.checkBlankable final.title.finiteOnly).under (.member "title")).orFail Plan.label ∧
      (Plan.ofJson final.dump = .ok final ↔ ∃ text, final.title = .str text) ∧
      ((∃ text, final.title = .str text) → ∀ steps,
        applyPatch (.raw final.dump) steps = applyPatch (.parsed final) steps) := by
  obtain ⟨found, operations, load, reads, effects⟩ := applyPatch_raw_eq_applied_iff.mp applied
  obtain rfl : base = found := Except.ok.inj (loads.symm.trans load)
  have sound : final.Sound := by
    obtain ⟨other, load, run⟩ := applyPatch_eq_applied_iff.mp applied
    obtain rfl : base = other := Except.ok.inj (loads.symm.trans load)
    exact (Plan.sound_of_ofJson accepted).runSteps run
  refine ⟨operations, reads, effects.title, Plan.ofJson_dump sound,
    Plan.ofJson_dump_eq_self_iff sound, ?_⟩
  intro text steps
  have readBack : (PlanInput.raw final.dump).load = .ok final :=
    (Plan.ofJson_dump_eq_self_iff sound).mpr text
  rw [applyPatch_of_load readBack, applyPatch_of_load (PlanInput.load_parsed sound.toDistinct)]

/-- A number is set as the title and a text after it, and a task is added in between. -/
theorem applyPatch_persists_iff_of_text :
    let values : List Json := [.obj [("op", .str "updateTitle"), ("title", .int 5)],
      .obj [("op", .str "createTask"), ("task", .obj [("id", .str "a")])],
      .obj [("op", .str "updateTitle"), ("title", .str "t")]]
    let final : Plan := ⟨.str "t", [⟨"a", "", "", none, []⟩], []⟩
    ∃ log, applyPatch (.raw (.obj [])) (values.map .raw) = .ok (.applied final log) ∧
      Plan.ofJson final.dump = .ok final := by
  intro values final
  obtain ⟨log, applied⟩ : ∃ log, applyPatch (.raw (.obj [])) (values.map .raw) =
      .ok (.applied final log) := ⟨_, rfl⟩
  have accepted : Plan.ofJson (.obj []) = .ok ⟨.str "", [], []⟩ := rfl
  have loads : (PlanInput.raw (.obj [])).load = .ok ⟨.str "", [], []⟩ := rfl
  obtain ⟨-, -, -, -, persists, -⟩ := applyPatch_persists_iff accepted loads applied
  exact ⟨log, applied, persists.mpr ⟨"t", rfl⟩⟩

/-- A number that is set as the title stays the title, and the patched plan is not read back. -/
theorem applied_not_read_back :
    let final : Plan := ⟨.int 5, [], []⟩
    applyPatch (.raw (.obj [])) [.raw (.obj [("op", .str "updateTitle"), ("title", .int 5)])] =
        .ok (.applied final ["TITLE UPDATED: \"5\""]) ∧
      Plan.ofJson final.dump =
        .error ⟨.invalid "Workflow plan" [⟨[.member "title"], .notText⟩], none, .null, none⟩ := by
  intro final
  exact ⟨rfl, rfl⟩

end PlanGraph
