import PlanGraph.Canvas.Placement

/-!
# Outcomes of steps

Computations of this library may end early: with a failure or a fault (`Except`), and some of them
draw ids on the way (`Making`). The lemmas here take such a computation apart.

* A sequence of two steps gives a value exactly when both steps do (`bind_eq_ok_iff`,
  `Making.returns_bind_iff`).
* What is done to failures alone changes no value (`mapError_eq_ok_iff`).
-/

namespace PlanGraph

/-! ## Steps that may fail -/

section steps

variable {ε ε' α β : Type}

/-- Two steps succeed when the first does and the second does on its value. -/
theorem bind_eq_ok_iff {x : Except ε α} {f : α → Except ε β} {b : β} :
    x >>= f = .ok b ↔ ∃ a, x = .ok a ∧ f a = .ok b := by
  rcases x with e | a
  · simp [bind, Except.bind]
  · simp [bind, Except.bind]

/-- Two steps fail when the first does, or the second does on its value. -/
theorem bind_eq_error_iff {x : Except ε α} {f : α → Except ε β} {e : ε} :
    x >>= f = .error e ↔ x = .error e ∨ ∃ a, x = .ok a ∧ f a = .error e := by
  rcases x with e | a
  · simp [bind, Except.bind]
  · simp [bind, Except.bind]

/-- A function of the value succeeds when the step does. -/
theorem map_eq_ok_iff {f : α → β} {x : Except ε α} {b : β} :
    f <$> x = .ok b ↔ ∃ a, x = .ok a ∧ f a = b := by
  rcases x with e | a
  · simp [Functor.map, Except.map]
  · simp [Functor.map, Except.map]

/-- After a step that succeeded, the next one goes on with its value. -/
theorem ok_bind (a : α) (f : α → Except ε β) : (Except.ok a >>= f) = f a := rfl

@[simp]
theorem mapError_ok (f : ε → ε') (a : α) :
    (Except.ok a : Except ε α).mapError f = .ok a := rfl

@[simp]
theorem mapError_error (f : ε → ε') (e : ε) :
    (Except.error e : Except ε α).mapError f = .error (f e) := rfl

/-- Changing failures keeps every value. -/
theorem mapError_eq_ok_iff {f : ε → ε'} {x : Except ε α} {a : α} :
    x.mapError f = .ok a ↔ x = .ok a := by
  rcases x with e | a
  · simp
  · simp

/-- A changed failure comes from a failure. -/
theorem mapError_eq_error_iff {f : ε → ε'} {x : Except ε α} {e' : ε'} :
    x.mapError f = .error e' ↔ ∃ e, x = .error e ∧ f e = e' := by
  rcases x with e | a
  · simp
  · simp

end steps

/-! ## Steps that draw ids -/

namespace Making

variable {α β : Type}

/-- What a computation comes to, with the state that it leaves the supply in. -/
def outcome (x : Making α) (supply : Supply) : Except Fault α × Supply :=
  x.run supply

/-- A computation gives a value and leaves the supply in a state. -/
def Returns (x : Making α) (supply : Supply) (value : α) (rest : Supply) : Prop :=
  x.outcome supply = (.ok value, rest)

theorem outcome_bind (x : Making α) (f : α → Making β) (supply : Supply) :
    outcome (x >>= f) supply =
      match x.outcome supply with
      | (.ok a, between) => (f a).outcome between
      | (.error fault, between) => (.error fault, between) := by
  unfold outcome
  rw [ExceptT.run_bind]
  simp only [bind, StateT.bind]
  rcases x.run supply with ⟨e | a, between⟩
  · rfl
  · rfl

theorem outcome_map (f : α → β) (x : Making α) (supply : Supply) :
    outcome (f <$> x) supply = ((x.outcome supply).1.map f, (x.outcome supply).2) := by
  rw [← bind_pure_comp, outcome_bind]
  rcases x.outcome supply with ⟨e | a, between⟩
  · rfl
  · rfl

/-- Two computations whose values look alike go on alike. -/
theorem bind_eq_bind {γ δ : Type} {x : Making α} {y : Making β} {f : α → γ} {g : β → γ}
    {next : α → Making δ} {next' : β → Making δ} (same : f <$> x = g <$> y)
    (later : ∀ a b, f a = g b → next a = next' b) : x >>= next = y >>= next' := by
  refine funext fun supply => ?_
  change outcome (x >>= next) supply = outcome (y >>= next') supply
  have alike := congrArg (outcome · supply) same
  simp only [outcome_map] at alike
  rw [outcome_bind, outcome_bind]
  revert alike
  rcases x.outcome supply with ⟨e | a, between⟩
  · rcases y.outcome supply with ⟨e' | b, between'⟩
    · rintro ⟨⟩
      rfl
    · rintro ⟨⟩
  · rcases y.outcome supply with ⟨e' | b, between'⟩
    · rintro ⟨⟩
    · intro alike
      obtain ⟨value, rfl⟩ := Prod.mk.inj alike
      exact congrArg (outcome · between) (later a b (Except.ok.inj value))

/-- Of two computations whose values look alike, the second returns where the first does. -/
theorem exists_returns_of_map_eq {γ : Type} {x : Making α} {y : Making β} {f : α → γ} {g : β → γ}
    (same : f <$> x = g <$> y) {supply rest : Supply} {a : α} (returned : x.Returns supply a rest) :
    ∃ b, y.Returns supply b rest ∧ f a = g b := by
  have alike := congrArg (outcome · supply) same
  simp only [outcome_map] at alike
  rw [returned] at alike
  obtain ⟨value, left⟩ := Prod.mk.inj alike
  rcases came : y.outcome supply with ⟨e | b, between⟩
  · rw [came] at value
    cases value
  · rw [came] at value left
    subst left
    exact ⟨b, came, Except.ok.inj value⟩

/-- Two steps return when the first does and the second does on its value. -/
theorem returns_bind_iff {x : Making α} {f : α → Making β} {supply rest : Supply} {b : β} :
    Returns (x >>= f) supply b rest ↔
      ∃ a between, Returns x supply a between ∧ Returns (f a) between b rest := by
  unfold Returns
  rw [outcome_bind]
  rcases x.outcome supply with ⟨e | a, between⟩
  · simp
  · constructor
    · intro run
      exact ⟨a, between, rfl, run⟩
    · rintro ⟨_, _, same, run⟩
      cases same
      exact run

/-- A computation returns where part of its value is known. -/
theorem exists_returns_of_part (x : Making α) (supply : Supply) (part : α → β) {b : β}
    (known : (x.outcome supply).1.toOption.map part = some b) :
    ∃ a rest, x.Returns supply a rest ∧ part a = b := by
  rcases h : x.outcome supply with ⟨fault | a, rest⟩
  · rw [h] at known
    cases known
  · rw [h] at known
    exact ⟨a, rest, h, Option.some.inj known⟩

/-- A value that is there already is returned with no id drawn. -/
@[simp]
theorem returns_pure_iff {value a : α} {supply rest : Supply} :
    Returns (pure value) supply a rest ↔ value = a ∧ supply = rest := by
  change ((.ok value, supply) : Except Fault α × Supply) = (.ok a, rest) ↔ _
  simp

/-- A drawing of ids always returns. -/
@[simp]
theorem returns_lift_iff {x : Minting α} {supply rest : Supply} {a : α} :
    Returns (liftM x) supply a rest ↔ (x supply).1 = a ∧ (x supply).2 = rest := by
  change ((.ok (x supply).1, (x supply).2) : Except Fault α × Supply) = (.ok a, rest) ↔ _
  simp

/-- A result that needs no ids is returned when it is there. -/
@[simp]
theorem returns_ofExcept_iff {x : Except Fault α} {supply rest : Supply} {a : α} :
    Returns (ofExcept x) supply a rest ↔ x = .ok a ∧ supply = rest := by
  rcases x with e | value
  · change ((.error e, supply) : Except Fault α × Supply) = (.ok a, rest) ↔ _
    simp
  · simp [ofExcept]

end Making

end PlanGraph
