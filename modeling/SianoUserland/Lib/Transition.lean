/-! Partial transition functions and their runs. An action that is not enabled
has no successor, so a run exists exactly when every action of it was enabled
where it was taken. -/
namespace SianoUserland.Transition

/-- The state after taking `actions` in order, when all of them are enabled. -/
def run (next : σ → α → Option σ) : σ → List α → Option σ
  | state, [] => some state
  | state, action :: rest => (next state action).bind fun after => run next after rest

variable {next : σ → α → Option σ} {state middle after : σ}

@[simp] theorem run_nil : run next state [] = some state := rfl

theorem run_cons_eq_some :
    run next state (action :: rest) = some after ↔
      ∃ middle, next state action = some middle ∧ run next middle rest = some after := by
  simp [run, Option.bind_eq_some_iff]

/-- A property that every enabled action keeps is kept by every run. -/
theorem run_keeps (Inv : σ → Prop)
    (keeps : ∀ state action after, Inv state → next state action = some after → Inv after)
    (start : Inv state) (ran : run next state actions = some after) : Inv after := by
  induction actions generalizing state with
  | nil =>
    cases ran
    exact start
  | cons action rest ih =>
    obtain ⟨middle, taken, ran⟩ := run_cons_eq_some.mp ran
    exact ih (keeps state action middle start taken) ran

/-- Every action of the run is allowed in the state it is taken from. -/
def along (allowed : σ → α → Bool) (next : σ → α → Option σ) : σ → List α → Bool
  | _, [] => true
  | state, action :: rest =>
    allowed state action && (next state action).all fun after => along allowed next after rest

/-- A property that every allowed action keeps is kept by every run of such actions. -/
theorem run_keeps_along {allowed : σ → α → Bool} (Inv : σ → Prop)
    (keeps : ∀ state action after, Inv state → allowed state action = true →
      next state action = some after → Inv after)
    (start : Inv state) (ran : run next state actions = some after)
    (all : along allowed next state actions = true) : Inv after := by
  induction actions generalizing state with
  | nil =>
    cases ran
    exact start
  | cons action rest ih =>
    obtain ⟨middle, taken, ran⟩ := run_cons_eq_some.mp ran
    simp only [along, taken, Option.all_some, Bool.and_eq_true] at all
    exact ih (keeps state action middle start all.1 taken) ran all.2

/-- When every step spoils a property exactly by not being allowed, the property
holds at the end of a run exactly when all its steps were allowed. -/
theorem run_iff_along {allowed : σ → α → Bool} (Inv Good : σ → Prop)
    (steps : ∀ state action after, Inv state → next state action = some after →
      Inv after ∧ (Good after ↔ Good state ∧ allowed state action = true))
    (start : Inv state) (ran : run next state actions = some after) :
    Good after ↔ Good state ∧ along allowed next state actions = true := by
  induction actions generalizing state with
  | nil =>
    cases ran
    simp [along]
  | cons action rest ih =>
    obtain ⟨middle, taken, ran⟩ := run_cons_eq_some.mp ran
    obtain ⟨kept, spoiled⟩ := steps state action middle start taken
    rw [ih kept ran, spoiled]
    simp [along, taken, and_assoc]

end SianoUserland.Transition
