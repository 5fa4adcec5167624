/-! Runs of a system that moves from state to state by actions. -/

namespace Viewpoint

variable {σ ι : Type}

/-- The states that are reached from a starting state by actions that are admitted. -/
inductive Run (starts : σ → Prop) (step : σ → ι → σ) (admits : σ → ι → Prop) : σ → Prop where
  | start {state : σ} : starts state → Run starts step admits state
  | step {state : σ} {action : ι} :
      Run starts step admits state → admits state action →
        Run starts step admits (step state action)

/-- The states that one state leads to by actions that are admitted. -/
abbrev Leads (step : σ → ι → σ) (admits : σ → ι → Prop) (origin : σ) : σ → Prop :=
  Run (· = origin) step admits

/-- Every action of a list is admitted in the state that those before it lead to. -/
def AllAdmitted (step : σ → ι → σ) (admits : σ → ι → Prop) (state : σ) : List ι → Prop
  | [] => True
  | action :: actions =>
    admits state action ∧ AllAdmitted step admits (step state action) actions

instance AllAdmitted.decidable (step : σ → ι → σ) (admits : σ → ι → Prop)
    [∀ state action, Decidable (admits state action)] :
    ∀ state actions, Decidable (AllAdmitted step admits state actions)
  | _, [] => isTrue trivial
  | state, action :: actions =>
    have := AllAdmitted.decidable step admits (step state action) actions
    inferInstanceAs (Decidable (_ ∧ _))

namespace Run

variable {starts : σ → Prop} {step : σ → ι → σ} {admits : σ → ι → Prop} {state : σ}

/-- A run goes on by a list of actions that are admitted one after the other. -/
theorem steps (run : Run starts step admits state) {actions : List ι}
    (admitted : AllAdmitted step admits state actions) :
    Run starts step admits (actions.foldl step state) := by
  -- The induction is on the actions, for any state that was reached before them.
  induction actions generalizing state with
  | nil => exact run
  | cons action actions ih => exact ih (run.step admitted.1) admitted.2

end Run

/-- Every state leads to itself, by no action at all. -/
theorem Leads.refl {step : σ → ι → σ} {admits : σ → ι → Prop} (origin : σ) :
    Leads step admits origin origin :=
  -- A run starts where it leads from.
  .start rfl

end Viewpoint
