import Mathlib.Order.WellFounded

/-!
# What every way of going on reaches

A goal is inevitable when there is a way to go on until it is reached, and
every way of going on reaches it.  The rule asks for a measure that every step
decreases and for a step out of each state that has not reached the goal.
-/

namespace Inevitability

universe u v

variable {State : Type u}

/-- Every maximal sequence of steps from the state is finite up to a state of
the goal, and reaches one. -/
inductive Inevitable (step : State → State → Prop)
    (Goal : State → Prop) : State → Prop
  | reached {state : State} (goal : Goal state) : Inevitable step Goal state
  | goesOn {state : State} (enabled : ∃ next, step state next)
      (always : ∀ next, step state next → Inevitable step Goal next) :
      Inevitable step Goal state

variable {step : State → State → Prop} {Goal : State → Prop}

/-- The progress rule: before the goal, steps keep the invariant and decrease
the measure, and no state of the invariant is stuck. -/
theorem inevitable_of_progress {Measure : Type v}
    {less : Measure → Measure → Prop} (wellFounded : WellFounded less)
    (measure : State → Measure) {I : State → Prop}
    (preserved : ∀ state next, I state → ¬ Goal state →
      step state next → I next)
    (decreases : ∀ state next, I state → ¬ Goal state →
      step state next → less (measure next) (measure state))
    (progress : ∀ state, I state → ¬ Goal state →
      ∃ next, step state next)
    {state : State} (initially : I state) :
    Inevitable step Goal state := by
  have inMeasure : ∀ bound state, measure state = bound → I state →
      Inevitable step Goal state := by
    intro bound
    induction bound using wellFounded.induction with
    | _ bound inductionHypothesis =>
        intro state same held
        by_cases goal : Goal state
        · exact Inevitable.reached goal
        · refine Inevitable.goesOn (progress state held goal) ?_
          intro next taken
          have smaller := decreases state next held goal taken
          rw [same] at smaller
          exact inductionHypothesis (measure next) smaller next rfl
            (preserved state next held goal taken)
  exact inMeasure (measure state) state rfl initially

end Inevitability
