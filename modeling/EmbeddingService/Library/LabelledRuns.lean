import Mathlib.Logic.Relation
import Mathlib.Data.List.Basic

/-!
# Finite runs of a labelled step relation

A run is a list of labels together with the states it leads through.  Labels
carry the conditions under which a result is claimed: a condition on a run is
a predicate that every label of the run satisfies.
-/

namespace LabelledRuns

universe u v

variable {State : Type u} {Label : Type v}

/-- `Run step source labels target`: the labels, taken in order, lead from
`source` to `target`. -/
inductive Run (step : State → Label → State → Prop) :
    State → List Label → State → Prop
  | nil (source : State) : Run step source [] source
  | snoc {source middle target : State} {labels : List Label} {label : Label} :
      Run step source labels middle →
      step middle label target →
      Run step source (labels ++ [label]) target

/-- Some run leads from `source` to `target`. -/
def Reachable (step : State → Label → State → Prop)
    (source target : State) : Prop :=
  ∃ labels, Run step source labels target

variable {step : State → Label → State → Prop}

theorem Run.single {source target : State} {label : Label}
    (taken : step source label target) :
    Run step source [label] target :=
  Run.snoc (Run.nil source) taken

theorem Run.append {source middle target : State}
    {first second : List Label}
    (before : Run step source first middle)
    (after : Run step middle second target) :
    Run step source (first ++ second) target := by
  induction after with
  | nil =>
      simpa using before
  | snoc _ taken inductionHypothesis =>
      rw [← List.append_assoc]
      exact Run.snoc inductionHypothesis taken

theorem Run.cons {source middle target : State} {label : Label}
    {labels : List Label}
    (taken : step source label middle)
    (after : Run step middle labels target) :
    Run step source (label :: labels) target :=
  (Run.single taken).append after

theorem Run.eq_of_nil {source target : State}
    (run : Run step source [] target) : source = target := by
  generalize none : ([] : List Label) = labels at run
  cases run with
  | nil =>
      rfl
  | snoc before taken =>
      simp at none

/-- A run of some labels takes a step of the first one first. -/
theorem Run.uncons {source target : State} {label : Label}
    {labels : List Label} (run : Run step source (label :: labels) target) :
    ∃ middle, step source label middle ∧ Run step middle labels target := by
  generalize all : label :: labels = listed at run
  induction run generalizing labels with
  | nil =>
      cases all
  | @snoc last target earlier final before taken inductionHypothesis =>
      cases earlier with
      | nil =>
          cases all
          rw [before.eq_of_nil]
          exact ⟨target, taken, Run.nil target⟩
      | cons first rest =>
          rw [List.cons_append] at all
          injection all with sameFirst sameRest
          obtain ⟨middle, firstTaken, later⟩ :=
            inductionHypothesis (congrArg (· :: rest) sameFirst)
          rw [sameRest]
          exact ⟨middle, firstTaken, later.snoc taken⟩

/-- The invariant rule: what holds at the start and is preserved by every
step whose label satisfies `P` holds after every run of such labels. -/
theorem Run.invariant {P : Label → Prop} {I : State → Prop}
    {source target : State} {labels : List Label}
    (run : Run step source labels target)
    (labelsAllowed : ∀ label ∈ labels, P label)
    (initially : I source)
    (preserved : ∀ before label after,
      I before → P label → step before label after → I after) :
    I target := by
  induction run with
  | nil =>
      exact initially
  | @snoc middle target labels label _ taken inductionHypothesis =>
      have earlierAllowed : ∀ earlier ∈ labels, P earlier := by
        intro earlier member
        exact labelsAllowed earlier (List.mem_append_left _ member)
      have lastAllowed : P label :=
        labelsAllowed label (by simp)
      exact preserved middle label target
        (inductionHypothesis earlierAllowed) lastAllowed taken

/-- The invariant rule with the labels so far. -/
theorem Run.history {I : List Label → State → Prop}
    {source target : State} {labels : List Label}
    (run : Run step source labels target) (initially : I [] source)
    (preserved : ∀ earlier before label after,
      Run step source earlier before → I earlier before →
        step before label after → I (earlier ++ [label]) after) :
    I labels target := by
  induction run with
  | nil =>
      exact initially
  | snoc before taken inductionHypothesis =>
      exact preserved _ _ _ _ before inductionHypothesis taken

/-- The invariant rule for steps of every label. -/
theorem Reachable.invariant {I : State → Prop}
    {source target : State}
    (reachable : Reachable step source target)
    (initially : I source)
    (preserved : ∀ before label after,
      I before → step before label after → I after) :
    I target := by
  obtain ⟨labels, run⟩ := reachable
  exact run.invariant (P := fun _ => True)
    (fun _ _ => trivial) initially
    (fun before label after held _ taken =>
      preserved before label after held taken)

theorem Run.reachable {source target : State} {labels : List Label}
    (run : Run step source labels target) :
    Reachable step source target :=
  ⟨labels, run⟩

theorem Reachable.refl (source : State) : Reachable step source source :=
  ⟨[], Run.nil source⟩

theorem Reachable.tail {source middle target : State} {label : Label}
    (reachable : Reachable step source middle)
    (taken : step middle label target) :
    Reachable step source target := by
  obtain ⟨labels, run⟩ := reachable
  exact ⟨labels ++ [label], run.snoc taken⟩

/-- What is reached by steps of one relation is reached by steps of a wider
one. -/
theorem Reachable.mono {wider : State → Label → State → Prop}
    {source target : State} (reachable : Reachable step source target)
    (isWider : ∀ before label after,
      step before label after → wider before label after) :
    Reachable wider source target :=
  reachable.invariant (Reachable.refl source)
    (fun before label after reached taken =>
      reached.tail (isWider before label after taken))

theorem Reachable.trans {source middle target : State}
    (before : Reachable step source middle)
    (after : Reachable step middle target) :
    Reachable step source target := by
  obtain ⟨first, firstRun⟩ := before
  obtain ⟨second, secondRun⟩ := after
  exact ⟨first ++ second, firstRun.append secondRun⟩

end LabelledRuns
