import Mathlib.Data.List.Basic
import Mathlib.Data.List.Induction

/-!
# Justified traces

A trace is justified when each of its events is allowed by the events before
it.  `Follows` says this of the events appended to an earlier trace, so that a
step of a system only has to justify the events it adds.
-/

namespace Trace

universe u

variable {Event : Type u} (Justified : List Event → Event → Prop)

/-- Every event of the list is justified by the trace before it. -/
def Follows : List Event → List Event → Prop
  | _, [] => True
  | earlier, event :: later =>
      Justified earlier event ∧ Follows (earlier ++ [event]) later

/-- Every event of the trace is justified. -/
def Every (trace : List Event) : Prop :=
  Follows Justified [] trace

variable {Justified}

@[simp]
theorem follows_nil (earlier : List Event) :
    Follows Justified earlier [] :=
  trivial

@[simp]
theorem follows_cons (earlier later : List Event) (event : Event) :
    Follows Justified earlier (event :: later) ↔
      Justified earlier event ∧
        Follows Justified (earlier ++ [event]) later :=
  Iff.rfl

theorem follows_append (earlier first second : List Event) :
    Follows Justified earlier (first ++ second) ↔
      Follows Justified earlier first ∧
        Follows Justified (earlier ++ first) second := by
  induction first generalizing earlier with
  | nil =>
      simp
  | cons event rest inductionHypothesis =>
      rw [List.cons_append, follows_cons, follows_cons,
        inductionHypothesis, List.append_assoc, List.singleton_append,
        and_assoc]

theorem every_nil : Every Justified ([] : List Event) :=
  trivial

theorem Every.append {trace added : List Event}
    (every : Every Justified trace)
    (follows : Follows Justified trace added) :
    Every Justified (trace ++ added) := by
  rw [Every, follows_append, List.nil_append]
  exact ⟨every, follows⟩

/-- An event of a justified trace is justified where it stands. -/
theorem Every.justified {earlier later : List Event} {event : Event}
    (every : Every Justified (earlier ++ event :: later)) :
    Justified earlier event := by
  rw [Every, follows_append, List.nil_append] at every
  exact every.2.1

/-- Some earlier part of the trace justifies a given event. -/
theorem Every.of_mem {trace : List Event} {event : Event}
    (every : Every Justified trace) (member : event ∈ trace) :
    ∃ earlier later, trace = earlier ++ event :: later ∧
      Justified earlier event := by
  obtain ⟨earlier, later, rfl⟩ := List.append_of_mem member
  exact ⟨earlier, later, rfl, every.justified⟩

/-- A beginning of a justified trace is justified. -/
theorem Every.of_append {earlier later : List Event}
    (every : Every Justified (earlier ++ later)) :
    Every Justified earlier := by
  rw [Every, follows_append] at every
  exact every.1

/-- Where an event of some kind is only justified as the first of its kind,
there is at most one. -/
theorem Every.countP_le_one {kind : Event → Bool} {trace : List Event}
    (every : Every Justified trace)
    (first : ∀ earlier event, Justified earlier event →
      kind event = true → earlier.countP kind = 0) :
    trace.countP kind ≤ 1 := by
  induction trace using List.reverseRecOn with
  | nil =>
      simp
  | append_singleton earlier event inductionHypothesis =>
      rw [List.countP_append, List.countP_singleton]
      by_cases counted : kind event = true
      · have none := first earlier event every.justified counted
        rw [if_pos counted]
        omega
      · rw [if_neg counted]
        exact inductionHypothesis every.of_append

end Trace
