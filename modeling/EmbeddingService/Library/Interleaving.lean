import Mathlib.Algebra.BigOperators.Group.List.Basic
import Mathlib.Algebra.Ring.Nat
import EmbeddingService.Library.LabelledRuns
import EmbeddingService.Library.ListUpdate

/-!
# Threads that share a state

Any number of threads take atomic steps on a shared state, in any order, and
new ones may start at any time.  An outline annotates the shared state, every
thread, and every pair of threads; it is kept when a thread's own steps keep it
and do not interfere with what is said of the others.
-/

namespace Interleaving

open LabelledRuns

universe u v w

variable {Shared : Type u} {Local : Type v} {Label : Type w}

structure Threads (Shared : Type u) (Local : Type v) where
  shared : Shared
  threads : List Local := []

inductive Action (Local : Type v) (Label : Type w) where
  | start (thread : Local)
  | move (number : Nat) (label : Label)

/-- A thread starts, or one of the threads moves. -/
inductive Step (Starts : Local → Prop)
    (Moves : Shared → Local → Label → Shared → Local → Prop) :
    Threads Shared Local → Action Local Label → Threads Shared Local → Prop
  | start {system : Threads Shared Local} {thread : Local}
      (starts : Starts thread) :
      Step Starts Moves system (.start thread)
        { system with threads := system.threads ++ [thread] }
  | move {system : Threads Shared Local} {number : Nat} {thread next : Local}
      {label : Label} {after : Shared}
      (found : system.threads[number]? = some thread)
      (moves : Moves system.shared thread label after next) :
      Step Starts Moves system (.move number label)
        { shared := after, threads := system.threads.set number next }

section Going

variable {Starts : Local → Prop}
  {Moves : Shared → Local → Label → Shared → Local → Prop}
  {source system : Threads Shared Local}

/-- The thread of a number moves. -/
theorem reachable_move
    (reached : Reachable (Step Starts Moves) source system) (number : Nat)
    {thread next : Local} {label : Label} {after : Shared}
    (found : system.threads[number]? = some thread)
    (moves : Moves system.shared thread label after next) :
    Reachable (Step Starts Moves) source
      { shared := after, threads := system.threads.set number next } :=
  reached.tail (.move found moves)

end Going

/-! ## Outlines -/

section Outlines

variable (Holds : Shared → Prop) (About : Shared → Local → Prop)
  (Apart : Local → Local → Prop)

/-- The annotations hold of a state. -/
structure Annotated (system : Threads Shared Local) : Prop where
  shared : Holds system.shared
  about : ∀ (number : Nat) (thread : Local),
    system.threads[number]? = some thread → About system.shared thread
  apart : ∀ (first second : Nat) (thread other : Local),
    system.threads[first]? = some thread →
    system.threads[second]? = some other → first ≠ second →
      Apart thread other

/-- The annotations are kept: by a thread that starts, by a thread's own
moves, and by its moves as seen from any other thread. -/
structure Outline (Starts : Local → Prop)
    (Moves : Shared → Local → Label → Shared → Local → Prop) : Prop where
  symmetric : ∀ thread other, Apart thread other → Apart other thread
  starts : ∀ shared thread, Holds shared → Starts thread →
    About shared thread
  startsApart : ∀ shared thread other, Starts thread →
    About shared other → Apart thread other
  own : ∀ shared thread label after next, Holds shared →
    About shared thread → Moves shared thread label after next →
      Holds after ∧ About after next
  others : ∀ shared thread label after next other,
    About shared thread → About shared other → Apart thread other →
      Moves shared thread label after next →
        About after other ∧ Apart next other

variable {Holds} {About} {Apart} {Starts : Local → Prop}
  {Moves : Shared → Local → Label → Shared → Local → Prop}

theorem Outline.start
    (outline : Outline Holds About Apart Starts Moves)
    {system : Threads Shared Local} {thread : Local}
    (annotated : Annotated Holds About Apart system)
    (starts : Starts thread) :
    Annotated Holds About Apart
      { system with threads := system.threads ++ [thread] } where
  shared := annotated.shared
  about := by
    intro number other found
    rcases ListUpdate.found_concat found with before | ⟨_, same⟩
    · exact annotated.about number other before
    · rw [same]
      exact outline.starts _ _ annotated.shared starts
  apart := by
    intro first second one other firstFound secondFound different
    rcases ListUpdate.found_concat firstFound with
      firstBefore | ⟨firstLast, firstSame⟩
    · rcases ListUpdate.found_concat secondFound with
        secondBefore | ⟨_, secondSame⟩
      · exact annotated.apart first second one other firstBefore
          secondBefore different
      · rw [secondSame]
        exact outline.symmetric _ _ (outline.startsApart _ _ _ starts
          (annotated.about first one firstBefore))
    · rcases ListUpdate.found_concat secondFound with
        secondBefore | ⟨secondLast, _⟩
      · rw [firstSame]
        exact outline.startsApart _ _ _ starts
          (annotated.about second other secondBefore)
      · exact False.elim (different (firstLast.trans secondLast.symm))

theorem Outline.move
    (outline : Outline Holds About Apart Starts Moves)
    {system : Threads Shared Local} {number : Nat} {thread next : Local}
    {label : Label} {after : Shared}
    (annotated : Annotated Holds About Apart system)
    (found : system.threads[number]? = some thread)
    (moves : Moves system.shared thread label after next) :
    Annotated Holds About Apart
      { shared := after, threads := system.threads.set number next } := by
  have threadAbout := annotated.about number thread found
  have own := outline.own _ _ _ _ _ annotated.shared threadAbout moves
  have others : ∀ (position : Nat) (other : Local),
      system.threads[position]? = some other → position ≠ number →
        About after other ∧ Apart next other := by
    intro position other otherFound different
    exact outline.others _ _ _ _ _ other threadAbout
      (annotated.about position other otherFound)
      (annotated.apart number position thread other found otherFound
        (Ne.symm different)) moves
  refine ⟨own.1, ?_, ?_⟩
  · intro position other otherFound
    rcases ListUpdate.found_set otherFound with ⟨_, same⟩ | ⟨different, before⟩
    · rw [same]
      exact own.2
    · exact (others position other before different).1
  · intro first second one other firstFound secondFound different
    rcases ListUpdate.found_set firstFound with
      ⟨firstIs, firstSame⟩ | ⟨firstNot, firstBefore⟩
    · rcases ListUpdate.found_set secondFound with
        ⟨secondIs, _⟩ | ⟨secondNot, secondBefore⟩
      · exact False.elim (different (firstIs.trans secondIs.symm))
      · rw [firstSame]
        exact (others second other secondBefore secondNot).2
    · rcases ListUpdate.found_set secondFound with
        ⟨_, secondSame⟩ | ⟨_, secondBefore⟩
      · rw [secondSame]
        exact outline.symmetric _ _
          (others first one firstBefore firstNot).2
      · exact annotated.apart first second one other firstBefore
          secondBefore different

theorem Outline.step
    (outline : Outline Holds About Apart Starts Moves)
    {before after : Threads Shared Local} {action : Action Local Label}
    (annotated : Annotated Holds About Apart before)
    (taken : Step Starts Moves before action after) :
    Annotated Holds About Apart after := by
  cases taken with
  | start starts =>
      exact outline.start annotated starts
  | move found moves =>
      exact outline.move annotated found moves

/-- The outline rule: where no thread has started, only the shared state has
to be in order. -/
theorem Outline.reachable
    (outline : Outline Holds About Apart Starts Moves)
    {shared : Shared} (initially : Holds shared)
    {system : Threads Shared Local}
    (reached : Reachable (Step Starts Moves) { shared := shared } system) :
    Annotated Holds About Apart system :=
  reached.invariant
    { shared := initially
      about := by
        intro number thread found
        simp at found
      apart := by
        intro first second thread other found
        simp at found }
    (fun _ _ _ annotated taken => outline.step annotated taken)

end Outlines

/-! ## Counting -/

section Counting

variable {Starts : Local → Prop}
  {Moves : Shared → Local → Label → Shared → Local → Prop}

/-- What the threads weigh together. -/
def weight (weigh : Local → Nat) (system : Threads Shared Local) : Nat :=
  (system.threads.map weigh).sum

theorem weight_start (weigh : Local → Nat) (system : Threads Shared Local)
    (thread : Local) :
    weight weigh { system with threads := system.threads ++ [thread] } =
      weight weigh system + weigh thread := by
  simp [weight]

theorem weight_move (weigh : Local → Nat) {system : Threads Shared Local}
    {number : Nat} {thread : Local}
    (found : system.threads[number]? = some thread) (after : Shared)
    (next : Local) :
    weight weigh
        { shared := after, threads := system.threads.set number next } +
          weigh thread =
      weight weigh system + weigh next := by
  obtain ⟨rest, whole, changed⟩ := ListUpdate.exists_sum_set weigh found
  simp only [weight]
  rw [whole, changed]
  omega

/-- The counting rule: what the threads weigh together stays what the shared
state says, if the moves change both alike. -/
theorem weight_step (weigh : Local → Nat) (measure : Shared → Nat)
    (starts : ∀ thread, Starts thread → weigh thread = 0)
    {before after : Threads Shared Local} {action : Action Local Label}
    (moves : ∀ thread label shared next, thread ∈ before.threads →
      Moves before.shared thread label shared next →
        measure shared + weigh thread =
          measure before.shared + weigh next)
    (balanced : weight weigh before = measure before.shared)
    (taken : Step Starts Moves before action after) :
    weight weigh after = measure after.shared := by
  cases taken with
  | start started =>
      rw [weight_start, starts _ started]
      exact balanced
  | @move number thread next label shared found moved =>
      have changed :=
        moves _ _ _ _ (List.mem_of_getElem? found) moved
      have moving := weight_move weigh found shared next
      simp only
      omega

/-- A move that makes its thread lighter makes all of them lighter. -/
theorem weight_move_lt {weigh : Local → Nat}
    {system : Threads Shared Local} {number : Nat} {thread next : Local}
    (found : system.threads[number]? = some thread) (after : Shared)
    (lighter : weigh next < weigh thread) :
    weight weigh
        { shared := after, threads := system.threads.set number next } <
      weight weigh system := by
  have moving := weight_move weigh found after next
  omega

theorem weight_pos {weigh : Local → Nat} {system : Threads Shared Local}
    {thread : Local} (member : thread ∈ system.threads)
    (heavy : 0 < weigh thread) : 0 < weight weigh system :=
  List.sum_pos_iff_exists_pos_nat.mpr
    ⟨weigh thread, List.mem_map_of_mem member, heavy⟩

theorem exists_of_weight_pos {weigh : Local → Nat}
    {system : Threads Shared Local} (heavy : 0 < weight weigh system) :
    ∃ thread ∈ system.threads, 0 < weigh thread := by
  obtain ⟨part, member, positive⟩ :=
    List.sum_pos_iff_exists_pos_nat.mp heavy
  obtain ⟨thread, inside, same⟩ := List.mem_map.mp member
  exact ⟨thread, inside, same ▸ positive⟩

end Counting

end Interleaving
