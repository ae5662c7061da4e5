import EmbeddingService.Library.LabelledRuns
import EmbeddingService.Batcher.PrioritySlot

/-!
# Runs of the encode slot

Any number of tasks acquire, resume, leave and are cancelled in any order.
The invariant counts a task that was handed the slot and has not resumed yet
as the owner, so that neither a lost nor a double hand-over is possible.
-/

namespace EmbeddingService

open LabelledRuns

universe u

/-- Where a task is with respect to `acquire`.  A `cancelling` task was
cancelled while it awaited its future and has not run since. -/
inductive CallerState where
  | outside
  | queued
  | cancelling
  | inside
  deriving DecidableEq, Repr

structure SlotSystem (Task : Type u) where
  slot : PrioritySlot Task := {}
  callers : Task → CallerState := fun _ => .outside

inductive SlotAction (Task : Type u) where
  | acquire (task : Task) (priority : Int)
  | resume (task : Task)
  | leave (task : Task)
  | cancel (task : Task)
  | handleCancellation (task : Task)

namespace SlotSystem

variable {Task : Type u} [DecidableEq Task]

/-- When an action can happen.  The body is left normally or by an exception,
a cancellation inside the body included. -/
def Enabled (system : SlotSystem Task) : SlotAction Task → Prop
  | .acquire task _ => system.callers task = .outside
  | .resume task =>
      system.callers task = .queued ∧ system.slot.futures task = .resolved
  | .leave task => system.callers task = .inside
  | .cancel task => system.callers task = .queued
  | .handleCancellation task => system.callers task = .cancelling

instance (system : SlotSystem Task) :
    (action : SlotAction Task) → Decidable (system.Enabled action)
  | .acquire task _ =>
      inferInstanceAs (Decidable (system.callers task = .outside))
  | .resume task =>
      inferInstanceAs (Decidable (system.callers task = .queued ∧
        system.slot.futures task = .resolved))
  | .leave task =>
      inferInstanceAs (Decidable (system.callers task = .inside))
  | .cancel task =>
      inferInstanceAs (Decidable (system.callers task = .queued))
  | .handleCancellation task =>
      inferInstanceAs (Decidable (system.callers task = .cancelling))

def setCaller (system : SlotSystem Task) (task : Task)
    (state : CallerState) : SlotSystem Task :=
  { system with callers := Function.update system.callers task state }

def next (system : SlotSystem Task) : SlotAction Task → SlotSystem Task
  | .acquire task priority =>
      let acquired := system.slot.acquire priority task
      { system with slot := acquired.1 }.setCaller task
        (if acquired.2 then .inside else .queued)
  | .resume task =>
      { system with slot := system.slot.setFuture task .absent }.setCaller
        task .inside
  | .leave task =>
      { system with slot := system.slot.release }.setCaller task .outside
  | .cancel task =>
      { system with slot := system.slot.cancelFuture task }.setCaller
        task .cancelling
  | .handleCancellation task =>
      { system with slot := system.slot.handleCancellation task }.setCaller
        task .outside

def Step (system : SlotSystem Task) (action : SlotAction Task)
    (after : SlotSystem Task) : Prop :=
  system.Enabled action ∧ after = system.next action

/-- A task owns the slot inside the body, and from the moment its future is
given a result until it resumes or handles its cancellation. -/
def Owner (system : SlotSystem Task) (task : Task) : Prop :=
  system.callers task = .inside ∨
    ((system.callers task = .queued ∨ system.callers task = .cancelling) ∧
      system.slot.futures task = .resolved)

/-- A task waits in the queue with a future that is not resolved. -/
def Waits (system : SlotSystem Task) (task : Task) : Prop :=
  (system.callers task = .queued ∧ system.slot.futures task = .pending) ∨
    (system.callers task = .cancelling ∧
      system.slot.futures task = .cancelled)

/-- The futures a task can have, by where it is. -/
def FutureAgrees (system : SlotSystem Task) (task : Task) : Prop :=
  ((system.callers task = .outside ∨ system.callers task = .inside) ∧
      system.slot.futures task = .absent) ∨
    Waits system task ∨
    ((system.callers task = .queued ∨ system.callers task = .cancelling) ∧
      system.slot.futures task = .resolved)

structure OneOwner (system : SlotSystem Task) : Prop where
  agrees : ∀ task, FutureAgrees system task
  ownerBusy : ∀ task, Owner system task → system.slot.busy = true
  busyOwner : system.slot.busy = true → ∃ task, Owner system task
  ownerUnique : ∀ task other,
    Owner system task → Owner system other → task = other
  entriesWait : ∀ waiter ∈ system.slot.waiters,
    Waits system waiter.future
  entriesUnique : (system.slot.waiters.map Waiter.future).Nodup
  pendingEntry : ∀ task, system.slot.futures task = .pending →
    task ∈ system.slot.waiters.map Waiter.future
  waitersBusy : system.slot.waiters ≠ [] → system.slot.busy = true

omit [DecidableEq Task] in
theorem oneOwner_start : OneOwner ({} : SlotSystem Task) where
  agrees := fun _ => Or.inl ⟨Or.inl rfl, rfl⟩
  ownerBusy := by simp [Owner]
  busyOwner := by simp
  ownerUnique := by simp [Owner]
  entriesWait := by simp
  entriesUnique := by simp
  pendingEntry := by simp
  waitersBusy := by simp

section Congruence

omit [DecidableEq Task]

variable {system other : SlotSystem Task} {task : Task}
  (sameCaller : other.callers task = system.callers task)
  (sameFuture : other.slot.futures task = system.slot.futures task)

include sameCaller sameFuture

theorem owner_congr : Owner other task ↔ Owner system task := by
  unfold Owner
  rw [sameCaller, sameFuture]

theorem waits_congr : Waits other task ↔ Waits system task := by
  unfold Waits
  rw [sameCaller, sameFuture]

theorem futureAgrees_congr :
    FutureAgrees other task ↔ FutureAgrees system task := by
  unfold FutureAgrees
  rw [sameCaller, sameFuture, waits_congr sameCaller sameFuture]

end Congruence

omit [DecidableEq Task] in
theorem Waits.not_owner {system : SlotSystem Task} {task : Task}
    (waits : Waits system task) : ¬ Owner system task := by
  rintro (inside | ⟨_, resolved⟩)
  · rcases waits with ⟨queued, _⟩ | ⟨cancelling, _⟩
    · rw [queued] at inside
      cases inside
    · rw [cancelling] at inside
      cases inside
  · rcases waits with ⟨_, pending⟩ | ⟨_, cancelled⟩
    · rw [pending] at resolved
      cases resolved
    · rw [cancelled] at resolved
      cases resolved

omit [DecidableEq Task] in
/-- Once the owner is gone, a task that stayed where it was owns nothing. -/
theorem OneOwner.not_owner {system after : SlotSystem Task}
    (oneOwner : OneOwner system) {task other : Task}
    (owner : Owner system task) (different : other ≠ task)
    (sameCaller : after.callers other = system.callers other)
    (sameFuture : after.slot.futures other = system.slot.futures other) :
    ¬ Owner after other := by
  intro otherOwner
  have ownerBefore : Owner system other :=
    (owner_congr sameCaller sameFuture).mp otherOwner
  exact different (oneOwner.ownerUnique other task ownerBefore owner)

omit [DecidableEq Task] in
/-- Every task has one entry, so the one that is taken out has none left. -/
theorem OneOwner.taken_out {system : SlotSystem Task}
    (oneOwner : OneOwner system) {chosen : Waiter Task}
    {dropped kept : List (Waiter Task)}
    (split : system.slot.waiters.Perm (chosen :: (dropped ++ kept))) :
    chosen.future ∉ kept.map Waiter.future ∧
      (kept.map Waiter.future).Nodup := by
  have entriesNodup :=
    (split.map Waiter.future).nodup_iff.mp oneOwner.entriesUnique
  rw [List.map_cons, List.map_append] at entriesNodup
  obtain ⟨chosenOnce, restNodup⟩ := List.nodup_cons.mp entriesNodup
  exact ⟨fun entry => chosenOnce (List.mem_append_right _ entry),
    (List.nodup_append.mp restNodup).2.1⟩

/-- The owner gives the slot up and nobody waits for it. -/
theorem OneOwner.free {system : SlotSystem Task}
    (oneOwner : OneOwner system) {task : Task}
    (owner : Owner system task) {slot : PrioritySlot Task}
    (noneWaiting : ∀ waiter ∈ system.slot.waiters,
      ((system.slot.setFuture task .absent).futures waiter.future).done =
        true)
    (busy : slot.busy = false) (waiters : slot.waiters = [])
    (futures : slot.futures =
      (system.slot.setFuture task .absent).futures) :
    OneOwner ({ system with slot := slot }.setCaller task .outside) := by
  have sameFuture : ∀ other, other ≠ task →
      slot.futures other = system.slot.futures other := by
    intro other different
    simp [futures, different]
  have noOwner : ∀ other,
      ¬ Owner ({ system with slot := slot }.setCaller task .outside)
        other := by
    intro other otherOwner
    by_cases same : other = task
    · subst same
      simp [Owner, setCaller] at otherOwner
    · exact oneOwner.not_owner owner same (by simp [setCaller, same])
        (sameFuture other same) otherOwner
  exact
    { agrees := by
        intro other
        by_cases same : other = task
        · subst same
          exact Or.inl ⟨Or.inl (by simp [setCaller]),
            by simp [setCaller, futures]⟩
        · exact (futureAgrees_congr (by simp [setCaller, same])
            (sameFuture other same)).mpr (oneOwner.agrees other)
      ownerBusy := by
        intro other otherOwner
        exact False.elim (noOwner other otherOwner)
      busyOwner := by
        intro taken
        simp [setCaller, busy] at taken
      ownerUnique := by
        intro other _ otherOwner _
        exact False.elim (noOwner other otherOwner)
      entriesWait := by simp [setCaller, waiters]
      entriesUnique := by simp [setCaller, waiters]
      pendingEntry := by
        intro other pending
        by_cases same : other = task
        · subst same
          simp [setCaller, futures] at pending
        · have pendingBefore : system.slot.futures other = .pending := by
            rw [← sameFuture other same]
            exact pending
          obtain ⟨waiter, member, rfl⟩ :=
            List.mem_map.mp (oneOwner.pendingEntry other pendingBefore)
          have done := noneWaiting waiter member
          simp [same, pendingBefore, FutureState.done] at done
      waitersBusy := by simp [setCaller, waiters] }

/-- The owner gives the slot up and a waiter has it. -/
theorem OneOwner.handOver {system : SlotSystem Task}
    (oneOwner : OneOwner system) {task : Task}
    (owner : Owner system task) {slot : PrioritySlot Task}
    {chosen : Waiter Task} {dropped : List (Waiter Task)}
    (split : system.slot.waiters.Perm (chosen :: (dropped ++ slot.waiters)))
    (droppedDone : ∀ waiter ∈ dropped,
      ((system.slot.setFuture task .absent).futures waiter.future).done =
        true)
    (waiting :
      ((system.slot.setFuture task .absent).futures chosen.future).done =
        false)
    (busy : slot.busy = system.slot.busy)
    (futures : slot.futures =
      Function.update (system.slot.setFuture task .absent).futures
        chosen.future .resolved) :
    OneOwner ({ system with slot := slot }.setCaller task .outside) := by
  have entryNotTask : ∀ waiter ∈ system.slot.waiters,
      waiter.future ≠ task := by
    rintro waiter member rfl
    exact (oneOwner.entriesWait waiter member).not_owner owner
  have chosenMember : chosen ∈ system.slot.waiters :=
    split.mem_iff.mpr List.mem_cons_self
  have chosenNotTask := entryNotTask chosen chosenMember
  obtain ⟨chosenNotLeft, keptNodup⟩ := oneOwner.taken_out split
  have chosenQueued : system.callers chosen.future = .queued := by
    rcases oneOwner.entriesWait chosen chosenMember with
      ⟨queued, _⟩ | ⟨_, cancelled⟩
    · exact queued
    · simp [chosenNotTask, cancelled, FutureState.done] at waiting
  have sameFuture : ∀ other, other ≠ task → other ≠ chosen.future →
      slot.futures other = system.slot.futures other := by
    intro other notTask notChosen
    simp [futures, notTask, notChosen]
  have ownerIsChosen : ∀ other,
      Owner ({ system with slot := slot }.setCaller task .outside) other →
        other = chosen.future := by
    intro other otherOwner
    by_contra notChosen
    by_cases same : other = task
    · subst same
      simp [Owner, setCaller] at otherOwner
    · exact oneOwner.not_owner owner same (by simp [setCaller, same])
        (sameFuture other same notChosen) otherOwner
  have stillBusy : system.slot.busy = true :=
    oneOwner.ownerBusy task owner
  exact
    { agrees := by
        intro other
        by_cases isChosen : other = chosen.future
        · subst isChosen
          exact Or.inr (Or.inr ⟨Or.inl (by
            simp [setCaller, chosenNotTask, chosenQueued]),
            by simp [setCaller, futures]⟩)
        · by_cases same : other = task
          · subst same
            exact Or.inl ⟨Or.inl (by simp [setCaller]),
              by simp [setCaller, futures, isChosen]⟩
          · exact (futureAgrees_congr (by simp [setCaller, same])
              (sameFuture other same isChosen)).mpr
                (oneOwner.agrees other)
      ownerBusy := by
        intro _ _
        simpa [setCaller, busy] using stillBusy
      busyOwner := by
        intro _
        exact ⟨chosen.future, Or.inr ⟨Or.inl (by
          simp [setCaller, chosenNotTask, chosenQueued]),
          by simp [setCaller, futures]⟩⟩
      ownerUnique := by
        intro first second firstOwner secondOwner
        rw [ownerIsChosen first firstOwner,
          ownerIsChosen second secondOwner]
      entriesWait := by
        intro waiter member
        have memberBefore : waiter ∈ system.slot.waiters :=
          split.mem_iff.mpr (List.mem_cons_of_mem _
            (List.mem_append_right _ member))
        have notChosen : waiter.future ≠ chosen.future := by
          intro same
          apply chosenNotLeft
          rw [← same]
          exact List.mem_map_of_mem member
        have notTask := entryNotTask waiter memberBefore
        exact (waits_congr (by simp [setCaller, notTask])
          (sameFuture _ notTask notChosen)).mpr
            (oneOwner.entriesWait waiter memberBefore)
      entriesUnique := keptNodup
      pendingEntry := by
        intro other pending
        have notChosen : other ≠ chosen.future := by
          rintro rfl
          simp [setCaller, futures] at pending
        have notTask : other ≠ task := by
          rintro rfl
          simp [setCaller, futures, notChosen] at pending
        have pendingBefore : system.slot.futures other = .pending := by
          rw [← sameFuture other notTask notChosen]
          exact pending
        obtain ⟨waiter, member, rfl⟩ :=
          List.mem_map.mp (oneOwner.pendingEntry other pendingBefore)
        rcases List.mem_cons.mp (split.mem_iff.mp member) with
          isChosen | later
        · exact False.elim (notChosen (congrArg Waiter.future isChosen))
        · rcases List.mem_append.mp later with wasDropped | kept
          · have done := droppedDone waiter wasDropped
            simp [notTask, pendingBefore, FutureState.done] at done
          · exact List.mem_map_of_mem kept
      waitersBusy := by
        intro _
        simpa [setCaller, busy] using stillBusy }

/-- The owner gives the slot up: in `_release`, and where a cancelled task
passes on the slot it was just handed. -/
theorem OneOwner.release {system : SlotSystem Task}
    (oneOwner : OneOwner system) {task : Task}
    (owner : Owner system task) :
    OneOwner
      ({ system with slot := (system.slot.setFuture task .absent).release
        }.setCaller task .outside) := by
  rcases PrioritySlot.release_released (system.slot.setFuture task .absent)
    with ⟨noneWaiting, busy, waiters, futures⟩ |
      ⟨chosen, dropped, split, droppedDone, waiting, busy, futures⟩
  · exact oneOwner.free owner noneWaiting busy waiters futures
  · exact oneOwner.handOver owner split droppedDone waiting busy futures

/-- A task enters the free slot at once. -/
theorem OneOwner.enter {system : SlotSystem Task}
    (oneOwner : OneOwner system) {task : Task}
    (outside : system.callers task = .outside)
    (free : system.slot.busy = false) :
    OneOwner
      ({ system with slot := { system.slot with busy := true }
        }.setCaller task .inside) := by
  have noneWaits : system.slot.waiters = [] := by
    by_contra someWait
    rw [oneOwner.waitersBusy someWait] at free
    cases free
  have noOwner : ∀ other, ¬ Owner system other := by
    intro other owner
    rw [oneOwner.ownerBusy other owner] at free
    cases free
  have ownerIsTask : ∀ other, Owner
      ({ system with slot := { system.slot with busy := true }
        }.setCaller task .inside) other → other = task := by
    intro other owner
    by_contra different
    exact noOwner other
      ((owner_congr (by simp [setCaller, different]) (by rfl)).mp owner)
  exact
    { agrees := by
        intro other
        by_cases same : other = task
        · subst same
          rcases oneOwner.agrees other with ⟨_, absent⟩ | waits | ⟨queued, _⟩
          · exact Or.inl ⟨Or.inr (by simp [setCaller]), absent⟩
          · simp [Waits, outside] at waits
          · simp [outside] at queued
        · exact (futureAgrees_congr (by simp [setCaller, same])
            (by rfl)).mpr (oneOwner.agrees other)
      ownerBusy := by
        intro _ _
        rfl
      busyOwner := by
        intro _
        exact ⟨task, Or.inl (by simp [setCaller])⟩
      ownerUnique := by
        intro first second firstOwner secondOwner
        rw [ownerIsTask first firstOwner, ownerIsTask second secondOwner]
      entriesWait := by simp [setCaller, noneWaits]
      entriesUnique := by simp [setCaller, noneWaits]
      pendingEntry := oneOwner.pendingEntry
      waitersBusy := by simp [setCaller, noneWaits] }

/-- The tasks with an entry in the queue. -/
def entries (system : SlotSystem Task) : List Task :=
  system.slot.waiters.map Waiter.future

/-- A step of one task leaves all others where they are, in the queue too, and
does not change who owns the slot. -/
structure OwnStep (system after : SlotSystem Task) (task : Task) :
    Prop where
  callers : ∀ other, other ≠ task →
    after.callers other = system.callers other
  futures : ∀ other, other ≠ task →
    after.slot.futures other = system.slot.futures other
  queue : ∀ other, other ≠ task →
    (other ∈ after.entries ↔ other ∈ system.entries)
  busy : after.slot.busy = system.slot.busy
  owner : Owner after task ↔ Owner system task

omit [DecidableEq Task] in
theorem OwnStep.owners {system after : SlotSystem Task} {task : Task}
    (own : OwnStep system after task) (other : Task) :
    Owner after other ↔ Owner system other := by
  by_cases same : other = task
  · subst same
    exact own.owner
  · exact owner_congr (own.callers other same) (own.futures other same)

omit [DecidableEq Task] in
/-- Such a step keeps the invariant if the task itself and its entry fit. -/
theorem OneOwner.ownStep {system after : SlotSystem Task}
    (oneOwner : OneOwner system) (task : Task)
    (own : OwnStep system after task) (agrees : FutureAgrees after task)
    (waits : task ∈ after.entries →
      Waits after task ∧ system.slot.busy = true)
    (pending : after.slot.futures task = .pending → task ∈ after.entries)
    (unique : after.entries.Nodup) : OneOwner after := by
  have before : ∀ other ∈ system.entries,
      Waits system other ∧ system.slot.busy = true := by
    intro other entry
    obtain ⟨waiter, member, rfl⟩ := List.mem_map.mp entry
    exact ⟨oneOwner.entriesWait waiter member,
      oneOwner.waitersBusy (List.ne_nil_of_mem member)⟩
  have entry : ∀ waiter ∈ after.slot.waiters,
      Waits after waiter.future ∧ system.slot.busy = true := by
    intro waiter member
    have present : waiter.future ∈ after.entries :=
      List.mem_map_of_mem member
    by_cases same : waiter.future = task
    · rw [same] at present ⊢
      exact waits present
    · obtain ⟨waited, busy⟩ :=
        before _ ((own.queue _ same).mp present)
      exact ⟨(waits_congr (own.callers _ same)
        (own.futures _ same)).mpr waited, busy⟩
  exact
    { agrees := by
        intro other
        by_cases same : other = task
        · rw [same]
          exact agrees
        · exact (futureAgrees_congr (own.callers other same)
            (own.futures other same)).mpr (oneOwner.agrees other)
      ownerBusy := by
        intro other owner
        rw [own.busy]
        exact oneOwner.ownerBusy other ((own.owners other).mp owner)
      busyOwner := by
        intro busy
        rw [own.busy] at busy
        obtain ⟨owner, owns⟩ := oneOwner.busyOwner busy
        exact ⟨owner, (own.owners owner).mpr owns⟩
      ownerUnique := by
        intro first second firstOwner secondOwner
        exact oneOwner.ownerUnique first second
          ((own.owners first).mp firstOwner)
          ((own.owners second).mp secondOwner)
      entriesWait := fun waiter member => (entry waiter member).1
      entriesUnique := unique
      pendingEntry := by
        intro other isPending
        by_cases same : other = task
        · rw [same] at isPending ⊢
          exact pending isPending
        · rw [own.futures other same] at isPending
          exact (own.queue other same).mpr
            (oneOwner.pendingEntry other isPending)
      waitersBusy := by
        intro someWait
        obtain ⟨waiter, member⟩ := List.exists_mem_of_ne_nil _ someWait
        rw [own.busy]
        exact (entry waiter member).2 }

omit [DecidableEq Task] in
theorem OneOwner.entries_wait {system : SlotSystem Task}
    (oneOwner : OneOwner system) {task : Task}
    (entry : task ∈ system.entries) : Waits system task := by
  obtain ⟨waiter, member, rfl⟩ := List.mem_map.mp entry
  exact oneOwner.entriesWait waiter member

/-- A task joins the queue of the taken slot. -/
theorem OneOwner.enqueue {system : SlotSystem Task}
    (oneOwner : OneOwner system) {task : Task} (priority : Int)
    (outside : system.callers task = .outside)
    (taken : system.slot.busy = true) :
    OneOwner
      ({ system with
          slot := { system.slot with
              waiters := Heapq.heappush Waiter.before system.slot.waiters
                { priority := priority
                  seq := system.slot.seq
                  future := task }
              seq := system.slot.seq + 1 }.setFuture task .pending
        }.setCaller task .queued) := by
  have pushed :=
    (Heapq.heappush_perm Waiter.before system.slot.waiters
      { priority := priority, seq := system.slot.seq, future := task }).map
        Waiter.future
  have notEntry : task ∉ system.entries := by
    intro entry
    have waits := oneOwner.entries_wait entry
    simp [Waits, outside] at waits
  refine oneOwner.ownStep task ?_ ?_ ?_ ?_ ?_
  · exact
      { callers := by
          intro other different
          simp [setCaller, different]
        futures := by
          intro other different
          simp [setCaller, different]
        queue := by
          intro other different
          refine pushed.mem_iff.trans ?_
          simp [different, entries]
        busy := rfl
        owner := by simp [Owner, setCaller, outside] }
  · exact Or.inr (Or.inl (Or.inl
      ⟨by simp [setCaller], by simp [setCaller]⟩))
  · intro _
    exact ⟨Or.inl ⟨by simp [setCaller], by simp [setCaller]⟩, taken⟩
  · intro _
    exact pushed.mem_iff.mpr List.mem_cons_self
  · exact pushed.nodup_iff.mpr
      (List.nodup_cons.mpr ⟨notEntry, oneOwner.entriesUnique⟩)

theorem OneOwner.acquire {system : SlotSystem Task}
    (oneOwner : OneOwner system) {task : Task} (priority : Int)
    (enabled : system.Enabled (.acquire task priority)) :
    OneOwner (system.next (.acquire task priority)) := by
  by_cases taken : system.slot.busy ∨ system.slot.waiters ≠ []
  · have busy : system.slot.busy = true := by
      rcases taken with busy | someWait
      · exact busy
      · exact oneOwner.waitersBusy someWait
    simp only [next, PrioritySlot.acquire, if_pos taken]
    exact oneOwner.enqueue priority enabled busy
  · have free : system.slot.busy = false := by
      simpa using fun busy => taken (Or.inl busy)
    simp only [next, PrioritySlot.acquire, if_neg taken]
    exact oneOwner.enter enabled free

theorem OneOwner.resume {system : SlotSystem Task}
    (oneOwner : OneOwner system) {task : Task}
    (enabled : system.Enabled (.resume task)) :
    OneOwner (system.next (.resume task)) := by
  obtain ⟨queued, resolved⟩ := enabled
  have owner : Owner system task := Or.inr ⟨Or.inl queued, resolved⟩
  refine oneOwner.ownStep task ?_ ?_ ?_ ?_ ?_
  · exact
      { callers := by
          intro other different
          simp [next, setCaller, different]
        futures := by
          intro other different
          simp [next, setCaller, different]
        queue := fun _ _ => Iff.rfl
        busy := rfl
        owner := iff_of_true (Or.inl (by simp [next, setCaller])) owner }
  · exact Or.inl ⟨Or.inr (by simp [next, setCaller]),
      by simp [next, setCaller]⟩
  · intro entry
    exact False.elim ((oneOwner.entries_wait entry).not_owner owner)
  · intro pending
    simp [next, setCaller] at pending
  · exact oneOwner.entriesUnique

theorem OneOwner.leave {system : SlotSystem Task}
    (oneOwner : OneOwner system) {task : Task}
    (enabled : system.Enabled (.leave task)) :
    OneOwner (system.next (.leave task)) := by
  have inside : system.callers task = .inside := enabled
  have absent : system.slot.futures task = .absent := by
    rcases oneOwner.agrees task with ⟨_, absent⟩ | waits | ⟨queued, _⟩
    · exact absent
    · simp [Waits, inside] at waits
    · simp [inside] at queued
  have unchanged : system.slot.setFuture task .absent = system.slot := by
    rw [PrioritySlot.setFuture, ← absent, Function.update_eq_self]
  have released := oneOwner.release (Or.inl inside)
  rw [unchanged] at released
  exact released

/-- A waiter is cancelled before it was handed the slot. -/
theorem OneOwner.cancelPending {system : SlotSystem Task}
    (oneOwner : OneOwner system) {task : Task}
    (queued : system.callers task = .queued)
    (pending : system.slot.futures task = .pending) :
    OneOwner
      ({ system with slot := system.slot.setFuture task .cancelled
        }.setCaller task .cancelling) := by
  have entry := oneOwner.pendingEntry task pending
  have waits : Waits
      ({ system with slot := system.slot.setFuture task .cancelled
        }.setCaller task .cancelling) task :=
    Or.inr ⟨by simp [setCaller], by simp [setCaller]⟩
  refine oneOwner.ownStep task ?_ ?_ ?_ ?_ ?_
  · exact
      { callers := by
          intro other different
          simp [setCaller, different]
        futures := by
          intro other different
          simp [setCaller, different]
        queue := fun _ _ => Iff.rfl
        busy := rfl
        owner := by simp [Owner, setCaller, queued, pending] }
  · exact Or.inr (Or.inl waits)
  · intro _
    obtain ⟨waiter, member, _⟩ := List.mem_map.mp entry
    exact ⟨waits, oneOwner.waitersBusy (List.ne_nil_of_mem member)⟩
  · exact fun _ => entry
  · exact oneOwner.entriesUnique

/-- A waiter is cancelled after it was handed the slot. -/
theorem OneOwner.cancelResolved {system : SlotSystem Task}
    (oneOwner : OneOwner system) {task : Task}
    (queued : system.callers task = .queued)
    (resolved : system.slot.futures task = .resolved) :
    OneOwner (system.setCaller task .cancelling) := by
  have owner : Owner system task := Or.inr ⟨Or.inl queued, resolved⟩
  refine oneOwner.ownStep task ?_ ?_ ?_ ?_ ?_
  · exact
      { callers := by
          intro other different
          simp [setCaller, different]
        futures := fun _ _ => rfl
        queue := fun _ _ => Iff.rfl
        busy := rfl
        owner := by simp [Owner, setCaller, queued] }
  · exact Or.inr (Or.inr ⟨Or.inr (by simp [setCaller]), resolved⟩)
  · intro entry
    exact False.elim ((oneOwner.entries_wait entry).not_owner owner)
  · intro pending
    have pendingBefore : system.slot.futures task = .pending := pending
    rw [resolved] at pendingBefore
    cases pendingBefore
  · exact oneOwner.entriesUnique

theorem OneOwner.cancel {system : SlotSystem Task}
    (oneOwner : OneOwner system) {task : Task}
    (enabled : system.Enabled (.cancel task)) :
    OneOwner (system.next (.cancel task)) := by
  have queued : system.callers task = .queued := enabled
  rcases oneOwner.agrees task with
    ⟨outside, _⟩ | (⟨_, pending⟩ | ⟨cancelling, _⟩) | ⟨_, resolved⟩
  · simp [queued] at outside
  · have cancelled := oneOwner.cancelPending queued pending
    simpa [next, PrioritySlot.cancelFuture, pending] using cancelled
  · simp [queued] at cancelling
  · have cancelled := oneOwner.cancelResolved queued resolved
    simpa [next, PrioritySlot.cancelFuture, resolved] using cancelled

/-- A cancelled waiter that was not handed the slot leaves the queue. -/
theorem OneOwner.withdraw {system : SlotSystem Task}
    (oneOwner : OneOwner system) {task : Task}
    (cancelling : system.callers task = .cancelling)
    (cancelled : system.slot.futures task = .cancelled) :
    OneOwner
      ({ system with
          slot := { system.slot.setFuture task .absent with
            waiters := Heapq.heapify Waiter.before
              (system.slot.waiters.filter
                (fun waiter => waiter.future ≠ task)) }
        }.setCaller task .outside) := by
  have reordered :=
    (Heapq.heapify_perm Waiter.before (system.slot.waiters.filter
      (fun waiter => waiter.future ≠ task))).map Waiter.future
  have left : ∀ other,
      other ∈ (system.slot.waiters.filter
          (fun waiter => waiter.future ≠ task)).map Waiter.future ↔
        other ∈ system.entries ∧ other ≠ task := by
    intro other
    constructor
    · intro entry
      obtain ⟨waiter, member, rfl⟩ := List.mem_map.mp entry
      obtain ⟨memberBefore, different⟩ := List.mem_filter.mp member
      exact ⟨List.mem_map_of_mem memberBefore, by simpa using different⟩
    · rintro ⟨entry, different⟩
      obtain ⟨waiter, member, rfl⟩ := List.mem_map.mp entry
      exact List.mem_map_of_mem
        (List.mem_filter.mpr ⟨member, by simpa using different⟩)
  refine oneOwner.ownStep task ?_ ?_ ?_ ?_ ?_
  · exact
      { callers := by
          intro other different
          simp [setCaller, different]
        futures := by
          intro other different
          simp [setCaller, different]
        queue := by
          intro other different
          refine (reordered.mem_iff.trans (left other)).trans ?_
          exact and_iff_left different
        busy := rfl
        owner := by simp [Owner, setCaller, cancelling, cancelled] }
  · exact Or.inl ⟨Or.inl (by simp [setCaller]), by simp [setCaller]⟩
  · intro entry
    have different := ((left task).mp (reordered.mem_iff.mp entry)).2
    exact False.elim (different rfl)
  · intro pending
    simp [setCaller] at pending
  · refine reordered.nodup_iff.mpr ?_
    exact oneOwner.entriesUnique.sublist
      (List.filter_sublist.map Waiter.future)

theorem OneOwner.handleCancellation {system : SlotSystem Task}
    (oneOwner : OneOwner system) {task : Task}
    (enabled : system.Enabled (.handleCancellation task)) :
    OneOwner (system.next (.handleCancellation task)) := by
  have cancelling : system.callers task = .cancelling := enabled
  by_cases resolved : system.slot.futures task = .resolved
  · have released := oneOwner.release (Or.inr ⟨Or.inr cancelling, resolved⟩)
    simpa [next, PrioritySlot.handleCancellation, resolved] using released
  · have cancelled : system.slot.futures task = .cancelled := by
      rcases oneOwner.agrees task with
        ⟨outside, _⟩ | (⟨queued, _⟩ | ⟨_, cancelled⟩) | ⟨_, handed⟩
      · simp [cancelling] at outside
      · simp [cancelling] at queued
      · exact cancelled
      · exact False.elim (resolved handed)
    have withdrawn := oneOwner.withdraw cancelling cancelled
    simpa [next, PrioritySlot.handleCancellation, resolved] using withdrawn

/-- Every action keeps exactly one owner of a busy slot. -/
theorem OneOwner.step {system after : SlotSystem Task}
    {action : SlotAction Task} (oneOwner : OneOwner system)
    (taken : Step system action after) : OneOwner after := by
  obtain ⟨enabled, rfl⟩ := taken
  cases action with
  | acquire task priority =>
      exact oneOwner.acquire priority enabled
  | resume task =>
      exact oneOwner.resume enabled
  | leave task =>
      exact oneOwner.leave enabled
  | cancel task =>
      exact oneOwner.cancel enabled
  | handleCancellation task =>
      exact oneOwner.handleCancellation enabled

omit [DecidableEq Task] in
/-- Whoever's future is resolved owns the slot. -/
theorem OneOwner.owner_of_resolved {system : SlotSystem Task}
    (oneOwner : OneOwner system) {task : Task}
    (resolved : system.slot.futures task = .resolved) :
    Owner system task := by
  rcases oneOwner.agrees task with
    ⟨_, absent⟩ | (⟨_, pending⟩ | ⟨_, cancelled⟩) | own
  · rw [absent] at resolved
    cases resolved
  · rw [pending] at resolved
    cases resolved
  · rw [cancelled] at resolved
    cases resolved
  · exact Or.inr own

theorem oneOwner_of_reachable {system : SlotSystem Task}
    (reachable : Reachable Step {} system) : OneOwner system :=
  reachable.invariant oneOwner_start
    (fun _ _ _ oneOwner taken => oneOwner.step taken)

/-- For any tasks and any order of acquiring, resuming, leaving and being
cancelled: at most one task is in the body; the slot is busy exactly when it
has exactly one owner; a task whose future is pending is in the queue, and
somebody else owns the slot; and once every task has left, the slot is free and
nothing waits. -/
theorem prioritySlotOneOwner {system : SlotSystem Task}
    (reachable : Reachable Step {} system) :
    (∀ task other, system.callers task = .inside →
      system.callers other = .inside → task = other) ∧
    (system.slot.busy = true ↔ ∃! task, Owner system task) ∧
    (∀ task, system.slot.futures task = .pending →
      task ∈ system.entries ∧ ∃ owner, owner ≠ task ∧ Owner system owner) ∧
    ((∀ task, system.callers task = .outside) →
      system.slot.busy = false ∧ system.slot.waiters = [] ∧
        ∀ task, system.slot.futures task ≠ .pending) := by
  have oneOwner := oneOwner_of_reachable reachable
  refine ⟨?_, ⟨?_, ?_⟩, ?_, ?_⟩
  · intro task other inside otherInside
    exact oneOwner.ownerUnique task other
      (Or.inl inside) (Or.inl otherInside)
  · intro busy
    obtain ⟨owner, owns⟩ := oneOwner.busyOwner busy
    exact ⟨owner, owns, fun other otherOwns =>
      oneOwner.ownerUnique other owner otherOwns owns⟩
  · rintro ⟨owner, owns, _⟩
    exact oneOwner.ownerBusy owner owns
  · intro task pending
    have entry := oneOwner.pendingEntry task pending
    obtain ⟨waiter, member, _⟩ := List.mem_map.mp entry
    obtain ⟨owner, owns⟩ := oneOwner.busyOwner
      (oneOwner.waitersBusy (List.ne_nil_of_mem member))
    refine ⟨entry, owner, ?_, owns⟩
    rintro rfl
    exact (oneOwner.entries_wait entry).not_owner owns
  · intro allOutside
    have noneWaits : system.slot.waiters = [] := by
      rw [List.eq_nil_iff_forall_not_mem]
      intro waiter member
      have waits := oneOwner.entriesWait waiter member
      simp [Waits, allOutside] at waits
    refine ⟨?_, noneWaits, ?_⟩
    · by_contra taken
      obtain ⟨owner, owns⟩ := oneOwner.busyOwner (by simpa using taken)
      simp [Owner, allOutside] at owns
    · intro task pending
      have entry := oneOwner.pendingEntry task pending
      simp [noneWaits] at entry

/-- One task is inside and three wait; the first of them to arrive is the least
urgent. -/
def threeWaiting : SlotSystem Nat :=
  (((({} : SlotSystem Nat).next (.acquire 0 1)).next (.acquire 1 1)).next
    (.acquire 2 0)).next (.acquire 3 0)

theorem threeWaiting_run :
    Run Step {}
      [.acquire 0 1, .acquire 1 1, .acquire 2 0, .acquire 3 0]
      threeWaiting :=
  ((((Run.nil _).snoc ⟨by decide, rfl⟩).snoc ⟨by decide, rfl⟩).snoc
    ⟨by decide, rfl⟩).snoc ⟨by decide, rfl⟩

/-- The slot is handed to a task that is cancelled before it resumes: until it
passes the slot on, it is the one owner, for whom another task waits. -/
theorem prioritySlotOneOwner_passedOn :
    ∃ gap passed : SlotSystem Nat,
      Reachable Step {} gap ∧ Step gap (.handleCancellation 2) passed ∧
      gap.callers 2 = .cancelling ∧ gap.slot.futures 2 = .resolved ∧
      (∃! task, Owner gap task) ∧
      gap.slot.futures 1 = .pending ∧
      (∃ owner, owner ≠ 1 ∧ Owner gap owner) ∧
      passed.callers 2 = .outside ∧ (∃! task, Owner passed task) := by
  let gap := (threeWaiting.next (.leave 0)).next (.cancel 2)
  let passed := gap.next (.handleCancellation 2)
  have reachable : Reachable Step {} gap :=
    (threeWaiting_run.reachable.tail
      ⟨by decide +kernel, rfl⟩).tail ⟨by decide +kernel, rfl⟩
  have passes : Step gap (.handleCancellation 2) passed :=
    ⟨by decide +kernel, rfl⟩
  have busy : gap.slot.busy = true := by decide +kernel
  have stillBusy : passed.slot.busy = true := by decide +kernel
  have pending : gap.slot.futures 1 = .pending := by decide +kernel
  obtain ⟨_, owners, waits, _⟩ := prioritySlotOneOwner reachable
  exact ⟨gap, passed, reachable, passes, by decide +kernel,
    by decide +kernel, owners.mp busy, pending, (waits 1 pending).2,
    by decide +kernel,
    (prioritySlotOneOwner (reachable.tail passes)).2.1.mp stillBusy⟩

end SlotSystem

end EmbeddingService
