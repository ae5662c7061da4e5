import Mathlib.Logic.Function.Basic
import EmbeddingService.Library.Heapq

/-!
# The encode slot

`PrioritySlot` is a lock with one holder.  A task that finds it taken waits on
a future; the release hands the slot to the next future directly.  The futures
of the event loop belong to the model, because a cancelled task and a hand-over
meet in them.
-/

namespace EmbeddingService

universe u

/-- The future a task awaits in `acquire`, if any. -/
inductive FutureState where
  | absent
  | pending
  | resolved
  | cancelled
  deriving DecidableEq, Repr

/-- `future.done()`. -/
def FutureState.done : FutureState → Bool
  | .absent => false
  | .pending => false
  | .resolved => true
  | .cancelled => true

/-- An entry `(priority, seq, future)` of the heap.  A future is named by the
task that awaits it. -/
structure Waiter (Task : Type u) where
  priority : Int
  seq : Nat
  future : Task

/-- The order of the tuples.  Sequence numbers differ, so futures are never
compared. -/
def Waiter.before {Task : Type u} (left right : Waiter Task) : Bool :=
  left.priority < right.priority ||
    (left.priority == right.priority && left.seq < right.seq)

structure PrioritySlot (Task : Type u) where
  busy : Bool := false
  waiters : List (Waiter Task) := []
  seq : Nat := 0
  futures : Task → FutureState := fun _ => .absent

namespace PrioritySlot

variable {Task : Type u} [DecidableEq Task]

def setFuture (slot : PrioritySlot Task) (task : Task)
    (state : FutureState) : PrioritySlot Task :=
  { slot with futures := Function.update slot.futures task state }

/-- `_release`: hand the slot to the first waiter whose future is not done;
without one, the slot becomes free. -/
def release (slot : PrioritySlot Task) : PrioritySlot Task :=
  match _popped : Heapq.heappop Waiter.before slot.waiters with
  | none => { slot with busy := false }
  | some (waiter, rest) =>
      if (slot.futures waiter.future).done then
        release { slot with waiters := rest }
      else
        -- Ownership moves straight to the waiter; `busy` stays as it is.
        { slot with waiters := rest }.setFuture waiter.future .resolved
termination_by slot.waiters.length
decreasing_by
  have lengths := (Heapq.heappop_perm Waiter.before _popped).length_eq
  simp only [List.length_cons] at lengths
  omega

/-- The part of `acquire` before its first await; the flag says whether the
body was entered at once. -/
def acquire (slot : PrioritySlot Task) (priority : Int) (task : Task) :
    PrioritySlot Task × Bool :=
  if slot.busy ∨ slot.waiters ≠ [] then
    ({ slot with
        waiters := Heapq.heappush Waiter.before slot.waiters
          { priority := priority, seq := slot.seq, future := task }
        seq := slot.seq + 1 }.setFuture task .pending, false)
  else
    ({ slot with busy := true }, true)

/-- What `task.cancel()` does to the awaited future. -/
def cancelFuture (slot : PrioritySlot Task) (task : Task) :
    PrioritySlot Task :=
  if slot.futures task = .pending then
    slot.setFuture task .cancelled
  else
    slot

/-- The handler of `CancelledError` in `acquire`. -/
def handleCancellation (slot : PrioritySlot Task) (task : Task) :
    PrioritySlot Task :=
  let left := slot.setFuture task .absent
  if slot.futures task = .resolved then
    -- Handed the slot just as the task was cancelled: pass it on.
    left.release
  else
    { left with
      waiters := Heapq.heapify Waiter.before
        (slot.waiters.filter (fun waiter => waiter.future ≠ task)) }

@[simp]
theorem setFuture_futures (slot : PrioritySlot Task) (task : Task)
    (state : FutureState) :
    (slot.setFuture task state).futures =
      Function.update slot.futures task state :=
  rfl

@[simp]
theorem setFuture_busy (slot : PrioritySlot Task) (task : Task)
    (state : FutureState) :
    (slot.setFuture task state).busy = slot.busy :=
  rfl

@[simp]
theorem setFuture_waiters (slot : PrioritySlot Task) (task : Task)
    (state : FutureState) :
    (slot.setFuture task state).waiters = slot.waiters :=
  rfl

/-- The two ways a release can end. -/
inductive Released (slot after : PrioritySlot Task) : Prop
  | freed
      (noneWaiting : ∀ waiter ∈ slot.waiters,
        (slot.futures waiter.future).done = true)
      (busy : after.busy = false)
      (waiters : after.waiters = [])
      (futures : after.futures = slot.futures)
  | handed (waiter : Waiter Task) (dropped : List (Waiter Task))
      (split : slot.waiters.Perm (waiter :: (dropped ++ after.waiters)))
      (droppedDone : ∀ other ∈ dropped,
        (slot.futures other.future).done = true)
      (waiting : (slot.futures waiter.future).done = false)
      (busy : after.busy = slot.busy)
      (futures : after.futures =
        Function.update slot.futures waiter.future .resolved)

theorem release_of_none {slot : PrioritySlot Task}
    (popped : Heapq.heappop Waiter.before slot.waiters = none) :
    slot.release = { slot with busy := false } := by
  rw [release]
  split
  · rfl
  · simp_all

section Popped

variable {slot : PrioritySlot Task} {waiter : Waiter Task}
  {rest : List (Waiter Task)}
  (popped : Heapq.heappop Waiter.before slot.waiters = some (waiter, rest))

include popped

theorem release_of_done
    (done : (slot.futures waiter.future).done = true) :
    slot.release = { slot with waiters := rest }.release := by
  rw [release]
  split
  · simp_all
  · next found =>
      rw [popped] at found
      cases found
      rw [if_pos done]

theorem release_of_waiting
    (notDone : ¬ (slot.futures waiter.future).done = true) :
    slot.release =
      { slot with waiters := rest }.setFuture waiter.future .resolved := by
  rw [release]
  split
  · simp_all
  · next found =>
      rw [popped] at found
      cases found
      rw [if_neg notDone]

end Popped

theorem release_released (slot : PrioritySlot Task) :
    Released slot slot.release := by
  induction slot using release.induct with
  | case1 slot popped =>
      have empty : slot.waiters = [] :=
        (Heapq.heappop_eq_none_iff Waiter.before _).mp popped
      rw [release_of_none popped]
      exact Released.freed (by simp [empty]) rfl empty rfl
  | case2 slot waiter rest popped done inductionHypothesis =>
      have split := Heapq.heappop_perm Waiter.before popped
      rw [release_of_done popped done]
      rcases inductionHypothesis with
        ⟨noneWaiting, busy, waiters, futures⟩ |
        ⟨chosen, dropped, restSplit, droppedDone, waiting, busy, futures⟩
      · refine Released.freed ?_ busy waiters futures
        intro other member
        rcases List.mem_cons.mp (split.mem_iff.mp member) with rfl | later
        · exact done
        · exact noneWaiting other later
      · refine Released.handed chosen (waiter :: dropped) ?_ ?_ waiting
          busy futures
        · refine split.trans ((restSplit.cons waiter).trans ?_)
          exact List.Perm.swap chosen waiter _
        · intro other member
          rcases List.mem_cons.mp member with rfl | later
          · exact done
          · exact droppedDone other later
  | case3 slot waiter rest popped notDone =>
      have split := Heapq.heappop_perm Waiter.before popped
      rw [release_of_waiting popped notDone]
      exact Released.handed waiter [] (by simpa using split) (by simp)
        (by simpa using notDone) rfl rfl

end PrioritySlot

end EmbeddingService
