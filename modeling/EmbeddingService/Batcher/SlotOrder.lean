import Mathlib.Data.List.Nodup
import Mathlib.Data.Prod.Lex
import EmbeddingService.Library.HeapOrder
import EmbeddingService.Batcher.PrioritySlotRuns

/-!
# The order of service

The heap of waiters is popped by priority and then by sequence number, and
sequence numbers follow the order of the calls of `acquire`.  A cancelled
waiter is passed over, and taking its entry out leaves the others in order.
-/

namespace EmbeddingService

open LabelledRuns

universe u

variable {Task : Type u}

theorem Waiter.before_iff (first second : Waiter Task) :
    first.before second = true ↔
      first.priority < second.priority ∨
        first.priority = second.priority ∧ first.seq < second.seq := by
  simp [Waiter.before]

theorem Waiter.before_eq_false_iff (first second : Waiter Task) :
    first.before second = false ↔
      second.priority < first.priority ∨
        first.priority = second.priority ∧ second.seq ≤ first.seq := by
  rw [← Bool.not_eq_true, Waiter.before_iff]
  omega

theorem Waiter.before_strictWeak :
    Heapq.StrictWeak (@Waiter.before Task) where
  asymm := by
    intro first second earlier
    rw [Waiter.before_iff] at earlier
    rw [Waiter.before_eq_false_iff]
    omega
  trans := by
    intro first second third notSecond notThird
    rw [Waiter.before_eq_false_iff] at notSecond notThird ⊢
    omega

namespace PrioritySlot

/-- Its future is waiting for the slot. -/
def isWaiting (slot : PrioritySlot Task) (waiter : Waiter Task) : Bool :=
  !(slot.futures waiter.future).done

/-- The entries that are still waiting, in the order they are popped. -/
def queue (slot : PrioritySlot Task) : List (Waiter Task) :=
  (Heapq.popAll Waiter.before slot.waiters).filter slot.isWaiting

/-- The tasks that successive releases serve. -/
def servingOrder (slot : PrioritySlot Task) : List Task :=
  slot.queue.map Waiter.future

theorem queue_of_none {slot : PrioritySlot Task}
    (popped : Heapq.heappop Waiter.before slot.waiters = none) :
    slot.queue = [] := by
  rw [queue, Heapq.popAll_of_none popped, List.filter_nil]

section Popped

variable {slot : PrioritySlot Task} {waiter : Waiter Task}
  {rest : List (Waiter Task)}
  (popped : Heapq.heappop Waiter.before slot.waiters = some (waiter, rest))

include popped

theorem queue_of_done
    (done : (slot.futures waiter.future).done = true) :
    slot.queue = { slot with waiters := rest }.queue := by
  rw [queue, Heapq.popAll_of_some popped,
    List.filter_cons_of_neg (by simp [isWaiting, done])]
  rfl

theorem queue_of_waiting
    (notDone : ¬ (slot.futures waiter.future).done = true) :
    slot.queue = waiter :: { slot with waiters := rest }.queue := by
  rw [queue, Heapq.popAll_of_some popped,
    List.filter_cons_of_pos (by simpa [isWaiting] using notDone)]
  rfl

end Popped

theorem mem_queue_iff (slot : PrioritySlot Task) (waiter : Waiter Task) :
    waiter ∈ slot.queue ↔
      waiter ∈ slot.waiters ∧
        (slot.futures waiter.future).done = false := by
  rw [queue, List.mem_filter, (Heapq.popAll_perm Waiter.before _).mem_iff]
  simp [isWaiting]

/-- What tells two futures apart for the queue. -/
theorem queue_congr (slot : PrioritySlot Task)
    {futures : Task → FutureState}
    (same : ∀ waiter ∈ slot.waiters,
      (futures waiter.future).done = (slot.futures waiter.future).done) :
    { slot with futures := futures }.queue = slot.queue := by
  apply List.filter_congr
  intro waiter member
  have inHeap :=
    (Heapq.popAll_perm Waiter.before slot.waiters).mem_iff.mp member
  simp [isWaiting, same waiter inHeap]

variable [DecidableEq Task]

/-- A release serves the first of the queue and leaves the others in order. -/
theorem release_queue (slot : PrioritySlot Task)
    (unique : (slot.waiters.map Waiter.future).Nodup) :
    (slot.queue = [] ∧ slot.release.queue = [] ∧
        slot.release.futures = slot.futures) ∨
      ∃ first others, slot.queue = first :: others ∧
        slot.release.queue = others ∧
        slot.release.futures =
          Function.update slot.futures first.future .resolved := by
  induction slot using release.induct with
  | case1 slot popped =>
      rw [release_of_none popped]
      have none := queue_of_none popped
      exact Or.inl ⟨none, none, rfl⟩
  | case2 slot waiter rest popped done inductionHypothesis =>
      have split := (Heapq.heappop_perm Waiter.before popped).map
        Waiter.future
      rw [release_of_done popped done, queue_of_done popped done]
      exact inductionHypothesis (split.nodup_iff.mp unique).of_cons
  | case3 slot waiter rest popped notDone =>
      have split := (Heapq.heappop_perm Waiter.before popped).map
        Waiter.future
      have notLeft : waiter.future ∉ rest.map Waiter.future :=
        (List.nodup_cons.mp (split.nodup_iff.mp unique)).1
      rw [release_of_waiting popped notDone, queue_of_waiting popped notDone]
      refine Or.inr ⟨waiter, _, rfl, ?_, rfl⟩
      apply queue_congr { slot with waiters := rest }
      intro other member
      have different : other.future ≠ waiter.future := by
        intro same
        rw [← same] at notLeft
        exact notLeft (List.mem_map_of_mem member)
      rw [Function.update_of_ne different]

theorem release_seq (slot : PrioritySlot Task) :
    slot.release.seq = slot.seq := by
  induction slot using release.induct with
  | case1 slot popped =>
      rw [release_of_none popped]
  | case2 slot waiter rest popped done inductionHypothesis =>
      rw [release_of_done popped done]
      exact inductionHypothesis
  | case3 slot waiter rest popped notDone =>
      rw [release_of_waiting popped notDone]
      rfl

theorem release_ordered (slot : PrioritySlot Task)
    (ordered : Heapq.Ordered Waiter.before slot.waiters) :
    Heapq.Ordered Waiter.before slot.release.waiters := by
  induction slot using release.induct with
  | case1 slot popped =>
      rw [release_of_none popped]
      exact ordered
  | case2 slot waiter rest popped done inductionHypothesis =>
      rw [release_of_done popped done]
      exact inductionHypothesis
        (Heapq.heappop_ordered Waiter.before_strictWeak ordered popped)
  | case3 slot waiter rest popped notDone =>
      rw [release_of_waiting popped notDone]
      exact Heapq.heappop_ordered Waiter.before_strictWeak ordered popped

/-- A release takes entries out and puts none in. -/
theorem release_waiters (slot : PrioritySlot Task) :
    ∃ gone, slot.waiters.Perm (gone ++ slot.release.waiters) := by
  rcases slot.release_released with
    ⟨_, _, waiters, _⟩ | ⟨chosen, dropped, split, _, _, _, _⟩
  · exact ⟨slot.waiters, by simp [waiters]⟩
  · exact ⟨chosen :: dropped, split⟩

omit [DecidableEq Task] in
/-- Taking entries out of the heap takes them out of the queue. -/
theorem popAll_filter {slot : PrioritySlot Task}
    (ordered : Heapq.Ordered Waiter.before slot.waiters)
    (sequences : (slot.waiters.map Waiter.seq).Nodup)
    (kept : Waiter Task → Bool) :
    Heapq.popAll Waiter.before
        (Heapq.heapify Waiter.before (slot.waiters.filter kept)) =
      (Heapq.popAll Waiter.before slot.waiters).filter kept := by
  apply Heapq.popAll_eq_of_perm Waiter.before_strictWeak
    (Heapq.heapify_ordered Waiter.before_strictWeak _)
  · exact ((Heapq.popAll_perm Waiter.before slot.waiters).filter kept).trans
      (Heapq.heapify_perm Waiter.before _).symm
  · exact (Heapq.popAll_sorted Waiter.before_strictWeak _ ordered).filter
      kept
  · intro first firstMember second secondMember notLater notEarlier
    have inWaiters : ∀ waiter,
        waiter ∈ Heapq.heapify Waiter.before (slot.waiters.filter kept) →
          waiter ∈ slot.waiters := by
      intro waiter member
      exact List.mem_of_mem_filter
        ((Heapq.heapify_perm Waiter.before _).mem_iff.mp member)
    rw [Waiter.before_eq_false_iff] at notLater notEarlier
    exact List.inj_on_of_nodup_map sequences (inWaiters _ firstMember)
      (inWaiters _ secondMember) (by omega)

/-- A cancelled future is passed over. -/
theorem queue_cancelled (slot : PrioritySlot Task) (task : Task) :
    (slot.setFuture task .cancelled).queue =
      slot.queue.filter (fun waiter => waiter.future ≠ task) := by
  rw [queue, queue, List.filter_filter]
  apply List.filter_congr
  intro waiter _
  by_cases same : waiter.future = task
  · simp [isWaiting, same, FutureState.done]
  · simp [isWaiting, same]

/-- The entry of a cancelled task is taken out. -/
theorem queue_withdrawn {slot : PrioritySlot Task}
    (ordered : Heapq.Ordered Waiter.before slot.waiters)
    (sequences : (slot.waiters.map Waiter.seq).Nodup) (task : Task) :
    { slot.setFuture task .absent with
        waiters := Heapq.heapify Waiter.before
          (slot.waiters.filter (fun waiter => waiter.future ≠ task))
      }.queue =
      slot.queue.filter (fun waiter => waiter.future ≠ task) := by
  rw [queue, queue, List.filter_filter]
  dsimp only
  rw [popAll_filter ordered sequences, List.filter_filter]
  apply List.filter_congr
  intro waiter _
  by_cases same : waiter.future = task
  · simp [same]
  · simp [isWaiting, same]

theorem servingOrder_of_queue {slot after : PrioritySlot Task}
    {task : Task}
    (queue : after.queue =
      slot.queue.filter (fun waiter => waiter.future ≠ task)) :
    after.servingOrder =
      slot.servingOrder.filter (fun other => other ≠ task) := by
  rw [servingOrder, servingOrder, queue, List.filter_map]
  rfl

end PrioritySlot

namespace SlotSystem

variable [DecidableEq Task]

/-- The priority with which an action queues a task. -/
def acquires (task : Task) : SlotAction Task → Option Int
  | .acquire other priority => if other = task then some priority else none
  | _ => none

/-- The priority of the last `acquire` of a task, and its place in a run. -/
def arrival (labels : List (SlotAction Task)) (task : Task) :
    Option (Int × Nat) :=
  labels.zipIdx.reverse.findSome? (fun entry =>
    (acquires task entry.1).map (fun priority => (priority, entry.2)))

theorem arrival_snoc (labels : List (SlotAction Task))
    (action : SlotAction Task) (task : Task) :
    arrival (labels ++ [action]) task =
      ((acquires task action).map
        (fun priority => (priority, labels.length))).or
          (arrival labels task) := by
  simp only [arrival, List.zipIdx_append, List.zipIdx_singleton,
    List.reverse_append, List.reverse_singleton, List.singleton_append,
    List.findSome?_cons, Nat.zero_add]
  cases acquires task action with
  | none =>
      rfl
  | some priority =>
      rfl

theorem arrival_other {labels : List (SlotAction Task)}
    {action : SlotAction Task} {task : Task}
    (other : acquires task action = none) :
    arrival (labels ++ [action]) task = arrival labels task := by
  rw [arrival_snoc, other]
  rfl

theorem arrival_acquire (labels : List (SlotAction Task)) (task : Task)
    (priority : Int) :
    arrival (labels ++ [.acquire task priority]) task =
      some (priority, labels.length) := by
  rw [arrival_snoc, acquires, if_pos rfl]
  rfl

theorem arrival_lt {labels : List (SlotAction Task)} {task : Task}
    {arrived : Int × Nat} (found : arrival labels task = some arrived) :
    arrived.2 < labels.length := by
  obtain ⟨entry, member, mapped⟩ := List.exists_of_findSome?_eq_some found
  obtain ⟨priority, _, rfl⟩ := Option.map_eq_some_iff.mp mapped
  have inside := List.mem_reverse.mp member
  have bound := List.snd_lt_of_mem_zipIdx inside
  simpa using bound

/-- Smaller priority first, and earlier call of `acquire` among equals. -/
def MoreUrgent (labels : List (SlotAction Task)) (first second : Task) :
    Prop :=
  ∃ own other, arrival labels first = some own ∧
    arrival labels second = some other ∧
    Prod.Lex (· < ·) (· < ·) own other

/-- The heap is in order, and its sequence numbers are those of the calls. -/
structure QueueOrdered (labels : List (SlotAction Task))
    (system : SlotSystem Task) : Prop where
  ordered : Heapq.Ordered Waiter.before system.slot.waiters
  fresh : ∀ waiter ∈ system.slot.waiters, waiter.seq < system.slot.seq
  sequences : (system.slot.waiters.map Waiter.seq).Nodup
  arrived : ∀ waiter ∈ system.slot.waiters, ∃ position,
    arrival labels waiter.future = some (waiter.priority, position)
  inOrder : ∀ first ∈ system.slot.waiters,
    ∀ second ∈ system.slot.waiters, first.seq < second.seq →
      ∀ own other, arrival labels first.future = some own →
        arrival labels second.future = some other → own.2 < other.2

theorem queueOrdered_start :
    QueueOrdered [] ({} : SlotSystem Task) where
  ordered := by
    intro pos child _ _
    exact Heapq.notAfter_of_outside (Nat.zero_le child)
  fresh := by simp
  sequences := List.nodup_nil
  arrived := by simp
  inOrder := by simp

section Step

variable {labels : List (SlotAction Task)} {system after : SlotSystem Task}

/-- An action that only takes entries out keeps the order of the others. -/
theorem QueueOrdered.smaller (queue : QueueOrdered labels system)
    {action : SlotAction Task}
    (other : ∀ task, acquires task action = none)
    (seq : after.slot.seq = system.slot.seq)
    (ordered : Heapq.Ordered Waiter.before after.slot.waiters)
    (taken : ∃ gone,
      system.slot.waiters.Perm (gone ++ after.slot.waiters)) :
    QueueOrdered (labels ++ [action]) after := by
  obtain ⟨gone, split⟩ := taken
  have member : ∀ waiter ∈ after.slot.waiters,
      waiter ∈ system.slot.waiters := by
    intro waiter kept
    exact split.mem_iff.mpr (List.mem_append_right gone kept)
  have sequences := (split.map Waiter.seq).nodup_iff.mp queue.sequences
  rw [List.map_append] at sequences
  exact
    { ordered := ordered
      fresh := by
        intro waiter kept
        rw [seq]
        exact queue.fresh waiter (member waiter kept)
      sequences := (List.nodup_append.mp sequences).2.1
      arrived := by
        intro waiter kept
        rw [arrival_other (other waiter.future)]
        exact queue.arrived waiter (member waiter kept)
      inOrder := by
        intro first firstKept second secondKept earlier own others
        rw [arrival_other (other first.future),
          arrival_other (other second.future)]
        exact queue.inOrder first (member first firstKept) second
          (member second secondKept) earlier own others }

/-- A new waiter has the next sequence number and the last arrival. -/
theorem QueueOrdered.enqueue (queue : QueueOrdered labels system)
    {task : Task} {priority : Int}
    (notQueued : ∀ waiter ∈ system.slot.waiters, waiter.future ≠ task)
    (waiters : after.slot.waiters =
      Heapq.heappush Waiter.before system.slot.waiters
        { priority := priority, seq := system.slot.seq, future := task })
    (seq : after.slot.seq = system.slot.seq + 1) :
    QueueOrdered (labels ++ [.acquire task priority]) after := by
  have pushed := Heapq.heappush_perm Waiter.before system.slot.waiters
    { priority := priority, seq := system.slot.seq, future := task }
  rw [← waiters] at pushed
  have old : ∀ waiter ∈ system.slot.waiters,
      arrival (labels ++ [.acquire task priority]) waiter.future =
        arrival labels waiter.future := by
    intro waiter member
    apply arrival_other
    exact if_neg (Ne.symm (notQueued waiter member))
  have cases : ∀ waiter ∈ after.slot.waiters,
      waiter =
          { priority := priority, seq := system.slot.seq, future := task } ∨
        waiter ∈ system.slot.waiters := by
    intro waiter member
    exact List.mem_cons.mp (pushed.mem_iff.mp member)
  exact
    { ordered := by
        rw [waiters]
        exact Heapq.heappush_ordered Waiter.before_strictWeak queue.ordered _
      fresh := by
        intro waiter member
        rw [seq]
        rcases cases waiter member with rfl | before
        · exact Nat.lt_succ_self _
        · exact Nat.lt_succ_of_lt (queue.fresh waiter before)
      sequences := by
        refine (pushed.map Waiter.seq).nodup_iff.mpr ?_
        rw [List.map_cons, List.nodup_cons]
        refine ⟨?_, queue.sequences⟩
        intro reused
        obtain ⟨waiter, member, same⟩ := List.mem_map.mp reused
        exact Nat.ne_of_lt (queue.fresh waiter member) same
      arrived := by
        intro waiter member
        rcases cases waiter member with rfl | before
        · exact ⟨labels.length, arrival_acquire labels task priority⟩
        · rw [old waiter before]
          exact queue.arrived waiter before
      inOrder := by
        intro first firstMember second secondMember earlier own other
          ownFound otherFound
        rcases cases first firstMember with rfl | firstBefore
        · rcases cases second secondMember with rfl | secondBefore
          · exact False.elim (Nat.lt_irrefl _ earlier)
          · have less := queue.fresh second secondBefore
            exact False.elim (Nat.lt_asymm earlier less)
        · rw [old first firstBefore] at ownFound
          rcases cases second secondMember with rfl | secondBefore
          · rw [arrival_acquire] at otherFound
            cases otherFound
            exact arrival_lt ownFound
          · rw [old second secondBefore] at otherFound
            exact queue.inOrder first firstBefore second secondBefore
              earlier own other ownFound otherFound }

theorem QueueOrdered.released (queue : QueueOrdered labels system)
    {action : SlotAction Task}
    (other : ∀ task, acquires task action = none) (task : Task)
    (slot : after.slot = (system.slot.setFuture task .absent).release) :
    QueueOrdered (labels ++ [action]) after := by
  refine queue.smaller other ?_ ?_ ?_
  · rw [slot, PrioritySlot.release_seq]
    rfl
  · rw [slot]
    exact PrioritySlot.release_ordered _ queue.ordered
  · rw [slot]
    exact PrioritySlot.release_waiters (system.slot.setFuture task .absent)

omit [DecidableEq Task] in
theorem OneOwner.not_queued (oneOwner : OneOwner system) {task : Task}
    (outside : system.callers task = .outside) :
    ∀ waiter ∈ system.slot.waiters, waiter.future ≠ task := by
  rintro waiter member rfl
  have waits := oneOwner.entriesWait waiter member
  simp [Waits, outside] at waits

theorem OneOwner.leave_slot (oneOwner : OneOwner system) {task : Task}
    (inside : system.callers task = .inside) :
    system.slot.setFuture task .absent = system.slot := by
  have absent : system.slot.futures task = .absent := by
    rcases oneOwner.agrees task with ⟨_, absent⟩ | waits | ⟨queued, _⟩
    · exact absent
    · simp [Waits, inside] at waits
    · simp [inside] at queued
  rw [PrioritySlot.setFuture, ← absent, Function.update_eq_self]

theorem QueueOrdered.step (queue : QueueOrdered labels system)
    (oneOwner : OneOwner system) {action : SlotAction Task}
    (taken : Step system action after) :
    QueueOrdered (labels ++ [action]) after := by
  obtain ⟨enabled, rfl⟩ := taken
  have same : ∃ gone, system.slot.waiters.Perm
      (gone ++ system.slot.waiters) := ⟨[], List.Perm.refl _⟩
  cases action with
  | acquire task priority =>
      by_cases busy : system.slot.busy ∨ system.slot.waiters ≠ []
      · apply queue.enqueue (oneOwner.not_queued enabled)
        · simp [next, setCaller, PrioritySlot.acquire, if_pos busy]
        · simp [next, setCaller, PrioritySlot.acquire, if_pos busy,
            PrioritySlot.setFuture]
      · have noneWaits : system.slot.waiters = [] := by
          by_contra someWait
          exact busy (Or.inr someWait)
        have noneAfter : (system.next
            (.acquire task priority)).slot.waiters = [] := by
          simp only [next, setCaller, PrioritySlot.acquire, if_neg busy]
          exact noneWaits
        exact
          { ordered := by
              rw [noneAfter]
              exact queueOrdered_start.ordered
            fresh := by simp [noneAfter]
            sequences := by simp [noneAfter]
            arrived := by simp [noneAfter]
            inOrder := by simp [noneAfter] }
  | resume task =>
      exact queue.smaller (fun _ => rfl) rfl queue.ordered same
  | leave task =>
      apply queue.released (fun _ => rfl) task
      rw [oneOwner.leave_slot enabled]
      rfl
  | cancel task =>
      refine queue.smaller (fun _ => rfl) ?_ ?_ ?_
      · simp only [next, setCaller, PrioritySlot.cancelFuture]
        split <;> rfl
      · simp only [next, setCaller, PrioritySlot.cancelFuture]
        split <;> exact queue.ordered
      · simp only [next, setCaller, PrioritySlot.cancelFuture]
        split <;> exact same
  | handleCancellation task =>
      by_cases resolved : system.slot.futures task = .resolved
      · apply queue.released (fun _ => rfl) task
        simp [next, setCaller, PrioritySlot.handleCancellation, resolved]
      · have slotAfter :
            (system.next (.handleCancellation task)).slot.waiters =
              Heapq.heapify Waiter.before (system.slot.waiters.filter
                (fun waiter => waiter.future ≠ task)) := by
          simp [next, setCaller, PrioritySlot.handleCancellation, resolved]
        refine queue.smaller (fun _ => rfl) ?_ ?_ ?_
        · simp only [next, setCaller, PrioritySlot.handleCancellation,
            if_neg resolved]
          rfl
        · rw [slotAfter]
          exact Heapq.heapify_ordered Waiter.before_strictWeak _
        · rw [slotAfter]
          refine ⟨system.slot.waiters.filter
            (fun waiter => !decide (waiter.future ≠ task)), ?_⟩
          refine List.Perm.trans ?_
            ((Heapq.heapify_perm Waiter.before _).symm.append_left _)
          exact (List.filter_append_perm _ _).symm.trans
            List.perm_append_comm

end Step

theorem queueOrdered_of_run {labels : List (SlotAction Task)}
    {system : SlotSystem Task} (run : Run Step {} labels system) :
    QueueOrdered labels system :=
  run.history queueOrdered_start
    (fun _ _ _ _ before queue taken =>
      queue.step (oneOwner_of_reachable before.reachable) taken)

section Service

variable {labels : List (SlotAction Task)} {system after : SlotSystem Task}
  (queue : QueueOrdered labels system) (oneOwner : OneOwner system)

include queue in
/-- The queue is in the order of priorities, and of arrivals among equals. -/
theorem QueueOrdered.sorted :
    system.slot.servingOrder.Pairwise (MoreUrgent labels) := by
  have popped :=
    Heapq.popAll_perm Waiter.before system.slot.waiters
  have notAfter := Heapq.popAll_sorted Waiter.before_strictWeak _
    queue.ordered
  have distinct : (Heapq.popAll Waiter.before system.slot.waiters).Pairwise
      (fun first second => first.seq ≠ second.seq) :=
    List.pairwise_map.mp ((popped.map Waiter.seq).nodup_iff.mpr
      queue.sequences)
  have urgent : (Heapq.popAll Waiter.before system.slot.waiters).Pairwise
      (fun first second =>
        MoreUrgent labels first.future second.future) := by
    refine (notAfter.and distinct).imp_of_mem ?_
    rintro first second firstMember secondMember ⟨notLater, different⟩
    have firstEntry := popped.mem_iff.mp firstMember
    have secondEntry := popped.mem_iff.mp secondMember
    obtain ⟨firstPosition, firstArrived⟩ := queue.arrived first firstEntry
    obtain ⟨secondPosition, secondArrived⟩ :=
      queue.arrived second secondEntry
    refine ⟨_, _, firstArrived, secondArrived, ?_⟩
    rw [Waiter.before_eq_false_iff] at notLater
    rw [Prod.lex_def]
    rcases notLater with smaller | ⟨equal, earlier⟩
    · exact Or.inl smaller
    · exact Or.inr ⟨equal.symm, queue.inOrder first firstEntry second
        secondEntry (lt_of_le_of_ne earlier different) _ _ firstArrived
        secondArrived⟩
  exact List.pairwise_map.mpr (urgent.filter _)

omit [DecidableEq Task] in
include oneOwner in
/-- The queue serves exactly the tasks whose futures are pending. -/
theorem OneOwner.mem_servingOrder_iff (task : Task) :
    task ∈ system.slot.servingOrder ↔
      system.slot.futures task = .pending := by
  rw [PrioritySlot.servingOrder, List.mem_map]
  constructor
  · rintro ⟨waiter, member, rfl⟩
    obtain ⟨entry, notDone⟩ :=
      (PrioritySlot.mem_queue_iff _ _).mp member
    rcases oneOwner.entriesWait waiter entry with
      ⟨_, pending⟩ | ⟨_, cancelled⟩
    · exact pending
    · rw [cancelled] at notDone
      cases notDone
  · intro pending
    obtain ⟨waiter, entry, rfl⟩ :=
      List.mem_map.mp (oneOwner.pendingEntry task pending)
    exact ⟨waiter, (PrioritySlot.mem_queue_iff _ _).mpr
      ⟨entry, by rw [pending]; rfl⟩, rfl⟩

include oneOwner in
/-- The owner has no entry, so the queue does not see its future change. -/
theorem OneOwner.leaving_queue {task : Task} (owner : Owner system task) :
    (system.slot.setFuture task .absent).queue = system.slot.queue := by
  apply PrioritySlot.queue_congr
  intro waiter member
  have different : waiter.future ≠ task := by
    rintro rfl
    exact (oneOwner.entriesWait waiter member).not_owner owner
  rw [Function.update_of_ne different]

include oneOwner in
/-- The owner gives the slot up: the first of the queue is served. -/
theorem OneOwner.release_serves {task served : Task}
    (owner : Owner system task)
    (notYet : system.slot.futures served ≠ .resolved)
    (handed : (system.slot.setFuture task .absent).release.futures served =
      .resolved) :
    system.slot.servingOrder = served ::
      (system.slot.setFuture task .absent).release.servingOrder := by
  have notBefore :
      (system.slot.setFuture task .absent).futures served ≠ .resolved := by
    by_cases same : served = task
    · rw [same, PrioritySlot.setFuture_futures, Function.update_self]
      exact nofun
    · rw [PrioritySlot.setFuture_futures, Function.update_of_ne same]
      exact notYet
  rcases PrioritySlot.release_queue (system.slot.setFuture task .absent)
      oneOwner.entriesUnique with
    ⟨_, _, futures⟩ | ⟨first, others, queue, queueAfter, futures⟩
  · rw [futures] at handed
    exact False.elim (notBefore handed)
  · have isFirst : served = first.future := by
      by_contra different
      rw [futures, Function.update_of_ne different] at handed
      exact notBefore handed
    rw [PrioritySlot.servingOrder, PrioritySlot.servingOrder, queueAfter,
      ← oneOwner.leaving_queue owner, queue, isFirst, List.map_cons]

include oneOwner in
/-- The owner gives the slot up: where somebody waits, the first of the queue
has it. -/
theorem OneOwner.release_first {task first : Task} {others : List Task}
    (owner : Owner system task)
    (waiting : system.slot.servingOrder = first :: others) :
    (system.slot.setFuture task .absent).release.futures first =
        .resolved ∧
      (system.slot.setFuture task .absent).release.servingOrder =
        others := by
  rw [PrioritySlot.servingOrder, ← oneOwner.leaving_queue owner] at waiting
  rcases PrioritySlot.release_queue (system.slot.setFuture task .absent)
      oneOwner.entriesUnique with
    ⟨none, _, _⟩ | ⟨waiter, later, queue, queueAfter, futures⟩
  · rw [none] at waiting
    cases waiting
  · rw [queue] at waiting
    cases waiting
    rw [PrioritySlot.servingOrder, queueAfter, futures]
    exact ⟨Function.update_self _ _ _, rfl⟩

include oneOwner in
/-- The owner gives the slot up: a waiter that is alone in the queue has
it. -/
theorem OneOwner.release_lone {task waiting : Task}
    (owner : Owner system task)
    (pending : system.slot.futures waiting = .pending)
    (alone : system.slot.waiters.length ≤ 1) :
    (system.slot.setFuture task .absent).release.futures waiting =
      .resolved := by
  have waits := (oneOwner.mem_servingOrder_iff waiting).mpr pending
  have short : system.slot.servingOrder.length ≤ 1 := by
    rw [PrioritySlot.servingOrder, List.length_map]
    refine le_trans (List.length_filter_le _ _) ?_
    rw [(Heapq.popAll_perm Waiter.before _).length_eq]
    exact alone
  obtain ⟨first, others, order⟩ :=
    List.exists_cons_of_ne_nil (List.ne_nil_of_mem waits)
  rw [order, List.length_cons] at short
  have noOther : others = [] :=
    List.eq_nil_of_length_eq_zero (by omega)
  rw [order, noOther, List.mem_singleton] at waits
  rw [waits]
  exact (oneOwner.release_first owner order).1

include oneOwner in
/-- Whoever is handed the slot was the first of the queue. -/
theorem OneOwner.handOver_first {action : SlotAction Task}
    (taken : Step system action after) {task : Task}
    (notYet : system.slot.futures task ≠ .resolved)
    (handed : after.slot.futures task = .resolved) :
    system.slot.servingOrder = task :: after.slot.servingOrder := by
  obtain ⟨enabled, rfl⟩ := taken
  have notSet : ∀ other state, state ≠ FutureState.resolved →
      Function.update system.slot.futures other state task ≠ .resolved := by
    intro other state notResolved
    by_cases same : task = other
    · rw [same, Function.update_self]
      exact notResolved
    · rw [Function.update_of_ne same]
      exact notYet
  cases action with
  | acquire other priority =>
      simp only [next, setCaller, PrioritySlot.acquire] at handed
      split at handed
      · exact False.elim (notSet other .pending (by simp) handed)
      · exact False.elim (notYet handed)
  | resume other =>
      exact False.elim (notSet other .absent (by simp) handed)
  | leave other =>
      have unchanged := oneOwner.leave_slot enabled
      have owner : Owner system other := Or.inl enabled
      have serves := oneOwner.release_serves owner notYet
      rw [unchanged] at serves
      exact serves handed
  | cancel other =>
      simp only [next, setCaller, PrioritySlot.cancelFuture] at handed
      split at handed
      · exact False.elim (notSet other .cancelled (by simp) handed)
      · exact False.elim (notYet handed)
  | handleCancellation other =>
      by_cases resolved : system.slot.futures other = .resolved
      · have owner : Owner system other := Or.inr ⟨Or.inr enabled, resolved⟩
        simp only [next, setCaller, PrioritySlot.handleCancellation,
          if_pos resolved] at handed ⊢
        exact oneOwner.release_serves owner notYet handed
      · simp only [next, setCaller, PrioritySlot.handleCancellation,
          if_neg resolved] at handed
        exact False.elim (notSet other .absent (by simp) handed)

include queue oneOwner in
/-- A cancelled waiter disappears from the queue, which stays in order. -/
theorem QueueOrdered.cancelled_removed {task : Task}
    {action : SlotAction Task} (taken : Step system action after)
    (cancels : action = .cancel task ∨ action = .handleCancellation task)
    (notHanded : system.slot.futures task ≠ .resolved) :
    after.slot.servingOrder =
      system.slot.servingOrder.filter (fun other => other ≠ task) := by
  obtain ⟨enabled, rfl⟩ := taken
  apply PrioritySlot.servingOrder_of_queue
  rcases cancels with rfl | rfl
  · have pending : system.slot.futures task = .pending := by
      have queued : system.callers task = .queued := enabled
      rcases oneOwner.agrees task with
        ⟨outside, _⟩ | (⟨_, pending⟩ | ⟨cancelling, _⟩) | ⟨_, resolved⟩
      · simp [queued] at outside
      · exact pending
      · simp [queued] at cancelling
      · exact False.elim (notHanded resolved)
    simp only [next, setCaller, PrioritySlot.cancelFuture, if_pos pending]
    exact PrioritySlot.queue_cancelled system.slot task
  · simp only [next, setCaller, PrioritySlot.handleCancellation,
      if_neg notHanded]
    exact PrioritySlot.queue_withdrawn queue.ordered queue.sequences task

omit queue [DecidableEq Task] in
include oneOwner in
theorem OneOwner.pending_queued {task : Task}
    (pending : system.slot.futures task = .pending) :
    system.callers task = .queued := by
  rcases oneOwner.agrees task with
    ⟨_, absent⟩ | (⟨queued, _⟩ | ⟨_, cancelled⟩) | ⟨_, resolved⟩
  · rw [pending] at absent
    cases absent
  · exact queued
  · rw [pending] at cancelled
    cases cancelled
  · rw [pending] at resolved
    cases resolved

omit queue oneOwner in
omit [DecidableEq Task] in
/-- A step of one task that owns as much as before leaves the owners. -/
theorem owners_of_others (acting : Task)
    (callers : ∀ other, other ≠ acting →
      after.callers other = system.callers other)
    (futures : ∀ other, other ≠ acting →
      after.slot.futures other = system.slot.futures other)
    (own : Owner after acting ↔ Owner system acting) (task : Task) :
    Owner after task ↔ Owner system task := by
  by_cases same : task = acting
  · rw [same]
    exact own
  · exact owner_congr (callers task same) (futures task same)

include oneOwner in
/-- An owner that is none any more has released the slot. -/
theorem OneOwner.gives_up {action : SlotAction Task}
    (taken : Step system action after) {task : Task}
    (owner : Owner system task) (gone : ¬ Owner after task) :
    after.slot = (system.slot.setFuture task .absent).release := by
  obtain ⟨enabled, rfl⟩ := taken
  cases action with
  | acquire other priority =>
      have outside : system.callers other = .outside := enabled
      have different : task ≠ other := by
        rintro rfl
        simp [Owner, outside] at owner
      refine False.elim (gone ((owner_congr ?_ ?_).mpr owner))
      · simp [next, setCaller, different]
      · simp only [next, setCaller, PrioritySlot.acquire]
        split <;> simp [different]
  | resume other =>
      refine False.elim (gone ?_)
      by_cases same : task = other
      · exact Or.inl (by simp [next, setCaller, same])
      · exact (owner_congr (by simp [next, setCaller, same])
          (by simp [next, setCaller, same])).mpr owner
  | leave other =>
      have same := oneOwner.ownerUnique task other owner (Or.inl enabled)
      rw [same, oneOwner.leave_slot enabled]
      rfl
  | cancel other =>
      have queued : system.callers other = .queued := enabled
      refine False.elim (gone ?_)
      by_cases same : task = other
      · subst same
        have resolved : system.slot.futures task = .resolved := by
          simpa [Owner, queued] using owner
        exact Or.inr ⟨Or.inr (by simp [next, setCaller]), by
          simp [next, setCaller, PrioritySlot.cancelFuture, resolved]⟩
      · refine (owner_congr (by simp [next, setCaller, same]) ?_).mpr owner
        simp only [next, setCaller, PrioritySlot.cancelFuture]
        split <;> simp [same]
  | handleCancellation other =>
      have cancelling : system.callers other = .cancelling := enabled
      by_cases resolved : system.slot.futures other = .resolved
      · have same := oneOwner.ownerUnique task other owner
          (Or.inr ⟨Or.inr cancelling, resolved⟩)
        simp only [next, setCaller, PrioritySlot.handleCancellation,
          if_pos resolved, same]
      · have different : task ≠ other := by
          rintro rfl
          simp [Owner, cancelling, resolved] at owner
        refine False.elim (gone ((owner_congr ?_ ?_).mpr owner))
        · simp [next, setCaller, different]
        · simp [next, setCaller, PrioritySlot.handleCancellation, resolved,
            different]

include oneOwner in
/-- A waiter that is alone in the queue goes on waiting until the owner gives
the slot up, and then has it. -/
theorem OneOwner.lone_step {action : SlotAction Task}
    (taken : Step system action after) {waiting : Task}
    (notCancelled : ∀ task, action ≠ .cancel task)
    (pending : system.slot.futures waiting = .pending)
    (alone : system.slot.waiters.length ≤ 1) :
    (after.slot.futures waiting = .pending ∧
        ∀ task, Owner after task ↔ Owner system task) ∨
      (after.slot.futures waiting = .resolved ∧
        ∃ owner, Owner system owner ∧ ¬ Owner after owner) := by
  have queued := oneOwner.pending_queued pending
  have outsideNotOwner : ∀ (state : SlotSystem Task) (task : Task),
      state.callers task = .outside → ¬ Owner state task := by
    intro state task outside owner
    simp [Owner, outside] at owner
  have busy : system.slot.busy = true := by
    obtain ⟨waiter, member, _⟩ :=
      List.mem_map.mp (oneOwner.pendingEntry waiting pending)
    exact oneOwner.waitersBusy (List.ne_nil_of_mem member)
  obtain ⟨enabled, rfl⟩ := taken
  cases action with
  | acquire task priority =>
      have outside : system.callers task = .outside := enabled
      have different : waiting ≠ task := by
        rintro rfl
        rw [queued] at outside
        cases outside
      left
      simp only [next, PrioritySlot.acquire, if_pos (Or.inl busy)]
      refine ⟨?_, owners_of_others task ?_ ?_ ?_⟩
      · simpa [setCaller, different] using pending
      · intro other notTask
        simp [setCaller, notTask]
      · intro other notTask
        simp [setCaller, notTask]
      · simp [Owner, setCaller, outside]
  | resume task =>
      have resolved := enabled.2
      have different : waiting ≠ task := by
        rintro rfl
        rw [pending] at resolved
        cases resolved
      have owner : Owner system task := Or.inr ⟨Or.inl enabled.1, resolved⟩
      left
      refine ⟨?_, owners_of_others task ?_ ?_ ?_⟩
      · simpa [next, setCaller, different] using pending
      · intro other notTask
        simp [next, setCaller, notTask]
      · intro other notTask
        simp [next, setCaller, notTask]
      · exact iff_of_true (Or.inl (by simp [next, setCaller])) owner
  | leave task =>
      have owner : Owner system task := Or.inl enabled
      have handed := oneOwner.release_lone owner pending alone
      rw [oneOwner.leave_slot enabled] at handed
      exact Or.inr ⟨handed, task, owner,
        outsideNotOwner _ task (by simp [next, setCaller])⟩
  | cancel task =>
      exact False.elim (notCancelled task rfl)
  | handleCancellation task =>
      have cancelling : system.callers task = .cancelling := enabled
      have left : (system.next (.handleCancellation task)).callers task =
          .outside := by
        simp [next, setCaller]
      by_cases resolved : system.slot.futures task = .resolved
      · have owner : Owner system task :=
          Or.inr ⟨Or.inr cancelling, resolved⟩
        have handed := oneOwner.release_lone owner pending alone
        refine Or.inr ⟨?_, task, owner, outsideNotOwner _ task left⟩
        simpa [next, setCaller, PrioritySlot.handleCancellation, resolved]
          using handed
      · have different : waiting ≠ task := by
          rintro rfl
          rw [queued] at cancelling
          cases cancelling
        have notOwner : ¬ Owner system task := by
          simp [Owner, cancelling, resolved]
        refine Or.inl ⟨?_, owners_of_others task ?_ ?_
          (iff_of_false (outsideNotOwner _ task left) notOwner)⟩
        · simpa [next, setCaller, PrioritySlot.handleCancellation, resolved,
            different] using pending
        · intro other notTask
          simp [next, setCaller, notTask]
        · intro other notTask
          simp [next, setCaller, PrioritySlot.handleCancellation, resolved,
            notTask]

end Service

/-- A task that was cancelled while it waited only leaves. -/
theorem cancelling_leaves {system after : SlotSystem Task}
    {action : SlotAction Task} {task : Task}
    (cancelling : system.callers task = .cancelling)
    (taken : Step system action after) :
    after.callers task = .cancelling ∨ after.callers task = .outside := by
  obtain ⟨enabled, rfl⟩ := taken
  have acting : ∀ other state (acted : system.callers other ≠ .cancelling),
      Function.update system.callers other state task = .cancelling := by
    intro other state acted
    by_cases same : task = other
    · rw [same] at cancelling
      exact False.elim (acted cancelling)
    · rw [Function.update_of_ne same]
      exact cancelling
  cases action with
  | acquire other priority =>
      exact Or.inl (acting other _ (by rw [enabled]; exact nofun))
  | resume other =>
      exact Or.inl (acting other _ (by rw [enabled.1]; exact nofun))
  | leave other =>
      exact Or.inl (acting other _ (by rw [enabled]; exact nofun))
  | cancel other =>
      exact Or.inl (acting other _ (by rw [enabled]; exact nofun))
  | handleCancellation other =>
      by_cases same : task = other
      · rw [same]
        exact Or.inr (Function.update_self _ _ _)
      · left
        simp only [next, setCaller]
        rw [Function.update_of_ne same]
        exact cancelling

/-- For any tasks and any order of acquiring, resuming, leaving and being
cancelled: the queue holds the tasks that are waiting, by priority and then by
arrival; when the owner gives the slot up and somebody waits, the first of the
queue is handed it; whoever is handed the slot was its first, more urgent than
every other waiting task; a cancelled waiter never gets in and, unless it was
handed the slot before, never has it; and a cancellation takes the task out of
the queue and leaves the others in order. -/
theorem mostUrgentServed {labels : List (SlotAction Task)}
    {system : SlotSystem Task} (run : Run Step {} labels system) :
    (∀ task, task ∈ system.slot.servingOrder ↔
      system.slot.futures task = .pending) ∧
    system.slot.servingOrder.Pairwise (MoreUrgent labels) ∧
    ∀ action after, Step system action after →
      (∀ owner, Owner system owner → ¬ Owner after owner →
        ∀ first others, system.slot.servingOrder = first :: others →
          after.slot.futures first = .resolved ∧ Owner after first ∧
            after.slot.servingOrder = others) ∧
      (∀ task, system.slot.futures task ≠ .resolved →
        after.slot.futures task = .resolved →
          system.slot.servingOrder = task :: after.slot.servingOrder ∧
          ∀ other, other ≠ task → system.slot.futures other = .pending →
            MoreUrgent labels task other) ∧
      (∀ task, system.callers task = .cancelling →
        (after.callers task = .cancelling ∨
          after.callers task = .outside) ∧
        (after.slot.futures task = .resolved →
          system.slot.futures task = .resolved)) ∧
      (∀ task, action = .cancel task ∨ action = .handleCancellation task →
        system.slot.futures task ≠ .resolved →
          after.slot.servingOrder = system.slot.servingOrder.filter
            (fun other => other ≠ task)) := by
  have queue := queueOrdered_of_run run
  have oneOwner := oneOwner_of_reachable run.reachable
  have members := fun task => oneOwner.mem_servingOrder_iff task
  refine ⟨members, queue.sorted, ?_⟩
  intro action after taken
  refine ⟨?_, ?_, ?_, ?_⟩
  · intro owner owns gone first others waiting
    obtain ⟨served, order⟩ := oneOwner.release_first owns waiting
    rw [← oneOwner.gives_up taken owns gone] at served order
    exact ⟨served,
      (oneOwner.step taken).owner_of_resolved served, order⟩
  · intro task notYet handed
    have first := oneOwner.handOver_first taken notYet handed
    refine ⟨first, ?_⟩
    intro other different pending
    have sorted := queue.sorted
    have waits := (members other).mpr pending
    rw [first] at sorted waits
    exact (List.pairwise_cons.mp sorted).1 other
      ((List.mem_cons.mp waits).resolve_left different)
  · intro task cancelling
    refine ⟨cancelling_leaves cancelling taken, ?_⟩
    intro handed
    by_contra notYet
    have first := oneOwner.handOver_first taken notYet handed
    have waits : task ∈ system.slot.servingOrder := by
      rw [first]
      exact List.mem_cons_self
    rcases oneOwner.agrees task with
      ⟨outside, _⟩ | (⟨queued, _⟩ | ⟨_, cancelled⟩) | ⟨_, resolved⟩
    · simp [cancelling] at outside
    · simp [cancelling] at queued
    · rw [(members task).mp waits] at cancelled
      cases cancelled
    · exact notYet resolved
  · intro task cancels notHanded
    exact queue.cancelled_removed oneOwner taken cancels notHanded

/-- The task inside leaves, and the more urgent of the waiting tasks that
arrived first has the slot.  It is cancelled before it resumes, and the next one
has it and enters, while the task that arrived before both still waits. -/
theorem mostUrgentServed_passedOn :
    ∃ handed gap passed entered : SlotSystem Nat,
      Step threeWaiting (.leave 0) handed ∧ Owner handed 2 ∧
      Step handed (.cancel 2) gap ∧
      Step gap (.handleCancellation 2) passed ∧ Owner passed 3 ∧
      MoreUrgent [.acquire 0 1, .acquire 1 1, .acquire 2 0, .acquire 3 0]
        2 3 ∧
      Step passed (.resume 3) entered ∧ entered.callers 3 = .inside ∧
      entered.slot.futures 1 = .pending := by
  let handed := threeWaiting.next (.leave 0)
  let gap := handed.next (.cancel 2)
  let passed := gap.next (.handleCancellation 2)
  have leaves : Step threeWaiting (.leave 0) handed :=
    ⟨by decide +kernel, rfl⟩
  have cancelled : Step handed (.cancel 2) gap := ⟨by decide +kernel, rfl⟩
  have passes : Step gap (.handleCancellation 2) passed :=
    ⟨by decide +kernel, rfl⟩
  have enters : Step passed (.resume 3) (passed.next (.resume 3)) :=
    ⟨by decide +kernel, rfl⟩
  have owned : Owner threeWaiting 0 := Or.inl (by decide +kernel)
  have left : ¬ Owner handed 0 := by
    have outside : handed.callers 0 = .outside := by decide +kernel
    simp [Owner, outside]
  obtain ⟨_, _, steps⟩ := mostUrgentServed threeWaiting_run
  have order : threeWaiting.slot.servingOrder = [2, 3, 1] := by
    decide +kernel
  have served := (steps _ _ leaves).1 0 owned left 2 [3, 1] order
  have urgent := ((steps _ _ leaves).2.1 2 (by decide +kernel)
    served.1).2 3 (by decide) (by decide +kernel)
  have run := (threeWaiting_run.snoc leaves).snoc cancelled
  have gapOwned : Owner gap 2 :=
    Or.inr ⟨Or.inr (by decide +kernel), by decide +kernel⟩
  have gapLeft : ¬ Owner passed 2 := by
    have outside : passed.callers 2 = .outside := by decide +kernel
    simp [Owner, outside]
  have again := ((mostUrgentServed run).2.2 _ _ passes).1 2 gapOwned gapLeft
    3 [1] (by decide +kernel)
  exact ⟨handed, gap, passed, _, leaves, served.2.1, cancelled, passes,
    again.2.1, urgent, enters, by decide +kernel, by decide +kernel⟩

end SlotSystem

end EmbeddingService
