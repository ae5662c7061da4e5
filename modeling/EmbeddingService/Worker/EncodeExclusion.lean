import EmbeddingService.Worker.Process

/-!
# One encode at a time

The slot alone does not exclude a second encode: cancelling a task that awaits
its thread releases the slot while the thread goes on.  What excludes it is
that the grace period cancels every task that could still take the slot.
-/

namespace EmbeddingService

open LabelledRuns

/-- Where a process stands with the slot, by its state. -/
def expectedCaller (graceExpired : Bool) : Option ProcessState → CallerState
  | some .queued => if graceExpired then .cancelling else .queued
  | some (.encoding _) => .inside
  | _ => .outside

/-- The state of a process, if there is one of that number. -/
def Worker.processState {Body : Type} (worker : Worker Body)
    (number : Nat) : Option ProcessState :=
  worker.processes[number]?.map Process.state

/-- The slot is used as the processes say, every running thread is awaited or
was orphaned by the end of the grace period, and at most one runs. -/
structure Exclusion {Body : Type} (worker : Worker Body) : Prop where
  slotReachable : Reachable SlotSystem.Step {} worker.slot
  callers : ∀ number, worker.slot.callers number =
    expectedCaller worker.graceExpired (worker.processState number)
  held : ∀ thread ∈ worker.threads,
    worker.processState thread.process = some (.encoding none) ∨
      worker.graceExpired = true ∧
        ∃ how, worker.processState thread.process = some (.ended how)
  alone : worker.threads.length ≤ 1

section Slot

variable {slot : SlotSystem Nat} {number other : Nat}

/-- The task an action is about. -/
def SlotAction.task {Task : Type} : SlotAction Task → Task
  | .acquire task _ => task
  | .resume task => task
  | .leave task => task
  | .cancel task => task
  | .handleCancellation task => task

/-- An action moves no other task. -/
theorem callers_next_of_ne {action : SlotAction Nat}
    (different : other ≠ action.task) :
    (slot.next action).callers other = slot.callers other := by
  cases action <;>
    exact Function.update_of_ne different _ _

theorem callers_resume :
    (slot.next (.resume number)).callers number = .inside := by
  simp [SlotSystem.next, SlotSystem.setCaller]

theorem callers_leave :
    (slot.next (.leave number)).callers number = .outside := by
  simp [SlotSystem.next, SlotSystem.setCaller]

theorem callers_cancel :
    (slot.next (.cancel number)).callers number = .cancelling := by
  simp [SlotSystem.next, SlotSystem.setCaller]

theorem callers_handleCancellation :
    (slot.next (.handleCancellation number)).callers number = .outside := by
  simp [SlotSystem.next, SlotSystem.setCaller]

theorem callers_acquire (priority : Int) :
    (slot.next (.acquire number priority)).callers number = .inside ∨
      (slot.next (.acquire number priority)).callers number = .queued := by
  simp only [SlotSystem.next, SlotSystem.setCaller, Function.update_self]
  split
  · exact Or.inl rfl
  · exact Or.inr rfl

end Slot

section Cancelling

variable {Body : Type}

theorem mem_queuedNumbers_iff (processes : List (Process Body))
    (number : Nat) :
    number ∈ Worker.queuedNumbers processes ↔
      processes[number]?.map Process.state = some .queued := by
  unfold Worker.queuedNumbers
  rw [List.mem_filter, List.mem_range]
  constructor
  · intro member
    cases found : processes[number]? with
    | none =>
        simp [found] at member
    | some process =>
        cases state : process.state <;>
          simp_all [ProcessState.isQueued]
  · intro queued
    obtain ⟨process, found, state⟩ := Option.map_eq_some_iff.mp queued
    refine ⟨(List.getElem?_eq_some_iff.mp found).1, ?_⟩
    simp [found, state, ProcessState.isQueued]

theorem queuedNumbers_nodup (processes : List (Process Body)) :
    (Worker.queuedNumbers processes).Nodup :=
  List.nodup_range.filter _

/-- Cancelling queued tasks moves exactly them, each by its own action. -/
theorem cancelQueued_spec (numbers : List Nat) :
    ∀ slot : SlotSystem Nat, numbers.Nodup →
      (∀ number ∈ numbers, slot.callers number = .queued) →
      Reachable SlotSystem.Step slot (Worker.cancelQueued slot numbers) ∧
        (∀ number ∈ numbers,
          (Worker.cancelQueued slot numbers).callers number =
            .cancelling) ∧
        ∀ number, number ∉ numbers →
          (Worker.cancelQueued slot numbers).callers number =
            slot.callers number := by
  induction numbers with
  | nil =>
      intro slot _ _
      exact ⟨Reachable.refl slot, by simp, fun _ _ => rfl⟩
  | cons first rest inductionHypothesis =>
      intro slot distinct queued
      obtain ⟨firstNew, restDistinct⟩ := List.nodup_cons.mp distinct
      have firstStep : SlotSystem.Step slot (.cancel first)
          (slot.next (.cancel first)) :=
        ⟨queued first List.mem_cons_self, rfl⟩
      have restQueued : ∀ number ∈ rest,
          (slot.next (.cancel first)).callers number = .queued := by
        intro number member
        have different : number ≠ first := by
          intro same
          rw [same] at member
          exact firstNew member
        rw [callers_next_of_ne different]
        exact queued number (List.mem_cons_of_mem first member)
      obtain ⟨reachable, moved, kept⟩ :=
        inductionHypothesis (slot.next (.cancel first)) restDistinct
          restQueued
      refine ⟨((Reachable.refl slot).tail firstStep).trans reachable, ?_, ?_⟩
      · intro number member
        rcases List.mem_cons.mp member with same | later
        · rw [same]
          exact (kept first firstNew).trans callers_cancel
        · exact moved number later
      · intro number absent
        rw [List.mem_cons, not_or] at absent
        exact (kept number absent.2).trans (callers_next_of_ne absent.1)

end Cancelling

section Updates

variable {Body : Type} {worker : Worker Body} {number : Nat}
  {process : Process Body}

theorem processState_of_found
    (found : worker.processes[number]? = some process) :
    worker.processState number = some process.state := by
  rw [Worker.processState, found]
  rfl

theorem processState_setProcess
    (found : worker.processes[number]? = some process)
    (updated : Process Body) (other : Nat) :
    (worker.setProcess number updated).processState other =
      if other = number then some updated.state
      else worker.processState other := by
  have inside : number < worker.processes.length :=
    (List.getElem?_eq_some_iff.mp found).1
  unfold Worker.processState Worker.setProcess
  rw [List.getElem?_set]
  by_cases same : number = other
  · subst same
    simp [inside]
  · simp [same, Ne.symm same]

/-- A process moves to another state, and the slot with it. -/
theorem Exclusion.setProcess (exclusion : Exclusion worker)
    (found : worker.processes[number]? = some process)
    {updated : Process Body} {slot : SlotSystem Nat}
    (slotReachable : Reachable SlotSystem.Step worker.slot slot)
    (others : ∀ other, other ≠ number →
      slot.callers other = worker.slot.callers other)
    (own : slot.callers number =
      expectedCaller worker.graceExpired (some updated.state))
    (unthreaded : (∀ thread ∈ worker.threads, thread.process ≠ number) ∨
      updated.state = .encoding none ∨
      worker.graceExpired = true ∧ ∃ how, updated.state = .ended how) :
    Exclusion
      ({ worker with slot := slot }.setProcess number updated) where
  slotReachable := exclusion.slotReachable.trans slotReachable
  callers := by
    intro other
    change slot.callers other = expectedCaller worker.graceExpired
      ((worker.setProcess number updated).processState other)
    rw [processState_setProcess found]
    by_cases same : other = number
    · rw [if_pos same, same]
      exact own
    · rw [if_neg same, others other same]
      exact exclusion.callers other
  held := by
    intro thread member
    change (worker.setProcess number updated).processState thread.process =
        some (.encoding none) ∨
      worker.graceExpired = true ∧
        ∃ how, (worker.setProcess number updated).processState
          thread.process = some (.ended how)
    rw [processState_setProcess found]
    by_cases same : thread.process = number
    · rw [if_pos same]
      rcases unthreaded with none | encoding | ⟨expired, how, ended⟩
      · exact False.elim (none thread member same)
      · exact Or.inl (congrArg some encoding)
      · exact Or.inr ⟨expired, how, congrArg some ended⟩
    · rw [if_neg same]
      exact exclusion.held thread member
  alone := exclusion.alone

/-- No thread runs for a process that neither awaits it nor is over. -/
theorem Exclusion.unthreaded (exclusion : Exclusion worker)
    (found : worker.processes[number]? = some process)
    (idle : process.state ≠ .encoding none)
    (unended : ∀ how, process.state ≠ .ended how) :
    ∀ thread ∈ worker.threads, thread.process ≠ number := by
  intro thread member same
  have held := exclusion.held thread member
  rw [same, processState_of_found found] at held
  rcases held with encoding | ⟨_, how, ended⟩
  · exact idle (Option.some.inj encoding)
  · exact unended how (Option.some.inj ended)

/-- A process that stays off the slot changes its state. -/
theorem Exclusion.setProcess_sameCaller (exclusion : Exclusion worker)
    (found : worker.processes[number]? = some process)
    {updated : Process Body}
    (same : expectedCaller worker.graceExpired (some updated.state) =
      expectedCaller worker.graceExpired (some process.state))
    (unthreaded : (∀ thread ∈ worker.threads, thread.process ≠ number) ∨
      updated.state = .encoding none ∨
      worker.graceExpired = true ∧ ∃ how, updated.state = .ended how) :
    Exclusion (worker.setProcess number updated) := by
  refine exclusion.setProcess found (Reachable.refl _) (fun _ _ => rfl) ?_
    unthreaded
  rw [same, exclusion.callers, processState_of_found found]

/-- The items of a process change. -/
theorem Exclusion.setItems (exclusion : Exclusion worker)
    (found : worker.processes[number]? = some process)
    {updated : Process Body} (same : updated.state = process.state) :
    Exclusion (worker.setProcess number updated) := by
  have states :
      (worker.setProcess number updated).processState =
        worker.processState := by
    funext other
    rw [processState_setProcess found, same]
    by_cases own : other = number
    · rw [if_pos own, own, processState_of_found found]
    · rw [if_neg own]
  exact
    { slotReachable := exclusion.slotReachable
      callers := by
        rw [states]
        exact exclusion.callers
      held := by
        rw [states]
        exact exclusion.held
      alone := exclusion.alone }

theorem Exclusion.setItem (exclusion : Exclusion worker)
    (found : worker.processes[number]? = some process) (position : Nat)
    (item : Item Body) :
    Exclusion (worker.setItem number process position item) :=
  exclusion.setItems found rfl

theorem processState_append (worker : Worker Body) (created : Process Body)
    (number : Nat) :
    ({ worker with processes := worker.processes ++ [created]
        }).processState number =
      if number = worker.processes.length then some created.state
      else worker.processState number := by
  unfold Worker.processState
  by_cases last : number = worker.processes.length
  · subst last
    simp
  · rw [if_neg last]
    rcases Nat.lt_or_gt_of_ne last with earlier | later
    · rw [List.getElem?_append_left earlier]
    · rw [List.getElem?_eq_none (by simp; omega),
        List.getElem?_eq_none (by omega)]

/-- A new task is created. -/
theorem Exclusion.create (exclusion : Exclusion worker)
    {created : Process Body} (state : created.state = .created) :
    Exclusion
      { worker with processes := worker.processes ++ [created] } where
  slotReachable := exclusion.slotReachable
  callers := by
    intro other
    rw [processState_append]
    by_cases last : other = worker.processes.length
    · have none : worker.processState other = none := by
        simp [Worker.processState, last]
      have outside := exclusion.callers other
      rw [none] at outside
      rw [if_pos last, state]
      exact outside
    · rw [if_neg last]
      exact exclusion.callers other
  held := by
    intro thread member
    rw [processState_append]
    by_cases last : thread.process = worker.processes.length
    · have none : worker.processState thread.process = none := by
        simp [Worker.processState, last]
      have held := exclusion.held thread member
      simp [none] at held
    · rw [if_neg last]
      exact exclusion.held thread member
  alone := exclusion.alone

/-- While nothing was cancelled, a process that gets the slot finds no thread
running. -/
theorem Exclusion.noThread (exclusion : Exclusion worker)
    (found : worker.processes[number]? = some process)
    (running : worker.graceExpired = false) {slot : SlotSystem Nat}
    (slotReachable : Reachable SlotSystem.Step worker.slot slot)
    (others : ∀ other, other ≠ number →
      slot.callers other = worker.slot.callers other)
    (inside : slot.callers number = .inside)
    (idle : process.state ≠ .encoding none) : worker.threads = [] := by
  have oneOwner := SlotSystem.oneOwner_of_reachable
    (exclusion.slotReachable.trans slotReachable)
  rw [List.eq_nil_iff_forall_not_mem]
  intro thread member
  rcases exclusion.held thread member with encoding | ⟨expired, _⟩
  · have different : thread.process ≠ number := by
      intro same
      rw [same, processState_of_found found] at encoding
      exact idle (Option.some.inj encoding)
    have alsoInside : slot.callers thread.process = .inside := by
      rw [others _ different, exclusion.callers, encoding]
      rfl
    exact different (oneOwner.ownerUnique thread.process number
      (Or.inl alsoInside) (Or.inl inside))
  · rw [running] at expired
    cases expired

/-- A process that stands off the slot asks for it. -/
theorem Exclusion.asks {environment : Environment Body}
    (exclusion : Exclusion worker)
    (found : worker.processes[number]? = some process)
    (running : worker.graceExpired = false)
    (outside : expectedCaller false (some process.state) = .outside) :
    Reachable SlotSystem.Step worker.slot
        (worker.askedSlot environment number process) ∧
      ∀ other, other ≠ number →
        (worker.askedSlot environment number process).callers other =
          worker.slot.callers other := by
  have callerOutside : worker.slot.callers number = .outside := by
    rw [exclusion.callers, processState_of_found found, running, outside]
  have asked : SlotSystem.Step worker.slot
      (.acquire number
        (laneSpecs environment.settings process.lane).priority)
      (worker.askedSlot environment number process) :=
    ⟨callerOutside, rfl⟩
  exact ⟨(Reachable.refl _).tail asked,
    fun other different => callers_next_of_ne different⟩

/-- A queued process whose future is resolved takes the slot. -/
theorem Exclusion.enters (exclusion : Exclusion worker)
    (found : worker.processes[number]? = some process)
    (state : process.state = .queued)
    (running : worker.graceExpired = false)
    (resolved : worker.slot.slot.futures number = .resolved) :
    Reachable SlotSystem.Step worker.slot
        (worker.slot.next (.resume number)) ∧
      ∀ other, other ≠ number →
        (worker.slot.next (.resume number)).callers other =
          worker.slot.callers other := by
  have queued : worker.slot.callers number = .queued := by
    rw [exclusion.callers, processState_of_found found, running, state]
    rfl
  have entered : SlotSystem.Step worker.slot (.resume number)
      (worker.slot.next (.resume number)) :=
    ⟨⟨queued, resolved⟩, rfl⟩
  exact ⟨(Reachable.refl _).tail entered,
    fun other different => callers_next_of_ne different⟩

/-- A process takes the slot and starts its thread. -/
theorem Exclusion.startEncode {environment : Environment Body}
    (exclusion : Exclusion worker)
    (found : worker.processes[number]? = some process)
    (noThread : worker.threads = [])
    {started : Process Body} {slot : SlotSystem Nat}
    (slotReachable : Reachable SlotSystem.Step worker.slot slot)
    (others : ∀ other, other ≠ number →
      slot.callers other = worker.slot.callers other)
    (inside : slot.callers number = .inside) (now : Instant) :
    Exclusion ({ worker with slot := slot }.startEncode environment number
      started now) := by
  exact
    { slotReachable := exclusion.slotReachable.trans slotReachable
      callers := by
        intro other
        change slot.callers other = expectedCaller worker.graceExpired
          ((worker.setProcess number
            { started with state := .encoding none }).processState other)
        rw [processState_setProcess found]
        by_cases same : other = number
        · rw [if_pos same, same]
          exact inside
        · rw [if_neg same, others other same]
          exact exclusion.callers other
      held := by
        intro thread member
        change thread ∈ worker.threads ++ _ at member
        rw [noThread, List.nil_append, List.mem_singleton] at member
        left
        change (worker.setProcess number
          { started with state := .encoding none }).processState
            thread.process = _
        rw [processState_setProcess found, member]
        simp
      alone := by
        change (worker.threads ++ _).length ≤ 1
        simp [noThread] }

end Updates

section Steps

variable {Body : Type} {environment : Environment Body}
  {worker : Worker Body} {number : Nat} {process : Process Body}

/-- `_process` up to its next await, as long as nothing was cancelled. -/
theorem Exclusion.runProcess (exclusion : Exclusion worker)
    (found : worker.processes[number]? = some process)
    (running : worker.graceExpired = false)
    (outside : expectedCaller false (some process.state) = .outside)
    (unended : ∀ how, process.state ≠ .ended how)
    (readings : Nat → Instant) (now : Instant) :
    Exclusion
      (worker.runProcess environment number process readings now) := by
  have idle : process.state ≠ .encoding none := by
    intro encoding
    rw [encoding] at outside
    cases outside
  have unthreaded := exclusion.unthreaded found idle unended
  obtain ⟨askedReachable, askedOthers⟩ :
      Reachable SlotSystem.Step worker.slot
          (worker.askedSlot environment number process) ∧
        ∀ other, other ≠ number →
          (worker.askedSlot environment number process).callers other =
            worker.slot.callers other :=
    exclusion.asks found running outside
  have runs :=
    runProcess_runs environment worker number process readings now
  generalize worker.runProcess environment number process readings now =
    result at runs
  cases runs with
  | expires split unchecked late =>
      have recorded : ∀ events, Exclusion (worker.record events) := by
        intro events
        exact ⟨exclusion.slotReachable, exclusion.callers, exclusion.held,
          exclusion.alone⟩
      refine (recorded _).setProcess_sameCaller found ?_
        (Or.inl unthreaded)
      change expectedCaller worker.graceExpired _ =
        expectedCaller worker.graceExpired _
      rw [running, outside]
      rfl
  | ends nothingLive =>
      refine exclusion.setProcess_sameCaller found ?_ (Or.inl unthreaded)
      rw [running, outside]
      rfl
  | enters someLive inside =>
      have noThread := exclusion.noThread found running askedReachable
        askedOthers inside idle
      exact exclusion.startEncode found noThread askedReachable askedOthers
        inside now
  | queues someLive notInside =>
      refine exclusion.setProcess found askedReachable askedOthers ?_
        (Or.inl unthreaded)
      rw [running]
      exact (callers_acquire _).resolve_left notInside

/-- `_expire` got its answer; `_process` stays off the slot. -/
theorem Exclusion.answeredExpiry (exclusion : Exclusion worker)
    (found : worker.processes[number]? = some process)
    (unthreaded : ∀ thread ∈ worker.threads, thread.process ≠ number)
    {position : Nat} {item : Item Body}
    (segment : Segment Body (Settling Body)) :
    Exclusion
      (worker.answeredExpiry number process position item segment) := by
  have recorded : Exclusion (worker.record segment.2) :=
    ⟨exclusion.slotReachable, exclusion.callers, exclusion.held,
      exclusion.alone⟩
  exact recorded.setProcess_sameCaller found rfl (Or.inl unthreaded)

/-- A settlement that ends well was not answered by a cancellation. -/
theorem not_graceExpired_of_returned {settling : Settling Body}
    {call : BrokerCall} {how : Ending} {lane : LaneName}
    {message : Message Body} (awaited : settling.call? = some call)
    (running : how = .cancelled ↔ worker.graceExpired = true)
    (returned : (settling.resume lane message how).1 = .ended .returned) :
    worker.graceExpired = false := by
  have same := resume_ended awaited returned
  cases expired : worker.graceExpired with
  | false =>
      rfl
  | true =>
      rw [running.mpr expired] at same
      cases same

theorem Exclusion.answerExpiry (exclusion : Exclusion worker)
    (found : worker.processes[number]? = some process) {position : Nat}
    (state : process.state = .expiring position) {item : Item Body}
    {settling : Settling Body} {call : BrokerCall} {how : Ending}
    (awaited : settling.call? = some call)
    (running : how = .cancelled ↔ worker.graceExpired = true)
    (readings : Nat → Instant) (now : Instant) :
    Exclusion (worker.answerExpiry environment number process position item
      settling how readings now) := by
  have unthreaded := exclusion.unthreaded found (by simp [state])
    (by simp [state])
  have answered : ∀ segment, Exclusion
      (worker.answeredExpiry number process position item segment) :=
    fun segment => exclusion.answeredExpiry found unthreaded segment
  have foundAfter := answeredExpiry_found found position item
    (settling.resume process.lane item.delivery.message how)
  have answers := answerExpiry_answers environment worker number process
    position item settling how readings now
  generalize worker.answerExpiry environment number process position item
    settling how readings now = result at answers
  cases answers with
  | continues returned =>
      have notExpired := not_graceExpired_of_returned awaited running
        returned
      exact (answered _).runProcess foundAfter notExpired
        (by simp [state, expectedCaller]) (by simp [state]) readings now
  | leaves failed ended =>
      refine (answered _).setProcess_sameCaller foundAfter ?_
        (Or.inl unthreaded)
      simp [state, expectedCaller]
  | awaits pending =>
      exact answered _

/-- A step that leaves the tasks, the threads and the slot alone. -/
theorem Exclusion.same (exclusion : Exclusion worker)
    {after : Worker Body} (slot : after.slot = worker.slot)
    (processes : after.processes = worker.processes)
    (threads : after.threads = worker.threads)
    (graceExpired : after.graceExpired = worker.graceExpired) :
    Exclusion after := by
  have states : after.processState = worker.processState := by
    funext number
    rw [Worker.processState, processes, Worker.processState]
  exact
    { slotReachable := by
        rw [slot]
        exact exclusion.slotReachable
      callers := by
        rw [slot, graceExpired, states]
        exact exclusion.callers
      held := by
        rw [threads, graceExpired, states]
        exact exclusion.held
      alone := by
        rw [threads]
        exact exclusion.alone }

theorem Exclusion.enterSlot (exclusion : Exclusion worker)
    (found : worker.processes[number]? = some process)
    (state : process.state = .queued)
    (running : worker.graceExpired = false)
    (resolved : worker.slot.slot.futures number = .resolved)
    (now : Instant) :
    Exclusion (worker.enterSlot environment number process now) := by
  obtain ⟨reachable, others⟩ :=
    exclusion.enters found state running resolved
  have noThread := exclusion.noThread found running reachable others
    callers_resume (by simp [state])
  exact exclusion.startEncode found noThread reachable others callers_resume
    now

theorem Exclusion.collectOutcomes (exclusion : Exclusion worker)
    (found : worker.processes[number]? = some process)
    {outcomes : List Outcome}
    (state : process.state = .encoding (some outcomes)) :
    Exclusion (worker.collectOutcomes number process outcomes) := by
  have inside : worker.slot.callers number = .inside := by
    rw [exclusion.callers, processState_of_found found, state]
    rfl
  have left : SlotSystem.Step worker.slot (.leave number)
      (worker.slot.next (.leave number)) :=
    ⟨inside, rfl⟩
  exact exclusion.setProcess found ((Reachable.refl _).tail left)
    (fun other different => callers_next_of_ne different) callers_leave
    (Or.inl (exclusion.unthreaded found (by simp [state])
      (by simp [state])))

theorem Exclusion.cancelProcess (exclusion : Exclusion worker)
    (found : worker.processes[number]? = some process)
    (state : process.state = .created ∨ process.state = .queued ∨
      ∃ outcomes, process.state = .encoding outcomes)
    (cancelled : worker.graceExpired = true) :
    Exclusion
      ({ worker with
          slot := Worker.cancelledSlot worker.slot number process.state
        }.endProcess number process .cancelled) := by
  have caller := exclusion.callers number
  rw [processState_of_found found, cancelled] at caller
  refine exclusion.setProcess found ?_ ?_ ?_
    (Or.inr (Or.inr ⟨cancelled, .cancelled, rfl⟩))
  · rcases state with created | queued | ⟨outcomes, encoding⟩
    · rw [created]
      exact Reachable.refl _
    · rw [queued] at caller ⊢
      have handled : SlotSystem.Step worker.slot
          (.handleCancellation number)
          (worker.slot.next (.handleCancellation number)) :=
        ⟨caller, rfl⟩
      exact (Reachable.refl _).tail handled
    · rw [encoding] at caller ⊢
      have left : SlotSystem.Step worker.slot (.leave number)
          (worker.slot.next (.leave number)) :=
        ⟨caller, rfl⟩
      exact (Reachable.refl _).tail left
  · intro other different
    rcases state with created | queued | ⟨outcomes, encoding⟩
    · rw [created]
      rfl
    · rw [queued]
      have kept :
          (worker.slot.next (.handleCancellation number)).callers other =
            worker.slot.callers other :=
        callers_next_of_ne different
      exact kept
    · rw [encoding]
      have kept :
          (worker.slot.next (.leave number)).callers other =
            worker.slot.callers other :=
        callers_next_of_ne different
      exact kept
  · rcases state with created | queued | ⟨outcomes, encoding⟩
    · rw [created] at caller ⊢
      exact caller
    · rw [queued]
      exact callers_handleCancellation
    · rw [encoding]
      exact callers_leave

theorem Exclusion.graceOver (exclusion : Exclusion worker)
    (running : worker.graceExpired = false) :
    Exclusion worker.graceOver := by
  have queued : ∀ number ∈ Worker.queuedNumbers worker.processes,
      worker.slot.callers number = .queued := by
    intro number member
    have state := (mem_queuedNumbers_iff _ number).mp member
    rw [exclusion.callers, Worker.processState, state, running]
    rfl
  obtain ⟨reachable, moved, kept⟩ :=
    cancelQueued_spec _ worker.slot (queuedNumbers_nodup _) queued
  exact
    { slotReachable := exclusion.slotReachable.trans reachable
      callers := by
        intro number
        change (Worker.cancelQueued worker.slot
          (Worker.queuedNumbers worker.processes)).callers number =
            expectedCaller true (worker.processState number)
        by_cases member : number ∈ Worker.queuedNumbers worker.processes
        · have state := (mem_queuedNumbers_iff _ number).mp member
          rw [moved number member, Worker.processState, state]
          rfl
        · rw [kept number member, exclusion.callers]
          have notQueued : worker.processState number ≠ some .queued := by
            intro state
            exact member ((mem_queuedNumbers_iff _ number).mpr state)
          cases state : worker.processState number with
          | none =>
              rfl
          | some other =>
              rw [state] at notQueued
              cases other <;> simp_all [expectedCaller]
      held := by
        intro thread member
        rcases exclusion.held thread member with encoding | ⟨expired, _⟩
        · exact Or.inl encoding
        · rw [running] at expired
          cases expired
      alone := exclusion.alone }

/-- No thread is left when one ends. -/
theorem Exclusion.noneLeft (exclusion : Exclusion worker)
    {position : Nat} {thread : EncodeThread}
    (found : worker.threads[position]? = some thread) :
    worker.threads.eraseIdx position = [] := by
  have inside := (List.getElem?_eq_some_iff.mp found).1
  apply List.eq_nil_of_length_eq_zero
  rw [List.length_eraseIdx, if_pos inside]
  have alone := exclusion.alone
  omega

theorem Exclusion.endThread (exclusion : Exclusion worker)
    {position : Nat} {thread : EncodeThread}
    (found : worker.threads[position]? = some thread)
    (outcomes : List Outcome) :
    Exclusion (worker.endThread position thread outcomes) := by
  have noneLeft := exclusion.noneLeft found
  have ended : Exclusion
      { worker with threads := worker.threads.eraseIdx position } :=
    { slotReachable := exclusion.slotReachable
      callers := exclusion.callers
      held := by
        rw [noneLeft]
        simp
      alone := by
        rw [noneLeft]
        exact Nat.zero_le 1 }
  unfold Worker.endThread
  dsimp only
  split
  · next process processFound =>
      split
      · next encoding =>
          refine ended.setProcess_sameCaller processFound ?_ (Or.inl ?_)
          · rw [encoding]
            rfl
          · intro other member
            rw [noneLeft] at member
            cases member
      · exact ended
  · exact ended

theorem Exclusion.engineReplies (exclusion : Exclusion worker)
    {position : Nat} {thread : EncodeThread}
    (found : worker.threads[position]? = some thread)
    (program : EncodeProgram (List Outcome)) :
    Exclusion
      { worker with
        threads := worker.threads.set position
          { thread with program := program } } where
  slotReachable := exclusion.slotReachable
  callers := exclusion.callers
  held := by
    intro other member
    rcases List.mem_or_eq_of_mem_set member with old | new
    · exact exclusion.held other old
    · rw [new]
      exact exclusion.held thread (List.mem_of_getElem? found)
  alone := by
    rw [List.length_set]
    exact exclusion.alone

/-- Every step keeps at most one encode running. -/
theorem Exclusion.step (exclusion : Exclusion worker)
    {action : WorkerAction Body} {after : Worker Body}
    (taken : WorkerStep environment worker action after) :
    Exclusion after := by
  cases taken with
  | receive consuming connected fresh =>
      unfold Worker.receive
      dsimp only
      split <;> exact exclusion.same rfl rfl rfl rfl
  | takeBatch loop running ready =>
      exact (exclusion.create rfl).same rfl rfl rfl rfl
  | startProcess found state running =>
      exact exclusion.runProcess found running (by simp [state, expectedCaller])
        (by simp [state]) _ _
  | answerExpiry found state itemFound itemState awaited running =>
      exact exclusion.answerExpiry found state awaited running _ _
  | enterSlot found state running resolved =>
      exact exclusion.enterSlot found state running resolved _
  | engineReplies found calls =>
      exact exclusion.engineReplies found _
  | endThread found finished =>
      exact exclusion.endThread found _
  | collectOutcomes found state running =>
      exact exclusion.collectOutcomes found state
  | startFinish found itemFound itemState running =>
      exact (exclusion.setItem found _ _).same rfl rfl rfl rfl
  | answerFinish found itemFound itemState awaited running cancelled =>
      exact (exclusion.setItem found _ _).same rfl rfl rfl rfl
  | cancelFinish found itemFound itemState cancelled =>
      exact exclusion.setItem found _ _
  | endGather found state finished =>
      exact exclusion.setProcess_sameCaller found (by rw [state]; rfl)
        (Or.inl (exclusion.unthreaded found (by simp [state])
          (by simp [state])))
  | cancelProcess found state cancelled =>
      exact exclusion.cancelProcess found state cancelled
  | graceOver timed running =>
      exact exclusion.graceOver running
  | drainBatch draining =>
      exact (exclusion.create rfl).same rfl rfl rfl rfl
  | drainedBatch draining found state =>
      unfold Worker.drainedBatch
      split <;> exact exclusion.same rfl rfl rfl rfl
  | _ =>
      exact exclusion.same rfl rfl rfl rfl

theorem exclusion_start (workerId : PyStr) (lanes : List LaneName) :
    Exclusion (Worker.start Body workerId lanes) where
  slotReachable := Reachable.refl _
  callers := fun _ => rfl
  held := by
    intro thread member
    cases member
  alone := Nat.zero_le 1

theorem exclusion_of_reachable {workerId : PyStr} {lanes : List LaneName}
    (reachable : Reachable (WorkerStep environment)
      (Worker.start Body workerId lanes) worker) :
    Exclusion worker :=
  reachable.invariant (exclusion_start workerId lanes)
    (fun _ _ _ exclusion taken => exclusion.step taken)

/-- In every run, a thread that calls the engine is the only one running, and
a thread starts only when none runs, whatever was cancelled before. -/
theorem encodesExclude {workerId : PyStr} {lanes : List LaneName}
    (reachable : Reachable (WorkerStep environment)
      (Worker.start Body workerId lanes) worker) :
    (∀ thread ∈ worker.threads, ∀ request : EncodeCall,
      thread.program.request? = some request →
        worker.threads = [thread]) ∧
      ∀ action after, WorkerStep environment worker action after →
        worker.threads.length < after.threads.length →
          worker.threads = [] := by
  have exclusion := exclusion_of_reachable reachable
  constructor
  · intro thread member request calls
    obtain ⟨only, threads⟩ :=
      List.length_eq_one_iff.mp
        (Nat.le_antisymm exclusion.alone (List.length_pos_of_mem member))
    rw [threads] at member ⊢
    rw [List.mem_singleton.mp member]
  · intro action after taken started
    have alone := (exclusion.step taken).alone
    exact List.eq_nil_of_length_eq_zero (by omega)

end Steps

/-- Bodies that are decoded already, and batches of one text. -/
def sampleEnvironment : Environment Json where
  settings := .oneText
  schemaSettings := .defaults
  python :=
    { boolOf := fun value =>
        match value with
        | .bool flag => .ok flag
        | _ => .error (pyStr "Input should be a valid boolean")
      intOf := fun value =>
        match value with
        | .int number => .ok number
        | _ => .error (pyStr "Input should be a valid integer")
      datetimeOf := fun value =>
        match value with
        | .int instant => .ok { wall := instant, offset := some 0 }
        | _ => .error (pyStr "Input should be a valid datetime")
      dumpedSize := fun _ => some 2
      loads := fun body => .value body
      strOf := fun _ => some (pyStr "1") }
  engine := { modelName := pyStr "model", dimensions := 0 }
  dumpResult := fun result =>
    some (.dict [(pyStr "job_id", .str result.jobId)])

/-- A job of one text with a deadline at the instant 10. -/
def sampleMessage (tag : Nat) : Message Json where
  tag := tag
  body := .dict [(pyStr "input", .str (pyStr "text")),
    (pyStr "deadline", .int 10)]
  messageId := some (pyStr "job")
  replyTo := some (pyStr "replies")

/-- The thread of a batch that the grace period cancelled still counts. -/
theorem encodesExclude_orphanedThread :
    ∃ worker : Worker Json, worker.slot.callers 0 = .outside ∧
      worker.threads.length = 1 ∧
      (∀ thread ∈ worker.threads, ∀ request : EncodeCall,
        thread.program.request? = some request →
          worker.threads = [thread]) ∧
      ∀ action after, WorkerStep sampleEnvironment worker action after →
        worker.threads.length < after.threads.length →
          worker.threads = [] := by
  have taken :=
    ((((Reachable.refl (Worker.start Json (pyStr "worker") [.query])).tail
      (.consume rfl)).tail (.startLoop rfl rfl)).tail
      (@WorkerStep.receive Json sampleEnvironment _ .query
        (sampleMessage 0) [] 0 0 rfl rfl
        (fun _ member => nomatch member))).tail
      (@WorkerStep.takeBatch Json sampleEnvironment _ .query 0 _ _ rfl rfl
        rfl)
  have encoding := taken.tail
    (@WorkerStep.startProcess Json sampleEnvironment _ 0 _ (fun _ => 0) 0
      rfl rfl rfl)
  have joined := (((encoding.tail (.beginShutdown (Or.inr ⟨_, rfl⟩))).tail
    (.consumersCancelled rfl)).tail
    (@WorkerStep.cancelLoop Json sampleEnvironment _ .query rfl
      LoopState.noConfusion)).tail
    (.loopsJoined rfl (fun lane => by
      cases lane with
      | query =>
          exact Or.inr rfl
      | index =>
          exact Or.inl rfl))
  have cancelled := (joined.tail (.graceOver (Or.inl rfl) rfl)).tail
    (@WorkerStep.cancelProcess Json sampleEnvironment _ 0 _ rfl
      (Or.inr (Or.inr ⟨_, rfl⟩)) rfl)
  exact ⟨_, rfl, rfl, encodesExclude cancelled⟩

end EmbeddingService
