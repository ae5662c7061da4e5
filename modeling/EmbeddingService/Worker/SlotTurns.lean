import EmbeddingService.Batcher.SlotOrder
import EmbeddingService.Worker.Drain

/-!
# Waiting for the slot

A lane loop awaits the batch it started, and the drain processes one batch at
a time after those in flight.  So each lane has one batch in process at most,
and a batch that waits for the slot waits for one encode.
-/

namespace EmbeddingService

open LabelledRuns

/-- `parse_lanes`, on names of lanes: each once, in the order of first
mention. -/
def parseLanes (names : List LaneName) : List LaneName :=
  names.foldl
    (fun lanes name => if name ∈ lanes then lanes else lanes ++ [name]) []

theorem parseLanes_nodup (names : List LaneName) :
    (parseLanes names).Nodup := by
  have grows : ∀ lanes : List LaneName, lanes.Nodup →
      (names.foldl (fun lanes name =>
        if name ∈ lanes then lanes else lanes ++ [name]) lanes).Nodup := by
    induction names with
    | nil =>
        intro lanes nodup
        exact nodup
    | cons name rest inductionHypothesis =>
        intro lanes nodup
        apply inductionHypothesis
        dsimp only
        split
        · exact nodup
        · next new =>
            exact List.Nodup.append nodup (List.nodup_singleton name)
              (by simpa using new)
  exact grows [] List.nodup_nil

section Lanes

variable {Body : Type} {environment : Environment Body}
  {worker after : Worker Body} {number : Nat} {lane : LaneName}

/-- A `_process` of a lane is not over. -/
def Worker.InProgress (worker : Worker Body) (number : Nat)
    (lane : LaneName) : Prop :=
  ∃ process, worker.processes[number]? = some process ∧
    process.lane = lane ∧ process.state.isEnded = false

/-- What is in process while `_shutdown` drains, and after. -/
def DrainAlone (worker : Worker Body) : Prop :=
  match worker.main with
  | .draining current _ _ =>
      ∀ number lane, worker.InProgress number lane → current = some number
  | .closing => ∀ number lane, ¬ worker.InProgress number lane
  | .closed => ∀ number lane, ¬ worker.InProgress number lane
  | .failed => ∀ number lane, ¬ worker.InProgress number lane
  | _ => True

/-- Every lane has one `_process` at most: the one its loop awaits, until
`_shutdown` cancels the loops. -/
structure OnePerLane (worker : Worker Body) : Prop where
  unique : ∀ first second lane, worker.InProgress first lane →
    worker.InProgress second lane → first = second
  awaited : worker.main.loopsCancelled = false →
    ∀ number lane, worker.InProgress number lane →
      (worker.lane lane).loop = .awaiting number
  unstarted : ∀ lanes, worker.main = .starting lanes →
    lanes.Nodup ∧ ∀ lane ∈ lanes, (worker.lane lane).loop = .absent
  drain : DrainAlone worker

/-- Before the loops are cancelled, nothing drains. -/
theorem drainAlone_early (early : worker.main.loopsCancelled = false) :
    DrainAlone worker := by
  unfold DrainAlone
  cases stage : worker.main <;> rw [stage] at early
  case draining => cases early
  case closing => cases early
  case closed => cases early
  case failed => cases early
  all_goals exact trivial

theorem onePerLane_start (workerId : PyStr) (names : List LaneName) :
    OnePerLane (Worker.start Body workerId (parseLanes names)) where
  unique := by
    rintro first second lane ⟨process, found, _⟩
    cases found
  awaited := by
    rintro _ number lane ⟨process, found, _⟩
    cases found
  unstarted := by
    intro lanes starting
    cases starting
    exact ⟨parseLanes_nodup names, fun _ _ => rfl⟩
  drain := trivial

theorem inProgress_of_processes (processes : after.processes =
      worker.processes) :
    after.InProgress number lane ↔ worker.InProgress number lane := by
  unfold Worker.InProgress
  rw [processes]

/-- A step of a batch task starts no batch. -/
theorem inProgress_batch {action : WorkerAction Body}
    (batch : action.IsBatch)
    (taken : WorkerStep environment worker action after)
    (runs : after.InProgress number lane) :
    worker.InProgress number lane := by
  obtain ⟨process, found, sameLane, unended⟩ := runs
  rcases step_isBatch batch taken with ⟨threads, same⟩ | ⟨acting, batchStep⟩
  · rw [same] at found
    exact ⟨process, found, sameLane, unended⟩
  · obtain ⟨before, updated, beforeFound, ended, processes⟩ :=
      batchStep.processes
    by_cases same : number = acting
    · subst same
      have known : worker.task? number = some before.task := by
        rw [Worker.task?, beforeFound]
        rfl
      have kept := task_step known taken
      rw [Worker.task?, found] at kept
      have lanes : process.lane = before.lane :=
        congrArg Prod.fst (Option.some.inj kept)
      have isUpdated : process = updated := by
        have inside := (List.getElem?_eq_some_iff.mp beforeFound).1
        rw [processes, List.getElem?_set_self inside] at found
        exact (Option.some.inj found).symm
      refine ⟨before, beforeFound, lanes.symm.trans sameLane, ?_⟩
      cases wasOver : before.state.isEnded with
      | false =>
          rfl
      | true =>
          rw [isUpdated, ended wasOver, wasOver] at unended
          cases unended
    · rw [processes, List.getElem?_set_ne (Ne.symm same)] at found
      exact ⟨process, found, sameLane, unended⟩

theorem inProgress_append (created : Process Body)
    (processes : after.processes = worker.processes ++ [created])
    (runs : after.InProgress number lane) :
    worker.InProgress number lane ∨
      number = worker.processes.length ∧ created.lane = lane := by
  obtain ⟨process, found, sameLane, unended⟩ := runs
  rw [processes] at found
  rcases ListUpdate.found_concat found with before | ⟨last, rfl⟩
  · exact Or.inl ⟨process, before, sameLane, unended⟩
  · exact Or.inr ⟨last, sameLane⟩

/-- A step that starts nothing and leaves loops and stage alone. -/
theorem OnePerLane.keep (one : OnePerLane worker)
    (runs : ∀ number lane, after.InProgress number lane →
      worker.InProgress number lane)
    (loops : ∀ lane, (after.lane lane).loop = (worker.lane lane).loop)
    (main : after.main = worker.main) : OnePerLane after where
  unique := fun first second lane firstRuns secondRuns =>
    one.unique first second lane (runs _ _ firstRuns) (runs _ _ secondRuns)
  awaited := by
    intro early number lane running
    rw [loops]
    rw [main] at early
    exact one.awaited early number lane (runs _ _ running)
  unstarted := by
    intro lanes starting
    rw [main] at starting
    obtain ⟨nodup, absent⟩ := one.unstarted lanes starting
    refine ⟨nodup, fun lane member => ?_⟩
    rw [loops]
    exact absent lane member
  drain := by
    have drain := one.drain
    unfold DrainAlone at drain ⊢
    rw [main]
    cases stage : worker.main with
    | draining current batches lanes =>
        rw [stage] at drain
        exact fun number lane running =>
          drain number lane (runs _ _ running)
    | closing =>
        rw [stage] at drain
        exact fun number lane running =>
          drain number lane (runs _ _ running)
    | closed =>
        rw [stage] at drain
        exact fun number lane running =>
          drain number lane (runs _ _ running)
    | failed =>
        rw [stage] at drain
        exact fun number lane running =>
          drain number lane (runs _ _ running)
    | _ =>
        exact trivial

/-- `run` moves on, past the start. -/
theorem OnePerLane.advance (one : OnePerLane worker)
    (processes : after.processes = worker.processes)
    (lanes : after.lane = worker.lane)
    (started : ∀ lanes, after.main ≠ .starting lanes)
    (early : after.main.loopsCancelled = false →
      worker.main.loopsCancelled = false)
    (drain : DrainAlone after) : OnePerLane after where
  unique := by
    intro first second lane
    rw [inProgress_of_processes processes, inProgress_of_processes processes]
    exact one.unique first second lane
  awaited := by
    intro notCancelled number lane
    rw [inProgress_of_processes processes, lanes]
    exact one.awaited (early notCancelled) number lane
  unstarted := fun lanes starting => False.elim (started lanes starting)
  drain := drain

theorem OnePerLane.startLoop (one : OnePerLane worker)
    {rest : List LaneName} (starting : worker.main = .starting (lane :: rest)) :
    OnePerLane ({ worker with main := .starting rest }.setLoop lane
      .waiting) := by
  obtain ⟨nodup, absent⟩ := one.unstarted _ starting
  obtain ⟨notLater, restNodup⟩ := List.nodup_cons.mp nodup
  have early : worker.main.loopsCancelled = false := by
    rw [starting]
    rfl
  exact
    { unique := one.unique
      awaited := by
        intro _ number other running
        have awaiting := one.awaited early number other running
        have different : other ≠ lane := by
          rintro rfl
          rw [absent other List.mem_cons_self] at awaiting
          cases awaiting
        rw [Worker.setLoop, Worker.setLane_lane_of_ne different]
        exact awaiting
      unstarted := by
        intro lanes starts
        cases starts
        refine ⟨restNodup, fun other member => ?_⟩
        have different : other ≠ lane := by
          rintro rfl
          exact notLater member
        rw [Worker.setLoop, Worker.setLane_lane_of_ne different]
        exact absent other (List.mem_cons_of_mem _ member)
      drain := trivial }

theorem OnePerLane.takeBatch (one : OnePerLane worker)
    (loop : (worker.lane lane).loop = .waiting)
    (running : worker.main.loopsCancelled = false)
    (batch : Batch (Delivery Body) BatchKey)
    (rest : MicroBatcher (Delivery Body) BatchKey) :
    OnePerLane (worker.takeBatch lane batch rest) := by
  have idle : ∀ number, ¬ worker.InProgress number lane := by
    intro number runs
    rw [one.awaited running number lane runs] at loop
    cases loop
  have cases : ∀ number other,
      (worker.takeBatch lane batch rest).InProgress number other →
        worker.InProgress number other ∧ other ≠ lane ∨
          number = worker.processes.length ∧ other = lane := by
    intro number other runs
    rcases inProgress_append _ rfl runs with before | ⟨last, same⟩
    · refine Or.inl ⟨before, ?_⟩
      rintro rfl
      exact idle number before
    · exact Or.inr ⟨last, same.symm⟩
  have started : ∀ lanes, worker.main = .starting lanes → lane ∉ lanes := by
    intro lanes starting member
    rw [(one.unstarted lanes starting).2 lane member] at loop
    cases loop
  exact
    { unique := by
        intro first second other firstRuns secondRuns
        rcases cases first other firstRuns with
          ⟨firstBefore, notLane⟩ | ⟨firstLast, same⟩
        · rcases cases second other secondRuns with
            ⟨secondBefore, _⟩ | ⟨_, isLane⟩
          · exact one.unique first second other firstBefore secondBefore
          · exact False.elim (notLane isLane)
        · rcases cases second other secondRuns with
            ⟨_, notLane⟩ | ⟨secondLast, _⟩
          · exact False.elim (notLane same)
          · exact firstLast.trans secondLast.symm
      awaited := by
        intro _ number other runs
        rcases cases number other runs with
          ⟨before, notLane⟩ | ⟨last, same⟩
        · rw [Worker.takeBatch, Worker.setLane_lane_of_ne notLane]
          exact one.awaited running number other before
        · rw [same, Worker.takeBatch, Worker.setLane_lane_self, last]
      unstarted := by
        intro lanes starting
        obtain ⟨nodup, absent⟩ := one.unstarted lanes starting
        refine ⟨nodup, fun other member => ?_⟩
        have different : other ≠ lane := by
          rintro rfl
          exact started lanes starting member
        rw [Worker.takeBatch, Worker.setLane_lane_of_ne different]
        exact absent other member
      drain := drainAlone_early running }

theorem OnePerLane.setLoop (one : OnePerLane worker)
    (idle : worker.main.loopsCancelled = false →
      ∀ number, ¬ worker.InProgress number lane)
    (present : (worker.lane lane).loop ≠ .absent) (loop : LoopState) :
    OnePerLane (worker.setLoop lane loop) where
  unique := one.unique
  awaited := by
    intro early number other runs
    have different : other ≠ lane := by
      rintro rfl
      exact idle early number runs
    rw [Worker.setLoop, Worker.setLane_lane_of_ne different]
    exact one.awaited early number other runs
  unstarted := by
    intro lanes starting
    obtain ⟨nodup, absent⟩ := one.unstarted lanes starting
    refine ⟨nodup, fun other member => ?_⟩
    have different : other ≠ lane := by
      rintro rfl
      exact present (absent other member)
    rw [Worker.setLoop, Worker.setLane_lane_of_ne different]
    exact absent other member
  drain := one.drain

/-- Between two batches of the drain nothing is in process. -/
theorem OnePerLane.betweenBatches (one : OnePerLane worker)
    {batches : List (LaneName × Batch (Delivery Body) BatchKey)}
    {lanes : List LaneName}
    (draining : worker.main = .draining none batches lanes) :
    ∀ number lane, ¬ worker.InProgress number lane := by
  intro number lane runs
  have drain := one.drain
  rw [DrainAlone, draining] at drain
  cases drain number lane runs

theorem OnePerLane.drainBatch (one : OnePerLane worker)
    {batch : Batch (Delivery Body) BatchKey}
    {batches : List (LaneName × Batch (Delivery Body) BatchKey)}
    {lanes : List LaneName}
    (draining : worker.main =
      .draining none ((lane, batch) :: batches) lanes) :
    OnePerLane (worker.drainBatch lane batch batches lanes) := by
  have idle := one.betweenBatches draining
  have isNew : ∀ number other,
      (worker.drainBatch lane batch batches lanes).InProgress number other →
        number = worker.processes.length := by
    intro number other runs
    rcases inProgress_append _ rfl runs with before | ⟨last, _⟩
    · exact False.elim (idle number other before)
    · exact last
  exact
    { unique := fun first second other firstRuns secondRuns =>
        (isNew first other firstRuns).trans
          (isNew second other secondRuns).symm
      awaited := fun early => nomatch early
      unstarted := fun _ starting => nomatch starting
      drain := fun number other runs =>
        congrArg some (isNew number other runs).symm }

/-- Nothing is in process any more, and `run` goes on after the loops were
cancelled. -/
theorem onePerLane_idle
    (idle : ∀ number lane, ¬ worker.InProgress number lane)
    (processes : after.processes = worker.processes)
    (late : after.main.loopsCancelled = true) : OnePerLane after := by
  have idleAfter : ∀ number lane, ¬ after.InProgress number lane := by
    intro number lane
    rw [inProgress_of_processes processes]
    exact idle number lane
  exact
    { unique := fun first _ lane firstRuns =>
        False.elim (idleAfter first lane firstRuns)
      awaited := by
        intro early
        rw [late] at early
        cases early
      unstarted := by
        intro lanes starting
        rw [starting] at late
        cases late
      drain := by
        unfold DrainAlone
        split
        · exact fun number lane runs =>
            False.elim (idleAfter number lane runs)
        · exact idleAfter
        · exact idleAfter
        · exact idleAfter
        · exact trivial }

theorem not_inProgress_of_ended
    (finished : ∀ process ∈ worker.processes,
      process.state.isEnded = true) :
    ∀ number lane, ¬ worker.InProgress number lane := by
  rintro number lane ⟨process, found, _, unended⟩
  rw [finished process (List.mem_of_getElem? found)] at unended
  cases unended

theorem OnePerLane.drainedBatch (one : OnePerLane worker)
    {batches : List (LaneName × Batch (Delivery Body) BatchKey)}
    {lanes : List LaneName} {process : Process Body} {how : Ending}
    (timeoutError : Bool)
    (draining : worker.main = .draining (some number) batches lanes)
    (found : worker.processes[number]? = some process)
    (state : process.state = .ended how) :
    OnePerLane (worker.drainedBatch how timeoutError batches lanes) := by
  have idle : ∀ other lane, ¬ worker.InProgress other lane := by
    intro other lane runs
    have drain := one.drain
    rw [DrainAlone, draining] at drain
    cases drain other lane runs
    obtain ⟨unended, unendedFound, _, notOver⟩ := runs
    rw [found] at unendedFound
    cases unendedFound
    rw [state] at notOver
    cases notOver
  unfold Worker.drainedBatch
  split
  · exact onePerLane_idle idle rfl rfl
  · refine onePerLane_idle idle rfl ?_
    dsimp only
    split
    · rfl
    · unfold Worker.drainFailure
      split <;> rfl

/-- Every step keeps each lane to one batch in process. -/
theorem OnePerLane.step (one : OnePerLane worker)
    {action : WorkerAction Body}
    (taken : WorkerStep environment worker action after) :
    OnePerLane after := by
  by_cases batch : action.IsBatch
  · have runs : ∀ number lane, after.InProgress number lane →
        worker.InProgress number lane :=
      fun _ _ => inProgress_batch batch taken
    rcases step_isBatch batch taken with ⟨threads, same⟩ | ⟨_, batchStep⟩
    · rw [same] at runs ⊢
      exact one.keep runs (fun _ => rfl) rfl
    · exact one.keep runs (fun lane => by rw [batchStep.lane])
        batchStep.main
  have drain := one.drain
  have loops : ∀ (changed : Lane Body) (lane : LaneName),
      changed.loop = (worker.lane lane).loop → ∀ other,
        ((worker.setLane lane changed).lane other).loop =
          (worker.lane other).loop := by
    intro changed lane same other
    by_cases own : other = lane
    · rw [own, Worker.setLane_lane_self, same]
    · rw [Worker.setLane_lane_of_ne own]
  cases taken with
  | consume starting =>
      exact one.keep (fun _ _ runs => runs) (loops _ _ rfl) rfl
  | startLoop starting consuming =>
      exact one.startLoop starting
  | serve starting =>
      exact one.advance rfl rfl (fun _ same => nomatch same)
        (fun _ => by rw [starting]; rfl) trivial
  | receive consuming connected fresh =>
      unfold Worker.receive
      dsimp only
      split
      · exact one.keep (fun _ _ runs => runs) (loops _ _ rfl) rfl
      · exact one.keep (fun _ _ runs => runs) (fun _ => rfl) rfl
  | answerHandler found state awaited running =>
      exact one.keep (fun _ _ runs => runs) (fun _ => rfl) rfl
  | takeBatch loop running ready =>
      exact one.takeBatch loop running _ _
  | @resumeLoop lane number process how loop running found state =>
      apply one.setLoop
      · intro _ other runs
        have same := one.awaited running other lane runs
        rw [loop] at same
        cases same
        obtain ⟨unended, unendedFound, _, notOver⟩ := runs
        rw [found] at unendedFound
        cases unendedFound
        rw [state] at notOver
        cases notOver
      · rw [loop]
        exact LoopState.noConfusion
  | cancelLoop joining started =>
      refine one.setLoop ?_ started _
      intro early
      rw [joining] at early
      cases early
  | beginShutdown running =>
      refine one.advance rfl rfl (fun _ same => nomatch same) ?_ trivial
      intro _
      rcases running with serving | ⟨lanes, starting⟩
      · rw [serving]
        rfl
      · rw [starting]
        rfl
  | consumersCancelled cancelling =>
      exact one.advance rfl rfl (fun _ same => nomatch same)
        (fun early => nomatch early) trivial
  | loopsJoined joining finished =>
      exact one.advance rfl rfl (fun _ same => nomatch same)
        (fun early => nomatch early) trivial
  | inflightJoined joining finished =>
      refine onePerLane_idle (not_inProgress_of_ended finished) rfl ?_
      dsimp only
      split <;> rfl
  | graceOver timed running =>
      exact one.keep (fun _ _ runs => runs) (fun _ => rfl) rfl
  | drainLane draining =>
      exact onePerLane_idle (one.betweenBatches draining) rfl rfl
  | drainBatch draining =>
      exact one.drainBatch draining
  | drainedBatch draining found state =>
      exact one.drainedBatch _ draining found state
  | drained draining =>
      exact onePerLane_idle (one.betweenBatches draining) rfl rfl
  | close closing =>
      rw [DrainAlone, closing] at drain
      exact onePerLane_idle drain rfl rfl
  | closeFailed closing =>
      rw [DrainAlone, closing] at drain
      exact onePerLane_idle drain rfl rfl
  | _ =>
      exact False.elim (batch trivial)

theorem onePerLane_of_reachable {workerId : PyStr} {names : List LaneName}
    (reachable : Reachable (WorkerStep environment)
      (Worker.start Body workerId (parseLanes names)) worker) :
    OnePerLane worker :=
  reachable.invariant (onePerLane_start workerId names)
    (fun _ _ _ one taken => one.step taken)

end Lanes

section Slot

variable {Body : Type} {environment : Environment Body}
  {worker after : Worker Body} {number : Nat}

/-- A task that uses the slot, or waits for it, is in process. -/
theorem Exclusion.inProgress (exclusion : Exclusion worker)
    (used : worker.slot.callers number ≠ .outside) :
    ∃ lane, worker.InProgress number lane := by
  rw [exclusion.callers, Worker.processState] at used
  cases found : worker.processes[number]? with
  | none =>
      rw [found] at used
      exact False.elim (used rfl)
  | some process =>
      rw [found] at used
      refine ⟨process.lane, process, found, rfl, ?_⟩
      cases state : process.state <;> try rfl
      rw [Option.map_some, state] at used
      exact False.elim (used rfl)

/-- With two lanes, of which each has one batch in process, there is one
owner of the slot and one waiter at most. -/
theorem OnePerLane.one_waits (one : OnePerLane worker)
    (exclusion : Exclusion worker) :
    worker.slot.slot.waiters.length ≤ 1 := by
  have oneOwner := SlotSystem.oneOwner_of_reachable exclusion.slotReachable
  by_contra several
  obtain ⟨first, rest, waiters⟩ := List.exists_cons_of_length_pos
    (show 0 < worker.slot.slot.waiters.length by omega)
  obtain ⟨second, others, rest⟩ := List.exists_cons_of_length_pos
    (show 0 < rest.length by
      rw [waiters, List.length_cons] at several
      omega)
  rw [rest] at waiters
  have firstWaits := oneOwner.entriesWait first (by rw [waiters]; simp)
  have secondWaits := oneOwner.entriesWait second (by rw [waiters]; simp)
  obtain ⟨owner, owns⟩ := oneOwner.busyOwner
    (oneOwner.waitersBusy (by rw [waiters]; exact List.cons_ne_nil _ _))
  have distinct : first.future ≠ second.future := by
    have unique := oneOwner.entriesUnique
    rw [waiters, List.map_cons, List.map_cons] at unique
    intro same
    rw [same] at unique
    exact (List.nodup_cons.mp unique).1 List.mem_cons_self
  have firstNotOwner : first.future ≠ owner := by
    rintro rfl
    exact firstWaits.not_owner owns
  have secondNotOwner : second.future ≠ owner := by
    rintro rfl
    exact secondWaits.not_owner owns
  have waitsInside : ∀ task, SlotSystem.Waits worker.slot task →
      worker.slot.callers task ≠ .outside := by
    rintro task (⟨queued, _⟩ | ⟨cancelling, _⟩)
    · rw [queued]
      exact CallerState.noConfusion
    · rw [cancelling]
      exact CallerState.noConfusion
  have ownerInside : worker.slot.callers owner ≠ .outside := by
    rcases owns with inside | ⟨queued | cancelling, _⟩
    · rw [inside]
      exact CallerState.noConfusion
    · rw [queued]
      exact CallerState.noConfusion
    · rw [cancelling]
      exact CallerState.noConfusion
  obtain ⟨firstLane, firstRuns⟩ :=
    exclusion.inProgress (waitsInside _ firstWaits)
  obtain ⟨secondLane, secondRuns⟩ :=
    exclusion.inProgress (waitsInside _ secondWaits)
  obtain ⟨ownerLane, ownerRuns⟩ := exclusion.inProgress ownerInside
  have twoLanes : firstLane = secondLane ∨ firstLane = ownerLane ∨
      secondLane = ownerLane := by
    cases firstLane <;> cases secondLane <;> cases ownerLane <;> simp
  rcases twoLanes with rfl | rfl | rfl
  · exact distinct (one.unique _ _ _ firstRuns secondRuns)
  · exact firstNotOwner (one.unique _ _ _ firstRuns ownerRuns)
  · exact secondNotOwner (one.unique _ _ _ secondRuns ownerRuns)

/-- A step of a worker other than the end of the grace period does one thing
with the slot at most, and cancels no waiter. -/
inductive SlotMove (slot : SlotSystem Nat) : SlotSystem Nat → Prop
  | none : SlotMove slot slot
  | one (action : SlotAction Nat)
      (notCancelled : ∀ task, action ≠ .cancel task)
      (enabled : slot.Enabled action) : SlotMove slot (slot.next action)

theorem runProcess_slotMove {process : Process Body}
    (outside : worker.slot.callers number = .outside)
    (readings : Nat → Instant) (now : Instant) :
    SlotMove worker.slot
      (worker.runProcess environment number process readings now).slot := by
  have asked : SlotMove worker.slot
      (worker.askedSlot environment number process) :=
    .one (.acquire number _) (by simp) outside
  have runs := runProcess_runs environment worker number process readings now
  generalize worker.runProcess environment number process readings now =
    result at runs
  cases runs with
  | expires split unchecked late =>
      exact .none
  | ends nothingLive =>
      exact .none
  | enters someLive inside =>
      exact asked
  | queues someLive outside =>
      exact asked

theorem Exclusion.outside (exclusion : Exclusion worker)
    {process : Process Body}
    (found : worker.processes[number]? = some process)
    (outside : expectedCaller worker.graceExpired (some process.state) =
      .outside) : worker.slot.callers number = .outside := by
  rw [exclusion.callers, processState_of_found found, outside]

theorem Exclusion.cancelledSlot_move (exclusion : Exclusion worker)
    {process : Process Body}
    (found : worker.processes[number]? = some process)
    (cancelled : worker.graceExpired = true) :
    SlotMove worker.slot
      (Worker.cancelledSlot worker.slot number process.state) := by
  have caller := exclusion.callers number
  rw [processState_of_found found, cancelled] at caller
  unfold Worker.cancelledSlot
  split
  · next queued =>
      rw [queued] at caller
      exact .one (.handleCancellation number)
        (by simp) caller
  · next encoding =>
      rw [encoding] at caller
      exact .one (.leave number) (by simp) caller
  · exact .none

/-- Every step moves the slot at most once, or ends the grace period. -/
theorem Exclusion.slotMove (exclusion : Exclusion worker)
    {action : WorkerAction Body}
    (taken : WorkerStep environment worker action after) :
    SlotMove worker.slot after.slot ∨
      action = .graceOver ∧ after = worker.graceOver := by
  cases taken with
  | receive consuming connected fresh =>
      unfold Worker.receive
      dsimp only
      split <;> exact Or.inl .none
  | startProcess found state running =>
      left
      apply runProcess_slotMove
      exact exclusion.outside found (by rw [state]; rfl)
  | @answerExpiry number position process item settling call how readings now
      found state itemFound itemState awaited running =>
      left
      have outside := exclusion.outside found (by rw [state]; rfl)
      have answers := answerExpiry_answers environment worker number process
        position item settling how readings now
      generalize worker.answerExpiry environment number process position item
        settling how readings now = result at answers
      cases answers with
      | continues returned =>
          exact @runProcess_slotMove Body environment
            (worker.answeredExpiry number process position item _) number _
            outside readings now
      | leaves failed ended =>
          exact .none
      | awaits pending =>
          exact .none
  | @enterSlot number process now found state running resolved =>
      have queued := exclusion.callers number
      rw [processState_of_found found, running, state] at queued
      exact Or.inl (.one (.resume number) (by simp)
        ⟨queued, resolved⟩)
  | endThread found finished =>
      unfold Worker.endThread
      dsimp only
      split
      · split <;> exact Or.inl .none
      · exact Or.inl .none
  | @collectOutcomes number process outcomes found state running =>
      have inside := exclusion.callers number
      rw [processState_of_found found, state] at inside
      exact Or.inl (.one (.leave number) (by simp)
        inside)
  | cancelProcess found state cancelled =>
      exact Or.inl (exclusion.cancelledSlot_move found cancelled)
  | graceOver timed running =>
      exact Or.inr ⟨rfl, rfl⟩
  | drainedBatch draining found state =>
      unfold Worker.drainedBatch
      split <;> exact Or.inl .none
  | _ =>
      exact Or.inl .none

/-- A cancelled future stays so while other waiters are cancelled. -/
theorem cancelQueued_kept (numbers : List Nat) :
    ∀ slot : SlotSystem Nat, slot.slot.futures number = .cancelled →
      (Worker.cancelQueued slot numbers).slot.futures number =
        .cancelled := by
  induction numbers with
  | nil =>
      intro slot cancelled
      exact cancelled
  | cons first rest inductionHypothesis =>
      intro slot cancelled
      apply inductionHypothesis
      simp only [SlotSystem.next, SlotSystem.setCaller,
        PrioritySlot.cancelFuture]
      split
      · by_cases same : number = first
        · rw [same, PrioritySlot.setFuture_futures, Function.update_self]
        · rw [PrioritySlot.setFuture_futures, Function.update_of_ne same]
          exact cancelled
      · exact cancelled

theorem cancelQueued_futures (numbers : List Nat) :
    ∀ slot : SlotSystem Nat, number ∈ numbers →
      slot.slot.futures number = .pending →
        (Worker.cancelQueued slot numbers).slot.futures number =
          .cancelled := by
  induction numbers with
  | nil =>
      intro slot member
      cases member
  | cons first rest inductionHypothesis =>
      intro slot member pending
      by_cases same : number = first
      · subst same
        apply cancelQueued_kept rest (slot.next (.cancel number))
        simp [SlotSystem.next, SlotSystem.setCaller,
          PrioritySlot.cancelFuture, pending]
      · apply inductionHypothesis _
          ((List.mem_cons.mp member).resolve_left same)
        simp only [SlotSystem.next, SlotSystem.setCaller,
          PrioritySlot.cancelFuture]
        split
        · rw [PrioritySlot.setFuture_futures, Function.update_of_ne same]
          exact pending
        · exact pending

/-- The end of the grace period cancels whoever waits for the slot. -/
theorem Exclusion.graceOver_cancels (exclusion : Exclusion worker)
    (pending : worker.slot.slot.futures number = .pending) :
    worker.graceOver.slot.slot.futures number = .cancelled := by
  have oneOwner := SlotSystem.oneOwner_of_reachable exclusion.slotReachable
  have queued := oneOwner.pending_queued pending
  apply cancelQueued_futures _ _ _ pending
  rw [mem_queuedNumbers_iff]
  rw [exclusion.callers, Worker.processState] at queued
  cases found : worker.processes[number]? with
  | none =>
      rw [found] at queued
      cases queued
  | some process =>
      rw [found, Option.map_some] at queued
      cases state : process.state with
      | queued =>
          rw [Option.map_some, state]
      | _ =>
          rw [state] at queued
          cases queued

/-- A step in which nobody gives the slot up. -/
def HoldingStep (environment : Environment Body) (worker : Worker Body)
    (action : WorkerAction Body) (after : Worker Body) : Prop :=
  WorkerStep environment worker action after ∧
    ∀ task, SlotSystem.Owner after.slot task ↔
      SlotSystem.Owner worker.slot task

/-- How the wait of a batch for the slot ends: it is handed over as soon as
its owner gives it up, or the grace period is over. -/
def WaitEnds (worker : Worker Body) (action : WorkerAction Body)
    (after : Worker Body) (number : Nat) : Prop :=
  after.slot.slot.futures number = .resolved ∧
      (∃ owner, SlotSystem.Owner worker.slot owner ∧
        ¬ SlotSystem.Owner after.slot owner) ∨
    action = .graceOver ∧ after.slot.slot.futures number = .cancelled

/-- A waiting batch goes on waiting while the slot is held, and has it at the
next release. -/
theorem OnePerLane.wait_step (one : OnePerLane worker)
    (exclusion : Exclusion worker) {action : WorkerAction Body}
    (taken : WorkerStep environment worker action after)
    (pending : worker.slot.slot.futures number = .pending) :
    (after.slot.slot.futures number = .pending ∧
        HoldingStep environment worker action after) ∨
      WaitEnds worker action after number := by
  have oneOwner := SlotSystem.oneOwner_of_reachable exclusion.slotReachable
  rcases exclusion.slotMove taken with move | ⟨graceOver, same⟩
  · generalize slot : after.slot = slotAfter at move
    cases move with
    | none =>
        left
        refine ⟨pending, taken, fun task => ?_⟩
        rw [slot]
    | one slotAction notCancelled enabled =>
        rcases oneOwner.lone_step ⟨enabled, rfl⟩ notCancelled pending
            (one.one_waits exclusion) with
          ⟨still, owners⟩ | ⟨handed, released⟩
        · left
          refine ⟨still, taken, ?_⟩
          rw [slot]
          exact owners
        · right
          left
          rw [slot]
          exact ⟨handed, released⟩
  · right
    right
    rw [same]
    exact ⟨graceOver, exclusion.graceOver_cancels pending⟩

/-- The wait over a whole run: the slot is held all along, or is held up to a
step that ends the wait. -/
theorem wait_run {workerId : PyStr} {names : List LaneName}
    (reachable : Reachable (WorkerStep environment)
      (Worker.start Body workerId (parseLanes names)) worker)
    (pending : worker.slot.slot.futures number = .pending)
    {labels : List (WorkerAction Body)} {target : Worker Body}
    (run : Run (WorkerStep environment) worker labels target) :
    (target.slot.slot.futures number = .pending ∧
        Run (HoldingStep environment) worker labels target) ∨
      ∃ first action rest middle next,
        labels = first ++ action :: rest ∧
        Run (HoldingStep environment) worker first middle ∧
        WorkerStep environment middle action next ∧
        Run (WorkerStep environment) next rest target ∧
        WaitEnds middle action next number := by
  induction run with
  | nil =>
      exact Or.inl ⟨pending, Run.nil worker⟩
  | @snoc middle target labels action before taken inductionHypothesis =>
      rcases inductionHypothesis with
        ⟨still, held⟩ |
          ⟨first, ending, rest, last, next, split, held, ends, later, wait⟩
      · have reached := reachable.trans before.reachable
        have one := onePerLane_of_reachable reached
        have exclusion := exclusion_of_reachable reached
        rcases one.wait_step exclusion taken still with
          ⟨waits, holding⟩ | wait
        · exact Or.inl ⟨waits, held.snoc holding⟩
        · exact Or.inr ⟨labels, action, [], middle, target, rfl, held, taken,
            Run.nil target, wait⟩
      · refine Or.inr ⟨first, ending, rest ++ [action], last, next, ?_, held,
          ends, later.snoc taken, wait⟩
        rw [split, List.append_assoc, List.cons_append]

/-- In every run of a worker with any lanes, shutdown and drain included: a
lane has one batch in process at most; at most one batch is queued for the
slot; and while a batch waits nobody gives the slot up, until it is handed the
slot at the next release or the grace period is over. -/
theorem oneEncodeAhead {workerId : PyStr} {names : List LaneName}
    (reachable : Reachable (WorkerStep environment)
      (Worker.start Body workerId (parseLanes names)) worker) :
    (∀ first second lane, worker.InProgress first lane →
      worker.InProgress second lane → first = second) ∧
    worker.slot.slot.waiters.length ≤ 1 ∧
    ∀ number, worker.slot.slot.futures number = .pending →
      ∀ labels target, Run (WorkerStep environment) worker labels target →
        (target.slot.slot.futures number = .pending ∧
            Run (HoldingStep environment) worker labels target) ∨
          ∃ first action rest middle next,
            labels = first ++ action :: rest ∧
            Run (HoldingStep environment) worker first middle ∧
            WorkerStep environment middle action next ∧
            Run (WorkerStep environment) next rest target ∧
            WaitEnds middle action next number := by
  have one := onePerLane_of_reachable reachable
  have exclusion := exclusion_of_reachable reachable
  exact ⟨one.unique, one.one_waits exclusion,
    fun _ pending _ _ run => wait_run reachable pending run⟩

end Slot

/-- While an index batch encodes, a query batch waits: it is the only one in
the queue. -/
theorem oneEncodeAhead_queryWaits :
    ∃ worker : Worker Json,
      worker.InProgress 0 .index ∧ worker.InProgress 1 .query ∧
      worker.slot.slot.futures 1 = .pending ∧
      worker.slot.slot.waiters.length ≤ 1 := by
  have started :=
    ((((Reachable.refl (Worker.start Json (pyStr "worker")
      (parseLanes [.index, .query, .index]))).tail
      (@WorkerStep.consume Json sampleEnvironment _ .index _ rfl)).tail
      (.startLoop rfl rfl)).tail (.consume rfl)).tail
      (.startLoop rfl rfl)
  have buffered := (started.tail
      (@WorkerStep.receive Json sampleEnvironment _ .index
        (sampleMessage 0) [] 0 0 rfl rfl
        (fun _ member => nomatch member))).tail
      (@WorkerStep.receive Json sampleEnvironment _ .query
        (sampleMessage 1) [] 0 0 rfl rfl
        (List.forall_mem_singleton.mpr (by decide)))
  have taken := (buffered.tail
      (@WorkerStep.takeBatch Json sampleEnvironment _ .index 0 _ _ rfl rfl
        rfl)).tail
      (@WorkerStep.takeBatch Json sampleEnvironment _ .query 0 _ _ rfl rfl
        rfl)
  have queued := (taken.tail
      (@WorkerStep.startProcess Json sampleEnvironment _ 0 _ (fun _ => 0) 0
        rfl rfl rfl)).tail
      (@WorkerStep.startProcess Json sampleEnvironment _ 1 _ (fun _ => 0) 0
        rfl rfl rfl)
  exact ⟨_, ⟨_, rfl, rfl, rfl⟩, ⟨_, rfl, rfl, rfl⟩, rfl,
    (oneEncodeAhead queued).2.1⟩

end EmbeddingService
