import EmbeddingService.Worker.Progress

/-!
# The drain of a shutdown

Nothing catches what a batch of the drain raises, unless it is a
`TimeoutError`.  As long as no `ack` or `nack` of such a batch raises, nor the
reading of an attempt, every batch that is drained within the grace period is
processed.
-/

namespace EmbeddingService

open LabelledRuns

section Tasks

variable {Body : Type} {environment : Environment Body}
  {worker after : Worker Body} {number : Nat} {process : Process Body}

/-- The lane and the deliveries of the batch that a task was created for. -/
def Process.task (process : Process Body) :
    LaneName × List (Delivery Body) :=
  (process.lane, process.items.map Item.delivery)

def Worker.task? (worker : Worker Body) (number : Nat) :
    Option (LaneName × List (Delivery Body)) :=
  worker.processes[number]?.map Process.task

theorem deliveries_markLive (items : List (Item Body)) :
    (items.map Process.markLive).map Item.delivery =
      items.map Item.delivery := by
  rw [List.map_map]
  exact List.map_congr_left
    (fun item _ => Process.markLive_delivery item)

theorem deliveries_set {items : List (Item Body)} {position : Nat}
    {item updated : Item Body} (found : items[position]? = some item)
    (same : updated.delivery = item.delivery) :
    (items.set position updated).map Item.delivery =
      items.map Item.delivery := by
  rw [List.map_set]
  apply ListUpdate.set_self
  rw [List.getElem?_map, found, Option.map_some, same]

theorem deliveries_assignOutcomes (items : List (Item Body)) :
    ∀ outcomes, (Process.assignOutcomes items outcomes).map Item.delivery =
      items.map Item.delivery := by
  induction items with
  | nil =>
      intro outcomes
      rfl
  | cons item rest inductionHypothesis =>
      intro outcomes
      rw [Process.assignOutcomes.eq_def]
      dsimp only
      split <;> rw [List.map_cons, List.map_cons, inductionHypothesis]

theorem task_newProcess (lane : LaneName)
    (batch : Batch (Delivery Body) BatchKey) :
    (newProcess lane batch).task = (lane, batch.items) := by
  simp [Process.task, newProcess, Function.comp_def]

theorem task_setItem {position : Nat} {item : Item Body}
    (itemFound : process.items[position]? = some item)
    (itemState : ItemState Body) (state : ProcessState) :
    ({ process with
        items := process.items.set position { item with state := itemState }
        state := state } : Process Body).task = process.task :=
  congrArg (Prod.mk process.lane) (deliveries_set itemFound rfl)

theorem task_allLive (process : Process Body) :
    process.allLive.task = process.task := by
  rw [Process.task, Process.allLive, deliveries_markLive]
  rfl

theorem task_setProcess (found : worker.processes[number]? = some process)
    {updated : Process Body} (same : updated.task = process.task)
    (other : Nat) :
    (worker.setProcess number updated).task? other = worker.task? other := by
  rw [Worker.task?, Worker.task?, Worker.setProcess]
  by_cases own : other = number
  · have inside := (List.getElem?_eq_some_iff.mp found).1
    rw [own, List.getElem?_set_self inside, found, Option.map_some,
      Option.map_some, same]
  · rw [List.getElem?_set_ne (Ne.symm own)]

theorem task_runProcess (found : worker.processes[number]? = some process)
    {started : Process Body} (same : started.task = process.task)
    (readings : Nat → Instant) (now : Instant) (other : Nat) :
    (worker.runProcess environment number started readings now).task? other =
      worker.task? other := by
  have live : ∀ state,
      ({ started.allLive with state := state } : Process Body).task =
        process.task :=
    fun state => (task_allLive started).trans same
  have runs :=
    runProcess_runs environment worker number started readings now
  generalize worker.runProcess environment number started readings now =
    result at runs
  cases runs with
  | expires split unchecked late =>
      refine @task_setProcess Body (worker.record _) number process found _ ?_
        other
      rw [← same, Process.task, Process.task, split, List.map_append,
        List.map_append, deliveries_markLive]
      rfl
  | ends nothingLive =>
      exact task_setProcess found (live _) other
  | enters someLive inside =>
      exact task_setProcess found (live _) other
  | queues someLive outside =>
      exact task_setProcess found (live _) other

theorem task_answerExpiry
    (found : worker.processes[number]? = some process) {position : Nat}
    {item : Item Body} (itemFound : process.items[position]? = some item)
    (settling : Settling Body) (how : Ending) (readings : Nat → Instant)
    (now : Instant) (other : Nat) :
    (worker.answerExpiry environment number process position item settling
      how readings now).task? other = worker.task? other := by
  have answered : ∀ segment,
      (worker.answeredExpiry number process position item segment).task?
        other = worker.task? other := by
    intro segment
    refine @task_setProcess Body (worker.record segment.2) number process
      found _ ?_ other
    exact task_setItem itemFound _ _
  have answers := answerExpiry_answers environment worker number process
    position item settling how readings now
  generalize worker.answerExpiry environment number process position item
    settling how readings now = result at answers
  cases answers with
  | continues returned =>
      exact (task_runProcess (answeredExpiry_found found position item _)
        rfl readings now other).trans (answered _)
  | leaves failed ended =>
      refine (task_setProcess (answeredExpiry_found found position item _)
        ?_ other).trans (answered _)
      rfl
  | awaits pending =>
      exact answered _

theorem task_append (lane : LaneName)
    (batch : Batch (Delivery Body) BatchKey)
    {task : LaneName × List (Delivery Body)}
    (known : worker.task? number = some task)
    (processes : after.processes =
      worker.processes ++ [newProcess lane batch]) :
    after.task? number = some task := by
  obtain ⟨process, found, same⟩ := Option.map_eq_some_iff.mp known
  have inside := (List.getElem?_eq_some_iff.mp found).1
  rw [Worker.task?, processes, List.getElem?_append_left inside, found,
    Option.map_some, same]

/-- Tasks keep their batches. -/
theorem task_step {action : WorkerAction Body}
    {task : LaneName × List (Delivery Body)}
    (known : worker.task? number = some task)
    (taken : WorkerStep environment worker action after) :
    after.task? number = some task := by
  cases taken with
  | receive consuming connected fresh =>
      unfold Worker.receive
      dsimp only
      split <;> exact known
  | takeBatch loop running ready =>
      exact task_append _ _ known rfl
  | startProcess found state running =>
      exact (task_runProcess found rfl _ _ number).trans known
  | answerExpiry found state itemFound itemState awaited running =>
      exact (task_answerExpiry found itemFound _ _ _ _ number).trans known
  | enterSlot found state running resolved =>
      refine (task_setProcess found ?_ number).trans known
      rfl
  | endThread found finished =>
      unfold Worker.endThread
      dsimp only
      split
      · next process processFound =>
          split
          · refine (task_setProcess processFound ?_ number).trans known
            rfl
          · exact known
      · exact known
  | collectOutcomes found state running =>
      refine (task_setProcess found ?_ number).trans known
      rw [Process.task, Process.task, deliveries_assignOutcomes]
  | startFinish found itemFound itemState running =>
      refine (task_setProcess found ?_ number).trans known
      exact task_setItem itemFound _ _
  | answerFinish found itemFound itemState awaited running cancelled =>
      refine (task_setProcess found ?_ number).trans known
      exact task_setItem itemFound _ _
  | cancelFinish found itemFound itemState cancelled =>
      refine (task_setProcess found ?_ number).trans known
      exact task_setItem itemFound _ _
  | endGather found state finished =>
      refine (task_setProcess found ?_ number).trans known
      rfl
  | cancelProcess found state cancelled =>
      refine (task_setProcess found ?_ number).trans known
      rfl
  | drainBatch draining =>
      exact task_append _ _ known rfl
  | drainedBatch draining found state =>
      unfold Worker.drainedBatch
      split <;> exact known
  | _ =>
      exact known

end Tasks

section Condition

variable {Body : Type} {environment : Environment Body} {workerId : PyStr}
  {worker after : Worker Body} {action : WorkerAction Body} {number : Nat}

/-- No `ack` or `nack` raises for the batch that `_shutdown` processes, and no
attempt is unreadable. -/
def SettlesDrained (worker : Worker Body) (action : WorkerAction Body) :
    Prop :=
  ∀ number batches lanes,
    worker.main = .draining (some number) batches lanes →
      action.SettlesFor worker number

/-- A step of a worker in which nothing raises there. -/
def CalmStep (environment : Environment Body) (before : Worker Body)
    (action : WorkerAction Body) (after : Worker Body) : Prop :=
  WorkerStep environment before action after ∧ SettlesDrained before action

/-- The task is the batch that `_shutdown` processes in its grace period. -/
def Worker.InDrain (worker : Worker Body) (number : Nat) : Prop :=
  worker.graceExpired = false ∧
    ∃ batches lanes, worker.main = .draining (some number) batches lanes

/-- What holds of a worker after every calm run: the batch that `_shutdown`
processes is there and has not failed, and until the grace period ends nothing
is left over. -/
structure DrainSound (environment : Environment Body) (workerId : PyStr)
    (worker : Worker Body) : Prop where
  sound : WorkerSound environment workerId (fun _ _ => True) Attributed
    worker
  shaped : Shaped worker.InDrain worker
  current : ∀ number batches lanes,
    worker.main = .draining (some number) batches lanes →
      number < worker.processes.length
  orderly : worker.graceExpired = false → Orderly worker

theorem Process.Shaped.mono {calm calmer : Prop} {process : Process Body}
    (shaped : process.Shaped calm) (weaker : calmer → calm) :
    process.Shaped calmer := by
  unfold Process.Shaped at shaped ⊢
  split at shaped
  · exact shaped
  · exact shaped
  · exact shaped
  · exact shaped
  · intro item member
    rcases shaped item member with gone | scheduled |
      ⟨settling, finishing, goesOn⟩
    · exact Or.inl gone
    · exact Or.inr (Or.inl scheduled)
    · exact Or.inr (Or.inr
        ⟨settling, finishing, fun isCalm => goesOn (weaker isCalm)⟩)
  · exact fun isCalm => shaped (weaker isCalm)

theorem graced_before (taken : WorkerStep environment worker action after)
    (graced : after.graceExpired = false) :
    worker.graceExpired = false ∧ action ≠ .graceOver := by
  have before : action ≠ .graceOver := by
    intro same
    rw [same] at taken
    cases taken with
    | graceOver timed running =>
        cases graced
  rw [graceExpired_step before taken] at graced
  exact ⟨graced, before⟩

/-- The step after which `_shutdown` processes a batch, and did not
before, has created its task. -/
theorem current_step (taken : WorkerStep environment worker action after)
    {batches : List (LaneName × Batch (Delivery Body) BatchKey)}
    {lanes : List LaneName}
    (draining : after.main = .draining (some number) batches lanes) :
    worker.main = .draining (some number) batches lanes ∨
      number = worker.processes.length ∧ ∃ lane batch,
        after.processes = worker.processes ++ [newProcess lane batch] := by
  by_cases batch : action.IsBatch
  · rw [(batch_weight batch taken).1] at draining
    exact Or.inl draining
  cases taken with
  | receive consuming connected fresh =>
      unfold Worker.receive at draining
      dsimp only at draining
      split at draining <;> exact Or.inl draining
  | inflightJoined joining finished =>
      dsimp only at draining
      split at draining <;> cases draining
  | drainBatch before =>
      cases draining
      exact Or.inr ⟨rfl, _, _, rfl⟩
  | drainedBatch before found state =>
      unfold Worker.drainedBatch Worker.drainFailure at draining
      split at draining
      · cases draining
      · dsimp only at draining
        split at draining
        · cases draining
        · split at draining <;> cases draining
  | drainLane before =>
      cases draining
  | startLoop starting consuming =>
      cases draining
  | serve starting =>
      cases draining
  | beginShutdown running =>
      cases draining
  | consumersCancelled cancelling =>
      cases draining
  | loopsJoined joining finished =>
      cases draining
  | drained before =>
      cases draining
  | close closing =>
      cases draining
  | closeFailed closing =>
      cases draining
  | startProcess found state running =>
      exact False.elim (batch trivial)
  | answerExpiry found state itemFound itemState awaited running =>
      exact False.elim (batch trivial)
  | endThread found finished =>
      exact False.elim (batch trivial)
  | _ =>
      exact Or.inl draining

theorem processes_grow (taken : WorkerStep environment worker action after) :
    worker.processes.length ≤ after.processes.length := by
  by_contra fewer
  have present : after.processes.length < worker.processes.length :=
    Nat.lt_of_not_le fewer
  have known : worker.task? after.processes.length =
      some (worker.processes[after.processes.length]).task := by
    rw [Worker.task?, List.getElem?_eq_getElem present, Option.map_some]
  obtain ⟨process, found, _⟩ :=
    Option.map_eq_some_iff.mp (task_step known taken)
  exact Nat.lt_irrefl _ (List.getElem?_eq_some_iff.mp found).1

theorem drainSound_start (lanes : List LaneName) :
    DrainSound environment workerId
      (Worker.start Body workerId lanes) where
  sound := workerSound_start lanes
  shaped := by
    intro number process found
    cases found
  current := by
    intro number batches remaining draining
    cases draining
  orderly := fun _ => orderly_start workerId lanes

theorem DrainSound.returns
    (drainSound : DrainSound environment workerId worker)
    (graced : worker.graceExpired = false) : DrainReturns worker := by
  intro number batches lanes process how draining found state
  have own := drainSound.shaped number process found
  rw [Process.Shaped, state] at own
  exact (own ⟨graced, batches, lanes, draining⟩).1

theorem DrainSound.shaped_step
    (drainSound : DrainSound environment workerId worker)
    (taken : CalmStep environment worker action after) :
    Shaped after.InDrain after := by
  have stepped : Shaped worker.InDrain after := by
    refine drainSound.shaped.step drainSound.sound.outcomes
      (fun _ inDrain => inDrain.1) ?_ taken.1
    intro number inDrain
    obtain ⟨_, batches, lanes, draining⟩ := inDrain
    exact taken.2 number batches lanes draining
  intro number process found
  by_cases created : ∃ lane batch, number = worker.processes.length ∧
      after.processes = worker.processes ++ [newProcess lane batch]
  · obtain ⟨lane, batch, last, processes⟩ := created
    rw [processes, last, List.getElem?_concat_length] at found
    cases found
    exact newProcess_shaped _ lane batch
  · refine (stepped number process found).mono ?_
    intro inDrain
    obtain ⟨graced, batches, lanes, draining⟩ := inDrain
    rcases current_step taken.1 draining with same | ⟨last, lane, batch, new⟩
    · exact ⟨(graced_before taken.1 graced).1, batches, lanes, same⟩
    · exact False.elim (created ⟨lane, batch, last, new⟩)

theorem DrainSound.step
    (drainSound : DrainSound environment workerId worker)
    (taken : CalmStep environment worker action after) :
    DrainSound environment workerId after where
  sound := by
    refine drainSound.sound.step (splitsGood_attributed _) ?_ taken.1
    cases action <;> exact trivial
  shaped := drainSound.shaped_step taken
  current := by
    intro number batches lanes draining
    rcases current_step taken.1 draining with same | ⟨last, lane, batch, new⟩
    · exact Nat.lt_of_lt_of_le
        (drainSound.current number batches lanes same)
        (processes_grow taken.1)
    · rw [new, last]
      simp
  orderly := by
    intro graced
    obtain ⟨before, inGrace⟩ := graced_before taken.1 graced
    exact (drainSound.orderly before).step before inGrace
      (fun _ _ => drainSound.returns before) taken.1

theorem drainSound_of_reachable {lanes : List LaneName}
    (reachable : Reachable (CalmStep environment)
      (Worker.start Body workerId lanes) worker) :
    DrainSound environment workerId worker :=
  reachable.invariant (drainSound_start lanes)
    (fun _ _ _ drainSound taken => drainSound.step taken)

end Condition

/-- Whether the drain has begun, and the connection was not given up. -/
def MainState.drainBegun {Body : Type} : MainState Body → Bool
  | .draining _ _ _ => true
  | .closing => true
  | .closed => true
  | _ => false

section Processed

variable {Body : Type} {environment : Environment Body} {workerId : PyStr}
  {before worker after : Worker Body} {action : WorkerAction Body}
  {first : Nat} {lane : LaneName} {delivery : Delivery Body}

/-- The delivery is in a batch of one of the tasks from `first` on. -/
def InTask (first : Nat) (lane : LaneName) (delivery : Delivery Body)
    (worker : Worker Body) : Prop :=
  ∃ number deliveries, first ≤ number ∧
    worker.task? number = some (lane, deliveries) ∧ delivery ∈ deliveries

/-- Where a delivery can be that waited in its batcher when the drain
began. -/
def Held (first : Nat) (lane : LaneName) (delivery : Delivery Body)
    (worker : Worker Body) : Prop :=
  match worker.main with
  | .draining _ batches lanes =>
      lane ∈ lanes ∧ delivery ∈ (worker.lane lane).batcher.pending ∨
        (∃ batch, (lane, batch) ∈ batches ∧ delivery ∈ batch.items) ∨
          InTask first lane delivery worker
  | _ => InTask first lane delivery worker

theorem InTask.step (inTask : InTask first lane delivery worker)
    (taken : WorkerStep environment worker action after) :
    InTask first lane delivery after := by
  obtain ⟨number, deliveries, late, known, member⟩ := inTask
  exact ⟨number, deliveries, late, task_step known taken, member⟩

/-- The drain has begun after `before`: no task created since has failed, and
no delivery that waited then is lost. -/
structure Drains (before worker : Worker Body) : Prop where
  begun : worker.main.drainBegun = true
  grown : before.processes.length ≤ worker.processes.length
  shaped : Shaped (fun number => before.processes.length ≤ number) worker
  held : ∀ lane, ∀ delivery ∈ (before.lane lane).batcher.pending,
    Held before.processes.length lane delivery worker

/-- Once the drain has begun, all tasks but the batch in process are over. -/
theorem Stage.ended (stage : Stage worker)
    (begun : worker.main.drainBegun = true) {number : Nat}
    {process : Process Body}
    (found : worker.processes[number]? = some process)
    (other : ∀ batches lanes,
      worker.main ≠ .draining (some number) batches lanes) :
    process.state.isEnded = true := by
  unfold Stage at stage
  cases main : worker.main with
  | draining current batches lanes =>
      rw [main] at stage
      refine stage.2.2.2 number process found ?_
      intro same
      rw [same] at main
      exact other batches lanes main
  | closing =>
      rw [main] at stage
      exact stage.processes number process found
  | closed =>
      rw [main] at stage
      exact stage.processes number process found
  | _ =>
      rw [main] at begun
      cases begun

/-- A task that is over and has not failed asks for nothing more. -/
theorem settlesFor_of_ended {number : Nat} {calm : Prop} (isCalm : calm)
    (own : ∀ process, worker.processes[number]? = some process →
      process.Shaped calm ∧ process.state.isEnded = true)
    (taken : WorkerStep environment worker action after) :
    action.SettlesFor worker number := by
  have unoccupied : ∀ process (item : Item Body),
      worker.processes[number]? = some process → item ∈ process.items →
        ¬ ((∃ outcome, item.state = .scheduled outcome) ∨
          ∃ settling, item.state = .finishing settling ∧
            settling.IsPending) := by
    intro process item found member occupied
    obtain ⟨shaped, ended⟩ := own _ found
    rcases gathering_of_shaped shaped member occupied with
      gathering | ⟨failed, _⟩
    · rw [gathering] at ended
      cases ended
    · exact failed isCalm
  cases taken with
  | answerExpiry found state itemFound itemState awaited running =>
      intro same
      rw [same] at found
      have ended := (own _ found).2
      rw [state] at ended
      cases ended
  | answerFinish found itemFound itemState awaited running cancelled =>
      intro same
      rw [same] at found
      exact False.elim (unoccupied _ _ found (List.mem_of_getElem? itemFound)
        (Or.inr ⟨_, itemState, _, awaited⟩))
  | startFinish found itemFound itemState running =>
      intro same
      rw [same] at found
      exact False.elim (unoccupied _ _ found (List.mem_of_getElem? itemFound)
        (Or.inl ⟨_, itemState⟩))
  | _ =>
      exact trivial

theorem Drains.settlesFor (drains : Drains before worker)
    (stage : Stage worker)
    (taken : CalmStep environment worker action after) {number : Nat}
    (late : before.processes.length ≤ number) :
    action.SettlesFor worker number := by
  by_cases current : ∃ batches lanes,
      worker.main = .draining (some number) batches lanes
  · obtain ⟨batches, lanes, draining⟩ := current
    exact taken.2 number batches lanes draining
  · refine settlesFor_of_ended late ?_ taken.1
    intro process found
    refine ⟨drains.shaped number process found,
      stage.ended drains.begun found ?_⟩
    intro batches lanes draining
    exact current ⟨batches, lanes, draining⟩

/-- A lane's deliveries are drained, and keep waiting elsewhere. -/
theorem Held.drainLane
    {drainedLane : LaneName} {rest : List LaneName}
    (held : Held first lane delivery worker)
    (draining : worker.main = .draining none [] (drainedLane :: rest)) :
    Held first lane delivery
      (worker.drainLane environment drainedLane rest) := by
  rw [Held, draining] at held
  unfold Held Worker.drainLane
  dsimp only
  rcases held with ⟨member, waits⟩ | ⟨batch, left, _⟩ | inTask
  · by_cases same : lane = drainedLane
    · refine Or.inr (Or.inl ?_)
      rw [same] at waits ⊢
      have split := (MicroBatcher.drain_pending
        (batcherConfig environment.settings drainedLane)
        (worker.lane drainedLane).batcher).mem_iff.mp waits
      obtain ⟨batch, batchMember, inBatch⟩ := List.mem_flatMap.mp split
      exact ⟨batch, List.mem_map_of_mem batchMember, inBatch⟩
    · refine Or.inl ⟨(List.mem_cons.mp member).resolve_left same, ?_⟩
      rw [Worker.setBatcher, Worker.setLane_lane_of_ne same]
      exact waits
  · cases left
  · exact Or.inr (Or.inr inTask)

/-- The batch of a delivery, or another one, gets its task. -/
theorem Held.drainBatch
    {drainedLane : LaneName} {batch : Batch (Delivery Body) BatchKey}
    {batches : List (LaneName × Batch (Delivery Body) BatchKey)}
    {lanes : List LaneName}
    (held : Held first lane delivery worker)
    (grown : first ≤ worker.processes.length)
    (draining : worker.main =
      .draining none ((drainedLane, batch) :: batches) lanes) :
    Held first lane delivery
      (worker.drainBatch drainedLane batch batches lanes) := by
  rw [Held, draining] at held
  unfold Held Worker.drainBatch
  dsimp only
  rcases held with waits | ⟨other, member, inBatch⟩ | inTask
  · exact Or.inl waits
  · rcases List.mem_cons.mp member with same | later
    · cases same
      refine Or.inr (Or.inr ⟨worker.processes.length, batch.items, grown, ?_,
        inBatch⟩)
      rw [Worker.task?]
      dsimp only
      rw [List.getElem?_concat_length, Option.map_some, task_newProcess]
    · exact Or.inr (Or.inl ⟨other, later, inBatch⟩)
  · obtain ⟨number, deliveries, late, known, member⟩ := inTask
    exact Or.inr (Or.inr ⟨number, deliveries, late,
      task_append _ _ known rfl, member⟩)

/-- A step that moves neither `run` nor a batcher. -/
theorem Held.frame (held : Held first lane delivery worker)
    (taken : WorkerStep environment worker action after)
    (main : after.main = worker.main)
    (sameLane : after.lane = worker.lane) :
    Held first lane delivery after := by
  unfold Held at held ⊢
  rw [main, sameLane]
  cases state : worker.main with
  | draining current batches lanes =>
      rw [state] at held
      exact held.imp_right (Or.imp_right (fun inTask => inTask.step taken))
  | _ =>
      rw [state] at held
      exact held.step taken

/-- Draining, a worker buffers nothing. -/
theorem receive_of_draining (draining : worker.draining = true)
    (lane : LaneName) (message : Message Body) (freshId : PyStr)
    (now : Instant) (clock : Seconds) :
    (worker.receive environment lane message freshId now clock).main =
        worker.main ∧
      (worker.receive environment lane message freshId now clock).lane =
        worker.lane := by
  unfold Worker.receive
  rw [draining, onMessage_of_draining]
  exact ⟨rfl, rfl⟩

theorem Stage.draining_of_begun (stage : Stage worker)
    (begun : worker.main.drainBegun = true) : worker.draining = true := by
  unfold Stage at stage
  cases main : worker.main with
  | draining current batches lanes =>
      rw [main] at stage
      exact stage.1
  | closing =>
      rw [main] at stage
      exact stage.draining
  | closed =>
      rw [main] at stage
      exact stage.draining
  | _ =>
      rw [main] at begun
      cases begun

/-- The drain goes on from batch to batch and from lane to lane, up to the
connection. -/
theorem DrainSound.goesOn
    (drainSound : DrainSound environment workerId worker)
    (begun : worker.main.drainBegun = true)
    (grown : first ≤ worker.processes.length)
    (taken : WorkerStep environment worker action after)
    (graced : after.graceExpired = false) (kept : after.main ≠ .failed) :
    after.main.drainBegun = true ∧ ∀ lane delivery,
      Held first lane delivery worker → Held first lane delivery after := by
  obtain ⟨inGrace, notOver⟩ := graced_before taken graced
  have later : worker.main.loopsCancelled = true := by
    cases main : worker.main <;> rw [main] at begun <;>
      first
        | rfl
        | cases begun
  by_cases batch : action.IsBatch
  · obtain ⟨main, lane⟩ := batch_weight batch taken
    rw [main]
    exact ⟨begun, fun _ _ held => held.frame taken main lane⟩
  have same := taken
  cases taken with
  | receive consuming connected fresh =>
      have stage := (drainSound.orderly inGrace).stage
      obtain ⟨main, lane⟩ := @receive_of_draining Body environment worker
        (stage.draining_of_begun begun) _ _ _ _ _
      rw [main]
      exact ⟨begun, fun _ _ held => held.frame same main lane⟩
  | answerHandler found state awaited running =>
      exact ⟨begun, fun _ _ held => held⟩
  | drainLane draining =>
      exact ⟨rfl, fun _ _ held => held.drainLane draining⟩
  | drainBatch draining =>
      exact ⟨rfl, fun _ _ held => held.drainBatch grown draining⟩
  | drainedBatch draining found state =>
      have returned :=
        drainSound.returns inGrace _ _ _ _ _ draining found state
      rw [Worker.drainedBatch, if_pos ⟨inGrace, returned⟩]
      refine ⟨rfl, fun lane delivery held => ?_⟩
      rw [Held, draining] at held
      exact held
  | drained draining =>
      refine ⟨rfl, fun lane delivery held => ?_⟩
      rw [Held, draining] at held
      rcases held with ⟨left, _⟩ | ⟨batch, left, _⟩ | inTask
      · cases left
      · cases left
      · exact inTask
  | close closing =>
      refine ⟨rfl, fun lane delivery held => ?_⟩
      rw [Held, closing] at held
      exact held
  | closeFailed closing =>
      exact False.elim (kept rfl)
  | graceOver timed running =>
      exact False.elim (notOver rfl)
  | takeBatch loop running ready =>
      rw [later] at running
      cases running
  | resumeLoop loop running found state =>
      rw [later] at running
      cases running
  | consume starting =>
      rw [starting] at begun
      cases begun
  | startLoop starting consuming =>
      rw [starting] at begun
      cases begun
  | serve starting =>
      rw [starting] at begun
      cases begun
  | cancelLoop joining started =>
      rw [joining] at begun
      cases begun
  | beginShutdown running =>
      rcases running with serving | ⟨lanes, starting⟩
      · rw [serving] at begun
        cases begun
      · rw [starting] at begun
        cases begun
  | consumersCancelled cancelling =>
      rw [cancelling] at begun
      cases begun
  | loopsJoined joining finished =>
      rw [joining] at begun
      cases begun
  | inflightJoined joining finished =>
      rw [joining] at begun
      cases begun
  | _ =>
      exact (batch trivial).elim

theorem Drains.step (drains : Drains before worker)
    (drainSound : DrainSound environment workerId worker)
    (taken : CalmStep environment worker action after)
    (graced : after.graceExpired = false) (kept : after.main ≠ .failed) :
    Drains before after := by
  obtain ⟨inGrace, _⟩ := graced_before taken.1 graced
  obtain ⟨begun, held⟩ := drainSound.goesOn drains.begun drains.grown taken.1
    graced kept
  have stage := (drainSound.orderly inGrace).stage
  exact
    { begun := begun
      grown := Nat.le_trans drains.grown (processes_grow taken.1)
      shaped := drains.shaped.step drainSound.sound.outcomes
        (fun _ _ => inGrace)
        (fun _ late => drains.settlesFor stage taken late) taken.1
      held := fun lane delivery waits =>
        held lane delivery (drains.held lane delivery waits) }

theorem drains_start {lanes : List LaneName}
    (drainSound : DrainSound environment workerId worker)
    (graced : worker.graceExpired = false)
    (draining : worker.main = .draining none [] lanes) :
    Drains worker worker where
  begun := by
    rw [draining]
    rfl
  grown := Nat.le_refl _
  shaped := by
    intro number process found
    refine (drainSound.shaped number process found).mono ?_
    intro late
    have inside := (List.getElem?_eq_some_iff.mp found).1
    omega
  held := by
    intro lane delivery waits
    have stage := (drainSound.orderly graced).stage
    rw [Stage, draining] at stage
    rw [Held, draining]
    by_cases left : lane ∈ lanes
    · exact Or.inl ⟨left, waits⟩
    · have empty : worker.LaneEmpty lane := stage.2.2.1 lane left
      rw [pending_of_laneEmpty empty] at waits
      cases waits

theorem failed_stays (taken : WorkerStep environment worker action after)
    (failed : worker.main = .failed) : after.main = .failed := by
  by_cases batch : action.IsBatch
  · rw [(batch_weight batch taken).1]
    exact failed
  cases taken with
  | receive consuming connected fresh =>
      unfold Worker.receive
      dsimp only
      split <;> exact failed
  | startLoop starting consuming =>
      rw [starting] at failed
      cases failed
  | serve starting =>
      rw [starting] at failed
      cases failed
  | beginShutdown running =>
      rcases running with serving | ⟨lanes, starting⟩
      · rw [serving] at failed
        cases failed
      · rw [starting] at failed
        cases failed
  | consumersCancelled cancelling =>
      rw [cancelling] at failed
      cases failed
  | loopsJoined joining finished =>
      rw [joining] at failed
      cases failed
  | inflightJoined joining finished =>
      rw [joining] at failed
      cases failed
  | drainLane draining =>
      rw [draining] at failed
      cases failed
  | drainBatch draining =>
      rw [draining] at failed
      cases failed
  | drainedBatch draining found state =>
      rw [draining] at failed
      cases failed
  | drained draining =>
      rw [draining] at failed
      cases failed
  | close closing =>
      rw [closing] at failed
      cases failed
  | closeFailed closing =>
      rfl
  | startProcess found state running =>
      exact False.elim (batch trivial)
  | answerExpiry found state itemFound itemState awaited running =>
      exact False.elim (batch trivial)
  | endThread found finished =>
      exact False.elim (batch trivial)
  | _ =>
      exact failed

/-- After `run` has failed, nothing closes the connection. -/
theorem failed_forever
    (reachable : Reachable (WorkerStep environment) worker after)
    (failed : worker.main = .failed) : after.main = .failed :=
  Reachable.invariant (I := fun state => state.main = .failed) reachable
    failed (fun _ _ _ held taken => failed_stays taken held)

/-- Between the states `before` and `after` every batch that was drained has
been processed: no delivery waits in a batcher, no batch was given up, every
delivery that waited `before` is in the batch of a task created since, and
each such task has returned with every delivery settled. -/
structure DrainProcessed (before after : Worker Body) : Prop where
  emptied : ∀ lane, (after.lane lane).batcher.pending = []
  abandoned : after.abandoned = []
  held : ∀ lane, ∀ delivery ∈ (before.lane lane).batcher.pending,
    InTask before.processes.length lane delivery after
  returned : ∀ (number : Nat) (process : Process Body),
    before.processes.length ≤ number →
      after.processes[number]? = some process →
        process.state = .ended .returned ∧
          ∀ item ∈ process.items, item.IsDone

theorem Drains.processed (drains : Drains before worker)
    (orderly : Orderly worker) (closing : worker.main = .closing) :
    DrainProcessed before worker := by
  have emptied := orderly.stage
  rw [Stage, closing] at emptied
  refine ⟨fun lane => pending_of_laneEmpty (emptied.lanes lane),
    orderly.abandoned, ?_, ?_⟩
  · intro lane delivery waits
    have held := drains.held lane delivery waits
    rw [Held, closing] at held
    exact held
  · intro number process late found
    have ended := emptied.processes number process found
    have shaped := drains.shaped number process found
    cases state : process.state with
    | ended how =>
        rw [Process.Shaped, state] at shaped
        obtain ⟨returned, done⟩ := shaped late
        rw [returned]
        exact ⟨rfl, done⟩
    | _ =>
        rw [state] at ended
        cases ended

/-- A drain that comes to the connection within the grace period has processed
every batch. -/
theorem drain_processes {lanes : List LaneName}
    (drainSound : DrainSound environment workerId before)
    (draining : before.main = .draining none [] lanes)
    (reachable : Reachable (CalmStep environment) before after)
    (inGrace : after.graceExpired = false)
    (closing : after.main = .closing) : DrainProcessed before after := by
  have graced : before.graceExpired = false :=
    Reachable.invariant
      (I := fun state => state.graceExpired = false →
        before.graceExpired = false) reachable id
      (fun _ _ _ earlier taken later =>
        earlier (graced_before taken.1 later).1) inGrace
  have kept : DrainSound environment workerId after ∧
      (after.graceExpired = false → after.main ≠ .failed →
        Drains before after) := by
    refine Reachable.invariant
      (I := fun state => DrainSound environment workerId state ∧
        (state.graceExpired = false → state.main ≠ .failed →
          Drains before state)) reachable
      ⟨drainSound, fun _ _ => drains_start drainSound graced draining⟩ ?_
    intro earlier label later held taken
    obtain ⟨sound, drains⟩ := held
    refine ⟨sound.step taken, fun laterGraced notFailed => ?_⟩
    have earlierGraced := (graced_before taken.1 laterGraced).1
    have earlierKept : earlier.main ≠ .failed :=
      fun failed => notFailed (failed_stays taken.1 failed)
    exact (drains earlierGraced earlierKept).step sound taken laterGraced
      notFailed
  refine (kept.2 inGrace ?_).processed (kept.1.orderly inGrace) closing
  rw [closing]
  simp

end Processed

end EmbeddingService
