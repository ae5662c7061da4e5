import EmbeddingService.Worker.Drain

/-!
# The way of a shutdown to the connection

As long as no `ack` or `nack` raises for a batch of the drain and no attempt is
unreadable there, `_shutdown` can always go on, and all that it waits for ends:
at the latest the end of the grace period cancels it.
-/

namespace EmbeddingService

open LabelledRuns Inevitability

section Disconnects

variable {Body : Type} {environment : Environment Body} {workerId : PyStr}
  {worker after : Worker Body} {number : Nat} {process : Process Body}

/-- Whether `run` is in `_shutdown`, on its way to the connection. -/
def MainState.stopping : MainState Body → Bool
  | .cancellingConsumers => true
  | .joiningLoops => true
  | .joiningInflight => true
  | .draining _ _ _ => true
  | _ => false

/-- The labels of the calls of `_on_message`. -/
def WorkerAction.IsArrival : WorkerAction Body → Prop
  | .receive _ _ _ _ _ => True
  | .answerHandler _ _ _ => True
  | _ => False

/-- A calm step that carries `_shutdown` on.  Messages that still arrive are
handled aside, and a loop that has ended is not cancelled once more. -/
def ShutdownMove (environment : Environment Body)
    (worker after : Worker Body) : Prop :=
  worker.main.stopping = true ∧
    ∃ action : WorkerAction Body, ¬ action.IsArrival ∧
      (∀ lane, action = .cancelLoop lane →
        (worker.lane lane).loop ≠ .ended) ∧
      CalmStep environment worker action after

theorem move_of_batch {action : WorkerAction Body}
    (stopping : worker.main.stopping = true)
    (taken : WorkerStep environment worker action after)
    (batch : action.IsBatch)
    (settles : ∀ number, action.SettlesFor worker number) :
    ∃ next, ShutdownMove environment worker next := by
  refine ⟨after, stopping, action, ?_, ?_, taken,
    fun number _ _ _ => settles number⟩
  · intro arrival
    cases action <;>
      first
        | exact arrival
        | exact batch
  · intro lane same
    rw [same] at batch
    exact batch.elim

/-- A cancelled task that is not over gets its cancellation. -/
theorem cancelled_progress (stopping : worker.main.stopping = true)
    {calm : Prop} (shaped : process.Shaped calm)
    (found : worker.processes[number]? = some process)
    (unended : process.state.isEnded = false)
    (expired : worker.graceExpired = true) :
    ∃ next, ShutdownMove environment worker next := by
  rw [Process.Shaped] at shaped
  cases state : process.state with
  | created =>
      exact move_of_batch stopping
        (.cancelProcess found (Or.inl state) expired) trivial
        (fun _ => trivial)
  | expiring position =>
      rw [state] at shaped
      obtain ⟨⟨item, settling, itemFound, itemState, call, awaited⟩, _⟩ :=
        shaped
      exact move_of_batch stopping
        (@WorkerStep.answerExpiry Body environment worker number position
          process item settling call .cancelled (fun _ => 0) 0 found state
          itemFound itemState awaited ⟨fun _ => expired, fun _ => rfl⟩)
        trivial (fun _ _ _ => by decide)
  | queued =>
      exact move_of_batch stopping
        (.cancelProcess found (Or.inr (Or.inl state)) expired) trivial
        (fun _ => trivial)
  | encoding outcomes =>
      exact move_of_batch stopping
        (.cancelProcess found (Or.inr (Or.inr ⟨outcomes, state⟩)) expired)
        trivial (fun _ => trivial)
  | gathering =>
      rw [state] at shaped
      by_cases finished : process.items.all Process.itemOver = true
      · exact move_of_batch stopping
          (.endGather found state (Or.inl finished)) trivial
          (fun _ => trivial)
      rw [List.all_eq_true] at finished
      push Not at finished
      obtain ⟨item, member, notOver⟩ := finished
      obtain ⟨position, itemFound⟩ := List.mem_iff_getElem?.mp member
      rcases shaped item member with gone | ⟨outcome, scheduled⟩ |
        ⟨settling, finishing, _⟩
      · exact False.elim (notOver
          (by simp [Process.itemOver, show item.state = _ from gone]))
      · exact move_of_batch stopping
          (.cancelFinish found itemFound scheduled expired) trivial
          (fun _ => trivial)
      · have unended : ∀ how, settling ≠ .ended how := by
          intro how same
          rw [same] at finishing
          exact notOver (by simp [Process.itemOver, finishing])
        obtain ⟨call, awaited⟩ := pending_of_unended unended
        exact move_of_batch stopping
          (@WorkerStep.answerFinish Body environment worker number position
            process item settling call .cancelled found itemFound finishing
            awaited (fun _ => Or.inl rfl) (fun _ => expired)) trivial
          (fun _ _ _ => by decide)
  | ended how =>
      rw [state] at unended
      cases unended

theorem move_of_main {action : WorkerAction Body}
    (stopping : worker.main.stopping = true)
    (taken : WorkerStep environment worker action after)
    (arrival : ¬ action.IsArrival)
    (uncancelled : ∀ lane, action ≠ .cancelLoop lane)
    (settles : ∀ number, action.SettlesFor worker number) :
    ∃ next, ShutdownMove environment worker next :=
  ⟨after, stopping, action, arrival,
    fun lane same => False.elim (uncancelled lane same), taken,
    fun number _ _ _ => settles number⟩

/-- A batch of the drain ends, or its grace period does. -/
theorem draining_progress
    (drainSound : DrainSound environment workerId worker)
    {batches : List (LaneName × Batch (Delivery Body) BatchKey)}
    {lanes : List LaneName}
    (main : worker.main = .draining (some number) batches lanes) :
    ∃ next, ShutdownMove environment worker next := by
  have stopping : worker.main.stopping = true := by
    rw [main]
    rfl
  cases expired : worker.graceExpired with
  | false =>
      exact move_of_main stopping
        (.graceOver (Or.inr ⟨_, _, _, main⟩) expired) id (by simp)
        (fun _ => trivial)
  | true =>
      have inside := drainSound.current _ _ _ main
      have found := List.getElem?_eq_getElem inside
      cases state : (worker.processes[number]).state with
      | ended how =>
          exact move_of_main stopping
            (@WorkerStep.drainedBatch Body environment worker number
              batches lanes _ how false main found state) id (by simp)
            (fun _ => trivial)
      | _ =>
          exact cancelled_progress stopping
            (drainSound.shaped number _ found) found
            (by rw [state]; rfl) expired

/-- Until `_shutdown` comes to the connection, it can go on. -/
theorem shutdown_progress
    (drainSound : DrainSound environment workerId worker)
    (stopping : worker.main.stopping = true) :
    ∃ next, ShutdownMove environment worker next := by
  have moves : ∀ {action : WorkerAction Body} {next : Worker Body},
      WorkerStep environment worker action next → ¬ action.IsArrival →
        (∀ lane, action ≠ .cancelLoop lane) →
          (∀ number, action.SettlesFor worker number) →
            ∃ next, ShutdownMove environment worker next :=
    move_of_main stopping
  cases main : worker.main with
  | cancellingConsumers =>
      exact moves (.consumersCancelled main) id (by simp)
        (fun _ => trivial)
  | joiningLoops =>
      by_cases finished : ∀ lane, (worker.lane lane).loop = .absent ∨
          (worker.lane lane).loop = .ended
      · exact moves (.loopsJoined main finished) id (by simp)
          (fun _ => trivial)
      · push Not at finished
        obtain ⟨lane, started, running⟩ := finished
        refine ⟨_, stopping, .cancelLoop lane, id, ?_,
          .cancelLoop main started, fun _ _ _ _ => trivial⟩
        intro other same
        cases same
        exact running
  | joiningInflight =>
      cases expired : worker.graceExpired with
      | false =>
          exact moves (.graceOver (Or.inl main) expired) id (by simp)
            (fun _ => trivial)
      | true =>
          by_cases finished : ∀ process ∈ worker.processes,
              process.state.isEnded = true
          · exact moves (.inflightJoined main finished) id (by simp)
              (fun _ => trivial)
          · push Not at finished
            obtain ⟨process, member, unended⟩ := finished
            obtain ⟨number, found⟩ := List.mem_iff_getElem?.mp member
            exact cancelled_progress stopping
              (drainSound.shaped number process found) found
              (Bool.eq_false_of_not_eq_true unended) expired
  | draining current batches lanes =>
      match current, batches, lanes, main with
      | some number, _, _, main =>
          exact draining_progress drainSound main
      | none, _ :: _, _, main =>
          exact moves (.drainBatch main) id (by simp) (fun _ => trivial)
      | none, [], _ :: _, main =>
          exact moves (.drainLane main) id (by simp) (fun _ => trivial)
      | none, [], [], main =>
          exact moves (.drained main) id (by simp) (fun _ => trivial)
  | _ =>
      rw [main] at stopping
      cases stopping

/-- The stages of `_shutdown` still ahead, the lanes not drained yet, and the
batches of the lane in drain. -/
def MainState.remaining : MainState Body → Nat × Nat × Nat
  | .cancellingConsumers => (4, 0, 0)
  | .joiningLoops => (3, 0, 0)
  | .joiningInflight => (2, 0, 0)
  | .draining (some _) batches lanes =>
      (1, lanes.length, 2 * batches.length + 1)
  | .draining none batches lanes => (1, lanes.length, 2 * batches.length)
  | _ => (0, 0, 0)

/-- One remainder is ahead of another. -/
def Ahead : Nat × Nat × Nat → Nat × Nat × Nat → Prop :=
  Prod.Lex (· < ·) (Prod.Lex (· < ·) (· < ·))

def LoopState.unended : LoopState → Nat
  | .waiting => 1
  | .awaiting _ => 1
  | _ => 0

def Worker.loopsUnended (worker : Worker Body) : Nat :=
  (worker.lane .query).loop.unended + (worker.lane .index).loop.unended

/-- What is left to do at one stage: the end of the grace period, the loops
to cancel, and what lanes and tasks have left. -/
def Worker.stageWeight (worker : Worker Body) : Nat :=
  (if worker.graceExpired then 0 else 1) + worker.loopsUnended +
    worker.laneWeight + worker.taskWeight

/-- What is left of a shutdown, besides calls of the engine. -/
def Worker.shutdownWeight (worker : Worker Body) :
    ((Nat × Nat × Nat) × Nat) × EncodeProgram (List Outcome) :=
  ((worker.main.remaining, worker.stageWeight), worker.program)

def LessLeft : ((Nat × Nat × Nat) × Nat) × EncodeProgram (List Outcome) →
    ((Nat × Nat × Nat) × Nat) × EncodeProgram (List Outcome) → Prop :=
  Prod.Lex (Prod.Lex Ahead (· < ·)) CallProgram.Continues

theorem lessLeft_wellFounded : WellFounded LessLeft := by
  have ahead : WellFounded Ahead :=
    Nat.lt_wfRel.wf.prod_lex (Nat.lt_wfRel.wf.prod_lex Nat.lt_wfRel.wf)
  exact (ahead.prod_lex Nat.lt_wfRel.wf).prod_lex
    CallProgram.continues_wellFounded

theorem lessLeft_of_main
    (ahead : Ahead after.main.remaining worker.main.remaining) :
    LessLeft after.shutdownWeight worker.shutdownWeight :=
  Prod.Lex.left _ _ (Prod.Lex.left _ _ ahead)

theorem lessLeft_of_stage (main : after.main = worker.main)
    (lighter : after.stageWeight < worker.stageWeight) :
    LessLeft after.shutdownWeight worker.shutdownWeight := by
  rw [Worker.shutdownWeight, Worker.shutdownWeight, main]
  exact Prod.Lex.left _ _ (Prod.Lex.right _ lighter)

theorem loopsUnended_setLane (worker : Worker Body) (name : LaneName)
    (lane : Lane Body) :
    (worker.setLane name lane).loopsUnended +
        (worker.lane name).loop.unended =
      worker.loopsUnended + lane.loop.unended := by
  cases name <;> simp [Worker.loopsUnended, Worker.setLane] <;> omega

theorem loopsUnended_setLoop (worker : Worker Body) (name : LaneName)
    (loop : LoopState) :
    (worker.setLoop name loop).loopsUnended +
        (worker.lane name).loop.unended =
      worker.loopsUnended + loop.unended :=
  loopsUnended_setLane worker name { worker.lane name with loop := loop }

theorem laneWeight_setLoop (worker : Worker Body) (name : LaneName)
    (loop : LoopState) :
    (worker.setLoop name loop).laneWeight + (worker.lane name).loop.weight =
      worker.laneWeight + loop.weight := by
  have lanes :
      (worker.setLoop name loop).laneWeight + (worker.lane name).weight =
        worker.laneWeight +
          (20 * (worker.lane name).batcher.weight + loop.weight) :=
    laneWeight_setLane worker name { worker.lane name with loop := loop }
  rw [Lane.weight] at lanes
  omega

/-- A task that moves leaves less to do at the same stage. -/
theorem stageWeight_of_tasks (lane : after.lane = worker.lane)
    (graced : after.graceExpired = worker.graceExpired) :
    after.stageWeight + worker.taskWeight =
      worker.stageWeight + after.taskWeight := by
  rw [Worker.stageWeight, Worker.stageWeight, Worker.loopsUnended,
    Worker.loopsUnended, Worker.laneWeight, Worker.laneWeight, lane, graced]
  omega

theorem batch_lessLeft (exclusion : Exclusion worker)
    {action : WorkerAction Body} (batch : action.IsBatch)
    (taken : WorkerStep environment worker action after) :
    LessLeft after.shutdownWeight worker.shutdownWeight := by
  obtain ⟨main, lane⟩ := batch_weight batch taken
  have graced : after.graceExpired = worker.graceExpired := by
    refine graceExpired_step ?_ taken
    intro same
    rw [same] at batch
    exact batch
  have weights := stageWeight_of_tasks lane graced
  by_cases replies : ∃ position request reply,
      action = .engineReplies position request reply
  · obtain ⟨position, request, reply, same⟩ := replies
    rw [same] at taken
    obtain ⟨continues, tasks⟩ := engineReplies_continues exclusion taken
    have stage : after.stageWeight = worker.stageWeight := by
      omega
    rw [Worker.shutdownWeight, Worker.shutdownWeight, main, stage]
    exact Prod.Lex.right _ continues
  · push Not at replies
    have lighter := batch_lighter batch replies taken
    refine lessLeft_of_stage main ?_
    omega

theorem lessLeft_of_loop (main : after.main = worker.main)
    (graced : after.graceExpired = worker.graceExpired)
    (loops : after.loopsUnended ≤ worker.loopsUnended)
    (lighter : after.weight < worker.weight) :
    LessLeft after.shutdownWeight worker.shutdownWeight := by
  refine lessLeft_of_stage main ?_
  rw [Worker.weight, Worker.weight, main] at lighter
  rw [Worker.stageWeight, Worker.stageWeight, graced]
  omega

/-- A move of a lane loop leaves less to do at the same stage. -/
theorem loop_lessLeft {action : WorkerAction Body} (loops : action.IsLoop)
    (stopping : worker.main.stopping = true)
    (taken : WorkerStep environment worker action after) :
    LessLeft after.shutdownWeight worker.shutdownWeight := by
  have lighter := loop_lighter loops taken
  cases taken with
  | startLoop starting consuming =>
      rw [starting] at stopping
      cases stopping
  | @takeBatch lane clock batch rest loop running ready =>
      have unended := loopsUnended_setLane worker lane
        { worker.lane lane with
          batcher := rest
          loop := .awaiting worker.processes.length }
      rw [loop] at unended
      exact lessLeft_of_loop rfl rfl
        (Nat.le_of_eq (Nat.add_right_cancel unended)) lighter
  | @resumeLoop lane number process how loop running found state =>
      have unended := loopsUnended_setLoop worker lane
        (if how = .returned then .waiting else .ended)
      have fewer : (if how = .returned then LoopState.waiting
          else .ended).unended ≤ 1 := by
        split <;> decide
      have one : (LoopState.awaiting number).unended = 1 := rfl
      rw [loop, one] at unended
      exact lessLeft_of_loop rfl rfl (by omega) lighter
  | _ =>
      exact loops.elim

theorem cancelLoop_lessLeft {lane : LaneName}
    (started : (worker.lane lane).loop ≠ .absent)
    (running : (worker.lane lane).loop ≠ .ended) :
    LessLeft (worker.setLoop lane .ended).shutdownWeight
      worker.shutdownWeight := by
  have unended := loopsUnended_setLoop worker lane .ended
  have lanes := laneWeight_setLoop worker lane .ended
  have one : (worker.lane lane).loop.unended = 1 := by
    cases loop : (worker.lane lane).loop with
    | absent =>
        exact False.elim (started loop)
    | ended =>
        exact False.elim (running loop)
    | _ =>
        rfl
  have idle : LoopState.ended.unended = 0 ∧ LoopState.ended.weight = 0 :=
    ⟨rfl, rfl⟩
  rw [one, idle.1] at unended
  rw [idle.2] at lanes
  have graced : (worker.setLoop lane .ended).graceExpired =
      worker.graceExpired := rfl
  have tasks : (worker.setLoop lane .ended).taskWeight =
      worker.taskWeight := rfl
  refine lessLeft_of_stage rfl ?_
  rw [Worker.stageWeight, Worker.stageWeight, graced, tasks]
  omega

theorem graceOver_lessLeft (running : worker.graceExpired = false) :
    LessLeft worker.graceOver.shutdownWeight worker.shutdownWeight := by
  have before : worker.stageWeight =
      1 + worker.loopsUnended + worker.laneWeight + worker.taskWeight := by
    rw [Worker.stageWeight, running]
    rfl
  have after : worker.graceOver.stageWeight =
      0 + worker.loopsUnended + worker.laneWeight + worker.taskWeight :=
    rfl
  refine lessLeft_of_stage rfl ?_
  omega

/-- A batch of the drain is over: the next one comes, or the connection. -/
theorem drainedBatch_lessLeft
    {batches : List (LaneName × Batch (Delivery Body) BatchKey)}
    {lanes : List LaneName} (how : Ending) (timeoutError : Bool)
    (draining : worker.main = .draining (some number) batches lanes) :
    LessLeft
      (worker.drainedBatch how timeoutError batches lanes).shutdownWeight
      worker.shutdownWeight := by
  refine lessLeft_of_main ?_
  rw [draining]
  unfold Worker.drainedBatch Worker.drainFailure
  split
  · exact Prod.Lex.right _ (Prod.Lex.right _ (Nat.lt_succ_self _))
  · dsimp only
    split
    · exact Prod.Lex.left _ _ Nat.zero_lt_one
    · split <;> exact Prod.Lex.left _ _ Nat.zero_lt_one

/-- Every move leaves less of the shutdown. -/
theorem move_decreases (exclusion : Exclusion worker)
    (move : ShutdownMove environment worker after) :
    LessLeft after.shutdownWeight worker.shutdownWeight := by
  obtain ⟨stopping, action, arrival, running, taken, _⟩ := move
  by_cases batch : action.IsBatch
  · exact batch_lessLeft exclusion batch taken
  by_cases loops : action.IsLoop
  · exact loop_lessLeft loops stopping taken
  cases taken with
  | consume starting =>
      rw [starting] at stopping
      cases stopping
  | serve starting =>
      rw [starting] at stopping
      cases stopping
  | receive consuming connected fresh =>
      exact False.elim (arrival trivial)
  | answerHandler found state awaited running =>
      exact False.elim (arrival trivial)
  | cancelLoop joining started =>
      exact cancelLoop_lessLeft started (running _ rfl)
  | beginShutdown early =>
      rcases early with serving | ⟨lanes, starting⟩
      · rw [serving] at stopping
        cases stopping
      · rw [starting] at stopping
        cases stopping
  | consumersCancelled cancelling =>
      refine lessLeft_of_main ?_
      rw [cancelling]
      exact Prod.Lex.left _ _ (Nat.lt_succ_self 3)
  | loopsJoined joining finished =>
      refine lessLeft_of_main ?_
      rw [joining]
      exact Prod.Lex.left _ _ (Nat.lt_succ_self 2)
  | inflightJoined joining finished =>
      refine lessLeft_of_main ?_
      rw [joining]
      dsimp only
      split
      · exact Prod.Lex.left _ _ Nat.zero_lt_two
      · exact Prod.Lex.left _ _ (Nat.lt_succ_self 1)
  | graceOver timed graced =>
      exact graceOver_lessLeft graced
  | drainLane draining =>
      refine lessLeft_of_main ?_
      rw [draining]
      exact Prod.Lex.right _ (Prod.Lex.left _ _ (Nat.lt_succ_self _))
  | drainBatch draining =>
      refine lessLeft_of_main ?_
      rw [draining]
      refine Prod.Lex.right _ (Prod.Lex.right _ ?_)
      rw [List.length_cons]
      omega
  | drainedBatch draining found state =>
      exact drainedBatch_lessLeft _ _ draining
  | drained draining =>
      refine lessLeft_of_main ?_
      rw [draining]
      exact Prod.Lex.left _ _ Nat.zero_lt_one
  | close closing =>
      rw [closing] at stopping
      cases stopping
  | closeFailed closing =>
      rw [closing] at stopping
      cases stopping
  | startLoop starting consuming =>
      exact False.elim (loops trivial)
  | takeBatch loop early ready =>
      exact False.elim (loops trivial)
  | resumeLoop loop early found state =>
      exact False.elim (loops trivial)
  | _ =>
      exact (batch trivial).elim

/-- A move of `_shutdown` leaves it on its way, or at the connection. -/
theorem move_stays (drainSound : DrainSound environment workerId worker)
    (move : ShutdownMove environment worker after) :
    after.main.stopping = true ∨ after.main = .closing := by
  obtain ⟨stopping, action, arrival, running, taken, _⟩ := move
  by_cases batch : action.IsBatch
  · rw [(batch_weight batch taken).1]
    exact Or.inl stopping
  cases taken with
  | receive consuming connected fresh =>
      exact False.elim (arrival trivial)
  | startLoop starting consuming =>
      rw [starting] at stopping
      cases stopping
  | serve starting =>
      rw [starting] at stopping
      cases stopping
  | inflightJoined joining finished =>
      dsimp only
      split
      · exact Or.inr rfl
      · exact Or.inl rfl
  | @drainedBatch number batches lanes process how timeoutError draining
      found state =>
      unfold Worker.drainedBatch
      split
      · exact Or.inl rfl
      · next failed =>
          have expired : worker.graceExpired = true := by
            by_contra graced
            have inGrace := Bool.eq_false_of_not_eq_true graced
            exact failed ⟨inGrace,
              drainSound.returns inGrace _ _ _ _ _ draining found state⟩
          exact Or.inr (if_pos expired)
  | beginShutdown early =>
      exact Or.inl rfl
  | consumersCancelled cancelling =>
      exact Or.inl rfl
  | loopsJoined joining finished =>
      exact Or.inl rfl
  | drainLane draining =>
      exact Or.inl rfl
  | drainBatch draining =>
      exact Or.inl rfl
  | drained draining =>
      exact Or.inr rfl
  | close closing =>
      rw [closing] at stopping
      cases stopping
  | closeFailed closing =>
      rw [closing] at stopping
      cases stopping
  | startProcess found state running =>
      exact False.elim (batch trivial)
  | answerExpiry found state itemFound itemState awaited running =>
      exact False.elim (batch trivial)
  | endThread found finished =>
      exact False.elim (batch trivial)
  | _ =>
      exact Or.inl stopping

/-- Whatever is raised and however the event loop orders the steps,
`_shutdown` comes to the connection. -/
theorem disconnects_inevitably
    (drainSound : DrainSound environment workerId worker)
    (stopping : worker.main.stopping = true) :
    Inevitable (ShutdownMove environment)
      (fun state => state.main = .closing) worker := by
  refine inevitable_of_progress lessLeft_wellFounded
    (fun state : Worker Body => state.shutdownWeight)
    (I := fun state => DrainSound environment workerId state ∧
      (state.main.stopping = true ∨ state.main = .closing)) ?_ ?_ ?_
    ⟨drainSound, Or.inl stopping⟩
  · intro state next held _ move
    have stays := move_stays held.1 move
    obtain ⟨_, action, _, _, taken⟩ := move
    exact ⟨held.1.step taken, stays⟩
  · intro state next held _ move
    exact move_decreases held.1.sound.exclusion move
  · intro state held notClosing
    exact shutdown_progress held.1 (held.2.resolve_right notClosing)

end Disconnects

/-- In every run in which no `ack` or `nack` raises for a batch of the drain,
and no attempt that `_finish` has to read there is unreadable: a shutdown comes
to the connection, and if it does so within the grace period, it has processed
every batch that it drained. -/
theorem shutdownDisconnects {Body : Type} (environment : Environment Body)
    (workerId : PyStr) (lanes : List LaneName) (worker : Worker Body)
    (reachable : Reachable (CalmStep environment)
      (Worker.start Body workerId lanes) worker) :
    (worker.main.stopping = true →
      Inevitable (ShutdownMove environment)
        (fun state => state.main = .closing) worker) ∧
      ∀ after : Worker Body,
        worker.main = .draining none [] worker.lanes →
          Reachable (CalmStep environment) worker after →
            after.main = .closing → after.graceExpired = false →
              DrainProcessed worker after := by
  have drainSound : DrainSound environment workerId worker :=
    drainSound_of_reachable reachable
  refine ⟨disconnects_inevitably drainSound, ?_⟩
  intro after draining run closing inGrace
  exact drain_processes drainSound draining run inGrace closing

/-- A step that answers no call of a batch task is calm. -/
theorem calmStep {Body : Type} {environment : Environment Body}
    {worker after : Worker Body} {action : WorkerAction Body}
    (taken : WorkerStep environment worker action after)
    (settles : ∀ number, action.SettlesFor worker number) :
    CalmStep environment worker action after :=
  ⟨taken, fun number _ _ _ => settles number⟩

/-- A stop finds one query in its batcher, which expires in the drain. -/
theorem shutdownDisconnects_expiredQuery :
    ∃ stopped worker after : Worker Json,
      Reachable (CalmStep sampleEnvironment)
        (Worker.start Json (pyStr "worker") [.query]) stopped ∧
      Reachable (CalmStep sampleEnvironment) stopped worker ∧
      Reachable (CalmStep sampleEnvironment) worker after ∧
      stopped.main = .cancellingConsumers ∧
      Inevitable (ShutdownMove sampleEnvironment)
        (fun state => state.main = .closing) stopped ∧
      ((worker.lane .query).batcher.pending.map
        (fun delivery => delivery.message.tag)) = [0] ∧
      DrainProcessed worker after := by
  let start := Worker.start Json (pyStr "worker") [.query]
  let stopped : { worker // Reachable (CalmStep sampleEnvironment) start
      worker } := ⟨_, ((((Reachable.refl start).tail
    (calmStep (@WorkerStep.consume Json sampleEnvironment _ .query [] rfl)
      (fun _ => trivial))).tail
    (calmStep (.startLoop rfl rfl) (fun _ => trivial))).tail
    (calmStep (@WorkerStep.receive Json sampleEnvironment _ .query
      (sampleMessage 0) [] 0 0 rfl rfl
      (fun _ member => nomatch member)) (fun _ => trivial))).tail
    (calmStep (.beginShutdown (Or.inr ⟨_, rfl⟩)) (fun _ => trivial))⟩
  let joined : { worker // Reachable (CalmStep sampleEnvironment) stopped.1
      worker } := ⟨_, ((((Reachable.refl stopped.1).tail
    (calmStep (.consumersCancelled rfl) (fun _ => trivial))).tail
    (calmStep (@WorkerStep.cancelLoop Json sampleEnvironment _ .query rfl
      LoopState.noConfusion) (fun _ => trivial))).tail
    (calmStep (.loopsJoined rfl (fun lane => by
      cases lane with
      | query =>
          exact Or.inr rfl
      | index =>
          exact Or.inl rfl)) (fun _ => trivial))).tail
    (calmStep (.inflightJoined rfl (fun _ member => nomatch member))
      (fun _ => trivial))⟩
  have drained := (Reachable.refl joined.1).tail
    (calmStep (@drainLane_of_drained Json sampleEnvironment _ .query [] _ _
      rfl (MicroBatcher.drain_of_single _ _ rfl rfl))
      (fun _ => trivial))
  have closing := ((((drained.tail
    (calmStep (.drainBatch rfl) (fun _ => trivial))).tail
    (calmStep (@WorkerStep.startProcess Json sampleEnvironment _ 0 _
      (fun _ => 20) 20 rfl rfl rfl) (fun _ => trivial))).tail
    (calmStep (@WorkerStep.answerExpiry Json sampleEnvironment _ 0 0 _ _
      .acking .ack .returned (fun _ => 20) 20 rfl rfl rfl rfl rfl
      (by decide)) (fun _ _ _ => by decide))).tail
    (calmStep (@WorkerStep.drainedBatch Json sampleEnvironment _ 0 [] [] _
      .returned false rfl rfl rfl) (fun _ => trivial))).tail
    (calmStep (.drained rfl) (fun _ => trivial))
  have all := shutdownDisconnects _ _ _ _ (stopped.2.trans joined.2)
  exact ⟨_, _, _, stopped.2, joined.2, closing, rfl,
    (shutdownDisconnects _ _ _ _ stopped.2).1 rfl, rfl,
    all.2 _ rfl closing rfl rfl⟩

/-- A stop finds two queries in their batcher.  The `ack` of the first, which
has expired, raises: the second is never processed, and the connection never
closed. -/
theorem shutdownDisconnects_fails_ackRaised :
    ∃ worker after : Worker Json,
      Reachable (WorkerStep sampleEnvironment)
        (Worker.start Json (pyStr "worker") [.query]) worker ∧
      worker.main.stopping = true ∧
      worker.graceExpired = false ∧
      WorkerStep sampleEnvironment worker (.drainedBatch false) after ∧
      after.abandoned.map (fun entry =>
        entry.2.items.map (fun delivery => delivery.message.tag)) = [[1]] ∧
      ∀ later, Reachable (WorkerStep sampleEnvironment) after later →
        later.main = .failed := by
  have stopped := (((((Reachable.refl
    (Worker.start Json (pyStr "worker") [.query])).tail
    (@WorkerStep.consume Json sampleEnvironment _ .query [] rfl)).tail
    (.startLoop rfl rfl)).tail
    (@WorkerStep.receive Json sampleEnvironment _ .query
      (sampleMessage 0) [] 0 0 rfl rfl
      (fun _ member => nomatch member))).tail
    (@WorkerStep.receive Json sampleEnvironment _ .query
      (sampleMessage 1) [] 0 0 rfl rfl
      (List.forall_mem_singleton.mpr (by decide)))).tail
    (.beginShutdown (Or.inr ⟨_, rfl⟩))
  have joined := (((stopped.tail (.consumersCancelled rfl)).tail
    (@WorkerStep.cancelLoop Json sampleEnvironment _ .query rfl
      LoopState.noConfusion)).tail
    (.loopsJoined rfl (fun lane => by
      cases lane with
      | query =>
          exact Or.inr rfl
      | index =>
          exact Or.inl rfl))).tail
    (.inflightJoined rfl (fun _ member => nomatch member))
  have drained := joined.tail
    (@drainLane_of_drained Json sampleEnvironment _ .query [] _ _ rfl (by
      rw [MicroBatcher.drain_of_cons _ _ rfl,
        MicroBatcher.drain_of_cons _ _ rfl,
        MicroBatcher.drain_of_empty _ _ rfl]))
  have raised := (((drained.tail (.drainBatch rfl)).tail
    (@WorkerStep.startProcess Json sampleEnvironment _ 0 _ (fun _ => 20) 20
      rfl rfl rfl)).tail
    (@WorkerStep.answerExpiry Json sampleEnvironment _ 0 0 _ _ .acking .ack
      .raised (fun _ => 20) 20 rfl rfl rfl rfl rfl (by decide)))
  refine ⟨_, _, raised, rfl, rfl,
    @WorkerStep.drainedBatch Json sampleEnvironment _ 0 _ [] _ .raised false
      rfl rfl rfl, rfl, fun _ run => failed_forever run rfl⟩

end EmbeddingService
