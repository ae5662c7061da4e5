import EmbeddingService.Worker.Progress

/-!
# One failed settlement and the rest of the lane

A publish that raises is contained in its own delivery.  An `ack` or `nack`
that raises inside a batch task is not, nor is an attempt that cannot be read:
it ends the task, the task ends its lane loop, and what the lane has buffered
then stays until the shutdown.
-/

namespace EmbeddingService

open LabelledRuns Inevitability

section Contained

variable {Body : Type} {environment : Environment Body} {workerId : PyStr}
  {worker : Worker Body}

theorem containedSound_of_run {lanes : List LaneName}
    {labels : List (WorkerAction Body)}
    (run : Run (WorkerStep environment)
      (Worker.start Body workerId lanes) labels worker)
    (contained : ∀ label ∈ labels, label.Contained)
    (read : AttemptsRead worker) :
    ContainedSound environment workerId worker := by
  refine run.invariant
    (I := fun state =>
      AttemptsRead state → ContainedSound environment workerId state)
    contained (fun _ => containedSound_start lanes) ?_ read
  intro before label after held labelContained taken readAfter
  exact (held (readAfter.of_step taken)).step labelContained readAfter taken

/-- As long as no `ack` or `nack` of a batch task raises, no stop is requested
and the attempts of the failed index jobs can be read, no lane loop ends, and
every delivery that was ever buffered comes to its settlement. -/
theorem laneContinues (environment : Environment Body) (workerId : PyStr)
    (lanes : List LaneName) (worker : Worker Body)
    (labels : List (WorkerAction Body))
    (run : Run (WorkerStep environment)
      (Worker.start Body workerId lanes) labels worker)
    (contained : ∀ label ∈ labels, label.Contained)
    (read : AttemptsRead worker) :
    (∀ lane, (worker.lane lane).loop ≠ .ended) ∧
      ∀ lane message, .buffered lane message ∈ worker.log →
        Inevitable (CarryOn environment)
          (fun state => AttemptsRead state →
            settlements message.tag state.log = 1) worker := by
  have containedSound : ContainedSound environment workerId worker :=
    containedSound_of_run run contained read
  refine ⟨?_, fun lane message buffered =>
    settles_inevitably containedSound buffered⟩
  intro lane ended
  have fits := containedSound.serving.loops lane
  rw [LoopFits, ended] at fits
  exact fits

end Contained

/-- A run in which the reply to an expired index job cannot be published: the
delivery behind it is still carried on. -/
theorem laneContinues_publishRaises :
    ∃ worker : Worker Json, .buffered .index (sampleMessage 1) ∈ worker.log ∧
      (worker.lane .index).loop ≠ .ended ∧
      Inevitable (CarryOn sampleEnvironment)
        (fun state => AttemptsRead state → settlements 1 state.log = 1)
        worker := by
  have buffered :=
    (((((Run.nil (Worker.start Json (pyStr "worker") [.index])).snoc
      (.consume rfl)).snoc (.startLoop rfl rfl)).snoc
      (@WorkerStep.receive Json sampleEnvironment _ .index
        (sampleMessage 0) [] 0 0 rfl rfl
        (fun _ member => nomatch member))).snoc
      (@WorkerStep.takeBatch Json sampleEnvironment _ .index 0 _ _ rfl rfl
        rfl)).snoc
      (@WorkerStep.receive Json sampleEnvironment _ .index
        (sampleMessage 1) [] 0 0 rfl rfl
        (List.forall_mem_singleton.mpr (by decide)))
  have failed := (buffered.snoc
    (@WorkerStep.startProcess Json sampleEnvironment _ 0 _ (fun _ => 20) 20
      rfl rfl rfl)).snoc
    (@WorkerStep.answerExpiry Json sampleEnvironment _ 0 0 _ _ _ .publish
      .raised (fun _ => 20) 20 rfl rfl rfl rfl rfl (by decide))
  have continues := laneContinues _ _ _ _ _ failed
    (by simp [WorkerAction.Contained, WorkerAction.Quiet])
    (attemptsRead_of_all rfl)
  exact ⟨_, .tail _ (.head _), continues.1 .index,
    continues.2 .index (sampleMessage 1) (.tail _ (.head _))⟩

section Stranded

variable {Body : Type} {environment : Environment Body} {workerId : PyStr}
  {worker after : Worker Body} {lane : LaneName}
  {delivery : Delivery Body}

/-- A delivery waits in the batcher of a lane whose loop is dead. -/
structure Stranded (worker : Worker Body) (lane : LaneName)
    (delivery : Delivery Body) : Prop where
  serving : worker.main = .serving
  loop : (worker.lane lane).loop = .ended
  pending : delivery ∈ (worker.lane lane).batcher.pending

theorem Stranded.frame (stranded : Stranded worker lane delivery)
    (main : after.main = worker.main)
    (same : after.lane lane = worker.lane lane) :
    Stranded after lane delivery where
  serving := main.trans stranded.serving
  loop := by
    rw [same]
    exact stranded.loop
  pending := by
    rw [same]
    exact stranded.pending

theorem Stranded.setLane (stranded : Stranded worker lane delivery)
    {other : LaneName} (different : lane ≠ other) (changed : Lane Body) :
    Stranded (worker.setLane other changed) lane delivery :=
  stranded.frame rfl (Worker.setLane_lane_of_ne different)

theorem Stranded.receive (stranded : Stranded worker lane delivery)
    (other : LaneName) (message : Message Body) (freshId : PyStr)
    (now : Instant) (clock : Seconds) :
    Stranded (worker.receive environment other message freshId now clock)
      lane delivery := by
  have handled : ∀ handlers log, Stranded
      { worker with handlers := handlers, log := log } lane delivery :=
    fun handlers log => stranded.frame rfl rfl
  unfold Worker.receive
  dsimp only
  split
  · by_cases same : lane = other
    · subst same
      refine ⟨stranded.serving, ?_, ?_⟩
      · rw [Worker.setBatcher, Worker.setLane_lane_self]
        exact stranded.loop
      · rw [Worker.setBatcher, Worker.setLane_lane_self]
        exact (MicroBatcher.add_pending _ _ _ _).mem_iff.mpr
          (List.mem_cons_of_mem _ stranded.pending)
    · exact (handled _ _).setLane same _
  · exact handled _ _

/-- Nothing but the shutdown takes a stranded delivery up. -/
theorem Stranded.step (stranded : Stranded worker lane delivery)
    {action : WorkerAction Body} (unstopped : action ≠ .beginShutdown)
    (taken : WorkerStep environment worker action after) :
    Stranded after lane delivery := by
  have notOther : ∀ main : MainState Body, main ≠ .serving →
      worker.main ≠ main :=
    fun main other same => other (same.symm.trans stranded.serving)
  by_cases batch : action.IsBatch
  · rcases step_isBatch batch taken with
      ⟨threads, same⟩ | ⟨number, batchStep⟩
    · rw [same]
      exact stranded.frame rfl rfl
    · exact stranded.frame batchStep.main (congrFun batchStep.lane lane)
  cases taken with
  | receive consuming connected fresh =>
      exact stranded.receive _ _ _ _ _
  | answerHandler found state awaited running =>
      exact stranded.frame rfl rfl
  | @takeBatch other clock batch rest loop running ready =>
      have different : lane ≠ other := by
        intro same
        rw [← same, stranded.loop] at loop
        cases loop
      exact stranded.frame rfl (Worker.setLane_lane_of_ne different)
  | @resumeLoop other number process how loop running found state =>
      have different : lane ≠ other := by
        intro same
        rw [← same, stranded.loop] at loop
        cases loop
      exact stranded.setLane different _
  | beginShutdown running =>
      exact False.elim (unstopped rfl)
  | consume starting =>
      exact False.elim (notOther _ (by simp) starting)
  | startLoop starting consuming =>
      exact False.elim (notOther _ (by simp) starting)
  | serve starting =>
      exact False.elim (notOther _ (by simp) starting)
  | cancelLoop joining started =>
      exact False.elim (notOther _ (by simp) joining)
  | consumersCancelled cancelling =>
      exact False.elim (notOther _ (by simp) cancelling)
  | loopsJoined joining finished =>
      exact False.elim (notOther _ (by simp) joining)
  | inflightJoined joining finished =>
      exact False.elim (notOther _ (by simp) joining)
  | graceOver timed running =>
      exact stranded.frame rfl rfl
  | drainLane draining =>
      exact False.elim (notOther _ (by simp) draining)
  | drainBatch draining =>
      exact False.elim (notOther _ (by simp) draining)
  | drainedBatch draining found state =>
      exact False.elim (notOther _ (by simp) draining)
  | drained draining =>
      exact False.elim (notOther _ (by simp) draining)
  | close closing =>
      exact False.elim (notOther _ (by simp) closing)
  | closeFailed closing =>
      exact False.elim (notOther _ (by simp) closing)
  | _ =>
      exact (batch trivial).elim

/-- However the worker goes on, a stranded delivery is never settled before
the shutdown. -/
theorem Stranded.unsettled (stranded : Stranded worker lane delivery)
    (sound : WorkerSound environment workerId (fun _ _ => True) Attributed
      worker)
    {labels : List (WorkerAction Body)}
    (run : Run (WorkerStep environment) worker labels after)
    (unstopped : ∀ label ∈ labels, label ≠ .beginShutdown) :
    settlements delivery.message.tag after.log = 0 := by
  have held := run.invariant
    (I := fun state => WorkerSound environment workerId (fun _ _ => True)
      Attributed state ∧ Stranded state lane delivery)
    unstopped ⟨sound, stranded⟩ (by
      intro before label next held unstopped taken
      refine ⟨held.1.step (splitsGood_attributed _) ?_ taken,
        held.2.step unstopped taken⟩
      cases label <;> exact trivial)
  obtain ⟨afterSound, afterStranded⟩ := held
  have inLane : heldCell lane delivery ∈ laneCells after.lane := by
    have member :
        heldCell lane delivery ∈
          heldCells lane (after.lane lane).batcher.pending :=
      mem_heldCells_iff.mpr ⟨delivery, afterStranded.pending, rfl⟩
    rw [laneCells, Multiset.mem_add]
    cases lane with
    | query =>
        exact Or.inl member
    | index =>
        exact Or.inr member
  have inLedger : heldCell lane delivery ∈ after.ledger.cells := by
    change _ ∈ after.cells
    simp only [Worker.cells, Multiset.mem_add]
    exact Or.inl (Or.inl (Or.inl (Or.inr inLane)))
  exact (afterSound.ledgerSound.agrees _ inLedger).2

end Stranded

/-- One `ack` that raises while an expired query is dropped from its batch:
the worker is still ready and consuming, its lane loop is dead, and the next
query stays in the batcher for good. -/
theorem laneContinues_fails_ackRaises :
    ∃ (labels : List (WorkerAction Json)) (worker : Worker Json),
      Run (WorkerStep sampleEnvironment)
        (Worker.start Json (pyStr "worker") [.query]) labels worker ∧
      (∀ label ∈ labels, label ≠ .beginShutdown) ∧
      worker.isReady = true ∧
      (worker.lane .query).consuming = true ∧
      (worker.lane .query).loop = .ended ∧
      .buffered .query (sampleMessage 1) ∈ worker.log ∧
      ∀ later after, Run (WorkerStep sampleEnvironment) worker later after →
        (∀ label ∈ later, label ≠ .beginShutdown) →
          settlements 1 after.log = 0 := by
  have buffered :=
    ((((((Run.nil (Worker.start Json (pyStr "worker") [.query])).snoc
      (.consume rfl)).snoc (.startLoop rfl rfl)).snoc (.serve rfl)).snoc
      (@WorkerStep.receive Json sampleEnvironment _ .query
        (sampleMessage 0) [] 0 0 rfl rfl
        (fun _ member => nomatch member))).snoc
      (@WorkerStep.takeBatch Json sampleEnvironment _ .query 0 _ _ rfl rfl
        rfl)).snoc
      (@WorkerStep.receive Json sampleEnvironment _ .query
        (sampleMessage 1) [] 0 0 rfl rfl
        (List.forall_mem_singleton.mpr (by decide)))
  have dead := ((buffered.snoc
    (@WorkerStep.startProcess Json sampleEnvironment _ 0 _ (fun _ => 20) 20
      rfl rfl rfl)).snoc
    (@WorkerStep.answerExpiry Json sampleEnvironment _ 0 0 _ _ _ .ack
      .raised (fun _ => 20) 20 rfl rfl rfl rfl rfl (by decide))).snoc
    (@WorkerStep.resumeLoop Json sampleEnvironment _ .query 0 _ .raised rfl
      rfl rfl rfl)
  refine ⟨_, _, dead, by simp, rfl, rfl, rfl, .tail _ (.head _), ?_⟩
  intro later after run unstopped
  exact @Stranded.unsettled Json sampleEnvironment (pyStr "worker") _ after
    .query _ ⟨rfl, rfl, .head _⟩ (workerSound_of_reachable dead.reachable) _
    run unstopped

end EmbeddingService
