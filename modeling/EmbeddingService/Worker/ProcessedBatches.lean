import EmbeddingService.Batcher.Batches
import EmbeddingService.Worker.Drain

/-!
# The batches in process

A task is created for a batch that a lane's batcher released: of one type and
flag, and within the limit of the lane unless it is a single delivery.
-/

namespace EmbeddingService

section Batches

variable {Body : Type} {environment : Environment Body}
  {worker after : Worker Body}

/-- A lane and the deliveries of a batch that its batcher can release. -/
def ReleasedTask (settings : Settings)
    (task : LaneName × List (Delivery Body)) : Prop :=
  ∃ batch : Batch (Delivery Body) BatchKey, batch.items = task.2 ∧
    BatchWellFormed (batcherConfig settings task.1) batch

/-- The batchers are well formed, and so is every batch that waits for the
drain or that a task was created for. -/
structure BatchesSound (environment : Environment Body)
    (worker : Worker Body) : Prop where
  batchers : ∀ lane, (worker.lane lane).batcher.WellFormed
    (batcherConfig environment.settings lane)
  drained : ∀ current batches lanes,
    worker.main = .draining current batches lanes →
      ∀ entry ∈ batches,
        BatchWellFormed (batcherConfig environment.settings entry.1) entry.2
  tasks : ∀ number task, worker.task? number = some task →
    ReleasedTask environment.settings task

theorem batchesSound_start (workerId : PyStr) (lanes : List LaneName) :
    BatchesSound environment (Worker.start Body workerId lanes) where
  batchers := fun lane => MicroBatcher.wellFormed_empty _
  drained := by
    intro current batches lanes draining
    cases draining
  tasks := by
    intro number task known
    cases known

/-- A task of a worker after a step was there before, or is new. -/
theorem task_before {action : WorkerAction Body} {number : Nat}
    {task : LaneName × List (Delivery Body)}
    (taken : WorkerStep environment worker action after)
    (inside : number < worker.processes.length)
    (known : after.task? number = some task) :
    worker.task? number = some task := by
  have before : worker.task? number =
      some (worker.processes[number]).task := by
    rw [Worker.task?, List.getElem?_eq_getElem inside, Option.map_some]
  have kept := task_step before taken
  rw [known] at kept
  rw [before, ← kept]

/-- A step that creates no task. -/
theorem BatchesSound.keep (sound : BatchesSound environment worker)
    {action : WorkerAction Body}
    (taken : WorkerStep environment worker action after)
    (batchers : ∀ lane, (after.lane lane).batcher.WellFormed
      (batcherConfig environment.settings lane))
    (drained : ∀ current batches lanes,
      after.main = .draining current batches lanes →
        ∀ entry ∈ batches,
          BatchWellFormed (batcherConfig environment.settings entry.1)
            entry.2)
    (created : after.processes.length = worker.processes.length) :
    BatchesSound environment after where
  batchers := batchers
  drained := drained
  tasks := by
    intro number task known
    obtain ⟨process, found, _⟩ := Option.map_eq_some_iff.mp known
    have inside := (List.getElem?_eq_some_iff.mp found).1
    rw [created] at inside
    exact sound.tasks number task (task_before taken inside known)

/-- A step that creates the task of a batch. -/
theorem BatchesSound.create (sound : BatchesSound environment worker)
    {action : WorkerAction Body}
    (taken : WorkerStep environment worker action after)
    (batchers : ∀ lane, (after.lane lane).batcher.WellFormed
      (batcherConfig environment.settings lane))
    (drained : ∀ current batches lanes,
      after.main = .draining current batches lanes →
        ∀ entry ∈ batches,
          BatchWellFormed (batcherConfig environment.settings entry.1)
            entry.2)
    {lane : LaneName} {batch : Batch (Delivery Body) BatchKey}
    (wellFormed : BatchWellFormed
      (batcherConfig environment.settings lane) batch)
    (created : after.processes =
      worker.processes ++ [newProcess lane batch]) :
    BatchesSound environment after where
  batchers := batchers
  drained := drained
  tasks := by
    intro number task known
    obtain ⟨process, found, same⟩ := Option.map_eq_some_iff.mp known
    rw [created] at found
    rcases ListUpdate.found_concat found with before | ⟨_, rfl⟩
    · have inside := (List.getElem?_eq_some_iff.mp before).1
      exact sound.tasks number task (task_before taken inside known)
    · rw [← same, task_newProcess]
      exact ⟨batch, rfl, wellFormed⟩

theorem BatchesSound.setBatcher (sound : BatchesSound environment worker)
    {name : LaneName} {updated : Lane Body}
    (wellFormed : updated.batcher.WellFormed
      (batcherConfig environment.settings name)) (lane : LaneName) :
    ((worker.setLane name updated).lane lane).batcher.WellFormed
      (batcherConfig environment.settings lane) := by
  by_cases own : lane = name
  · rw [own, Worker.setLane_lane_self]
    exact wellFormed
  · rw [Worker.setLane_lane_of_ne own]
    exact sound.batchers lane

theorem BatchesSound.batchStep (sound : BatchesSound environment worker)
    {action : WorkerAction Body} (batch : action.IsBatch)
    (taken : WorkerStep environment worker action after) :
    BatchesSound environment after := by
  rcases step_isBatch batch taken with ⟨threads, same⟩ | ⟨number, batchStep⟩
  · rw [same] at taken ⊢
    exact sound.keep taken sound.batchers sound.drained rfl
  · refine sound.keep taken ?_ ?_ ?_
    · rw [batchStep.lane]
      exact sound.batchers
    · rw [batchStep.main]
      exact sound.drained
    · obtain ⟨process, updated, found, ended, processes⟩ :=
        batchStep.processes
      rw [processes, List.length_set]

theorem BatchesSound.receive (sound : BatchesSound environment worker)
    {lane : LaneName} {message : Message Body} {freshId : PyStr}
    {now : Instant} {clock : Seconds}
    (taken : WorkerStep environment worker
      (.receive lane message freshId now clock)
      (worker.receive environment lane message freshId now clock)) :
    BatchesSound environment
      (worker.receive environment lane message freshId now clock) := by
  unfold Worker.receive at taken ⊢
  dsimp only at taken ⊢
  split at taken
  · exact sound.keep taken
      (sound.setBatcher
        (MicroBatcher.add_wellFormed _ (sound.batchers lane) _ _))
      sound.drained rfl
  · exact sound.keep taken sound.batchers sound.drained rfl

theorem BatchesSound.takeBatch (sound : BatchesSound environment worker)
    {lane : LaneName} {clock : Seconds}
    {batch : Batch (Delivery Body) BatchKey}
    {rest : MicroBatcher (Delivery Body) BatchKey}
    (taken : WorkerStep environment worker (.takeBatch lane clock)
      (worker.takeBatch lane batch rest))
    (ready : (worker.lane lane).batcher.takeReady
      (batcherConfig environment.settings lane) clock =
        some (batch, rest)) :
    BatchesSound environment (worker.takeBatch lane batch rest) := by
  have released :=
    MicroBatcher.takeReady_popWellFormed (sound.batchers lane) ready
  have left :=
    MicroBatcher.takeReady_wellFormed (sound.batchers lane) ready
  exact sound.create taken (sound.setBatcher left) sound.drained
    released.batch rfl

theorem BatchesSound.drainLane (sound : BatchesSound environment worker)
    {lane : LaneName} {rest : List LaneName}
    (taken : WorkerStep environment worker (.drainLane lane)
      (worker.drainLane environment lane rest)) :
    BatchesSound environment (worker.drainLane environment lane rest) := by
  refine sound.keep taken
    (sound.setBatcher (MicroBatcher.drain_wellFormed _ _)) ?_ rfl
  intro current batches lanes draining entry member
  cases draining
  obtain ⟨batch, released, rfl⟩ := List.mem_map.mp member
  rw [← MicroBatcher.drainPops_batches] at released
  obtain ⟨popped, popMember, rfl⟩ := List.mem_map.mp released
  exact (MicroBatcher.drainPops_popWellFormed _ _ (sound.batchers lane)
    popped popMember).batch

theorem BatchesSound.drainedBatch (sound : BatchesSound environment worker)
    {number : Nat} {how : Ending} {timeoutError : Bool}
    {batches : List (LaneName × Batch (Delivery Body) BatchKey)}
    {lanes : List LaneName}
    (draining : worker.main = .draining (some number) batches lanes)
    (taken : WorkerStep environment worker (.drainedBatch timeoutError)
      (worker.drainedBatch how timeoutError batches lanes)) :
    BatchesSound environment
      (worker.drainedBatch how timeoutError batches lanes) := by
  unfold Worker.drainedBatch at taken ⊢
  by_cases goesOn : worker.graceExpired = false ∧ how = .returned
  · rw [if_pos goesOn] at taken ⊢
    refine sound.keep taken sound.batchers ?_ rfl
    intro current left remaining drains
    cases drains
    exact sound.drained _ _ _ draining
  · rw [if_neg goesOn] at taken ⊢
    refine sound.keep taken sound.batchers ?_ rfl
    intro current left remaining drains
    unfold Worker.drainFailure at drains
    dsimp only at drains
    split at drains
    · cases drains
    · split at drains <;> cases drains

theorem BatchesSound.step (sound : BatchesSound environment worker)
    {action : WorkerAction Body}
    (taken : WorkerStep environment worker action after) :
    BatchesSound environment after := by
  by_cases batch : action.IsBatch
  · exact sound.batchStep batch taken
  have step := taken
  cases taken with
  | consume starting =>
      exact sound.keep step (sound.setBatcher (sound.batchers _))
        sound.drained rfl
  | startLoop starting consuming =>
      exact sound.keep step (sound.setBatcher (sound.batchers _))
        (fun _ _ _ draining => nomatch draining) rfl
  | receive consuming connected fresh =>
      exact sound.receive step
  | takeBatch loop running ready =>
      exact sound.takeBatch step ready
  | resumeLoop loop running found state =>
      exact sound.keep step (sound.setBatcher (sound.batchers _))
        sound.drained rfl
  | cancelLoop joining started =>
      exact sound.keep step (sound.setBatcher (sound.batchers _))
        sound.drained rfl
  | inflightJoined joining finished =>
      refine sound.keep step sound.batchers ?_ rfl
      intro current batches lanes draining entry member
      dsimp only at draining
      split at draining
      · cases draining
      · cases draining
        cases member
  | drainLane draining =>
      exact sound.drainLane step
  | @drainBatch lane batch batches lanes draining =>
      have waiting := sound.drained _ _ _ draining
      refine sound.create step sound.batchers ?_
        (waiting _ List.mem_cons_self) rfl
      intro current left remaining drains entry member
      cases drains
      exact waiting entry (List.mem_cons_of_mem _ member)
  | drainedBatch draining found state =>
      exact sound.drainedBatch draining step
  | answerHandler found state awaited running =>
      exact sound.keep step sound.batchers sound.drained rfl
  | graceOver timed running =>
      exact sound.keep step sound.batchers sound.drained rfl
  | startProcess found state running =>
      exact False.elim (batch trivial)
  | answerExpiry found state itemFound itemState awaited running =>
      exact False.elim (batch trivial)
  | endThread found finished =>
      exact False.elim (batch trivial)
  | _ =>
      first
        | exact False.elim (batch trivial)
        | exact sound.keep step sound.batchers
            (fun _ _ _ draining => nomatch draining) rfl

theorem batchesSound_of_reachable {workerId : PyStr}
    {lanes : List LaneName}
    (reachable : LabelledRuns.Reachable (WorkerStep environment)
      (Worker.start Body workerId lanes) worker) :
    BatchesSound environment worker :=
  reachable.invariant (batchesSound_start workerId lanes)
    (fun _ _ _ sound taken => sound.step taken)

end Batches

end EmbeddingService
