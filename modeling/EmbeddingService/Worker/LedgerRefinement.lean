import Mathlib.Tactic.Abel
import EmbeddingService.Encoding
import EmbeddingService.Worker.Process
import EmbeddingService.Worker.LedgerView

/-!
# A worker follows the ledger

Each step of a worker is matched by a few moves of the ledger it keeps: the
batchers, the batches, the tasks and the shutdown lose no delivery, take up
none twice, and settle each as the ledger allows.
-/

namespace EmbeddingService

open LabelledRuns

variable {Body : Type} {environment : Environment Body}
  {Good : EmbeddingJob → EmbeddingResult → Prop}

/-- Every outcome that waits for its `_finish` is good. -/
def ScheduledGood (Good : EmbeddingJob → EmbeddingResult → Prop)
    (worker : Worker Body) : Prop :=
  ∀ process ∈ worker.processes, ∀ item ∈ process.items, ∀ outcome,
    item.state = .scheduled outcome →
      GoodOutcome Good item.delivery.job outcome

section Matching

variable {worker : Worker Body} {number : Nat} {process : Process Body}

/-- Reachability of ledgers under the moves of one worker. -/
abbrev LedgerFollows (environment : Environment Body) (workerId : PyStr)
    (Good : EmbeddingJob → EmbeddingResult → Prop) :
    Ledger Body → Ledger Body → Prop :=
  Reachable (Ledger.Step environment workerId Good)

theorem ledgerFollows_of_eq {workerId : PyStr}
    {before after : Ledger Body} (same : after = before) :
    LedgerFollows environment workerId Good before after := by
  rw [same]
  exact Reachable.refl before

theorem ledgerFollows_single {workerId : PyStr}
    {before middle after : Ledger Body}
    (taken : Ledger.Step environment workerId Good before () middle)
    (same : after = middle) :
    LedgerFollows environment workerId Good before after := by
  rw [same]
  exact (Run.single taken).reachable

theorem itemCells_append (lane : LaneName)
    (first second : List (Item Body)) :
    itemCells lane (first ++ second) =
      itemCells lane first + itemCells lane second := by
  simp [itemCells]

theorem itemCells_markLive (lane : LaneName) (items : List (Item Body)) :
    itemCells lane (items.map Process.markLive) = itemCells lane items := by
  induction items with
  | nil =>
      rfl
  | cons item rest inductionHypothesis =>
      have same : (Process.markLive item).cell lane = item.cell lane := by
        cases state : item.state <;>
          simp [Process.markLive, Item.cell, Item.phase, state]
      rw [List.map_cons, itemCells_cons, itemCells_cons, same,
        inductionHypothesis]

theorem itemCells_assignOutcomes (lane : LaneName)
    (items : List (Item Body)) :
    ∀ outcomes, itemCells lane (Process.assignOutcomes items outcomes) =
      itemCells lane items := by
  induction items with
  | nil =>
      intro outcomes
      rfl
  | cons item rest inductionHypothesis =>
      intro outcomes
      rw [Process.assignOutcomes.eq_def]
      dsimp only
      split
      · next live =>
          rw [itemCells_cons, itemCells_cons, inductionHypothesis]
          simp [Item.cell, Item.phase, live]
      · rw [itemCells_cons, itemCells_cons, inductionHypothesis]

/-- `_process` up to its next await takes up at most one delivery. -/
theorem ledger_runProcess
    (found : worker.processes[number]? = some process)
    (readings : Nat → Instant) (now : Instant) :
    LedgerFollows environment worker.workerId Good worker.ledger
      (worker.runProcess environment number process readings now).ledger := by
  have keptCells : ∀ state, (worker.setProcess number
      { process.allLive with state := state }).cells = worker.cells := by
    intro state
    apply cells_setProcess_same found
    exact itemCells_markLive process.lane process.items
  have runs :=
    runProcess_runs environment worker number process readings now
  generalize worker.runProcess environment number process readings now =
    result at runs
  cases runs with
  | @expires before after item split unchecked late =>
      obtain ⟨outside, cellsBefore, cellsAfter⟩ :=
        exists_cells_setProcess found
      have phaseBefore : item.cell process.lane =
          heldCell process.lane item.delivery := by
        simp [Item.cell, Item.phase, heldCell, unchecked]
      have held : worker.ledger.cells =
          heldCell process.lane item.delivery ::ₘ
            (itemCells process.lane before +
              itemCells process.lane after + outside) := by
        change worker.cells = _
        rw [cellsBefore, Process.cells, split, itemCells_append,
          itemCells_cons, phaseBefore, Multiset.add_cons,
          Multiset.cons_add]
      refine ledgerFollows_single (Ledger.Step.expire held late)
        (Ledger.ext rfl rfl ?_ rfl)
      have moved := cellsAfter
        { process with
          items := before.map Process.markLive ++
            { item with
              state := .expiring
                (expire environment worker.workerId process.lane
                  item.delivery (readings before.length)).1 } :: after
          state := .expiring before.length }
      refine moved.trans ?_
      rw [Process.cells, itemCells_append, itemCells_markLive,
        itemCells_cons, Multiset.add_cons, Multiset.cons_add]
      rfl
  | ends nothingLive =>
      exact ledgerFollows_of_eq (Ledger.ext rfl rfl (keptCells _) rfl)
  | enters someLive inside =>
      exact ledgerFollows_single Ledger.Step.encode
        (Ledger.ext rfl rfl (keptCells _) rfl)
  | queues someLive outside =>
      exact ledgerFollows_of_eq (Ledger.ext rfl rfl (keptCells _) rfl)

/-- The answer to a call of `_expire`, and what `_process` does next. -/
theorem ledger_answerExpiry {position : Nat} {item : Item Body}
    {settling : Settling Body}
    (found : worker.processes[number]? = some process)
    (itemFound : process.items[position]? = some item)
    (itemState : item.state = .expiring settling)
    (how : Ending) (readings : Nat → Instant) (now : Instant) :
    LedgerFollows environment worker.workerId Good worker.ledger
      (worker.answerExpiry environment number process position item settling
        how readings now).ledger := by
  obtain ⟨rest, cellsBefore, cellsAfter⟩ :=
    exists_cells_setItem found itemFound
  have phaseBefore : item.cell process.lane =
      { lane := process.lane
        message := item.delivery.message
        phase := .settling settling } := by
    simp [Item.cell, Item.phase, itemState]
  rw [phaseBefore] at cellsBefore
  have resumed : ∀ state, LedgerFollows environment worker.workerId Good
      worker.ledger
      (Worker.ledger ((worker.record (settling.resume process.lane
          item.delivery.message how).2).setProcess number
        { process with
          items := process.items.set position
            { item with
              state := .expiring (settling.resume process.lane
                item.delivery.message how).1 }
          state := state })) := by
    intro state
    exact ledgerFollows_single (Ledger.Step.resume cellsBefore)
      (Ledger.ext rfl rfl (cellsAfter _ state) rfl)
  have answers := answerExpiry_answers environment worker number process
    position item settling how readings now
  generalize worker.answerExpiry environment number process position item
    settling how readings now = result at answers
  cases answers with
  | continues returned =>
      have foundAfter := answeredExpiry_found found position item
        (settling.resume process.lane item.delivery.message how)
      exact (resumed process.state).trans
        (ledger_runProcess foundAfter readings now)
  | @leaves ending failed ended =>
      have left := resumed (.ended ending)
      refine left.trans (ledgerFollows_of_eq ?_)
      simp [Worker.answeredExpiry, Worker.setProcess, Worker.ledger,
        Worker.cells, Worker.record]
  | awaits pending =>
      exact resumed process.state

end Matching

section Steps

variable {worker : Worker Body}

/-- A delivery arrives in the ledger as it does at the worker. -/
theorem receive_ledger {lane : LaneName} {message : Message Body}
    {freshId : PyStr} {now : Instant} {clock : Seconds} :
    (worker.receive environment lane message freshId now clock).ledger =
      worker.ledger.receive lane message
        (onMessage environment worker.workerId lane worker.draining freshId
          now message) := by
  unfold Worker.receive
  generalize onMessage environment worker.workerId lane worker.draining
    freshId now message = segment
  obtain ⟨state, events⟩ := segment
  cases state with
  | settling settling =>
      refine Ledger.ext rfl (by simp [Worker.ledger, Ledger.receive]) ?_ rfl
      simp only [Worker.ledger, Ledger.receive, Worker.cells,
        List.map_append, List.sum_append, List.map_singleton,
        List.sum_singleton, Handler.cells, receivedCells]
      abel
  | escaped escape =>
      refine Ledger.ext rfl (by simp [Worker.ledger, Ledger.receive]) ?_ rfl
      simp [Worker.ledger, Ledger.receive, Worker.cells, Handler.cells,
        receivedCells]
  | buffered job =>
      refine Ledger.ext rfl
        (by simp [Worker.ledger, Ledger.receive, Worker.setBatcher,
          Worker.setLane]) ?_ rfl
      obtain ⟨rest, before, after⟩ :=
        exists_laneCells_update worker.lane lane
      have added : heldCells lane
          ((worker.lane lane).batcher.add
            (batcherConfig environment.settings lane) clock
            { message := message, job := job }).pending =
          heldCell lane { message := message, job := job } ::ₘ
            heldCells lane (worker.lane lane).batcher.pending := by
        rw [heldCells_perm (MicroBatcher.add_pending _ _ _ _),
          heldCells_cons]
      simp only [Worker.ledger, Ledger.receive, Worker.cells,
        Worker.setBatcher, Worker.setLane, List.map_append,
        List.sum_append, List.map_singleton, List.sum_singleton,
        Handler.cells, receivedCells, after, before, added, heldCell,
        Multiset.cons_add, Multiset.add_cons, Multiset.singleton_add,
        add_zero]

theorem ledger_receive {lane : LaneName} {message : Message Body}
    {freshId : PyStr} {now : Instant} {clock : Seconds}
    (fresh : ∀ handler ∈ worker.handlers,
      handler.message.tag ≠ message.tag) :
    LedgerFollows environment worker.workerId Good worker.ledger
      (worker.receive environment lane message freshId now clock).ledger := by
  have unknown : message.tag ∉
      worker.ledger.received.map (fun origin => origin.2.tag) := by
    intro member
    simp only [Worker.ledger, List.map_map, List.mem_map,
      Function.comp_apply] at member
    obtain ⟨handler, handlerMember, same⟩ := member
    exact fresh handler handlerMember same
  exact ledgerFollows_single (Ledger.Step.receive unknown) receive_ledger

theorem ledger_takeBatch {lane : LaneName} {clock : Seconds}
    {batch : Batch (Delivery Body) BatchKey}
    {rest : MicroBatcher (Delivery Body) BatchKey}
    (taken : (worker.lane lane).batcher.takeReady
      (batcherConfig environment.settings lane) clock =
        some (batch, rest)) :
    (worker.takeBatch lane batch rest).ledger = worker.ledger := by
  refine Ledger.ext rfl rfl ?_ rfl
  obtain ⟨others, before, after⟩ :=
    exists_laneCells_update worker.lane lane
  have split : heldCells lane (worker.lane lane).batcher.pending =
      heldCells lane batch.items + heldCells lane rest.pending := by
    rw [heldCells_perm (MicroBatcher.takeReady_pending _ _ taken),
      heldCells_append]
  simp only [Worker.ledger, Worker.cells, Worker.takeBatch, Worker.setLane,
    List.map_append, List.sum_append, List.map_singleton,
    List.sum_singleton, newProcess_cells, after, before, split]
  abel

theorem ledger_drainLane {lane : LaneName} {lanes : List LaneName}
    (draining : worker.main = .draining none [] (lane :: lanes)) :
    (worker.drainLane environment lane lanes).ledger = worker.ledger := by
  refine Ledger.ext rfl rfl ?_ rfl
  obtain ⟨others, before, after⟩ :=
    exists_laneCells_update worker.lane lane
  have moved : heldCells lane (worker.lane lane).batcher.pending =
      batchCells (((worker.lane lane).batcher.drain
        (batcherConfig environment.settings lane)).1.map
          (fun batch => (lane, batch))) := by
    rw [batchCells_map]
    exact heldCells_perm (MicroBatcher.drain_pending _ _)
  have emptied : ((worker.lane lane).batcher.drain
      (batcherConfig environment.settings lane)).2.pending = [] := by
    simp [MicroBatcher.pending, MicroBatcher.drain_empties]
  simp only [Worker.ledger, Worker.cells, Worker.drainLane,
    Worker.setBatcher, Worker.setLane, MainState.cells, draining, after,
    before, moved, emptied, heldCells_nil, batchCells_nil]
  abel

theorem ledger_drainBatch {lane : LaneName}
    {batch : Batch (Delivery Body) BatchKey}
    {batches : List (LaneName × Batch (Delivery Body) BatchKey)}
    {lanes : List LaneName}
    (draining : worker.main = .draining none ((lane, batch) :: batches)
      lanes) :
    (worker.drainBatch lane batch batches lanes).ledger =
      worker.ledger := by
  refine Ledger.ext rfl rfl ?_ rfl
  simp only [Worker.ledger, Worker.cells, Worker.drainBatch,
    MainState.cells, draining, batchCells_cons, List.map_append,
    List.sum_append, List.map_singleton, List.sum_singleton,
    newProcess_cells]
  abel

theorem drainFailure_cells (how : Ending) (timeoutError : Bool) :
    (Worker.drainFailure how timeoutError : MainState Body).cells = 0 := by
  unfold Worker.drainFailure
  split <;> rfl

theorem ledger_drainedBatch {number : Nat}
    {batches : List (LaneName × Batch (Delivery Body) BatchKey)}
    {lanes : List LaneName} (how : Ending) (timeoutError : Bool)
    (draining : worker.main = .draining (some number) batches lanes) :
    (worker.drainedBatch how timeoutError batches lanes).ledger =
      worker.ledger := by
  unfold Worker.drainedBatch
  split
  · refine Ledger.ext rfl rfl ?_ rfl
    simp [Worker.ledger, Worker.cells, MainState.cells, draining]
  · refine Ledger.ext rfl rfl ?_ rfl
    have emptied : (if worker.graceExpired then MainState.closing
        else Worker.drainFailure how timeoutError : MainState Body).cells =
          0 := by
      split
      · rfl
      · exact drainFailure_cells how timeoutError
    have before : worker.main.cells = batchCells batches := by
      rw [draining]
      rfl
    simp only [Worker.ledger, Worker.cells, emptied, before,
      batchCells_append]
    abel

/-- The `_finish` of a delivery takes it up with its outcome. -/
theorem ledger_startFinish {number position : Nat} {process : Process Body}
    {item : Item Body} {outcome : Outcome}
    (found : worker.processes[number]? = some process)
    (itemFound : process.items[position]? = some item)
    (itemState : item.state = .scheduled outcome)
    (good : GoodOutcome Good item.delivery.job outcome) :
    LedgerFollows environment worker.workerId Good worker.ledger
      (worker.startFinish environment number process position item
        outcome).ledger := by
  obtain ⟨rest, before, after⟩ := exists_cells_setItem found itemFound
  have phaseBefore : item.cell process.lane =
      heldCell process.lane item.delivery := by
    simp [Item.cell, Item.phase, heldCell, itemState]
  rw [phaseBefore] at before
  exact ledgerFollows_single (Ledger.Step.finish before good)
    (Ledger.ext rfl rfl (after _ process.state) rfl)

theorem ledger_answerFinish {number position : Nat}
    {process : Process Body} {item : Item Body} {settling : Settling Body}
    (found : worker.processes[number]? = some process)
    (itemFound : process.items[position]? = some item)
    (itemState : item.state = .finishing settling) (how : Ending) :
    LedgerFollows environment worker.workerId Good worker.ledger
      (worker.answerFinish number process position item settling
        how).ledger := by
  obtain ⟨rest, before, after⟩ := exists_cells_setItem found itemFound
  have phaseBefore : item.cell process.lane =
      { lane := process.lane
        message := item.delivery.message
        phase := .settling settling } := by
    simp [Item.cell, Item.phase, itemState]
  rw [phaseBefore] at before
  exact ledgerFollows_single (Ledger.Step.resume before)
    (Ledger.ext rfl rfl (after _ process.state) rfl)

theorem ledger_cancelFinish {number position : Nat}
    {process : Process Body} {item : Item Body} {outcome : Outcome}
    (found : worker.processes[number]? = some process)
    (itemFound : process.items[position]? = some item)
    (itemState : item.state = .scheduled outcome) :
    LedgerFollows environment worker.workerId Good worker.ledger
      (worker.setItem number process position
        { item with state := .finishing (.ended .cancelled) }).ledger := by
  obtain ⟨rest, before, after⟩ := exists_cells_setItem found itemFound
  have phaseBefore : item.cell process.lane =
      heldCell process.lane item.delivery := by
    simp [Item.cell, Item.phase, heldCell, itemState]
  rw [phaseBefore] at before
  exact ledgerFollows_single (Ledger.Step.abandon before)
    (Ledger.ext rfl rfl (after _ process.state)
      (List.append_nil worker.log).symm)

theorem ledger_answerHandler {number : Nat} {handler : Handler Body}
    {settling : Settling Body}
    (found : worker.handlers[number]? = some handler)
    (state : handler.state = .settling settling) (how : Ending) :
    LedgerFollows environment worker.workerId Good worker.ledger
      (worker.answerHandler number handler settling how).ledger := by
  obtain ⟨rest, before, after⟩ := exists_cells_setHandler found
  have handlerBefore : handler.cells =
      {{ lane := handler.lane
         message := handler.message
         phase := .settling settling }} := by
    simp [Handler.cells, state]
  rw [handlerBefore, Multiset.singleton_add] at before
  refine ledgerFollows_single (Ledger.Step.resume before)
    (Ledger.ext rfl (received_setHandler found rfl) ?_ rfl)
  exact after
    { handler with
      state := .settling
        (settling.resume handler.lane handler.message how).1 }

/-- A change of the state of one process moves no delivery. -/
theorem ledger_endThread {position : Nat} (thread : EncodeThread)
    (outcomes : List Outcome) :
    (worker.endThread position thread outcomes).ledger =
      worker.ledger := by
  unfold Worker.endThread
  split
  · next process found =>
      split
      · exact Ledger.ext rfl rfl (cells_setProcess_same found rfl) rfl
      · rfl
  · rfl

/-- Every step of a worker is matched by moves of its ledger. -/
theorem ledger_step {action : WorkerAction Body} {after : Worker Body}
    (scheduledGood : ScheduledGood Good worker)
    (taken : WorkerStep environment worker action after) :
    LedgerFollows environment worker.workerId Good worker.ledger
      after.ledger := by
  cases taken with
  | consume starting =>
      exact ledgerFollows_of_eq (Ledger.ext rfl rfl
        (by simp [Worker.ledger, Worker.cells, Worker.setLane,
          laneCells_update_of_pending]) rfl)
  | startLoop starting consuming =>
      exact ledgerFollows_of_eq (Ledger.ext rfl rfl
        (by simp [Worker.ledger, Worker.cells, Worker.setLoop,
          Worker.setLane, MainState.cells, starting,
          laneCells_update_of_pending]) rfl)
  | serve starting =>
      exact ledgerFollows_of_eq (Ledger.ext rfl rfl
        (by simp [Worker.ledger, Worker.cells, MainState.cells,
          starting]) rfl)
  | receive consuming connected fresh =>
      exact ledger_receive fresh
  | answerHandler found state awaited running =>
      exact ledger_answerHandler found state _
  | takeBatch loop running ready =>
      exact ledgerFollows_of_eq (ledger_takeBatch ready)
  | resumeLoop loop running found state =>
      exact ledgerFollows_of_eq (Ledger.ext rfl rfl
        (by simp [Worker.ledger, Worker.cells, Worker.setLoop,
          Worker.setLane, laneCells_update_of_pending]) rfl)
  | cancelLoop joining started =>
      exact ledgerFollows_of_eq (Ledger.ext rfl rfl
        (by simp [Worker.ledger, Worker.cells, Worker.setLoop,
          Worker.setLane, laneCells_update_of_pending]) rfl)
  | startProcess found state running =>
      exact ledger_runProcess found _ _
  | answerExpiry found state itemFound itemState awaited running =>
      exact ledger_answerExpiry found itemFound itemState _ _ _
  | enterSlot found state running resolved =>
      exact ledgerFollows_single Ledger.Step.encode
        (Ledger.ext rfl rfl (cells_setProcess_same found rfl) rfl)
  | engineReplies found calls =>
      exact ledgerFollows_of_eq rfl
  | endThread found finished =>
      exact ledgerFollows_of_eq (ledger_endThread _ _)
  | collectOutcomes found state running =>
      exact ledgerFollows_of_eq (Ledger.ext rfl rfl
        (cells_setProcess_same found
          (itemCells_assignOutcomes _ _ _)) rfl)
  | startFinish found itemFound itemState running =>
      refine ledger_startFinish found itemFound itemState ?_
      exact scheduledGood _ (List.mem_of_getElem? found) _
        (List.mem_of_getElem? itemFound) _ itemState
  | answerFinish found itemFound itemState awaited running cancelled =>
      exact ledger_answerFinish found itemFound itemState _
  | cancelFinish found itemFound itemState cancelled =>
      exact ledger_cancelFinish found itemFound itemState
  | endGather found state finished =>
      exact ledgerFollows_of_eq (Ledger.ext rfl rfl
        (cells_setProcess_same found rfl) rfl)
  | cancelProcess found state cancelled =>
      exact ledgerFollows_of_eq (Ledger.ext rfl rfl
        (cells_setProcess_same found rfl) rfl)
  | beginShutdown running =>
      refine ledgerFollows_single Ledger.Step.drain
        (Ledger.ext rfl rfl ?_ rfl)
      rcases running with serving | ⟨lanes, starting⟩
      · simp [Worker.ledger, Worker.cells, Worker.beginShutdown,
          MainState.cells, serving]
      · simp [Worker.ledger, Worker.cells, Worker.beginShutdown,
          MainState.cells, starting]
  | consumersCancelled cancelling =>
      exact ledgerFollows_of_eq (Ledger.ext rfl rfl
        (by simp [Worker.ledger, Worker.cells, MainState.cells,
          cancelling]) rfl)
  | loopsJoined joining finished =>
      exact ledgerFollows_of_eq (Ledger.ext rfl rfl
        (by simp [Worker.ledger, Worker.cells, MainState.cells,
          joining]) rfl)
  | inflightJoined joining finished =>
      refine ledgerFollows_of_eq (Ledger.ext rfl rfl ?_ rfl)
      cases expired : worker.graceExpired <;>
        simp [Worker.ledger, Worker.cells, MainState.cells, joining]
  | graceOver timed running =>
      exact ledgerFollows_of_eq rfl
  | drainLane draining =>
      exact ledgerFollows_of_eq (ledger_drainLane draining)
  | drainBatch draining =>
      exact ledgerFollows_of_eq (ledger_drainBatch draining)
  | drainedBatch draining found state =>
      exact ledgerFollows_of_eq (ledger_drainedBatch _ _ draining)
  | drained draining =>
      exact ledgerFollows_of_eq (Ledger.ext rfl rfl
        (by simp [Worker.ledger, Worker.cells, MainState.cells,
          draining]) rfl)
  | close closing =>
      exact ledgerFollows_of_eq (Ledger.ext rfl rfl
        (by simp [Worker.ledger, Worker.cells, MainState.cells,
          closing]) rfl)
  | closeFailed closing =>
      exact ledgerFollows_of_eq (Ledger.ext rfl rfl
        (by simp [Worker.ledger, Worker.cells, MainState.cells,
          closing]) rfl)

/-- Logs only grow. -/
theorem log_step {action : WorkerAction Body} {after : Worker Body}
    (taken : WorkerStep environment worker action after) :
    ∃ added, after.log = worker.log ++ added := by
  have moved : LedgerFollows environment worker.workerId
      (fun _ _ => True) worker.ledger after.ledger :=
    ledger_step (fun _ _ _ _ _ _ _ _ => trivial) taken
  exact Ledger.log_extends moved

end Steps

end EmbeddingService
