import EmbeddingService.Worker.Stats

/-!
# The account of a run

Every step of a worker keeps its counters in balance, whatever the order in
which messages, batches and answers come.
-/

namespace EmbeddingService

open LabelledRuns

section Moves

variable {Body : Type} {environment : Environment Body}
  {worker after : Worker Body} {number position : Nat}
  {process : Process Body} {item : Item Body}

@[simp]
theorem eventBumps_nil :
    eventBumps environment ([] : List (Event Body)) = [] :=
  rfl

@[simp]
theorem eventBumps_append (first second : List (Event Body)) :
    eventBumps environment (first ++ second) =
      eventBumps environment first ++ eventBumps environment second :=
  List.flatMap_append

/-- From `worker` to `after`, the events bump what the deliveries need, and
none leaves uncounted. -/
def TalliedMove (environment : Environment Body)
    (worker after : Worker Body) : Prop :=
  ∃ added, after.log = worker.log ++ added ∧
    Tallies (eventBumps environment added) [] worker.cells after.cells

theorem TalliedMove.trans {middle : Worker Body}
    (earlier : TalliedMove environment worker middle)
    (later : TalliedMove environment middle after) :
    TalliedMove environment worker after := by
  obtain ⟨first, logFirst, talliesFirst⟩ := earlier
  obtain ⟨second, logSecond, talliesSecond⟩ := later
  refine ⟨first ++ second, ?_, ?_⟩
  · rw [logSecond, logFirst, List.append_assoc]
  · rw [eventBumps_append]
    exact talliesFirst.trans talliesSecond

/-- Nothing happens to any delivery. -/
theorem talliedMove_of_cells {added : List (Event Body)}
    (cells : after.cells = worker.cells)
    (logged : after.log = worker.log ++ added)
    (silent : eventBumps environment added = []) :
    TalliedMove environment worker after := by
  refine ⟨added, logged, ?_⟩
  rw [silent, cells]
  exact Tallies.refl _

theorem talliedMove_of_unlogged (cells : after.cells = worker.cells)
    (logged : after.log = worker.log) :
    TalliedMove environment worker after :=
  talliedMove_of_cells cells (logged.trans (List.append_nil _).symm)
    eventBumps_nil

theorem talliedMove_of_ledger (same : after.ledger = worker.ledger) :
    TalliedMove environment worker after :=
  talliedMove_of_unlogged (congrArg Ledger.cells same)
    (congrArg Ledger.log same)

/-- One delivery moves, and all the others stay. -/
theorem Tallies.ofSplit {keys : List StatKey}
    {entries : List (LaneName × Uncounted)} {cell next : Cell Body}
    {before after : Multiset (Cell Body)}
    (tallies : Tallies keys entries {cell} {next})
    (rest : Multiset (Cell Body))
    (cellsBefore : before = cell ::ₘ rest)
    (cellsAfter : after = next ::ₘ rest) :
    Tallies keys entries before after := by
  rw [cellsBefore, cellsAfter, ← Multiset.singleton_add,
    ← Multiset.singleton_add]
  exact tallies.frame rest

/-- `_process` up to its next await counts at most one delivery as expired. -/
theorem talliedMove_runProcess
    (found : worker.processes[number]? = some process)
    (readings : Nat → Instant) (now : Instant) :
    TalliedMove environment worker
      (worker.runProcess environment number process readings now) := by
  have keptCells : ∀ state, (worker.setProcess number
      { process.allLive with state := state }).cells = worker.cells := by
    intro state
    apply cells_setProcess_same found
    exact itemCells_markLive process.lane process.items
  have runs :=
    runProcess_runs environment worker number process readings now
  generalize worker.runProcess environment number process readings now =
    result at runs
  cases runs with
  | @expires before after item split unchecked late =>
      obtain ⟨outside, cellsBefore, cellsAfter⟩ :=
        exists_cells_setProcess found
      have phaseBefore : item.cell process.lane =
          heldCell process.lane item.delivery := by
        simp [Item.cell, Item.phase, heldCell, unchecked]
      let expiring :=
        expire environment worker.workerId process.lane item.delivery
          (readings before.length)
      have tallies : Tallies (eventBumps environment expiring.2) []
          {heldCell process.lane item.delivery}
          {settlingCell process.lane item.delivery.message expiring.1} :=
        tallies_waited (expire_bumps _ _)
      refine ⟨_, rfl, tallies.ofSplit
        (itemCells process.lane before + itemCells process.lane after +
          outside) ?_ ?_⟩
      · rw [cellsBefore, Process.cells, split, itemCells_append,
          itemCells_cons, phaseBefore, Multiset.add_cons,
          Multiset.cons_add]
      · refine (cellsAfter _).trans ?_
        rw [Process.cells, itemCells_append, itemCells_markLive,
          itemCells_cons, Multiset.add_cons, Multiset.cons_add]
        rfl
  | ends nothingLive =>
      exact talliedMove_of_unlogged (keptCells _) rfl
  | enters someLive inside =>
      exact talliedMove_of_cells (keptCells _) rfl rfl
  | queues someLive outside =>
      exact talliedMove_of_unlogged (keptCells _) rfl

/-- The answer to a call of `_expire`, and what `_process` does next. -/
theorem talliedMove_answerExpiry {settling : Settling Body}
    (found : worker.processes[number]? = some process)
    (itemFound : process.items[position]? = some item)
    (itemState : item.state = .expiring settling)
    (how : Ending) (readings : Nat → Instant) (now : Instant) :
    TalliedMove environment worker
      (worker.answerExpiry environment number process position item settling
        how readings now) := by
  obtain ⟨rest, cellsBefore, cellsAfter⟩ :=
    exists_cells_setItem found itemFound
  have phaseBefore : item.cell process.lane =
      settlingCell process.lane item.delivery.message settling := by
    simp [Item.cell, Item.phase, settlingCell, itemState]
  rw [phaseBefore] at cellsBefore
  let resumed :=
    settling.resume process.lane item.delivery.message how
  have tallies := @tallies_resume _ environment process.lane
    item.delivery.message settling how
  have answered : ∀ state, TalliedMove environment worker
      ((worker.record resumed.2).setProcess number
        { process with
          items := process.items.set position
            { item with state := .expiring resumed.1 }
          state := state }) := by
    intro state
    exact ⟨_, rfl, tallies.ofSplit rest cellsBefore (cellsAfter _ state)⟩
  have answers := answerExpiry_answers environment worker number process
    position item settling how readings now
  generalize worker.answerExpiry environment number process position item
    settling how readings now = result at answers
  cases answers with
  | continues returned =>
      have foundAfter :=
        answeredExpiry_found found position item resumed
      exact (answered process.state).trans
        (talliedMove_runProcess foundAfter readings now)
  | @leaves ending failed ended =>
      refine (answered (.ended ending)).trans
        (talliedMove_of_ledger ?_)
      simp [Worker.answeredExpiry, Worker.setProcess, Worker.ledger,
        Worker.cells, Worker.record, resumed]
  | awaits pending =>
      exact answered process.state

theorem talliedMove_answerFinish {settling : Settling Body}
    (found : worker.processes[number]? = some process)
    (itemFound : process.items[position]? = some item)
    (itemState : item.state = .finishing settling) (how : Ending) :
    TalliedMove environment worker
      (worker.answerFinish number process position item settling how) := by
  obtain ⟨rest, cellsBefore, cellsAfter⟩ :=
    exists_cells_setItem found itemFound
  have phaseBefore : item.cell process.lane =
      settlingCell process.lane item.delivery.message settling := by
    simp [Item.cell, Item.phase, settlingCell, itemState]
  rw [phaseBefore] at cellsBefore
  let resumed :=
    settling.resume process.lane item.delivery.message how
  have tallies := @tallies_resume _ environment process.lane
    item.delivery.message settling how
  exact ⟨_, rfl,
    tallies.ofSplit rest cellsBefore (cellsAfter _ process.state)⟩

theorem talliedMove_answerHandler {handler : Handler Body}
    {settling : Settling Body}
    (found : worker.handlers[number]? = some handler)
    (state : handler.state = .settling settling) (how : Ending) :
    TalliedMove environment worker
      (worker.answerHandler number handler settling how) := by
  obtain ⟨rest, cellsBefore, cellsAfter⟩ := exists_cells_setHandler found
  have handlerBefore : handler.cells =
      {settlingCell handler.lane handler.message settling} := by
    simp [Handler.cells, settlingCell, state]
  rw [handlerBefore, Multiset.singleton_add] at cellsBefore
  let resumed := settling.resume handler.lane handler.message how
  have tallies := @tallies_resume _ environment handler.lane
    handler.message settling how
  exact ⟨_, rfl, tallies.ofSplit rest cellsBefore (cellsAfter _)⟩

end Moves

section Steps

variable {Body : Type} {environment : Environment Body}
  {worker after : Worker Body} {number position : Nat}
  {process : Process Body} {item : Item Body}

/-- The counters a step bumps balance what it does to the deliveries. -/
def StepTallies (environment : Environment Body) (worker : Worker Body)
    (action : WorkerAction Body) (after : Worker Body) : Prop :=
  Tallies (worker.bumps environment action after)
    (action.uncounted environment worker) worker.cells after.cells

theorem bumps_of_logged {action : WorkerAction Body}
    {added : List (Event Body)} (logged : after.log = worker.log ++ added) :
    worker.bumps environment action after =
      action.bumps worker ++ eventBumps environment added := by
  rw [Worker.bumps, logged, List.drop_left]

theorem TalliedMove.stepTallies {action : WorkerAction Body}
    (move : TalliedMove environment worker after)
    (bumps : action.bumps worker = [])
    (uncounted : action.uncounted environment worker = []) :
    StepTallies environment worker action after := by
  obtain ⟨added, logged, tallies⟩ := move
  rw [StepTallies, bumps_of_logged logged, bumps, uncounted]
  exact tallies

theorem stepTallies_of_unlogged {action : WorkerAction Body}
    (cells : after.cells = worker.cells) (logged : after.log = worker.log)
    (bumps : action.bumps worker = [])
    (uncounted : action.uncounted environment worker = []) :
    StepTallies environment worker action after :=
  (talliedMove_of_unlogged cells logged).stepTallies bumps uncounted

theorem stepTallies_receive {lane : LaneName} {message : Message Body}
    (freshId : PyStr) (now : Instant) (clock : Seconds) :
    StepTallies environment worker
      (.receive lane message freshId now clock)
      (worker.receive environment lane message freshId now clock) := by
  let received :=
    onMessage environment worker.workerId lane worker.draining freshId now
      message
  have logged : (worker.receive environment lane message freshId now
      clock).log = worker.log ++ received.2 :=
    congrArg Ledger.log receive_ledger
  have cells : (worker.receive environment lane message freshId now
      clock).cells =
        receivedCells lane message received.1 + worker.cells :=
    congrArg Ledger.cells receive_ledger
  have tallies : Tallies
      ((lane, .received) :: eventBumps environment received.2)
      (WorkerAction.uncounted environment worker
        (.receive lane message freshId now clock))
      0 (receivedCells lane message received.1) :=
    tallies_onMessage worker freshId now clock
  have framed := tallies.frame worker.cells
  rw [zero_add, ← cells] at framed
  rw [StepTallies, bumps_of_logged logged]
  exact framed

/-- The outcome that a `_finish` task finds. -/
theorem scheduled_of_found {outcome : Outcome}
    (found : worker.processes[number]? = some process)
    (itemFound : process.items[position]? = some item)
    (itemState : item.state = .scheduled outcome) :
    worker.scheduled? number position = some (process.lane, outcome) := by
  simp [Worker.scheduled?, found, itemFound, itemState]

theorem cell_of_scheduled (lane : LaneName) {outcome : Outcome}
    (itemState : item.state = .scheduled outcome) :
    item.cell lane = heldCell lane item.delivery := by
  simp [Item.cell, Item.phase, heldCell, itemState]

theorem stepTallies_startFinish {outcome : Outcome}
    (found : worker.processes[number]? = some process)
    (itemFound : process.items[position]? = some item)
    (itemState : item.state = .scheduled outcome) :
    StepTallies environment worker (.startFinish number position)
      (worker.startFinish environment number process position item
        outcome) := by
  obtain ⟨rest, before, after⟩ := exists_cells_setItem found itemFound
  rw [cell_of_scheduled process.lane itemState] at before
  let finishing :=
    finish environment worker.workerId process.lane item.delivery outcome
  have logged : (worker.startFinish environment number process position item
      outcome).log = worker.log ++ finishing.2 :=
    rfl
  have keys : (WorkerAction.startFinish number position).bumps worker =
      completedBumps process.lane outcome := by
    rw [WorkerAction.bumps, scheduled_of_found found itemFound itemState]
  have tallies : Tallies
      ((WorkerAction.startFinish number position).bumps worker ++
        eventBumps environment finishing.2) []
      {heldCell process.lane item.delivery}
      {settlingCell process.lane item.delivery.message finishing.1} := by
    rw [keys]
    exact tallies_waited (finish_bumps _ _)
  rw [StepTallies, bumps_of_logged logged]
  exact tallies.ofSplit rest before (after _ process.state)

/-- A `_finish` task that was cancelled first counts nothing. -/
theorem stepTallies_cancelFinish {outcome : Outcome}
    (found : worker.processes[number]? = some process)
    (itemFound : process.items[position]? = some item)
    (itemState : item.state = .scheduled outcome) :
    StepTallies environment worker (.cancelFinish number position)
      (worker.setItem number process position
        { item with state := .finishing (.ended .cancelled) }) := by
  obtain ⟨rest, before, after⟩ := exists_cells_setItem found itemFound
  rw [cell_of_scheduled process.lane itemState] at before
  have logged : (worker.setItem number process position
      { item with state := .finishing (.ended .cancelled) }).log =
        worker.log ++ [] :=
    (List.append_nil _).symm
  have left : (WorkerAction.cancelFinish number position).uncounted
      environment worker = [(process.lane, .cancelled)] := by
    rw [WorkerAction.uncounted,
      scheduled_of_found found itemFound itemState]
  have tallies : Tallies [] [(process.lane, .cancelled)]
      {heldCell process.lane item.delivery}
      {settlingCell process.lane item.delivery.message
        (.ended .cancelled)} :=
    { account := by
        intro other
        by_cases same : process.lane = other
        · simp [counts, Stats.tallied, uncountedOn, heldCell, settlingCell,
            Cell.waits, same]
        · simp [counts, Stats.tallied, uncountedOn, heldCell, settlingCell,
            Cell.waits, same]
      replies := by
        intro other
        simp [settlingCell, Cell.replies, Settling.isPublishing]
      deadLetters := by simp
      queriesKept := rfl }
  rw [StepTallies, bumps_of_logged logged, left]
  exact tallies.ofSplit rest before (after _ process.state)

/-- Every step of a worker keeps the account. -/
theorem stepTallies_of_step {action : WorkerAction Body}
    (taken : WorkerStep environment worker action after) :
    StepTallies environment worker action after := by
  cases taken with
  | receive consuming connected fresh =>
      exact stepTallies_receive _ _ _
  | startFinish found itemFound itemState running =>
      exact stepTallies_startFinish found itemFound itemState
  | cancelFinish found itemFound itemState cancelled =>
      exact stepTallies_cancelFinish found itemFound itemState
  | answerHandler found state awaited running =>
      exact (talliedMove_answerHandler found state _).stepTallies rfl rfl
  | startProcess found state running =>
      exact (talliedMove_runProcess found _ _).stepTallies rfl rfl
  | answerExpiry found state itemFound itemState awaited running =>
      exact (talliedMove_answerExpiry found itemFound itemState _ _
        _).stepTallies rfl rfl
  | answerFinish found itemFound itemState awaited running cancelled =>
      exact (talliedMove_answerFinish found itemFound itemState
        _).stepTallies rfl rfl
  | takeBatch loop running ready =>
      exact (talliedMove_of_ledger (ledger_takeBatch ready)).stepTallies
        rfl rfl
  | endThread found finished =>
      exact (talliedMove_of_ledger (ledger_endThread _ _)).stepTallies
        rfl rfl
  | drainLane draining =>
      exact (talliedMove_of_ledger (ledger_drainLane draining)).stepTallies
        rfl rfl
  | drainBatch draining =>
      exact (talliedMove_of_ledger (ledger_drainBatch draining)).stepTallies
        rfl rfl
  | drainedBatch draining found state =>
      exact (talliedMove_of_ledger
        (ledger_drainedBatch _ _ draining)).stepTallies rfl rfl
  | enterSlot found state running resolved =>
      refine TalliedMove.stepTallies ?_ rfl rfl
      exact talliedMove_of_cells (cells_setProcess_same found rfl) rfl rfl
  | beginShutdown running =>
      refine TalliedMove.stepTallies (talliedMove_of_cells ?_ rfl rfl)
        rfl rfl
      rcases running with serving | ⟨lanes, starting⟩
      · simp [Worker.cells, Worker.beginShutdown, MainState.cells, serving]
      · simp [Worker.cells, Worker.beginShutdown, MainState.cells, starting]
  | engineReplies found calls =>
      exact stepTallies_of_unlogged rfl rfl rfl rfl
  | graceOver timed running =>
      exact stepTallies_of_unlogged rfl rfl rfl rfl
  | collectOutcomes found state running =>
      refine stepTallies_of_unlogged ?_ rfl rfl rfl
      exact cells_setProcess_same found (itemCells_assignOutcomes _ _ _)
  | endGather found state finished =>
      refine stepTallies_of_unlogged ?_ rfl rfl rfl
      exact cells_setProcess_same found rfl
  | cancelProcess found state cancelled =>
      refine stepTallies_of_unlogged ?_ rfl rfl rfl
      exact cells_setProcess_same found rfl
  | consume starting =>
      refine stepTallies_of_unlogged ?_ rfl rfl rfl
      simp [Worker.cells, Worker.setLane, laneCells_update_of_pending]
  | startLoop starting consuming =>
      refine stepTallies_of_unlogged ?_ rfl rfl rfl
      simp [Worker.cells, Worker.setLoop, Worker.setLane, MainState.cells,
        starting, laneCells_update_of_pending]
  | resumeLoop loop running found state =>
      refine stepTallies_of_unlogged ?_ rfl rfl rfl
      simp [Worker.cells, Worker.setLoop, Worker.setLane,
        laneCells_update_of_pending]
  | cancelLoop joining started =>
      refine stepTallies_of_unlogged ?_ rfl rfl rfl
      simp [Worker.cells, Worker.setLoop, Worker.setLane,
        laneCells_update_of_pending]
  | serve starting =>
      refine stepTallies_of_unlogged ?_ rfl rfl rfl
      simp [Worker.cells, MainState.cells, starting]
  | consumersCancelled cancelling =>
      refine stepTallies_of_unlogged ?_ rfl rfl rfl
      simp [Worker.cells, MainState.cells, cancelling]
  | loopsJoined joining finished =>
      refine stepTallies_of_unlogged ?_ rfl rfl rfl
      simp [Worker.cells, MainState.cells, joining]
  | inflightJoined joining finished =>
      refine stepTallies_of_unlogged ?_ rfl rfl rfl
      cases expired : worker.graceExpired <;>
        simp [Worker.cells, MainState.cells, joining]
  | drained draining =>
      refine stepTallies_of_unlogged ?_ rfl rfl rfl
      simp [Worker.cells, MainState.cells, draining]
  | close closing =>
      refine stepTallies_of_unlogged ?_ rfl rfl rfl
      simp [Worker.cells, MainState.cells, closing]
  | closeFailed closing =>
      refine stepTallies_of_unlogged ?_ rfl rfl rfl
      simp [Worker.cells, MainState.cells, closing]

end Steps

/-- The counters of a worker are in balance: the deliveries received are those
that were given a verdict, left uncounted, or still wait; a reply fails at
most once for each verdict; and only failed index jobs are dead-lettered. -/
structure CountedWorker.Balanced {Body : Type}
    (counted : CountedWorker Body) : Prop where
  account : ∀ lane,
    counted.stats (lane, .received) =
      Stats.tallied counted.stats lane +
        uncountedOn lane counted.uncounted +
        waitingOn lane counted.worker.cells
  replies : ∀ lane,
    counted.stats (lane, .replyFailed) +
        replyingOn lane counted.worker.cells ≤
      Stats.tallied counted.stats lane
  deadLetters : ∀ lane,
    counted.stats (lane, .deadLettered) ≤ counted.stats (lane, .failed)
  queriesKept : counted.stats (.query, .deadLettered) = 0

section Runs

variable {Body : Type} {environment : Environment Body} {workerId : PyStr}
  {lanes : List LaneName} {worker : Worker Body}
  {before after : CountedWorker Body} {action : WorkerAction Body}

theorem start_cells :
    (Worker.start Body workerId lanes).cells = 0 := by
  simp [Worker.cells, Worker.start, laneCells, MainState.cells,
    MicroBatcher.pending]

theorem balanced_start :
    (CountedWorker.start Body workerId lanes).Balanced where
  account := by
    intro lane
    simp [CountedWorker.start, Stats.tallied, uncountedOn, waitingOn,
      start_cells]
  replies := by
    intro lane
    simp [CountedWorker.start, replyingOn, start_cells]
  deadLetters := fun _ => Nat.le_refl 0
  queriesKept := rfl

/-- A step keeps the counters in balance. -/
theorem CountedWorker.Balanced.step (balanced : before.Balanced)
    (counted : CountedStep environment before action after) :
    after.Balanced := by
  cases counted with
  | step taken =>
      have tallies := stepTallies_of_step taken
      exact
        { account := by
            intro lane
            have account := balanced.account lane
            have added := tallies.account lane
            simp only [CountedWorker.next, Stats.tallied, counts,
              uncountedOn, List.countP_append] at account added ⊢
            omega
          replies := by
            intro lane
            have replies := balanced.replies lane
            have added := tallies.replies lane
            simp only [CountedWorker.next, Stats.tallied, counts]
              at replies added ⊢
            omega
          deadLetters := by
            intro lane
            exact Nat.add_le_add (balanced.deadLetters lane)
              (tallies.deadLetters lane)
          queriesKept := by
            simp only [CountedWorker.next, counts, balanced.queriesKept,
              tallies.queriesKept] }

/-- Nothing waits once the connection is closed after a quiet run. -/
theorem waitingOn_of_closed
    (verdictSound : VerdictSound environment workerId worker)
    (closed : worker.main = .closed) (lane : LaneName) :
    waitingOn lane worker.cells = 0 := by
  rw [waitingOn, Multiset.countP_eq_zero]
  intro cell member waits
  obtain ⟨emptied, abandoned⟩ := verdictSound.closed closed
  simp only [Worker.cells, Multiset.mem_add, mem_sum_map_iff] at member
  rcases member with
    (((⟨handler, _, inside⟩ | inLane) | inMain) | left) |
      ⟨process, processMember, inside⟩
  · unfold Handler.cells at inside
    split at inside
    · rw [Multiset.mem_singleton.mp inside] at waits
      simp [Cell.waits] at waits
    · exact Multiset.notMem_zero _ inside
  · rw [laneCells, pending_of_laneEmpty (emptied.lanes .query),
      pending_of_laneEmpty (emptied.lanes .index)] at inLane
    exact Multiset.notMem_zero _ inLane
  · rw [closed] at inMain
    exact Multiset.notMem_zero _ inMain
  · rw [abandoned] at left
    exact Multiset.notMem_zero _ left
  · obtain ⟨item, itemMember, rfl⟩ := mem_processCells_iff.mp inside
    obtain ⟨number, found⟩ := List.mem_iff_getElem?.mp processMember
    have ended := emptied.processes number process found
    cases state : process.state with
    | ended how =>
        obtain ⟨_, verdicts⟩ :=
          verdictSound.judged process processMember how state
        rcases verdicts item itemMember with gone | ⟨settling, finishing⟩
        · have expired : item.state = .expiring (.ended .returned) := gone
          simp [Cell.waits, Item.cell, Item.phase, expired] at waits
        · simp [Cell.waits, Item.cell, Item.phase, finishing] at waits
    | _ =>
        rw [state] at ended
        cases ended

/-- No `_finish` is cancelled in a quiet run. -/
theorem uncancelled_of_quiet (graced : before.worker.graceExpired = false)
    (uncancelled : ∀ entry ∈ before.uncounted, entry.2 ≠ .cancelled)
    (counted : CountedStep environment before action after) :
    ∀ entry ∈ after.uncounted, entry.2 ≠ .cancelled := by
  cases counted with
  | step taken =>
      intro entry member
      rcases List.mem_append.mp member with earlier | added
      · exact uncancelled entry earlier
      · cases taken with
        | receive consuming connected fresh =>
            simp only [WorkerAction.uncounted] at added
            split at added
            · rw [List.mem_singleton.mp added]
              simp
            · split at added
              · rw [List.mem_singleton.mp added]
                simp
              · cases added
        | cancelFinish found itemFound itemState cancelled =>
            rw [graced] at cancelled
            cases cancelled
        | _ =>
            cases added

theorem uncountedOn_of_uncancelled (lane : LaneName)
    {entries : List (LaneName × Uncounted)}
    (uncancelled : ∀ entry ∈ entries, entry.2 ≠ .cancelled) :
    uncountedOn lane entries =
      entries.count (lane, .handedBack) +
        entries.count (lane, .escaped) := by
  induction entries with
  | nil =>
      rfl
  | cons entry rest inductionHypothesis =>
      have later := inductionHypothesis (fun other member =>
        uncancelled other (List.mem_cons_of_mem _ member))
      have first := uncancelled entry List.mem_cons_self
      obtain ⟨other, reason⟩ := entry
      simp only [uncountedOn, List.countP_cons, List.count_cons]
        at later ⊢
      rw [later]
      by_cases same : other = lane
      · cases reason with
        | handedBack =>
            simp [same]
            omega
        | escaped =>
            simp [same]
            omega
        | cancelled =>
            exact False.elim (first rfl)
      · simp [same]

/-- What holds after every quiet run of a worker with counters. -/
theorem uncancelled_of_quietRun {actions : List (WorkerAction Body)}
    (run : Run (CountedStep environment)
      (CountedWorker.start Body workerId lanes) actions after)
    (quiet : ∀ action ∈ actions, action.Quiet) :
    VerdictSound environment workerId after.worker ∧
      ∀ entry ∈ after.uncounted, entry.2 ≠ .cancelled := by
  refine run.invariant
    (I := fun counted => VerdictSound environment workerId counted.worker ∧
      ∀ entry ∈ counted.uncounted, entry.2 ≠ .cancelled)
    quiet ⟨verdictSound_start lanes, by simp [CountedWorker.start]⟩ ?_
  intro before action after held quietAction counted
  exact ⟨held.1.step quietAction counted.taken,
    uncancelled_of_quiet held.1.graced held.2 counted⟩

end Runs

/-- In every run of a worker the counters are in balance; once the connection
is closed after a quiet run, every delivery that was received was rejected,
expired, failed, completed, handed back, or lost to an exception of
`parse_job`. -/
theorem statsBalance {Body : Type} (environment : Environment Body)
    (workerId : PyStr) (lanes : List LaneName)
    (actions : List (WorkerAction Body)) (counted : CountedWorker Body)
    (run : Run (CountedStep environment)
      (CountedWorker.start Body workerId lanes) actions counted) :
    counted.Balanced ∧
      ((∀ action ∈ actions, action.Quiet) →
        counted.worker.main = .closed →
        ∀ lane, counted.stats (lane, .received) =
          counted.stats (lane, .rejected) + counted.stats (lane, .expired) +
            counted.stats (lane, .failed) +
            counted.stats (lane, .completed) +
            (counted.uncounted.count (lane, .handedBack) +
              counted.uncounted.count (lane, .escaped))) := by
  have balanced : counted.Balanced :=
    run.reachable.invariant balanced_start
      (fun _ _ _ balanced taken => balanced.step taken)
  refine ⟨balanced, ?_⟩
  intro quiet closed lane
  obtain ⟨verdictSound, uncancelled⟩ := uncancelled_of_quietRun run quiet
  have account := balanced.account lane
  rw [waitingOn_of_closed verdictSound closed lane,
    uncountedOn_of_uncancelled lane uncancelled] at account
  exact account

/-- A query that expires in its batch is counted twice: as received and as
expired. -/
theorem statsBalance_expiredQuery :
    ∃ counted : CountedWorker Json,
      counted.stats (.query, .received) = 1 ∧
        counted.stats (.query, .expired) = 1 ∧
        counted.Balanced ∧
        ∀ lane, counted.stats (lane, .received) =
          counted.stats (lane, .rejected) + counted.stats (lane, .expired) +
            counted.stats (lane, .failed) +
            counted.stats (lane, .completed) +
            (counted.uncounted.count (lane, .handedBack) +
              counted.uncounted.count (lane, .escaped)) := by
  have begun := countedRun_snoc (countedRun_snoc
    (Run.nil (CountedWorker.start Json (pyStr "worker") [.query]))
    (@WorkerStep.consume Json sampleEnvironment _ .query _ rfl))
    (@WorkerStep.startLoop Json sampleEnvironment _ .query _ rfl rfl)
  have taken := countedRun_snoc (countedRun_snoc begun
    (@WorkerStep.receive Json sampleEnvironment _ .query (sampleMessage 0)
      [] 0 0 rfl rfl (List.forall_mem_nil _)))
    (@WorkerStep.takeBatch Json sampleEnvironment _ .query 0 _ _ rfl rfl
      rfl)
  have expired := countedRun_snoc (countedRun_snoc taken
    (@WorkerStep.startProcess Json sampleEnvironment _ 0 _ (fun _ => 20) 20
      rfl rfl rfl))
    (@WorkerStep.answerExpiry Json sampleEnvironment _ 0 0 _ _ .acking .ack
      .returned (fun _ => 20) 20 rfl rfl rfl rfl rfl (by decide))
  have stopping := countedRun_snoc (countedRun_snoc (countedRun_snoc expired
    (.beginShutdown (Or.inr ⟨_, rfl⟩)))
    (.consumersCancelled rfl))
    (@WorkerStep.cancelLoop Json sampleEnvironment _ .query rfl
      LoopState.noConfusion)
  have joined := countedRun_snoc (countedRun_snoc stopping
    (.loopsJoined rfl (fun lane => by
      cases lane with
      | query =>
          exact Or.inr rfl
      | index =>
          exact Or.inl rfl)))
    (.inflightJoined rfl (List.all_eq_true.mp rfl))
  have closed := countedRun_snoc (countedRun_snoc (countedRun_snoc joined
    (@drainLane_of_laneEmpty Json sampleEnvironment _ .query [] rfl rfl))
    (.drained rfl))
    (.close rfl)
  have balance := statsBalance _ _ _ _ _ closed
  exact ⟨_, rfl, rfl, balance.1,
    balance.2 (by simp [WorkerAction.Quiet]) rfl⟩

end EmbeddingService
