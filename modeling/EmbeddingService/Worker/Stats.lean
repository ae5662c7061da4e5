import EmbeddingService.Worker.Verdicts

/-!
# The counters of a worker

`stats` counts for each lane what became of its deliveries.  Together the
counters are an account: a delivery that was received still waits, or was
counted as rejected, expired, failed or completed, or left in one of the three
ways that no counter sees.
-/

namespace EmbeddingService

open LabelledRuns

/-- The counters of a lane. -/
inductive StatName where
  | received
  | rejected
  | failed
  | deadLettered
  | completed
  | expired
  | replyFailed
  deriving DecidableEq, Repr

/-- A key of `stats`: the name of a lane and that of a counter. -/
abbrev StatKey := LaneName × StatName

/-- `stats`.  A missing key counts zero. -/
abbrev Stats := StatKey → Nat

/-- What some keys count when each is bumped once for every time it is
listed. -/
def counts (keys : List StatKey) : Stats :=
  fun key => keys.count key

/-- The ways a delivery leaves the worker without a counter besides
`received`: nacked because the worker is draining, lost to an exception of
`parse_job`, or with a `_finish` that was cancelled before its first line. -/
inductive Uncounted where
  | handedBack
  | escaped
  | cancelled
  deriving DecidableEq, Repr

section Bumps

variable {Body : Type} (environment : Environment Body)

/-- The counters that the code bumps where it does what an event records. -/
def Event.bumps : Event Body → List StatKey
  | .rejected lane _ _ => [(lane, .rejected)]
  | .expired lane _ _ => [(lane, .expired)]
  | .encodeFailed lane message _ =>
      if (laneSpecs environment.settings lane).retryOnFailure then
        match deliveryAttempt message with
        | .error _ => [(lane, .failed)]
        | .ok attempt =>
            if environment.settings.indexDeliveryLimit ≤ attempt then
              [(lane, .failed), (lane, .deadLettered)]
            else
              [(lane, .failed)]
      else
        [(lane, .failed)]
  | .replyFailed lane _ _ _ => [(lane, .replyFailed)]
  | _ => []

def eventBumps (events : List (Event Body)) : List StatKey :=
  events.flatMap (Event.bumps environment)

/-- The outcome a `_finish` task was created with. -/
def Worker.scheduled? (worker : Worker Body) (number position : Nat) :
    Option (LaneName × Outcome) := do
  let process ← worker.processes[number]?
  let item ← process.items[position]?
  match item.state with
  | .scheduled outcome => some (process.lane, outcome)
  | _ => none

/-- The counter `_finish` bumps for a result. -/
def completedBumps (lane : LaneName) : Outcome → List StatKey
  | .ok _ => [(lane, .completed)]
  | .error _ => []

/-- The counters bumped by a step that no event tells of: on the first line of
`_on_message`, and in `_finish`. -/
def WorkerAction.bumps (worker : Worker Body) :
    WorkerAction Body → List StatKey
  | .receive lane _ _ _ _ => [(lane, .received)]
  | .startFinish number position =>
      match worker.scheduled? number position with
      | some (lane, outcome) => completedBumps lane outcome
      | none => []
  | _ => []

/-- The deliveries that leave the worker uncounted in a step. -/
def WorkerAction.uncounted (worker : Worker Body) :
    WorkerAction Body → List (LaneName × Uncounted)
  | .receive lane message freshId _ _ =>
      if worker.draining then
        [(lane, .handedBack)]
      else
        match parseMessage environment worker.workerId freshId message with
        | .error _ => [(lane, .escaped)]
        | .ok _ => []
  | .cancelFinish number position =>
      match worker.scheduled? number position with
      | some (lane, _) => [(lane, .cancelled)]
      | none => []
  | _ => []

/-- All counters a step bumps. -/
def Worker.bumps (worker : Worker Body) (action : WorkerAction Body)
    (after : Worker Body) : List StatKey :=
  action.bumps worker ++
    eventBumps environment (after.log.drop worker.log.length)

end Bumps

/-- A worker with its `stats`, and what left it uncounted. -/
structure CountedWorker (Body : Type) where
  worker : Worker Body
  stats : Stats := fun _ => 0
  uncounted : List (LaneName × Uncounted) := []

/-- The counters after a step to `after`. -/
def CountedWorker.next {Body : Type} (environment : Environment Body)
    (counted : CountedWorker Body) (action : WorkerAction Body)
    (after : Worker Body) : CountedWorker Body :=
  let bumped :=
    counts (counted.worker.bumps environment action after)
  { worker := after
    stats := fun key => counted.stats key + bumped key
    uncounted :=
      counted.uncounted ++ action.uncounted environment counted.worker }

/-- The steps of a worker that keeps its `stats`. -/
inductive CountedStep {Body : Type} (environment : Environment Body) :
    CountedWorker Body → WorkerAction Body → CountedWorker Body → Prop
  | step {counted : CountedWorker Body} {action : WorkerAction Body}
      {after : Worker Body}
      (taken : WorkerStep environment counted.worker action after) :
      CountedStep environment counted action
        (counted.next environment action after)

/-- `EmbeddingWorker(...)` with an empty `stats`. -/
def CountedWorker.start (Body : Type) (workerId : PyStr)
    (lanes : List LaneName) : CountedWorker Body :=
  { worker := Worker.start Body workerId lanes }

/-- One more step of the worker. -/
theorem countedRun_snoc {Body : Type} {environment : Environment Body}
    {source counted : CountedWorker Body}
    {actions : List (WorkerAction Body)} {action : WorkerAction Body}
    {after : Worker Body}
    (run : Run (CountedStep environment) source actions counted)
    (taken : WorkerStep environment counted.worker action after) :
    Run (CountedStep environment) source (actions ++ [action])
      (counted.next environment action after) :=
  run.snoc (CountedStep.step taken)

theorem CountedStep.taken {Body : Type} {environment : Environment Body}
    {before after : CountedWorker Body} {action : WorkerAction Body}
    (counted : CountedStep environment before action after) :
    WorkerStep environment before.worker action after.worker := by
  cases counted with
  | step taken =>
      exact taken

/-- The runs with counters are the runs of the worker. -/
theorem countedRun_iff {Body : Type} {environment : Environment Body}
    {workerId : PyStr} {lanes : List LaneName}
    {actions : List (WorkerAction Body)} {worker : Worker Body} :
    (∃ counted, counted.worker = worker ∧
      Run (CountedStep environment)
        (CountedWorker.start Body workerId lanes) actions counted) ↔
      Run (WorkerStep environment) (Worker.start Body workerId lanes)
        actions worker := by
  constructor
  · rintro ⟨counted, rfl, run⟩
    induction run with
    | nil =>
        exact Run.nil _
    | snoc _ taken inductionHypothesis =>
        exact inductionHypothesis.snoc taken.taken
  · intro run
    induction run with
    | nil =>
        exact ⟨_, rfl, Run.nil _⟩
    | snoc _ taken inductionHypothesis =>
        obtain ⟨counted, same, earlier⟩ := inductionHypothesis
        rw [← same] at taken
        exact ⟨_, rfl, countedRun_snoc earlier taken⟩

/-- The counters of a lane that say what became of a delivery. -/
def Stats.tallied (stats : Stats) (lane : LaneName) : Nat :=
  stats (lane, .rejected) + stats (lane, .expired) +
    stats (lane, .failed) + stats (lane, .completed)

section Cells

variable {Body : Type}

/-- The delivery waits on its lane, for its batch or for its encode. -/
def Cell.waits (lane : LaneName) (cell : Cell Body) : Bool :=
  match cell.phase with
  | .held _ => cell.lane == lane
  | .settling _ => false

def Settling.isPublishing : Settling Body → Bool
  | .publishing _ _ _ => true
  | _ => false

/-- The reply to the delivery is on its way. -/
def Cell.replies (lane : LaneName) (cell : Cell Body) : Bool :=
  match cell.phase with
  | .held _ => false
  | .settling state => state.isPublishing && cell.lane == lane

def waitingOn (lane : LaneName) (cells : Multiset (Cell Body)) : Nat :=
  cells.countP (fun cell => cell.waits lane = true)

def replyingOn (lane : LaneName) (cells : Multiset (Cell Body)) : Nat :=
  cells.countP (fun cell => cell.replies lane = true)

def uncountedOn (lane : LaneName)
    (entries : List (LaneName × Uncounted)) : Nat :=
  entries.countP (fun entry => entry.1 == lane)

/-- Some cells become others while `keys` are bumped and `entries` leave
uncounted: every delivery is accounted for, and no reply fails twice. -/
structure Tallies (keys : List StatKey)
    (entries : List (LaneName × Uncounted))
    (before after : Multiset (Cell Body)) : Prop where
  account : ∀ lane,
    keys.count (lane, .received) + waitingOn lane before =
      Stats.tallied (counts keys) lane + uncountedOn lane entries +
        waitingOn lane after
  replies : ∀ lane,
    keys.count (lane, .replyFailed) + replyingOn lane after ≤
      Stats.tallied (counts keys) lane + replyingOn lane before
  deadLetters : ∀ lane,
    keys.count (lane, .deadLettered) ≤ keys.count (lane, .failed)
  queriesKept : keys.count (.query, .deadLettered) = 0

theorem Tallies.refl (cells : Multiset (Cell Body)) :
    Tallies [] [] cells cells where
  account := by simp [counts, Stats.tallied, uncountedOn]
  replies := by simp [counts, Stats.tallied]
  deadLetters := by simp
  queriesKept := rfl

theorem tallied_append (first second : List StatKey) (lane : LaneName) :
    Stats.tallied (counts (first ++ second)) lane =
      Stats.tallied (counts first) lane +
        Stats.tallied (counts second) lane := by
  simp only [Stats.tallied, counts, List.count_append]
  omega

theorem Tallies.trans {first second : List StatKey}
    {firstEntries secondEntries : List (LaneName × Uncounted)}
    {before middle after : Multiset (Cell Body)}
    (earlier : Tallies first firstEntries before middle)
    (later : Tallies second secondEntries middle after) :
    Tallies (first ++ second) (firstEntries ++ secondEntries)
      before after where
  account := by
    intro lane
    have accountFirst := earlier.account lane
    have accountSecond := later.account lane
    rw [List.count_append, tallied_append, uncountedOn,
      List.countP_append]
    simp only [uncountedOn] at accountFirst accountSecond
    omega
  replies := by
    intro lane
    have repliesFirst := earlier.replies lane
    have repliesSecond := later.replies lane
    rw [List.count_append, tallied_append]
    omega
  deadLetters := by
    intro lane
    rw [List.count_append, List.count_append]
    exact Nat.add_le_add (earlier.deadLetters lane)
      (later.deadLetters lane)
  queriesKept := by
    rw [List.count_append, earlier.queriesKept, later.queriesKept]

/-- The other deliveries do not matter. -/
theorem Tallies.frame {keys : List StatKey}
    {entries : List (LaneName × Uncounted)}
    {before after : Multiset (Cell Body)}
    (tallies : Tallies keys entries before after)
    (rest : Multiset (Cell Body)) :
    Tallies keys entries (before + rest) (after + rest) where
  account := by
    intro lane
    have account := tallies.account lane
    simp only [waitingOn, Multiset.countP_add] at account ⊢
    omega
  replies := by
    intro lane
    have replies := tallies.replies lane
    simp only [replyingOn, Multiset.countP_add] at replies ⊢
    omega
  deadLetters := tallies.deadLetters
  queriesKept := tallies.queriesKept

end Cells

section Segments

variable {Body : Type} {environment : Environment Body} {workerId : PyStr}
  {lane : LaneName} {message : Message Body} {settling next : Settling Body}
  {keys arrivals : List StatKey}

/-- The replies of a settlement that are on their way: one or none. -/
def Settling.onItsWay (settling : Settling Body) : Nat :=
  settling.isPublishing.toNat

/-- What a segment of `_settle` that ends in `settling` bumps: `reply_failed`
only, and together with the reply on its way at most `bound` times. -/
def SettleBumps (lane : LaneName) (bound : Nat) (keys : List StatKey)
    (settling : Settling Body) : Prop :=
  ∃ failures,
    keys = List.replicate failures (lane, .replyFailed) ∧
    failures + settling.onItsWay ≤ bound

/-- The counters that say what became of one delivery. -/
inductive Tallied (lane : LaneName) : List StatKey → Prop
  | rejected : Tallied lane [(lane, .rejected)]
  | expired : Tallied lane [(lane, .expired)]
  | failed : Tallied lane [(lane, .failed)]
  | deadLettered (indexed : lane ≠ .query) :
      Tallied lane [(lane, .failed), (lane, .deadLettered)]
  | completed : Tallied lane [(lane, .completed)]

/-- What a segment bumps that tells what became of a delivery and begins its
settlement. -/
def VerdictBumps (lane : LaneName) (keys : List StatKey)
    (settling : Settling Body) : Prop :=
  ∃ verdict later,
    keys = verdict ++ later ∧ Tallied lane verdict ∧
    SettleBumps lane 1 later settling

theorem settle_bumps (result : EmbeddingResult) (retry : Bool) :
    SettleBumps lane 1
      (eventBumps environment
        (settle environment workerId lane message result retry).2)
      (settle environment workerId lane message result retry).1 := by
  unfold settle
  split
  · split
    · exact ⟨1, rfl, Nat.le_refl 1⟩
    · exact ⟨0, rfl, Nat.le_refl 1⟩
  · exact ⟨0, rfl, Nat.zero_le 1⟩

theorem resume_bumps (settling : Settling Body) (how : Ending) :
    SettleBumps lane settling.onItsWay
      (eventBumps environment (settling.resume lane message how).2)
      (settling.resume lane message how).1 := by
  cases settling with
  | publishing result retry reply =>
      cases how with
      | returned =>
          exact ⟨0, rfl, Nat.zero_le 1⟩
      | raised =>
          exact ⟨1, rfl, Nat.le_refl 1⟩
      | cancelled =>
          exact ⟨0, rfl, Nat.zero_le 1⟩
  | _ =>
      exact ⟨0, rfl, Nat.le_refl 0⟩

theorem expire_bumps (delivery : Delivery Body) (now : Instant) :
    VerdictBumps lane
      (eventBumps environment
        (expire environment workerId lane delivery now).2)
      (expire environment workerId lane delivery now).1 := by
  cases lane with
  | query =>
      exact ⟨_, [], rfl, Tallied.expired, 0, rfl, Nat.zero_le 1⟩
  | index =>
      exact ⟨_, _, rfl, Tallied.expired, settle_bumps _ _⟩

/-- What `_finish` bumps, by an event or not. -/
theorem finish_bumps (delivery : Delivery Body) (outcome : Outcome) :
    VerdictBumps lane
      (completedBumps lane outcome ++
        eventBumps environment
          (finish environment workerId lane delivery outcome).2)
      (finish environment workerId lane delivery outcome).1 := by
  cases outcome with
  | ok result =>
      exact ⟨_, _, rfl, Tallied.completed, settle_bumps _ _⟩
  | error raised =>
      cases lane with
      | query =>
          have settled := @settle_bumps _ environment workerId .query
            delivery.message (internalError workerId delivery.job) false
          refine ⟨[(.query, .failed)], _, ?_, Tallied.failed, settled⟩
          simp [finish, completedBumps, eventBumps, Event.bumps, laneSpecs]
      | index =>
          cases read : deliveryAttempt delivery.message with
          | error unreadable =>
              rw [finish_of_unreadable read]
              refine ⟨_, [], ?_, Tallied.failed, 0, rfl, Nat.zero_le 1⟩
              simp [completedBumps, eventBumps, Event.bumps, laneSpecs, read]
          | ok attempt =>
              rw [finish_of_read read]
              by_cases limit :
                  environment.settings.indexDeliveryLimit ≤ attempt
              · refine ⟨_, [], ?_, Tallied.deadLettered (by simp), 0, rfl,
                  Nat.zero_le 1⟩
                simp [completedBumps, eventBumps, Event.bumps, laneSpecs,
                  read, limit]
              · refine ⟨_, [], ?_, Tallied.failed, 0, rfl, Nat.zero_le 1⟩
                simp [completedBumps, eventBumps, Event.bumps, laneSpecs,
                  read, limit]

/-- The cell of a delivery in its settlement. -/
def settlingCell (lane : LaneName) (message : Message Body)
    (settling : Settling Body) : Cell Body :=
  { lane := lane, message := message, phase := .settling settling }

@[simp]
theorem waitingOn_singleton (cell : Cell Body) :
    waitingOn lane {cell} = (cell.waits lane).toNat := by
  rw [waitingOn, ← Multiset.cons_zero, Multiset.countP_cons]
  cases cell.waits lane <;> rfl

@[simp]
theorem replyingOn_singleton (cell : Cell Body) :
    replyingOn lane {cell} = (cell.replies lane).toNat := by
  rw [replyingOn, ← Multiset.cons_zero, Multiset.countP_cons]
  cases cell.replies lane <;> rfl

theorem replies_settlingCell (other : LaneName)
    (settling : Settling Body) :
    ((settlingCell lane message settling).replies other).toNat =
      if lane = other then settling.onItsWay else 0 := by
  by_cases same : lane = other
  · simp [settlingCell, Cell.replies, Settling.onItsWay, same]
  · simp [settlingCell, Cell.replies, same]

/-- A settlement goes on. -/
theorem tallies_settling
    (bumps : SettleBumps lane settling.onItsWay keys next) :
    Tallies keys [] {settlingCell lane message settling}
      {settlingCell lane message next} := by
  obtain ⟨failures, rfl, bound⟩ := bumps
  exact
    { account := by
        intro other
        simp [counts, Stats.tallied, uncountedOn, settlingCell,
          Cell.waits, List.count_replicate]
      replies := by
        intro other
        rw [replyingOn_singleton, replyingOn_singleton,
          replies_settlingCell, replies_settlingCell]
        by_cases same : lane = other
        · simp [counts, Stats.tallied, List.count_replicate, same, bound]
        · simp [counts, Stats.tallied, List.count_replicate, same]
      deadLetters := by
        intro other
        simp [List.count_replicate]
      queriesKept := by
        simp [List.count_replicate] }

theorem tallies_resume (settling : Settling Body) (how : Ending) :
    let resumed := settling.resume lane message how
    Tallies (eventBumps environment resumed.2) []
      {settlingCell lane message settling}
      {settlingCell lane message resumed.1} :=
  tallies_settling (resume_bumps settling how)

/-- A delivery is counted as received when it arrives, or it has waited. -/
inductive Arrives (lane : LaneName) :
    List StatKey → Multiset (Cell Body) → Prop
  | now : Arrives lane [(lane, .received)] 0
  | earlier (delivery : Delivery Body) :
      Arrives lane [] {heldCell lane delivery}

/-- A delivery gets its verdict, on arrival or after it waited, and its
settlement begins. -/
theorem tallies_verdict {before : Multiset (Cell Body)}
    (arrives : Arrives lane arrivals before)
    (bumps : VerdictBumps lane keys next) :
    Tallies (arrivals ++ keys) [] before
      {settlingCell lane message next} := by
  obtain ⟨verdict, later, rfl, tallied, failures, rfl, bound⟩ := bumps
  have arrived : ∀ other,
      arrivals.count (other, .received) + waitingOn other before =
        if lane = other then 1 else 0 := by
    intro other
    cases arrives with
    | now =>
        simp [waitingOn, List.count_cons]
    | earlier delivery =>
        by_cases same : lane = other
        · simp [heldCell, Cell.waits, same]
        · simp [heldCell, Cell.waits, same]
  have onlyReceived : ∀ other name, name ≠ .received →
      arrivals.count (other, name) = 0 := by
    intro other name different
    cases arrives with
    | now =>
        simp [different.symm]
    | earlier delivery =>
        simp
  have silent : ∀ other, replyingOn other before = 0 := by
    intro other
    cases arrives with
    | now =>
        simp [replyingOn]
    | earlier delivery =>
        simp [heldCell, Cell.replies]
  have once : ∀ other,
      Stats.tallied (counts (arrivals ++ (verdict ++
          List.replicate failures (lane, .replyFailed)))) other =
        if lane = other then 1 else 0 := by
    intro other
    simp only [Stats.tallied, counts, List.count_append, onlyReceived,
      ne_eq, reduceCtorEq, not_false_eq_true, List.count_replicate]
    cases tallied <;> simp [List.count_cons]
  exact
    { account := by
        intro other
        have unreceived : verdict.count (other, .received) = 0 := by
          cases tallied <;> simp
        rw [once, ← arrived other, List.count_append, List.count_append,
          unreceived]
        simp [List.count_replicate, uncountedOn, settlingCell, Cell.waits]
      replies := by
        intro other
        have unfailed : verdict.count (other, .replyFailed) = 0 := by
          cases tallied <;> simp
        rw [once, silent, replyingOn_singleton, replies_settlingCell,
          List.count_append, List.count_append, unfailed,
          onlyReceived other _ (by simp)]
        by_cases same : lane = other
        · simp [same, bound]
        · simp [List.count_replicate, same]
      deadLetters := by
        intro other
        simp only [List.count_append, onlyReceived, ne_eq, reduceCtorEq,
          not_false_eq_true, List.count_replicate]
        cases tallied <;> simp [List.count_cons]
      queriesKept := by
        simp only [List.count_append, onlyReceived, ne_eq, reduceCtorEq,
          not_false_eq_true, List.count_replicate]
        cases tallied with
        | deadLettered indexed =>
            simp [indexed]
        | _ =>
            simp }

theorem tallies_waited {delivery : Delivery Body}
    (bumps : VerdictBumps lane keys next) :
    Tallies keys [] {heldCell lane delivery}
      {settlingCell lane message next} :=
  tallies_verdict (Arrives.earlier delivery) bumps

/-- A delivery arrives, and waits or leaves uncounted. -/
theorem tallies_received {entries : List (LaneName × Uncounted)}
    {after : Multiset (Cell Body)}
    (once : ∀ other, uncountedOn other entries + waitingOn other after =
      if lane = other then 1 else 0)
    (silent : ∀ other, replyingOn other after = 0) :
    Tallies [(lane, .received)] entries 0 after where
  account := by
    intro other
    have left := once other
    simp only [counts, Stats.tallied, waitingOn, Multiset.countP_zero]
      at left ⊢
    simp [List.count_cons]
    omega
  replies := by
    intro other
    simp [silent]
  deadLetters := by simp
  queriesKept := by simp

/-- What `_on_message` bumps up to its first await. -/
theorem tallies_onMessage (worker : Worker Body) (freshId : PyStr)
    (now : Instant) (clock : Seconds) :
    Tallies
      ((lane, .received) ::
        eventBumps environment
          (onMessage environment worker.workerId lane worker.draining
            freshId now message).2)
      (WorkerAction.uncounted environment worker
        (.receive lane message freshId now clock))
      0
      (receivedCells lane message
        (onMessage environment worker.workerId lane worker.draining freshId
          now message).1) := by
  cases draining : worker.draining with
  | true =>
      rw [onMessage_of_draining]
      simp only [WorkerAction.uncounted, draining, if_true]
      refine tallies_received ?_ ?_
      · intro other
        simp [uncountedOn, receivedCells, Cell.waits, List.countP_cons]
      · intro other
        simp [receivedCells, Cell.replies, Settling.isPublishing]
  | false =>
      simp only [WorkerAction.uncounted, draining]
      cases parsed : parseMessage environment worker.workerId freshId
          message with
      | error escape =>
          rw [onMessage_of_escape parsed]
          refine tallies_received ?_ ?_
          · intro other
            simp [uncountedOn, receivedCells, waitingOn, List.countP_cons]
          · intro other
            simp [receivedCells, replyingOn]
      | ok parsedMessage =>
          cases parsedMessage with
          | rejection result =>
              rw [onMessage_of_rejection parsed]
              exact tallies_verdict Arrives.now
                ⟨_, _, rfl, Tallied.rejected, settle_bumps _ _⟩
          | job job =>
              cases late : isExpired job now with
              | true =>
                  rw [onMessage_of_expired parsed late]
                  exact tallies_verdict Arrives.now (expire_bumps _ _)
              | false =>
                  rw [onMessage_of_buffered parsed late]
                  refine tallies_received ?_ ?_
                  · intro other
                    by_cases same : lane = other
                    · simp [uncountedOn, receivedCells, Cell.waits, same]
                    · simp [uncountedOn, receivedCells, Cell.waits, same]
                  · intro other
                    simp [receivedCells, Cell.replies]

end Segments

end EmbeddingService
