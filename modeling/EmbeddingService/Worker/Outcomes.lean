import EmbeddingService.Worker.EncodeExclusion
import EmbeddingService.Worker.LedgerRefinement

/-!
# The outcomes a worker hands out

Threads hand their outcomes to the process that awaits them, and the process
zips them with its live deliveries.  Under any rule for the engine's replies,
every delivery that is finished gets an outcome of its own job; so every run
of a worker is a run of its ledger.
-/

namespace EmbeddingService

open LabelledRuns

/-- The engine replies as `Allowed` says. -/
def WorkerAction.EngineAllowed {Body : Type}
    (Allowed : EncodeCall → EngineReply → Prop) : WorkerAction Body → Prop
  | .engineReplies _ request reply => Allowed request reply
  | _ => True

/-- Scheduled outcomes are good, an ended thread has left good outcomes for
the live jobs, and a running one can only end with such outcomes. -/
structure OutcomesGood {Body : Type}
    (Allowed : EncodeCall → EngineReply → Prop)
    (Good : EmbeddingJob → EmbeddingResult → Prop)
    (worker : Worker Body) : Prop where
  scheduled : ScheduledGood Good worker
  encoded : ∀ process ∈ worker.processes, ∀ outcomes,
    process.state = .encoding (some outcomes) →
      List.Forall₂ (GoodOutcome Good) (Process.liveJobs process.items)
        outcomes
  running : ∀ thread ∈ worker.threads, ∀ process,
    worker.processes[thread.process]? = some process →
      process.state = .encoding none →
        thread.program.Ensures Allowed
          (List.Forall₂ (GoodOutcome Good)
            (Process.liveJobs process.items))

/-- Every scheduled outcome of some items fits. -/
def ItemsFit {Body : Type} (Fits : EmbeddingJob → Outcome → Prop)
    (items : List (Item Body)) : Prop :=
  ∀ item ∈ items, ∀ outcome, item.state = .scheduled outcome →
    Fits item.delivery.job outcome

/-- The same for any relation of jobs and outcomes. -/
structure OutcomesFit {Body : Type}
    (Allowed : EncodeCall → EngineReply → Prop)
    (Fits : EmbeddingJob → Outcome → Prop) (worker : Worker Body) :
    Prop where
  scheduled : ∀ process ∈ worker.processes, ItemsFit Fits process.items
  encoded : ∀ process ∈ worker.processes, ∀ outcomes,
    process.state = .encoding (some outcomes) →
      List.Forall₂ Fits (Process.liveJobs process.items) outcomes
  running : ∀ thread ∈ worker.threads, ∀ process,
    worker.processes[thread.process]? = some process →
      process.state = .encoding none →
        thread.program.Ensures Allowed
          (List.Forall₂ Fits (Process.liveJobs process.items))

theorem OutcomesGood.fit {Body : Type}
    {Allowed : EncodeCall → EngineReply → Prop}
    {Good : EmbeddingJob → EmbeddingResult → Prop} {worker : Worker Body}
    (good : OutcomesGood Allowed Good worker) :
    OutcomesFit Allowed (GoodOutcome Good) worker :=
  ⟨good.scheduled, good.encoded, good.running⟩

theorem OutcomesFit.good {Body : Type}
    {Allowed : EncodeCall → EngineReply → Prop}
    {Good : EmbeddingJob → EmbeddingResult → Prop} {worker : Worker Body}
    (fit : OutcomesFit Allowed (GoodOutcome Good) worker) :
    OutcomesGood Allowed Good worker :=
  ⟨fit.scheduled, fit.encoded, fit.running⟩

section Items

variable {Body : Type}

/-- Every element on the right of a pointwise relation has its partner. -/
theorem forall₂_mem_right {Left Right : Type}
    {Related : Left → Right → Prop} {lefts : List Left}
    {rights : List Right} (related : List.Forall₂ Related lefts rights)
    {right : Right} (member : right ∈ rights) :
    ∃ left ∈ lefts, Related left right := by
  induction related with
  | nil =>
      cases member
  | @cons first other _ _ head _ inductionHypothesis =>
      rcases List.mem_cons.mp member with same | later
      · rw [same]
        exact ⟨first, List.mem_cons_self, head⟩
      · obtain ⟨left, leftMember, partner⟩ := inductionHypothesis later
        exact ⟨left, List.mem_cons_of_mem _ leftMember, partner⟩

/-- An item that is not live may change into another such item. -/
theorem liveJobs_set {items : List (Item Body)} {position : Nat}
    {item updated : Item Body} (found : items[position]? = some item)
    (before : item.state ≠ .live) (after : updated.state ≠ .live) :
    Process.liveJobs (items.set position updated) =
      Process.liveJobs items := by
  have same : (items.map Process.liveDelivery).set position
      (Process.liveDelivery updated) = items.map Process.liveDelivery := by
    apply ListUpdate.set_self
    rw [List.getElem?_map, found, Option.map_some,
      Process.liveDelivery_of_ne before, Process.liveDelivery_of_ne after]
  have filtered : ∀ others : List (Item Body),
      others.filterMap Process.liveDelivery =
        (others.map Process.liveDelivery).filterMap id := by
    intro others
    rw [List.filterMap_map]
    rfl
  rw [Process.liveJobs, filtered, List.map_set, same, ← filtered,
    Process.liveJobs]

theorem markLive_scheduled {item : Item Body} {outcome : Outcome}
    (scheduled : (Process.markLive item).state = .scheduled outcome) :
    item.state = .scheduled outcome := by
  cases state : item.state <;>
    simp_all [Process.markLive]

end Items

section Steps

variable {Body : Type} {environment : Environment Body}
  {Allowed : EncodeCall → EngineReply → Prop}
  {Fits : EmbeddingJob → Outcome → Prop}
  {worker : Worker Body} {number : Nat} {process : Process Body}

theorem OutcomesFit.items (fit : OutcomesFit Allowed Fits worker)
    (found : worker.processes[number]? = some process) :
    ItemsFit Fits process.items :=
  fit.scheduled process (List.mem_of_getElem? found)

theorem ItemsFit.set {items : List (Item Body)}
    (fit : ItemsFit Fits items) (position : Nat) {updated : Item Body}
    (unscheduled : ∀ outcome, updated.state ≠ .scheduled outcome) :
    ItemsFit Fits (items.set position updated) := by
  intro item member outcome state
  rcases List.mem_or_eq_of_mem_set member with old | new
  · exact fit item old outcome state
  · rw [new] at state
    exact False.elim (unscheduled outcome state)

theorem ItemsFit.markLive {items : List (Item Body)}
    (fit : ItemsFit Fits items) :
    ItemsFit Fits (items.map Process.markLive) := by
  intro item member outcome state
  obtain ⟨source, sourceMember, rfl⟩ := List.mem_map.mp member
  rw [Process.markLive_delivery]
  exact fit source sourceMember outcome (markLive_scheduled state)

/-- A process changes; its scheduled outcomes, its encoded outcomes and the
threads it awaits still fit. -/
theorem OutcomesFit.setProcess (fit : OutcomesFit Allowed Fits worker)
    {updated : Process Body} (items : ItemsFit Fits updated.items)
    (encoded : ∀ outcomes, updated.state = .encoding (some outcomes) →
      List.Forall₂ Fits (Process.liveJobs updated.items)
        outcomes)
    (running : updated.state = .encoding none →
      ∀ thread ∈ worker.threads, thread.process = number →
        thread.program.Ensures Allowed
          (List.Forall₂ Fits (Process.liveJobs updated.items))) :
    OutcomesFit Allowed Fits (worker.setProcess number updated) where
  scheduled := by
    intro other member
    rcases List.mem_or_eq_of_mem_set member with old | new
    · exact fit.scheduled other old
    · rw [new]
      exact items
  encoded := by
    intro other member
    rcases List.mem_or_eq_of_mem_set member with old | new
    · exact fit.encoded other old
    · rw [new]
      exact encoded
  running := by
    intro thread member other found
    by_cases own : thread.process = number
    · intro awaits
      have changed := found
      rw [Worker.setProcess, own, List.getElem?_set_self'] at changed
      obtain ⟨_, _, rfl⟩ := Option.map_eq_some_iff.mp changed
      exact running awaits thread member own
    · rw [Worker.setProcess, List.getElem?_set_ne (Ne.symm own)] at found
      exact fit.running thread member other found

/-- A step that leaves the processes and the threads alone. -/
theorem OutcomesFit.same (fit : OutcomesFit Allowed Fits worker)
    {after : Worker Body} (processes : after.processes = worker.processes)
    (threads : after.threads = worker.threads) :
    OutcomesFit Allowed Fits after where
  scheduled := by
    rw [processes]
    exact fit.scheduled
  encoded := by
    rw [processes]
    exact fit.encoded
  running := by
    rw [processes, threads]
    exact fit.running

/-- A new task has no outcomes, and no thread runs for it. -/
theorem OutcomesFit.create (fit : OutcomesFit Allowed Fits worker)
    (exclusion : Exclusion worker) (lane : LaneName)
    (batch : Batch (Delivery Body) BatchKey) :
    OutcomesFit Allowed Fits
      { worker with
        processes := worker.processes ++ [newProcess lane batch] } where
  scheduled := by
    intro other member
    rcases List.mem_append.mp member with old | new
    · exact fit.scheduled other old
    · rw [List.mem_singleton.mp new]
      intro item itemMember outcome state
      obtain ⟨delivery, _, rfl⟩ := List.mem_map.mp itemMember
      cases state
  encoded := by
    intro other member outcomes state
    rcases List.mem_append.mp member with old | new
    · exact fit.encoded other old outcomes state
    · rw [List.mem_singleton.mp new] at state
      cases state
  running := by
    intro thread member other found awaits
    have known : thread.process < worker.processes.length := by
      rcases exclusion.held thread member with encoding | ⟨_, how, ended⟩
      · obtain ⟨_, present, _⟩ := Option.map_eq_some_iff.mp encoding
        exact (List.getElem?_eq_some_iff.mp present).1
      · obtain ⟨_, present, _⟩ := Option.map_eq_some_iff.mp ended
        exact (List.getElem?_eq_some_iff.mp present).1
    rw [List.getElem?_append_left known] at found
    exact fit.running thread member other found awaits

/-- The encode of a process starts while no thread runs. -/
theorem OutcomesFit.startEncode (fit : OutcomesFit Allowed Fits worker)
    (found : worker.processes[number]? = some process)
    (idle : worker.threads = [])
    (ensures : ∀ jobs, (encodeJobsIsolatingFailures environment.engine
        (some worker.workerId) jobs).Ensures Allowed
      (List.Forall₂ Fits jobs))
    {started : Process Body} (items : ItemsFit Fits started.items)
    (slot : SlotSystem Nat) (now : Instant) :
    OutcomesFit Allowed Fits
      ({ worker with slot := slot }.startEncode environment number started
        now) := by
  have changed : OutcomesFit Allowed Fits
      (worker.setProcess number { started with state := .encoding none }) :=
    fit.setProcess items
      (by
        intro outcomes state
        cases state)
      (by
        intro _ thread member
        rw [idle] at member
        cases member)
  exact
    { scheduled := changed.scheduled
      encoded := changed.encoded
      running := by
        intro thread member other otherFound _
        change thread ∈ worker.threads ++ _ at member
        rw [idle, List.nil_append, List.mem_singleton] at member
        rw [member] at otherFound ⊢
        have inside := (List.getElem?_eq_some_iff.mp found).1
        have own : (worker.processes.set number
            { started with state := .encoding none })[number]? =
              some other := otherFound
        rw [List.getElem?_set_self inside] at own
        cases own
        exact ensures _ }

theorem OutcomesFit.runProcess (fit : OutcomesFit Allowed Fits worker)
    (exclusion : Exclusion worker)
    (found : worker.processes[number]? = some process)
    (running : worker.graceExpired = false)
    (outside : expectedCaller false (some process.state) = .outside)
    (ensures : ∀ jobs, (encodeJobsIsolatingFailures environment.engine
        (some worker.workerId) jobs).Ensures Allowed
      (List.Forall₂ Fits jobs))
    (readings : Nat → Instant) (now : Instant) :
    OutcomesFit Allowed Fits
      (worker.runProcess environment number process readings now) := by
  have items := fit.items found
  have idle : process.state ≠ .encoding none := by
    intro encoding
    rw [encoding] at outside
    cases outside
  have runs :=
    runProcess_runs environment worker number process readings now
  generalize worker.runProcess environment number process readings now =
    result at runs
  cases runs with
  | @expires before after item split unchecked late =>
      have recorded : ∀ events, OutcomesFit Allowed Fits
          (worker.record events) :=
        fun events => fit.same rfl rfl
      refine (recorded _).setProcess ?_ (by simp) (by simp)
      rw [split] at items
      intro other member
      rcases List.mem_append.mp member with marked | later
      · refine ItemsFit.markLive ?_ other marked
        intro source sourceMember
        exact items source (List.mem_append_left _ sourceMember)
      · rcases List.mem_cons.mp later with expiring | rest
        · rw [expiring]
          intro outcome state
          cases state
        · exact items other
            (List.mem_append_right _ (List.mem_cons_of_mem _ rest))
  | ends nothingLive =>
      exact fit.setProcess items.markLive (by simp) (by simp)
  | enters someLive inside =>
      obtain ⟨reachable, others⟩ :
          Reachable SlotSystem.Step worker.slot
              (worker.askedSlot environment number process) ∧
            ∀ other, other ≠ number →
              (worker.askedSlot environment number process).callers other =
                worker.slot.callers other :=
        exclusion.asks found running outside
      have alone := exclusion.noThread found running reachable others inside
        idle
      exact fit.startEncode found alone ensures items.markLive _ now
  | queues someLive notInside =>
      have changed : OutcomesFit Allowed Fits
          (worker.setProcess number
            { process.allLive with state := .queued }) :=
        fit.setProcess items.markLive (by simp) (by simp)
      exact changed.same rfl rfl

theorem OutcomesFit.answerExpiry (fit : OutcomesFit Allowed Fits worker)
    (exclusion : Exclusion worker)
    (found : worker.processes[number]? = some process) {position : Nat}
    (state : process.state = .expiring position) {item : Item Body}
    {settling : Settling Body} {call : BrokerCall} {how : Ending}
    (awaited : settling.call? = some call)
    (running : how = .cancelled ↔ worker.graceExpired = true)
    (ensures : ∀ jobs, (encodeJobsIsolatingFailures environment.engine
        (some worker.workerId) jobs).Ensures Allowed
      (List.Forall₂ Fits jobs))
    (readings : Nat → Instant) (now : Instant) :
    OutcomesFit Allowed Fits
      (worker.answerExpiry environment number process position item settling
        how readings now) := by
  have unthreaded := exclusion.unthreaded found (by simp [state])
    (by simp [state])
  have items : ∀ ending : Settling Body, ItemsFit Fits
      (process.items.set position
        { item with state := .expiring ending }) :=
    fun ending => (fit.items found).set position (by simp)
  have answered : ∀ segment, OutcomesFit Allowed Fits
      (worker.answeredExpiry number process position item segment) := by
    intro segment
    have recorded : OutcomesFit Allowed Fits (worker.record segment.2) :=
      fit.same rfl rfl
    exact recorded.setProcess (items segment.1) (by simp [state])
      (by simp [state])
  have answers := answerExpiry_answers environment worker number process
    position item settling how readings now
  generalize worker.answerExpiry environment number process position item
    settling how readings now = result at answers
  cases answers with
  | continues returned =>
      have notExpired := not_graceExpired_of_returned awaited running
        returned
      exact (answered _).runProcess
        (exclusion.answeredExpiry found unthreaded _)
        (answeredExpiry_found found position item _) notExpired
        (by simp [state, expectedCaller]) ensures readings now
  | leaves failed ended =>
      exact (answered _).setProcess (items _) (by simp) (by simp)
  | awaits pending =>
      exact answered _

theorem OutcomesFit.endThread (fit : OutcomesFit Allowed Fits worker)
    (exclusion : Exclusion worker) {position : Nat} {thread : EncodeThread}
    (found : worker.threads[position]? = some thread)
    {outcomes : List Outcome}
    (finished : thread.program.value? = some outcomes) :
    OutcomesFit Allowed Fits
      (worker.endThread position thread outcomes) := by
  have member := List.mem_of_getElem? found
  have noneLeft := exclusion.noneLeft found
  have ended : OutcomesFit Allowed Fits
      { worker with threads := worker.threads.eraseIdx position } :=
    { scheduled := fit.scheduled
      encoded := fit.encoded
      running := by
        rw [noneLeft]
        simp }
  unfold Worker.endThread
  dsimp only
  split
  · next process processFound =>
      split
      · next encoding =>
          have ensured := fit.running thread member process processFound
            encoding
          have items := fit.items processFound
          refine ended.setProcess items ?_ (by simp)
          intro others same
          cases same
          exact ensured.value finished
      · exact ended
  · exact ended

theorem OutcomesFit.collectOutcomes
    (fit : OutcomesFit Allowed Fits worker)
    (found : worker.processes[number]? = some process)
    {outcomes : List Outcome}
    (state : process.state = .encoding (some outcomes)) :
    OutcomesFit Allowed Fits
      (worker.collectOutcomes number process outcomes) := by
  have fits := fit.encoded process (List.mem_of_getElem? found) outcomes
    state
  have assigned := Process.assignOutcomes_spec fits
  have left : OutcomesFit Allowed Fits
      { worker with slot := worker.slot.next (.leave number) } :=
    fit.same rfl rfl
  refine left.setProcess ?_ (by simp) (by simp)
  intro item member outcome scheduled
  obtain ⟨source, sourceMember, same | ⟨_, given, fit, same⟩⟩ :=
    forall₂_mem_right assigned member
  · rw [same.1] at scheduled ⊢
    exact fit.items found source sourceMember outcome scheduled
  · rw [same] at scheduled ⊢
    cases scheduled
    exact fit

/-- A `_finish` task moves its item; nothing else changes in the process. -/
theorem OutcomesFit.setItem (fit : OutcomesFit Allowed Fits worker)
    (found : worker.processes[number]? = some process) {position : Nat}
    {item updated : Item Body}
    (itemFound : process.items[position]? = some item)
    (before : item.state ≠ .live) (after : updated.state ≠ .live)
    (unscheduled : ∀ outcome, updated.state ≠ .scheduled outcome) :
    OutcomesFit Allowed Fits
      (worker.setItem number process position updated) := by
  have sameJobs := liveJobs_set itemFound before after
  refine fit.setProcess ((fit.items found).set position unscheduled) ?_ ?_
  · intro outcomes state
    rw [sameJobs]
    exact fit.encoded process (List.mem_of_getElem? found) outcomes state
  · intro state thread member own
    rw [sameJobs]
    rw [← own] at found
    exact fit.running thread member process found state

theorem runProcess_identity (environment : Environment Body)
    (worker : Worker Body) (number : Nat) (process : Process Body)
    (readings : Nat → Instant) (now : Instant) :
    (worker.runProcess environment number process readings now).workerId =
        worker.workerId ∧
      (worker.runProcess environment number process readings now).lanes =
        worker.lanes := by
  have runs :=
    runProcess_runs environment worker number process readings now
  generalize worker.runProcess environment number process readings now =
    result at runs
  cases runs <;> exact ⟨rfl, rfl⟩

/-- Every step hands out outcomes of the right jobs only. -/
theorem OutcomesFit.step (fit : OutcomesFit Allowed Fits worker)
    (exclusion : Exclusion worker)
    (ensures : ∀ jobs, (encodeJobsIsolatingFailures environment.engine
        (some worker.workerId) jobs).Ensures Allowed
      (List.Forall₂ Fits jobs))
    {action : WorkerAction Body} {after : Worker Body}
    (allowed : action.EngineAllowed Allowed)
    (taken : WorkerStep environment worker action after) :
    OutcomesFit Allowed Fits after := by
  cases taken with
  | receive consuming connected fresh =>
      unfold Worker.receive
      dsimp only
      split <;> exact fit.same rfl rfl
  | takeBatch loop running ready =>
      exact (fit.create exclusion _ _).same rfl rfl
  | startProcess found state running =>
      exact fit.runProcess exclusion found running
        (by simp [state, expectedCaller]) ensures _ _
  | answerExpiry found state itemFound itemState awaited running =>
      exact fit.answerExpiry exclusion found state awaited running ensures
        _ _
  | enterSlot found state running resolved =>
      obtain ⟨reachable, others⟩ :=
        exclusion.enters found state running resolved
      have noThread := exclusion.noThread found running reachable others
        callers_resume (by simp [state])
      exact fit.startEncode found noThread ensures (fit.items found) _ _
  | engineReplies found calls =>
      exact
        { scheduled := fit.scheduled
          encoded := fit.encoded
          running := by
            intro other member process processFound state
            rcases List.mem_or_eq_of_mem_set member with old | new
            · exact fit.running other old process processFound state
            · rw [new] at processFound ⊢
              exact (fit.running _ (List.mem_of_getElem? found) process
                processFound state).answer calls allowed }
  | endThread found finished =>
      exact fit.endThread exclusion found finished
  | collectOutcomes found state running =>
      exact fit.collectOutcomes found state
  | startFinish found itemFound itemState running =>
      exact (fit.setItem found itemFound (by simp [itemState]) (by simp)
        (by simp)).same rfl rfl
  | answerFinish found itemFound itemState awaited running cancelled =>
      exact (fit.setItem found itemFound (by simp [itemState]) (by simp)
        (by simp)).same rfl rfl
  | cancelFinish found itemFound itemState cancelled =>
      exact fit.setItem found itemFound (by simp [itemState]) (by simp)
        (by simp)
  | endGather found state finished =>
      have items := fit.items found
      exact fit.setProcess items (by simp) (by simp)
  | @cancelProcess number process found state cancelled =>
      have items := fit.items found
      have changed : OutcomesFit Allowed Fits
          (worker.endProcess number process .cancelled) :=
        fit.setProcess items (by simp) (by simp)
      exact changed.same rfl rfl
  | drainBatch draining =>
      exact (fit.create exclusion _ _).same rfl rfl
  | drainedBatch draining found state =>
      unfold Worker.drainedBatch
      split <;> exact fit.same rfl rfl
  | _ =>
      exact fit.same rfl rfl

/-- No step renames a worker or changes its lanes. -/
theorem identity_step {action : WorkerAction Body} {after : Worker Body}
    (taken : WorkerStep environment worker action after) :
    after.workerId = worker.workerId ∧ after.lanes = worker.lanes := by
  cases taken with
  | receive consuming connected fresh =>
      unfold Worker.receive
      dsimp only
      split <;> exact ⟨rfl, rfl⟩
  | startProcess found state running =>
      exact runProcess_identity _ _ _ _ _ _
  | answerExpiry found state itemFound itemState awaited running =>
      unfold Worker.answerExpiry
      dsimp only
      split
      · exact runProcess_identity _ _ _ _ _ _
      · exact ⟨rfl, rfl⟩
      · exact ⟨rfl, rfl⟩
  | endThread found finished =>
      unfold Worker.endThread
      dsimp only
      split
      · split <;> exact ⟨rfl, rfl⟩
      · exact ⟨rfl, rfl⟩
  | drainedBatch draining found state =>
      unfold Worker.drainedBatch
      split <;> exact ⟨rfl, rfl⟩
  | _ =>
      exact ⟨rfl, rfl⟩

end Steps

section Sound

variable {Body : Type} {environment : Environment Body}
  {Allowed : EncodeCall → EngineReply → Prop}
  {Good : EmbeddingJob → EmbeddingResult → Prop} {worker : Worker Body}

/-- What holds of a worker after every run: encodes exclude each other, the
outcomes are good, and its ledger is reached by moves of the ledger. -/
structure WorkerSound (environment : Environment Body) (workerId : PyStr)
    (Allowed : EncodeCall → EngineReply → Prop)
    (Good : EmbeddingJob → EmbeddingResult → Prop)
    (worker : Worker Body) : Prop where
  identity : worker.workerId = workerId
  exclusion : Exclusion worker
  outcomes : OutcomesGood Allowed Good worker
  follows : LedgerFollows environment workerId Good {} worker.ledger

variable {workerId : PyStr}

theorem workerSound_start (lanes : List LaneName) :
    WorkerSound environment workerId Allowed Good
      (Worker.start Body workerId lanes) where
  identity := rfl
  exclusion := exclusion_start workerId lanes
  outcomes :=
    { scheduled := by
        intro process member
        cases member
      encoded := by
        intro process member
        cases member
      running := by
        intro thread member
        cases member }
  follows := Reachable.refl _

theorem WorkerSound.step
    (sound : WorkerSound environment workerId Allowed Good worker)
    (splits : SplitsGood environment.engine (some workerId) Allowed Good)
    {action : WorkerAction Body} {after : Worker Body}
    (allowed : action.EngineAllowed Allowed)
    (taken : WorkerStep environment worker action after) :
    WorkerSound environment workerId Allowed Good after where
  identity := (identity_step taken).1.trans sound.identity
  exclusion := sound.exclusion.step taken
  outcomes := by
    refine (sound.outcomes.fit.step sound.exclusion ?_ allowed taken).good
    rw [sound.identity]
    exact encodeJobsIsolatingFailures_fits (encodesFit_good splits)
  follows := by
    have moved := ledger_step sound.outcomes.scheduled taken
    rw [sound.identity] at moved
    exact sound.follows.trans moved

theorem WorkerSound.ledgerSound
    (sound : WorkerSound environment workerId Allowed Good worker) :
    worker.ledger.Sound environment workerId Good :=
  Ledger.sound_of_reachable sound.follows

/-- Without any rule for the engine, outcomes are still attributed. -/
theorem workerSound_of_reachable {lanes : List LaneName}
    (reachable : Reachable (WorkerStep environment)
      (Worker.start Body workerId lanes) worker) :
    WorkerSound environment workerId (fun _ _ => True) Attributed
      worker := by
  refine reachable.invariant (workerSound_start lanes) ?_
  intro before label after sound taken
  refine sound.step (splitsGood_attributed _) ?_ taken
  cases label <;> exact trivial

end Sound

end EmbeddingService
