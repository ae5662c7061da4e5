import EmbeddingService.Worker.QuietRuns

/-!
# Graceful shutdown

Whatever the moment of the stop, every delivery that waits in a batcher is
found: by its lane loop, by the wait for the tasks in flight, or by the final
drain.
-/

namespace EmbeddingService

open LabelledRuns Trace

section Events

variable {Body : Type} {environment : Environment Body} {workerId : PyStr}
  {lane : LaneName} {message : Message Body} {event : Event Body}

theorem settle_isSettlement {result : EmbeddingResult} {retry : Bool}
    (member : event ∈
      (settle environment workerId lane message result retry).2) :
    event.isSettlement = true := by
  unfold settle at member
  split at member
  · split at member
    · rcases List.mem_cons.mp member with first | later
      · rw [first]
        rfl
      · rw [List.mem_singleton.mp later]
        rfl
    · rw [List.mem_singleton.mp member]
      rfl
  · rw [List.mem_singleton.mp member]
    rfl

theorem resume_isSettlement {settling : Settling Body} {how : Ending}
    (member : event ∈ (settling.resume lane message how).2) :
    event.isSettlement = true := by
  cases settling with
  | publishing result retry reply =>
      cases how <;>
        simp only [Settling.resume, List.mem_cons, List.not_mem_nil,
          or_false] at member
      · rcases member with same | same <;> rw [same] <;> rfl
      · rcases member with same | same <;> rw [same] <;> rfl
  | _ =>
      cases member

theorem expire_isSettlement {delivery : Delivery Body} {now : Instant}
    (member : event ∈
      (expire environment workerId lane delivery now).2) :
    event.isSettlement = true := by
  cases lane with
  | query =>
      rcases List.mem_cons.mp member with first | later
      · rw [first]
        rfl
      · rw [List.mem_singleton.mp later]
        rfl
  | index =>
      rcases List.mem_cons.mp member with first | later
      · rw [first]
        rfl
      · exact settle_isSettlement later

theorem finish_isSettlement {delivery : Delivery Body} {outcome : Outcome}
    (member : event ∈
      (finish environment workerId lane delivery outcome).2) :
    event.isSettlement = true := by
  cases outcome with
  | ok result =>
      exact settle_isSettlement member
  | error raised =>
      cases lane with
      | index =>
          cases read : deliveryAttempt delivery.message with
          | error unreadable =>
              rw [finish_of_unreadable read] at member
              rw [List.mem_singleton.mp member]
              rfl
          | ok attempt =>
              rw [finish_of_read read] at member
              rcases List.mem_cons.mp member with first | later
              · rw [first]
                rfl
              · rw [List.mem_singleton.mp later]
                rfl
      | query =>
          rcases List.mem_cons.mp member with first | later
          · rw [first]
            rfl
          · exact settle_isSettlement later

/-- A segment of `_on_message` that logs a delivery as buffered ends with it
buffered, while the worker is not draining. -/
theorem onMessage_buffered {draining : Bool} {freshId : PyStr}
    {now : Instant} {other : LaneName} {otherMessage : Message Body}
    (member : .buffered other otherMessage ∈
      (onMessage environment workerId lane draining freshId now
        message).2) :
    other = lane ∧ otherMessage = message ∧
      ∃ job, (onMessage environment workerId lane draining freshId now
        message).1 = .buffered job := by
  cases draining with
  | true =>
      rw [onMessage_of_draining] at member
      cases List.mem_singleton.mp member
  | false =>
      cases parsed : parseMessage environment workerId freshId message with
      | error escape =>
          rw [onMessage_of_escape parsed] at member
          cases member
      | ok parsedMessage =>
          cases parsedMessage with
          | rejection result =>
              rw [onMessage_of_rejection parsed] at member
              rcases List.mem_cons.mp member with first | later
              · cases first
              · cases settle_isSettlement later
          | job job =>
              cases late : isExpired job now with
              | true =>
                  rw [onMessage_of_expired parsed late] at member
                  cases expire_isSettlement member
              | false =>
                  rw [onMessage_of_buffered parsed late] at member ⊢
                  cases List.mem_singleton.mp member
                  exact ⟨rfl, rfl, job, rfl⟩

end Events

section Handlers

variable {Body : Type} {environment : Environment Body}
  {worker : Worker Body} {number : Nat} {process : Process Body}

/-- Every delivery that was logged as buffered has a handler that is done with
it. -/
def BufferedKnown (worker : Worker Body) : Prop :=
  ∀ lane message, .buffered lane message ∈ worker.log →
    ∃ handler ∈ worker.handlers, handler.lane = lane ∧
      handler.message = message ∧ ∃ job, handler.state = .buffered job

/-- The handlers stay and nothing is logged as buffered. -/
theorem BufferedKnown.keep (known : BufferedKnown worker)
    {after : Worker Body} (handlers : after.handlers = worker.handlers)
    {added : List (Event Body)} (log : after.log = worker.log ++ added)
    (unbuffered : ∀ lane message, .buffered lane message ∉ added) :
    BufferedKnown after := by
  intro lane message member
  rw [log] at member
  rw [handlers]
  rcases List.mem_append.mp member with earlier | new
  · exact known lane message earlier
  · exact False.elim (unbuffered lane message new)

theorem BufferedKnown.same (known : BufferedKnown worker)
    {after : Worker Body} (handlers : after.handlers = worker.handlers)
    (log : after.log = worker.log) : BufferedKnown after :=
  known.keep handlers (log.trans (List.append_nil _).symm) (by simp)

theorem BufferedKnown.settle (known : BufferedKnown worker)
    {after : Worker Body} (handlers : after.handlers = worker.handlers)
    {added : List (Event Body)} (log : after.log = worker.log ++ added)
    (settlements : ∀ event ∈ added, event.isSettlement = true) :
    BufferedKnown after := by
  refine known.keep handlers log ?_
  intro lane message member
  cases settlements _ member

theorem BufferedKnown.receive (known : BufferedKnown worker)
    (lane : LaneName) (message : Message Body) (freshId : PyStr)
    (now : Instant) (clock : Seconds) :
    BufferedKnown
      (worker.receive environment lane message freshId now clock) := by
  have handled : ∀ segment : Segment Body (HandlerState Body),
      (∀ other otherMessage, .buffered other otherMessage ∈ segment.2 →
        other = lane ∧ otherMessage = message ∧
          ∃ job, segment.1 = .buffered job) →
      BufferedKnown
        { worker with
          handlers := worker.handlers ++
            [{ lane := lane, message := message, state := segment.1 }]
          log := worker.log ++ segment.2 } := by
    intro segment buffers other otherMessage member
    rcases List.mem_append.mp member with earlier | added
    · obtain ⟨handler, handlerMember, found⟩ :=
        known other otherMessage earlier
      exact ⟨handler, List.mem_append_left _ handlerMember, found⟩
    · obtain ⟨sameLane, sameMessage, buffered⟩ :=
        buffers other otherMessage added
      exact ⟨_, List.mem_append_right _ (List.mem_singleton_self _),
        sameLane.symm, sameMessage.symm, buffered⟩
  have received := handled
    (onMessage environment worker.workerId lane worker.draining freshId now
      message)
    (fun _ _ member => onMessage_buffered member)
  unfold Worker.receive
  dsimp only
  split
  · exact received.same rfl rfl
  · exact received

theorem BufferedKnown.answerHandler (known : BufferedKnown worker)
    {handler : Handler Body} {settling : Settling Body}
    (found : worker.handlers[number]? = some handler)
    (state : handler.state = .settling settling) (how : Ending) :
    BufferedKnown
      (worker.answerHandler number handler settling how) := by
  intro lane message member
  rcases List.mem_append.mp member with earlier | added
  · obtain ⟨other, otherMember, sameLane, sameMessage, job, buffered⟩ :=
      known lane message earlier
    obtain ⟨index, otherFound⟩ := List.mem_iff_getElem?.mp otherMember
    have different : number ≠ index := by
      intro same
      rw [← same, found] at otherFound
      cases otherFound
      rw [state] at buffered
      cases buffered
    refine ⟨other, ?_, sameLane, sameMessage, job, buffered⟩
    refine List.mem_of_getElem? ?_ (i := index)
    change (worker.handlers.set number _)[index]? = some other
    rw [List.getElem?_set_ne different]
    exact otherFound
  · cases resume_isSettlement added

theorem BufferedKnown.runProcess (known : BufferedKnown worker)
    (readings : Nat → Instant) (now : Instant) :
    BufferedKnown
      (worker.runProcess environment number process readings now) := by
  have runs :=
    runProcess_runs environment worker number process readings now
  generalize worker.runProcess environment number process readings now =
    result at runs
  cases runs with
  | expires split unchecked late =>
      exact known.settle rfl rfl (fun _ member => expire_isSettlement member)
  | ends nothingLive =>
      exact known.same rfl rfl
  | enters someLive inside =>
      exact known.keep rfl rfl (by simp)
  | queues someLive outside =>
      exact known.same rfl rfl

theorem BufferedKnown.step (known : BufferedKnown worker)
    {action : WorkerAction Body} {after : Worker Body}
    (taken : WorkerStep environment worker action after) :
    BufferedKnown after := by
  cases taken with
  | receive consuming connected fresh =>
      exact known.receive _ _ _ _ _
  | answerHandler found state awaited running =>
      exact known.answerHandler found state _
  | startProcess found state running =>
      exact known.runProcess _ _
  | @answerExpiry number position process item settling call how readings now
      found state itemFound itemState awaited running =>
      have answered : ∀ segment : Segment Body (Settling Body),
          (∀ event ∈ segment.2, event.isSettlement = true) →
          BufferedKnown
            (worker.answeredExpiry number process position item segment) :=
        fun segment settlements => known.settle rfl rfl settlements
      have resumed := answered
        (settling.resume process.lane item.delivery.message how)
        (fun _ member => resume_isSettlement member)
      have answers := answerExpiry_answers environment worker number process
        position item settling how readings now
      generalize worker.answerExpiry environment number process position
        item settling how readings now = result at answers
      cases answers with
      | continues returned =>
          exact resumed.runProcess readings now
      | leaves failed ended =>
          exact resumed.same rfl rfl
      | awaits pending =>
          exact resumed
  | enterSlot found state running resolved =>
      exact known.keep rfl rfl (by simp)
  | endThread found finished =>
      unfold Worker.endThread
      dsimp only
      split
      · split <;> exact known.same rfl rfl
      · exact known.same rfl rfl
  | startFinish found itemFound itemState running =>
      exact known.settle rfl rfl (fun _ member => finish_isSettlement member)
  | answerFinish found itemFound itemState awaited running cancelled =>
      exact known.settle rfl rfl (fun _ member => resume_isSettlement member)
  | beginShutdown running =>
      exact known.keep rfl rfl (by simp)
  | drainedBatch draining found state =>
      unfold Worker.drainedBatch
      split <;> exact known.same rfl rfl
  | _ =>
      exact known.same rfl rfl

end Handlers

section BatchSteps

variable {Body : Type} {environment : Environment Body}
  {worker after : Worker Body} {number : Nat} {process : Process Body}

/-- What a step of one batch task leaves alone.  A task that is over stays
so. -/
structure BatchStep (worker after : Worker Body) (number : Nat) : Prop where
  main : after.main = worker.main
  draining : after.draining = worker.draining
  lanes : after.lanes = worker.lanes
  lane : after.lane = worker.lane
  handlers : after.handlers = worker.handlers
  abandoned : after.abandoned = worker.abandoned
  ready : after.ready = worker.ready
  processes : ∃ process updated,
    worker.processes[number]? = some process ∧
      (process.state.isEnded = true → updated.state = process.state) ∧
      after.processes = worker.processes.set number updated

/-- A step that only sets a process which is not over. -/
theorem batchStep_of_set
    (found : worker.processes[number]? = some process)
    (unended : process.state.isEnded = false) (updated : Process Body)
    (slot : SlotSystem Nat) (threads : List EncodeThread)
    (log : List (Event Body)) :
    BatchStep worker
      { worker with
        slot := slot
        threads := threads
        log := log
        processes := worker.processes.set number updated } number where
  main := rfl
  draining := rfl
  lanes := rfl
  lane := rfl
  handlers := rfl
  abandoned := rfl
  ready := rfl
  processes := by
    refine ⟨process, updated, found, ?_, rfl⟩
    intro ended
    rw [unended] at ended
    cases ended

theorem batchStep_of_setItem
    (found : worker.processes[number]? = some process)
    (items : List (Item Body)) (log : List (Event Body)) :
    BatchStep worker
      { worker with
        log := log
        processes := worker.processes.set number
          { process with items := items } } number where
  main := rfl
  draining := rfl
  lanes := rfl
  lane := rfl
  handlers := rfl
  abandoned := rfl
  ready := rfl
  processes :=
    ⟨process, { process with items := items }, found, fun _ => rfl, rfl⟩

theorem BatchStep.trans {middle : Worker Body}
    (first : BatchStep worker middle number)
    (second : BatchStep middle after number) :
    BatchStep worker after number where
  main := second.main.trans first.main
  draining := second.draining.trans first.draining
  lanes := second.lanes.trans first.lanes
  lane := second.lane.trans first.lane
  handlers := second.handlers.trans first.handlers
  abandoned := second.abandoned.trans first.abandoned
  ready := second.ready.trans first.ready
  processes := by
    obtain ⟨process, updated, found, stays, processes⟩ := first.processes
    obtain ⟨other, final, otherFound, otherStays, otherProcesses⟩ :=
      second.processes
    have inside := (List.getElem?_eq_some_iff.mp found).1
    rw [processes, List.getElem?_set_self inside] at otherFound
    cases otherFound
    refine ⟨process, final, found, ?_, ?_⟩
    · intro ended
      have same := stays ended
      rw [← same] at ended
      exact (otherStays ended).trans same
    · rw [otherProcesses, processes, List.set_set]

theorem runProcess_batchStep
    (found : worker.processes[number]? = some process)
    (unended : process.state.isEnded = false) {started : Process Body}
    (readings : Nat → Instant) (now : Instant) :
    BatchStep worker
      (worker.runProcess environment number started readings now)
      number := by
  have runs :=
    runProcess_runs environment worker number started readings now
  generalize worker.runProcess environment number started readings now =
    result at runs
  cases runs with
  | expires split unchecked late =>
      exact batchStep_of_set found unended _ worker.slot worker.threads _
  | ends nothingLive =>
      exact batchStep_of_set found unended _ worker.slot worker.threads
        worker.log
  | enters someLive inside =>
      exact batchStep_of_set found unended _ _ _ _
  | queues someLive outside =>
      exact batchStep_of_set found unended _ _ worker.threads worker.log

theorem answerExpiry_batchStep
    (found : worker.processes[number]? = some process) {position : Nat}
    (state : process.state = .expiring position) (item : Item Body)
    (settling : Settling Body) (how : Ending) (readings : Nat → Instant)
    (now : Instant) :
    BatchStep worker
      (worker.answerExpiry environment number process position item settling
        how readings now) number := by
  have unended : process.state.isEnded = false := by
    rw [state]
    rfl
  have answered : ∀ segment, BatchStep worker
      (worker.answeredExpiry number process position item segment) number :=
    fun segment =>
      batchStep_of_set found unended _ worker.slot worker.threads _
  have answers := answerExpiry_answers environment worker number process
    position item settling how readings now
  generalize worker.answerExpiry environment number process position item
    settling how readings now = result at answers
  cases answers with
  | continues returned =>
      exact (answered _).trans (runProcess_batchStep
        (answeredExpiry_found found position item _) unended readings now)
  | leaves failed ended =>
      have resumed := answered
        (settling.resume process.lane item.delivery.message how)
      refine resumed.trans ?_
      exact batchStep_of_set (answeredExpiry_found found position item _)
        unended _ worker.slot worker.threads _
  | awaits pending =>
      exact answered _

/-- The labels of the steps of batch tasks and their threads. -/
def WorkerAction.IsBatch : WorkerAction Body → Prop
  | .startProcess _ _ _ => True
  | .answerExpiry _ _ _ _ _ => True
  | .enterSlot _ _ => True
  | .engineReplies _ _ _ => True
  | .endThread _ => True
  | .collectOutcomes _ => True
  | .startFinish _ _ => True
  | .answerFinish _ _ _ _ => True
  | .cancelFinish _ _ => True
  | .endGather _ => True
  | .cancelProcess _ => True
  | _ => False

/-- A step of a batch task changes its process, or a thread alone. -/
theorem step_isBatch {action : WorkerAction Body}
    (batch : action.IsBatch)
    (taken : WorkerStep environment worker action after) :
    (∃ threads, after = { worker with threads := threads }) ∨
      ∃ number, BatchStep worker after number := by
  cases taken with
  | startProcess found state running =>
      exact Or.inr ⟨_, runProcess_batchStep found (by rw [state]; rfl) _ _⟩
  | answerExpiry found state itemFound itemState awaited running =>
      exact Or.inr ⟨_, answerExpiry_batchStep found state _ _ _ _ _⟩
  | enterSlot found state running resolved =>
      exact Or.inr ⟨_, batchStep_of_set found (by rw [state]; rfl) _ _ _ _⟩
  | engineReplies found calls =>
      exact Or.inl ⟨_, rfl⟩
  | endThread found finished =>
      unfold Worker.endThread
      dsimp only
      split
      · next process processFound =>
          split
          · next encoding =>
              exact Or.inr ⟨_, batchStep_of_set processFound
                (by rw [encoding]; rfl) _ worker.slot _ worker.log⟩
          · exact Or.inl ⟨_, rfl⟩
      · exact Or.inl ⟨_, rfl⟩
  | collectOutcomes found state running =>
      exact Or.inr ⟨_, batchStep_of_set found (by rw [state]; rfl) _ _
        worker.threads worker.log⟩
  | startFinish found itemFound itemState running =>
      exact Or.inr ⟨_, batchStep_of_setItem found _ _⟩
  | answerFinish found itemFound itemState awaited running cancelled =>
      exact Or.inr ⟨_, batchStep_of_setItem found _ _⟩
  | cancelFinish found itemFound itemState cancelled =>
      exact Or.inr ⟨_, batchStep_of_setItem found _ worker.log⟩
  | endGather found state finished =>
      exact Or.inr ⟨_, batchStep_of_set found (by rw [state]; rfl) _
        worker.slot worker.threads worker.log⟩
  | cancelProcess found state cancelled =>
      refine Or.inr ⟨_, batchStep_of_set found ?_ _ _ worker.threads
        worker.log⟩
      rcases state with created | queued | ⟨outcomes, encoding⟩
      · rw [created]
        rfl
      · rw [queued]
        rfl
      · rw [encoding]
        rfl
  | _ =>
      exact batch.elim

end BatchSteps

section Stages

variable {Body : Type} {environment : Environment Body}
  {worker after : Worker Body}

/-- The batcher of a lane holds no group. -/
def Worker.LaneEmpty (worker : Worker Body) (lane : LaneName) : Prop :=
  (worker.lane lane).batcher.groups.entries = []

/-- Nothing waits in a batcher and no batch task is in flight. -/
structure Worker.Emptied (worker : Worker Body) : Prop where
  draining : worker.draining = true
  lanes : ∀ lane, worker.LaneEmpty lane
  processes : ∀ (number : Nat) (process : Process Body),
    worker.processes[number]? = some process →
      process.state.isEnded = true

/-- What the shutdown has done by each stage of `run`: lanes that are drained
already are empty, and besides the batch in process no task is in flight. -/
def Stage (worker : Worker Body) : Prop :=
  match worker.main with
  | .starting lanes =>
      worker.draining = false ∧ ∀ lane ∈ lanes, lane ∈ worker.lanes
  | .serving => worker.draining = false
  | .draining current _ lanes =>
      worker.draining = true ∧
        (∀ lane ∈ lanes, lane ∈ worker.lanes) ∧
        (∀ lane, lane ∉ lanes → worker.LaneEmpty lane) ∧
        ∀ (number : Nat) (process : Process Body),
          worker.processes[number]? = some process →
            current ≠ some number → process.state.isEnded = true
  | .closing => worker.Emptied
  | .closed => worker.Emptied
  | .failed => True
  | _ => worker.draining = true

/-- Early stages look at nothing but the flag and the lanes. -/
theorem Stage.early (stage : Stage worker)
    (early : worker.main.loopsCancelled = false)
    (main : after.main = worker.main)
    (draining : after.draining = worker.draining)
    (lanes : after.lanes = worker.lanes) : Stage after := by
  unfold Stage at stage ⊢
  rw [main, draining, lanes]
  cases state : worker.main with
  | starting remaining =>
      rw [state] at stage
      exact stage
  | serving =>
      rw [state] at stage
      exact stage
  | cancellingConsumers =>
      rw [state] at stage
      exact stage
  | _ =>
      rw [state] at early
      cases early

/-- A step that empties no stage: drained lanes stay empty, and tasks that are
over stay so. -/
theorem Stage.frame (stage : Stage worker)
    (main : after.main = worker.main)
    (draining : after.draining = worker.draining)
    (lanes : after.lanes = worker.lanes)
    (empty : worker.draining = true → ∀ lane, worker.LaneEmpty lane →
      after.LaneEmpty lane)
    (ended : ∀ (number : Nat) (process : Process Body),
      after.processes[number]? = some process →
        ∃ before, worker.processes[number]? = some before ∧
          (before.state.isEnded = true → process.state.isEnded = true)) :
    Stage after := by
  have emptied : worker.Emptied → after.Emptied := by
    intro emptied
    refine ⟨draining.trans emptied.draining, ?_, ?_⟩
    · intro lane
      exact empty emptied.draining lane (emptied.lanes lane)
    · intro number process found
      obtain ⟨before, beforeFound, stays⟩ := ended number process found
      exact stays (emptied.processes number before beforeFound)
  unfold Stage at stage ⊢
  rw [main, draining, lanes]
  cases state : worker.main with
  | draining current batches remaining =>
      rw [state] at stage
      obtain ⟨drains, subset, drained, finished⟩ := stage
      refine ⟨drains, subset, ?_, ?_⟩
      · intro lane notLeft
        exact empty drains lane (drained lane notLeft)
      · intro number process found other
        obtain ⟨before, beforeFound, stays⟩ := ended number process found
        exact stays (finished number before beforeFound other)
  | closing =>
      rw [state] at stage
      exact emptied stage
  | closed =>
      rw [state] at stage
      exact emptied stage
  | _ =>
      rw [state] at stage
      exact stage

/-- The stage of `run`, the lanes the worker does not serve, and nothing left
over. -/
structure Orderly (worker : Worker Body) : Prop where
  stage : Stage worker
  outside : ∀ lane, lane ∉ worker.lanes → worker.lane lane = {}
  abandoned : worker.abandoned = []

theorem orderly_start (workerId : PyStr) (lanes : List LaneName) :
    Orderly (Worker.start Body workerId lanes) where
  stage := ⟨rfl, fun _ member => member⟩
  outside := fun _ _ => rfl
  abandoned := rfl

theorem Orderly.served (orderly : Orderly worker) {lane : LaneName}
    (used : worker.lane lane ≠ {}) : lane ∈ worker.lanes := by
  by_contra absent
  exact used (orderly.outside lane absent)

/-- Lanes other than a served one keep their state. -/
theorem Orderly.outside_setLane (orderly : Orderly worker)
    {lane : LaneName} (served : lane ∈ worker.lanes) (changed : Lane Body) :
    ∀ other, other ∉ worker.lanes →
      (worker.setLane lane changed).lane other = {} := by
  intro other absent
  have different : other ≠ lane := by
    intro same
    rw [same] at absent
    exact absent served
  rw [Worker.setLane_lane_of_ne different]
  exact orderly.outside other absent

theorem batchStep_ended {number : Nat}
    (batchStep : BatchStep worker after number) (index : Nat)
    (process : Process Body)
    (found : after.processes[index]? = some process) :
    ∃ before, worker.processes[index]? = some before ∧
      (before.state.isEnded = true → process.state.isEnded = true) := by
  obtain ⟨before, updated, beforeFound, stays, processes⟩ :=
    batchStep.processes
  rw [processes] at found
  by_cases same : index = number
  · have inside := (List.getElem?_eq_some_iff.mp beforeFound).1
    rw [same, List.getElem?_set_self inside] at found
    cases found
    refine ⟨before, by rw [same]; exact beforeFound, ?_⟩
    intro ended
    rw [stays ended]
    exact ended
  · rw [List.getElem?_set_ne (Ne.symm same)] at found
    exact ⟨process, found, id⟩

theorem Orderly.batchStep (orderly : Orderly worker) {number : Nat}
    (batchStep : BatchStep worker after number) : Orderly after where
  stage := by
    refine orderly.stage.frame batchStep.main batchStep.draining
      batchStep.lanes ?_ (batchStep_ended batchStep)
    intro _ lane
    unfold Worker.LaneEmpty
    rw [batchStep.lane]
    exact id
  outside := by
    rw [batchStep.lanes, batchStep.lane]
    exact orderly.outside
  abandoned := batchStep.abandoned.trans orderly.abandoned

/-- A step that moves neither `run`, nor a batcher, nor a task. -/
theorem Orderly.same (orderly : Orderly worker)
    (main : after.main = worker.main)
    (draining : after.draining = worker.draining)
    (lanes : after.lanes = worker.lanes)
    (lane : after.lane = worker.lane)
    (abandoned : after.abandoned = worker.abandoned)
    (processes : after.processes = worker.processes) : Orderly after where
  stage := by
    refine orderly.stage.frame main draining lanes ?_ ?_
    · intro _ name
      unfold Worker.LaneEmpty
      rw [lane]
      exact id
    · intro number process found
      rw [processes] at found
      exact ⟨process, found, id⟩
  outside := by
    rw [lanes, lane]
    exact orderly.outside
  abandoned := abandoned.trans orderly.abandoned

/-- A lane's loop or consumer moves. -/
theorem Orderly.setLane (orderly : Orderly worker) {lane : LaneName}
    (served : lane ∈ worker.lanes) {changed : Lane Body}
    (batcher : changed.batcher = (worker.lane lane).batcher) :
    Orderly (worker.setLane lane changed) where
  stage := by
    refine orderly.stage.frame rfl rfl rfl ?_
      (fun _ process found => ⟨process, found, id⟩)
    intro _ other
    unfold Worker.LaneEmpty
    by_cases same : other = lane
    · rw [same, Worker.setLane_lane_self, batcher]
      exact id
    · rw [Worker.setLane_lane_of_ne same]
      exact id
  outside := orderly.outside_setLane served changed
  abandoned := orderly.abandoned

theorem Orderly.startLoop (orderly : Orderly worker) {lane : LaneName}
    {rest : List LaneName}
    (starting : worker.main = .starting (lane :: rest)) :
    Orderly ({ worker with main := .starting rest }.setLoop lane
      .waiting) := by
  have stage := orderly.stage
  rw [Stage, starting] at stage
  obtain ⟨serving, subset⟩ := stage
  exact
    { stage :=
        ⟨serving, fun other member =>
          subset other (List.mem_cons_of_mem _ member)⟩
      outside :=
        orderly.outside_setLane (subset lane List.mem_cons_self) _
      abandoned := orderly.abandoned }

theorem Orderly.receive (orderly : Orderly worker) {lane : LaneName}
    (served : lane ∈ worker.lanes) (message : Message Body)
    (freshId : PyStr) (now : Instant) (clock : Seconds) :
    Orderly
      (worker.receive environment lane message freshId now clock) := by
  unfold Worker.receive
  dsimp only
  split
  · next job buffered =>
      have serving : worker.draining = false := by
        cases drains : worker.draining with
        | false =>
            rfl
        | true =>
            rw [drains, onMessage_of_draining] at buffered
            cases buffered
      refine ⟨?_, orderly.outside_setLane served _, orderly.abandoned⟩
      refine orderly.stage.frame rfl rfl rfl ?_
        (fun _ process found => ⟨process, found, id⟩)
      intro drains
      rw [serving] at drains
      cases drains
  · exact orderly.same rfl rfl rfl rfl rfl rfl

theorem Orderly.takeBatch (orderly : Orderly worker) {lane : LaneName}
    (served : lane ∈ worker.lanes)
    (running : worker.main.loopsCancelled = false)
    (batch : Batch (Delivery Body) BatchKey)
    (rest : MicroBatcher (Delivery Body) BatchKey) :
    Orderly (worker.takeBatch lane batch rest) where
  stage := orderly.stage.early running rfl rfl rfl
  outside := orderly.outside_setLane served _
  abandoned := orderly.abandoned

theorem Orderly.inflightJoined (orderly : Orderly worker)
    (joining : worker.main = .joiningInflight)
    (graced : worker.graceExpired = false)
    (finished : ∀ process ∈ worker.processes, process.state.isEnded = true) :
    Orderly
      { worker with
        main :=
          if worker.graceExpired then
            .closing
          else
            .draining none [] worker.lanes } := by
  have drains := orderly.stage
  rw [Stage, joining] at drains
  rw [graced, if_neg Bool.false_ne_true]
  refine ⟨⟨drains, fun _ member => member, ?_, ?_⟩, orderly.outside,
    orderly.abandoned⟩
  · intro lane absent
    have unused : worker.lane lane = {} := orderly.outside lane absent
    change (worker.lane lane).batcher.groups.entries = []
    rw [unused]
    rfl
  · intro number process found _
    exact finished process (List.mem_of_getElem? found)

theorem Orderly.drainLane (orderly : Orderly worker) {lane : LaneName}
    {rest : List LaneName}
    (draining : worker.main = .draining none [] (lane :: rest)) :
    Orderly (worker.drainLane environment lane rest) := by
  have stage := orderly.stage
  rw [Stage, draining] at stage
  obtain ⟨drains, subset, drained, finished⟩ := stage
  refine ⟨⟨drains, ?_, ?_, finished⟩,
    orderly.outside_setLane (subset lane List.mem_cons_self) _,
    orderly.abandoned⟩
  · intro other member
    exact subset other (List.mem_cons_of_mem _ member)
  · intro other absent
    change ((worker.setBatcher lane _).lane other).batcher.groups.entries =
      []
    by_cases same : other = lane
    · rw [same, Worker.setBatcher, Worker.setLane_lane_self]
      exact MicroBatcher.drain_empties _ _
    · rw [Worker.setBatcher, Worker.setLane_lane_of_ne same]
      refine drained other ?_
      rw [List.mem_cons, not_or]
      exact ⟨same, absent⟩

theorem Orderly.drainBatch (orderly : Orderly worker) {lane : LaneName}
    {batch : Batch (Delivery Body) BatchKey}
    {batches : List (LaneName × Batch (Delivery Body) BatchKey)}
    {lanes : List LaneName}
    (draining : worker.main = .draining none ((lane, batch) :: batches)
      lanes) : Orderly (worker.drainBatch lane batch batches lanes) := by
  have stage := orderly.stage
  rw [Stage, draining] at stage
  obtain ⟨drains, subset, drained, finished⟩ := stage
  refine ⟨⟨drains, subset, drained, ?_⟩, orderly.outside,
    orderly.abandoned⟩
  intro number process found other
  rcases ListUpdate.found_concat found with before | ⟨last, _⟩
  · exact finished number process before (by simp)
  · exact False.elim (other (congrArg some last.symm))

theorem Orderly.drainedBatch (orderly : Orderly worker)
    (graced : worker.graceExpired = false) {number : Nat}
    {batches : List (LaneName × Batch (Delivery Body) BatchKey)}
    {lanes : List LaneName} {process : Process Body} {how : Ending}
    (timeoutError : Bool)
    (draining : worker.main = .draining (some number) batches lanes)
    (found : worker.processes[number]? = some process)
    (state : process.state = .ended how) (returned : how = .returned) :
    Orderly (worker.drainedBatch how timeoutError batches lanes) := by
  have stage := orderly.stage
  rw [Stage, draining] at stage
  obtain ⟨drains, subset, drained, finished⟩ := stage
  rw [Worker.drainedBatch, if_pos ⟨graced, returned⟩]
  refine ⟨⟨drains, subset, drained, ?_⟩, orderly.outside,
    orderly.abandoned⟩
  intro other otherProcess otherFound _
  by_cases same : number = other
  · change worker.processes[other]? = some otherProcess at otherFound
    rw [← same, found] at otherFound
    cases otherFound
    rw [state]
    rfl
  · exact finished other otherProcess otherFound (by simpa using same)

/-- The batch that `_shutdown` processes can end by returning only. -/
def DrainReturns (worker : Worker Body) : Prop :=
  ∀ number batches lanes process how,
    worker.main = .draining (some number) batches lanes →
      worker.processes[number]? = some process →
        process.state = .ended how → how = .returned

theorem QuietWorker.drainReturns (quietWorker : QuietWorker worker) :
    DrainReturns worker := by
  intro number batches lanes process how draining found state
  have fits := quietWorker.found found
  rw [Process.Fits, state] at fits
  exact fits.1

/-- Every step before the end of the grace period keeps the shutdown in
order, as long as the batches of the drain return. -/
theorem Orderly.step (orderly : Orderly worker)
    (graced : worker.graceExpired = false)
    {action : WorkerAction Body} (inGrace : action ≠ .graceOver)
    (returns : ∀ timeoutError, action = .drainedBatch timeoutError →
      DrainReturns worker)
    (taken : WorkerStep environment worker action after) :
    Orderly after := by
  have stage := orderly.stage
  by_cases batch : action.IsBatch
  · rcases step_isBatch batch taken with ⟨threads, same⟩ | ⟨number, batchStep⟩
    · rw [same]
      exact orderly.same rfl rfl rfl rfl rfl rfl
    · exact orderly.batchStep batchStep
  cases taken with
  | @consume lane rest starting =>
      rw [Stage, starting] at stage
      exact orderly.setLane (stage.2 lane List.mem_cons_self) rfl
  | startLoop starting consuming =>
      exact orderly.startLoop starting
  | serve starting =>
      rw [Stage, starting] at stage
      exact ⟨stage.1, orderly.outside, orderly.abandoned⟩
  | receive consuming connected fresh =>
      refine orderly.receive (orderly.served ?_) _ _ _ _
      intro unused
      rw [unused] at consuming
      cases consuming
  | answerHandler found state awaited running =>
      exact orderly.same rfl rfl rfl rfl rfl rfl
  | takeBatch loop running ready =>
      refine orderly.takeBatch (orderly.served ?_) running _ _
      intro unused
      rw [unused] at loop
      cases loop
  | resumeLoop loop running found state =>
      refine orderly.setLane (orderly.served ?_) rfl
      intro unused
      rw [unused] at loop
      cases loop
  | cancelLoop joining started =>
      refine orderly.setLane (orderly.served ?_) rfl
      intro unused
      rw [unused] at started
      exact started rfl
  | beginShutdown running =>
      exact ⟨rfl, orderly.outside, orderly.abandoned⟩
  | consumersCancelled cancelling =>
      rw [Stage, cancelling] at stage
      exact ⟨stage, orderly.outside, orderly.abandoned⟩
  | loopsJoined joining finished =>
      rw [Stage, joining] at stage
      exact ⟨stage, orderly.outside, orderly.abandoned⟩
  | inflightJoined joining finished =>
      exact orderly.inflightJoined joining graced finished
  | graceOver timed running =>
      exact False.elim (inGrace rfl)
  | drainLane draining =>
      exact orderly.drainLane draining
  | drainBatch draining =>
      exact orderly.drainBatch draining
  | drainedBatch draining found state =>
      exact orderly.drainedBatch graced _ draining found state
        (returns _ rfl _ _ _ _ _ draining found state)
  | drained draining =>
      rw [Stage, draining] at stage
      obtain ⟨drains, _, drained, finished⟩ := stage
      refine ⟨⟨drains, fun lane => drained lane List.not_mem_nil, ?_⟩,
        orderly.outside, orderly.abandoned⟩
      intro number process found
      exact finished number process found (by simp)
  | close closing =>
      rw [Stage, closing] at stage
      exact ⟨⟨stage.draining, stage.lanes, stage.processes⟩,
        orderly.outside, orderly.abandoned⟩
  | closeFailed closing =>
      exact ⟨trivial, orderly.outside, orderly.abandoned⟩
  | _ =>
      exact (batch trivial).elim

end Stages

section Located

variable {Body : Type} {environment : Environment Body} {workerId : PyStr}
  {Good : EmbeddingJob → EmbeddingResult → Prop} {worker : Worker Body}
  {lane : LaneName} {message : Message Body}

/-- Two handlers of one delivery are the same. -/
theorem handler_unique
    (sound : worker.ledger.Sound environment workerId Good)
    {first second : Handler Body} (firstMember : first ∈ worker.handlers)
    (secondMember : second ∈ worker.handlers)
    (same : first.message.tag = second.message.tag) : first = second := by
  have distinct := sound.tagsUnique
  rw [Worker.ledger, List.map_map] at distinct
  exact List.inj_on_of_nodup_map distinct firstMember secondMember same

/-- A buffered delivery is in a batcher, in a batch of the drain, or in a
task. -/
theorem buffered_located
    (sound : worker.ledger.Sound environment workerId Good)
    (known : BufferedKnown worker)
    (buffered : .buffered lane message ∈ worker.log) :
    ∃ cell, cell.origin = (lane, message) ∧
      (cell ∈ laneCells worker.lane ∨ cell ∈ worker.main.cells ∨
        cell ∈ batchCells worker.abandoned ∨
        ∃ process ∈ worker.processes, cell ∈ process.cells) := by
  obtain ⟨cell, member, origin⟩ :=
    Multiset.mem_map.mp (sound.bufferedHeld lane message buffered)
  refine ⟨cell, origin, ?_⟩
  change cell ∈ worker.cells at member
  simp only [Worker.cells, Multiset.mem_add, mem_sum_map_iff] at member
  rcases member with
    (((⟨handler, handlerMember, inside⟩ | inLane) | inMain) | left) | inTask
  · obtain ⟨other, otherMember, _, sameMessage, job, isBuffered⟩ :=
      known lane message buffered
    have settled : ∃ settling, handler.state = .settling settling ∧
        cell.message = handler.message := by
      unfold Handler.cells at inside
      split at inside
      · next settling state =>
          rw [Multiset.mem_singleton.mp inside]
          exact ⟨settling, state, rfl⟩
      · exact False.elim (Multiset.notMem_zero _ inside)
    obtain ⟨settling, state, messages⟩ := settled
    have about : cell.message = message := congrArg Prod.snd origin
    have sameTag : handler.message.tag = other.message.tag := by
      rw [← messages, sameMessage, about]
    have same :=
      handler_unique sound handlerMember otherMember sameTag
    rw [same, isBuffered] at state
    cases state
  · exact Or.inl inLane
  · exact Or.inr (Or.inl inMain)
  · exact Or.inr (Or.inr (Or.inl left))
  · exact Or.inr (Or.inr (Or.inr inTask))

theorem pending_of_laneEmpty (empty : worker.LaneEmpty lane) :
    (worker.lane lane).batcher.pending = [] := by
  rw [Worker.LaneEmpty] at empty
  rw [MicroBatcher.pending, empty]
  rfl

/-- A delivery in a task that returned is settled. -/
theorem settled_of_done
    (sound : worker.ledger.Sound environment workerId Good)
    {process : Process Body} (member : process ∈ worker.processes)
    {item : Item Body} (itemMember : item ∈ process.items)
    (done : item.IsDone) :
    settlements item.delivery.message.tag worker.log = 1 := by
  have inLedger : item.cell process.lane ∈ worker.ledger.cells := by
    change _ ∈ worker.cells
    simp only [Worker.cells, Multiset.mem_add, mem_sum_map_iff]
    exact Or.inr ⟨process, member,
      mem_processCells_iff.mpr ⟨item, itemMember, rfl⟩⟩
  have agrees := sound.agrees _ inLedger
  have phase : item.phase = .settling (.ended .returned) := by
    rcases done with gone | finished
    · rw [Item.phase, show item.state = _ from gone]
    · rw [Item.phase, finished]
  rw [Cell.Agrees, Item.cell, phase] at agrees
  exact agrees

end Located

/-- What holds of a worker after every quiet run, as long as no attempt was
unreadable. -/
structure QuietSound {Body : Type} (environment : Environment Body)
    (workerId : PyStr) (worker : Worker Body) : Prop where
  sound : WorkerSound environment workerId (fun _ _ => True) Attributed
    worker
  quietWorker : QuietWorker worker
  known : BufferedKnown worker
  orderly : Orderly worker

section Runs

variable {Body : Type} {environment : Environment Body} {workerId : PyStr}
  {worker after : Worker Body}

theorem quietSound_start (lanes : List LaneName) :
    QuietSound environment workerId
      (Worker.start Body workerId lanes) where
  sound := workerSound_start lanes
  quietWorker := ⟨rfl, by simp [Worker.start]⟩
  known := by
    intro lane message member
    cases member
  orderly := orderly_start workerId lanes

theorem QuietSound.step (quietSound : QuietSound environment workerId worker)
    {action : WorkerAction Body} (quiet : action.Quiet)
    (read : AttemptsRead after)
    (taken : WorkerStep environment worker action after) :
    QuietSound environment workerId after where
  sound := by
    refine quietSound.sound.step (splitsGood_attributed _) ?_ taken
    cases action <;> exact trivial
  quietWorker :=
    quietSound.quietWorker.step quietSound.sound.outcomes quiet read taken
  known := quietSound.known.step taken
  orderly := by
    refine quietSound.orderly.step quietSound.quietWorker.graced ?_
      (fun _ _ => quietSound.quietWorker.drainReturns) taken
    intro same
    rw [same] at quiet
    exact quiet

theorem quietSound_of_run {lanes : List LaneName}
    {labels : List (WorkerAction Body)}
    (run : Run (WorkerStep environment)
      (Worker.start Body workerId lanes) labels worker)
    (quiet : ∀ label ∈ labels, label.Quiet) (read : AttemptsRead worker) :
    QuietSound environment workerId worker := by
  refine run.invariant
    (I := fun state =>
      AttemptsRead state → QuietSound environment workerId state)
    quiet (fun _ => quietSound_start lanes) ?_ read
  intro before label after held labelQuiet taken readAfter
  exact (held (readAfter.of_step taken)).step labelQuiet readAfter taken

end Runs

/-- The shutdown is complete: every delivery that was ever put in a batcher
was settled once, and nothing is left. -/
structure ShutdownComplete {Body : Type} (worker : Worker Body) : Prop where
  settled : ∀ lane message, .buffered lane message ∈ worker.log →
    settlements message.tag worker.log = 1
  batchersEmpty : ∀ lane, (worker.lane lane).batcher.groups.entries = []
  noneInFlight : ∀ process ∈ worker.processes,
    process.state.isEnded = true

/-- Once the connection is closed, nothing is left. -/
theorem QuietSound.complete {Body : Type} {environment : Environment Body}
    {workerId : PyStr} {worker : Worker Body}
    (quietSound : QuietSound environment workerId worker)
    (closed : worker.main = .closed) : ShutdownComplete worker := by
  have emptied := quietSound.orderly.stage
  rw [Stage, closed] at emptied
  have sound := quietSound.sound.ledgerSound
  have finished : ∀ process ∈ worker.processes,
      process.state.isEnded = true := by
    intro process member
    obtain ⟨number, found⟩ := List.mem_iff_getElem?.mp member
    exact emptied.processes number process found
  refine ⟨?_, emptied.lanes, finished⟩
  intro lane message buffered
  obtain ⟨cell, origin, inLane | inMain | left | inTask⟩ :=
    buffered_located sound quietSound.known buffered
  · rw [laneCells, pending_of_laneEmpty (emptied.lanes .query),
      pending_of_laneEmpty (emptied.lanes .index)] at inLane
    exact False.elim (Multiset.notMem_zero _ inLane)
  · rw [closed] at inMain
    exact False.elim (Multiset.notMem_zero _ inMain)
  · rw [quietSound.orderly.abandoned] at left
    exact False.elim (Multiset.notMem_zero _ left)
  · obtain ⟨process, member, inside⟩ := inTask
    obtain ⟨item, itemMember, same⟩ := mem_processCells_iff.mp inside
    have about : item.delivery.message = message := by
      rw [same] at origin
      exact congrArg Prod.snd origin
    have fits := quietSound.quietWorker.fits process member
    cases state : process.state with
    | ended how =>
        rw [Process.Fits, state] at fits
        rw [← about]
        exact settled_of_done sound member itemMember
          (fits.2 item itemMember)
    | _ =>
        have ended := finished process member
        rw [state] at ended
        cases ended

/-- In a quiet run, whenever the stop is requested: nothing is buffered after
draining began, and once the connection is closed the shutdown is complete, if
the attempts of the failed index jobs could be read. -/
theorem gracefulShutdown {Body : Type} (environment : Environment Body)
    (workerId : PyStr) (lanes : List LaneName) (worker : Worker Body)
    (labels : List (WorkerAction Body))
    (run : Run (WorkerStep environment)
      (Worker.start Body workerId lanes) labels worker)
    (quiet : ∀ label ∈ labels, label.Quiet) :
    (∀ earlier lane message later,
      worker.log = earlier ++ .buffered lane message :: later →
        .drainingBegan ∉ earlier) ∧
      (AttemptsRead worker → worker.main = .closed →
        ShutdownComplete worker) := by
  refine ⟨?_, fun read => (quietSound_of_run run quiet read).complete⟩
  intro earlier lane message later split
  have every : Every _ worker.log :=
    (workerSound_of_reachable run.reachable).ledgerSound.justified
  rw [split] at every
  exact every.justified.1

/-- The drain of a lane, with its batches. -/
theorem drainLane_of_drained {Body : Type} {environment : Environment Body}
    {worker : Worker Body} {lane : LaneName} {rest : List LaneName}
    {batches : List (Batch (Delivery Body) BatchKey)}
    {emptied : MicroBatcher (Delivery Body) BatchKey}
    (draining : worker.main = .draining none [] (lane :: rest))
    (drained : (worker.lane lane).batcher.drain
      (batcherConfig environment.settings lane) = (batches, emptied)) :
    WorkerStep environment worker (.drainLane lane)
      { worker.setBatcher lane emptied with
        main := .draining none (batches.map (fun batch => (lane, batch)))
          rest } := by
  have taken : WorkerStep environment worker (.drainLane lane)
      (worker.drainLane environment lane rest) :=
    WorkerStep.drainLane draining
  rw [Worker.drainLane, drained] at taken
  exact taken

/-- Draining a lane that holds nothing only moves on to the next. -/
theorem drainLane_of_laneEmpty {Body : Type} {environment : Environment Body}
    {worker : Worker Body} {lane : LaneName} {rest : List LaneName}
    (draining : worker.main = .draining none [] (lane :: rest))
    (empty : worker.LaneEmpty lane) :
    WorkerStep environment worker (.drainLane lane)
      { worker with main := .draining none [] rest } := by
  have taken : WorkerStep environment worker (.drainLane lane) _ :=
    drainLane_of_drained draining (MicroBatcher.drain_of_empty _ _ empty)
  simpa [Worker.setBatcher, Worker.setLane] using taken

/-- An index message with a header that counts its deliveries. -/
def countedMessage (tag : Nat) (header : CountHeader) : Message Json :=
  { sampleMessage tag with deliveryCount := header }

/-- The only loop of a worker for the index lane is over. -/
theorem indexLoop_over {loop : LaneName → LoopState}
    (query : loop .query = .absent) (index : loop .index = .ended) :
    ∀ lane, loop lane = .absent ∨ loop lane = .ended := by
  intro lane
  cases lane with
  | query =>
      exact Or.inl query
  | index =>
      exact Or.inr index

/-- A stop while one index job is encoded and another one waits: the encode
fails and its delivery is requeued, and the waiting one expires in the
drain. -/
theorem gracefulShutdown_encodeInFlight :
    ∃ worker : Worker Json,
      .buffered .index (countedMessage 0 (.count 1)) ∈ worker.log ∧
        .nacked .index (countedMessage 0 (.count 1)) true ∈ worker.log ∧
        .buffered .index (sampleMessage 1) ∈ worker.log ∧
        .acked .index (sampleMessage 1) ∈ worker.log ∧
        ShutdownComplete worker := by
  have encoding :=
    ((((((Run.nil (Worker.start Json (pyStr "worker") [.index])).snoc
      (.consume rfl)).snoc (.startLoop rfl rfl)).snoc
      (@WorkerStep.receive Json sampleEnvironment _ .index
        (countedMessage 0 (.count 1)) [] 0 0 rfl rfl
        (List.forall_mem_nil _))).snoc
      (@WorkerStep.takeBatch Json sampleEnvironment _ .index 0 _ _ rfl rfl
        rfl)).snoc
      (@WorkerStep.startProcess Json sampleEnvironment _ 0 _ (fun _ => 0) 0
        rfl rfl rfl)).snoc
      (@WorkerStep.receive Json sampleEnvironment _ .index
        (sampleMessage 1) [] 0 0 rfl rfl
        (List.forall_mem_singleton.mpr (by decide)))
  have stopped := (((encoding.snoc (.beginShutdown (Or.inr ⟨_, rfl⟩))).snoc
    (.consumersCancelled rfl)).snoc
    (@WorkerStep.cancelLoop Json sampleEnvironment _ .index rfl
      LoopState.noConfusion)).snoc
    (.loopsJoined rfl (indexLoop_over rfl rfl))
  have failed := ((stopped.snoc
    (@WorkerStep.engineReplies Json sampleEnvironment _ 0 _
      { texts := [pyStr "text"], inputType := .passage, normalize := true }
      (.error ⟨[]⟩) rfl rfl)).snoc
    (@WorkerStep.endThread Json sampleEnvironment _ 0 _ _ rfl rfl)).snoc
    (@WorkerStep.collectOutcomes Json sampleEnvironment _ 0 _ _ rfl rfl rfl)
  have requeued := ((failed.snoc
    (@WorkerStep.startFinish Json sampleEnvironment _ 0 0 _ _ _ rfl rfl rfl
      (by decide))).snoc
    (@WorkerStep.answerFinish Json sampleEnvironment _ 0 0 _ _ _ .nack
      .returned rfl rfl rfl rfl (by decide) (by decide))).snoc
    (@WorkerStep.endGather Json sampleEnvironment _ 0 _ rfl rfl
      (Or.inl rfl))
  have drained := (requeued.snoc
    (@WorkerStep.inflightJoined Json sampleEnvironment _ rfl
      (List.forall_mem_singleton.mpr rfl))).snoc
    (@drainLane_of_drained Json sampleEnvironment _ .index [] _ _ rfl
      (MicroBatcher.drain_of_single _ _ rfl rfl))
  have expired := ((((drained.snoc (.drainBatch rfl)).snoc
    (@WorkerStep.startProcess Json sampleEnvironment _ 1 _ (fun _ => 20) 20
      rfl rfl rfl)).snoc
    (@WorkerStep.answerExpiry Json sampleEnvironment _ 1 0 _ _ _ .publish
      .returned (fun _ => 20) 20 rfl rfl rfl rfl rfl (by decide))).snoc
    (@WorkerStep.answerExpiry Json sampleEnvironment _ 1 0 _ _ .acking .ack
      .returned (fun _ => 20) 20 rfl rfl rfl rfl rfl (by decide))).snoc
    (@WorkerStep.drainedBatch Json sampleEnvironment _ 1 [] [] _ .returned
      false rfl rfl rfl)
  have closed := (expired.snoc (.drained rfl)).snoc (.close rfl)
  have shutdown := gracefulShutdown _ _ _ _ _ closed
    (by simp [WorkerAction.Quiet])
  exact ⟨_, List.mem_of_getElem? (i := 0) rfl,
    List.mem_of_getElem? (i := 5) rfl, List.mem_of_getElem? (i := 2) rfl,
    List.mem_of_getElem? (i := 9) rfl,
    shutdown.2 (attemptsRead_of_all rfl) rfl⟩

/-- A publisher has set the header `x-delivery-count` to `"abc"`, and the
encode of the job fails: `int` raises in `_finish`, nothing settles the
delivery, and the stop that follows closes the connection. -/
theorem gracefulShutdown_fails_headerUnreadable :
    ∃ (labels : List (WorkerAction Json)) (worker : Worker Json),
      Run (WorkerStep sampleEnvironment)
        (Worker.start Json (pyStr "worker") [.index]) labels worker ∧
      (∀ label ∈ labels, label.Quiet) ∧
      worker.main = .closed ∧
      .buffered .index (countedMessage 0 (.unreadable ⟨[]⟩)) ∈ worker.log ∧
      settlements 0 worker.log = 0 := by
  have encoding :=
    ((((Run.nil (Worker.start Json (pyStr "worker") [.index])).snoc
      (.consume rfl)).snoc (.startLoop rfl rfl)).snoc
      (@WorkerStep.receive Json sampleEnvironment _ .index
        (countedMessage 0 (.unreadable ⟨[]⟩)) [] 0 0 rfl rfl
        (List.forall_mem_nil _))).snoc
      (@WorkerStep.takeBatch Json sampleEnvironment _ .index 0 _ _ rfl rfl
        rfl)
  have failed := (((encoding.snoc
    (@WorkerStep.startProcess Json sampleEnvironment _ 0 _ (fun _ => 0) 0
      rfl rfl rfl)).snoc
    (@WorkerStep.engineReplies Json sampleEnvironment _ 0 _
      { texts := [pyStr "text"], inputType := .passage, normalize := true }
      (.error ⟨[]⟩) rfl rfl)).snoc
    (@WorkerStep.endThread Json sampleEnvironment _ 0 _ _ rfl rfl)).snoc
    (@WorkerStep.collectOutcomes Json sampleEnvironment _ 0 _ _ rfl rfl rfl)
  have raised := ((failed.snoc
    (@WorkerStep.startFinish Json sampleEnvironment _ 0 0 _ _ _ rfl rfl rfl
      (by decide))).snoc
    (@WorkerStep.endGather Json sampleEnvironment _ 0 _ rfl rfl
      (Or.inr ⟨rfl, rfl⟩))).snoc
    (@WorkerStep.resumeLoop Json sampleEnvironment _ .index 0 _ .raised rfl
      rfl rfl rfl)
  have joined := (((raised.snoc (.beginShutdown (Or.inr ⟨_, rfl⟩))).snoc
    (.consumersCancelled rfl)).snoc
    (.loopsJoined rfl (indexLoop_over rfl rfl))).snoc
    (@WorkerStep.inflightJoined Json sampleEnvironment _ rfl
      (List.forall_mem_singleton.mpr rfl))
  have closed := ((joined.snoc
    (@drainLane_of_laneEmpty Json sampleEnvironment _ .index [] rfl
      rfl)).snoc (.drained rfl)).snoc (.close rfl)
  exact ⟨_, _, closed, by simp [WorkerAction.Quiet], rfl,
    List.mem_of_getElem? (i := 0) rfl, rfl⟩

end EmbeddingService
