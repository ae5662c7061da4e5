import EmbeddingService.Worker.State

/-!
# The steps of a worker process

Each step is what the event loop runs between two awaits, or an answer of the
broker, the engine or the clock.  A step's label says which one it is; its
effect is a function of the state.
-/

namespace EmbeddingService

/-- The labels of the steps.  Calls are answered as the broker likes; `clock`
is the clock of the batchers and `now` the wall clock, whose readings are
arbitrary. -/
inductive WorkerAction (Body : Type) where
  | consume (lane : LaneName)
  | startLoop (lane : LaneName)
  | serve
  | receive (lane : LaneName) (message : Message Body) (freshId : PyStr)
      (now : Instant) (clock : Seconds)
  | answerHandler (handler : Nat) (call : BrokerCall) (how : Ending)
  | takeBatch (lane : LaneName) (clock : Seconds)
  | resumeLoop (lane : LaneName)
  | cancelLoop (lane : LaneName)
  | startProcess (process : Nat) (readings : Nat → Instant) (now : Instant)
  | answerExpiry (process : Nat) (call : BrokerCall) (how : Ending)
      (readings : Nat → Instant) (now : Instant)
  | enterSlot (process : Nat) (now : Instant)
  | engineReplies (thread : Nat) (request : EncodeCall) (reply : EngineReply)
  | endThread (thread : Nat)
  | collectOutcomes (process : Nat)
  | startFinish (process item : Nat)
  | answerFinish (process item : Nat) (call : BrokerCall) (how : Ending)
  | cancelFinish (process item : Nat)
  | endGather (process : Nat)
  | cancelProcess (process : Nat)
  | beginShutdown
  | consumersCancelled
  | loopsJoined
  | inflightJoined
  | graceOver
  | drainLane (lane : LaneName)
  | drainBatch
  | drainedBatch (timeoutError : Bool)
  | drained
  | close
  | closeFailed

namespace Worker

variable {Body : Type} (environment : Environment Body)

/-- A delivery is handed to `_on_message`. -/
def receive (worker : Worker Body) (lane : LaneName)
    (message : Message Body) (freshId : PyStr) (now : Instant)
    (clock : Seconds) : Worker Body :=
  let received :=
    onMessage environment worker.workerId lane worker.draining freshId now
      message
  let handled :=
    { worker with
      handlers := worker.handlers ++
        [{ lane := lane, message := message, state := received.1 }]
      log := worker.log ++ received.2 }
  match received.1 with
  | .buffered job =>
      handled.setBatcher lane
        ((worker.lane lane).batcher.add
          (batcherConfig environment.settings lane) clock
          { message := message, job := job })
  | _ => handled

/-- A call of `_on_message` is answered. -/
def answerHandler (worker : Worker Body) (number : Nat)
    (handler : Handler Body) (settling : Settling Body) (how : Ending) :
    Worker Body :=
  let resumed := settling.resume handler.lane handler.message how
  (worker.setHandler number
    { handler with state := .settling resumed.1 }).record resumed.2

/-- `_lane_loop` gets a batch and creates its task. -/
def takeBatch (worker : Worker Body) (lane : LaneName)
    (batch : Batch (Delivery Body) BatchKey)
    (rest : MicroBatcher (Delivery Body) BatchKey) : Worker Body :=
  let created : Worker Body :=
    { worker with
      processes := worker.processes ++ [newProcess lane batch] }
  created.setLane lane
    { worker.lane lane with
      batcher := rest
      loop := .awaiting worker.processes.length }

/-- `asyncio.to_thread(encode_jobs_isolating_failures, …)`. -/
def startEncode (worker : Worker Body) (number : Nat)
    (process : Process Body) (now : Instant) : Worker Body :=
  let jobs := Process.liveJobs process.items
  let started : Worker Body :=
    { worker with
      threads := worker.threads ++
        [{ process := number
           program :=
             encodeJobsIsolatingFailures environment.engine
               (some worker.workerId) jobs }]
      log := worker.log ++ [.encodeStarted process.lane jobs now] }
  started.setProcess number { process with state := .encoding none }

/-- `_process` from the loop over its batch to its next await. -/
def runProcess (worker : Worker Body) (number : Nat)
    (process : Process Body) (readings : Nat → Instant) (now : Instant) :
    Worker Body :=
  let checked :=
    Process.checkExpiry environment worker.workerId process.lane readings 0
      process.items
  let items := checked.1.1
  let recorded := worker.record checked.2
  match checked.1.2 with
  | some position =>
      recorded.setProcess number
        { process with items := items, state := .expiring position }
  | none =>
      if (Process.liveJobs items).isEmpty then
        recorded.setProcess number
          { process with items := items, state := .ended .returned }
      else
        let slot :=
          worker.slot.next (.acquire number
            (laneSpecs environment.settings process.lane).priority)
        let acquired : Worker Body := { recorded with slot := slot }
        if slot.callers number = .inside then
          acquired.startEncode environment number
            { process with items := items } now
        else
          acquired.setProcess number
            { process with items := items, state := .queued }

/-- A call of `_expire` inside `_process` is answered.  What the call raises
leaves `_process`. -/
def answerExpiry (worker : Worker Body) (number : Nat)
    (process : Process Body) (position : Nat) (item : Item Body)
    (settling : Settling Body) (how : Ending) (readings : Nat → Instant)
    (now : Instant) : Worker Body :=
  let resumed := settling.resume process.lane item.delivery.message how
  let resumedProcess : Process Body :=
    { process with
      items := process.items.set position
        { item with state := .expiring resumed.1 } }
  let answered :=
    (worker.record resumed.2).setProcess number resumedProcess
  match resumed.1 with
  | .ended .returned =>
      answered.runProcess environment number resumedProcess readings now
  | .ended other =>
      answered.setProcess number { resumedProcess with state := .ended other }
  | _ => answered

/-- A queued `_process` resumes with the slot. -/
def enterSlot (worker : Worker Body) (number : Nat)
    (process : Process Body) (now : Instant) : Worker Body :=
  let resumed : Worker Body :=
    { worker with slot := worker.slot.next (.resume number) }
  resumed.startEncode environment number process now

/-- The thread returns its outcomes; nobody waits for them if the task was
cancelled. -/
def endThread (worker : Worker Body) (position : Nat)
    (thread : EncodeThread) (outcomes : List Outcome) : Worker Body :=
  let ended :=
    { worker with threads := worker.threads.eraseIdx position }
  match worker.processes[thread.process]? with
  | some process =>
      match process.state with
      | .encoding none =>
          ended.setProcess thread.process
            { process with state := .encoding (some outcomes) }
      | _ => ended
  | none => ended

/-- `_process` leaves the slot and creates the `_finish` tasks. -/
def collectOutcomes (worker : Worker Body) (number : Nat)
    (process : Process Body) (outcomes : List Outcome) : Worker Body :=
  let left : Worker Body :=
    { worker with slot := worker.slot.next (.leave number) }
  left.setProcess number
    { process with
      items := Process.assignOutcomes process.items outcomes
      state := .gathering }

def setItem (worker : Worker Body) (number : Nat) (process : Process Body)
    (position : Nat) (item : Item Body) : Worker Body :=
  worker.setProcess number
    { process with items := process.items.set position item }

/-- A `_finish` task runs to its first await. -/
def startFinish (worker : Worker Body) (number : Nat)
    (process : Process Body) (position : Nat) (item : Item Body)
    (outcome : Outcome) : Worker Body :=
  let started :=
    finish environment worker.workerId process.lane item.delivery outcome
  (worker.setItem number process position
    { item with state := .finishing started.1 }).record started.2

/-- A call of a `_finish` task is answered. -/
def answerFinish (worker : Worker Body) (number : Nat)
    (process : Process Body) (position : Nat) (item : Item Body)
    (settling : Settling Body) (how : Ending) : Worker Body :=
  let resumed := settling.resume process.lane item.delivery.message how
  (worker.setItem number process position
    { item with state := .finishing resumed.1 }).record resumed.2

/-- How the `gather` of `_process` ends. -/
def gatherEnding (worker : Worker Body) (process : Process Body) : Ending :=
  if worker.graceExpired then
    .cancelled
  else if process.items.any Process.finishRaised then
    .raised
  else
    .returned

def endProcess (worker : Worker Body) (number : Nat)
    (process : Process Body) (how : Ending) : Worker Body :=
  worker.setProcess number { process with state := .ended how }

/-- The slot after a cancelled `_process` has handled its cancellation. -/
def cancelledSlot (slot : SlotSystem Nat) (number : Nat) :
    ProcessState → SlotSystem Nat
  | .queued => slot.next (.handleCancellation number)
  | .encoding _ => slot.next (.leave number)
  | _ => slot

/-- The tasks that await the slot. -/
def queuedNumbers (processes : List (Process Body)) : List Nat :=
  (List.range processes.length).filter (fun number =>
    match processes[number]? with
    | some process => process.state.isQueued
    | none => false)

/-- `task.cancel()` of some tasks that await the slot. -/
def cancelQueued (slot : SlotSystem Nat) (numbers : List Nat) :
    SlotSystem Nat :=
  numbers.foldl (fun slot number => slot.next (.cancel number)) slot

/-- The grace period ends: `run` is cancelled in `_shutdown`, and with it every
task it gathers or the batch it processes. -/
def graceOver (worker : Worker Body) : Worker Body :=
  { worker with
    graceExpired := true
    slot := cancelQueued worker.slot (queuedNumbers worker.processes) }

def beginShutdown (worker : Worker Body) : Worker Body :=
  { worker with
    draining := true
    main := .cancellingConsumers
    log := worker.log ++ [.drainingBegan] }

/-- `lane.batcher.drain()`. -/
def drainLane (worker : Worker Body) (lane : LaneName)
    (rest : List LaneName) : Worker Body :=
  let drained :=
    (worker.lane lane).batcher.drain
      (batcherConfig environment.settings lane)
  let emptied := worker.setBatcher lane drained.2
  { emptied with
    main := .draining none
      (drained.1.map (fun batch => (lane, batch))) rest }

/-- `await self._process(lane, batch)` in `_shutdown`. -/
def drainBatch (worker : Worker Body) (lane : LaneName)
    (batch : Batch (Delivery Body) BatchKey)
    (batches : List (LaneName × Batch (Delivery Body) BatchKey))
    (lanes : List LaneName) : Worker Body :=
  { worker with
    processes := worker.processes ++ [newProcess lane batch]
    main := .draining (some worker.processes.length) batches lanes }

/-- How `_shutdown` leaves the drain early.  An exception ends it, except
that a `TimeoutError` counts as the end of the grace period. -/
def drainFailure (how : Ending) (timeoutError : Bool) : MainState Body :=
  if how = .raised ∧ timeoutError = false then .failed else .closing

/-- What follows a batch of the drain. -/
def drainedBatch (worker : Worker Body) (how : Ending)
    (timeoutError : Bool)
    (batches : List (LaneName × Batch (Delivery Body) BatchKey))
    (lanes : List LaneName) : Worker Body :=
  if worker.graceExpired = false ∧ how = .returned then
    { worker with main := .draining none batches lanes }
  else
    { worker with
      main :=
        if worker.graceExpired then .closing
        else drainFailure how timeoutError
      abandoned := worker.abandoned ++ batches }

end Worker

/-- Whether deliveries can still arrive. -/
def MainState.connected {Body : Type} : MainState Body → Bool
  | .closed => false
  | _ => true

/-- Whether `run` is over, so that the event loop may cancel what is left. -/
def MainState.over {Body : Type} : MainState Body → Bool
  | .closed => true
  | .failed => true
  | _ => false

/-- The steps of a worker.  After the grace period, a task that was cancelled
gets `CancelledError` at its await; the `_finish` tasks of a `gather` that
already raised are not cancelled with it.  A `gather` raises what one of its
tasks raised once each of them has run up to its first await. -/
inductive WorkerStep {Body : Type} (environment : Environment Body) :
    Worker Body → WorkerAction Body → Worker Body → Prop
  | consume {worker : Worker Body} {lane : LaneName} {rest : List LaneName}
      (starting : worker.main = .starting (lane :: rest)) :
      WorkerStep environment worker (.consume lane)
        (worker.setLane lane { worker.lane lane with consuming := true })
  | startLoop {worker : Worker Body} {lane : LaneName}
      {rest : List LaneName}
      (starting : worker.main = .starting (lane :: rest))
      (consuming : (worker.lane lane).consuming = true) :
      WorkerStep environment worker (.startLoop lane)
        ({ worker with main := .starting rest }.setLoop lane .waiting)
  | serve {worker : Worker Body}
      (starting : worker.main = .starting []) :
      WorkerStep environment worker .serve
        { worker with main := .serving, ready := true }
  | receive {worker : Worker Body} {lane : LaneName}
      {message : Message Body} {freshId : PyStr} {now : Instant}
      {clock : Seconds}
      (consuming : (worker.lane lane).consuming = true)
      (connected : worker.main.connected = true)
      (fresh : ∀ handler ∈ worker.handlers,
        handler.message.tag ≠ message.tag) :
      WorkerStep environment worker
        (.receive lane message freshId now clock)
        (worker.receive environment lane message freshId now clock)
  | answerHandler {worker : Worker Body} {number : Nat}
      {handler : Handler Body} {settling : Settling Body}
      {call : BrokerCall} {how : Ending}
      (found : worker.handlers[number]? = some handler)
      (state : handler.state = .settling settling)
      (awaited : settling.call? = some call)
      (running : how = .cancelled → worker.main.over = true) :
      WorkerStep environment worker (.answerHandler number call how)
        (worker.answerHandler number handler settling how)
  | takeBatch {worker : Worker Body} {lane : LaneName} {clock : Seconds}
      {batch : Batch (Delivery Body) BatchKey}
      {rest : MicroBatcher (Delivery Body) BatchKey}
      (loop : (worker.lane lane).loop = .waiting)
      (running : worker.main.loopsCancelled = false)
      (taken : (worker.lane lane).batcher.takeReady
        (batcherConfig environment.settings lane) clock =
          some (batch, rest)) :
      WorkerStep environment worker (.takeBatch lane clock)
        (worker.takeBatch lane batch rest)
  | resumeLoop {worker : Worker Body} {lane : LaneName} {number : Nat}
      {process : Process Body} {how : Ending}
      (loop : (worker.lane lane).loop = .awaiting number)
      (running : worker.main.loopsCancelled = false)
      (found : worker.processes[number]? = some process)
      (state : process.state = .ended how) :
      WorkerStep environment worker (.resumeLoop lane)
        (worker.setLoop lane
          (if how = .returned then .waiting else .ended))
  | cancelLoop {worker : Worker Body} {lane : LaneName}
      (joining : worker.main = .joiningLoops)
      (started : (worker.lane lane).loop ≠ .absent) :
      WorkerStep environment worker (.cancelLoop lane)
        (worker.setLoop lane .ended)
  | startProcess {worker : Worker Body} {number : Nat}
      {process : Process Body} {readings : Nat → Instant} {now : Instant}
      (found : worker.processes[number]? = some process)
      (state : process.state = .created)
      (running : worker.graceExpired = false) :
      WorkerStep environment worker (.startProcess number readings now)
        (worker.runProcess environment number process readings now)
  | answerExpiry {worker : Worker Body} {number position : Nat}
      {process : Process Body} {item : Item Body}
      {settling : Settling Body} {call : BrokerCall} {how : Ending}
      {readings : Nat → Instant} {now : Instant}
      (found : worker.processes[number]? = some process)
      (state : process.state = .expiring position)
      (itemFound : process.items[position]? = some item)
      (itemState : item.state = .expiring settling)
      (awaited : settling.call? = some call)
      (running : how = .cancelled ↔ worker.graceExpired = true) :
      WorkerStep environment worker
        (.answerExpiry number call how readings now)
        (worker.answerExpiry environment number process position item
          settling how readings now)
  | enterSlot {worker : Worker Body} {number : Nat}
      {process : Process Body} {now : Instant}
      (found : worker.processes[number]? = some process)
      (state : process.state = .queued)
      (running : worker.graceExpired = false)
      (resolved : worker.slot.slot.futures number = .resolved) :
      WorkerStep environment worker (.enterSlot number now)
        (worker.enterSlot environment number process now)
  | engineReplies {worker : Worker Body} {position : Nat}
      {thread : EncodeThread} {request : EncodeCall} {reply : EngineReply}
      (found : worker.threads[position]? = some thread)
      (calls : thread.program.request? = some request) :
      WorkerStep environment worker (.engineReplies position request reply)
        { worker with
          threads := worker.threads.set position
            { thread with program := thread.program.answer reply } }
  | endThread {worker : Worker Body} {position : Nat}
      {thread : EncodeThread} {outcomes : List Outcome}
      (found : worker.threads[position]? = some thread)
      (finished : thread.program.value? = some outcomes) :
      WorkerStep environment worker (.endThread position)
        (worker.endThread position thread outcomes)
  | collectOutcomes {worker : Worker Body} {number : Nat}
      {process : Process Body} {outcomes : List Outcome}
      (found : worker.processes[number]? = some process)
      (state : process.state = .encoding (some outcomes))
      (running : worker.graceExpired = false) :
      WorkerStep environment worker (.collectOutcomes number)
        (worker.collectOutcomes number process outcomes)
  | startFinish {worker : Worker Body} {number position : Nat}
      {process : Process Body} {item : Item Body} {outcome : Outcome}
      (found : worker.processes[number]? = some process)
      (itemFound : process.items[position]? = some item)
      (itemState : item.state = .scheduled outcome)
      (running : worker.graceExpired = true →
        process.items.any Process.finishRaised = true) :
      WorkerStep environment worker (.startFinish number position)
        (worker.startFinish environment number process position item
          outcome)
  | answerFinish {worker : Worker Body} {number position : Nat}
      {process : Process Body} {item : Item Body}
      {settling : Settling Body} {call : BrokerCall} {how : Ending}
      (found : worker.processes[number]? = some process)
      (itemFound : process.items[position]? = some item)
      (itemState : item.state = .finishing settling)
      (awaited : settling.call? = some call)
      (running : worker.graceExpired = true →
        how = .cancelled ∨ process.items.any Process.finishRaised = true)
      (cancelled : how = .cancelled → worker.graceExpired = true) :
      WorkerStep environment worker (.answerFinish number position call how)
        (worker.answerFinish number process position item settling how)
  | cancelFinish {worker : Worker Body} {number position : Nat}
      {process : Process Body} {item : Item Body} {outcome : Outcome}
      (found : worker.processes[number]? = some process)
      (itemFound : process.items[position]? = some item)
      (itemState : item.state = .scheduled outcome)
      (cancelled : worker.graceExpired = true) :
      WorkerStep environment worker (.cancelFinish number position)
        (worker.setItem number process position
          { item with state := .finishing (.ended .cancelled) })
  | endGather {worker : Worker Body} {number : Nat}
      {process : Process Body}
      (found : worker.processes[number]? = some process)
      (state : process.state = .gathering)
      (finished : process.items.all Process.itemOver = true ∨
        process.items.any Process.finishRaised = true ∧
          process.items.all Process.finishBegun = true) :
      WorkerStep environment worker (.endGather number)
        (worker.endProcess number process (worker.gatherEnding process))
  | cancelProcess {worker : Worker Body} {number : Nat}
      {process : Process Body}
      (found : worker.processes[number]? = some process)
      (state : process.state = .created ∨ process.state = .queued ∨
        ∃ outcomes, process.state = .encoding outcomes)
      (cancelled : worker.graceExpired = true) :
      WorkerStep environment worker (.cancelProcess number)
        ({ worker with
            slot := Worker.cancelledSlot worker.slot number process.state
          }.endProcess number process .cancelled)
  | beginShutdown {worker : Worker Body}
      (running : worker.main = .serving ∨
        ∃ lanes, worker.main = .starting lanes) :
      WorkerStep environment worker .beginShutdown worker.beginShutdown
  | consumersCancelled {worker : Worker Body}
      (cancelling : worker.main = .cancellingConsumers) :
      WorkerStep environment worker .consumersCancelled
        { worker with main := .joiningLoops }
  | loopsJoined {worker : Worker Body}
      (joining : worker.main = .joiningLoops)
      (finished : ∀ lane, (worker.lane lane).loop = .absent ∨
        (worker.lane lane).loop = .ended) :
      WorkerStep environment worker .loopsJoined
        { worker with main := .joiningInflight }
  | inflightJoined {worker : Worker Body}
      (joining : worker.main = .joiningInflight)
      (finished : ∀ process ∈ worker.processes,
        process.state.isEnded = true) :
      WorkerStep environment worker .inflightJoined
        { worker with
          main :=
            if worker.graceExpired then
              .closing
            else
              .draining none [] worker.lanes }
  | graceOver {worker : Worker Body}
      (timed : worker.main = .joiningInflight ∨
        ∃ number batches lanes,
          worker.main = .draining (some number) batches lanes)
      (running : worker.graceExpired = false) :
      WorkerStep environment worker .graceOver worker.graceOver
  | drainLane {worker : Worker Body} {lane : LaneName}
      {rest : List LaneName}
      (draining : worker.main = .draining none [] (lane :: rest)) :
      WorkerStep environment worker (.drainLane lane)
        (worker.drainLane environment lane rest)
  | drainBatch {worker : Worker Body} {lane : LaneName}
      {batch : Batch (Delivery Body) BatchKey}
      {batches : List (LaneName × Batch (Delivery Body) BatchKey)}
      {lanes : List LaneName}
      (draining : worker.main =
        .draining none ((lane, batch) :: batches) lanes) :
      WorkerStep environment worker .drainBatch
        (worker.drainBatch lane batch batches lanes)
  | drainedBatch {worker : Worker Body} {number : Nat}
      {batches : List (LaneName × Batch (Delivery Body) BatchKey)}
      {lanes : List LaneName} {process : Process Body} {how : Ending}
      {timeoutError : Bool}
      (draining : worker.main = .draining (some number) batches lanes)
      (found : worker.processes[number]? = some process)
      (state : process.state = .ended how) :
      WorkerStep environment worker (.drainedBatch timeoutError)
        (worker.drainedBatch how timeoutError batches lanes)
  | drained {worker : Worker Body}
      (draining : worker.main = .draining none [] []) :
      WorkerStep environment worker .drained
        { worker with main := .closing }
  | close {worker : Worker Body} (closing : worker.main = .closing) :
      WorkerStep environment worker .close { worker with main := .closed }
  | closeFailed {worker : Worker Body}
      (closing : worker.main = .closing) :
      WorkerStep environment worker .closeFailed
        { worker with main := .failed }

end EmbeddingService
