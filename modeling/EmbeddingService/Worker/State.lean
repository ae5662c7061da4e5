import Mathlib.Data.Rat.Init
import EmbeddingService.Batcher.MicroBatcher
import EmbeddingService.Batcher.PrioritySlotRuns
import EmbeddingService.Worker.Settling

/-!
# The state of a worker process

One event loop runs the handlers of messages, one loop for each lane, the
tasks that process batches, and `run` itself; encodes run in threads.  Every
coroutine is represented by the await it is suspended at.
-/

namespace EmbeddingService

/-- Items with different keys never share an encode. -/
abbrev BatchKey := InputType × Bool

/-- The batcher that `__init__` builds for a lane. -/
def batcherConfig {Body : Type} (settings : Settings) (lane : LaneName) :
    MicroBatcherConfig (Delivery Body) BatchKey :=
  let spec := laneSpecs settings lane
  { maxTexts := spec.maxTexts
    maxTextsPositive := spec.maxTextsPositive
    window := spec.windowS
    sizeOf := fun delivery => delivery.job.input.length
    keyOf := fun delivery =>
      (delivery.job.inputType, delivery.job.normalize) }

/-- Where a delivery of a batch is inside `_process`: not yet checked, kept
for the encode, in `_expire`, given an outcome for `_finish`, or in it. -/
inductive ItemState (Body : Type) where
  | unchecked
  | live
  | expiring (settling : Settling Body)
  | scheduled (outcome : Outcome)
  | finishing (settling : Settling Body)

structure Item (Body : Type) where
  delivery : Delivery Body
  state : ItemState Body := .unchecked

/-- Where `_process` is: not started, at an await of `_expire` for one item,
at the future of the slot, at the encode thread, at the `gather` of the
`_finish` tasks, or over.  The outcomes are there once the thread has ended. -/
inductive ProcessState where
  | created
  | expiring (position : Nat)
  | queued
  | encoding (outcomes : Option (List Outcome))
  | gathering
  | ended (how : Ending)

def ProcessState.isQueued : ProcessState → Bool
  | .queued => true
  | _ => false

def ProcessState.isEnded : ProcessState → Bool
  | .ended _ => true
  | _ => false

structure Process (Body : Type) where
  lane : LaneName
  items : List (Item Body)
  state : ProcessState := .created

/-- A thread that runs `encode_jobs_isolating_failures` for a process. -/
structure EncodeThread where
  process : Nat
  program : EncodeProgram (List Outcome)

/-- One call of `_on_message`. -/
structure Handler (Body : Type) where
  lane : LaneName
  message : Message Body
  state : HandlerState Body

/-- Where `_lane_loop` is: not started, in `next_batch`, at the shielded task,
or over. -/
inductive LoopState where
  | absent
  | waiting
  | awaiting (process : Nat)
  | ended
  deriving DecidableEq, Repr

structure Lane (Body : Type) where
  batcher : MicroBatcher (Delivery Body) BatchKey := {}
  consuming : Bool := false
  loop : LoopState := .absent

/-- Where `run` is.  In `draining`, a batch may be in process, and some
batches and lanes are left. -/
inductive MainState (Body : Type) where
  | starting (lanes : List LaneName)
  | serving
  | cancellingConsumers
  | joiningLoops
  | joiningInflight
  | draining (current : Option Nat)
      (batches : List (LaneName × Batch (Delivery Body) BatchKey))
      (lanes : List LaneName)
  | closing
  | closed
  | failed

/-- Whether `_shutdown` has cancelled the lane loops. -/
def MainState.loopsCancelled {Body : Type} : MainState Body → Bool
  | .starting _ => false
  | .serving => false
  | .cancellingConsumers => false
  | _ => true

/-- Processes are numbered in the order of their creation and never removed;
so are the calls of `_on_message`.  `abandoned` are the batches of the drain
that are left when it ends early. -/
structure Worker (Body : Type) where
  workerId : PyStr
  lanes : List LaneName
  lane : LaneName → Lane Body := fun _ => {}
  slot : SlotSystem Nat := {}
  threads : List EncodeThread := []
  processes : List (Process Body) := []
  handlers : List (Handler Body) := []
  main : MainState Body := .starting lanes
  abandoned : List (LaneName × Batch (Delivery Body) BatchKey) := []
  draining : Bool := false
  ready : Bool := false
  graceExpired : Bool := false
  log : List (Event Body) := []

/-- `EmbeddingWorker(...)` at the first line of the `try` of `run`. -/
def Worker.start (Body : Type) (workerId : PyStr)
    (lanes : List LaneName) : Worker Body :=
  { workerId := workerId, lanes := lanes }

namespace Worker

variable {Body : Type}

/-- `is_ready`. -/
def isReady (worker : Worker Body) : Bool :=
  worker.ready && !worker.draining

def setLane (worker : Worker Body) (name : LaneName) (lane : Lane Body) :
    Worker Body :=
  { worker with lane := Function.update worker.lane name lane }

@[simp]
theorem setLane_lane_self (worker : Worker Body) (name : LaneName)
    (lane : Lane Body) : (worker.setLane name lane).lane name = lane := by
  simp [setLane]

theorem setLane_lane_of_ne {worker : Worker Body} {name other : LaneName}
    {lane : Lane Body} (different : other ≠ name) :
    (worker.setLane name lane).lane other = worker.lane other := by
  simp [setLane, different]

def setLoop (worker : Worker Body) (name : LaneName) (loop : LoopState) :
    Worker Body :=
  worker.setLane name { worker.lane name with loop := loop }

def setBatcher (worker : Worker Body) (name : LaneName)
    (batcher : MicroBatcher (Delivery Body) BatchKey) : Worker Body :=
  worker.setLane name { worker.lane name with batcher := batcher }

def setProcess (worker : Worker Body) (number : Nat)
    (process : Process Body) : Worker Body :=
  { worker with processes := worker.processes.set number process }

def setHandler (worker : Worker Body) (number : Nat)
    (handler : Handler Body) : Worker Body :=
  { worker with handlers := worker.handlers.set number handler }

def record (worker : Worker Body) (events : List (Event Body)) :
    Worker Body :=
  { worker with log := worker.log ++ events }

end Worker

/-- The task `_process(lane, batch)`, not started. -/
def newProcess {Body : Type} (lane : LaneName)
    (batch : Batch (Delivery Body) BatchKey) : Process Body :=
  { lane := lane
    items := batch.items.map (fun delivery => { delivery := delivery }) }

namespace Process

variable {Body : Type}

/-- The delivery of an item, if it is kept for the encode. -/
def liveDelivery (item : Item Body) : Option (Delivery Body) :=
  match item.state with
  | .live => some item.delivery
  | _ => none

/-- `jobs` of `_process`. -/
def liveJobs (items : List (Item Body)) : List EmbeddingJob :=
  (items.filterMap liveDelivery).map Delivery.job

/-- The loop of `_process` over its batch, from the first item that is not
checked yet to the next `_expire` or to the end.  `readings` are the readings
of the clock, by position; the result tells the position of the item that is
being expired. -/
def checkExpiry (environment : Environment Body) (workerId : PyStr)
    (lane : LaneName) (readings : Nat → Instant) :
    Nat → List (Item Body) →
      (List (Item Body) × Option Nat) × List (Event Body)
  | _, [] => (([], none), [])
  | position, item :: rest =>
      match item.state with
      | .unchecked =>
          if isExpired item.delivery.job (readings position) then
            let started :=
              expire environment workerId lane item.delivery
                (readings position)
            (({ item with state := .expiring started.1 } :: rest,
              some position), started.2)
          else
            let checked :=
              checkExpiry environment workerId lane readings
                (position + 1) rest
            (({ item with state := .live } :: checked.1.1, checked.1.2),
              checked.2)
      | _ =>
          let checked :=
            checkExpiry environment workerId lane readings
              (position + 1) rest
          ((item :: checked.1.1, checked.1.2), checked.2)

/-- `zip(live, outcomes)`: every live item gets its outcome. -/
def assignOutcomes : List (Item Body) → List Outcome → List (Item Body)
  | [], _ => []
  | item :: rest, outcomes =>
      match item.state, outcomes with
      | .live, outcome :: others =>
          { item with state := .scheduled outcome } ::
            assignOutcomes rest others
      | _, _ => item :: assignOutcomes rest outcomes

/-- Whether a `_finish` task of the `gather` raised. -/
def finishRaised (item : Item Body) : Bool :=
  match item.state with
  | .finishing (.ended .raised) => true
  | _ => false

/-- Whether the `_finish` task of an item has run its first line. -/
def finishBegun (item : Item Body) : Bool :=
  match item.state with
  | .scheduled _ => false
  | _ => true

/-- Whether an item has nothing left to do. -/
def itemOver (item : Item Body) : Bool :=
  match item.state with
  | .expiring (.ended _) => true
  | .finishing (.ended _) => true
  | _ => false

end Process

end EmbeddingService
