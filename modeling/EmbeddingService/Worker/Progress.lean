import Mathlib.Data.Prod.Lex
import Mathlib.Order.WellFounded
import EmbeddingService.Library.Inevitability
import EmbeddingService.Worker.Shutdown

/-!
# Progress of the lane loops

While no settlement of a batch fails and no stop is requested, the loops live,
no task is stuck, and each of their steps leaves less to do.
-/

namespace EmbeddingService

open LabelledRuns Inevitability

/-- No `ack` or `nack` of a batch task raises, and no stop is requested. -/
def WorkerAction.Contained {Body : Type} (action : WorkerAction Body) :
    Prop :=
  action.Quiet ∧ action ≠ .beginShutdown

section Threads

variable {Body : Type} {environment : Environment Body}
  {worker after : Worker Body} {number : Nat} {process : Process Body}

/-- Every task that awaits a thread has one. -/
def Threaded (worker : Worker Body) : Prop :=
  ∀ number, worker.processState number = some (.encoding none) →
    ∃ thread ∈ worker.threads, thread.process = number

theorem Threaded.same (threaded : Threaded worker)
    (processes : after.processes = worker.processes)
    (threads : after.threads = worker.threads) : Threaded after := by
  intro number state
  rw [Worker.processState, processes] at state
  rw [threads]
  exact threaded number state

theorem Threaded.setProcess (threaded : Threaded worker)
    (found : worker.processes[number]? = some process)
    {updated : Process Body}
    (awaits : updated.state = .encoding none →
      ∃ thread ∈ worker.threads, thread.process = number) :
    Threaded (worker.setProcess number updated) := by
  intro other state
  rw [processState_setProcess found] at state
  by_cases own : other = number
  · rw [if_pos own] at state
    rw [own]
    exact awaits (Option.some.inj state)
  · rw [if_neg own] at state
    exact threaded other state

/-- A task keeps its state. -/
theorem Threaded.setItems (threaded : Threaded worker)
    (found : worker.processes[number]? = some process)
    {updated : Process Body} (same : updated.state = process.state) :
    Threaded (worker.setProcess number updated) := by
  refine threaded.setProcess found ?_
  intro state
  refine threaded number ?_
  rw [processState_of_found found, ← same, state]

theorem Threaded.create (threaded : Threaded worker) (lane : LaneName)
    (batch : Batch (Delivery Body) BatchKey) :
    Threaded
      { worker with
        processes := worker.processes ++ [newProcess lane batch] } := by
  intro other state
  rw [processState_append] at state
  by_cases last : other = worker.processes.length
  · rw [if_pos last] at state
    cases state
  · rw [if_neg last] at state
    exact threaded other state

theorem Threaded.startEncode (threaded : Threaded worker)
    (found : worker.processes[number]? = some process)
    (started : Process Body) (slot : SlotSystem Nat) (now : Instant) :
    Threaded ({ worker with slot := slot }.startEncode environment number
      started now) := by
  intro other state
  change (worker.setProcess number
    { started with state := .encoding none }).processState other = _ at state
  rw [processState_setProcess found] at state
  by_cases own : other = number
  · rw [own]
    exact ⟨_, List.mem_append_right _ (List.mem_singleton_self _), rfl⟩
  · rw [if_neg own] at state
    obtain ⟨thread, member, same⟩ := threaded other state
    exact ⟨thread, List.mem_append_left _ member, same⟩

theorem Threaded.runProcess (threaded : Threaded worker)
    (found : worker.processes[number]? = some process)
    (started : Process Body) (readings : Nat → Instant) (now : Instant) :
    Threaded
      (worker.runProcess environment number started readings now) := by
  have runs :=
    runProcess_runs environment worker number started readings now
  generalize worker.runProcess environment number started readings now =
    result at runs
  cases runs with
  | expires split unchecked late =>
      have recorded : ∀ events, Threaded (worker.record events) :=
        fun events => threaded.same rfl rfl
      exact (recorded _).setProcess found (by simp)
  | ends nothingLive =>
      exact threaded.setProcess found (by simp)
  | enters someLive inside =>
      exact threaded.startEncode found _ _ _
  | queues someLive outside =>
      have changed : Threaded (worker.setProcess number
          { started.allLive with state := .queued }) :=
        threaded.setProcess found (by simp)
      exact changed.same rfl rfl

theorem Threaded.answerExpiry (threaded : Threaded worker)
    (found : worker.processes[number]? = some process) (position : Nat)
    (item : Item Body) (settling : Settling Body) (how : Ending)
    (readings : Nat → Instant) (now : Instant) :
    Threaded (worker.answerExpiry environment number process position item
      settling how readings now) := by
  have answered : ∀ segment, Threaded
      (worker.answeredExpiry number process position item segment) := by
    intro segment
    have recorded : Threaded (worker.record segment.2) :=
      threaded.same rfl rfl
    exact recorded.setItems found rfl
  have answers := answerExpiry_answers environment worker number process
    position item settling how readings now
  generalize worker.answerExpiry environment number process position item
    settling how readings now = result at answers
  cases answers with
  | continues returned =>
      exact (answered _).runProcess
        (answeredExpiry_found found position item _) _ _ _
  | leaves failed ended =>
      exact (answered _).setProcess
        (answeredExpiry_found found position item _) (by simp)
  | awaits pending =>
      exact answered _

theorem Threaded.endThread (threaded : Threaded worker)
    (exclusion : Exclusion worker) {position : Nat} {thread : EncodeThread}
    (found : worker.threads[position]? = some thread)
    (outcomes : List Outcome) :
    Threaded (worker.endThread position thread outcomes) := by
  have member := List.mem_of_getElem? found
  have only : ∀ other ∈ worker.threads, other = thread := by
    intro other otherMember
    obtain ⟨single, threads⟩ := List.length_eq_one_iff.mp
      (Nat.le_antisymm exclusion.alone (List.length_pos_of_mem member))
    rw [threads] at member otherMember
    rw [List.mem_singleton.mp member, List.mem_singleton.mp otherMember]
  have awaitsThis : ∀ number,
      worker.processState number = some (.encoding none) →
        thread.process = number := by
    intro number state
    obtain ⟨other, otherMember, same⟩ := threaded number state
    rw [only other otherMember] at same
    exact same
  unfold Worker.endThread
  dsimp only
  split
  · next process processFound =>
      split
      · next encoding =>
          intro number state
          change (worker.setProcess thread.process
            { process with
              state := .encoding (some outcomes) }).processState number =
                _ at state
          rw [processState_setProcess processFound] at state
          by_cases own : number = thread.process
          · rw [if_pos own] at state
            cases state
          · rw [if_neg own] at state
            exact False.elim (own (awaitsThis number state).symm)
      · next unawaited =>
          intro number state
          have same := awaitsThis number state
          change worker.processState number = _ at state
          rw [← same, processState_of_found processFound] at state
          exact False.elim (unawaited (Option.some.inj state))
  · next missing =>
      intro number state
      have same := awaitsThis number state
      change worker.processState number = _ at state
      rw [← same, Worker.processState, missing] at state
      cases state

theorem Threaded.step (threaded : Threaded worker)
    (exclusion : Exclusion worker) {action : WorkerAction Body}
    (taken : WorkerStep environment worker action after) :
    Threaded after := by
  cases taken with
  | receive consuming connected fresh =>
      unfold Worker.receive
      dsimp only
      split <;> exact threaded.same rfl rfl
  | takeBatch loop running ready =>
      exact (threaded.create _ _).same rfl rfl
  | startProcess found state running =>
      exact threaded.runProcess found _ _ _
  | answerExpiry found state itemFound itemState awaited running =>
      exact threaded.answerExpiry found _ _ _ _ _ _
  | enterSlot found state running resolved =>
      exact threaded.startEncode found _ _ _
  | @engineReplies position thread request reply found calls =>
      intro number state
      obtain ⟨other, member, same⟩ := threaded number state
      obtain ⟨index, otherFound⟩ := List.mem_iff_getElem?.mp member
      by_cases own : index = position
      · rw [own, found] at otherFound
        cases otherFound
        have inside := (List.getElem?_eq_some_iff.mp found).1
        exact ⟨_, List.mem_of_getElem? (List.getElem?_set_self inside),
          same⟩
      · refine ⟨other, ?_, same⟩
        refine List.mem_of_getElem? (i := index) ?_
        rw [List.getElem?_set_ne (Ne.symm own)]
        exact otherFound
  | endThread found finished =>
      exact threaded.endThread exclusion found _
  | collectOutcomes found state running =>
      have left : ∀ slot, Threaded { worker with slot := slot } :=
        fun slot => threaded.same rfl rfl
      exact (left _).setProcess found (by simp)
  | startFinish found itemFound itemState running =>
      have recorded : ∀ events, Threaded (worker.record events) :=
        fun events => threaded.same rfl rfl
      exact (recorded _).setItems found rfl
  | answerFinish found itemFound itemState awaited running cancelled =>
      have recorded : ∀ events, Threaded (worker.record events) :=
        fun events => threaded.same rfl rfl
      exact (recorded _).setItems found rfl
  | cancelFinish found itemFound itemState cancelled =>
      exact threaded.setItems found rfl
  | endGather found state finished =>
      exact threaded.setProcess found (by simp)
  | cancelProcess found state cancelled =>
      have left : ∀ slot, Threaded { worker with slot := slot } :=
        fun slot => threaded.same rfl rfl
      exact (left _).setProcess found (by simp)
  | drainBatch draining =>
      exact (threaded.create _ _).same rfl rfl
  | drainedBatch draining found state =>
      unfold Worker.drainedBatch
      split <;> exact threaded.same rfl rfl
  | _ =>
      exact threaded.same rfl rfl

end Threads

section Loops

variable {Body : Type} {environment : Environment Body}
  {worker after : Worker Body}

/-- A loop that is not there yet is about to be created or serves an unused
lane; one that awaits a task awaits a task there is; and none has ended. -/
def LoopFits (worker : Worker Body) (lane : LaneName) : Prop :=
  match (worker.lane lane).loop with
  | .absent =>
      worker.lane lane = {} ∨
        (worker.lane lane).consuming = true ∧
          ∃ rest, worker.main = .starting (lane :: rest)
  | .waiting => True
  | .awaiting number => number < worker.processes.length
  | .ended => False

/-- `run` has not been stopped, and the loops fit. -/
structure Serving (worker : Worker Body) : Prop where
  running : worker.main = .serving ∨ ∃ lanes, worker.main = .starting lanes
  loops : ∀ lane, LoopFits worker lane

theorem serving_start (workerId : PyStr) (lanes : List LaneName) :
    Serving (Worker.start Body workerId lanes) where
  running := Or.inr ⟨lanes, rfl⟩
  loops := fun _ => Or.inl rfl

/-- Loops fit as long as `run`, the lane and the number of tasks allow. -/
theorem LoopFits.frame {lane : LaneName} (fits : LoopFits worker lane)
    (main : after.main = worker.main)
    (same : after.lane lane = worker.lane lane)
    (grown : worker.processes.length ≤ after.processes.length) :
    LoopFits after lane := by
  unfold LoopFits at fits ⊢
  rw [same, main]
  cases state : (worker.lane lane).loop with
  | awaiting number =>
      rw [state] at fits
      exact Nat.lt_of_lt_of_le fits grown
  | _ =>
      rw [state] at fits
      exact fits

theorem Serving.frame (serving : Serving worker)
    (main : after.main = worker.main) (lane : after.lane = worker.lane)
    (grown : worker.processes.length ≤ after.processes.length) :
    Serving after where
  running := by
    rw [main]
    exact serving.running
  loops := fun name =>
    (serving.loops name).frame main (congrFun lane name) grown

/-- One lane changes. -/
theorem Serving.setLane (serving : Serving worker) {name : LaneName}
    {lane : Lane Body} (fits : LoopFits (worker.setLane name lane) name) :
    Serving (worker.setLane name lane) where
  running := serving.running
  loops := by
    intro other
    by_cases same : other = name
    · rw [same]
      exact fits
    · exact (serving.loops other).frame rfl
        (Worker.setLane_lane_of_ne same) (Nat.le_refl _)

/-- A lane keeps its loop while it consumes. -/
theorem Serving.setConsuming (serving : Serving worker) {name : LaneName}
    {lane : Lane Body} (sameLoop : lane.loop = (worker.lane name).loop)
    (consuming : lane.consuming = true)
    (starting : (worker.lane name).loop = .absent →
      ∃ rest, worker.main = .starting (name :: rest)) :
    Serving (worker.setLane name lane) := by
  have fits := serving.loops name
  refine serving.setLane ?_
  unfold LoopFits at fits ⊢
  rw [Worker.setLane_lane_self, sameLoop]
  cases state : (worker.lane name).loop with
  | absent =>
      exact Or.inr ⟨consuming, starting state⟩
  | _ =>
      rw [state] at fits
      exact fits

theorem Serving.batchStep (serving : Serving worker) {number : Nat}
    (batchStep : BatchStep worker after number) : Serving after := by
  obtain ⟨_, _, _, _, processes⟩ := batchStep.processes
  refine serving.frame batchStep.main batchStep.lane ?_
  rw [processes, List.length_set]

theorem Serving.startLoop (serving : Serving worker) {lane : LaneName}
    {rest : List LaneName}
    (starting : worker.main = .starting (lane :: rest)) :
    Serving ({ worker with main := .starting rest }.setLoop lane
      .waiting) where
  running := Or.inr ⟨rest, rfl⟩
  loops := by
    intro other
    by_cases same : other = lane
    · unfold LoopFits
      rw [same, Worker.setLoop, Worker.setLane_lane_self]
      trivial
    · have fits := serving.loops other
      unfold LoopFits at fits ⊢
      rw [Worker.setLoop, Worker.setLane_lane_of_ne same]
      cases state : (worker.lane other).loop with
      | absent =>
          rw [state] at fits
          rcases fits with unused | ⟨_, others, main⟩
          · exact Or.inl unused
          · rw [starting] at main
            cases main
            exact False.elim (same rfl)
      | _ =>
          rw [state] at fits
          exact fits

theorem Serving.serve (serving : Serving worker)
    (starting : worker.main = .starting []) :
    Serving { worker with main := .serving, ready := true } where
  running := Or.inl rfl
  loops := by
    intro lane
    have fits := serving.loops lane
    unfold LoopFits at fits ⊢
    dsimp only
    cases state : (worker.lane lane).loop with
    | absent =>
        rw [state] at fits
        rcases fits with unused | ⟨_, others, main⟩
        · exact Or.inl unused
        · rw [starting] at main
          cases main
    | _ =>
        rw [state] at fits
        exact fits

theorem Serving.receive (serving : Serving worker) {lane : LaneName}
    (consuming : (worker.lane lane).consuming = true)
    (message : Message Body) (freshId : PyStr) (now : Instant)
    (clock : Seconds) :
    Serving
      (worker.receive environment lane message freshId now clock) := by
  have starting : (worker.lane lane).loop = .absent →
      ∃ rest, worker.main = .starting (lane :: rest) := by
    intro absent
    have fits := serving.loops lane
    rw [LoopFits, absent] at fits
    rcases fits with unused | ⟨_, main⟩
    · rw [unused] at consuming
      cases consuming
    · exact main
  have handled : ∀ handlers log, Serving
      { worker with handlers := handlers, log := log } :=
    fun handlers log => serving.frame rfl rfl (Nat.le_refl _)
  unfold Worker.receive
  dsimp only
  split
  · exact (handled _ _).setConsuming rfl consuming starting
  · exact handled _ _

theorem Serving.takeBatch (serving : Serving worker) (lane : LaneName)
    (batch : Batch (Delivery Body) BatchKey)
    (rest : MicroBatcher (Delivery Body) BatchKey) :
    Serving (worker.takeBatch lane batch rest) := by
  have created : Serving
      { worker with
        processes := worker.processes ++ [newProcess lane batch] } :=
    serving.frame rfl rfl (by simp)
  refine created.setLane ?_
  unfold LoopFits
  rw [Worker.setLane_lane_self]
  simp [Worker.setLane]

/-- Every contained step keeps the loops alive. -/
theorem Serving.step (serving : Serving worker)
    (quietWorker : QuietWorker worker) {action : WorkerAction Body}
    (contained : action.Contained)
    (taken : WorkerStep environment worker action after) :
    Serving after := by
  have notOver : ∀ main : MainState Body,
      (main ≠ .serving ∧ ∀ lanes, main ≠ .starting lanes) →
        worker.main ≠ main := by
    intro main other same
    rcases serving.running with isServing | ⟨lanes, isStarting⟩
    · exact other.1 (same.symm.trans isServing)
    · exact other.2 lanes (same.symm.trans isStarting)
  by_cases batch : action.IsBatch
  · rcases step_isBatch batch taken with
      ⟨threads, same⟩ | ⟨number, batchStep⟩
    · rw [same]
      exact serving.frame rfl rfl (Nat.le_refl _)
    · exact serving.batchStep batchStep
  cases taken with
  | consume starting =>
      exact serving.setConsuming rfl rfl (fun _ => ⟨_, starting⟩)
  | startLoop starting consuming =>
      exact serving.startLoop starting
  | serve starting =>
      exact serving.serve starting
  | receive consuming connected fresh =>
      exact serving.receive consuming _ _ _ _
  | answerHandler found state awaited running =>
      exact serving.frame rfl rfl (Nat.le_refl _)
  | takeBatch loop running ready =>
      exact serving.takeBatch _ _ _
  | resumeLoop loop running found state =>
      have fits := quietWorker.found found
      rw [Process.Fits, state] at fits
      refine serving.setLane ?_
      rw [LoopFits, Worker.setLane_lane_self, if_pos fits.1]
      trivial
  | beginShutdown running =>
      exact False.elim (contained.2 rfl)
  | graceOver timed running =>
      exact contained.1.elim
  | cancelLoop joining started =>
      exact False.elim (notOver _ (by simp) joining)
  | consumersCancelled cancelling =>
      exact False.elim (notOver _ (by simp) cancelling)
  | loopsJoined joining finished =>
      exact False.elim (notOver _ (by simp) joining)
  | inflightJoined joining finished =>
      exact False.elim (notOver _ (by simp) joining)
  | drainLane draining =>
      exact False.elim (notOver _ (by simp) draining)
  | drainBatch draining =>
      exact False.elim (notOver _ (by simp) draining)
  | drainedBatch draining found state =>
      exact False.elim (notOver _ (by simp) draining)
  | drained draining =>
      exact False.elim (notOver _ (by simp) draining)
  | close closing =>
      exact False.elim (notOver _ (by simp) closing)
  | closeFailed closing =>
      exact False.elim (notOver _ (by simp) closing)
  | _ =>
      exact (batch trivial).elim

end Loops

/-- The labels of the steps of lane loops. -/
def WorkerAction.IsLoop {Body : Type} : WorkerAction Body → Prop
  | .startLoop _ => True
  | .takeBatch _ _ => True
  | .resumeLoop _ => True
  | _ => False

/-- A contained step that carries deliveries on. -/
def CarryOn {Body : Type} (environment : Environment Body)
    (worker after : Worker Body) : Prop :=
  ∃ action : WorkerAction Body, (action.IsLoop ∨ action.IsBatch) ∧
    action.Contained ∧ WorkerStep environment worker action after

/-- What holds of a worker after every contained run, as long as no attempt was
unreadable. -/
structure ContainedSound {Body : Type} (environment : Environment Body)
    (workerId : PyStr) (worker : Worker Body) : Prop where
  quietSound : QuietSound environment workerId worker
  threaded : Threaded worker
  serving : Serving worker

section Progress

variable {Body : Type} {environment : Environment Body} {workerId : PyStr}
  {worker after : Worker Body} {number : Nat} {process : Process Body}

theorem containedSound_start (lanes : List LaneName) :
    ContainedSound environment workerId
      (Worker.start Body workerId lanes) where
  quietSound := quietSound_start lanes
  threaded := by
    intro number state
    cases state
  serving := serving_start workerId lanes

theorem ContainedSound.step
    (containedSound : ContainedSound environment workerId worker)
    {action : WorkerAction Body} (contained : action.Contained)
    (read : AttemptsRead after)
    (taken : WorkerStep environment worker action after) :
    ContainedSound environment workerId after where
  quietSound := containedSound.quietSound.step contained.1 read taken
  threaded :=
    containedSound.threaded.step
      containedSound.quietSound.sound.exclusion taken
  serving :=
    containedSound.serving.step containedSound.quietSound.quietWorker
      contained taken

theorem carryOn_batch {action : WorkerAction Body}
    (taken : WorkerStep environment worker action after)
    (batch : action.IsBatch) (quiet : action.Quiet) :
    ∃ next, CarryOn environment worker next := by
  refine ⟨after, action, Or.inr batch, ⟨quiet, ?_⟩, taken⟩
  intro same
  rw [same] at batch
  exact batch

/-- A task that holds the slot can go on. -/
theorem encoding_progress
    (containedSound : ContainedSound environment workerId worker)
    (found : worker.processes[number]? = some process)
    {outcomes : Option (List Outcome)}
    (state : process.state = .encoding outcomes) :
    ∃ next, CarryOn environment worker next := by
  cases outcomes with
  | some outcomes =>
      exact carryOn_batch
        (.collectOutcomes found state
          containedSound.quietSound.quietWorker.graced) trivial trivial
  | none =>
      have awaits : worker.processState number = some (.encoding none) := by
        rw [processState_of_found found, state]
      obtain ⟨thread, member, _⟩ := containedSound.threaded number awaits
      obtain ⟨position, threadFound⟩ := List.mem_iff_getElem?.mp member
      cases program : thread.program with
      | done outcomes =>
          exact carryOn_batch
            (.endThread threadFound
              (by rw [program]; exact Eq.refl (some outcomes))) trivial trivial
      | call request resume =>
          exact carryOn_batch
            (@WorkerStep.engineReplies Body environment worker position
              thread request (.error ⟨[]⟩) threadFound
              (by rw [program]; rfl)) trivial trivial

/-- A task that awaits the slot can go on, or its owner can. -/
theorem queued_progress
    (containedSound : ContainedSound environment workerId worker)
    (found : worker.processes[number]? = some process)
    (state : process.state = .queued) :
    ∃ next, CarryOn environment worker next := by
  have graced := containedSound.quietSound.quietWorker.graced
  have exclusion := containedSound.quietSound.sound.exclusion
  have oneOwner := SlotSystem.oneOwner_of_reachable exclusion.slotReachable
  have enters : ∀ (task : Nat) (entering : Process Body),
      worker.processes[task]? = some entering →
        entering.state = .queued →
          worker.slot.slot.futures task = .resolved →
            ∃ next, CarryOn environment worker next :=
    fun task entering taskFound taskState resolved =>
      carryOn_batch
        (@WorkerStep.enterSlot Body environment worker task entering 0
          taskFound taskState graced resolved) trivial trivial
  have queued : worker.slot.callers number = .queued := by
    rw [exclusion.callers, processState_of_found found, graced, state]
    rfl
  rcases oneOwner.agrees number with
    ⟨outside | inside, _⟩ | waits | ⟨_, resolved⟩
  · rw [queued] at outside
    cases outside
  · rw [queued] at inside
    cases inside
  · have pending : worker.slot.slot.futures number = .pending := by
      rcases waits with ⟨_, pending⟩ | ⟨cancelling, _⟩
      · exact pending
      · rw [queued] at cancelling
        cases cancelling
    have entry := oneOwner.pendingEntry number pending
    have busy := oneOwner.waitersBusy (by
      intro none
      rw [none] at entry
      cases entry)
    obtain ⟨owner, owns⟩ := oneOwner.busyOwner busy
    have caller := exclusion.callers owner
    rw [graced] at caller
    cases ownerFound : worker.processes[owner]? with
    | none =>
        rw [Worker.processState, ownerFound] at caller
        rcases owns with inside | ⟨queuing | cancelling, _⟩
        · rw [inside] at caller
          cases caller
        · rw [queuing] at caller
          cases caller
        · rw [cancelling] at caller
          cases caller
    | some owning =>
        rw [processState_of_found ownerFound] at caller
        rcases owns with inside | ⟨queuing | cancelling, resolved⟩
        · rw [inside] at caller
          cases ownerState : owning.state with
          | encoding outcomes =>
              exact encoding_progress containedSound ownerFound ownerState
          | _ =>
              rw [ownerState] at caller
              cases caller
        · rw [queuing] at caller
          cases ownerState : owning.state with
          | queued =>
              exact enters owner owning ownerFound ownerState resolved
          | _ =>
              rw [ownerState] at caller
              cases caller
        · rw [cancelling] at caller
          cases ownerState : owning.state <;>
            rw [ownerState] at caller <;> cases caller
  · exact enters number process found state resolved

/-- A `gather` that is not over has a task that can go on. -/
theorem gathering_progress
    (containedSound : ContainedSound environment workerId worker)
    (found : worker.processes[number]? = some process)
    (state : process.state = .gathering) :
    ∃ next, CarryOn environment worker next := by
  have graced := containedSound.quietSound.quietWorker.graced
  have fits := containedSound.quietSound.quietWorker.found found
  rw [Process.Fits, state] at fits
  by_cases finished : process.items.all Process.itemOver = true
  · exact carryOn_batch
      (.endGather found state (Or.inl finished)) trivial trivial
  · rw [List.all_eq_true] at finished
    push Not at finished
    obtain ⟨item, member, notOver⟩ := finished
    obtain ⟨position, itemFound⟩ := List.mem_iff_getElem?.mp member
    have unexpired : worker.graceExpired = true → False := by
      rw [graced]
      exact Bool.false_ne_true
    rcases fits item member with gone | ⟨outcome, scheduled⟩ |
      ⟨settling, finishing, returned | ⟨call, awaited⟩⟩
    · exact False.elim (notOver
        (by simp [Process.itemOver, show item.state = _ from gone]))
    · exact carryOn_batch
        (.startFinish found itemFound scheduled
          (fun expired => (unexpired expired).elim)) trivial trivial
    · rw [returned] at finishing
      exact False.elim (notOver (by simp [Process.itemOver, finishing]))
    · have quiet : (WorkerAction.answerFinish number position call
          .returned : WorkerAction Body).Quiet :=
        fun _ => by decide
      exact carryOn_batch
        (.answerFinish found itemFound finishing awaited
          (fun expired => (unexpired expired).elim) (by simp)) trivial quiet

/-- A task that is not over can go on, or the owner of the slot can. -/
theorem process_progress
    (containedSound : ContainedSound environment workerId worker)
    (found : worker.processes[number]? = some process)
    (unended : process.state.isEnded = false) :
    ∃ next, CarryOn environment worker next := by
  have graced := containedSound.quietSound.quietWorker.graced
  have fits := containedSound.quietSound.quietWorker.found found
  cases state : process.state with
  | created =>
      exact carryOn_batch
        (@WorkerStep.startProcess Body environment worker number process
          (fun _ => 0) 0 found state graced) trivial trivial
  | expiring position =>
      rw [Process.Fits, state] at fits
      obtain ⟨⟨item, settling, itemFound, itemState, call, awaited⟩, _⟩ :=
        fits
      have quiet : (WorkerAction.answerExpiry number call .returned
          (fun _ => 0) 0 : WorkerAction Body).Quiet :=
        fun _ => by decide
      exact carryOn_batch
        (.answerExpiry found state itemFound itemState awaited
          (by simp [graced])) trivial quiet
  | queued =>
      exact queued_progress containedSound found state
  | encoding outcomes =>
      exact encoding_progress containedSound found state
  | gathering =>
      exact gathering_progress containedSound found state
  | ended how =>
      rw [state] at unended
      cases unended

/-- A lane with something pending can go on. -/
theorem lane_progress
    (containedSound : ContainedSound environment workerId worker)
    {lane : LaneName}
    (pending : (worker.lane lane).batcher.pending ≠ []) :
    ∃ next, CarryOn environment worker next := by
  have early : worker.main.loopsCancelled = false := by
    rcases containedSound.serving.running with serving | ⟨lanes, starting⟩
    · rw [serving]
      rfl
    · rw [starting]
      rfl
  have stored : (worker.lane lane).batcher.groups.entries ≠ [] := by
    intro none
    apply pending
    rw [MicroBatcher.pending, none]
    rfl
  have fits := containedSound.serving.loops lane
  cases loop : (worker.lane lane).loop with
  | absent =>
      rw [LoopFits, loop] at fits
      rcases fits with unused | ⟨consuming, rest, starting⟩
      · rw [unused] at pending
        exact False.elim (pending rfl)
      · exact ⟨_, .startLoop lane, Or.inl trivial, ⟨trivial, by simp⟩,
          .startLoop starting consuming⟩
  | waiting =>
      obtain ⟨clock, batch, rest, taken⟩ :=
        MicroBatcher.takeReady_of_pending
          (batcherConfig environment.settings lane) _ stored
      exact ⟨_, .takeBatch lane clock, Or.inl trivial,
        ⟨trivial, by simp⟩,
        .takeBatch loop early taken⟩
  | awaiting number =>
      rw [LoopFits, loop] at fits
      have found := List.getElem?_eq_getElem fits
      cases ended : (worker.processes[number]).state.isEnded with
      | false =>
          exact process_progress containedSound found ended
      | true =>
          cases state : (worker.processes[number]).state with
          | ended how =>
              exact ⟨_, .resumeLoop lane, Or.inl trivial,
                ⟨trivial, by simp⟩,
                .resumeLoop loop early found state⟩
          | _ =>
              rw [state] at ended
              cases ended
  | ended =>
      rw [LoopFits, loop] at fits
      exact fits.elim

/-- As long as a buffered delivery is not settled, something can go on. -/
theorem buffered_progress
    (containedSound : ContainedSound environment workerId worker)
    {lane : LaneName} {message : Message Body}
    (buffered : .buffered lane message ∈ worker.log)
    (unsettled : settlements message.tag worker.log ≠ 1) :
    ∃ next, CarryOn environment worker next := by
  have quietSound := containedSound.quietSound
  have sound := quietSound.sound.ledgerSound
  obtain ⟨cell, origin, inLane | inMain | left | inTask⟩ :=
    buffered_located sound quietSound.known buffered
  · rw [laneCells, Multiset.mem_add, mem_heldCells_iff,
      mem_heldCells_iff] at inLane
    rcases inLane with ⟨delivery, member, _⟩ | ⟨delivery, member, _⟩
    · exact lane_progress containedSound (List.ne_nil_of_mem member)
    · exact lane_progress containedSound (List.ne_nil_of_mem member)
  · rcases containedSound.serving.running with serving | ⟨lanes, starting⟩
    · rw [serving] at inMain
      exact False.elim (Multiset.notMem_zero _ inMain)
    · rw [starting] at inMain
      exact False.elim (Multiset.notMem_zero _ inMain)
  · rw [quietSound.orderly.abandoned] at left
    exact False.elim (Multiset.notMem_zero _ left)
  · obtain ⟨process, member, inside⟩ := inTask
    obtain ⟨number, found⟩ := List.mem_iff_getElem?.mp member
    cases ended : process.state.isEnded with
    | false =>
        exact process_progress containedSound found ended
    | true =>
        obtain ⟨item, itemMember, same⟩ := mem_processCells_iff.mp inside
        have about : item.delivery.message = message := by
          rw [same] at origin
          exact congrArg Prod.snd origin
        have fits := quietSound.quietWorker.fits process member
        cases state : process.state with
        | ended how =>
            rw [Process.Fits, state] at fits
            have settled := settled_of_done sound member itemMember
              (fits.2 item itemMember)
            rw [about] at settled
            exact False.elim (unsettled settled)
        | _ =>
            rw [state] at ended
            cases ended

end Progress

section Weights

variable {Body : Type}

/-- How many calls a settlement can still await. -/
def Settling.weight : Settling Body → Nat
  | .publishing _ _ _ => 2
  | .acking => 1
  | .nacking _ => 1
  | .ended _ => 0

def Item.weight (item : Item Body) : Nat :=
  match item.state with
  | .unchecked => 5
  | .live => 4
  | .scheduled _ => 3
  | .expiring settling => settling.weight
  | .finishing settling => settling.weight

def itemsWeight (items : List (Item Body)) : Nat :=
  (items.map Item.weight).sum

def ProcessState.weight : ProcessState → Nat
  | .created => 6
  | .expiring _ => 5
  | .queued => 4
  | .encoding _ => 2
  | .gathering => 1
  | .ended _ => 0

def Process.weight (process : Process Body) : Nat :=
  process.state.weight + itemsWeight process.items

def LoopState.weight : LoopState → Nat
  | .awaiting _ => 1
  | _ => 0

def Lane.weight (lane : Lane Body) : Nat :=
  20 * lane.batcher.weight + lane.loop.weight

def MainState.weight : MainState Body → Nat
  | .starting lanes => lanes.length
  | _ => 0

/-- What the tasks have left to do. -/
def Worker.taskWeight (worker : Worker Body) : Nat :=
  (worker.processes.map Process.weight).sum + worker.threads.length

def Worker.laneWeight (worker : Worker Body) : Nat :=
  (worker.lane .query).weight + (worker.lane .index).weight

/-- What the lanes and the tasks have left to do, besides calls of the
engine. -/
def Worker.weight (worker : Worker Body) : Nat :=
  worker.main.weight + worker.laneWeight + worker.taskWeight

/-- What is left of the encode that runs, if one does. -/
def Worker.program (worker : Worker Body) : EncodeProgram (List Outcome) :=
  match worker.threads with
  | [] => .done []
  | thread :: _ => thread.program

theorem settling_weight_le (settling : Settling Body) :
    settling.weight ≤ 2 := by
  cases settling <;> simp [Settling.weight]

theorem resume_lighter {settling : Settling Body} {call : BrokerCall}
    (awaited : settling.call? = some call) (how : Ending)
    (lane : LaneName) (message : Message Body) :
    (settling.resume lane message how).1.weight < settling.weight := by
  cases settling with
  | publishing result retry reply =>
      cases how <;> simp [Settling.resume, Settling.weight]
  | ended before =>
      cases awaited
  | _ =>
      simp [Settling.resume, Settling.weight]

@[simp]
theorem itemsWeight_nil : itemsWeight ([] : List (Item Body)) = 0 :=
  rfl

@[simp]
theorem itemsWeight_cons (item : Item Body) (rest : List (Item Body)) :
    itemsWeight (item :: rest) = item.weight + itemsWeight rest :=
  rfl

@[simp]
theorem itemsWeight_append (first second : List (Item Body)) :
    itemsWeight (first ++ second) =
      itemsWeight first + itemsWeight second := by
  simp [itemsWeight]

theorem itemsWeight_markLive (items : List (Item Body)) :
    itemsWeight (items.map Process.markLive) ≤ itemsWeight items := by
  induction items with
  | nil =>
      exact Nat.le_refl 0
  | cons item rest inductionHypothesis =>
      have lighter : (Process.markLive item).weight ≤ item.weight := by
        cases state : item.state <;>
          simp [Process.markLive, Item.weight, state]
      rw [List.map_cons, itemsWeight_cons, itemsWeight_cons]
      omega

theorem itemsWeight_assignOutcomes (items : List (Item Body)) :
    ∀ outcomes, itemsWeight (Process.assignOutcomes items outcomes) ≤
      itemsWeight items := by
  induction items with
  | nil =>
      intro outcomes
      exact Nat.le_refl 0
  | cons item rest inductionHypothesis =>
      intro outcomes
      rw [Process.assignOutcomes.eq_def]
      dsimp only
      split
      · next outcome others live =>
          have later := inductionHypothesis others
          simp only [itemsWeight_cons, Item.weight, live]
          omega
      · rw [itemsWeight_cons, itemsWeight_cons]
        exact Nat.add_le_add_left (inductionHypothesis _) _

/-- The items of a task, seen from one of them. -/
theorem itemsWeight_set {items : List (Item Body)} {position : Nat}
    {item : Item Body} (found : items[position]? = some item)
    (updated : Item Body) :
    itemsWeight (items.set position updated) + item.weight =
      itemsWeight items + updated.weight := by
  obtain ⟨rest, before, after⟩ :=
    ListUpdate.exists_sum_set Item.weight found
  rw [itemsWeight, itemsWeight, before, after]
  omega

theorem newProcess_weight (lane : LaneName)
    (batch : Batch (Delivery Body) BatchKey) :
    (newProcess lane batch).weight = 6 + 5 * batch.items.length := by
  have items : ∀ deliveries : List (Delivery Body),
      itemsWeight (deliveries.map
        (fun delivery => ({ delivery := delivery } : Item Body))) =
        5 * deliveries.length := by
    intro deliveries
    induction deliveries with
    | nil =>
        rfl
    | cons delivery rest inductionHypothesis =>
        rw [List.map_cons, itemsWeight_cons, inductionHypothesis,
          List.length_cons]
        change 5 + _ = _
        omega
  exact congrArg (6 + ·) (items batch.items)

variable {worker : Worker Body} {number : Nat} {process : Process Body}

/-- The tasks, seen from one of them. -/
theorem tasksWeight_set
    (found : worker.processes[number]? = some process)
    (updated : Process Body) :
    ((worker.processes.set number updated).map Process.weight).sum +
        process.weight =
      (worker.processes.map Process.weight).sum + updated.weight := by
  obtain ⟨rest, before, after⟩ :=
    ListUpdate.exists_sum_set Process.weight found
  rw [before, after]
  omega

end Weights

section Lighter

variable {Body : Type} {environment : Environment Body}
  {worker after : Worker Body} {number : Nat} {process : Process Body}

/-- `_process` up to its next await leaves less to do than a check of its
items from the start. -/
theorem runProcess_lighter (environment : Environment Body)
    (found : worker.processes[number]? = some process)
    (started : Process Body) (readings : Nat → Instant) (now : Instant) :
    (worker.runProcess environment number started readings now).taskWeight +
        process.weight <
      worker.taskWeight + 6 + itemsWeight started.items := by
  have kept := itemsWeight_markLive started.items
  have allLive : ∀ state, ({ started.allLive with state := state } :
      Process Body).weight =
        state.weight + itemsWeight (started.items.map Process.markLive) :=
    fun state => rfl
  have runs :=
    runProcess_runs environment worker number started readings now
  generalize worker.runProcess environment number started readings now =
    result at runs
  cases runs with
  | @expires before after item split unchecked late =>
      have marked := itemsWeight_markLive before
      have light := settling_weight_le
        (expire environment worker.workerId started.lane item.delivery
          (readings before.length)).1
      have expiring := tasksWeight_set found
        { started with
          items := before.map Process.markLive ++
            { item with
              state := .expiring
                (expire environment worker.workerId started.lane
                  item.delivery (readings before.length)).1 } :: after
          state := .expiring before.length }
      have heavy : item.weight = 5 := by
        simp [Item.weight, unchecked]
      simp only [Worker.taskWeight, Worker.setProcess, Worker.record,
        split, Process.weight, ProcessState.weight, itemsWeight_append,
        itemsWeight_cons, heavy] at expiring ⊢
      simp only [Item.weight] at expiring
      omega
  | ends nothingLive =>
      have ending := tasksWeight_set found
        { started.allLive with state := .ended .returned }
      rw [allLive] at ending
      simp only [Worker.taskWeight, Worker.setProcess,
        ProcessState.weight] at ending ⊢
      omega
  | enters someLive inside =>
      have entering := tasksWeight_set found
        { started.allLive with state := .encoding none }
      rw [allLive] at entering
      simp only [Worker.taskWeight, Worker.startEncode, Worker.setProcess,
        ProcessState.weight, List.length_append,
        List.length_singleton] at entering ⊢
      omega
  | queues someLive outside =>
      have queuing := tasksWeight_set found
        { started.allLive with state := .queued }
      rw [allLive] at queuing
      simp only [Worker.taskWeight, Worker.setProcess,
        ProcessState.weight] at queuing ⊢
      omega

theorem answerExpiry_lighter
    (found : worker.processes[number]? = some process) {position : Nat}
    (state : process.state = .expiring position) {item : Item Body}
    {settling : Settling Body} {call : BrokerCall}
    (itemFound : process.items[position]? = some item)
    (itemState : item.state = .expiring settling)
    (awaited : settling.call? = some call) (how : Ending)
    (readings : Nat → Instant) (now : Instant) :
    (worker.answerExpiry environment number process position item settling
      how readings now).taskWeight < worker.taskWeight := by
  have lighter := resume_lighter awaited how process.lane
    item.delivery.message
  have itemWeight : item.weight = settling.weight := by
    simp [Item.weight, itemState]
  have answers := answerExpiry_answers environment worker number process
    position item settling how readings now
  generalize worker.answerExpiry environment number process position item
    settling how readings now = result at answers
  generalize settling.resume process.lane item.delivery.message how =
    segment at answers lighter
  have items := itemsWeight_set itemFound
    { item with state := .expiring segment.1 }
  have settled : ({ item with state := .expiring segment.1 } :
      Item Body).weight = segment.1.weight := rfl
  have resumed := tasksWeight_set found
    { process with
      items := process.items.set position
        { item with state := .expiring segment.1 } }
  have before : process.weight = 5 + itemsWeight process.items := by
    simp [Process.weight, ProcessState.weight, state]
  have resumedWeight : ({ process with
      items := process.items.set position
        { item with state := .expiring segment.1 } } :
      Process Body).weight =
        5 + itemsWeight (process.items.set position
          { item with state := .expiring segment.1 }) := by
    simp [Process.weight, ProcessState.weight, state]
  have answered : (worker.answeredExpiry number process position item
      segment).taskWeight < worker.taskWeight := by
    simp only [Worker.answeredExpiry, Worker.taskWeight, Worker.setProcess,
      Worker.record] at resumed ⊢
    omega
  cases answers with
  | continues returned =>
      have continued := runProcess_lighter environment
        (answeredExpiry_found found position item segment)
        { process with
          items := process.items.set position
            { item with state := .expiring segment.1 } } readings now
      dsimp only at continued
      omega
  | @leaves how failed ended =>
      have left := tasksWeight_set
        (answeredExpiry_found found position item segment)
        { process with
          items := process.items.set position
            { item with state := .expiring segment.1 }
          state := .ended how }
      simp only [Worker.taskWeight, Worker.setProcess, Process.weight,
        ProcessState.weight, state] at left answered ⊢
      omega
  | awaits pending =>
      exact answered

/-- An item moves on; the state of its task stays. -/
theorem setItem_lighter
    (found : worker.processes[number]? = some process) {position : Nat}
    {item updated : Item Body}
    (itemFound : process.items[position]? = some item)
    (lighter : updated.weight < item.weight) :
    (worker.setItem number process position updated).taskWeight <
      worker.taskWeight := by
  have items := itemsWeight_set itemFound updated
  have moved := tasksWeight_set found
    { process with items := process.items.set position updated }
  simp only [Worker.taskWeight, Worker.setItem, Worker.setProcess,
    Process.weight] at moved ⊢
  omega

/-- A task goes to a state with less to do. -/
theorem setProcess_lighter
    (found : worker.processes[number]? = some process)
    {updated : Process Body} (lighter : updated.weight < process.weight) :
    (worker.setProcess number updated).taskWeight < worker.taskWeight := by
  have moved := tasksWeight_set found updated
  simp only [Worker.taskWeight, Worker.setProcess] at moved ⊢
  omega

theorem endThread_lighter {position : Nat} {thread : EncodeThread}
    (found : worker.threads[position]? = some thread)
    (outcomes : List Outcome) :
    (worker.endThread position thread outcomes).taskWeight <
      worker.taskWeight := by
  have inside := (List.getElem?_eq_some_iff.mp found).1
  have erased : (worker.threads.eraseIdx position).length <
      worker.threads.length := by
    rw [List.length_eraseIdx, if_pos inside]
    omega
  unfold Worker.endThread
  dsimp only
  split
  · next process processFound =>
      split
      · next encoding =>
          have moved := tasksWeight_set processFound
            { process with state := .encoding (some outcomes) }
          simp only [Worker.taskWeight, Worker.setProcess, Process.weight,
            ProcessState.weight, encoding] at moved ⊢
          omega
      · simp only [Worker.taskWeight]
        omega
  · simp only [Worker.taskWeight]
    omega

/-- Every step of a task leaves the tasks less to do, a reply of the engine
apart. -/
theorem batch_lighter {action : WorkerAction Body} (batch : action.IsBatch)
    (unanswered : ∀ position request reply,
      action ≠ .engineReplies position request reply)
    (taken : WorkerStep environment worker action after) :
    after.taskWeight < worker.taskWeight := by
  cases taken with
  | @startProcess number process readings now found state running =>
      have ran := runProcess_lighter environment found process readings now
      have created : process.weight = 6 + itemsWeight process.items := by
        simp [Process.weight, ProcessState.weight, state]
      omega
  | answerExpiry found state itemFound itemState awaited running =>
      exact answerExpiry_lighter found state itemFound itemState awaited _ _
        _
  | @enterSlot number process now found state running resolved =>
      have entered := tasksWeight_set found
        { process with state := .encoding none }
      simp only [Worker.taskWeight, Worker.enterSlot, Worker.startEncode,
        Worker.setProcess, Process.weight, ProcessState.weight, state,
        List.length_append, List.length_singleton] at entered ⊢
      omega
  | engineReplies found calls =>
      exact False.elim (unanswered _ _ _ rfl)
  | endThread found finished =>
      exact endThread_lighter found _
  | @collectOutcomes number process outcomes found state running =>
      have lighter := itemsWeight_assignOutcomes process.items outcomes
      have collected := tasksWeight_set found
        { process with
          items := Process.assignOutcomes process.items outcomes
          state := .gathering }
      simp only [Worker.taskWeight, Worker.collectOutcomes,
        Worker.setProcess, Process.weight, ProcessState.weight,
        state] at collected ⊢
      omega
  | @startFinish number position process item outcome found itemFound
      itemState running =>
      have light := settling_weight_le
        (finish environment worker.workerId process.lane item.delivery
          outcome).1
      refine setItem_lighter found itemFound ?_
      simp only [Item.weight, itemState]
      omega
  | answerFinish found itemFound itemState awaited running cancelled =>
      refine setItem_lighter found itemFound ?_
      simp only [Item.weight, itemState]
      exact resume_lighter awaited _ _ _
  | cancelFinish found itemFound itemState cancelled =>
      refine setItem_lighter found itemFound ?_
      simp [Item.weight, Settling.weight, itemState]
  | endGather found state finished =>
      refine setProcess_lighter found ?_
      simp [Process.weight, ProcessState.weight, state]
  | cancelProcess found state cancelled =>
      refine setProcess_lighter found ?_
      rcases state with created | queued | ⟨outcomes, encoding⟩
      · simp [Process.weight, ProcessState.weight, created]
      · simp [Process.weight, ProcessState.weight, queued]
      · simp [Process.weight, ProcessState.weight, encoding]
  | _ =>
      exact batch.elim

end Lighter

section Inevitable

variable {Body : Type} {environment : Environment Body} {workerId : PyStr}
  {worker after : Worker Body}

theorem laneWeight_setLane (worker : Worker Body) (name : LaneName)
    (lane : Lane Body) :
    (worker.setLane name lane).laneWeight + (worker.lane name).weight =
      worker.laneWeight + lane.weight := by
  cases name <;> simp [Worker.laneWeight, Worker.setLane] <;> omega

/-- Every step of a lane loop leaves less to do. -/
theorem loop_lighter {action : WorkerAction Body} (loops : action.IsLoop)
    (taken : WorkerStep environment worker action after) :
    after.weight < worker.weight := by
  cases taken with
  | @startLoop lane rest starting consuming =>
      have lanes := laneWeight_setLane { worker with main := .starting rest }
        lane { worker.lane lane with loop := .waiting }
      simp only [Worker.weight, Worker.setLoop, Worker.taskWeight,
        Worker.setLane, MainState.weight, starting, Lane.weight,
        LoopState.weight, List.length_cons] at lanes ⊢
      simp only [Worker.laneWeight] at lanes ⊢
      omega
  | @takeBatch lane clock batch rest loop running ready =>
      obtain ⟨lighter, split⟩ := MicroBatcher.takeReady_weight _ _ ready
      have lanes := laneWeight_setLane worker lane
        { worker.lane lane with
          batcher := rest
          loop := .awaiting worker.processes.length }
      have created := newProcess_weight lane batch
      simp only [Worker.weight, Worker.takeBatch, Worker.taskWeight,
        Worker.setLane, Lane.weight, LoopState.weight, loop,
        List.map_append, List.sum_append, List.map_singleton,
        List.sum_singleton, created] at lanes ⊢
      simp only [Worker.laneWeight] at lanes ⊢
      omega
  | @resumeLoop lane number process how loop running found state =>
      have lanes := laneWeight_setLane worker lane
        { worker.lane lane with
          loop := if how = .returned then .waiting else .ended }
      have idle : (if how = .returned then LoopState.waiting
          else .ended).weight = 0 := by
        split <;> rfl
      have awaited : (LoopState.awaiting number).weight = 1 := rfl
      simp only [Worker.weight, Worker.setLoop, Worker.taskWeight,
        Worker.setLane, Lane.weight, idle, loop, awaited] at lanes ⊢
      simp only [Worker.laneWeight] at lanes ⊢
      omega
  | _ =>
      exact loops.elim

/-- A step of a task moves neither `run` nor a lane. -/
theorem batch_weight {action : WorkerAction Body} (batch : action.IsBatch)
    (taken : WorkerStep environment worker action after) :
    after.main = worker.main ∧ after.lane = worker.lane := by
  rcases step_isBatch batch taken with ⟨threads, same⟩ | ⟨number, batchStep⟩
  · rw [same]
    exact ⟨rfl, rfl⟩
  · exact ⟨batchStep.main, batchStep.lane⟩

/-- A reply of the engine leaves less of the encode that runs. -/
theorem engineReplies_continues (exclusion : Exclusion worker)
    {position : Nat} {request : EncodeCall} {reply : EngineReply}
    (taken : WorkerStep environment worker
      (.engineReplies position request reply) after) :
    CallProgram.Continues after.program worker.program ∧
      after.taskWeight = worker.taskWeight := by
  cases taken with
  | @engineReplies _ thread _ _ found calls =>
      obtain ⟨single, threads⟩ := List.length_eq_one_iff.mp
        (Nat.le_antisymm exclusion.alone
          (List.length_pos_of_mem (List.mem_of_getElem? found)))
      have first : position = 0 := by
        have inside := (List.getElem?_eq_some_iff.mp found).1
        rw [threads, List.length_singleton] at inside
        omega
      rw [first, threads] at found
      cases found
      have before : worker.program = thread.program := by
        rw [Worker.program, threads]
      refine ⟨⟨request, reply, ?_, ?_⟩, ?_⟩
      · rw [before]
        exact calls
      · rw [before, Worker.program, threads, first]
        rfl
      · rw [Worker.taskWeight, Worker.taskWeight, List.length_set]

/-- Carrying on leaves less to do, or less of the encode that runs. -/
theorem carryOn_decreases
    (containedSound : ContainedSound environment workerId worker)
    (carries : CarryOn environment worker after) :
    Prod.Lex (· < ·) CallProgram.Continues (after.weight, after.program)
      (worker.weight, worker.program) := by
  obtain ⟨action, loops | batch, contained, taken⟩ := carries
  · exact Prod.Lex.left _ _ (loop_lighter loops taken)
  · obtain ⟨main, lane⟩ := batch_weight batch taken
    have weights : ∀ state : Worker Body, state.main = worker.main →
        state.lane = worker.lane →
          state.weight =
            worker.main.weight + worker.laneWeight + state.taskWeight := by
      intro state sameMain sameLane
      rw [Worker.weight, Worker.laneWeight, Worker.laneWeight, sameMain,
        sameLane]
    rw [weights after main lane, weights worker rfl rfl]
    by_cases replies : ∃ position request reply,
        action = .engineReplies position request reply
    · obtain ⟨position, request, reply, same⟩ := replies
      rw [same] at taken
      obtain ⟨continues, tasks⟩ := engineReplies_continues
        containedSound.quietSound.sound.exclusion taken
      rw [tasks]
      exact Prod.Lex.right _ continues
    · push Not at replies
      have lighter := batch_lighter batch replies taken
      exact Prod.Lex.left _ _ (Nat.add_lt_add_left lighter _)

/-- Whatever order the loops and tasks take, and whatever publishes raise, a
buffered delivery comes to its settlement, unless an attempt is unreadable. -/
theorem settles_inevitably
    (containedSound : ContainedSound environment workerId worker)
    {lane : LaneName} {message : Message Body}
    (buffered : .buffered lane message ∈ worker.log) :
    Inevitable (CarryOn environment)
      (fun state => AttemptsRead state →
        settlements message.tag state.log = 1) worker := by
  have wellFounded : WellFounded
      (@Prod.Lex Nat (EncodeProgram (List Outcome)) (· < ·)
        CallProgram.Continues) :=
    Nat.lt_wfRel.wf.prod_lex CallProgram.continues_wellFounded
  refine inevitable_of_progress wellFounded
    (fun state : Worker Body => (state.weight, state.program))
    (I := fun state =>
      (AttemptsRead state → ContainedSound environment workerId state) ∧
        .buffered lane message ∈ state.log) ?_ ?_ ?_
    ⟨fun _ => containedSound, buffered⟩
  · intro state next held unreached carries
    obtain ⟨sound, member⟩ := held
    obtain ⟨read, _⟩ := Classical.not_imp.mp unreached
    obtain ⟨action, _, contained, taken⟩ := carries
    obtain ⟨added, log⟩ := log_step taken
    refine ⟨fun readAfter => (sound read).step contained readAfter taken, ?_⟩
    rw [log]
    exact List.mem_append_left _ member
  · intro state next held unreached carries
    obtain ⟨read, _⟩ := Classical.not_imp.mp unreached
    exact carryOn_decreases (held.1 read) carries
  · intro state held unreached
    obtain ⟨read, unsettled⟩ := Classical.not_imp.mp unreached
    exact buffered_progress (held.1 read) held.2 unsettled

end Inevitable

end EmbeddingService
