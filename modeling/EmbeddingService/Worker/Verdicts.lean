import EmbeddingService.Worker.Drain
import EmbeddingService.Worker.Finishing

/-!
# Verdicts at the end of a batch

As long as the `ack` and `nack` calls of the batch tasks return, a task that
is over has expired, failed or completed each of its deliveries, even if an
attempt could not be read.  A drain may then fail, but what it leaves when it
does not is nothing.
-/

namespace EmbeddingService

open LabelledRuns

section Verdicts

variable {Body : Type} {environment : Environment Body} {workerId : PyStr}
  {worker after : Worker Body} {number : Nat} {process : Process Body}

/-- The delivery expired, or its `_finish` has begun. -/
def Item.HasVerdict (item : Item Body) : Prop :=
  item.IsGone ∨ item.IsFinishing

/-- A task that is over was not cancelled, and has a verdict on each of its
deliveries. -/
def Process.Judged (process : Process Body) : Prop :=
  ∀ how, process.state = .ended how →
    how ≠ .cancelled ∧ ∀ item ∈ process.items, item.HasVerdict

def Judged (worker : Worker Body) : Prop :=
  ∀ process ∈ worker.processes, process.Judged

theorem Process.judged_of_unended (unended : process.state.isEnded = false) :
    process.Judged := by
  intro how ended
  rw [ended] at unended
  cases unended

theorem Judged.setProcess (judged : Judged worker) {updated : Process Body}
    (own : updated.Judged) : Judged (worker.setProcess number updated) := by
  intro other member
  rcases List.mem_or_eq_of_mem_set member with old | new
  · exact judged other old
  · rw [new]
    exact own

theorem Judged.setUnended (judged : Judged worker) {updated : Process Body}
    (processes : after.processes = worker.processes.set number updated)
    (unended : updated.state.isEnded = false) : Judged after := by
  have changed : Judged (worker.setProcess number updated) :=
    judged.setProcess (Process.judged_of_unended unended)
  unfold Judged
  rw [processes]
  exact changed

theorem Judged.same (judged : Judged worker)
    (processes : after.processes = worker.processes) : Judged after := by
  unfold Judged
  rw [processes]
  exact judged

theorem Judged.create (judged : Judged worker) (lane : LaneName)
    (batch : Batch (Delivery Body) BatchKey)
    (processes : after.processes =
      worker.processes ++ [newProcess lane batch]) : Judged after := by
  intro other member
  rw [processes] at member
  rcases List.mem_append.mp member with old | new
  · exact judged other old
  · rw [List.mem_singleton.mp new]
    exact Process.judged_of_unended rfl

/-- A `_finish` task moves its item; a verdict stays. -/
theorem Judged.setItem (judged : Judged worker)
    (found : worker.processes[number]? = some process) (position : Nat)
    {updated : Item Body} (finishing : updated.IsFinishing) :
    Judged (worker.setItem number process position updated) := by
  refine judged.setProcess ?_
  intro how ended
  obtain ⟨uncancelled, verdicts⟩ :=
    judged process (List.mem_of_getElem? found) how ended
  refine ⟨uncancelled, fun other member => ?_⟩
  rcases List.mem_or_eq_of_mem_set member with old | new
  · exact verdicts other old
  · rw [new]
    exact Or.inr finishing

theorem Judged.runProcess (judged : Judged worker)
    (checkable : ∀ item ∈ process.items, item.IsCheckable)
    (readings : Nat → Instant) (now : Instant) :
    Judged (worker.runProcess environment number process readings now) := by
  have kept := markLive_all_kept checkable
  have runs :=
    runProcess_runs environment worker number process readings now
  generalize worker.runProcess environment number process readings now =
    result at runs
  cases runs with
  | expires split unchecked late =>
      exact judged.setUnended rfl rfl
  | ends nothingLive =>
      refine judged.setProcess ?_
      intro how ended
      cases ended
      exact ⟨by simp, fun item member =>
        Or.inl (gone_of_noneLive kept nothingLive item member)⟩
  | enters someLive inside =>
      exact judged.setUnended rfl rfl
  | queues someLive outside =>
      exact judged.setUnended rfl rfl

/-- The `gather` ends when each item has its verdict. -/
theorem hasVerdict_of_inGather {calm : Prop} {item : Item Body}
    (gathered : item.InGather calm)
    (begun : Process.finishBegun item = true) : item.HasVerdict := by
  rcases gathered with gone | ⟨outcome, scheduled⟩ |
    ⟨settling, finishing, _⟩
  · exact Or.inl gone
  · rw [Process.finishBegun, scheduled] at begun
    cases begun
  · exact Or.inr ⟨settling, finishing⟩

theorem finishBegun_of_over {item : Item Body}
    (isOver : Process.itemOver item = true) :
    Process.finishBegun item = true := by
  unfold Process.finishBegun
  split
  · next scheduled =>
      rw [Process.itemOver, scheduled] at isOver
      cases isOver
  · rfl

theorem Judged.endGather (judged : Judged worker)
    (shaped : process.Shaped False) (state : process.state = .gathering)
    (finished : process.items.all Process.itemOver = true ∨
      process.items.any Process.finishRaised = true ∧
        process.items.all Process.finishBegun = true) {how : Ending}
    (uncancelled : how ≠ .cancelled) :
    Judged (worker.endProcess number process how) := by
  rw [Process.Shaped, state] at shaped
  refine judged.setProcess ?_
  intro _ ended
  cases ended
  refine ⟨uncancelled, fun item member => ?_⟩
  refine hasVerdict_of_inGather (shaped item member) ?_
  rcases finished with isOver | ⟨_, begun⟩
  · exact finishBegun_of_over (List.all_eq_true.mp isOver item member)
  · exact List.all_eq_true.mp begun item member

theorem Judged.answerExpiry (judged : Judged worker)
    (shaped : process.Shaped False) {position : Nat}
    (state : process.state = .expiring position) {item : Item Body}
    (itemFound : process.items[position]? = some item)
    {settling : Settling Body} {call : BrokerCall} {how : Ending}
    (awaited : settling.call? = some call)
    (quiet : call ≠ .publish → how ≠ .raised)
    (uncancelled : how ≠ .cancelled) (readings : Nat → Instant)
    (now : Instant) :
    Judged (worker.answerExpiry environment number process position item
      settling how readings now) := by
  have inside := (List.getElem?_eq_some_iff.mp itemFound).1
  rw [Process.Shaped, state] at shaped
  obtain ⟨_, others⟩ := shaped
  have unended : process.state.isEnded = false := by
    rw [state]
    rfl
  have answered : ∀ segment,
      Judged (worker.answeredExpiry number process position item segment) :=
    fun segment => judged.setProcess (Process.judged_of_unended unended)
  have goesOn :
      (settling.resume process.lane item.delivery.message how).1 =
          .ended .returned ∨
        (settling.resume process.lane item.delivery.message
          how).1.IsPending :=
    resume_quiet awaited quiet uncancelled
  have answers := answerExpiry_answers environment worker number process
    position item settling how readings now
  generalize worker.answerExpiry environment number process position item
    settling how readings now = result at answers
  generalize settling.resume process.lane item.delivery.message how =
    segment at answers goesOn
  cases answers with
  | continues returned =>
      refine (answered _).runProcess ?_ readings now
      intro other member
      obtain ⟨index, otherFound⟩ := List.mem_iff_getElem?.mp member
      by_cases own : index = position
      · rw [own, List.getElem?_set_self inside] at otherFound
        cases otherFound
        exact Or.inr (Or.inr (congrArg ItemState.expiring returned))
      · rw [List.getElem?_set_ne (Ne.symm own)] at otherFound
        exact others index other otherFound own
  | leaves failed ended =>
      rcases goesOn with returned | ⟨other, pending⟩
      · rw [returned] at ended
        cases ended
        exact False.elim (failed rfl)
      · rw [ended] at pending
        cases pending
  | awaits pending =>
      exact answered _

/-- Every quiet step keeps the verdicts. -/
theorem Judged.step (judged : Judged worker)
    (shaped : Shaped (fun _ => False) worker)
    (graced : worker.graceExpired = false) {action : WorkerAction Body}
    (quiet : action.Quiet)
    (taken : WorkerStep environment worker action after) : Judged after := by
  have unexpired : worker.graceExpired ≠ true := by
    rw [graced]
    exact Bool.false_ne_true
  cases taken with
  | receive consuming connected fresh =>
      unfold Worker.receive
      dsimp only
      split <;> exact judged.same rfl
  | takeBatch loop running ready =>
      exact judged.create _ _ rfl
  | @startProcess number process readings now found state running =>
      have own := shaped number process found
      rw [Process.Shaped, state] at own
      exact judged.runProcess
        (fun item member => Or.inl (own item member)) readings now
  | answerExpiry found state itemFound itemState awaited running =>
      exact judged.answerExpiry (shaped _ _ found) state itemFound awaited
        quiet (fun cancelled => unexpired (running.mp cancelled)) _ _
  | enterSlot found state running resolved =>
      exact judged.setUnended rfl rfl
  | endThread found finished =>
      unfold Worker.endThread
      dsimp only
      split
      · split
        · exact judged.setUnended rfl rfl
        · exact judged.same rfl
      · exact judged.same rfl
  | collectOutcomes found state running =>
      exact judged.setUnended rfl rfl
  | startFinish found itemFound itemState running =>
      exact (judged.setItem found _ ⟨_, rfl⟩).same rfl
  | answerFinish found itemFound itemState awaited running cancelled =>
      exact (judged.setItem found _ ⟨_, rfl⟩).same rfl
  | cancelFinish found itemFound itemState cancelled =>
      exact judged.setItem found _ ⟨_, rfl⟩
  | endGather found state finished =>
      refine judged.endGather (shaped _ _ found) state finished ?_
      rw [Worker.gatherEnding, graced, if_neg Bool.false_ne_true]
      split <;> simp
  | cancelProcess found state cancelled =>
      exact False.elim (unexpired cancelled)
  | drainBatch draining =>
      exact judged.create _ _ rfl
  | drainedBatch draining found state =>
      unfold Worker.drainedBatch
      split <;> exact judged.same rfl
  | _ =>
      exact judged.same rfl

end Verdicts

/-- What holds of a worker after every quiet run: the verdicts, and unless a
drain has failed, the order of the shutdown. -/
structure VerdictSound {Body : Type} (environment : Environment Body)
    (workerId : PyStr) (worker : Worker Body) : Prop where
  sound : WorkerSound environment workerId (fun _ _ => True) Attributed
    worker
  graced : worker.graceExpired = false
  shaped : Shaped (fun _ => False) worker
  judged : Judged worker
  orderly : worker.main = .failed ∨ Orderly worker

section Runs

variable {Body : Type} {environment : Environment Body} {workerId : PyStr}
  {worker after : Worker Body}

theorem verdictSound_start (lanes : List LaneName) :
    VerdictSound environment workerId
      (Worker.start Body workerId lanes) where
  sound := workerSound_start lanes
  graced := rfl
  shaped := by
    intro number process found
    cases found
  judged := by
    intro process member
    cases member
  orderly := Or.inr (orderly_start workerId lanes)

/-- A quiet drain goes on only after batches that returned. -/
theorem drainReturns_of_kept (judged : Judged worker)
    (graced : worker.graceExpired = false) {timeoutError : Bool}
    (quiet : timeoutError = false)
    (taken : WorkerStep environment worker (.drainedBatch timeoutError)
      after)
    (kept : after.main ≠ .failed) : DrainReturns worker := by
  intro number batches lanes process how draining found state
  cases taken with
  | drainedBatch before otherFound otherState =>
      rw [draining] at before
      cases before
      rw [found] at otherFound
      cases otherFound
      rw [state] at otherState
      cases otherState
      have uncancelled :=
        (judged process (List.mem_of_getElem? found) how state).1
      cases how with
      | returned =>
          rfl
      | raised =>
          refine False.elim (kept ?_)
          simp [Worker.drainedBatch, Worker.drainFailure, graced, quiet]
      | cancelled =>
          exact False.elim (uncancelled rfl)

theorem VerdictSound.step
    (verdictSound : VerdictSound environment workerId worker)
    {action : WorkerAction Body} (quiet : action.Quiet)
    (taken : WorkerStep environment worker action after) :
    VerdictSound environment workerId after := by
  have graced := verdictSound.graced
  have inGrace : action ≠ .graceOver := by
    intro same
    rw [same] at quiet
    exact quiet
  exact
    { sound := by
        refine verdictSound.sound.step (splitsGood_attributed _) ?_ taken
        cases action <;> exact trivial
      graced := (graceExpired_step inGrace taken).trans graced
      shaped := verdictSound.shaped.step verdictSound.sound.outcomes
        (fun _ calm => calm.elim) (fun _ calm => calm.elim) taken
      judged :=
        verdictSound.judged.step verdictSound.shaped graced quiet taken
      orderly := by
        rcases verdictSound.orderly with failed | orderly
        · exact Or.inl (failed_stays taken failed)
        · by_cases fails : after.main = .failed
          · exact Or.inl fails
          · refine Or.inr (orderly.step graced inGrace ?_ taken)
            rintro timeoutError rfl
            exact drainReturns_of_kept verdictSound.judged graced quiet
              taken fails }

/-- Once the connection is closed, nothing waits for its verdict. -/
theorem VerdictSound.closed
    (verdictSound : VerdictSound environment workerId worker)
    (closed : worker.main = .closed) :
    worker.Emptied ∧ worker.abandoned = [] := by
  have orderly : Orderly worker := by
    refine verdictSound.orderly.resolve_left ?_
    rw [closed]
    simp
  have emptied := orderly.stage
  rw [Stage, closed] at emptied
  exact ⟨emptied, orderly.abandoned⟩

end Runs

end EmbeddingService
