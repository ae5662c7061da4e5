import Mathlib.Algebra.BigOperators.Ring.Finset
import EmbeddingService.EncodeCosts
import EmbeddingService.Worker.Expiry
import EmbeddingService.Worker.ProcessedBatches

/-!
# One tenure of the slot

From the step in which a batch gets the slot to the one in which it leaves it,
the engine is called by the thread of that batch alone.  So the texts passed
to the engine in a tenure are those of one encode, with its retry.
-/

namespace EmbeddingService

open LabelledRuns CallProgram

section Moves

variable {Body : Type} {environment : Environment Body}
  {worker after : Worker Body} {number : Nat} {process : Process Body}

/-- A batch awaits its thread, or the thread has returned and the batch has
not gone on yet. -/
def Worker.Encodes (worker : Worker Body) (number : Nat) : Prop :=
  ∃ outcomes, worker.processState number = some (.encoding outcomes)

/-- The call of the engine that a step answers. -/
def WorkerAction.encodeReply? :
    WorkerAction Body → Option (EncodeCall × EngineReply)
  | .engineReplies _ request reply => some (request, reply)
  | _ => none

/-- A batch that encodes after a step did so before, in the same state. -/
def KeepsEncoding (worker after : Worker Body) (number : Nat) : Prop :=
  ∀ outcomes, after.processState number = some (.encoding outcomes) →
    worker.processState number = some (.encoding outcomes)

/-- The thread that a batch starts. -/
def encodeThread (environment : Environment Body) (workerId : PyStr)
    (number : Nat) (process : Process Body) : EncodeThread :=
  { process := number
    program :=
      encodeJobsIsolatingFailures environment.engine (some workerId)
        (Process.liveJobs process.items) }

/-- What a step of the event loop does to the encodes: nothing, or one batch
starts its thread. -/
inductive EncodeMove (environment : Environment Body)
    (worker after : Worker Body) : Prop
  | quiet (threads : after.threads = worker.threads)
      (keeps : ∀ number, KeepsEncoding worker after number)
  | starts {number : Nat} {started : Process Body}
      (outside : ¬ worker.Encodes number)
      (found : after.processes[number]? = some started)
      (state : started.state = .encoding none)
      (threads : after.threads = worker.threads ++
        [encodeThread environment worker.workerId number started])
      (keeps : ∀ other, other ≠ number → KeepsEncoding worker after other)

theorem keepsEncoding_refl (worker : Worker Body) (number : Nat) :
    KeepsEncoding worker worker number :=
  fun _ state => state

theorem KeepsEncoding.encodes (keeps : KeepsEncoding worker after number)
    (has : after.Encodes number) : worker.Encodes number := by
  obtain ⟨outcomes, state⟩ := has
  exact ⟨outcomes, keeps outcomes state⟩

/-- A step before which nothing moved. -/
theorem EncodeMove.after_quiet {middle : Worker Body}
    (move : EncodeMove environment middle after)
    (threads : middle.threads = worker.threads)
    (workerId : middle.workerId = worker.workerId)
    (keeps : ∀ number, KeepsEncoding worker middle number)
    (kept : ∀ number, worker.Encodes number → middle.Encodes number) :
    EncodeMove environment worker after := by
  cases move with
  | quiet same later =>
      exact .quiet (same.trans threads)
        (fun number outcomes state =>
          keeps number outcomes (later number outcomes state))
  | starts outside found state started later =>
      rw [threads, workerId] at started
      exact .starts (fun has => outside (kept _ has)) found state started
        (fun other different outcomes state =>
          keeps other outcomes (later other different outcomes state))

/-- A process is set to a state in which it does not newly encode. -/
theorem keepsEncoding_setProcess
    (found : worker.processes[number]? = some process)
    {updated : Process Body}
    (processes : after.processes = worker.processes.set number updated)
    (same : ∀ outcomes, updated.state = .encoding outcomes →
      process.state = .encoding outcomes) (other : Nat) :
    KeepsEncoding worker after other := by
  intro outcomes state
  have states : after.processState other =
      (worker.setProcess number updated).processState other := by
    rw [Worker.processState, processes]
    rfl
  rw [states, processState_setProcess found] at state
  by_cases own : other = number
  · rw [if_pos own] at state
    rw [own, processState_of_found found,
      same outcomes (Option.some.inj state)]
  · rw [if_neg own] at state
    exact state

theorem not_encodes (found : worker.processes[number]? = some process)
    (idle : ∀ outcomes, process.state ≠ .encoding outcomes) :
    ¬ worker.Encodes number := by
  rintro ⟨outcomes, state⟩
  rw [processState_of_found found] at state
  exact idle outcomes (Option.some.inj state)

/-- A batch that does not encode starts its thread. -/
theorem encodeMove_startEncode
    (found : worker.processes[number]? = some process)
    (idle : ∀ outcomes, process.state ≠ .encoding outcomes)
    (slot : SlotSystem Nat) (started : Process Body) (now : Instant) :
    EncodeMove environment worker
      ({ worker with slot := slot }.startEncode environment number started
        now) := by
  have inside := (List.getElem?_eq_some_iff.mp found).1
  refine .starts (not_encodes found idle) (List.getElem?_set_self inside)
    rfl rfl ?_
  intro other different outcomes state
  have states : ({ worker with slot := slot }.startEncode environment number
      started now).processState other =
        (worker.setProcess number
          { started with state := .encoding none }).processState other :=
    rfl
  rw [states, processState_setProcess found, if_neg different] at state
  exact state

theorem encodeMove_runProcess
    (found : worker.processes[number]? = some process)
    (idle : ∀ outcomes, process.state ≠ .encoding outcomes)
    (readings : Nat → Instant) (now : Instant) :
    EncodeMove environment worker
      (worker.runProcess environment number process readings now) := by
  have runs :=
    runProcess_runs environment worker number process readings now
  generalize worker.runProcess environment number process readings now =
    result at runs
  cases runs with
  | expires split unchecked late =>
      exact .quiet rfl (keepsEncoding_setProcess found rfl
        (fun _ state => nomatch state))
  | ends nothingLive =>
      exact .quiet rfl (keepsEncoding_setProcess found rfl
        (fun _ state => nomatch state))
  | enters someLive inside =>
      exact encodeMove_startEncode found idle _ _ now
  | queues someLive outside =>
      exact .quiet rfl (keepsEncoding_setProcess found rfl
        (fun _ state => nomatch state))

theorem encodeMove_answerExpiry
    (found : worker.processes[number]? = some process) {position : Nat}
    (state : process.state = .expiring position) (item : Item Body)
    (settling : Settling Body) (how : Ending) (readings : Nat → Instant)
    (now : Instant) :
    EncodeMove environment worker
      (worker.answerExpiry environment number process position item settling
        how readings now) := by
  have idle : ∀ outcomes, process.state ≠ .encoding outcomes := by
    intro outcomes encoding
    rw [state] at encoding
    cases encoding
  have answered : ∀ segment other, KeepsEncoding worker
      (worker.answeredExpiry number process position item segment) other :=
    fun segment => keepsEncoding_setProcess found rfl
      (fun _ same => same)
  have kept : ∀ segment other, worker.Encodes other →
      (worker.answeredExpiry number process position item
        segment).Encodes other := by
    rintro segment other ⟨outcomes, encoding⟩
    refine ⟨outcomes, ?_⟩
    have states : (worker.answeredExpiry number process position item
        segment).processState other = _ :=
      processState_setProcess found _ other
    rw [states]
    by_cases own : other = number
    · rw [own, processState_of_found found] at encoding
      exact False.elim (idle outcomes (Option.some.inj encoding))
    · rw [if_neg own]
      exact encoding
  have foundAfter := answeredExpiry_found found position item
    (settling.resume process.lane item.delivery.message how)
  have answers := answerExpiry_answers environment worker number process
    position item settling how readings now
  generalize worker.answerExpiry environment number process position item
    settling how readings now = result at answers
  cases answers with
  | continues returned =>
      exact (encodeMove_runProcess foundAfter idle readings now).after_quiet
        rfl rfl (answered _) (kept _)
  | leaves failed ended =>
      refine @EncodeMove.after_quiet Body environment worker _
        (worker.answeredExpiry number process position item
          (settling.resume process.lane item.delivery.message how))
        (.quiet rfl ?_) rfl rfl (answered _) (kept _)
      exact keepsEncoding_setProcess foundAfter rfl
        (fun _ state => nomatch state)
  | awaits pending =>
      exact .quiet rfl (answered _)

/-- A new task does not encode. -/
theorem keepsEncoding_append {created : Process Body}
    (state : created.state = .created)
    (processes : after.processes = worker.processes ++ [created])
    (number : Nat) : KeepsEncoding worker after number := by
  intro outcomes encoding
  have states : after.processState number =
      ({ worker with processes := worker.processes ++ [created]
        }).processState number := by
    rw [Worker.processState, processes]
    rfl
  rw [states, processState_append] at encoding
  split at encoding
  · rw [state] at encoding
    cases encoding
  · exact encoding

/-- What a step does to the encodes: a move of the event loop, an answer to a
call of a thread, or the end of a thread. -/
inductive EncodeStep (environment : Environment Body)
    (worker after : Worker Body) : WorkerAction Body → Prop
  | moves {action : WorkerAction Body} (silent : action.encodeReply? = none)
      (move : EncodeMove environment worker after) :
      EncodeStep environment worker after action
  | replies {position : Nat} {thread : EncodeThread} {request : EncodeCall}
      {reply : EngineReply}
      (found : worker.threads[position]? = some thread)
      (calls : thread.program.request? = some request)
      (threads : after.threads = worker.threads.set position
        { thread with program := thread.program.answer reply })
      (states : after.processState = worker.processState) :
      EncodeStep environment worker after
        (.engineReplies position request reply)
  | ends {position : Nat} {thread : EncodeThread}
      {outcomes : List Outcome}
      (found : worker.threads[position]? = some thread)
      (finished : thread.program.value? = some outcomes)
      (same : after = worker.endThread position thread outcomes) :
      EncodeStep environment worker after (.endThread position)

theorem encodeStep_of_step {action : WorkerAction Body}
    (taken : WorkerStep environment worker action after) :
    EncodeStep environment worker after action := by
  cases taken with
  | receive consuming connected fresh =>
      refine .moves rfl ?_
      unfold Worker.receive
      dsimp only
      split <;> exact .quiet rfl (keepsEncoding_refl worker)
  | takeBatch loop running ready =>
      exact .moves rfl (.quiet rfl (keepsEncoding_append rfl rfl))
  | @startProcess number process readings now found state running =>
      exact .moves rfl
        (encodeMove_runProcess found (by simp [state]) readings now)
  | answerExpiry found state itemFound itemState awaited running =>
      exact .moves rfl (encodeMove_answerExpiry found state _ _ _ _ _)
  | enterSlot found state running resolved =>
      exact .moves rfl
        (encodeMove_startEncode found (by simp [state]) _ _ _)
  | engineReplies found calls =>
      exact .replies found calls rfl rfl
  | endThread found finished =>
      exact .ends found finished rfl
  | collectOutcomes found state running =>
      exact .moves rfl (.quiet rfl (keepsEncoding_setProcess found rfl
        (fun _ state => nomatch state)))
  | startFinish found itemFound itemState running =>
      exact .moves rfl (.quiet rfl (keepsEncoding_setProcess found rfl
        (fun _ same => same)))
  | answerFinish found itemFound itemState awaited running cancelled =>
      exact .moves rfl (.quiet rfl (keepsEncoding_setProcess found rfl
        (fun _ same => same)))
  | cancelFinish found itemFound itemState cancelled =>
      exact .moves rfl (.quiet rfl (keepsEncoding_setProcess found rfl
        (fun _ same => same)))
  | endGather found state finished =>
      exact .moves rfl (.quiet rfl (keepsEncoding_setProcess found rfl
        (fun _ state => nomatch state)))
  | cancelProcess found state cancelled =>
      exact .moves rfl (.quiet rfl (keepsEncoding_setProcess found rfl
        (fun _ state => nomatch state)))
  | drainBatch draining =>
      exact .moves rfl (.quiet rfl (keepsEncoding_append rfl rfl))
  | drainedBatch draining found state =>
      refine .moves rfl ?_
      unfold Worker.drainedBatch
      split <;> exact .quiet rfl (keepsEncoding_refl worker)
  | _ =>
      exact .moves rfl (.quiet rfl (keepsEncoding_refl worker))

/-- The end of a thread starts no encode. -/
theorem encodes_endThread {position : Nat} {thread : EncodeThread}
    {outcomes : List Outcome}
    (has : (worker.endThread position thread outcomes).Encodes number) :
    worker.Encodes number := by
  unfold Worker.endThread at has
  dsimp only at has
  split at has
  · next process found =>
      split at has
      · next encoding =>
          obtain ⟨others, state⟩ := has
          have states : (({ worker with
              threads := worker.threads.eraseIdx position
                } : Worker Body).setProcess thread.process
              { process with state := .encoding (some outcomes)
                }).processState number = _ :=
            processState_setProcess found _ number
          rw [states] at state
          by_cases own : number = thread.process
          · rw [own]
            refine ⟨none, ?_⟩
            rw [processState_of_found found, encoding]
          · rw [if_neg own] at state
            exact ⟨others, state⟩
      · exact has
  · exact has

end Moves

section Tenures

variable {Body : Type} {environment : Environment Body}
  {worker after : Worker Body} {number : Nat}

/-- A batch is in the body of `async with self._slot.acquire(…)`. -/
def Worker.HasSlot (worker : Worker Body) (number : Nat) : Prop :=
  worker.slot.callers number = .inside

/-- A step in which a batch gets the slot. -/
def EntersSlot (environment : Environment Body) (number : Nat)
    (worker : Worker Body) (action : WorkerAction Body)
    (after : Worker Body) : Prop :=
  WorkerStep environment worker action after ∧
    ¬ worker.HasSlot number ∧ after.HasSlot number

/-- A step after which a batch has the slot. -/
def TenureStep (environment : Environment Body) (number : Nat)
    (worker : Worker Body) (action : WorkerAction Body)
    (after : Worker Body) : Prop :=
  WorkerStep environment worker action after ∧ after.HasSlot number

/-- The calls of the engine that a run answers. -/
def encodeReplies (actions : List (WorkerAction Body)) :
    List (EncodeCall × EngineReply) :=
  actions.filterMap WorkerAction.encodeReply?

/-- The texts passed to the engine: those of the calls that a run answered,
and those of the calls under way. -/
def textsPassed (actions : List (WorkerAction Body))
    (worker : Worker Body) : Nat :=
  spent EncodeCall.size (encodeReplies actions) +
    (worker.threads.map (fun thread =>
      underWay EncodeCall.size thread.program)).sum

/-- The batch that has the slot is the one that encodes. -/
theorem Exclusion.hasSlot_iff (exclusion : Exclusion worker) :
    worker.HasSlot number ↔ worker.Encodes number := by
  rw [Worker.HasSlot, exclusion.callers]
  constructor
  · intro inside
    unfold expectedCaller at inside
    split at inside
    · split at inside <;> cases inside
    · next outcomes state =>
        exact ⟨outcomes, state⟩
    · cases inside
  · rintro ⟨outcomes, state⟩
    rw [state]
    rfl

/-- A batch that gets the slot starts the only thread there is. -/
theorem entersSlot_starts (exclusion : Exclusion worker)
    {action : WorkerAction Body}
    (enters : EntersSlot environment number worker action after) :
    ∃ started, after.processes[number]? = some started ∧
      started.state = .encoding none ∧
      after.threads =
        [encodeThread environment worker.workerId number started] := by
  obtain ⟨taken, outside, has⟩ := enters
  rw [exclusion.hasSlot_iff] at outside
  rw [(exclusion.step taken).hasSlot_iff] at has
  cases encodeStep_of_step taken with
  | moves silent move =>
      cases move with
      | quiet threads keeps =>
          exact False.elim (outside ((keeps number).encodes has))
      | @starts entered started notBefore found state threads keeps =>
          by_cases own : number = entered
          · subst own
            have alone := (exclusion.step taken).alone
            rw [threads, List.length_append, List.length_singleton] at alone
            have none : worker.threads = [] :=
              List.eq_nil_of_length_eq_zero (by omega)
            rw [none, List.nil_append] at threads
            exact ⟨started, found, state, threads⟩
          · exact False.elim (outside ((keeps number own).encodes has))
  | replies found calls threads states =>
      obtain ⟨outcomes, state⟩ := has
      rw [states] at state
      exact False.elim (outside ⟨outcomes, state⟩)
  | ends found finished same =>
      rw [same] at has
      exact False.elim (outside (encodes_endThread has))

/-- Where the encode of a tenure is, after the calls that were answered in
it: its thread is the only one, or has returned. -/
inductive TenureState (number : Nat) (program : EncodeProgram (List Outcome))
    (calls : List (EncodeCall × EngineReply)) (worker : Worker Body) : Prop
  | encoding {left : EncodeProgram (List Outcome)}
      (state : worker.processState number = some (.encoding none))
      (threads : worker.threads = [{ process := number, program := left }])
      (run : Run Exchanges program calls left)
  | encoded {left : EncodeProgram (List Outcome)} {outcomes : List Outcome}
      (state : worker.processState number =
        some (.encoding (some outcomes)))
      (threads : worker.threads = [])
      (run : Run Exchanges program calls left)
      (finished : left.request? = none)

variable {program : EncodeProgram (List Outcome)}
  {calls : List (EncodeCall × EngineReply)}

theorem TenureState.encodes
    (tenure : TenureState number program calls worker) :
    worker.Encodes number := by
  cases tenure with
  | encoding state threads run =>
      exact ⟨none, state⟩
  | encoded state threads run finished =>
      exact ⟨_, state⟩

/-- Two batches do not encode at once. -/
theorem Exclusion.encodes_unique (exclusion : Exclusion worker)
    {other : Nat} (encodes : worker.Encodes number)
    (otherEncodes : worker.Encodes other) : number = other := by
  have oneOwner := SlotSystem.oneOwner_of_reachable exclusion.slotReachable
  exact oneOwner.ownerUnique number other
    (Or.inl (exclusion.hasSlot_iff.mpr encodes))
    (Or.inl (exclusion.hasSlot_iff.mpr otherEncodes))

/-- The moves of the event loop leave the encode of a tenure alone. -/
theorem TenureState.move (tenure : TenureState number program calls worker)
    (move : EncodeMove environment worker after)
    (exclusion : Exclusion after) (has : after.Encodes number) :
    TenureState number program calls after := by
  cases move with
  | quiet threads keeps =>
      obtain ⟨outcomes, state⟩ := has
      have before := keeps number outcomes state
      cases tenure with
      | encoding encoding alone run =>
          rw [encoding] at before
          cases before
          exact .encoding state (threads.trans alone) run
      | encoded encoding alone run finished =>
          rw [encoding] at before
          cases before
          exact .encoded state (threads.trans alone) run finished
  | @starts entered started outside found state threads keeps =>
      have enteredHas : after.Encodes entered :=
        ⟨none, by rw [processState_of_found found, state]⟩
      rw [← exclusion.encodes_unique has enteredHas] at outside
      exact False.elim (outside tenure.encodes)

/-- The only thread is the one of the tenure. -/
theorem TenureState.thread (tenure : TenureState number program calls worker)
    {position : Nat} {thread : EncodeThread}
    (found : worker.threads[position]? = some thread) :
    position = 0 ∧ thread.process = number ∧ worker.threads = [thread] ∧
      worker.processState number = some (.encoding none) ∧
      Run Exchanges program calls thread.program := by
  cases tenure with
  | encoding state threads run =>
      rw [threads] at found
      cases position with
      | zero =>
          cases found
          exact ⟨rfl, rfl, threads, state, run⟩
      | succ later =>
          cases found
  | encoded state threads run finished =>
      rw [threads] at found
      cases found

/-- A step of a tenure adds the call that it answers to those of its
encode. -/
theorem TenureState.step (tenure : TenureState number program calls worker)
    {action : WorkerAction Body}
    (taken : TenureStep environment number worker action after)
    (exclusion : Exclusion after) :
    TenureState number program (calls ++ action.encodeReply?.toList)
      after := by
  obtain ⟨step, has⟩ := taken
  rw [exclusion.hasSlot_iff] at has
  cases encodeStep_of_step step with
  | moves silent move =>
      rw [silent, Option.toList_none, List.append_nil]
      exact tenure.move move exclusion has
  | @replies position thread request reply found requested threads states =>
      obtain ⟨rfl, rfl, alone, encoding, run⟩ := tenure.thread found
      rw [alone] at threads
      refine .encoding ?_ threads (run.snoc ⟨requested, rfl⟩)
      rw [states]
      exact encoding
  | @ends position thread outcomes found finished same =>
      obtain ⟨rfl, rfl, alone, encoding, run⟩ := tenure.thread found
      obtain ⟨process, processFound, state⟩ :=
        Option.map_eq_some_iff.mp encoding
      have noCall := noCall_of_value finished
      have ended : after = ({ worker with threads := [] } :
          Worker Body).setProcess thread.process
            { process with state := .encoding (some outcomes) } := by
        rw [same, Worker.endThread, processFound, alone]
        dsimp only
        rw [state]
        rfl
      have encoded : after.processState thread.process =
          some (.encoding (some outcomes)) := by
        have states : (({ worker with threads := [] } :
            Worker Body).setProcess thread.process
              { process with state := .encoding (some outcomes)
                }).processState thread.process = _ :=
          processState_setProcess processFound _ thread.process
        rw [ended, states, if_pos rfl]
      have silent :
          (.endThread 0 : WorkerAction Body).encodeReply? = none :=
        rfl
      rw [silent, Option.toList_none, List.append_nil]
      refine .encoded encoded ?_ run noCall
      rw [ended]
      rfl

/-- The encode of a tenure, after every run of it. -/
theorem tenureState_of_run (exclusion : Exclusion worker)
    (tenure : TenureState number program [] worker)
    {actions : List (WorkerAction Body)}
    (run : Run (TenureStep environment number) worker actions after) :
    TenureState number program (encodeReplies actions) after := by
  have both : Exclusion after ∧
      TenureState number program (encodeReplies actions) after := by
    refine run.history (I := fun actions after => Exclusion after ∧
      TenureState number program (encodeReplies actions) after)
      ⟨exclusion, tenure⟩ ?_
    intro earlier before action next _ sound taken
    have nextExclusion := sound.1.step taken.1
    have stepped := sound.2.step taken nextExclusion
    refine ⟨nextExclusion, ?_⟩
    have replies : encodeReplies (earlier ++ [action]) =
        encodeReplies earlier ++ action.encodeReply?.toList := by
      unfold encodeReplies
      rw [List.filterMap_append, List.filterMap_cons]
      cases action.encodeReply? <;> rfl
    rw [replies]
    exact stepped
  exact both.2

/-- The texts passed to the engine in a tenure are within the total of its
encode, and make it up once its thread has returned. -/
theorem TenureState.textsPassed {workerId : Option PyStr}
    {jobs : List EmbeddingJob} {inputType : InputType} {normalize : Bool}
    (sharing : Sharing inputType normalize jobs)
    {actions : List (WorkerAction Body)}
    (tenure : TenureState number
      (encodeJobsIsolatingFailures environment.engine workerId jobs)
      (encodeReplies actions) worker) :
    textsPassed actions worker ≤ encodeTotal jobs (encodeReplies actions) ∧
      ∀ outcomes,
        worker.processState number = some (.encoding (some outcomes)) →
          textsPassed actions worker =
            encodeTotal jobs (encodeReplies actions) := by
  unfold EmbeddingService.textsPassed
  cases tenure with
  | encoding state threads run =>
      rw [threads]
      refine ⟨?_, ?_⟩
      · simpa using (isolating_spent sharing run).1
      · intro outcomes returned
        rw [state] at returned
        cases returned
  | encoded state threads run finished =>
      have spent := (isolating_spent sharing run).2 finished
      rw [threads]
      exact ⟨by simp [spent], fun _ _ => by simp [spent]⟩

end Tenures

section Bounds

variable {Body : Type} {environment : Environment Body}
  {worker after : Worker Body} {number : Nat} {process : Process Body}

/-- The size of the largest job of a batch. -/
def largestJob (items : List (Item Body)) : Nat :=
  (items.map (fun item => item.delivery.job.input.length)).foldr max 0

/-- The larger of `max_texts` and the largest job of the batch. -/
def Process.textBound (settings : Settings) (process : Process Body) :
    Nat :=
  max (laneSpecs settings process.lane).maxTexts.toNat
    (largestJob process.items)

theorem textCount_liveJobs_le (items : List (Item Body)) :
    textCount (Process.liveJobs items) ≤
      (items.map (fun item => item.delivery.job.input.length)).sum := by
  induction items with
  | nil =>
      exact Nat.le_refl 0
  | cons item rest inductionHypothesis =>
      rw [List.map_cons, List.sum_cons]
      by_cases live : item.state = .live
      · rw [Process.liveJobs_cons_live live, textCount_cons]
        exact Nat.add_le_add_left inductionHypothesis _
      · rw [Process.liveJobs_cons_of_ne live]
        omega

/-- The live jobs of a released batch share a key, and their texts are within
the bound. -/
theorem released_live
    (released : ReleasedTask environment.settings process.task) :
    (∃ inputType normalize,
      Sharing inputType normalize (Process.liveJobs process.items)) ∧
      textCount (Process.liveJobs process.items) ≤
        process.textBound environment.settings := by
  obtain ⟨batch, items, wellFormed⟩ := released
  have deliveries : batch.items = process.items.map Item.delivery := items
  refine ⟨⟨batch.key.1, batch.key.2, ?_⟩, ?_⟩
  · intro job member
    obtain ⟨item, itemMember, _, rfl⟩ := Process.mem_liveJobs_iff.mp member
    have inBatch : item.delivery ∈ batch.items := by
      rw [deliveries]
      exact List.mem_map_of_mem itemMember
    have ownKey := wellFormed.sameKey item.delivery inBatch
    exact ⟨congrArg Prod.fst ownKey, congrArg Prod.snd ownKey⟩
  · refine (textCount_liveJobs_le process.items).trans ?_
    have counted : batch.texts =
        ((process.items.map (fun item =>
          item.delivery.job.input.length)).sum : Nat) := by
      rw [wellFormed.texts, MicroBatcherConfig.textsOf, deliveries,
        List.map_map, Nat.cast_list_sum, List.map_map]
      rfl
    rcases wellFormed.bounded with within | ⟨delivery, single⟩
    · rw [counted] at within
      change _ ≤ (laneSpecs environment.settings process.lane).maxTexts
        at within
      refine Nat.le_trans ?_ (Nat.le_max_left _ _)
      omega
    · rw [deliveries] at single
      obtain ⟨item, items, rfl⟩ := List.map_eq_singleton_iff.mp single
      rw [Process.textBound, items]
      refine Nat.le_trans ?_ (Nat.le_max_right _ _)
      simp [largestJob]

/-- In every run, from the step in which a batch gets the slot up to its
release, the texts passed to the engine are within the larger of `max_texts`
and the largest job of the batch, if one job at most is live, the first call
does not raise, or the bound is wide enough for the texts of the live jobs
twice.  Once the thread of the batch has returned, they are within it in these
cases alone. -/
theorem tenureTexts_le_iff {workerId : PyStr} {lanes : List LaneName}
    {before entered after : Worker Body} {number : Nat}
    {process : Process Body} {action : WorkerAction Body}
    {actions : List (WorkerAction Body)}
    (reachable : Reachable (WorkerStep environment)
      (Worker.start Body workerId lanes) before)
    (enters : EntersSlot environment number before action entered)
    (found : entered.processes[number]? = some process)
    (tenure : Run (TenureStep environment number) entered actions after) :
    let jobs := Process.liveJobs process.items
    let bound := process.textBound environment.settings
    let fits := jobs.length ≤ 1 ∨
      FirstEncodeReturns (encodeReplies actions) ∨
        2 * textCount jobs ≤ bound
    (fits → textsPassed actions after ≤ bound) ∧
      ∀ outcomes,
        after.processState number = some (.encoding (some outcomes)) →
          (textsPassed actions after ≤ bound ↔ fits) := by
  intro jobs bound fits
  have exclusion := exclusion_of_reachable reachable
  obtain ⟨started, startedFound, state, threads⟩ :=
    entersSlot_starts exclusion enters
  rw [found] at startedFound
  cases startedFound
  have task : entered.task? number = some process.task := by
    rw [Worker.task?, found]
    rfl
  have released := ((batchesSound_of_reachable reachable).step
    enters.1).tasks number process.task task
  obtain ⟨⟨inputType, normalize, sharing⟩, within⟩ :=
    released_live released
  have encoding : entered.processState number = some (.encoding none) := by
    rw [processState_of_found found, state]
  have reached := tenureState_of_run (exclusion.step enters.1)
    (.encoding encoding threads (Run.nil _)) tenure
  obtain ⟨passed, returned⟩ := reached.textsPassed sharing
  have fitsTotal : encodeTotal jobs (encodeReplies actions) ≤ bound ↔
      fits :=
    encodeTotal_le_iff within _
  refine ⟨fun fit => passed.trans (fitsTotal.mpr fit), ?_⟩
  intro outcomes ended
  rw [returned outcomes ended]
  exact fitsTotal

end Bounds

/-- A worker whose loop has just got a batch of two jobs of one text. -/
def pairWorker : Worker Json :=
  let serving :=
    ((Worker.start Json (pyStr "worker") [.index]).setLane .index
      { consuming := true })
  let received :=
    (({ serving with main := .starting [] }.setLoop .index
      .waiting).receive pairsEnvironment .index (timedMessage 0 1000) [] 0
        0).receive pairsEnvironment .index (timedMessage 1 1000) [] 0 0
  match (received.lane .index).batcher.takeReady
      (batcherConfig pairsEnvironment.settings .index) 0 with
  | some (batch, rest) => received.takeBatch .index batch rest
  | none => received

theorem pairWorker_reachable :
    Reachable (WorkerStep pairsEnvironment)
      (Worker.start Json (pyStr "worker") [.index]) pairWorker := by
  have received := ((((Reachable.refl (Worker.start Json
    (pyStr "worker") [.index])).tail
    (.consume rfl)).tail (.startLoop rfl rfl)).tail
    (@WorkerStep.receive Json pairsEnvironment _ .index
      (timedMessage 0 1000) [] 0 0 rfl rfl
      (fun _ member => nomatch member))).tail
    (@WorkerStep.receive Json pairsEnvironment _ .index
      (timedMessage 1 1000) [] 0 0 rfl rfl
      (List.forall_mem_singleton.mpr (by decide)))
  have taken := received.tail
    (@WorkerStep.takeBatch Json pairsEnvironment _ .index 0 _ _ rfl rfl
      rfl)
  exact taken

/-- The batch of two gets the slot at once. -/
def pairEntered : Worker Json :=
  match pairWorker.processes[0]? with
  | some process =>
      pairWorker.runProcess pairsEnvironment 0 process (fun _ => 0) 0
  | none => pairWorker

theorem pairEntered_enters :
    EntersSlot pairsEnvironment 0 pairWorker
      (.startProcess 0 (fun _ => 0) 0) pairEntered := by
  refine ⟨?_, ?_, rfl⟩
  · have taken := @WorkerStep.startProcess Json pairsEnvironment pairWorker
      0 _ (fun _ => 0) 0 rfl rfl rfl
    exact taken
  · intro inside
    cases inside

/-- The one call for the batch of two returns, and then its thread. -/
theorem tenureTexts_le_iff_returned :
    ∃ (process : Process Json) (actions : List (WorkerAction Json))
      (after : Worker Json) (outcomes : List Outcome),
      pairEntered.processes[0]? = some process ∧
      Run (TenureStep pairsEnvironment 0) pairEntered actions after ∧
      after.processState 0 = some (.encoding (some outcomes)) ∧
      textsPassed actions after ≤
        process.textBound pairsEnvironment.settings := by
  have combined : Run (TenureStep pairsEnvironment 0) pairEntered _ _ :=
    (Run.nil _).snoc
      ⟨@WorkerStep.engineReplies Json _ _ 0 _ _
        (.ok { embeddings := [[], []], truncated := [], tookMs := .zero })
        rfl rfl, rfl⟩
  have returned := combined.snoc
    ⟨@WorkerStep.endThread Json _ _ 0 _ _ rfl rfl, rfl⟩
  have bounded := (tenureTexts_le_iff pairWorker_reachable
    pairEntered_enters rfl returned).2 _ rfl
  exact ⟨_, _, _, _, rfl, returned, rfl,
    bounded.mpr (Or.inr (Or.inl trivial))⟩

/-- The one call for a batch of two raises, and its two jobs are retried in
the same tenure, the second with success: the engine is passed four texts,
where two is the bound. -/
theorem tenureTexts_fails_retried :
    ∃ (process : Process Json) (actions : List (WorkerAction Json))
      (after : Worker Json),
      Reachable (WorkerStep pairsEnvironment)
        (Worker.start Json (pyStr "worker") [.index]) pairWorker ∧
      EntersSlot pairsEnvironment 0 pairWorker
        (.startProcess 0 (fun _ => 0) 0) pairEntered ∧
      pairEntered.processes[0]? = some process ∧
      Run (TenureStep pairsEnvironment 0) pairEntered actions after ∧
      process.textBound pairsEnvironment.settings = 2 ∧
      textsPassed actions after = 4 := by
  have combined : Run (TenureStep pairsEnvironment 0) pairEntered _ _ :=
    (Run.nil _).snoc
      ⟨@WorkerStep.engineReplies Json _ _ 0 _ _ (.error ⟨[]⟩) rfl rfl,
        rfl⟩
  have first := combined.snoc
    ⟨@WorkerStep.engineReplies Json _ _ 0 _ _ (.error ⟨[]⟩) rfl rfl,
      rfl⟩
  have second := first.snoc
    ⟨@WorkerStep.engineReplies Json _ _ 0 _ _
      (.ok { embeddings := [[]], truncated := [], tookMs := .zero })
      rfl rfl, rfl⟩
  exact ⟨_, _, _, pairWorker_reachable, pairEntered_enters, rfl, second,
    rfl, rfl⟩

end EmbeddingService
