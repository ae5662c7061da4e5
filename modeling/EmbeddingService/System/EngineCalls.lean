import EmbeddingService.System.Acceptance
import EmbeddingService.System.FleetRuns
import EmbeddingService.Worker.Finishing
import EmbeddingService.Worker.Tenure

/-!
# The calls of the engine

Jobs are checked when they are parsed.  Batching, expiry and the retry of a
failed encode keep what was checked: the engine is only ever given texts of
whole jobs that arrived on one lane and share a key, within the limits.
-/

namespace EmbeddingService

open LabelledRuns CallProgram

/-- A call for some jobs: all their texts, with the key they share. -/
structure EncodeCall.Asks (call : EncodeCall) (jobs : List EmbeddingJob) :
    Prop where
  present : jobs ≠ []
  texts : call.texts = allTexts jobs
  sharing : Sharing call.inputType call.normalize jobs

/-- A call for some of the jobs. -/
def EncodeCall.AsksSome (jobs : List EmbeddingJob) (call : EncodeCall) :
    Prop :=
  ∃ asked, asked.Sublist jobs ∧ call.Asks asked

section Programs

variable {engine : EngineInfo} {workerId : Option PyStr}

/-- `encode_jobs` asks for all of its jobs, if for any. -/
theorem encodeJobs_callsOnly (jobs : List EmbeddingJob) :
    CallsOnly (fun call => call.Asks jobs)
      (encodeJobs engine workerId jobs) := by
  cases jobs with
  | nil =>
      trivial
  | cons first rest =>
      by_cases sharing :
          Sharing first.inputType first.normalize (first :: rest)
      · rw [encodeJobs_call sharing]
        refine ⟨?_, fun _ => trivial⟩
        exact
          { present := List.cons_ne_nil _ _
            texts := rfl
            sharing := sharing }
      · have mixed : (first :: rest).any (fun job =>
            job.inputType != first.inputType ||
              job.normalize != first.normalize) = true := by
          by_contra unmixed
          apply sharing
          intro job member
          have same := List.any_eq_false.mp
            (Bool.eq_false_iff.mpr unmixed) job member
          simpa using same
        rw [encodeJobs, if_pos mixed]
        trivial

/-- The retry loop asks for one job at a time. -/
theorem encodeOneByOne_callsOnly (jobs : List EmbeddingJob) :
    ∀ outcomes, CallsOnly (EncodeCall.AsksSome jobs)
      (encodeOneByOne engine workerId outcomes jobs) := by
  induction jobs with
  | nil =>
      intro outcomes
      trivial
  | cons job rest inductionHypothesis =>
      intro outcomes
      have alone : CallsOnly (EncodeCall.AsksSome (job :: rest))
          (encodeJobs engine workerId [job]) := by
        refine (encodeJobs_callsOnly [job]).mono ?_
        intro call asks
        exact ⟨[job], List.singleton_sublist.mpr List.mem_cons_self, asks⟩
      have later : ∀ outcomes, CallsOnly (EncodeCall.AsksSome (job :: rest))
          (encodeOneByOne engine workerId outcomes rest) := by
        intro outcomes
        refine (inductionHypothesis outcomes).mono ?_
        rintro call ⟨asked, sublist, asks⟩
        exact ⟨asked, sublist.cons job, asks⟩
      rw [encodeOneByOne]
      apply alone.andThen
      intro encoded
      cases encoded with
      | ok results =>
          exact later _
      | error raised =>
          exact later _

theorem encodeJobsIsolatingFailures_callsOnly (jobs : List EmbeddingJob) :
    CallsOnly (EncodeCall.AsksSome jobs)
      (encodeJobsIsolatingFailures engine workerId jobs) := by
  have together : CallsOnly (EncodeCall.AsksSome jobs)
      (encodeJobs engine workerId jobs) := by
    refine (encodeJobs_callsOnly jobs).mono ?_
    intro call asks
    exact ⟨jobs, List.Sublist.refl jobs, asks⟩
  unfold encodeJobsIsolatingFailures
  apply together.andThen
  intro encoded
  cases encoded with
  | ok results =>
      trivial
  | error raised =>
      dsimp only
      split
      · trivial
      · exact encodeOneByOne_callsOnly jobs []

end Programs

section Limits

variable {Body : Type} {environment : Environment Body}

/-- A parsed job has texts within the limits. -/
theorem ParsedAs.wellFormed {workerId : PyStr} {message : Message Body}
    {job : EmbeddingJob}
    (parsed : ParsedAs environment workerId message job) :
    WellFormedTexts environment.schemaSettings job.input := by
  obtain ⟨freshId, returned⟩ := parsed
  obtain ⟨entries, loaded, validated⟩ := parseJob_job returned
  obtain ⟨input, _⟩ := modelValidate_ok validated
  unfold requiredField at input
  split at input
  · cases input
  · exact (checkInput_iff.mp (ok_of_mapError input)).2

/-- A batch is within the limit of its lane or holds one delivery. -/
theorem ReleasedTask.bounded {settings : Settings} {process : Process Body}
    (released : ReleasedTask settings process.task) :
    (process.items.map (fun item => item.delivery.job.input.length)).sum ≤
        (laneSpecs settings process.lane).maxTexts.toNat ∨
      ∃ item, process.items = [item] := by
  obtain ⟨batch, items, wellFormed⟩ := released
  have deliveries : batch.items = process.items.map Item.delivery := items
  rcases wellFormed.bounded with within | ⟨delivery, single⟩
  · have counted : batch.texts =
        ((process.items.map (fun item =>
          item.delivery.job.input.length)).sum : Nat) := by
      rw [wellFormed.texts, MicroBatcherConfig.textsOf, deliveries,
        List.map_map, Nat.cast_list_sum, List.map_map]
      rfl
    rw [counted] at within
    change _ ≤ (laneSpecs settings process.lane).maxTexts at within
    left
    omega
  · rw [deliveries] at single
    obtain ⟨item, same, _⟩ := List.map_eq_singleton_iff.mp single
    exact Or.inr ⟨item, same⟩

theorem textCount_sublist {jobs others : List EmbeddingJob}
    (sublist : jobs.Sublist others) : textCount jobs ≤ textCount others := by
  induction sublist with
  | slnil =>
      exact Nat.le_refl _
  | cons job sublist inductionHypothesis =>
      rw [textCount_cons]
      omega
  | cons_cons job sublist inductionHypothesis =>
      rw [textCount_cons, textCount_cons]
      omega

end Limits

/-- The larger of `max_texts` of the lane and `max_batch_items`. -/
def callBound {Body : Type} (environment : Environment Body)
    (lane : LaneName) : Nat :=
  max (laneSpecs environment.settings lane).maxTexts.toNat
    environment.schemaSettings.maxBatchItems.toNat

/-- A job that was parsed from a message received on the lane. -/
def ArrivedJob {Body : Type} (environment : Environment Body)
    (workerId : PyStr) (received : List (LaneName × Message Body))
    (lane : LaneName) (job : EmbeddingJob) : Prop :=
  ∃ message, (lane, message) ∈ received ∧
    ParsedAs environment workerId message job

/-- A call that the engine may be given on a lane: for whole jobs that arrived
there, and within the limits. -/
structure CallWithinLimits {Body : Type} (environment : Environment Body)
    (workerId : PyStr) (received : List (LaneName × Message Body))
    (lane : LaneName) (call : EncodeCall) : Prop where
  jobs : ∃ jobs, call.Asks jobs ∧
    ∀ job ∈ jobs, ArrivedJob environment workerId received lane job
  present : call.texts ≠ []
  within : call.texts.length ≤ callBound environment lane
  notBlank : ∀ text ∈ call.texts, PyStr.isBlank text = false
  short : ∀ text ∈ call.texts,
    (text.length : Int) ≤ environment.schemaSettings.maxCharsPerText

section Calls

variable {Body : Type} {environment : Environment Body}
  {workerId : PyStr} {received : List (LaneName × Message Body)}
  {lane : LaneName} {call : EncodeCall} {jobs : List EmbeddingJob}

theorem ArrivedJob.wellFormed {job : EmbeddingJob}
    (arrived : ArrivedJob environment workerId received lane job) :
    WellFormedTexts environment.schemaSettings job.input := by
  obtain ⟨message, _, parsed⟩ := arrived
  exact parsed.wellFormed

/-- Calls for some of the jobs of a batch are within the limits if the batch
is. -/
theorem callWithinLimits_of_asksSome
    (arrived : ∀ job ∈ jobs,
      ArrivedJob environment workerId received lane job)
    (within : textCount jobs ≤ callBound environment lane)
    (asks : call.AsksSome jobs) :
    CallWithinLimits environment workerId received lane call := by
  obtain ⟨asked, sublist, asks⟩ := asks
  have askedArrived : ∀ job ∈ asked,
      ArrivedJob environment workerId received lane job :=
    fun job member => arrived job (sublist.subset member)
  have texts : ∀ text ∈ call.texts, ∃ job ∈ asked, text ∈ job.input := by
    intro text member
    rw [asks.texts, allTexts] at member
    exact List.mem_flatMap.mp member
  exact
    { jobs := ⟨asked, asks, askedArrived⟩
      present := by
        obtain ⟨job, member⟩ := List.exists_mem_of_ne_nil asked asks.present
        have wellFormed := (askedArrived job member).wellFormed
        obtain ⟨text, textMember⟩ :=
          List.exists_mem_of_ne_nil job.input wellFormed.present
        have passed : text ∈ call.texts := by
          rw [asks.texts, allTexts]
          exact List.mem_flatMap.mpr ⟨job, member, textMember⟩
        exact List.ne_nil_of_mem passed
      within := by
        rw [asks.texts]
        exact (textCount_sublist sublist).trans within
      notBlank := by
        intro text member
        obtain ⟨job, jobMember, textMember⟩ := texts text member
        exact (askedArrived job jobMember).wellFormed.notBlank text textMember
      short := by
        intro text member
        obtain ⟨job, jobMember, textMember⟩ := texts text member
        exact (askedArrived job jobMember).wellFormed.short text textMember }

theorem CallWithinLimits.mono {later : List (LaneName × Message Body)}
    (limits : CallWithinLimits environment workerId received lane call)
    (grows : received ⊆ later) :
    CallWithinLimits environment workerId later lane call := by
  obtain ⟨jobs, asks, arrived⟩ := limits.jobs
  exact
    { limits with
      jobs := by
        refine ⟨jobs, asks, ?_⟩
        intro job member
        obtain ⟨message, known, parsed⟩ := arrived job member
        exact ⟨message, grows known, parsed⟩ }

end Calls

section Workers

variable {Body : Type} {environment : Environment Body}
  {workerId : PyStr} {worker after : Worker Body}

/-- The threads of a worker make calls within the limits. -/
def CallsSound (environment : Environment Body) (workerId : PyStr)
    (worker : Worker Body) : Prop :=
  ∀ thread ∈ worker.threads, ∃ lane,
    CallsOnly (CallWithinLimits environment workerId
      worker.ledger.received lane) thread.program

/-- The live jobs of a process arrived on its lane. -/
theorem WorkerSound.live_arrived
    {Allowed : EncodeCall → EngineReply → Prop}
    {Good : EmbeddingJob → EmbeddingResult → Prop}
    (sound : WorkerSound environment workerId Allowed Good worker)
    {process : Process Body} (member : process ∈ worker.processes) :
    ∀ job ∈ Process.liveJobs process.items,
      ArrivedJob environment workerId worker.ledger.received process.lane
        job := by
  intro job live
  obtain ⟨item, itemMember, state, rfl⟩ := Process.mem_liveJobs_iff.mp live
  have has : worker.HasItem process.lane item :=
    ⟨process, member, rfl, itemMember⟩
  have agrees := sound.item_agrees has
  have held : item.phase = .held item.delivery.job := by
    rw [Item.phase, state]
  unfold Cell.Agrees Item.cell at agrees
  rw [held] at agrees
  exact ⟨item.delivery.message, sound.item_received has, agrees.1⟩

/-- The live jobs of a process are within the limits. -/
theorem liveTexts_le_callBound {process : Process Body}
    (released : ReleasedTask environment.settings process.task)
    (arrived : ∀ job ∈ Process.liveJobs process.items,
      ArrivedJob environment workerId worker.ledger.received process.lane
        job) :
    textCount (Process.liveJobs process.items) ≤
      callBound environment process.lane := by
  rcases released.bounded with within | ⟨item, single⟩
  · exact ((textCount_liveJobs_le process.items).trans within).trans
      (Nat.le_max_left _ _)
  · rw [single] at arrived ⊢
    by_cases live : item.state = .live
    · rw [Process.liveJobs_cons_live live] at arrived ⊢
      have fits := (arrived _ List.mem_cons_self).wellFormed.within
      rw [textCount_cons]
      change item.delivery.job.input.length + 0 ≤ _
      refine Nat.le_trans ?_ (Nat.le_max_right _ _)
      omega
    · rw [Process.liveJobs_cons_of_ne live]
      exact Nat.zero_le _

theorem CallsSound.step (sound : CallsSound environment workerId worker)
    {action : WorkerAction Body}
    (taken : WorkerStep environment worker action after)
    (next : WorkerSound environment workerId (fun _ _ => True) Attributed
      after)
    (batches : BatchesSound environment after) :
    CallsSound environment workerId after := by
  have grows : worker.ledger.received ⊆ after.ledger.received := by
    rw [received_step taken]
    exact List.subset_append_left _ _
  have kept : ∀ thread ∈ worker.threads, ∃ lane,
      CallsOnly (CallWithinLimits environment workerId
        after.ledger.received lane) thread.program := by
    intro thread member
    obtain ⟨lane, only⟩ := sound thread member
    exact ⟨lane, only.mono (fun call limits => limits.mono grows)⟩
  intro thread member
  cases encodeStep_of_step taken with
  | moves silent move =>
      cases move with
      | quiet threads keeps =>
          rw [threads] at member
          exact kept thread member
      | @starts number started outside found state threads keeps =>
          rw [threads] at member
          rcases List.mem_append.mp member with before | new
          · exact kept thread before
          · rw [List.mem_singleton.mp new]
            have task : after.task? number = some started.task := by
              rw [Worker.task?, found]
              rfl
            have arrived := next.live_arrived (List.mem_of_getElem? found)
            have within := liveTexts_le_callBound
              (batches.tasks number started.task task) arrived
            refine ⟨started.lane, ?_⟩
            refine (encodeJobsIsolatingFailures_callsOnly _).mono ?_
            intro call asks
            exact callWithinLimits_of_asksSome arrived within asks
  | @replies position answered request reply found calls threads states =>
      rw [threads] at member
      rcases List.mem_or_eq_of_mem_set member with before | same
      · exact kept thread before
      · obtain ⟨lane, only⟩ := kept answered (List.mem_of_getElem? found)
        rw [same]
        exact ⟨lane, only.answer reply⟩
  | @ends position ended outcomes found finished same =>
      have left : after.threads = worker.threads.eraseIdx position := by
        rw [same, Worker.endThread]
        split
        · split <;> rfl
        · rfl
      rw [left] at member
      exact kept thread (List.mem_of_mem_eraseIdx member)

theorem callsSound_of_reachable {lanes : List LaneName}
    (reached : Reachable (WorkerStep environment)
      (Worker.start Body workerId lanes) worker) :
    CallsSound environment workerId worker := by
  have invariant : WorkerSound environment workerId (fun _ _ => True)
        Attributed worker ∧
      BatchesSound environment worker ∧
      CallsSound environment workerId worker := by
    refine reached.invariant (I := fun worker =>
      WorkerSound environment workerId (fun _ _ => True) Attributed
          worker ∧
        BatchesSound environment worker ∧
        CallsSound environment workerId worker) ?_ ?_
    · refine ⟨workerSound_start lanes, batchesSound_start workerId lanes, ?_⟩
      intro thread member
      cases member
    · rintro before label next ⟨sound, batches, calls⟩ taken
      have nextSound : WorkerSound environment workerId (fun _ _ => True)
          Attributed next := by
        refine sound.step (splitsGood_attributed _) ?_ taken
        cases label <;> exact trivial
      have nextBatches := batches.step taken
      exact ⟨nextSound, nextBatches,
        calls.step taken nextSound nextBatches⟩
  exact invariant.2.2

/-- In every run of a worker, whatever is batched, expired, retried and
interrupted: each call of the engine is for whole jobs that were received on
one lane and share its key, has at least one text, none of them blank or too
long, and no more than the larger of `max_texts` of the lane and
`max_batch_items`. -/
theorem engineCalls_withinLimits {lanes : List LaneName}
    (reached : Reachable (WorkerStep environment)
      (Worker.start Body workerId lanes) worker)
    {position : Nat} {request : EncodeCall} {reply : EngineReply}
    (taken : WorkerStep environment worker
      (.engineReplies position request reply) after) :
    ∃ lane, CallWithinLimits environment workerId worker.ledger.received
      lane request := by
  cases taken with
  | @engineReplies position thread request reply found calls =>
      obtain ⟨lane, only⟩ := callsSound_of_reachable reached thread
        (List.mem_of_getElem? found)
      exact ⟨lane, only.request calls⟩

end Workers

/-- The one call for a batch of two jobs has both their texts. -/
theorem engineCalls_withinLimits_pair :
    ∃ lane request, request.texts.length = 2 ∧
      CallWithinLimits pairsEnvironment (pyStr "worker")
        pairEntered.ledger.received lane request := by
  have reached := pairWorker_reachable.tail pairEntered_enters.1
  have taken := @WorkerStep.engineReplies Json pairsEnvironment pairEntered 0
    _ _ (.error ⟨[]⟩) rfl rfl
  obtain ⟨lane, limits⟩ := engineCalls_withinLimits reached taken
  exact ⟨lane, _, rfl, limits⟩

end EmbeddingService
