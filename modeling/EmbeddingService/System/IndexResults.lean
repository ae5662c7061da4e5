import EmbeddingService.Client.Results
import EmbeddingService.System.IndexLane
import EmbeddingService.System.Replies

/-!
# What the handler of index results gets

The answer to an index job passes the wire twice, as a job and as a result.
With an engine whose numbers are finite every answer is readable, and what a
results consumer hands to its handler is the answer to the submitted job.
-/

namespace EmbeddingService

open LabelledRuns

/-! ## Finite numbers -/

/-- A reply of the engine without infinities and NaN. -/
def FiniteReply : EngineReply → Prop
  | .error _ => True
  | .ok encoded =>
      (∀ row ∈ encoded.embeddings, row.all PyFloat.isFinite = true) ∧
        encoded.tookMs.isFinite = true

/-- What an engine that maps texts to finite vectors pointwise may reply. -/
def FinitePointwise (vectors : Vectors) (request : EncodeCall)
    (reply : EngineReply) : Prop :=
  Pointwise vectors request reply ∧ FiniteReply reply

/-- A result that holds exactly the vectors of its job's texts, and finite
numbers only. -/
structure FiniteAnswers (vectors : Vectors) (job : EmbeddingJob)
    (result : EmbeddingResult) : Prop
    extends Answers vectors job result where
  finite : result.isFinite = true

section Parts

variable {engine : EngineInfo} {workerId : Option PyStr}
  {vectors : Vectors} {job : EmbeddingJob} {result : EmbeddingResult}

theorem OwnPart.finiteAnswers
    (own : OwnPart engine (FinitePointwise vectors) job result) :
    FiniteAnswers vectors job result := by
  obtain @⟨workerId, before, after, request, encoded, texts, sameType,
    sameNormalize, pointwise, rows, time⟩ := own
  have part : OwnPart engine (Pointwise vectors) job
      (jobResult engine workerId request encoded before.length job) :=
    .encoded texts sameType sameNormalize pointwise
  refine ⟨part.answers, ?_⟩
  rw [EmbeddingResult.isFinite, Bool.and_eq_true]
  refine ⟨List.all_eq_true.mpr ?_, time⟩
  intro row member
  exact rows row (List.mem_of_mem_take (List.mem_of_mem_drop member))

/-- Every job gets its own finite vectors. -/
theorem splitsGood_finiteAnswers :
    SplitsGood engine workerId (FinitePointwise vectors)
      (FiniteAnswers vectors) :=
  fun first rest _ sharing replied =>
    (splitsGood_ownPart first rest _ sharing replied).imp
      (fun _ _ => OwnPart.finiteAnswers)

end Parts

/-! ## The answer to a job -/

/-- A result that is the answer to a job: it has the job's id, the job's
metadata as they are on the wire, and the job's vectors unless it is an
error. -/
structure OwnResult (vectors : Vectors) (job : EmbeddingJob)
    (result : EmbeddingResult) : Prop where
  jobId : result.jobId = job.jobId
  metadata : result.metadata = Json.entriesOnWire job.metadata
  vectors : result.status ≠ .error → Answers vectors job.onWire result

/-- An answer is read as it is. -/
theorem OwnResult.onWire_eq {vectors : Vectors} {job : EmbeddingJob}
    {result : EmbeddingResult} (own : OwnResult vectors job result) :
    result.onWire = result := by
  rw [onWire_eq_iff, own.metadata]
  exact Json.entriesOnWire_arePlain job.metadata

section Answers

variable {Body : Type} {environment : Environment Body}
  {serialization : Serialization Body} {workerId : PyStr}
  {Good : EmbeddingJob → EmbeddingResult → Prop} {lane : LaneName}
  {message : Message Body} {job : EmbeddingJob} {result : EmbeddingResult}
  {retry : Bool}

/-- A rejection has no vectors. -/
theorem parseJob_rejection_isFinite {settings : Settings}
    {python : Interpreter Body} {freshId : PyStr} {body : Body}
    {fallbackId rejecting : Option PyStr}
    (parsed : parseJob settings python freshId body fallbackId rejecting =
      .ok (.rejection result)) : result.isFinite = true := by
  unfold parseJob at parsed
  split at parsed
  · cases parsed
  · cases parsed
  · cases parsed
    rfl
  · dsimp only at parsed
    split at parsed
    · cases parsed
    · cases parsed
    · split at parsed
      · cases parsed
      · cases parsed
        rfl
  · cases parsed
    rfl

theorem AnswerTo.isFinite
    (finite : ∀ job result, Good job result → result.isFinite = true)
    (answer : AnswerTo environment workerId Good lane message result
      retry) : result.isFinite = true := by
  cases answer with
  | rejected parsed =>
      exact parseJob_rejection_isFinite parsed
  | expired parsed late indexed =>
      rfl
  | failed parsed queried =>
      rfl
  | encoded parsed good =>
      exact finite _ _ good

/-- What answers a message was built for it. -/
theorem AnswerTo.built
    (attributed : ∀ job result, Good job result → Attributed job result)
    (answer : AnswerTo environment workerId Good lane message result
      retry) :
    ∃ freshId, BuiltFor environment workerId freshId message result := by
  cases answer with
  | rejected parsed =>
      exact ⟨_, .rejected parsed⟩
  | expired parsed late indexed =>
      obtain ⟨freshId, returned⟩ := parsed
      exact ⟨freshId, .expired returned⟩
  | failed parsed queried =>
      obtain ⟨freshId, returned⟩ := parsed
      exact ⟨freshId, .failed returned⟩
  | encoded parsed good =>
      obtain ⟨freshId, returned⟩ := parsed
      exact ⟨freshId, .encoded returned (attributed _ _ good)⟩

/-- The body of a job holds its metadata as they are on the wire. -/
theorem Holds.bodyMetadata
    (faithful : serialization.Faithful environment.python
      environment.dumpResult)
    (holds : Holds serialization message job) :
    bodyMetadata environment.python message.body =
      Json.entriesOnWire job.metadata := by
  rw [EmbeddingService.bodyMetadata,
    faithful.jobs job message.body holds.dumped]
  rfl

/-- Whatever answers the message of a job is the answer to the job. -/
theorem Holds.ownResult {vectors : Vectors}
    (faithful : serialization.Faithful environment.python
      environment.dumpResult)
    (answers : ∀ job result, Good job result → Answers vectors job result)
    (holds : Holds serialization message job)
    (answer : AnswerTo environment workerId Good lane message result
      retry) : OwnResult vectors job result := by
  have attributed : ∀ job result, Good job result →
      Attributed job result :=
    fun job result good => (answers job result good).attributed
  obtain ⟨freshId, built⟩ := answer.built attributed
  refine ⟨?_, ?_, ?_⟩
  · exact holds.answer_id faithful.keepsIds
      (fun job result good => (attributed job result good).1) answer
  · rw [built.metadata]
    exact holds.bodyMetadata faithful
  · intro succeeded
    rcases holds.answer faithful answer with failed | good
    · exact False.elim (succeeded failed)
    · exact answers _ _ good

end Answers

/-! ## Runs of the index lane -/

/-- The engine of every worker replies as `Allowed` says. -/
def IndexAction.EngineAllowed {Body : Type}
    (Allowed : EncodeCall → EngineReply → Prop) : IndexAction Body → Prop
  | .fleet action => action.EngineAllowed Allowed
  | _ => True

/-- The handler of each call has the result that its reply loads as. -/
def HandlesLoaded {Body : Type} (serialization : Serialization Body)
    (fleet : Fleet Body) (calls : List ResultCall) : Prop :=
  ∀ call ∈ calls, ∃ stored, fleet.replies[call.reply]? = some stored ∧
    ∀ result, call.state = .handling result →
      serialization.loadResult stored.reply.body = some result

section Steps

variable {Body : Type} {environment : Environment Body}
  {client : ClientEnvironment Body}
  {Allowed : EncodeCall → EngineReply → Prop}
  {Good : EmbeddingJob → EmbeddingResult → Prop}
  {serialization : Serialization Body} {fleet : Fleet Body}
  {calls : List ResultCall} {number : Nat} {stored : StoredReply Body}
  {state after : IndexLane Body} {action : IndexAction Body}

theorem FleetSound.indexStep
    (sound : FleetSound environment Allowed Good state.fleet)
    (splits : ∀ workerId,
      SplitsGood environment.engine (some workerId) Allowed Good)
    (allowed : action.EngineAllowed Allowed)
    (taken : IndexStep environment client state action after) :
    FleetSound environment Allowed Good after.fleet := by
  cases taken with
  | fleet taken =>
      exact sound.step splits allowed taken
  | @submit _ _ _ _ replyTo _ job body fresh built dumped =>
      let request := requestMessage .index job body
        (resultsQueue client replyTo)
      have published : FleetStep environment state.fleet
          (.publish request) (state.fleet.publish request) :=
        .publish
      have allowed : FleetAction.EngineAllowed Allowed
          (.publish request) :=
        trivial
      exact sound.step splits allowed published
  | deliverResult found ready =>
      exact sound.setReply found _ _
  | endHandler called found handling =>
      exact sound.setReply found _ _
  | settleResult called found held settles =>
      exact sound.setReply found _ _
  | returnResult called found held =>
      exact sound.setReply found _ _

theorem HandlesLoaded.setReply
    (handles : HandlesLoaded serialization fleet calls)
    (found : fleet.replies[number]? = some stored) (place : ReplyPlace)
    (handled : Bool) :
    HandlesLoaded serialization
      (fleet.setReply number
        { stored with place := place, handled := handled }) calls := by
  intro call member
  obtain ⟨other, present, loads⟩ := handles call member
  by_cases own : call.reply = number
  · rw [own, found] at present
    cases present
    have inside := (List.getElem?_eq_some_iff.mp found).1
    refine ⟨{ stored with place := place, handled := handled }, ?_, loads⟩
    rw [own]
    exact List.getElem?_set_self inside
  · refine ⟨other, ?_, loads⟩
    rw [Fleet.setReply, List.getElem?_set_ne (Ne.symm own)]
    exact present

theorem HandlesLoaded.fleetStep
    (handles : HandlesLoaded serialization fleet calls)
    {next : Fleet Body} {action : FleetAction Body}
    (taken : FleetStep environment fleet action next) :
    HandlesLoaded serialization next calls := by
  intro call member
  obtain ⟨other, present, loads⟩ := handles call member
  refine ⟨other, ?_, loads⟩
  rcases taken.replies_origin with same | ⟨_, _, _, _, _, added⟩
  · rw [same]
    exact present
  · rw [added, List.getElem?_append_left
      (List.getElem?_eq_some_iff.mp present).1]
    exact present

theorem HandlesLoaded.addCall
    (handles : HandlesLoaded serialization fleet calls)
    (found : fleet.replies[number]? = some stored) :
    HandlesLoaded serialization fleet
      (calls ++ [{ reply := number
                   state := onResult serialization stored.reply.body }])
      := by
  intro call member
  rcases List.mem_append.mp member with old | new
  · exact handles call old
  · rw [List.mem_singleton.mp new]
    refine ⟨stored, found, ?_⟩
    intro result handling
    unfold onResult at handling
    split at handling
    · cases handling
    · next loaded =>
        cases handling
        exact loaded

theorem HandlesLoaded.endHandler
    (handles : HandlesLoaded serialization fleet calls)
    {call : ResultCall} (called : calls[number]? = some call)
    (how : Ending) :
    HandlesLoaded serialization fleet
      (calls.set number { call with state := handlerEnded how }) := by
  intro other member
  rcases List.mem_or_eq_of_mem_set member with old | new
  · exact handles other old
  · obtain ⟨stored, present, _⟩ :=
      handles call (List.mem_of_getElem? called)
    rw [new]
    refine ⟨stored, present, ?_⟩
    intro result handling
    cases how <;> cases handling

theorem HandlesLoaded.step
    (handles : HandlesLoaded client.serialization state.fleet state.calls)
    (taken : IndexStep environment client state action after) :
    HandlesLoaded client.serialization after.fleet after.calls := by
  cases taken with
  | fleet taken =>
      exact handles.fleetStep taken
  | submit fresh built dumped =>
      exact handles
  | @deliverResult number stored found ready =>
      have moved := handles.setReply found
        (.unacked state.calls.length) stored.handled
      have kept : (state.fleet.setReply number
          { stored with place := .unacked state.calls.length }
          ).replies[number]? =
            some { stored with place := .unacked state.calls.length } :=
        List.getElem?_set_self (List.getElem?_eq_some_iff.mp found).1
      have called := moved.addCall kept
      exact called
  | endHandler called found handling =>
      exact (handles.setReply found _ _).endHandler called _
  | settleResult called found held settles =>
      exact handles.setReply found _ _
  | returnResult called found held =>
      exact handles.setReply found _ _

theorem handlesLoaded_of_reachable
    (reachable : Reachable (IndexStep environment client) {} state) :
    HandlesLoaded client.serialization state.fleet state.calls := by
  have initially : HandlesLoaded client.serialization
      ({} : IndexLane Body).fleet ({} : IndexLane Body).calls :=
    List.forall_mem_nil _
  exact reachable.invariant
    (I := fun state =>
      HandlesLoaded client.serialization state.fleet state.calls) initially
    (fun _ _ _ handles taken => handles.step taken)

/-- A stored reply carries a result without infinities and NaN, which is the
answer to the job that its message holds. -/
theorem FleetSound.ownResult {vectors : Vectors}
    (sound :
      FleetSound environment Allowed (FiniteAnswers vectors) fleet)
    (faithful : serialization.Faithful environment.python
      environment.dumpResult)
    (member : stored ∈ fleet.replies) :
    ∃ result, environment.dumpResult result = some stored.reply.body ∧
      result.isFinite = true ∧
      ∀ job, Holds serialization stored.message job →
        OwnResult vectors job result := by
  obtain ⟨lane, logged⟩ := sound.stored stored member
  obtain ⟨workerId, result, retry, body, replyTo, answer, dumped, _, made⟩ :=
    sound.published logged
  refine ⟨result, ?_, answer.isFinite (fun _ _ good => good.finite), ?_⟩
  · rw [made]
    exact dumped
  · intro job holds
    exact holds.ownResult faithful (fun _ _ good => good.toAnswers) answer

end Steps

/-- With an engine that gives finite vectors text by text, in every run of
workers, submitters and results consumers: what is handed to the handler as
the reply to a submitted job is the answer to that job, and a reply is only
dropped where the parser of the consumer gives up on it. -/
theorem indexResults {Body : Type} (environment : Environment Body)
    (client : ClientEnvironment Body) (format : JsonFormat Body)
    (rules : ResultRules) (vectors : Vectors)
    (keepsValues : format.KeepsValues) (readsBack : rules.ReadsBack)
    (dumps : environment.dumpResult =
      EmbeddingResult.modelDumpJson format)
    (loads : client.serialization.loadResult =
      EmbeddingResult.modelValidateJson format rules)
    (faithful : client.serialization.Faithful environment.python
      environment.dumpResult)
    {labels : List (IndexAction Body)} {state : IndexLane Body}
    (run : Run (IndexStep environment client) {} labels state)
    (replies : ∀ label ∈ labels,
      label.EngineAllowed (FinitePointwise vectors)) :
    (∀ call ∈ state.calls, ∀ result, call.state = .handling result →
      ∃ stored, state.fleet.replies[call.reply]? = some stored ∧
        ∀ submission ∈ state.submitted, ∀ publication,
          state.fleet.publications[submission.request]? =
            some publication →
          stored.message.Carries publication →
            OwnResult vectors submission.job result) ∧
    ∀ stored ∈ state.fleet.replies, stored.place = .rejected →
      format.reads stored.reply.body = none := by
  have sound : FleetSound environment (FinitePointwise vectors)
      (FiniteAnswers vectors) state.fleet :=
    run.invariant
      (I := fun state => FleetSound environment (FinitePointwise vectors)
        (FiniteAnswers vectors) state.fleet) replies fleetSound_empty
      (fun _ _ _ sound allowed taken => sound.indexStep
        (fun _ => splitsGood_finiteAnswers) allowed taken)
  have handles :
      HandlesLoaded client.serialization state.fleet state.calls :=
    handlesLoaded_of_reachable ⟨labels, run⟩
  have indexed : IndexSound environment client state :=
    indexSound_of_reachable ⟨labels, run⟩
  have readable : ∀ stored ∈ state.fleet.replies,
      format.reads stored.reply.body ≠ none →
        ∃ result : EmbeddingResult,
          client.serialization.loadResult stored.reply.body =
            some result.onWire ∧
          ∀ job, Holds client.serialization stored.message job →
            OwnResult vectors job result := by
    intro stored member parsed
    obtain ⟨result, dumped, finite, own⟩ :=
      sound.ownResult faithful member
    rw [dumps] at dumped
    refine ⟨result, ?_, own⟩
    rw [loads, modelValidateJson_dumped keepsValues readsBack dumped parsed,
      if_pos finite]
  constructor
  · intro call called result handling
    obtain ⟨stored, found, loaded⟩ := handles call called
    have read := loaded result handling
    refine ⟨stored, found, ?_⟩
    intro submission submitted publication published carries
    have parsed : format.reads stored.reply.body ≠ none := by
      intro none
      rw [loads, EmbeddingResult.modelValidateJson, none] at read
      cases read
    obtain ⟨built, known, own⟩ :=
      readable stored (List.mem_of_getElem? found) parsed
    obtain ⟨named, _, body, dumped, request⟩ :=
      indexed.submitted submission submitted
    rw [published] at request
    cases request
    have answered := own submission.job
      { dumped := by
          rw [carries.body]
          exact dumped
        named := named }
    rw [read, answered.onWire_eq] at known
    cases known
    exact answered
  · intro stored member rejected
    by_contra parsed
    obtain ⟨result, known, _⟩ := readable stored member parsed
    rw [(indexed.results.replies stored member).2 rejected] at known
    cases known

/-- A run in which the handler gets the answer to a job, whose metadata has a
score that JSON cannot carry. -/
theorem indexResults_handling :
    ∃ (labels : List (IndexAction Json)) (state : IndexLane Json)
      (submission : Submission) (call : ResultCall)
      (result : EmbeddingResult),
      Run (IndexStep jsonEnvironment jsonClient) {} labels state ∧
      submission ∈ state.submitted ∧ call ∈ state.calls ∧
      call.state = .handling result ∧ result.status = .ok ∧
      OwnResult (fun _ _ _ => [PyFloat.zero]) submission.job result := by
  have delivered :=
    (((((Run.nil ({} : IndexLane Json)).snoc
      (@IndexStep.submit Json jsonEnvironment jsonClient _
        (.str (pyStr "text")) true [(pyStr "score", .float .nan)] none none
        (pyStr "job") _ _ (by decide) rfl rfl)).snoc
      (.fleet (@FleetStep.startWorker Json jsonEnvironment _
        (pyStr "worker") [.index]))).snoc
      (.fleet (@FleetStep.work Json jsonEnvironment _ 0 _ _ _ rfl rfl rfl
        (.consume rfl) (stores_of_unconfirmed rfl)))).snoc
      (.fleet (@FleetStep.work Json jsonEnvironment _ 0 _ _ _ rfl rfl rfl
        (.startLoop rfl rfl) (stores_of_unconfirmed rfl)))).snoc
      (.fleet (@FleetStep.deliver Json jsonEnvironment _ 0 0 _ _
        { tag := 0
          body := _
          messageId := some (pyStr "job")
          correlationId := some (pyStr "job")
          replyTo := some (pyStr "indexer.results") }
        [] 0 0 _ rfl rfl ⟨rfl, rfl, rfl, rfl⟩ rfl rfl
        (.receive rfl rfl (List.forall_mem_nil _))))
  have encoded := ((((delivered.snoc
    (.fleet (@FleetStep.work Json jsonEnvironment _ 0 _ _ _ rfl rfl rfl
      (@WorkerStep.takeBatch Json jsonEnvironment _ .index 0 _ _ rfl rfl
        rfl) (stores_of_unconfirmed rfl)))).snoc
    (.fleet (@FleetStep.work Json jsonEnvironment _ 0 _ _ _ rfl rfl rfl
      (@WorkerStep.startProcess Json jsonEnvironment _ 0 _ (fun _ => 0) 0
        rfl rfl rfl) (stores_of_unconfirmed rfl)))).snoc
    (.fleet (@FleetStep.work Json jsonEnvironment _ 0 _ _ _ rfl rfl rfl
      (@WorkerStep.engineReplies Json jsonEnvironment _ 0 _ _
        (.ok { embeddings := [[.zero]]
               truncated := [false]
               tookMs := .zero })
        rfl rfl) (stores_of_unconfirmed rfl)))).snoc
    (.fleet (@FleetStep.work Json jsonEnvironment _ 0 _ _ _ rfl rfl rfl
      (@WorkerStep.endThread Json jsonEnvironment _ 0 _ _ rfl rfl)
      (stores_of_unconfirmed rfl)))).snoc
    (.fleet (@FleetStep.work Json jsonEnvironment _ 0 _ _ _ rfl rfl rfl
      (@WorkerStep.collectOutcomes Json jsonEnvironment _ 0 _ _ rfl rfl
        rfl) (stores_of_unconfirmed rfl)))
  have handed := ((encoded.snoc
    (.fleet (@FleetStep.work Json jsonEnvironment _ 0 _ _ _ rfl rfl rfl
      (@WorkerStep.startFinish Json jsonEnvironment _ 0 0 _ _ _ rfl rfl rfl
        (by
          intro finished
          cases finished)) (stores_of_unconfirmed rfl)))).snoc
    (.fleet (@FleetStep.storeReply Json jsonEnvironment _ 0 _ .index _ _ rfl
      (.tail _ (.tail _ (.head _)))
      (fun stores => List.not_mem_nil stores.choose_spec.1)))).snoc
    (@IndexStep.deliverResult Json jsonEnvironment jsonClient _ 0 _ rfl rfl)
  have answered := (indexResults jsonEnvironment jsonClient jsonFormat
    jsonRules (fun _ _ _ => [PyFloat.zero]) jsonFormat_keepsValues
    jsonRules_readsBack rfl rfl jsonClient_faithful handed (by
      simp only [List.nil_append, List.cons_append, List.forall_mem_cons]
      refine ⟨trivial, trivial, trivial, trivial, trivial, trivial, trivial,
        ⟨⟨rfl, rfl⟩, ?_, rfl⟩, trivial, trivial, trivial, trivial,
        trivial, ?_⟩
      · intro row member
        rw [List.mem_singleton.mp member]
        rfl
      · exact List.forall_mem_nil _)).1 _ (.head _) _ rfl
  obtain ⟨stored, found, own⟩ := answered
  cases found
  exact ⟨_, _, _, _, _, handed, .head _, .head _, rfl, rfl,
    own _ (.head _) _ rfl ⟨rfl, rfl, rfl, rfl⟩⟩

end EmbeddingService
