import EmbeddingService.System.Acceptance
import EmbeddingService.System.Answers
import EmbeddingService.System.Transports

/-!
# Repeated answers agree

A request that is delivered again may be parsed by another worker, join
another batch and be answered a second time.  Whoever reads the results may
take any of the answers: what is rejected is rejected each time with the same
words, and what is encoded is encoded each time to the same vectors.
-/

namespace EmbeddingService

open LabelledRuns

/-- A result that says the request was malformed. -/
def EmbeddingResult.IsRejection (result : EmbeddingResult) : Prop :=
  result.status = .error ∧
    result.error.map JobError.code = some .validationError

section Parsing

variable {Body : Type} {settings : Settings} {python : Interpreter Body}
  {rules : ValueRules} {freshId : PyStr} {raw : PyDict} {job : EmbeddingJob}
  {body : Body} {fallbackId workerId : Option PyStr}

/-- The fresh id decides nothing but the id of a job that has none. -/
theorem modelValidate_otherId (otherId : PyStr)
    (validated : EmbeddingJob.modelValidate settings rules freshId raw =
      .ok job) :
    ∃ jobId,
      EmbeddingJob.modelValidate settings rules otherId raw =
        .ok { job with jobId := jobId } ∧
      (PyDict.get raw (pyStr "job_id") ≠ none → jobId = job.jobId) := by
  obtain ⟨input, inputType, normalize, version, named, deadline, metadata⟩ :=
    modelValidate_ok validated
  have assembled : ∀ jobId, defaultedField raw (pyStr "job_id") otherId
      checkJobId = .ok jobId →
        EmbeddingJob.modelValidate settings rules otherId raw =
          .ok { job with jobId := jobId } := by
    intro jobId checked
    unfold EmbeddingJob.modelValidate
    rw [input, inputType, normalize, version, checked, deadline, metadata]
    rfl
  cases found : PyDict.get raw (pyStr "job_id") with
  | none =>
      have fresh : defaultedField raw (pyStr "job_id") otherId checkJobId =
          .ok otherId := by
        rw [defaultedField, found]
      exact ⟨otherId, assembled otherId fresh, fun present =>
        (present rfl).elim⟩
  | some value =>
      have same : defaultedField raw (pyStr "job_id") otherId checkJobId =
          .ok job.jobId := by
        rw [defaultedField, found] at named
        rw [defaultedField, found]
        exact named
      exact ⟨job.jobId, assembled job.jobId same, fun _ => rfl⟩

/-- Nor does it decide what is wrong with a job. -/
theorem jobId_errors (otherId : PyStr) :
    (defaultedField raw (pyStr "job_id") freshId checkJobId).errors =
      (defaultedField raw (pyStr "job_id") otherId checkJobId).errors := by
  unfold defaultedField
  split <;> rfl

theorem modelValidate_errors (otherId : PyStr) {failure : ValidationFailure}
    (rejected : EmbeddingJob.modelValidate settings rules freshId raw =
      .error failure) :
    EmbeddingJob.modelValidate settings rules otherId raw =
      .error failure := by
  cases other : EmbeddingJob.modelValidate settings rules otherId raw with
  | ok job =>
      obtain ⟨jobId, validated, _⟩ := modelValidate_otherId freshId other
      rw [validated] at rejected
      cases rejected
  | error otherFailure =>
      unfold EmbeddingJob.modelValidate at rejected other
      cases metadata : checkMetadata settings rules raw with
      | error escaped =>
          rw [metadata] at rejected other
          cases rejected
          cases other
          rfl
      | ok checked =>
          rw [metadata] at rejected other
          simp only [bind, Except.bind] at rejected other
          split at rejected
          · cases rejected
          · split at other
            · cases other
            · cases rejected
              cases other
              rw [jobId_errors freshId]

/-- With an id among the properties, no job needs a fresh one. -/
theorem withFallbackId_named (entries : PyDict)
    (named : truthy fallbackId = true) :
    PyDict.get (withFallbackId entries fallbackId) (pyStr "job_id") ≠
      none := by
  rcases withFallbackId_id entries fallbackId with
    ⟨own | unnamed, same⟩ | ⟨_, id, _, _, found⟩
  · rw [same]
    intro missing
    rw [PyDict.getTruthy, missing] at own
    cases own
  · rw [named] at unnamed
    cases unnamed
  · rw [found]
    exact Option.some_ne_none _

/-- A body that was parsed as a job is parsed as that job again. -/
theorem parseJob_job_again (otherId : PyStr) (otherWorker : Option PyStr)
    (parsed : parseJob settings python freshId body fallbackId workerId =
      .ok (.job job)) :
    ∃ jobId,
      parseJob settings python otherId body fallbackId otherWorker =
        .ok (.job { job with jobId := jobId }) ∧
      (truthy fallbackId = true → jobId = job.jobId) := by
  obtain ⟨entries, loaded, validated⟩ := parseJob_job parsed
  obtain ⟨jobId, again, kept⟩ := modelValidate_otherId otherId validated
  refine ⟨jobId, ?_, fun named => kept (withFallbackId_named entries named)⟩
  unfold parseJob
  rw [loaded]
  dsimp only
  rw [again]

/-- A body that was rejected is rejected again, in the same words. -/
theorem parseJob_rejection_again (otherId : PyStr)
    (otherWorker : Option PyStr) {result : EmbeddingResult}
    (parsed : parseJob settings python freshId body fallbackId workerId =
      .ok (.rejection result)) :
    parseJob settings python otherId body fallbackId otherWorker =
      .ok (.rejection { result with workerId := otherWorker }) := by
  unfold parseJob at parsed ⊢
  cases loaded : python.loads body with
  | valueError =>
      rw [loaded] at parsed
      cases parsed
  | recursionError =>
      rw [loaded] at parsed
      cases parsed
  | decodeError text =>
      rw [loaded] at parsed
      cases parsed
      rfl
  | value value =>
      rw [loaded] at parsed
      cases value with
      | dict entries =>
          dsimp only at parsed ⊢
          cases validated : EmbeddingJob.modelValidate settings
              python.toValueRules freshId
              (withFallbackId entries fallbackId) with
          | ok job =>
              rw [validated] at parsed
              cases parsed
          | error failure =>
              rw [validated] at parsed
              rw [modelValidate_errors otherId validated]
              cases failure with
              | recursionError =>
                  cases parsed
              | invalid errors =>
                  dsimp only at parsed ⊢
                  cases printed : rejectedId python
                      (withFallbackId entries fallbackId) with
                  | none =>
                      rw [printed] at parsed
                      cases parsed
                  | some jobId =>
                      rw [printed] at parsed
                      cases parsed
                      rfl
      | _ =>
          cases parsed
          rfl

theorem parseJob_rejection_coded {result : EmbeddingResult}
    (parsed : parseJob settings python freshId body fallbackId workerId =
      .ok (.rejection result)) : result.IsRejection := by
  unfold parseJob at parsed
  split at parsed
  · cases parsed
  · cases parsed
  · cases parsed
    exact ⟨rfl, rfl⟩
  · dsimp only at parsed
    split at parsed
    · cases parsed
    · cases parsed
    · split at parsed
      · cases parsed
      · cases parsed
        exact ⟨rfl, rfl⟩
  · cases parsed
    exact ⟨rfl, rfl⟩

end Parsing

/-- Two results with the same vectors, and all that tells what they are. -/
structure SameVectors (first second : EmbeddingResult) : Prop where
  embeddings : first.embeddings = second.embeddings
  truncated : first.truncated = second.truncated
  count : first.count = second.count
  inputType : first.inputType = second.inputType
  normalized : first.normalized = second.normalized
  modelName : first.modelName = second.modelName
  dimensions : first.dimensions = second.dimensions
  metadata : first.metadata = second.metadata

/-- Two answers to one request: rejected both or neither, then in the same
words; encoded to the same vectors where both are encoded; and under one id if
the request has one. -/
structure SameVerdict (named : Prop) (first second : EmbeddingResult) :
    Prop where
  rejections : first.IsRejection ↔ second.IsRejection
  words : first.IsRejection →
    first = { second with workerId := first.workerId }
  vectors : first.status = .ok → second.status = .ok →
    SameVectors first second
  ids : named → first.jobId = second.jobId

section Verdicts

variable {Body : Type} {environment : Environment Body}
  {workerId : PyStr} {answers : TextAnswers}
  {publication : Publication Body} {lane : LaneName}
  {message : Message Body} {result : EmbeddingResult} {retry : Bool}

/-- A publication with an id among its properties. -/
def Publication.Named (publication : Publication Body) : Prop :=
  truthy (either publication.messageId publication.correlationId) = true

/-- What `parse_job` makes of a publication, whichever worker and fresh id. -/
def Publication.parse (environment : Environment Body)
    (publication : Publication Body) (workerId freshId : PyStr) :
    Except ParseEscape Parsed :=
  parseJob environment.schemaSettings environment.python freshId
    publication.body
    (either publication.messageId publication.correlationId) (some workerId)

/-- What holds of a publication each time it is parsed. -/
inductive ParseVerdict (environment : Environment Body)
    (publication : Publication Body) : Prop
  | rejected (base : EmbeddingResult)
      (always : ∀ workerId freshId,
        publication.parse environment workerId freshId =
          .ok (.rejection { base with workerId := some workerId }))
      (coded : base.IsRejection)
  | accepted (job : EmbeddingJob)
      (always : ∀ workerId freshId, ∃ jobId,
        publication.parse environment workerId freshId =
            .ok (.job { job with jobId := jobId }) ∧
          (publication.Named → jobId = job.jobId))

theorem parseMessage_carried (carries : message.Carries publication)
    (freshId : PyStr) :
    parseMessage environment workerId freshId message =
      publication.parse environment workerId freshId := by
  rw [parseMessage, Publication.parse, carries.body, carries.messageId,
    carries.correlationId]

theorem verdict_of_rejection {freshId : PyStr}
    (parsed : publication.parse environment workerId freshId =
      .ok (.rejection result)) : ParseVerdict environment publication := by
  refine .rejected result ?_ (parseJob_rejection_coded parsed)
  intro otherWorker otherId
  exact parseJob_rejection_again otherId (some otherWorker) parsed

theorem verdict_of_job {freshId : PyStr} {job : EmbeddingJob}
    (parsed : publication.parse environment workerId freshId =
      .ok (.job job)) : ParseVerdict environment publication :=
  .accepted job (fun otherWorker otherId =>
    parseJob_job_again otherId (some otherWorker) parsed)

theorem verdict_of_answer {Good : EmbeddingJob → EmbeddingResult → Prop}
    (carries : message.Carries publication)
    (answer : AnswerTo environment workerId Good lane message result
      retry) : ParseVerdict environment publication := by
  cases answer with
  | rejected parsed =>
      rw [parseMessage_carried carries] at parsed
      exact verdict_of_rejection parsed
  | expired parsed late indexed =>
      obtain ⟨freshId, parsed⟩ := parsed
      rw [parseMessage_carried carries] at parsed
      exact verdict_of_job parsed
  | failed parsed queried =>
      obtain ⟨freshId, parsed⟩ := parsed
      rw [parseMessage_carried carries] at parsed
      exact verdict_of_job parsed
  | encoded parsed good =>
      obtain ⟨freshId, parsed⟩ := parsed
      rw [parseMessage_carried carries] at parsed
      exact verdict_of_job parsed

/-- The answer to a publication that is rejected each time. -/
theorem answer_of_rejected {Good : EmbeddingJob → EmbeddingResult → Prop}
    {base : EmbeddingResult}
    (always : ∀ workerId freshId,
      publication.parse environment workerId freshId =
        .ok (.rejection { base with workerId := some workerId }))
    (carries : message.Carries publication)
    (answer : AnswerTo environment workerId Good lane message result
      retry) : result = { base with workerId := some workerId } := by
  have parsedAs : ∀ job, ¬ ParsedAs environment workerId message job := by
    rintro job ⟨freshId, parsed⟩
    rw [parseMessage_carried carries, always] at parsed
    cases parsed
  cases answer with
  | rejected parsed =>
      rw [parseMessage_carried carries, always] at parsed
      cases parsed
      rfl
  | expired parsed late indexed =>
      exact (parsedAs _ parsed).elim
  | failed parsed queried =>
      exact (parsedAs _ parsed).elim
  | encoded parsed good =>
      exact (parsedAs _ parsed).elim

/-- The answers to a publication that is accepted each time. -/
structure AnswersAccepted (engine : EngineInfo) (answers : TextAnswers)
    (named : Prop) (job : EmbeddingJob) (result : EmbeddingResult) :
    Prop where
  accepted : ¬ result.IsRejection
  id : named → result.jobId = job.jobId
  encoded : result.status = .ok →
    ∃ jobId, AnswersJob engine answers { job with jobId := jobId } result

theorem answer_of_accepted {job : EmbeddingJob}
    (always : ∀ workerId freshId, ∃ jobId,
      publication.parse environment workerId freshId =
          .ok (.job { job with jobId := jobId }) ∧
        (publication.Named → jobId = job.jobId))
    (carries : message.Carries publication)
    (answer : AnswerTo environment workerId
      (AnswersJob environment.engine answers) lane message result retry) :
    AnswersAccepted environment.engine answers publication.Named job
      result := by
  have parsedAs : ∀ other, ParsedAs environment workerId message other →
      ∃ jobId, other = { job with jobId := jobId } ∧
        (publication.Named → jobId = job.jobId) := by
    rintro other ⟨freshId, parsed⟩
    obtain ⟨jobId, again, kept⟩ := always workerId freshId
    rw [parseMessage_carried carries, again] at parsed
    cases parsed
    exact ⟨jobId, rfl, kept⟩
  cases answer with
  | @rejected freshId _ parsed =>
      obtain ⟨jobId, again, _⟩ := always workerId freshId
      rw [parseMessage_carried carries, again] at parsed
      cases parsed
  | expired parsed late indexed =>
      obtain ⟨jobId, rfl, kept⟩ := parsedAs _ parsed
      constructor
      · rintro ⟨_, code⟩
        cases code
      · exact kept
      · intro succeeded
        cases succeeded
  | failed parsed queried =>
      obtain ⟨jobId, rfl, kept⟩ := parsedAs _ parsed
      constructor
      · rintro ⟨_, code⟩
        cases code
      · exact kept
      · intro succeeded
        cases succeeded
  | encoded parsed good =>
      obtain ⟨jobId, rfl, kept⟩ := parsedAs _ parsed
      constructor
      · rintro ⟨status, _⟩
        rw [good.attributed.2.2.1] at status
        cases status
      · intro named
        rw [good.attributed.1]
        exact kept named
      · intro _
        exact ⟨jobId, good⟩

/-- Two results about one job have the same vectors. -/
theorem sameVectors_of_answers {engine : EngineInfo} {job : EmbeddingJob}
    {first second : EmbeddingResult} {firstId secondId : PyStr}
    (one : AnswersJob engine answers { job with jobId := firstId } first)
    (two : AnswersJob engine answers { job with jobId := secondId }
      second) : SameVectors first second where
  embeddings := one.embeddings.trans two.embeddings.symm
  truncated := one.truncated.trans two.truncated.symm
  count := one.attributed.2.2.2.trans two.attributed.2.2.2.symm
  inputType := one.inputType.trans two.inputType.symm
  normalized := one.normalized.trans two.normalized.symm
  modelName := one.modelName.trans two.modelName.symm
  dimensions := one.dimensions.trans two.dimensions.symm
  metadata := one.attributed.2.1.trans two.attributed.2.1.symm

/-- Any two answers to one publication agree. -/
theorem sameVerdict_of_answers {otherWorker : PyStr}
    {otherLane : LaneName} {otherMessage : Message Body}
    {otherResult : EmbeddingResult} {otherRetry : Bool}
    (carries : message.Carries publication)
    (otherCarries : otherMessage.Carries publication)
    (answer : AnswerTo environment workerId
      (AnswersJob environment.engine answers) lane message result retry)
    (otherAnswer : AnswerTo environment otherWorker
      (AnswersJob environment.engine answers) otherLane otherMessage
      otherResult otherRetry) :
    SameVerdict publication.Named result otherResult := by
  cases verdict_of_answer carries answer with
  | rejected base always coded =>
      rw [answer_of_rejected always carries answer,
        answer_of_rejected always otherCarries otherAnswer]
      constructor
      · exact Iff.rfl
      · intro _
        rfl
      · intro succeeded
        have failed : base.status = .error := coded.1
        rw [failed] at succeeded
        cases succeeded
      · intro _
        rfl
  | accepted job always =>
      have one := answer_of_accepted always carries answer
      have two := answer_of_accepted always otherCarries otherAnswer
      constructor
      · exact iff_of_false one.accepted two.accepted
      · intro rejected
        exact (one.accepted rejected).elim
      · intro succeeded again
        obtain ⟨firstId, first⟩ := one.encoded succeeded
        obtain ⟨secondId, second⟩ := two.encoded again
        exact sameVectors_of_answers first second
      · intro named
        exact (one.id named).trans (two.id named).symm

end Verdicts

section Fleets

variable {Body : Type} {environment : Environment Body} {Weights : Type}
  {calls : ModelCalls Weights} {settings : EngineSettings}
  {engine : EmbeddingEngine Weights} {model : SentenceTransformer Weights}
  {vector : Bool → PyStr → List PyFloat} {tokens : PyStr → Int}
  {labels : List (FleetAction Body)} {fleet : Fleet Body}

/-- In every run of any number of workers with one model behind them, whatever
is batched together, lost, retried and delivered again: all stored replies to
one request agree. -/
theorem repliesAgree (loaded : engine.model = some model)
    (textWise : calls.TextWise model vector tokens)
    (run : Run (FleetStep environment) {} labels fleet)
    (replies : ∀ label ∈ labels,
      label.EngineAllowed (EngineReplies calls settings engine))
    {publication : Publication Body} {first second : StoredReply Body}
    (firstStored : first ∈ fleet.replies)
    (secondStored : second ∈ fleet.replies)
    (firstCarries : first.message.Carries publication)
    (secondCarries : second.message.Carries publication) :
    ∃ one two, environment.dumpResult one = some first.reply.body ∧
      environment.dumpResult two = some second.reply.body ∧
      SameVerdict publication.Named one two := by
  have sound := run.invariant replies fleetSound_empty
    (fun _ _ _ sound allowed taken =>
      sound.step (fun workerId =>
        splitsGood_answersJob environment.engine (some workerId) loaded
          textWise) allowed taken)
  obtain ⟨firstLane, firstLogged⟩ := sound.stored first firstStored
  obtain ⟨secondLane, secondLogged⟩ := sound.stored second secondStored
  obtain ⟨firstWorker, one, firstRetry, firstBody, firstPlace, firstAnswer,
    firstDumped, _, firstReply⟩ := sound.published firstLogged
  obtain ⟨secondWorker, two, secondRetry, secondBody, secondPlace,
    secondAnswer, secondDumped, _, secondReply⟩ :=
      sound.published secondLogged
  refine ⟨one, two, ?_, ?_, sameVerdict_of_answers firstCarries
    secondCarries firstAnswer secondAnswer⟩
  · rw [firstReply]
    exact firstDumped
  · rw [secondReply]
    exact secondDumped

end Fleets

/-- The request of the one text. -/
def textRequest : Publication WireBody where
  lane := .index
  body := textMessage.body
  messageId := textMessage.messageId
  replyTo := textMessage.replyTo

/-- A worker answers the request and loses its connection before the ack, and
another one answers it again. -/
theorem repliesAgree_twoWorkers :
    ∃ (fleet : Fleet WireBody) (first second : StoredReply WireBody)
      (one two : EmbeddingResult),
      Reachable (FleetStep sharedEnvironment) {} fleet ∧
        fleet.replies = [first, second] ∧
        first.reply.body = .reply one.onWire ∧
        second.reply.body = .reply two.onWire ∧
        one.workerId ≠ two.workerId ∧ SameVectors one two ∧
        one.jobId = two.jobId := by
  have started :=
    ((((((((Run.nil ({} : Fleet WireBody)).snoc
      (@FleetStep.publish WireBody sharedEnvironment _ textRequest)).snoc
      (@FleetStep.startWorker WireBody sharedEnvironment _ (pyStr "one")
        [.index])).snoc
      (@FleetStep.startWorker WireBody sharedEnvironment _ (pyStr "two")
        [.index])).snoc
      (@FleetStep.work WireBody sharedEnvironment _ 0 _ _ _ rfl rfl rfl
        (.consume rfl) (stores_of_unconfirmed rfl))).snoc
      (@FleetStep.work WireBody sharedEnvironment _ 0 _ _ _ rfl rfl rfl
        (.startLoop rfl rfl) (stores_of_unconfirmed rfl))).snoc
      (@FleetStep.work WireBody sharedEnvironment _ 1 _ _ _ rfl rfl rfl
        (.consume rfl) (stores_of_unconfirmed rfl))).snoc
      (@FleetStep.work WireBody sharedEnvironment _ 1 _ _ _ rfl rfl rfl
        (.startLoop rfl rfl) (stores_of_unconfirmed rfl)))
  have answered := (((((((started.snoc
    (@FleetStep.deliver WireBody sharedEnvironment _ 0 0 _ _ textMessage []
      0 0 _ rfl rfl ⟨rfl, rfl, rfl, rfl⟩ rfl rfl
      (.receive rfl rfl (List.forall_mem_nil _)))).snoc
    (@FleetStep.work WireBody sharedEnvironment _ 0 _ _ _ rfl rfl rfl
      (@WorkerStep.takeBatch WireBody sharedEnvironment _ .index 0 _ _ rfl
        rfl rfl) (stores_of_unconfirmed rfl))).snoc
    (@FleetStep.work WireBody sharedEnvironment _ 0 _ _ _ rfl rfl rfl
      (@WorkerStep.startProcess WireBody sharedEnvironment _ 0 _
        (fun _ => 0) 0 rfl rfl rfl) (stores_of_unconfirmed rfl))).snoc
    (@FleetStep.work WireBody sharedEnvironment _ 0 _ _ _ rfl rfl rfl
      (@WorkerStep.engineReplies WireBody sharedEnvironment _ 0 _ _
        (.ok { embeddings := [[]], truncated := [false], tookMs := .zero })
        rfl rfl) (stores_of_unconfirmed rfl))).snoc
    (@FleetStep.work WireBody sharedEnvironment _ 0 _ _ _ rfl rfl rfl
      (@WorkerStep.endThread WireBody sharedEnvironment _ 0 _ _ rfl rfl)
      (stores_of_unconfirmed rfl))).snoc
    (@FleetStep.work WireBody sharedEnvironment _ 0 _ _ _ rfl rfl rfl
      (@WorkerStep.collectOutcomes WireBody sharedEnvironment _ 0 _ _ rfl
        rfl rfl) (stores_of_unconfirmed rfl))).snoc
    (@FleetStep.work WireBody sharedEnvironment _ 0 _ _ _ rfl rfl rfl
      (@WorkerStep.startFinish WireBody sharedEnvironment _ 0 0 _ _ _ rfl
        rfl rfl (by
          intro finished
          cases finished)) (stores_of_unconfirmed rfl))).snoc
    (@FleetStep.storeReply WireBody sharedEnvironment _ 0 _ .index _ _ rfl
      (.tail _ (.tail _ (.head _)))
      (fun stores => List.not_mem_nil stores.choose_spec.1))
  have again := ((((((((answered.snoc
    (@FleetStep.loseConnection WireBody sharedEnvironment _ 0 _ false
      rfl)).snoc
    (@FleetStep.deliver WireBody sharedEnvironment _ 0 1 _ _ textMessage []
      0 0 _ rfl rfl ⟨rfl, rfl, rfl, rfl⟩ rfl rfl
      (.receive rfl rfl (List.forall_mem_nil _)))).snoc
    (@FleetStep.work WireBody sharedEnvironment _ 1 _ _ _ rfl rfl rfl
      (@WorkerStep.takeBatch WireBody sharedEnvironment _ .index 0 _ _ rfl
        rfl rfl) (stores_of_unconfirmed rfl))).snoc
    (@FleetStep.work WireBody sharedEnvironment _ 1 _ _ _ rfl rfl rfl
      (@WorkerStep.startProcess WireBody sharedEnvironment _ 0 _
        (fun _ => 0) 0 rfl rfl rfl) (stores_of_unconfirmed rfl))).snoc
    (@FleetStep.work WireBody sharedEnvironment _ 1 _ _ _ rfl rfl rfl
      (@WorkerStep.engineReplies WireBody sharedEnvironment _ 0 _ _
        (.ok { embeddings := [[]], truncated := [false], tookMs := .zero })
        rfl rfl) (stores_of_unconfirmed rfl))).snoc
    (@FleetStep.work WireBody sharedEnvironment _ 1 _ _ _ rfl rfl rfl
      (@WorkerStep.endThread WireBody sharedEnvironment _ 0 _ _ rfl rfl)
      (stores_of_unconfirmed rfl))).snoc
    (@FleetStep.work WireBody sharedEnvironment _ 1 _ _ _ rfl rfl rfl
      (@WorkerStep.collectOutcomes WireBody sharedEnvironment _ 0 _ _ rfl
        rfl rfl) (stores_of_unconfirmed rfl))).snoc
    (@FleetStep.work WireBody sharedEnvironment _ 1 _ _ _ rfl rfl rfl
      (@WorkerStep.startFinish WireBody sharedEnvironment _ 0 0 _ _ _ rfl
        rfl rfl (by
          intro finished
          cases finished)) (stores_of_unconfirmed rfl))).snoc
    (@FleetStep.storeReply WireBody sharedEnvironment _ 1 _ .index _ _ rfl
      (.tail _ (.tail _ (.head _))) (by
        rintro ⟨stored, member, sameWorker, _⟩
        rw [List.mem_singleton.mp member] at sameWorker
        exact absurd sameWorker (by decide)))
  have agree := @repliesAgree WireBody sharedEnvironment Unit sampleCalls
    {} sampleEngine _ _ _ _ _ rfl sampleCalls_textWise again (by
      simp only [List.nil_append, List.cons_append, List.forall_mem_cons]
      refine ⟨trivial, trivial, trivial, trivial, trivial, trivial, trivial,
        trivial, trivial, trivial, sampleEngine_replies, trivial, trivial,
        trivial, trivial, trivial, trivial, trivial, trivial,
        sampleEngine_replies, trivial, trivial, trivial, trivial, ?_⟩
      exact List.forall_mem_nil _)
    textRequest _ _ (.head _) (.tail _ (.head _)) ⟨rfl, rfl, rfl, rfl⟩
    ⟨rfl, rfl, rfl, rfl⟩
  obtain ⟨one, two, firstDumped, secondDumped, verdict⟩ := agree
  have written := WireBody.reply.inj (Option.some.inj firstDumped)
  have otherWritten := WireBody.reply.inj (Option.some.inj secondDumped)
  have named : one.workerId = some (pyStr "one") :=
    congrArg EmbeddingResult.workerId written
  have otherNamed : two.workerId = some (pyStr "two") :=
    congrArg EmbeddingResult.workerId otherWritten
  have workers : one.workerId ≠ two.workerId := by
    rw [named, otherNamed]
    decide
  exact ⟨_, _, _, one, two, again.reachable, rfl,
    (congrArg WireBody.reply written).symm,
    (congrArg WireBody.reply otherWritten).symm, workers,
    verdict.vectors (congrArg EmbeddingResult.status written)
      (congrArg EmbeddingResult.status otherWritten), verdict.ids rfl⟩

end EmbeddingService
