import EmbeddingService.Engine.Encode
import EmbeddingService.Http.EngineHealth
import EmbeddingService.Http.Served
import EmbeddingService.System.Poison

/-!
# The same answer over both transports

The HTTP application encodes every request on its own; a worker encodes it
together with whatever else is in its batch, or again after a failure.  With
one model behind both, a result from the queue and a response over HTTP to the
same request have the same content.
-/

namespace EmbeddingService

open LabelledRuns

/-- A response of the HTTP application holds the engine's answers. -/
structure AnswersRequest (engine : EngineInfo) (answers : TextAnswers)
    (payload : EmbeddingRequest) (response : EmbeddingResponse) : Prop where
  embeddings : response.embeddings = payload.input.map (fun text =>
    (answers payload.inputType payload.normalize text).vector)
  truncated : response.truncated = payload.input.map (fun text =>
    (answers payload.inputType payload.normalize text).truncated)
  count : response.count = payload.input.length
  inputType : response.inputType = payload.inputType
  normalized : response.normalized = payload.normalize
  modelName : response.modelName = engine.modelName
  dimensions : response.dimensions = engine.dimensions

/-- A result and a response say the same. -/
structure SameContent (result : EmbeddingResult)
    (response : EmbeddingResponse) : Prop where
  embeddings : result.embeddings = response.embeddings
  truncated : result.truncated = response.truncated
  count : result.count = response.count
  inputType : result.inputType = some response.inputType
  normalized : result.normalized = some response.normalized
  modelName : result.modelName = some response.modelName
  dimensions : result.dimensions = some response.dimensions

theorem sameContent_of_answers {engine : EngineInfo}
    {answers : TextAnswers} {job : EmbeddingJob} {result : EmbeddingResult}
    {response : EmbeddingResponse}
    (queued : AnswersJob engine answers job result)
    (served : AnswersRequest engine answers job.toEmbeddingRequest
      response) : SameContent result response where
  embeddings := queued.embeddings.trans served.embeddings.symm
  truncated := queued.truncated.trans served.truncated.symm
  count := by
    rw [queued.attributed.2.2.2, served.count]
  inputType := by
    rw [queued.inputType, served.inputType]
  normalized := by
    rw [queued.normalized, served.normalized]
  modelName := by
    rw [queued.modelName, served.modelName]
  dimensions := by
    rw [queued.dimensions, served.dimensions]

section Transports

variable {Weights : Type} (calls : ModelCalls Weights)
  (settings : EngineSettings) (engine : EmbeddingEngine Weights)

/-- The engine behind the HTTP application: what `encode` replies, with its
time as an exact number. -/
def timedReplies : TimedReplies := fun request reply =>
  match reply with
  | .error raised => EngineReplies calls settings engine request
      (.error raised)
  | .ok timed =>
      ∃ encoded, EngineReplies calls settings engine request
          (.ok encoded) ∧
        timed.embeddings = encoded.embeddings ∧
        timed.truncated = encoded.truncated

variable {calls} {settings} {engine}
  {model : SentenceTransformer Weights}
  {vector : Bool → PyStr → List PyFloat} {tokens : PyStr → Int}

/-- Every 200 holds the answers to the texts of its own request. -/
theorem response_answers {anyio : Anyio} {info : EngineInfo}
    (documented : anyio.Documented) (loaded : engine.model = some model)
    (textWise : calls.TextWise model vector tokens)
    {limiter : anyio.Limiter} {app : HttpApp anyio}
    (reached : Reachable
      (ServeStep anyio info (timedReplies calls settings engine))
      { limiter := limiter } app)
    {request : HttpRequest} (member : request ∈ app.requests)
    {response : EmbeddingResponse}
    (answered : request.state = .ended (.ok response)) :
    AnswersRequest info (engineAnswer settings model vector tokens)
      request.payload response := by
  obtain ⟨timed, ⟨encoded, replied, embeddings, truncated⟩, same⟩ :=
    (allServed_of_reachable documented reached request member).answered
      response answered
  obtain ⟨vectors, flags⟩ := replied.encoded loaded textWise
  subst same
  refine ⟨embeddings.trans vectors, truncated.trans flags, ?_, rfl, rfl,
    rfl, rfl⟩
  change timed.embeddings.length = request.payload.input.length
  rw [embeddings, vectors, List.length_map]
  rfl

variable {Body : Type} {environment : Environment Body}
  {workerId : PyStr} {lanes : List LaneName} {worker : Worker Body}

/-- Every `ok` a worker publishes holds the answers to the texts of the job in
its message. -/
theorem published_answers (loaded : engine.model = some model)
    (textWise : calls.TextWise model vector tokens)
    {labels : List (WorkerAction Body)}
    (run : Run (WorkerStep environment)
      (Worker.start Body workerId lanes) labels worker)
    (replies : ∀ label ∈ labels,
      label.EngineAllowed (EngineReplies calls settings engine))
    {lane : LaneName} {message : Message Body} {reply : Reply Body}
    (published : .published lane message reply ∈ worker.log) :
    ∃ result, environment.dumpResult result = some reply.body ∧
      (result.status = .ok →
        ∃ job, ParsedAs environment workerId message job ∧
          AnswersJob environment.engine
            (engineAnswer settings model vector tokens) job result) := by
  have sound := run.invariant replies
    (workerSound_start lanes)
    (fun _ _ _ sound allowed taken =>
      sound.step (splitsGood_answersJob environment.engine (some workerId)
        loaded textWise) allowed taken)
  obtain ⟨_, _, _, result, retry, body, replyTo, answer, dumped, _, same⟩ :=
    sound.ledgerSound.justified.of_mem published
  subst same
  refine ⟨result, dumped, fun succeeded => ?_⟩
  cases answer with
  | encoded parsed good =>
      exact ⟨_, parsed, good⟩
  | rejected parsed =>
      rw [rejection_status parsed] at succeeded
      cases succeeded
  | expired parsed late indexed =>
      cases succeeded
  | failed parsed queried =>
      cases succeeded

variable (environment) (workerId) (lanes)

/-- However a job is batched, retried and interleaved with others on a worker,
what the worker publishes with status `ok` are the engine's answers to the
texts of the job, each text by itself; however a request waits and encodes over
HTTP, so is what the application answers with 200; and a job that asks what a
request asks gets the same content. -/
theorem transportsAgree (loaded : engine.model = some model)
    (textWise : calls.TextWise model vector tokens) :
    (∀ labels worker,
      Run (WorkerStep environment) (Worker.start Body workerId lanes) labels
        worker →
      (∀ label ∈ labels,
        label.EngineAllowed (EngineReplies calls settings engine)) →
      ∀ lane message reply, .published lane message reply ∈ worker.log →
        ∃ result, environment.dumpResult result = some reply.body ∧
          (result.status = .ok →
            ∃ job, ParsedAs environment workerId message job ∧
              AnswersJob environment.engine
                (engineAnswer settings model vector tokens) job result)) ∧
    (∀ (anyio : Anyio) (limiter : anyio.Limiter) (app : HttpApp anyio),
      anyio.Documented →
      Reachable
        (ServeStep anyio environment.engine
          (timedReplies calls settings engine)) { limiter := limiter } app →
      ∀ request ∈ app.requests, ∀ response,
        request.state = .ended (.ok response) →
          AnswersRequest environment.engine
            (engineAnswer settings model vector tokens) request.payload
            response) ∧
    ∀ job result response,
      AnswersJob environment.engine
          (engineAnswer settings model vector tokens) job result →
        AnswersRequest environment.engine
            (engineAnswer settings model vector tokens)
            job.toEmbeddingRequest response →
          SameContent result response := by
  refine ⟨?_, ?_, ?_⟩
  · intro labels worker run replies lane message reply published
    exact published_answers loaded textWise run replies published
  · intro anyio limiter app documented reached request member response
      answered
    exact response_answers documented loaded textWise reached member answered
  · intro job result response queued served
    exact sameContent_of_answers queued served

end Transports

section Sample

/-- A model whose vectors are empty and whose tokens are code points. -/
def sampleCalls : ModelCalls Unit where
  encodes := fun _ texts _ _ vectors =>
    vectors = .ok (texts.map (fun _ => []))
  lengths := fun _ texts lengths =>
    lengths = .ok (texts.map (fun text => (text.length : Int)))

def sampleEngine : EmbeddingEngine Unit where
  model := some { weights := (), maxSeqLength := 512 }

theorem sampleCalls_textWise :
    sampleCalls.TextWise { weights := (), maxSeqLength := 512 }
      (fun _ _ => []) (fun text => (text.length : Int)) where
  encodes := by
    intro texts size normalize vectors encodes
    exact Except.ok.inj encodes
  lengths := by
    intro texts lengths counts
    exact Except.ok.inj counts

/-- The encode of the one text. -/
theorem sampleEngine_replies :
    EngineReplies sampleCalls {} sampleEngine
      { texts := [pyStr "text"], inputType := .passage, normalize := true }
      (.ok { embeddings := [[]], truncated := [false], tookMs := .zero }) :=
  by
    refine ⟨.ok [[]], .ok [4], .zero, ?_, rfl⟩
    rintro model _
    exact ⟨rfl, rfl⟩

def sharedEnvironment : Environment WireBody :=
  { wireEnvironment with engine := smallEngine }

/-- A request for the one text, over the queue. -/
def textMessage : Message WireBody where
  tag := 0
  body := .request [(pyStr "input", .list [.str (pyStr "text")])]
  messageId := some (pyStr "job")
  replyTo := some (pyStr "results")

end Sample

/-- One text is asked for over both transports. -/
theorem transportsAgree_oneText :
    ∃ (labels : List (WorkerAction WireBody)) (worker : Worker WireBody)
      (reply : Reply WireBody) (result : EmbeddingResult),
      Run (WorkerStep sharedEnvironment)
        (Worker.start WireBody (pyStr "worker") [.index]) labels worker ∧
      .published .index textMessage reply ∈ worker.log ∧
      reply.body = .reply result.onWire ∧
      SameContent result
        (embeddingResponse smallEngine oneText tenMilliseconds) := by
  have encoded :=
    (((((((((Run.nil
      (Worker.start WireBody (pyStr "worker") [.index])).snoc
      (@WorkerStep.consume WireBody sharedEnvironment _ _ _ rfl)).snoc
      (.startLoop rfl rfl)).snoc
      (@WorkerStep.receive WireBody sharedEnvironment _ .index textMessage
        [] 0 0 rfl rfl (by
          intro handler member
          cases member))).snoc
      (@WorkerStep.takeBatch WireBody sharedEnvironment _ .index 0 _ _ rfl
        rfl rfl)).snoc
      (@WorkerStep.startProcess WireBody sharedEnvironment _ 0 _
        (fun _ => 0) 0 rfl rfl rfl)).snoc
      (@WorkerStep.engineReplies WireBody sharedEnvironment _ 0 _ _
        (.ok { embeddings := [[]], truncated := [false], tookMs := .zero })
        rfl rfl)).snoc
      (@WorkerStep.endThread WireBody sharedEnvironment _ 0 _ _ rfl
        rfl)).snoc
      (@WorkerStep.collectOutcomes WireBody sharedEnvironment _ 0 _ _ rfl
        rfl rfl)).snoc
      (@WorkerStep.startFinish WireBody sharedEnvironment _ 0 0 _ _ _ rfl
        rfl rfl (by
          intro finished
          cases finished))
  have start : Reachable
      (ServeStep fifoAnyio smallEngine
        (timedReplies sampleCalls {} sampleEngine))
      { limiter := { total := 1 } } { limiter := { total := 1 } } :=
    Reachable.refl _
  have served :=
    (((((start.tail ⟨.load, trivial⟩).tail
      ⟨@HttpStep.arrive fifoAnyio smallEngine _ oneText _ rfl rfl,
        trivial⟩).tail
      ⟨@HttpStep.acquire fifoAnyio smallEngine _ 0 _ _ rfl rfl
        ⟨by decide, by decide, rfl, rfl⟩, trivial⟩).tail
      ⟨@HttpStep.startThread fifoAnyio smallEngine _ 0 _ rfl rfl rfl,
        trivial⟩).tail
      ⟨@HttpStep.endThread fifoAnyio smallEngine _ 0 _ (.ok tenMilliseconds)
        rfl rfl, by
          rintro request work found running
          cases found
          cases running
          exact ⟨_, sampleEngine_replies, rfl, rfl⟩⟩).tail
      ⟨@HttpStep.resume fifoAnyio smallEngine _ 0 _
        (.returned tenMilliseconds) rfl rfl rfl, trivial⟩
  obtain ⟨published, responded, agree⟩ :=
    @transportsAgree Unit sampleCalls {} sampleEngine _ _ _ WireBody
      sharedEnvironment (pyStr "worker") [.index] rfl sampleCalls_textWise
  obtain ⟨result, dumped, answers⟩ := published _ _ encoded (by
    simp only [List.nil_append, List.cons_append, List.forall_mem_cons]
    exact ⟨trivial, trivial, trivial, trivial, trivial,
      sampleEngine_replies, trivial, trivial, trivial,
      List.forall_mem_nil _⟩) _ _ _ (.tail _ (.tail _ (.head _)))
  have written := WireBody.reply.inj (Option.some.inj dumped)
  have succeeded : result.status = .ok :=
    congrArg EmbeddingResult.status written
  obtain ⟨job, ⟨freshId, parsed⟩, queued⟩ := answers succeeded
  cases parsed
  exact ⟨_, _, _, result, encoded, .tail _ (.tail _ (.head _)),
    (congrArg WireBody.reply written).symm,
    agree _ _ _ queued
      (responded _ _ _ fifo_documented served _ (.head _) _ rfl)⟩

end EmbeddingService
