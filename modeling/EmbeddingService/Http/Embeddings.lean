import Mathlib.Algebra.Order.Field.Rat
import Mathlib.Data.Finset.Card
import EmbeddingService.Handler

/-!
# `POST /v1/embeddings`

A request waits for a token of the limiter, encodes in a thread and gives the
token back.  Every request is represented by the await it is suspended at; what
anyio does at an await is a parameter.
-/

namespace EmbeddingService

/-- What the HTTP layer reads of the settings. -/
structure HttpSettings where
  maxConcurrentEncodes : Int := 1
  device : Option PyStr := none

/-- `EncodeResult` with `took_ms` as an exact number. -/
structure TimedResult where
  embeddings : List (List PyFloat)
  truncated : List Bool
  tookMs : ℚ

structure EmbeddingResponse where
  modelName : PyStr
  dimensions : Int
  inputType : InputType
  normalized : Bool
  count : Nat
  truncated : List Bool
  embeddings : List (List PyFloat)
  tookMs : ℚ

/-- Where the thread that runs an encode is. -/
inductive ThreadState where
  | unstarted
  | running (work : EncodeCall)
  | ended (reply : Except PyException TimedResult)

def ThreadState.isRunning : ThreadState → Bool
  | .running _ => true
  | _ => false

/-- How an await of `to_thread.run_sync` ends. -/
inductive RunSyncEnding where
  | returned (result : TimedResult)
  | raised (raised : PyException)
  | cancelled

/-- What the service uses of anyio.  `acquire` is called, and returns, is left
by `CancelledError`, or raises; `none` stands for the `ValueError` of
`CapacityLimiter` and the `RuntimeError` of `release`. -/
structure Anyio where
  Limiter : Type
  capacityLimiter : Int → Option Limiter
  totalTokens : Limiter → Int
  borrowers : Limiter → Finset Nat
  calls : Limiter → Nat → Limiter → Prop
  acquires : Limiter → Nat → Limiter → Prop
  leaves : Limiter → Nat → Limiter → Prop
  refuses : Limiter → Nat → Prop
  release : Limiter → Nat → Option Limiter
  runSyncEnds : ThreadState → RunSyncEnding → Prop

/-- The tokens and who has them do not change. -/
structure Anyio.SameTokens (anyio : Anyio) (before after : anyio.Limiter) :
    Prop where
  total : anyio.totalTokens after = anyio.totalTokens before
  borrowers : anyio.borrowers after = anyio.borrowers before

/-- The documentation of anyio: a token is given while there is one, to a task
that has none, and taken back from a task that has one; an `acquire` that does
not return takes none; and `run_sync` ends only when its thread has. -/
structure Anyio.Documented (anyio : Anyio) : Prop where
  created : ∀ total limiter, anyio.capacityLimiter total = some limiter →
    0 ≤ total ∧ anyio.totalTokens limiter = total ∧
      anyio.borrowers limiter = ∅
  calls : ∀ before task after, anyio.calls before task after →
    anyio.SameTokens before after
  acquires : ∀ before task after, anyio.acquires before task after →
    ((anyio.borrowers before).card : Int) < anyio.totalTokens before ∧
      task ∉ anyio.borrowers before ∧
      anyio.totalTokens after = anyio.totalTokens before ∧
      anyio.borrowers after = insert task (anyio.borrowers before)
  leaves : ∀ before task after, anyio.leaves before task after →
    anyio.SameTokens before after
  releases : ∀ before task after, anyio.release before task = some after →
    task ∈ anyio.borrowers before ∧
      anyio.totalTokens after = anyio.totalTokens before ∧
      anyio.borrowers after = (anyio.borrowers before).erase task
  releasable : ∀ limiter task, task ∈ anyio.borrowers limiter →
    ∃ after, anyio.release limiter task = some after
  threadEnds : ∀ thread how, anyio.runSyncEnds thread how →
    thread.isRunning = false
  returned : ∀ thread result, anyio.runSyncEnds thread (.returned result) →
    thread = .ended (.ok result)

/-- What a request is answered with: 200, 503, what it raised, or nothing. -/
inductive HttpAnswer where
  | ok (response : EmbeddingResponse)
  | unavailable (detail : PyStr)
  | raised
  | cancelled

/-- Where a request is: at `_encode_limiter.acquire`, at `run_sync`, or
over. -/
inductive RequestState where
  | acquiring
  | encoding
  | ended (answer : HttpAnswer)

def RequestState.isEnded : RequestState → Bool
  | .ended _ => true
  | _ => false

/-- What a request did to the limiter. -/
inductive LimiterCall where
  | acquired
  | released
  | releaseRaised
  deriving DecidableEq, Repr

/-- A request, the thread of its encode, its variable `result`, and what it did
to the limiter so far. -/
structure HttpRequest where
  payload : EmbeddingRequest
  state : RequestState
  thread : ThreadState := .unstarted
  result : Option TimedResult := none
  calls : List LimiterCall := []

/-- `work`. -/
def HttpRequest.work (request : HttpRequest) : EncodeCall :=
  { texts := request.payload.input
    inputType := request.payload.inputType
    normalize := request.payload.normalize }

/-- The response of `create_embeddings`. -/
def embeddingResponse (engine : EngineInfo) (payload : EmbeddingRequest)
    (result : TimedResult) : EmbeddingResponse :=
  { modelName := engine.modelName
    dimensions := engine.dimensions
    inputType := payload.inputType
    normalized := payload.normalize
    count := result.embeddings.length
    truncated := result.truncated
    embeddings := result.embeddings
    tookMs := result.tookMs }

/-- The globals of `apis` and all requests so far. -/
structure HttpApp (anyio : Anyio) where
  limiter : anyio.Limiter
  ready : Bool := false
  tasksRun : Nat := 0
  totalTimeToProcessTillNow : ℚ := 0
  requests : List HttpRequest := []

inductive HttpAction where
  | load
  | arrive (payload : EmbeddingRequest)
  | acquire (request : Nat)
  | refuse (request : Nat)
  | timeOut (request : Nat)
  | cancelAcquire (request : Nat)
  | startThread (request : Nat)
  | endThread (request : Nat) (reply : Except PyException TimedResult)
  | resume (request : Nat) (how : RunSyncEnding)

namespace HttpApp

variable {anyio : Anyio}

def setRequest (app : HttpApp anyio) (number : Nat)
    (request : HttpRequest) : HttpApp anyio :=
  { app with requests := app.requests.set number request }

/-- A request stands at `acquire`. -/
def wait (app : HttpApp anyio) (payload : EmbeddingRequest)
    (limiter : anyio.Limiter) : HttpApp anyio :=
  { app with
    limiter := limiter
    requests := app.requests ++
      [{ payload := payload, state := .acquiring }] }

/-- A request is turned away while the model is loading. -/
def turnAway (app : HttpApp anyio) (payload : EmbeddingRequest) :
    HttpApp anyio :=
  { app with
    requests := app.requests ++
      [{ payload := payload
         state := .ended
          (.unavailable (pyStr "model is still loading")) }] }

/-- A request has its token and goes on to `run_sync`. -/
def beginEncode (app : HttpApp anyio) (number : Nat)
    (request : HttpRequest) (limiter : anyio.Limiter) : HttpApp anyio :=
  { app with
    limiter := limiter
    tasksRun := app.tasksRun + 1
    requests := app.requests.set number
      { request with
        state := .encoding
        calls := request.calls ++ [.acquired] } }

/-- A request ends without a token. -/
def giveUp (app : HttpApp anyio) (number : Nat) (request : HttpRequest)
    (limiter : anyio.Limiter) (answer : HttpAnswer) : HttpApp anyio :=
  { app with
    limiter := limiter
    requests := app.requests.set number
      { request with state := .ended answer } }

/-- The `finally` of `create_embeddings` and what the request ends with. -/
def leaveSlot (app : HttpApp anyio) (number : Nat) (request : HttpRequest)
    (answer : HttpAnswer) : HttpApp anyio :=
  match anyio.release app.limiter number with
  | some limiter =>
      { app with
        limiter := limiter
        requests := app.requests.set number
          { request with
            state := .ended answer
            calls := request.calls ++ [.released] } }
  | none =>
      app.setRequest number
        { request with
          state := .ended .raised
          calls := request.calls ++ [.releaseRaised] }

/-- `create_embeddings` from the end of `run_sync`. -/
def resume (engine : EngineInfo) (app : HttpApp anyio) (number : Nat)
    (request : HttpRequest) : RunSyncEnding → HttpApp anyio
  | .returned result =>
      { app with
        totalTimeToProcessTillNow :=
          app.totalTimeToProcessTillNow + result.tookMs }.leaveSlot number
        { request with result := some result }
        (.ok (embeddingResponse engine request.payload result))
  | .raised _ => app.leaveSlot number request .raised
  | .cancelled => app.leaveSlot number request .cancelled

end HttpApp

/-- The steps of the application.  Each request is a task of its own.  A
timeout or a cancellation can strike at any time at `acquire`; `run_sync` may
be cancelled as far as anyio lets it. -/
inductive HttpStep (anyio : Anyio) (engine : EngineInfo) :
    HttpApp anyio → HttpAction → HttpApp anyio → Prop
  | load {app : HttpApp anyio} :
      HttpStep anyio engine app .load { app with ready := true }
  | arrive {app : HttpApp anyio} {payload : EmbeddingRequest}
      {limiter : anyio.Limiter} (ready : app.ready = true)
      (calls : anyio.calls app.limiter app.requests.length limiter) :
      HttpStep anyio engine app (.arrive payload) (app.wait payload limiter)
  | arriveLoading {app : HttpApp anyio} {payload : EmbeddingRequest}
      (loading : app.ready = false) :
      HttpStep anyio engine app (.arrive payload) (app.turnAway payload)
  | acquire {app : HttpApp anyio} {number : Nat} {request : HttpRequest}
      {limiter : anyio.Limiter}
      (found : app.requests[number]? = some request)
      (acquiring : request.state = .acquiring)
      (acquires : anyio.acquires app.limiter number limiter) :
      HttpStep anyio engine app (.acquire number)
        (app.beginEncode number request limiter)
  | refuse {app : HttpApp anyio} {number : Nat} {request : HttpRequest}
      (found : app.requests[number]? = some request)
      (acquiring : request.state = .acquiring)
      (refuses : anyio.refuses app.limiter number) :
      HttpStep anyio engine app (.refuse number)
        (app.giveUp number request app.limiter .raised)
  | timeOut {app : HttpApp anyio} {number : Nat} {request : HttpRequest}
      {limiter : anyio.Limiter}
      (found : app.requests[number]? = some request)
      (acquiring : request.state = .acquiring)
      (leaves : anyio.leaves app.limiter number limiter) :
      HttpStep anyio engine app (.timeOut number)
        (app.giveUp number request limiter
          (.unavailable (pyStr "server busy, retry shortly")))
  | cancelAcquire {app : HttpApp anyio} {number : Nat}
      {request : HttpRequest} {limiter : anyio.Limiter}
      (found : app.requests[number]? = some request)
      (acquiring : request.state = .acquiring)
      (leaves : anyio.leaves app.limiter number limiter) :
      HttpStep anyio engine app (.cancelAcquire number)
        (app.giveUp number request limiter .cancelled)
  | startThread {app : HttpApp anyio} {number : Nat}
      {request : HttpRequest}
      (found : app.requests[number]? = some request)
      (encoding : request.state = .encoding)
      (unstarted : request.thread = .unstarted) :
      HttpStep anyio engine app (.startThread number)
        (app.setRequest number
          { request with thread := .running request.work })
  | endThread {app : HttpApp anyio} {number : Nat} {request : HttpRequest}
      {reply : Except PyException TimedResult}
      (found : app.requests[number]? = some request)
      (running : request.thread.isRunning = true) :
      HttpStep anyio engine app (.endThread number reply)
        (app.setRequest number { request with thread := .ended reply })
  | resume {app : HttpApp anyio} {number : Nat} {request : HttpRequest}
      {how : RunSyncEnding}
      (found : app.requests[number]? = some request)
      (encoding : request.state = .encoding)
      (ends : anyio.runSyncEnds request.thread how) :
      HttpStep anyio engine app (.resume number how)
        (app.resume engine number request how)

/-- `EngineResponse`. -/
structure EngineResponse where
  engineStatus : PyStr
  modelsSupported : List PyStr
  totalProcessedTasks : Nat
  averageTimeToProcess : ℚ
  device : Option PyStr

/-- `engine_health`. -/
def HttpApp.engineHealth {anyio : Anyio} (settings : HttpSettings)
    (app : HttpApp anyio) : EngineResponse :=
  { engineStatus :=
      if app.ready then pyStr "RUNNING" else pyStr "NOT_RUNNING"
    modelsSupported := [pyStr "BAAI/bge-small-en-v1.5"]
    totalProcessedTasks := app.tasksRun
    averageTimeToProcess :=
      app.totalTimeToProcessTillNow / max app.tasksRun 1
    device := settings.device }

end EmbeddingService
