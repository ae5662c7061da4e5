import EmbeddingService.Handler

/-!
# Settling one delivery

The coroutines that end with the `ack` or `nack` of a delivery, cut at their
awaits: `_settle` with `_reply`, `_expire`, `_finish`, and `_on_message`.  Each
part runs without interruption; it records what it does as events.
-/

namespace EmbeddingService

/-- A header, by what `int(value or 0)` makes of its value: it is missing or
falsy, or `int` converts it, or `int` raises.  The broker writes numbers, but
a publisher may set any value on a first delivery. -/
inductive CountHeader where
  | missing
  | count (value : Int)
  | unreadable (raised : PyException)

/-- `int(headers.get(name) or 0)`. -/
def CountHeader.read : CountHeader → Except PyException Int
  | .missing => .ok 0
  | .count value => .ok value
  | .unreadable raised => .error raised

/-- What a worker reads of an incoming message.  The counts are the headers
`x-acquired-count` and `x-delivery-count`; `tag` names the delivery. -/
structure Message (Body : Type) where
  tag : Nat
  body : Body
  messageId : Option PyStr := none
  correlationId : Option PyStr := none
  replyTo : Option PyStr := none
  acquiredCount : CountHeader := .missing
  deliveryCount : CountHeader := .missing

/-- `delivery_attempt`: the 1-based number of this delivery, or what `int`
raises. -/
def deliveryAttempt {Body : Type} (message : Message Body) :
    Except PyException Int := do
  let acquired ← message.acquiredCount.read
  let delivered ← message.deliveryCount.read
  return max acquired delivered + 1

structure Delivery (Body : Type) where
  message : Message Body
  job : EmbeddingJob

/-- What the code of a worker depends on: its own settings, those the
validators read, the interpreter, the constants of the engine, and the dump
of a result, which is `none` where `model_dump_json().encode()` raises. -/
structure Environment (Body : Type) where
  settings : Settings
  schemaSettings : Settings
  python : Interpreter Body
  engine : EngineInfo
  dumpResult : EmbeddingResult → Option Body

/-- A reply as handed to `publish`. -/
structure Reply (Body : Type) where
  body : Body
  contentType : PyStr
  correlationId : PyStr
  messageId : PyStr
  type : PyStr
  appId : PyStr
  persistent : Bool
  routingKey : PyStr
  mandatory : Bool

/-- How an awaited call or a coroutine ends. -/
inductive Ending where
  | returned
  | raised
  | cancelled
  deriving DecidableEq, Repr

/-- What a worker does, in the order it does it. -/
inductive Event (Body : Type) where
  | drainingBegan
  | buffered (lane : LaneName) (message : Message Body)
  | rejected (lane : LaneName) (message : Message Body)
      (result : EmbeddingResult)
  | expired (lane : LaneName) (message : Message Body) (now : Instant)
  | encodeStarted (lane : LaneName) (jobs : List EmbeddingJob)
      (now : Instant)
  | encodeFailed (lane : LaneName) (message : Message Body)
      (raised : PyException)
  | published (lane : LaneName) (message : Message Body)
      (reply : Reply Body)
  | confirmed (lane : LaneName) (message : Message Body)
      (reply : Reply Body)
  | replyFailed (lane : LaneName) (message : Message Body)
      (result : EmbeddingResult) (retry : Bool)
  | acked (lane : LaneName) (message : Message Body)
  | nacked (lane : LaneName) (message : Message Body) (requeue : Bool)

/-- Whether an event is the `ack` or `nack` call of the delivery `tag`. -/
def Event.settles {Body : Type} (tag : Nat) : Event Body → Bool
  | .acked _ message => message.tag == tag
  | .nacked _ message _ => message.tag == tag
  | _ => false

/-- How often `ack` or `nack` was called for the delivery `tag`. -/
def settlements {Body : Type} (tag : Nat) (log : List (Event Body)) : Nat :=
  log.countP (Event.settles tag)

/-- Where the settlement of a delivery stands: at the publish of its reply,
at the `ack` or `nack`, or over. -/
inductive Settling (Body : Type) where
  | publishing (result : EmbeddingResult) (retry : Bool)
      (reply : Reply Body)
  | acking
  | nacking (requeue : Bool)
  | ended (how : Ending)

/-- The calls a settlement awaits. -/
inductive BrokerCall where
  | publish
  | ack
  | nack
  deriving DecidableEq, Repr

/-- The call a settlement is suspended at. -/
def Settling.call? {Body : Type} : Settling Body → Option BrokerCall
  | .publishing _ _ _ => some .publish
  | .acking => some .ack
  | .nacking _ => some .nack
  | .ended _ => none

/-- A part of a coroutine between two awaits: where it stops and what it did. -/
abbrev Segment (Body State : Type) := State × List (Event Body)

section Coroutines

variable {Body : Type} (environment : Environment Body) (workerId : PyStr)
  (lane : LaneName)

/-- The message `_reply` publishes. -/
def replyMessage (message : Message Body) (result : EmbeddingResult)
    (replyTo : PyStr) (body : Body) : Reply Body :=
  { body := body
    contentType := pyStr "application/json"
    correlationId := orDefault message.correlationId result.jobId
    messageId := result.jobId
    type := resultType
    appId := workerId
    persistent := (laneSpecs environment.settings lane).persistentReply
    routingKey := replyTo
    mandatory := (laneSpecs environment.settings lane).mandatoryReply }

/-- `_settle` up to its first await.  Without `reply_to` the result is dropped
and the message acked; a result that cannot be dumped counts as a failed
reply. -/
def settle (message : Message Body) (result : EmbeddingResult)
    (retry : Bool) : Segment Body (Settling Body) :=
  match message.replyTo with
  | some (point :: rest) =>
      match environment.dumpResult result with
      | none =>
          (.nacking retry,
            [.replyFailed lane message result retry,
              .nacked lane message retry])
      | some body =>
          let reply :=
            replyMessage environment workerId lane message result
              (point :: rest) body
          (.publishing result retry reply, [.published lane message reply])
  | _ => (.acking, [.acked lane message])

/-- `_settle` from one await to the next.  Only `Exception`s of the publish
are handled; whatever `ack` or `nack` raises goes to the caller. -/
def Settling.resume (message : Message Body) :
    Settling Body → Ending → Segment Body (Settling Body)
  | .publishing _ _ reply, .returned =>
      (.acking,
        [.confirmed lane message reply, .acked lane message])
  | .publishing result retry _, .raised =>
      (.nacking retry,
        [.replyFailed lane message result retry,
          .nacked lane message retry])
  | .publishing _ _ _, .cancelled => (.ended .cancelled, [])
  | .acking, how => (.ended how, [])
  | .nacking _, how => (.ended how, [])
  | .ended how, _ => (.ended how, [])

/-- The error reply to a job whose deadline has passed. -/
def expiredError (job : EmbeddingJob) : EmbeddingResult :=
  errorResult job.jobId .expired
    (pyStr "deadline passed before the job was processed")
    (some job.metadata) (some workerId)

/-- `_expire` up to its first await.  The caller of an expired query has given
up, so a reply would go nowhere. -/
def expire (delivery : Delivery Body) (now : Instant) :
    Segment Body (Settling Body) :=
  match lane with
  | .query =>
      (.acking,
        [.expired lane delivery.message now,
          .acked lane delivery.message])
  | .index =>
      let settled :=
        settle environment workerId lane delivery.message
          (expiredError workerId delivery.job) false
      (settled.1, .expired lane delivery.message now :: settled.2)

/-- The error reply to a query whose encode failed. -/
def internalError (job : EmbeddingJob) : EmbeddingResult :=
  errorResult job.jobId .internalError (pyStr "embedding failed")
    (some job.metadata) (some workerId)

/-- `_finish` up to its first await. -/
def finish (delivery : Delivery Body) :
    Outcome → Segment Body (Settling Body)
  | .error raised =>
      let spec := laneSpecs environment.settings lane
      if spec.retryOnFailure then
        match deliveryAttempt delivery.message with
        | .error _ =>
            -- The exception leaves `_finish`; nothing is called.
            (.ended .raised, [.encodeFailed lane delivery.message raised])
        | .ok attempt =>
            -- `requeue=False` on a queue with a dead-letter exchange
            -- dead-letters.
            let requeue :=
              !decide (environment.settings.indexDeliveryLimit ≤ attempt)
            (.nacking requeue,
              [.encodeFailed lane delivery.message raised,
                .nacked lane delivery.message requeue])
      else
        let settled :=
          settle environment workerId lane delivery.message
            (internalError workerId delivery.job) spec.retryOnFailure
        (settled.1, .encodeFailed lane delivery.message raised :: settled.2)
  | .ok result =>
      settle environment workerId lane delivery.message result
        (laneSpecs environment.settings lane).retryOnFailure

/-- `parse_job` as `_on_message` calls it. -/
def parseMessage (freshId : PyStr) (message : Message Body) :
    Except ParseEscape Parsed :=
  parseJob environment.schemaSettings environment.python freshId
    message.body (either message.messageId message.correlationId)
    (some workerId)

/-- Where `_on_message` is: settling the message, done after adding it to the
batcher, or left by an exception of `parse_job`. -/
inductive HandlerState (Body : Type) where
  | settling (settling : Settling Body)
  | buffered (job : EmbeddingJob)
  | escaped (escape : ParseEscape)

/-- `_on_message` up to its first await. -/
def onMessage (draining : Bool) (freshId : PyStr) (now : Instant)
    (message : Message Body) : Segment Body (HandlerState Body) :=
  if draining then
    (.settling (.nacking true), [.nacked lane message true])
  else
    match parseMessage environment workerId freshId message with
    | .error escape => (.escaped escape, [])
    | .ok (.rejection result) =>
        -- Retrying a malformed message cannot help: answer and drop it.
        let settled :=
          settle environment workerId lane message result false
        (.settling settled.1, .rejected lane message result :: settled.2)
    | .ok (.job job) =>
        if isExpired job now then
          let expiring :=
            expire environment workerId lane
              { message := message, job := job } now
          (.settling expiring.1, expiring.2)
        else
          (.buffered job, [.buffered lane message])

end Coroutines

section Finish

variable {Body : Type} {environment : Environment Body} {workerId : PyStr}
  {delivery : Delivery Body} {raised : PyException}

theorem finish_of_unreadable {unreadable : PyException}
    (read : deliveryAttempt delivery.message = .error unreadable) :
    finish environment workerId .index delivery (.error raised) =
      (.ended .raised, [.encodeFailed .index delivery.message raised]) := by
  simp [finish, laneSpecs, read]

theorem finish_of_read {attempt : Int}
    (read : deliveryAttempt delivery.message = .ok attempt) :
    finish environment workerId .index delivery (.error raised) =
      (.nacking
          (!decide (environment.settings.indexDeliveryLimit ≤ attempt)),
        [.encodeFailed .index delivery.message raised,
          .nacked .index delivery.message
            (!decide (environment.settings.indexDeliveryLimit ≤
              attempt))]) := by
  simp [finish, laneSpecs, read]

end Finish

/-- A settlement ends as the call it awaits ended. -/
theorem resume_ended {Body : Type} {lane : LaneName}
    {message : Message Body} {state : Settling Body} {call : BrokerCall}
    {how ending : Ending} (awaited : state.call? = some call)
    (ended : (state.resume lane message how).1 = .ended ending) :
    ending = how := by
  cases state with
  | publishing result retry reply =>
      cases how <;> simp_all [Settling.resume]
  | acking =>
      simpa [Settling.resume, eq_comm] using ended
  | nacking requeue =>
      simpa [Settling.resume, eq_comm] using ended
  | ended before =>
      cases awaited

section OnMessage

variable {Body : Type} {environment : Environment Body} {workerId : PyStr}
  {lane : LaneName} {freshId : PyStr} {now : Instant}
  {message : Message Body}

theorem onMessage_of_draining :
    onMessage environment workerId lane true freshId now message =
      (.settling (.nacking true), [.nacked lane message true]) :=
  rfl

theorem onMessage_of_escape {escape : ParseEscape}
    (escaped : parseMessage environment workerId freshId message =
      .error escape) :
    onMessage environment workerId lane false freshId now message =
      (.escaped escape, []) := by
  simp [onMessage, escaped]

theorem onMessage_of_rejection {result : EmbeddingResult}
    (parsed : parseMessage environment workerId freshId message =
      .ok (.rejection result)) :
    onMessage environment workerId lane false freshId now message =
      (.settling
          (settle environment workerId lane message result false).1,
        .rejected lane message result ::
          (settle environment workerId lane message result false).2) := by
  simp [onMessage, parsed]

theorem onMessage_of_expired {job : EmbeddingJob}
    (parsed : parseMessage environment workerId freshId message =
      .ok (.job job))
    (late : isExpired job now = true) :
    onMessage environment workerId lane false freshId now message =
      (.settling (expire environment workerId lane
          { message := message, job := job } now).1,
        (expire environment workerId lane
          { message := message, job := job } now).2) := by
  simp [onMessage, parsed, late]

theorem onMessage_of_buffered {job : EmbeddingJob}
    (parsed : parseMessage environment workerId freshId message =
      .ok (.job job))
    (early : isExpired job now = false) :
    onMessage environment workerId lane false freshId now message =
      (.buffered job, [.buffered lane message]) := by
  simp [onMessage, parsed, early]

end OnMessage

end EmbeddingService
