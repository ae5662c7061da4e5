import EmbeddingService.Library.OrderedDict
import EmbeddingService.Client.Jobs

/-!
# The queries of a client

`embed_query` registers a future under its job id, publishes the job and waits;
`_on_reply` resolves the future a reply is meant for.  Every call is
represented by the await it is suspended at.
-/

namespace EmbeddingService

/-- The future of a call: not done, with a result, with the exception that
`close` sets, or cancelled. -/
inductive ReplyFuture where
  | pending
  | result (result : EmbeddingResult)
  | clientClosed
  | cancelled

def ReplyFuture.done : ReplyFuture → Bool
  | .pending => false
  | _ => true

/-- How a call of `embed_query` ends: with a result, `EmbeddingJobFailed`,
`EmbeddingTimeout`, `EmbeddingOverloaded`, the error of an unroutable request,
what else `_publish` raised, the exception of `close`, or cancelled. -/
inductive QueryOutcome where
  | returned (result : EmbeddingResult)
  | jobFailed (result : EmbeddingResult)
  | timedOut
  | overloaded
  | unroutable
  | publishRaised
  | clientClosed
  | cancelled

/-- What `publish` raises: `PublishError`, another `DeliveryError`, a
`TimeoutError`, or something else. -/
inductive PublishFailure where
  | publishError
  | deliveryError
  | timeoutError
  | other

/-- What `_publish` and `embed_query` make of it. -/
def PublishFailure.outcome : PublishFailure → QueryOutcome
  | .publishError => .unroutable
  | .deliveryError => .overloaded
  | .timeoutError => .timedOut
  | .other => .publishRaised

/-- Why `wait_for` gives up. -/
inductive StopReason where
  | timeout
  | cancellation

def StopReason.outcome : StopReason → QueryOutcome
  | .timeout => .timedOut
  | .cancellation => .cancelled

/-- Where a call is: at `_publish`, at `wait_for`, told to stop there but not
yet resumed, or over. -/
inductive QueryState where
  | publishing
  | waiting
  | stopping (reason : StopReason)
  | ended (outcome : QueryOutcome)

def QueryState.isEnded : QueryState → Bool
  | .ended _ => true
  | _ => false

/-- What `embed_query` was asked: the texts, the flag and the metadata it was
given, and the job it built. -/
structure Query where
  texts : Json
  normalize : Bool
  metadata : PyDict
  job : EmbeddingJob

/-- A call of `embed_query`. -/
structure QueryCall extends Query where
  state : QueryState := .publishing
  future : ReplyFuture := .pending

/-- Calls are numbered in the order of their registration; `pending` maps the
ids of their jobs to them. -/
structure EmbeddingClient where
  pending : OrderedDict PyStr Nat := OrderedDict.empty
  calls : List QueryCall := []

inductive ClientAction (Body : Type) where
  | call (texts : Json) (normalize : Bool) (metadata : PyDict)
      (freshId : PyStr) (deadline : Instant)
  | published (call : Nat)
  | publishFailed (call : Nat) (failure : PublishFailure)
  | receiveReply (correlationId : Option PyStr) (body : Body)
  | resume (call : Nat)
  | timeOut (call : Nat)
  | cancel (call : Nat)
  | stopped (call : Nat)
  | close

/-- What `embed_query` makes of a result. -/
def resultOutcome (result : EmbeddingResult) : QueryOutcome :=
  if result.status = .error then .jobFailed result else .returned result

/-- What `await` of a done future gives; `none` while it is not done. -/
def ReplyFuture.outcome? : ReplyFuture → Option QueryOutcome
  | .pending => none
  | .result reply => some (resultOutcome reply)
  | .clientClosed => some .clientClosed
  | .cancelled => some .cancelled

/-- `future.cancel()`, `future.set_result` and `future.set_exception` where
the future is not done. -/
def ReplyFuture.settle (next : ReplyFuture) (future : ReplyFuture) :
    ReplyFuture :=
  if future.done then future else next

namespace EmbeddingClient

def setCall (client : EmbeddingClient) (number : Nat) (call : QueryCall) :
    EmbeddingClient :=
  { client with calls := client.calls.set number call }

/-- The call registers its future. -/
def register (client : EmbeddingClient) (query : Query) :
    EmbeddingClient :=
  { pending := client.pending.assign query.job.jobId client.calls.length
    calls := client.calls ++ [{ toQuery := query }] }

/-- The `finally` of `embed_query` and what the call ends with. -/
def finish (client : EmbeddingClient) (number : Nat) (call : QueryCall)
    (outcome : QueryOutcome) : EmbeddingClient :=
  { pending := client.pending.erase call.job.jobId
    calls := client.calls.set number
      { call with state := .ended outcome } }

/-- `wait_for` gives up: a future that is not done is cancelled, and the call
is to be resumed. -/
def stop (client : EmbeddingClient) (number : Nat) (call : QueryCall)
    (reason : StopReason) : EmbeddingClient :=
  client.setCall number
    { call with
      state := .stopping reason
      future := ReplyFuture.settle .cancelled call.future }

/-- `_on_reply`. -/
def onReply {Body : Type} (client : EmbeddingClient)
    (serialization : Serialization Body) (correlationId : Option PyStr)
    (body : Body) : EmbeddingClient :=
  match serialization.loadResult body with
  | none => client
  | some result =>
      match client.pending.lookup (orDefault correlationId result.jobId) with
      | none => client
      | some number =>
          match client.calls[number]? with
          | none => client
          | some call =>
              client.setCall number
                { call with
                  future :=
                    ReplyFuture.settle (.result result) call.future }

/-- The loop of `close` over the pending futures. -/
def close (client : EmbeddingClient) : EmbeddingClient :=
  let numbers := client.pending.entries.map Prod.snd
  { pending := OrderedDict.empty
    calls := client.calls.mapIdx (fun number call =>
      if number ∈ numbers then
        { call with
          future := ReplyFuture.settle .clientClosed call.future }
      else
        call) }

end EmbeddingClient

/-- The steps of a client.  `wait_for` may time out or be cancelled although
the future has just been done; a cancelled call that was timing out ends as
cancelled. -/
inductive ClientStep {Body : Type} (environment : ClientEnvironment Body) :
    EmbeddingClient → ClientAction Body → EmbeddingClient → Prop
  | call {client : EmbeddingClient} {texts : Json} {normalize : Bool}
      {metadata : PyDict} {freshId : PyStr} {deadline : Instant}
      {job : EmbeddingJob}
      (built : queryJob environment freshId texts normalize metadata
        deadline = .ok job) :
      ClientStep environment client
        (.call texts normalize metadata freshId deadline)
        (client.register
          { texts := texts
            normalize := normalize
            metadata := metadata
            job := job })
  | published {client : EmbeddingClient} {number : Nat} {call : QueryCall}
      {body : Body}
      (found : client.calls[number]? = some call)
      (publishing : call.state = .publishing)
      (dumped : environment.serialization.dumpJob call.job = some body) :
      ClientStep environment client (.published number)
        (client.setCall number { call with state := .waiting })
  | publishFailed {client : EmbeddingClient} {number : Nat}
      {call : QueryCall} {failure : PublishFailure}
      (found : client.calls[number]? = some call)
      (publishing : call.state = .publishing) :
      ClientStep environment client (.publishFailed number failure)
        (client.finish number call failure.outcome)
  | receiveReply {client : EmbeddingClient}
      {correlationId : Option PyStr} {body : Body} :
      ClientStep environment client (.receiveReply correlationId body)
        (client.onReply environment.serialization correlationId body)
  | resume {client : EmbeddingClient} {number : Nat} {call : QueryCall}
      {outcome : QueryOutcome}
      (found : client.calls[number]? = some call)
      (waiting : call.state = .waiting)
      (done : call.future.outcome? = some outcome) :
      ClientStep environment client (.resume number)
        (client.finish number call outcome)
  | timeOut {client : EmbeddingClient} {number : Nat} {call : QueryCall}
      (found : client.calls[number]? = some call)
      (waiting : call.state = .waiting) :
      ClientStep environment client (.timeOut number)
        (client.stop number call .timeout)
  | cancelPublishing {client : EmbeddingClient} {number : Nat}
      {call : QueryCall}
      (found : client.calls[number]? = some call)
      (publishing : call.state = .publishing) :
      ClientStep environment client (.cancel number)
        (client.finish number call .cancelled)
  | cancelWaiting {client : EmbeddingClient} {number : Nat}
      {call : QueryCall}
      (found : client.calls[number]? = some call)
      (waiting : call.state = .waiting) :
      ClientStep environment client (.cancel number)
        (client.stop number call .cancellation)
  | cancelStopping {client : EmbeddingClient} {number : Nat}
      {call : QueryCall} {reason : StopReason}
      (found : client.calls[number]? = some call)
      (stopping : call.state = .stopping reason) :
      ClientStep environment client (.cancel number)
        (client.stop number call .cancellation)
  | stopped {client : EmbeddingClient} {number : Nat} {call : QueryCall}
      {reason : StopReason}
      (found : client.calls[number]? = some call)
      (stopping : call.state = .stopping reason) :
      ClientStep environment client (.stopped number)
        (client.finish number call reason.outcome)
  | close {client : EmbeddingClient} :
      ClientStep environment client .close client.close

end EmbeddingService
