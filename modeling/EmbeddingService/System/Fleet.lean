import EmbeddingService.Worker.Origins

/-!
# Workers at a broker

Any number of worker processes consume the two job queues of a broker.  The
broker hands out messages, takes back what is nacked or left unacked by a lost
connection, and stores the replies; requests, worker processes and replies are
numbered in the order in which they appear and never removed.
-/

namespace EmbeddingService

open LabelledRuns

/-- A request as it was published to the queue of a lane. -/
structure Publication (Body : Type) where
  lane : LaneName
  body : Body
  messageId : Option PyStr := none
  correlationId : Option PyStr := none
  replyTo : Option PyStr := none

/-- A delivered message is a published one. -/
structure Message.Carries {Body : Type} (message : Message Body)
    (publication : Publication Body) : Prop where
  body : message.body = publication.body
  messageId : message.messageId = publication.messageId
  correlationId : message.correlationId = publication.correlationId
  replyTo : message.replyTo = publication.replyTo

/-- Where a request is: in its queue, with a worker, acked, in
`embedding.dead`, or gone, which happens to queries only. -/
inductive Place (Body : Type) where
  | ready
  | unacked (worker : Nat) (message : Message Body)
  | acked
  | dead
  | dropped

structure Request (Body : Type) where
  publication : Publication Body
  place : Place Body := .ready
  deliveries : Nat := 0

/-- Where a stored reply is: in its queue, with a call of a results consumer,
acked, or rejected. -/
inductive ReplyPlace where
  | ready
  | unacked (call : Nat)
  | acked
  | rejected
  deriving DecidableEq, Repr

/-- A reply the broker took from a worker; `handled` once a results handler
returned for it. -/
structure StoredReply (Body : Type) where
  worker : Nat
  message : Message Body
  reply : Reply Body
  place : ReplyPlace := .ready
  handled : Bool := false

/-- One worker process; a crashed one takes no more steps. -/
structure Replica (Body : Type) where
  worker : Worker Body
  crashed : Bool := false

structure Fleet (Body : Type) where
  replicas : List (Replica Body) := []
  requests : List (Request Body) := []
  replies : List (StoredReply Body) := []

inductive FleetAction (Body : Type) where
  | publish (publication : Publication Body)
  | startWorker (workerId : PyStr) (lanes : List LaneName)
  | deliver (request worker : Nat) (message : Message Body)
      (earlier : Nat) (freshId : PyStr) (now : Instant) (clock : Seconds)
  | work (worker : Nat) (action : WorkerAction Body)
  | storeReply (worker : Nat) (message : Message Body)
      (reply : Reply Body)
  | takeAck (request : Nat)
  | takeNack (request : Nat) (requeue : Bool)
  | loseConnection (worker : Nat) (crashes : Bool)
  | exceedLimit (request : Nat)
  | expire (request : Nat)

/-- What a delivery adds to the messages a worker received. -/
def WorkerAction.received {Body : Type} :
    WorkerAction Body → List (LaneName × Message Body)
  | .receive lane message _ _ _ => [(lane, message)]
  | _ => []

/-- `nack` without requeue: the index queue has a dead-letter exchange, the
query queue has none. -/
def nackPlace {Body : Type} (lane : LaneName) (requeue : Bool) :
    Place Body :=
  if requeue then
    .ready
  else
    match lane with
    | .index => .dead
    | .query => .dropped

/-- An unacked message returns to its queue when its connection ends. -/
def Request.returned {Body : Type} (worker : Nat)
    (request : Request Body) : Request Body :=
  match request.place with
  | .unacked holder _ =>
      if holder = worker then { request with place := .ready } else request
  | _ => request

namespace Fleet

variable {Body : Type}

def publish (fleet : Fleet Body) (publication : Publication Body) :
    Fleet Body :=
  { fleet with
    requests := fleet.requests ++ [{ publication := publication }] }

def setRequest (fleet : Fleet Body) (number : Nat)
    (request : Request Body) : Fleet Body :=
  { fleet with requests := fleet.requests.set number request }

def setWorker (fleet : Fleet Body) (number : Nat) (replica : Replica Body)
    (worker : Worker Body) : Fleet Body :=
  { fleet with
    replicas :=
      fleet.replicas.set number { replica with worker := worker } }

/-- The connection of a worker ends, with or without its process. -/
def loseConnection (fleet : Fleet Body) (number : Nat)
    (replica : Replica Body) (crashes : Bool) : Fleet Body :=
  { fleet with
    replicas :=
      fleet.replicas.set number
        { replica with crashed := replica.crashed || crashes }
    requests := fleet.requests.map (Request.returned number) }

/-- The broker stores a reply. -/
def storeReply (fleet : Fleet Body) (number : Nat)
    (message : Message Body) (reply : Reply Body) : Fleet Body :=
  { fleet with
    replies := fleet.replies ++
      [{ worker := number, message := message, reply := reply }] }

/-- A worker's log has an event. -/
def Logs (fleet : Fleet Body) (position : Nat) (event : Event Body) :
    Prop :=
  ∃ replica, fleet.replicas[position]? = some replica ∧
    event ∈ replica.worker.log

/-- The reply of a worker to a message is stored. -/
def Stores (fleet : Fleet Body) (number : Nat) (message : Message Body)
    (reply : Reply Body) : Prop :=
  ∃ stored ∈ fleet.replies, stored.worker = number ∧
    stored.message = message ∧ stored.reply = reply

end Fleet

def Event.isConfirmed {Body : Type} : Event Body → Bool
  | .confirmed _ _ _ => true
  | _ => false

/-- Without confirms there is nothing to store. -/
theorem stores_of_unconfirmed {Body : Type} {fleet : Fleet Body}
    {position : Nat} {log : List (Event Body)}
    (none : log.any Event.isConfirmed = false) :
    ∀ lane message reply, .confirmed lane message reply ∈ log →
      reply.mandatory = true → fleet.Stores position message reply := by
  intro lane message reply member
  have confirmed : log.any Event.isConfirmed = true :=
    List.any_eq_true.mpr ⟨_, member, rfl⟩
  rw [none] at confirmed
  cases confirmed

/-- One confirm is enough if it is stored. -/
theorem stores_of_one {Body : Type} {fleet : Fleet Body} {position : Nat}
    {earlier later : List (Event Body)} {lane : LaneName}
    {message : Message Body} {reply : Reply Body}
    (stores : fleet.Stores position message reply)
    (before : earlier.any Event.isConfirmed = false)
    (after : later.any Event.isConfirmed = false) :
    ∀ other otherMessage otherReply,
      .confirmed other otherMessage otherReply ∈
          earlier ++ .confirmed lane message reply :: later →
        otherReply.mandatory = true →
          fleet.Stores position otherMessage otherReply := by
  intro other otherMessage otherReply member mandatory
  rcases List.mem_append.mp member with early | rest
  · exact stores_of_unconfirmed before _ _ _ early mandatory
  · rcases List.mem_cons.mp rest with same | late
    · cases same
      exact stores
    · exact stores_of_unconfirmed after _ _ _ late mandatory

/-- The steps of the workers and the broker.  A mandatory publish is confirmed
only when its reply is stored. -/
inductive FleetStep {Body : Type} (environment : Environment Body) :
    Fleet Body → FleetAction Body → Fleet Body → Prop
  | publish {fleet : Fleet Body} {publication : Publication Body} :
      FleetStep environment fleet (.publish publication)
        (fleet.publish publication)
  | startWorker {fleet : Fleet Body} {workerId : PyStr}
      {lanes : List LaneName} :
      FleetStep environment fleet (.startWorker workerId lanes)
        { fleet with
          replicas := fleet.replicas ++
            [{ worker := Worker.start Body workerId lanes }] }
  | deliver {fleet : Fleet Body} {number position : Nat}
      {request : Request Body} {replica : Replica Body}
      {message : Message Body} {freshId : PyStr} {now : Instant}
      {clock : Seconds} {after : Worker Body}
      (found : fleet.requests[number]? = some request)
      (ready : request.place = .ready)
      (carries : message.Carries request.publication)
      (runs : fleet.replicas[position]? = some replica)
      (alive : replica.crashed = false)
      (receives : WorkerStep environment replica.worker
        (.receive request.publication.lane message freshId now clock)
        after) :
      FleetStep environment fleet
        (.deliver number position message request.deliveries freshId now
          clock)
        ((fleet.setRequest number
            { request with
              place := .unacked position message
              deliveries := request.deliveries + 1 }).setWorker position
          replica after)
  | work {fleet : Fleet Body} {position : Nat} {replica : Replica Body}
      {action : WorkerAction Body} {after : Worker Body}
      (runs : fleet.replicas[position]? = some replica)
      (alive : replica.crashed = false)
      (own : action.received = [])
      (taken : WorkerStep environment replica.worker action after)
      (confirmed : ∀ lane message reply,
        .confirmed lane message reply ∈ after.log →
          reply.mandatory = true → fleet.Stores position message reply) :
      FleetStep environment fleet (.work position action)
        (fleet.setWorker position replica after)
  | storeReply {fleet : Fleet Body} {position : Nat}
      {replica : Replica Body} {lane : LaneName} {message : Message Body}
      {reply : Reply Body}
      (runs : fleet.replicas[position]? = some replica)
      (published : .published lane message reply ∈ replica.worker.log)
      (once : ¬ fleet.Stores position message reply) :
      FleetStep environment fleet (.storeReply position message reply)
        (fleet.storeReply position message reply)
  | takeAck {fleet : Fleet Body} {number position : Nat}
      {request : Request Body} {replica : Replica Body} {lane : LaneName}
      {message : Message Body}
      (found : fleet.requests[number]? = some request)
      (place : request.place = .unacked position message)
      (runs : fleet.replicas[position]? = some replica)
      (called : .acked lane message ∈ replica.worker.log) :
      FleetStep environment fleet (.takeAck number)
        (fleet.setRequest number { request with place := .acked })
  | takeNack {fleet : Fleet Body} {number position : Nat}
      {request : Request Body} {replica : Replica Body} {lane : LaneName}
      {message : Message Body} {requeue : Bool}
      (found : fleet.requests[number]? = some request)
      (place : request.place = .unacked position message)
      (runs : fleet.replicas[position]? = some replica)
      (called : .nacked lane message requeue ∈ replica.worker.log) :
      FleetStep environment fleet (.takeNack number requeue)
        (fleet.setRequest number
          { request with
            place := nackPlace request.publication.lane requeue })
  | loseConnection {fleet : Fleet Body} {position : Nat}
      {replica : Replica Body} {crashes : Bool}
      (runs : fleet.replicas[position]? = some replica) :
      FleetStep environment fleet (.loseConnection position crashes)
        (fleet.loseConnection position replica crashes)
  | exceedLimit {fleet : Fleet Body} {number : Nat}
      {request : Request Body}
      (found : fleet.requests[number]? = some request)
      (ready : request.place = .ready)
      (indexed : request.publication.lane = .index)
      (redelivered : 0 < request.deliveries) :
      FleetStep environment fleet (.exceedLimit number)
        (fleet.setRequest number { request with place := .dead })
  | expire {fleet : Fleet Body} {number : Nat} {request : Request Body}
      (found : fleet.requests[number]? = some request)
      (ready : request.place = .ready)
      (queried : request.publication.lane = .query) :
      FleetStep environment fleet (.expire number)
        (fleet.setRequest number { request with place := .dropped })

end EmbeddingService
