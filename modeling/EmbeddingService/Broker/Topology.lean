import Mathlib.Data.Set.Insert
import EmbeddingService.Broker.Amqp
import EmbeddingService.Contracts.Config

/-!
# The topology

`declare_topology` as a program of calls to the broker, what it leaves there,
and the ways of a message through it.
-/

namespace EmbeddingService

open CallProgram Declarations

/-- The settings of the broker objects, beside those of the lanes. -/
structure TopologySettings extends Settings where
  mqExchangeRequests : PyStr := pyStr "embedding.requests"
  mqExchangeEvents : PyStr := pyStr "embedding.events"
  mqExchangeDlx : PyStr := pyStr "embedding.dlx"
  mqDeadLetterQueue : PyStr := pyStr "embedding.dead"
  queryQueue : PyStr := pyStr "embedding.query"
  queryMaxLength : Int := 1000
  indexQueue : PyStr := pyStr "embedding.index"

/-- How a call of the broker can raise. -/
inductive BrokerFailure where
  | refused
  | failed
  deriving DecidableEq, Repr

/-- Calls of the broker in sequence; what a call raises ends it. -/
abbrev BrokerProgram (Value : Type) :=
  CallProgram BrokerRequest Answer (Except BrokerFailure Value)

/-- One call, and what it returns. -/
def ask {Value : Type} (request : BrokerRequest) (value : Value) :
    BrokerProgram Value :=
  .call request (fun answer =>
    match answer with
    | .accepted => .done (.ok value)
    | .refused => .done (.error .refused)
    | .failed => .done (.error .failed))

def BrokerProgram.next {Value Other : Type} (first : BrokerProgram Value)
    (second : Value → BrokerProgram Other) : BrokerProgram Other :=
  first.andThen (fun result =>
    match result with
    | .ok value => second value
    | .error failure => .done (.error failure))

/-- `channel.declare_exchange(name, type, durable=True)`. -/
def declareExchange (name : PyStr) (type : ExchangeType) :
    BrokerProgram PyStr :=
  ask (.declareExchange name { type := type, durable := true }) name

/-- `channel.declare_queue(name, durable=True, arguments=…)`. -/
def declareQueue (name : PyStr)
    (arguments : List (PyStr × ArgumentValue)) : BrokerProgram PyStr :=
  ask (.declareQueue name { durable := true, arguments := arguments }) name

section Programs

variable (settings : TopologySettings)

def queryKey : PyStr :=
  pyStr "query"

def indexKey : PyStr :=
  pyStr "index"

def queryQueueArguments : List (PyStr × ArgumentValue) :=
  [(pyStr "x-message-ttl", .int settings.queryTtlMs),
    (pyStr "x-max-length", .int settings.queryMaxLength),
    (pyStr "x-overflow", .text (pyStr "reject-publish"))]

def indexQueueArguments : List (PyStr × ArgumentValue) :=
  [(pyStr "x-queue-type", .text (pyStr "quorum")),
    (pyStr "x-delivery-limit", .int settings.indexDeliveryLimit),
    (pyStr "x-dead-letter-exchange", .text settings.mqExchangeDlx)]

/-- The arguments of the dead letter queue, and of a results queue. -/
def quorumArguments : List (PyStr × ArgumentValue) :=
  [(pyStr "x-queue-type", .text (pyStr "quorum"))]

/-- The handles `declare_topology` returns; a handle is known by its name. -/
structure Topology where
  requests : PyStr
  events : PyStr
  dlx : PyStr
  queryQueue : PyStr
  indexQueue : PyStr
  deadQueue : PyStr

def declareTopology : BrokerProgram Topology :=
  (declareExchange settings.mqExchangeDlx .direct).next fun dlx =>
  (declareQueue settings.mqDeadLetterQueue quorumArguments).next
    fun deadQueue =>
  (ask (.bindQueue deadQueue dlx indexKey) ()).next fun _ =>
  (declareExchange settings.mqExchangeRequests .direct).next fun requests =>
  (declareQueue settings.queryQueue (queryQueueArguments settings)).next
    fun queryQueue =>
  (ask (.bindQueue queryQueue requests queryKey) ()).next fun _ =>
  (declareQueue settings.indexQueue (indexQueueArguments settings)).next
    fun indexQueue =>
  (ask (.bindQueue indexQueue requests indexKey) ()).next fun _ =>
  (declareExchange settings.mqExchangeEvents .topic).next fun events =>
  (ask (.bindExchange events requests indexKey) ()).next fun _ =>
    .done (.ok
      { requests := requests
        events := events
        dlx := dlx
        queryQueue := queryQueue
        indexQueue := indexQueue
        deadQueue := deadQueue })

/-- `LaneSpec.queue`. -/
def laneQueue : LaneName → PyStr
  | .query => settings.queryQueue
  | .index => settings.indexQueue

/-- `_start_lane` for each lane, as far as it calls for a queue. -/
def startLanes : List LaneName → BrokerProgram Unit
  | [] => .done (.ok ())
  | lane :: rest =>
      (ask (.getQueue (laneQueue settings lane)) ()).next fun _ =>
        startLanes rest

/-- What a worker calls before it consumes. -/
def workerSetup (lanes : List LaneName) : BrokerProgram Unit :=
  (declareTopology settings).next fun _ => startLanes settings lanes

/-! ## What it leaves -/

def durableExchange (type : ExchangeType) : ExchangeSpec :=
  { type := type, durable := true }

def durableQueue (arguments : List (PyStr × ArgumentValue)) : QueueSpec :=
  { durable := true, arguments := arguments }

/-- The objects of the topology. -/
def topologyItems : List BrokerItem :=
  [.exchange settings.mqExchangeDlx (durableExchange .direct),
    .exchange settings.mqExchangeRequests (durableExchange .direct),
    .exchange settings.mqExchangeEvents (durableExchange .topic),
    .queue settings.mqDeadLetterQueue (durableQueue quorumArguments),
    .queue settings.queryQueue (durableQueue (queryQueueArguments settings)),
    .queue settings.indexQueue (durableQueue (indexQueueArguments settings)),
    .binding settings.mqExchangeDlx (.queue settings.mqDeadLetterQueue)
      indexKey,
    .binding settings.mqExchangeRequests (.queue settings.queryQueue)
      queryKey,
    .binding settings.mqExchangeRequests (.queue settings.indexQueue)
      indexKey,
    .binding settings.mqExchangeRequests
      (.exchange settings.mqExchangeEvents) indexKey]

/-- The catalog has the whole topology. -/
def HasTopology (catalog : Set BrokerItem) : Prop :=
  ∀ item ∈ topologyItems settings, item ∈ catalog

end Programs

theorem HasTopology.mono {settings : TopologySettings}
    {catalog after : Set BrokerItem}
    (has : HasTopology settings catalog) (grows : catalog ⊆ after) :
    HasTopology settings after :=
  fun item member => grows (has item member)

/-- Each name stands for one thing. -/
structure Consistent (items : Set BrokerItem) : Prop where
  exchanges : ∀ name spec other, .exchange name spec ∈ items →
    .exchange name other ∈ items → spec = other
  queues : ∀ name spec other, .queue name spec ∈ items →
    .queue name other ∈ items → spec = other

/-- What is accepted leaves each name to one thing. -/
theorem Consistent.answers {amqp : Amqp} {catalog after : Set BrokerItem}
    (consistent : Consistent catalog) {request : BrokerRequest}
    {answer : Answer}
    (answers : amqp.rules.Answers catalog request answer after) :
    Consistent after := by
  have added : amqp.rules.Accepts catalog request →
      Consistent (catalog ∪ request.adds) := by
    intro accepts
    have agrees : ∀ item ∈ catalog, ¬ request.Conflicts item :=
      accepts.agrees
    cases request with
    | declareExchange name spec =>
        have same : ∀ other, .exchange name other ∈ catalog →
            spec = other := by
          intro other member
          by_contra different
          exact agrees _ member ⟨rfl, different⟩
        constructor
        · rintro name first second (old | new) (older | newer)
          · exact consistent.exchanges _ _ _ old older
          · cases newer
            exact (same _ old).symm
          · cases new
            exact same _ older
          · cases new
            cases newer
            rfl
        · rintro name first second (old | new) (older | newer)
          · exact consistent.queues _ _ _ old older
          all_goals first | cases new | cases newer
    | declareQueue name spec =>
        have same : ∀ other, .queue name other ∈ catalog →
            spec = other := by
          intro other member
          by_contra different
          exact agrees _ member ⟨rfl, different⟩
        constructor
        · rintro name first second (old | new) (older | newer)
          · exact consistent.exchanges _ _ _ old older
          all_goals first | cases new | cases newer
        · rintro name first second (old | new) (older | newer)
          · exact consistent.queues _ _ _ old older
          · cases newer
            exact (same _ old).symm
          · cases new
            exact same _ older
          · cases new
            cases newer
            rfl
    | _ =>
        constructor
        · rintro name first second (old | new) (older | newer)
          · exact consistent.exchanges _ _ _ old older
          all_goals first | cases new | cases newer
        · rintro name first second (old | new) (older | newer)
          · exact consistent.queues _ _ _ old older
          all_goals first | cases new | cases newer
  cases answers with
  | accepted accepts =>
      exact added accepts
  | refused unaccepted =>
      exact consistent
  | failed =>
      exact consistent
  | failedLate accepts =>
      exact added accepts

section Establishing

variable {amqp : Amqp} {schema known : Set BrokerItem}
  {Value Other : Type}

/-- A program declares within the schema, and what is known when it returns
satisfies `Post`. -/
def Establishes (amqp : Amqp) (schema : Set BrokerItem)
    (program : BrokerProgram Value) (known : Set BrokerItem)
    (Post : Value → Set BrokerItem → Prop) : Prop :=
  Declares amqp.rules schema program known
    (fun result later => ∀ value, result = .ok value → Post value later)

theorem Establishes.done {Post : Value → Set BrokerItem → Prop}
    {value : Value} (holds : Post value known) :
    Establishes amqp schema (.done (.ok value)) known Post := by
  intro returned same
  cases same
  exact holds

/-- The rule for a sequence that begins with a call. -/
theorem Establishes.ask {request : BrokerRequest} {value : Value}
    {second : Value → BrokerProgram Other}
    {Post : Other → Set BrokerItem → Prop}
    (fits : amqp.rules.Fits schema request)
    (met : request.Needs amqp.topicMatches known)
    (rest : Establishes amqp schema (second value)
      (known ∪ request.adds) Post) :
    Establishes amqp schema
      ((EmbeddingService.ask request value).next second) known Post := by
  refine ⟨fits, met, rest, ?_⟩
  intro returned same
  cases same

/-- The rule for two programs in sequence. -/
theorem Establishes.next {first : BrokerProgram Value}
    {second : Value → BrokerProgram Other}
    {Middle : Value → Set BrokerItem → Prop}
    {Post : Other → Set BrokerItem → Prop}
    (establishes : Establishes amqp schema first known Middle)
    (continued : ∀ value later, Middle value later →
      Establishes amqp schema (second value) later Post) :
    Establishes amqp schema (first.next second) known Post := by
  unfold BrokerProgram.next
  refine Declares.andThen establishes ?_
  intro result later holds
  cases result with
  | ok value =>
      exact continued value later (holds value rfl)
  | error failure =>
      intro returned same
      cases same

theorem fits_declareExchange (consistent : Consistent schema)
    {name : PyStr} {spec : ExchangeSpec}
    (admitted : amqp.admits (.declareExchange name spec))
    (planned : .exchange name spec ∈ schema) :
    amqp.rules.Fits schema (.declareExchange name spec) where
  admitted := admitted
  adds := Set.singleton_subset_iff.mpr planned
  agrees := by
    intro item member conflicts
    cases item with
    | exchange other declared =>
        obtain ⟨rfl, different⟩ := conflicts
        exact different (consistent.exchanges _ _ _ planned member)
    | queue other declared =>
        exact conflicts
    | binding source destination key =>
        exact conflicts

theorem fits_declareQueue (consistent : Consistent schema)
    {name : PyStr} {spec : QueueSpec}
    (admitted : amqp.admits (.declareQueue name spec))
    (planned : .queue name spec ∈ schema) :
    amqp.rules.Fits schema (.declareQueue name spec) where
  admitted := admitted
  adds := Set.singleton_subset_iff.mpr planned
  agrees := by
    intro item member conflicts
    cases item with
    | exchange other declared =>
        exact conflicts
    | queue other declared =>
        obtain ⟨rfl, different⟩ := conflicts
        exact different (consistent.queues _ _ _ planned member)
    | binding source destination key =>
        exact conflicts

/-- A call that is not a declaration of its own conflicts with nothing. -/
theorem fits_other {request : BrokerRequest}
    (admitted : amqp.admits request) (planned : request.adds ⊆ schema)
    (other : ∀ item, ¬ request.Conflicts item) :
    amqp.rules.Fits schema request where
  admitted := admitted
  adds := planned
  agrees := fun item _ => other item

theorem callsOnly_ask {Pre : BrokerRequest → Prop}
    {request : BrokerRequest} {value : Value}
    {second : Value → BrokerProgram Other}
    (only : CallsOnly Pre ((ask request value).next second)) :
    Pre request ∧ CallsOnly Pre (second value) :=
  ⟨only.1, only.2 .accepted⟩

/-- What a sequence that begins with a call adds. -/
theorem acceptedItems_ask {request : BrokerRequest} {value : Value}
    {second : Value → BrokerProgram Other} :
    acceptedItems amqp.rules ((ask request value).next second) =
      request.adds ∪ acceptedItems amqp.rules (second value) :=
  rfl

end Establishing

section Declaring

variable {amqp : Amqp} {settings : TopologySettings}
  {schema : Set BrokerItem}

/-- `declare_topology` leaves the topology. -/
theorem declareTopology_establishes (consistent : Consistent schema)
    (planned : HasTopology settings schema)
    (admitted : CallsOnly amqp.admits (declareTopology settings)) :
    Establishes amqp schema (declareTopology settings) ∅
      (fun _ later => HasTopology settings later) := by
  unfold declareTopology declareExchange declareQueue at *
  obtain ⟨dlx, admitted⟩ := callsOnly_ask admitted
  obtain ⟨deadQueue, admitted⟩ := callsOnly_ask admitted
  obtain ⟨deadBound, admitted⟩ := callsOnly_ask admitted
  obtain ⟨requests, admitted⟩ := callsOnly_ask admitted
  obtain ⟨queryQueue, admitted⟩ := callsOnly_ask admitted
  obtain ⟨queryBound, admitted⟩ := callsOnly_ask admitted
  obtain ⟨indexQueue, admitted⟩ := callsOnly_ask admitted
  obtain ⟨indexBound, admitted⟩ := callsOnly_ask admitted
  obtain ⟨events, admitted⟩ := callsOnly_ask admitted
  obtain ⟨eventsBound, _⟩ := callsOnly_ask admitted
  have item : ∀ item ∈ topologyItems settings, item ∈ schema := planned
  have bound : ∀ {source : PyStr} {destination : Destination} {key : PyStr},
      .binding source destination key ∈ topologyItems settings →
        ({.binding source destination key} : Set BrokerItem) ⊆ schema :=
    fun member => Set.singleton_subset_iff.mpr (planned _ member)
  refine .ask (fits_declareExchange consistent dlx
    (item _ (by simp [topologyItems, durableExchange]))) trivial ?_
  refine .ask (fits_declareQueue consistent deadQueue
    (item _ (by simp [topologyItems, durableQueue]))) trivial ?_
  refine .ask (fits_other deadBound (bound (by simp [topologyItems]))
    (fun _ => id)) (by simp [BrokerRequest.Needs, BrokerRequest.adds]) ?_
  refine .ask (fits_declareExchange consistent requests
    (item _ (by simp [topologyItems, durableExchange]))) trivial ?_
  refine .ask (fits_declareQueue consistent queryQueue
    (item _ (by simp [topologyItems, durableQueue]))) trivial ?_
  refine .ask (fits_other queryBound (bound (by simp [topologyItems]))
    (fun _ => id)) (by simp [BrokerRequest.Needs, BrokerRequest.adds]) ?_
  refine .ask (fits_declareQueue consistent indexQueue
    (item _ (by simp [topologyItems, durableQueue]))) trivial ?_
  refine .ask (fits_other indexBound (bound (by simp [topologyItems]))
    (fun _ => id)) (by simp [BrokerRequest.Needs, BrokerRequest.adds]) ?_
  refine .ask (fits_declareExchange consistent events
    (item _ (by simp [topologyItems, durableExchange]))) trivial ?_
  refine .ask (fits_other eventsBound (bound (by simp [topologyItems]))
    (fun _ => id)) ⟨⟨durableExchange .topic, ?_⟩,
      durableExchange .direct, ?_⟩ ?_
  · simp [BrokerRequest.adds, durableExchange]
  · simp [BrokerRequest.adds, durableExchange]
  refine .done ?_
  simp [HasTopology, topologyItems, BrokerRequest.adds, durableExchange,
    durableQueue]

/-- A worker finds the queues of its lanes after the topology. -/
theorem startLanes_establishes (documented : amqp.Documented)
    (lanes : List LaneName) :
    ∀ {known : Set BrokerItem}, HasTopology settings known →
      Establishes amqp schema (startLanes settings lanes) known
        (fun _ later => HasTopology settings later) := by
  induction lanes with
  | nil =>
      intro known has
      exact .done has
  | cons lane rest inductionHypothesis =>
      intro known has
      refine .ask (fits_other (documented.admitsGet _)
        (Set.empty_subset _) (fun _ => id)) ?_ ?_
      · cases lane with
        | query =>
            exact ⟨durableQueue (queryQueueArguments settings),
              has _ (by simp [topologyItems, laneQueue])⟩
        | index =>
            exact ⟨durableQueue (indexQueueArguments settings),
              has _ (by simp [topologyItems, laneQueue])⟩
      · exact inductionHypothesis (has.mono Set.subset_union_left)

theorem workerSetup_establishes (documented : amqp.Documented)
    (consistent : Consistent schema)
    (planned : HasTopology settings schema)
    (admitted : CallsOnly amqp.admits (declareTopology settings))
    (lanes : List LaneName) :
    Establishes amqp schema (workerSetup settings lanes) ∅
      (fun _ later => HasTopology settings later) :=
  (declareTopology_establishes consistent planned admitted).next
    (fun _ _ has => startLanes_establishes documented lanes has)

end Declaring

section Accepted

variable {amqp : Amqp} {settings : TopologySettings}

/-- A worker that is never refused leaves the topology. -/
theorem workerSetup_acceptedItems :
    HasTopology settings
      (acceptedItems amqp.rules (workerSetup settings [])) := by
  have declared : HasTopology settings
      (acceptedItems amqp.rules (declareTopology settings)) := by
    unfold declareTopology declareExchange declareQueue
    simp [HasTopology, topologyItems, acceptedItems_ask, BrokerRequest.adds,
      durableExchange, durableQueue]
  unfold workerSetup BrokerProgram.next
  rw [acceptedItems_andThen]
  exact declared.mono Set.subset_union_left

end Accepted

/-! ## The ways through it -/

/-- The exchanges have names of their own, and none is the default exchange. -/
structure DistinctExchanges (settings : TopologySettings) : Prop where
  requestsNamed : settings.mqExchangeRequests ≠ []
  eventsNamed : settings.mqExchangeEvents ≠ []
  dlxNamed : settings.mqExchangeDlx ≠ []
  requestsEvents : settings.mqExchangeRequests ≠ settings.mqExchangeEvents
  requestsDlx : settings.mqExchangeRequests ≠ settings.mqExchangeDlx
  eventsDlx : settings.mqExchangeEvents ≠ settings.mqExchangeDlx

/-- The exchanges of the topology have no bindings but those of the
topology. -/
def OwnBindings (settings : TopologySettings)
    (catalog : Set BrokerItem) : Prop :=
  ∀ source destination key, .binding source destination key ∈ catalog →
    source ∈ [settings.mqExchangeRequests, settings.mqExchangeEvents,
      settings.mqExchangeDlx] →
    .binding source destination key ∈ topologyItems settings

section Routing

variable {topicMatches : PyStr → PyStr → Prop}
  {settings : TopologySettings} {catalog : Set BrokerItem}
  {key name : PyStr} {destination : Destination}

theorem binding_requests (distinct : DistinctExchanges settings)
    (own : OwnBindings settings catalog)
    (bound : .binding settings.mqExchangeRequests destination key ∈
      catalog) :
    destination = .queue settings.queryQueue ∧ key = queryKey ∨
      destination = .queue settings.indexQueue ∧ key = indexKey ∨
      destination = .exchange settings.mqExchangeEvents ∧
        key = indexKey := by
  have member := own _ _ _ bound (by simp)
  simpa [topologyItems, distinct.requestsDlx] using member

theorem binding_dlx (distinct : DistinctExchanges settings)
    (own : OwnBindings settings catalog)
    (bound : .binding settings.mqExchangeDlx destination key ∈ catalog) :
    destination = .queue settings.mqDeadLetterQueue ∧ key = indexKey := by
  have member := own _ _ _ bound (by simp)
  simpa [topologyItems, distinct.requestsDlx.symm] using member

theorem binding_events (distinct : DistinctExchanges settings)
    (own : OwnBindings settings catalog) :
    .binding settings.mqExchangeEvents destination key ∉ catalog := by
  intro bound
  have member := own _ _ _ bound (by simp)
  simp [topologyItems, distinct.requestsEvents.symm,
    distinct.eventsDlx] at member

/-- The topology's own exchanges are direct, but for the one of events. -/
theorem Consistent.direct (consistent : Consistent catalog)
    {source : PyStr} {spec : ExchangeSpec}
    (known : .exchange source (durableExchange .direct) ∈ catalog)
    (declared : .exchange source spec ∈ catalog)
    {bindingKey : PyStr}
    (takes : spec.type.Takes topicMatches bindingKey key) :
    bindingKey = key := by
  rw [consistent.exchanges _ _ _ declared known] at takes
  exact takes

/-- What gets to the exchange of events ends there. -/
theorem not_routes_events (distinct : DistinctExchanges settings)
    (own : OwnBindings settings catalog) :
    ¬ Routes topicMatches catalog key settings.mqExchangeEvents name := by
  intro routes
  generalize same : settings.mqExchangeEvents = source at routes
  cases routes with
  | byName declared =>
      exact distinct.eventsNamed same
  | toQueue declared bound takes =>
      rw [← same] at bound
      exact binding_events distinct own bound
  | toExchange declared bound takes later =>
      rw [← same] at bound
      exact binding_events distinct own bound

/-- A request gets into the queue of its lane, and into no other. -/
theorem routes_requests_iff (distinct : DistinctExchanges settings)
    (consistent : Consistent catalog) (has : HasTopology settings catalog)
    (own : OwnBindings settings catalog) :
    Routes topicMatches catalog key settings.mqExchangeRequests name ↔
      key = queryKey ∧ name = settings.queryQueue ∨
        key = indexKey ∧ name = settings.indexQueue := by
  have known := has (.exchange settings.mqExchangeRequests
    (durableExchange .direct)) (by simp [topologyItems])
  constructor
  · intro routes
    generalize same : settings.mqExchangeRequests = source at routes
    cases routes with
    | byName declared =>
        exact False.elim (distinct.requestsNamed same)
    | toQueue declared bound takes =>
        rw [← same] at declared bound
        rw [← consistent.direct known declared takes]
        rcases binding_requests distinct own bound with
          ⟨target, keyed⟩ | ⟨target, keyed⟩ | ⟨target, keyed⟩
        · cases target
          exact Or.inl ⟨keyed, rfl⟩
        · cases target
          exact Or.inr ⟨keyed, rfl⟩
        · cases target
    | toExchange declared bound takes later =>
        rw [← same] at bound
        rcases binding_requests distinct own bound with
          ⟨target, keyed⟩ | ⟨target, keyed⟩ | ⟨target, keyed⟩
        · cases target
        · cases target
        · cases target
          exact False.elim (not_routes_events distinct own later)
  · rintro (⟨rfl, rfl⟩ | ⟨rfl, rfl⟩)
    · exact .toQueue known
        (has (.binding settings.mqExchangeRequests
          (.queue settings.queryQueue) queryKey) (by simp [topologyItems]))
        rfl
    · exact .toQueue known
        (has (.binding settings.mqExchangeRequests
          (.queue settings.indexQueue) indexKey) (by simp [topologyItems]))
        rfl

/-- A dead letter of the index queue gets into the dead letter queue, and into
no other. -/
theorem routes_dlx_iff (distinct : DistinctExchanges settings)
    (consistent : Consistent catalog) (has : HasTopology settings catalog)
    (own : OwnBindings settings catalog) :
    Routes topicMatches catalog key settings.mqExchangeDlx name ↔
      key = indexKey ∧ name = settings.mqDeadLetterQueue := by
  have known := has (.exchange settings.mqExchangeDlx
    (durableExchange .direct)) (by simp [topologyItems])
  constructor
  · intro routes
    generalize same : settings.mqExchangeDlx = source at routes
    cases routes with
    | byName declared =>
        exact False.elim (distinct.dlxNamed same)
    | toQueue declared bound takes =>
        rw [← same] at declared bound
        rw [← consistent.direct known declared takes]
        obtain ⟨target, keyed⟩ := binding_dlx distinct own bound
        cases target
        exact ⟨keyed, rfl⟩
    | toExchange declared bound takes later =>
        rw [← same] at bound
        obtain ⟨target, _⟩ := binding_dlx distinct own bound
        cases target
  · rintro ⟨rfl, rfl⟩
    exact .toQueue known
      (has (.binding settings.mqExchangeDlx
        (.queue settings.mqDeadLetterQueue) indexKey)
          (by simp [topologyItems])) rfl

end Routing

end EmbeddingService
