import EmbeddingService.Contracts.Python
import EmbeddingService.Library.Declarations

/-!
# The broker

What the service declares at the broker, and how a message published to an
exchange finds its queues.  The broker itself is outside of the repository; it
is a parameter, with what RabbitMQ documents of it.
-/

namespace EmbeddingService

open Declarations

/-- `aio_pika.ExchangeType`, as far as it is used. -/
inductive ExchangeType where
  | direct
  | topic
  deriving DecidableEq, Repr

structure ExchangeSpec where
  type : ExchangeType
  durable : Bool
  deriving DecidableEq

/-- A value in the arguments of a queue. -/
inductive ArgumentValue where
  | int (value : Int)
  | text (value : PyStr)
  deriving DecidableEq

structure QueueSpec where
  durable : Bool
  arguments : List (PyStr × ArgumentValue)
  deriving DecidableEq

/-- The exchange to which a queue sends what is rejected or expired. -/
def QueueSpec.deadLetterExchange (spec : QueueSpec) : Option PyStr :=
  match spec.arguments.lookup (pyStr "x-dead-letter-exchange") with
  | some (.text name) => some name
  | _ => none

inductive Destination where
  | queue (name : PyStr)
  | exchange (name : PyStr)
  deriving DecidableEq

/-- What there is at the broker. -/
inductive BrokerItem where
  | exchange (name : PyStr) (spec : ExchangeSpec)
  | queue (name : PyStr) (spec : QueueSpec)
  | binding (source : PyStr) (destination : Destination) (key : PyStr)
  deriving DecidableEq

/-- What the service calls on a channel; `getQueue` declares passively. -/
inductive BrokerRequest where
  | declareExchange (name : PyStr) (spec : ExchangeSpec)
  | declareQueue (name : PyStr) (spec : QueueSpec)
  | bindQueue (queue exchange key : PyStr)
  | bindExchange (exchange source key : PyStr)
  | getQueue (name : PyStr)
  | publish (exchange key : PyStr) (mandatory : Bool)

section Routing

variable (topicMatches : PyStr → PyStr → Prop)

/-- A binding of an exchange takes a routing key. -/
def ExchangeType.Takes : ExchangeType → PyStr → PyStr → Prop
  | .direct, bindingKey, key => bindingKey = key
  | .topic, bindingKey, key => topicMatches bindingKey key

/-- A message with this routing key gets from the exchange into the queue: by
the name of the queue from the default exchange, else along the bindings. -/
inductive Routes (catalog : Set BrokerItem) (key : PyStr) :
    PyStr → PyStr → Prop
  | byName {spec : QueueSpec} (declared : .queue key spec ∈ catalog) :
      Routes catalog key [] key
  | toQueue {source name bindingKey : PyStr} {spec : ExchangeSpec}
      (declared : .exchange source spec ∈ catalog)
      (bound : .binding source (.queue name) bindingKey ∈ catalog)
      (takes : spec.type.Takes topicMatches bindingKey key) :
      Routes catalog key source name
  | toExchange {source next name bindingKey : PyStr} {spec : ExchangeSpec}
      (declared : .exchange source spec ∈ catalog)
      (bound : .binding source (.exchange next) bindingKey ∈ catalog)
      (takes : spec.type.Takes topicMatches bindingKey key)
      (later : Routes catalog key next name) :
      Routes catalog key source name

variable {topicMatches} {catalog after : Set BrokerItem}
  {key source name : PyStr}

/-- What is added only adds routes. -/
theorem Routes.mono (routes : Routes topicMatches catalog key source name)
    (grows : catalog ⊆ after) :
    Routes topicMatches after key source name := by
  induction routes with
  | byName declared =>
      exact .byName (grows declared)
  | toQueue declared bound takes =>
      exact .toQueue (grows declared) (grows bound) takes
  | toExchange declared bound takes later inductionHypothesis =>
      exact .toExchange (grows declared) (grows bound) takes
        inductionHypothesis

end Routing

namespace BrokerRequest

def adds : BrokerRequest → Set BrokerItem
  | .declareExchange name spec => {.exchange name spec}
  | .declareQueue name spec => {.queue name spec}
  | .bindQueue queue exchange key => {.binding exchange (.queue queue) key}
  | .bindExchange exchange source key =>
      {.binding source (.exchange exchange) key}
  | .getQueue _ => ∅
  | .publish _ _ _ => ∅

/-- What is declared again has to be declared with the same arguments. -/
def Conflicts : BrokerRequest → BrokerItem → Prop
  | .declareExchange name spec, .exchange other declared =>
      name = other ∧ spec ≠ declared
  | .declareQueue name spec, .queue other declared =>
      name = other ∧ spec ≠ declared
  | _, _ => False

/-- What a call refers to has to exist; a mandatory message that reaches no
queue is returned. -/
def Needs (topicMatches : PyStr → PyStr → Prop) :
    BrokerRequest → Set BrokerItem → Prop
  | .declareExchange _ _, _ => True
  | .declareQueue _ _, _ => True
  | .bindQueue queue exchange _, catalog =>
      (∃ spec, .queue queue spec ∈ catalog) ∧
        ∃ spec, .exchange exchange spec ∈ catalog
  | .bindExchange exchange source _, catalog =>
      (∃ spec, .exchange exchange spec ∈ catalog) ∧
        ∃ spec, .exchange source spec ∈ catalog
  | .getQueue name, catalog => ∃ spec, .queue name spec ∈ catalog
  | .publish exchange key mandatory, catalog =>
      (exchange = [] ∨ ∃ spec, .exchange exchange spec ∈ catalog) ∧
        (mandatory = true →
          ∃ name, Routes topicMatches catalog key exchange name)

theorem needs_mono {topicMatches : PyStr → PyStr → Prop}
    (request : BrokerRequest) {before after : Set BrokerItem}
    (grows : before ⊆ after) (met : request.Needs topicMatches before) :
    request.Needs topicMatches after := by
  cases request with
  | declareExchange name spec =>
      trivial
  | declareQueue name spec =>
      trivial
  | bindQueue queue exchange key =>
      obtain ⟨⟨queueSpec, queueKnown⟩, exchangeSpec, exchangeKnown⟩ := met
      exact ⟨⟨queueSpec, grows queueKnown⟩, exchangeSpec,
        grows exchangeKnown⟩
  | bindExchange exchange source key =>
      obtain ⟨⟨exchangeSpec, known⟩, sourceSpec, sourceKnown⟩ := met
      exact ⟨⟨exchangeSpec, grows known⟩, sourceSpec, grows sourceKnown⟩
  | getQueue name =>
      obtain ⟨spec, known⟩ := met
      exact ⟨spec, grows known⟩
  | publish exchange key mandatory =>
      obtain ⟨declared, routed⟩ := met
      refine ⟨declared.imp_right ?_, ?_⟩
      · rintro ⟨spec, known⟩
        exact ⟨spec, grows known⟩
      · intro must
        obtain ⟨name, routes⟩ := routed must
        exact ⟨name, routes.mono grows⟩

end BrokerRequest

/-- The broker: what it keeps, which names and arguments it admits, how it
matches the keys of topics, and how it answers. -/
structure Amqp where
  Broker : Type
  catalog : Broker → Set BrokerItem
  admits : BrokerRequest → Prop
  topicMatches : PyStr → PyStr → Prop
  answers : Broker → BrokerRequest → Answer → Broker → Prop

/-- The rules for declarations at a broker. -/
def brokerRules (admits : BrokerRequest → Prop)
    (topicMatches : PyStr → PyStr → Prop) :
    Rules BrokerRequest BrokerItem where
  adds := BrokerRequest.adds
  Conflicts := BrokerRequest.Conflicts
  Needs := BrokerRequest.Needs topicMatches
  Admits := admits
  needs_mono := fun request _ _ grows met =>
    request.needs_mono grows met

def Amqp.rules (amqp : Amqp) : Rules BrokerRequest BrokerItem :=
  brokerRules amqp.admits amqp.topicMatches

/-- The documentation of RabbitMQ: a declaration creates what is missing and
is refused if it differs from what is there; calls refer to what exists; what
is durable stays; a call that is not in order may be refused, and any other
may be taken; and getting a queue or publishing needs no permission of its
own. -/
structure Amqp.Documented (amqp : Amqp) : Prop where
  answers : ∀ before request answer after,
    amqp.answers before request answer after →
      amqp.rules.Answers (amqp.catalog before) request answer
        (amqp.catalog after)
  takes : ∀ before request,
    amqp.rules.Accepts (amqp.catalog before) request →
      ∃ after, amqp.answers before request .accepted after
  refuses : ∀ before request,
    ¬ amqp.rules.Accepts (amqp.catalog before) request →
      ∃ after, amqp.answers before request .refused after
  admitsGet : ∀ name, amqp.admits (.getQueue name)
  admitsPublish : ∀ exchange key mandatory,
    amqp.admits (.publish exchange key mandatory)

/-- A broker that takes whatever is in order, under any name; its topics match
keys without wildcards. -/
def smallAmqp : Amqp where
  Broker := Set BrokerItem
  catalog := id
  admits := fun _ => True
  topicMatches := fun bindingKey key => bindingKey = key
  answers := fun before request answer after =>
    (brokerRules (fun _ => True)
      (fun bindingKey key => bindingKey = key)).Answers before request
        answer after

theorem smallAmqp_documented : smallAmqp.Documented where
  answers := fun _ _ _ _ answers => answers
  takes := fun _ _ accepts => ⟨_, .accepted accepts⟩
  refuses := fun _ _ unaccepted => ⟨_, .refused unaccepted⟩
  admitsGet := fun _ => trivial
  admitsPublish := fun _ _ _ => trivial

end EmbeddingService
