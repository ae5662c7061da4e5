import EmbeddingService.Broker.Topology
import EmbeddingService.Client.Jobs
import EmbeddingService.Library.Interleaving

/-!
# Setting up at the broker

Workers and clients declare the topology, and clients their results queues, in
any order and any number of times, while calls may fail at any moment.  Nobody
is ever refused, and every request that is published finds its queue and, on
the index lane, the queue its reply is going to.
-/

namespace EmbeddingService

open CallProgram Declarations Interleaving LabelledRuns

/-- `DIRECT_REPLY_TO`. -/
def directReplyTo : PyStr :=
  pyStr "amq.rabbitmq.reply-to"

/-- `RESULTS_QUEUE_ARGUMENTS`. -/
def resultsQueueArguments : List (PyStr × ArgumentValue) :=
  [(pyStr "x-queue-type", .text (pyStr "quorum"))]

/-- Where a coroutine of a worker or a client is: in the calls a worker makes
before it consumes, in `connect`, at the first line of `declare_results_queue`
or of `consume_results`, at the declaration of a results queue, at the publish
of a request, or over.  The job is the one `submit_index` goes on to build. -/
inductive TaskState where
  | settingUp (left : BrokerProgram Unit)
  | connectCalled
  | opening
  | connecting (left : BrokerProgram Topology)
  | submitting (name : PyStr)
      (job : Option (Except ValidationFailure EmbeddingJob))
  | consuming (name : PyStr)
  | declaringResults (name : PyStr)
      (job : Option (Except ValidationFailure EmbeddingJob))
  | querying (job : Except ValidationFailure EmbeddingJob)
  | publishing (lane : LaneName) (job : EmbeddingJob) (replyTo : PyStr)
  | ended

/-- A coroutine, and the number of its client. -/
structure BrokerTask where
  client : Nat
  state : TaskState

/-- The broker and the clients: which of them have set `_connection`,
`_channel` and `_topology`, and their `_declared_results`. -/
structure BrokerWorld (amqp : Amqp) where
  broker : amqp.Broker
  connections : List Nat := []
  channels : List Nat := []
  topologies : List Nat := []
  declaredResults : Nat → List PyStr := fun _ => []

namespace BrokerWorld

variable {amqp : Amqp}

def items (world : BrokerWorld amqp) : Set BrokerItem :=
  amqp.catalog world.broker

/-- `_publish`, up to its await. -/
def toPublish (world : BrokerWorld amqp) (client : Nat) (lane : LaneName)
    (job : Except ValidationFailure EmbeddingJob) (replyTo : PyStr) :
    TaskState :=
  match job with
  | .ok job =>
      if client ∈ world.topologies then .publishing lane job replyTo
      else .ended
  | .error _ => .ended

/-- What follows `declare_results_queue`. -/
def afterResults (world : BrokerWorld amqp) (client : Nat) (name : PyStr)
    (job : Option (Except ValidationFailure EmbeddingJob)) : TaskState :=
  match job with
  | some job => world.toPublish client .index job name
  | none => .ended

/-- `self._declared_results.add(name)`. -/
def addResults (world : BrokerWorld amqp) (client : Nat) (name : PyStr) :
    BrokerWorld amqp :=
  { world with
    declaredResults := Function.update world.declaredResults client
      (name :: world.declaredResults client) }

end BrokerWorld

section Steps

variable (amqp : Amqp) (settings : TopologySettings)
  (results : PyStr → Prop)

/-- The coroutines that may start: the set-up of a worker, and the calls of a
client, whose results queues are among `results`. -/
inductive TaskStarts : BrokerTask → Prop
  | worker {client : Nat} (lanes : List LaneName) :
      TaskStarts ⟨client, .settingUp (workerSetup settings lanes)⟩
  | connect {client : Nat} : TaskStarts ⟨client, .connectCalled⟩
  | submitIndex {client : Nat} {Body : Type}
      {environment : ClientEnvironment Body} {freshId : PyStr}
      {texts : Json} {normalize : Bool} {metadata : PyDict}
      {jobId replyTo : Option PyStr}
      (named : results (resultsQueue environment replyTo)) :
      TaskStarts ⟨client, .submitting (resultsQueue environment replyTo)
        (some (indexJob environment freshId texts normalize metadata
          jobId))⟩
  | declareResultsQueue {client : Nat} {Body : Type}
      {environment : ClientEnvironment Body} {name : Option PyStr}
      (named : results (resultsQueue environment name)) :
      TaskStarts ⟨client, .submitting (resultsQueue environment name) none⟩
  | consumeResults {client : Nat} {Body : Type}
      {environment : ClientEnvironment Body} {queue : Option PyStr}
      (named : results (resultsQueue environment queue)) :
      TaskStarts ⟨client, .consuming (resultsQueue environment queue)⟩
  | embedQuery {client : Nat} {Body : Type}
      {environment : ClientEnvironment Body} {freshId : PyStr}
      {texts : Json} {normalize : Bool} {metadata : PyDict}
      {deadline : Instant} :
      TaskStarts ⟨client, .querying (queryJob environment freshId texts
        normalize metadata deadline)⟩

/-- What a coroutine does next.  A label tells the call of the broker that is
answered. -/
inductive TaskMoves : BrokerWorld amqp → BrokerTask →
    Option (BrokerRequest × Answer) → BrokerWorld amqp → BrokerTask → Prop
  | setUp {world : BrokerWorld amqp} {client : Nat}
      {left : BrokerProgram Unit} {request : BrokerRequest}
      {answer : Answer} {broker : amqp.Broker}
      (calls : left.request? = some request)
      (answers : amqp.answers world.broker request answer broker) :
      TaskMoves world ⟨client, .settingUp left⟩ (some (request, answer))
        { world with broker := broker }
        ⟨client, .settingUp (left.answer answer)⟩
  | setUpEnds {world : BrokerWorld amqp} {client : Nat}
      {left : BrokerProgram Unit} {result : Except BrokerFailure Unit}
      (finished : left.value? = some result) :
      TaskMoves world ⟨client, .settingUp left⟩ none world
        ⟨client, .ended⟩
  | connects {world : BrokerWorld amqp} {client : Nat} :
      TaskMoves world ⟨client, .connectCalled⟩ none
        { world with connections := client :: world.connections }
        ⟨client, .opening⟩
  | opens {world : BrokerWorld amqp} {client : Nat} :
      TaskMoves world ⟨client, .opening⟩ none
        { world with channels := client :: world.channels }
        ⟨client, .connecting (declareTopology settings)⟩
  | connectFails {world : BrokerWorld amqp} {client : Nat}
      {state : TaskState}
      (unopened : state = .connectCalled ∨ state = .opening) :
      TaskMoves world ⟨client, state⟩ none world ⟨client, .ended⟩
  | connecting {world : BrokerWorld amqp} {client : Nat}
      {left : BrokerProgram Topology} {request : BrokerRequest}
      {answer : Answer} {broker : amqp.Broker}
      (calls : left.request? = some request)
      (answers : amqp.answers world.broker request answer broker) :
      TaskMoves world ⟨client, .connecting left⟩ (some (request, answer))
        { world with broker := broker }
        ⟨client, .connecting (left.answer answer)⟩
  | connected {world : BrokerWorld amqp} {client : Nat}
      {left : BrokerProgram Topology} {topology : Topology}
      (finished : left.value? = some (.ok topology)) :
      TaskMoves world ⟨client, .connecting left⟩ none
        { world with topologies := client :: world.topologies }
        ⟨client, .ended⟩
  | connectRaises {world : BrokerWorld amqp} {client : Nat}
      {left : BrokerProgram Topology} {failure : BrokerFailure}
      (finished : left.value? = some (.error failure)) :
      TaskMoves world ⟨client, .connecting left⟩ none world
        ⟨client, .ended⟩
  | resultsKnown {world : BrokerWorld amqp} {client : Nat} {name : PyStr}
      {job : Option (Except ValidationFailure EmbeddingJob)}
      (known : name ∈ world.declaredResults client) :
      TaskMoves world ⟨client, .submitting name job⟩ none world
        ⟨client, world.afterResults client name job⟩
  | resultsNew {world : BrokerWorld amqp} {client : Nat} {name : PyStr}
      {job : Option (Except ValidationFailure EmbeddingJob)}
      (new : name ∉ world.declaredResults client)
      (opened : client ∈ world.channels) :
      TaskMoves world ⟨client, .submitting name job⟩ none world
        ⟨client, .declaringResults name job⟩
  | resultsUnopened {world : BrokerWorld amqp} {client : Nat}
      {name : PyStr}
      {job : Option (Except ValidationFailure EmbeddingJob)}
      (new : name ∉ world.declaredResults client)
      (unopened : client ∉ world.channels) :
      TaskMoves world ⟨client, .submitting name job⟩ none world
        ⟨client, .ended⟩
  | consumes {world : BrokerWorld amqp} {client : Nat} {name : PyStr}
      (connected : client ∈ world.connections) :
      TaskMoves world ⟨client, .consuming name⟩ none world
        ⟨client, .declaringResults name none⟩
  | consumeFails {world : BrokerWorld amqp} {client : Nat}
      {name : PyStr} :
      TaskMoves world ⟨client, .consuming name⟩ none world
        ⟨client, .ended⟩
  | resultsDeclared {world : BrokerWorld amqp} {client : Nat}
      {name : PyStr}
      {job : Option (Except ValidationFailure EmbeddingJob)}
      {broker : amqp.Broker}
      (answers : amqp.answers world.broker
        (.declareQueue name (durableQueue resultsQueueArguments))
        .accepted broker) :
      TaskMoves world ⟨client, .declaringResults name job⟩
        (some (.declareQueue name (durableQueue resultsQueueArguments),
          .accepted))
        ({ world with broker := broker }.addResults client name)
        ⟨client, world.afterResults client name job⟩
  | resultsUndeclared {world : BrokerWorld amqp} {client : Nat}
      {name : PyStr}
      {job : Option (Except ValidationFailure EmbeddingJob)}
      {answer : Answer} {broker : amqp.Broker}
      (answers : amqp.answers world.broker
        (.declareQueue name (durableQueue resultsQueueArguments)) answer
        broker)
      (raised : answer ≠ .accepted) :
      TaskMoves world ⟨client, .declaringResults name job⟩
        (some (.declareQueue name (durableQueue resultsQueueArguments),
          answer))
        { world with broker := broker } ⟨client, .ended⟩
  | queries {world : BrokerWorld amqp} {client : Nat}
      {job : Except ValidationFailure EmbeddingJob} :
      TaskMoves world ⟨client, .querying job⟩ none world
        ⟨client, world.toPublish client .query job directReplyTo⟩
  | published {world : BrokerWorld amqp} {client : Nat} {lane : LaneName}
      {job : EmbeddingJob} {replyTo : PyStr} {answer : Answer}
      {broker : amqp.Broker}
      (answers : amqp.answers world.broker
        (.publish settings.mqExchangeRequests lane.text true) answer
        broker) :
      TaskMoves world ⟨client, .publishing lane job replyTo⟩
        (some (.publish settings.mqExchangeRequests lane.text true,
          answer))
        { world with broker := broker } ⟨client, .ended⟩

/-- The steps of any number of workers and clients at one broker. -/
abbrev BrokerStep :
    Threads (BrokerWorld amqp) BrokerTask →
      Interleaving.Action BrokerTask (Option (BrokerRequest × Answer)) →
      Threads (BrokerWorld amqp) BrokerTask → Prop :=
  Interleaving.Step (TaskStarts settings results)
    (TaskMoves amqp settings)

end Steps

/-- A results queue. -/
def resultsItem (name : PyStr) : BrokerItem :=
  .queue name (durableQueue resultsQueueArguments)

/-- What there may be at the broker: what was there, the topology, and the
results queues. -/
def plannedItems (settings : TopologySettings) (results : PyStr → Prop)
    (present : Set BrokerItem) : Set BrokerItem :=
  present ∪ ({item | item ∈ topologyItems settings} ∪
    {item | ∃ name, results name ∧ item = resultsItem name})

section Planned

variable {settings : TopologySettings} {results : PyStr → Prop}
  {present : Set BrokerItem}

theorem hasTopology_planned :
    HasTopology settings (plannedItems settings results present) :=
  fun _ member => Or.inr (Or.inl member)

theorem resultsItem_planned {name : PyStr} (named : results name) :
    resultsItem name ∈ plannedItems settings results present :=
  Or.inr (Or.inr ⟨name, named, rfl⟩)

end Planned

/-- What is planned: a schema in which each name stands for one thing, and
which has the topology and the results queues, under names and with arguments
that the broker admits. -/
structure BrokerPlan (amqp : Amqp) (settings : TopologySettings)
    (results : PyStr → Prop) (schema : Set BrokerItem) : Prop where
  consistent : Consistent schema
  topology : HasTopology settings schema
  resultsQueues : ∀ name, results name → resultsItem name ∈ schema
  admitted : CallsOnly amqp.admits (declareTopology settings)
  admittedResults : ∀ name, results name →
    amqp.admits (.declareQueue name (durableQueue resultsQueueArguments))

/-- The broker is within the schema, and the clients know no more than it
has. -/
structure WorldSound {amqp : Amqp} (settings : TopologySettings)
    (schema : Set BrokerItem) (world : BrokerWorld amqp) : Prop where
  within : world.items ⊆ schema
  topologies : ∀ client ∈ world.topologies,
    HasTopology settings world.items
  declared : ∀ client, ∀ name ∈ world.declaredResults client,
    resultsItem name ∈ world.items

/-- A broker that nobody has called yet. -/
theorem worldSound_start {amqp : Amqp} {broker : amqp.Broker}
    (settings : TopologySettings) (results : PyStr → Prop) :
    WorldSound settings
      (plannedItems settings results (amqp.catalog broker))
      ({ broker := broker } : BrokerWorld amqp) where
  within := Set.subset_union_left
  topologies := by
    intro client member
    cases member
  declared := by
    intro client name member
    cases member

section Outlines

variable {amqp : Amqp} {settings : TopologySettings}
  {results : PyStr → Prop} {schema : Set BrokerItem}

/-- A program that declares the topology, with what is known to be there. -/
def Topologizes {Value : Type} (settings : TopologySettings)
    (schema : Set BrokerItem) (world : BrokerWorld amqp)
    (left : BrokerProgram Value) : Prop :=
  ∃ known, known ⊆ world.items ∧
    Establishes amqp schema left known
      (fun _ later => HasTopology settings later)

/-- What is said of a coroutine: what it declares is planned, and a request is
published only where its queues are there. -/
def TaskSound (settings : TopologySettings) (results : PyStr → Prop)
    (schema : Set BrokerItem) (world : BrokerWorld amqp)
    (task : BrokerTask) : Prop :=
  match task.state with
  | .settingUp left => Topologizes settings schema world left
  | .connecting left => Topologizes settings schema world left
  | .submitting name _ => results name
  | .consuming name => results name
  | .declaringResults name _ => results name
  | .publishing lane _ replyTo =>
      HasTopology settings world.items ∧
        (lane = .index → resultsItem replyTo ∈ world.items)
  | _ => True

variable {world after : BrokerWorld amqp} {task next : BrokerTask}

theorem Topologizes.mono {Value : Type} {left : BrokerProgram Value}
    (topologizes : Topologizes settings schema world left)
    (grows : world.items ⊆ after.items) :
    Topologizes settings schema after left := by
  obtain ⟨known, has, establishes⟩ := topologizes
  exact ⟨known, has.trans grows, establishes⟩

/-- What is said of a coroutine stays while the broker has more. -/
theorem TaskSound.mono (sound : TaskSound settings results schema world task)
    (grows : world.items ⊆ after.items) :
    TaskSound settings results schema after task := by
  obtain ⟨client, state⟩ := task
  cases state with
  | settingUp left =>
      exact Topologizes.mono sound grows
  | connecting left =>
      exact Topologizes.mono sound grows
  | publishing lane job replyTo =>
      exact ⟨sound.1.mono grows, fun indexed => grows (sound.2 indexed)⟩
  | _ =>
      exact sound

theorem WorldSound.grow (sound : WorldSound settings schema world)
    {broker : amqp.Broker}
    (grows : world.items ⊆ amqp.catalog broker)
    (within : amqp.catalog broker ⊆ schema) :
    WorldSound settings schema { world with broker := broker } where
  within := within
  topologies := fun client member =>
    (sound.topologies client member).mono grows
  declared := fun client name member =>
    grows (sound.declared client name member)

theorem WorldSound.toPublish (sound : WorldSound settings schema world)
    {client : Nat} {lane : LaneName}
    {job : Except ValidationFailure EmbeddingJob} {replyTo : PyStr}
    (replies : lane = .index → resultsItem replyTo ∈ world.items) :
    TaskSound settings results schema world
      ⟨client, world.toPublish client lane job replyTo⟩ := by
  unfold BrokerWorld.toPublish
  cases job with
  | error failure =>
      trivial
  | ok job =>
      by_cases ready : client ∈ world.topologies
      · simp only [if_pos ready]
        exact ⟨sound.topologies client ready, replies⟩
      · simp only [if_neg ready]
        trivial

theorem WorldSound.afterResults (sound : WorldSound settings schema world)
    {client : Nat} {name : PyStr}
    {job : Option (Except ValidationFailure EmbeddingJob)}
    (present : resultsItem name ∈ world.items) :
    TaskSound settings results schema world
      ⟨client, world.afterResults client name job⟩ := by
  unfold BrokerWorld.afterResults
  cases job with
  | none =>
      trivial
  | some job =>
      exact sound.toPublish (fun _ => present)

/-- What a move leaves: nothing is refused, the broker only gains, and what is
said of the world and of the coroutine holds again. -/
structure MoveSound (settings : TopologySettings) (results : PyStr → Prop)
    (schema : Set BrokerItem) (world : BrokerWorld amqp)
    (label : Option (BrokerRequest × Answer)) (after : BrokerWorld amqp)
    (next : BrokerTask) : Prop where
  accepted : ∀ request answer, label = some (request, answer) →
    answer ≠ .refused
  grows : world.items ⊆ after.items
  world : WorldSound settings schema after
  task : TaskSound settings results schema after next

/-- A move that calls nothing. -/
theorem MoveSound.silent (world : BrokerWorld amqp)
    (items : after.items = world.items)
    (sound : WorldSound settings schema after)
    (taskSound : TaskSound settings results schema after next) :
    MoveSound settings results schema world none after next where
  accepted := by
    intro request answer same
    cases same
  grows := items ▸ Set.Subset.refl _
  world := sound
  task := taskSound

variable (documented : amqp.Documented)

include documented

/-- A call of a program that declares the topology. -/
theorem topologizes_answer {Value : Type} {left : BrokerProgram Value}
    {request : BrokerRequest} {answer : Answer} {broker : amqp.Broker}
    (sound : WorldSound settings schema world)
    (topologizes : Topologizes settings schema world left)
    (calls : left.request? = some request)
    (answers : amqp.answers world.broker request answer broker) :
    answer ≠ .refused ∧ world.items ⊆ amqp.catalog broker ∧
      WorldSound settings schema { world with broker := broker } ∧
      Topologizes settings schema
        ({ world with broker := broker } : BrokerWorld amqp)
        (left.answer answer) := by
  obtain ⟨known, has, establishes⟩ := topologizes
  have answered := documented.answers _ _ _ _ answers
  obtain ⟨notRefused, within, later, laterHas, declares⟩ :=
    establishes.answer calls answered sound.within has
  have grows := answered.grows.1
  exact ⟨notRefused, grows, sound.grow grows within, later, laterHas,
    declares⟩

theorem results_answer {name : PyStr} {answer : Answer}
    {broker : amqp.Broker} (plan : BrokerPlan amqp settings results schema)
    (sound : WorldSound settings schema world) (named : results name)
    (answers : amqp.answers world.broker
      (.declareQueue name (durableQueue resultsQueueArguments)) answer
      broker) :
    answer ≠ .refused ∧ world.items ⊆ amqp.catalog broker ∧
      WorldSound settings schema { world with broker := broker } ∧
      (answer = .accepted → resultsItem name ∈ amqp.catalog broker) := by
  have answered := documented.answers _ _ _ _ answers
  have fits := fits_declareQueue plan.consistent
    (plan.admittedResults name named) (plan.resultsQueues name named)
  have notRefused := answered.not_refused sound.within fits trivial
  have grows := answered.grows
  refine ⟨notRefused, grows.1, sound.grow grows.1 ?_, ?_⟩
  · exact grows.2.trans (Set.union_subset sound.within fits.adds)
  · intro accepted
    subst accepted
    generalize amqp.catalog broker = later at answered
    cases answered with
    | accepted accepts =>
        exact Or.inr rfl

/-- A published request is not refused: it reaches the queue of its lane. -/
theorem publish_answer {lane : LaneName} {answer : Answer}
    {broker : amqp.Broker} (sound : WorldSound settings schema world)
    (has : HasTopology settings world.items)
    (answers : amqp.answers world.broker
      (.publish settings.mqExchangeRequests lane.text true) answer
      broker) :
    answer ≠ .refused ∧ world.items ⊆ amqp.catalog broker ∧
      WorldSound settings schema { world with broker := broker } := by
  have answered := documented.answers _ _ _ _ answers
  have fits : amqp.rules.Fits schema
      (.publish settings.mqExchangeRequests lane.text true) :=
    fits_other (documented.admitsPublish _ _ _) (Set.empty_subset _)
      (fun _ => id)
  have known := has (.exchange settings.mqExchangeRequests
    (durableExchange .direct)) (by simp [topologyItems])
  have bound : .binding settings.mqExchangeRequests
      (.queue (laneQueue settings lane)) lane.text ∈ world.items := by
    apply has
    cases lane <;>
      simp [topologyItems, laneQueue, LaneName.text, queryKey, indexKey]
  have met : (BrokerRequest.publish settings.mqExchangeRequests lane.text
      true).Needs amqp.topicMatches world.items :=
    ⟨Or.inr ⟨_, known⟩, fun _ => ⟨_, .toQueue known bound rfl⟩⟩
  have notRefused := answered.not_refused sound.within fits met
  have grows := answered.grows
  refine ⟨notRefused, grows.1, sound.grow grows.1 ?_⟩
  exact grows.2.trans (Set.union_subset sound.within fits.adds)

theorem taskMoves_sound (plan : BrokerPlan amqp settings results schema)
    {label : Option (BrokerRequest × Answer)}
    (sound : WorldSound settings schema world)
    (about : TaskSound settings results schema world task)
    (moves : TaskMoves amqp settings world task label after next) :
    MoveSound settings results schema world label after next := by
  cases moves with
  | setUp calls answers =>
      obtain ⟨notRefused, grows, worldSound, topologizes⟩ :=
        topologizes_answer documented sound about calls answers
      exact ⟨fun _ _ same => by cases same; exact notRefused, grows,
        worldSound, topologizes⟩
  | setUpEnds finished =>
      exact .silent world rfl sound trivial
  | connects =>
      exact .silent world rfl
        ⟨sound.within, sound.topologies, sound.declared⟩ trivial
  | opens =>
      exact .silent world rfl
        ⟨sound.within, sound.topologies, sound.declared⟩
        ⟨∅, Set.empty_subset _,
          declareTopology_establishes plan.consistent plan.topology
            plan.admitted⟩
  | connectFails unopened =>
      exact .silent world rfl sound trivial
  | connecting calls answers =>
      obtain ⟨notRefused, grows, worldSound, topologizes⟩ :=
        topologizes_answer documented sound about calls answers
      exact ⟨fun _ _ same => by cases same; exact notRefused, grows,
        worldSound, topologizes⟩
  | connected finished =>
      obtain ⟨known, has, establishes⟩ := about
      have complete := (establishes.value finished _ rfl).mono has
      refine .silent world rfl ⟨sound.within, ?_, sound.declared⟩ trivial
      intro client member
      exact complete
  | connectRaises finished =>
      exact .silent world rfl sound trivial
  | resultsKnown known =>
      exact .silent world rfl sound
        (sound.afterResults (sound.declared _ _ known))
  | resultsNew new opened =>
      exact .silent world rfl sound about
  | resultsUnopened new unopened =>
      exact .silent world rfl sound trivial
  | consumes connected =>
      exact .silent world rfl sound about
  | consumeFails =>
      exact .silent world rfl sound trivial
  | @resultsDeclared client name job broker answers =>
      obtain ⟨notRefused, grows, worldSound, present⟩ :=
        results_answer documented plan sound about answers
      have added := present rfl
      refine ⟨fun _ _ same => by cases same; exact notRefused, grows,
        ⟨worldSound.within, worldSound.topologies, ?_⟩, ?_⟩
      · intro other known member
        by_cases own : other = client
        · subst own
          simp only [BrokerWorld.addResults, Function.update_self] at member
          rcases List.mem_cons.mp member with rfl | before
          · exact added
          · exact worldSound.declared _ _ before
        · simp only [BrokerWorld.addResults,
            Function.update_of_ne own] at member
          exact worldSound.declared _ _ member
      · exact worldSound.afterResults added
  | resultsUndeclared answers raised =>
      obtain ⟨notRefused, grows, worldSound, _⟩ :=
        results_answer documented plan sound about answers
      exact ⟨fun _ _ same => by cases same; exact notRefused, grows,
        worldSound, trivial⟩
  | queries =>
      refine .silent world rfl sound (sound.toPublish ?_)
      intro indexed
      cases indexed
  | published answers =>
      obtain ⟨notRefused, grows, worldSound⟩ :=
        publish_answer documented sound about.1 answers
      exact ⟨fun _ _ same => by cases same; exact notRefused, grows,
        worldSound, trivial⟩

theorem taskStarts_sound (plan : BrokerPlan amqp settings results schema)
    (starts : TaskStarts settings results task) :
    TaskSound settings results schema world task := by
  cases starts with
  | worker lanes =>
      exact ⟨∅, Set.empty_subset _, workerSetup_establishes documented
        plan.consistent plan.topology plan.admitted lanes⟩
  | connect =>
      trivial
  | submitIndex named =>
      exact named
  | declareResultsQueue named =>
      exact named
  | consumeResults named =>
      exact named
  | embedQuery =>
      trivial

/-- A move leaves the broker alone, or is a call that it answers. -/
theorem taskMoves_items {label : Option (BrokerRequest × Answer)}
    (moves : TaskMoves amqp settings world task label after next) :
    after.items = world.items ∨ ∃ request answer,
      amqp.rules.Answers world.items request answer after.items := by
  have answered : ∀ {request answer broker},
      amqp.answers world.broker request answer broker →
        ∃ request answer, amqp.rules.Answers world.items request answer
          (amqp.catalog broker) :=
    fun answers => ⟨_, _, documented.answers _ _ _ _ answers⟩
  cases moves with
  | setUp calls answers =>
      exact Or.inr (answered answers)
  | connecting calls answers =>
      exact Or.inr (answered answers)
  | resultsDeclared answers =>
      exact Or.inr (answered answers)
  | resultsUndeclared answers raised =>
      exact Or.inr (answered answers)
  | published answers =>
      exact Or.inr (answered answers)
  | _ =>
      exact Or.inl rfl

theorem taskMoves_grows {label : Option (BrokerRequest × Answer)}
    (moves : TaskMoves amqp settings world task label after next) :
    world.items ⊆ after.items := by
  rcases taskMoves_items documented moves with same | ⟨_, _, answers⟩
  · exact same ▸ Set.Subset.refl _
  · exact answers.grows.1

/-- The coroutines do not interfere: each only adds to the broker. -/
theorem brokerOutline (plan : BrokerPlan amqp settings results schema) :
    Outline (WorldSound settings schema)
      (TaskSound settings results schema) (fun _ _ => True)
      (TaskStarts settings results) (TaskMoves amqp settings) where
  symmetric := fun _ _ _ => trivial
  starts := fun world task _ starts =>
    taskStarts_sound documented plan starts
  startsApart := fun _ _ _ _ _ => trivial
  own := by
    intro world task label after next sound about moves
    have moved := taskMoves_sound documented plan sound about moves
    exact ⟨moved.world, moved.task⟩
  others := by
    intro world task label after next other _ otherAbout _ moves
    exact ⟨otherAbout.mono (taskMoves_grows documented moves), trivial⟩

/-- What there is at the broker stays there. -/
theorem items_grow {system later : Threads (BrokerWorld amqp) BrokerTask}
    (reached : Reachable (BrokerStep amqp settings results) system later) :
    system.shared.items ⊆ later.shared.items := by
  refine reached.invariant
    (I := fun later => system.shared.items ⊆ later.shared.items)
    (Set.Subset.refl _) ?_
  intro before label after grown taken
  cases taken with
  | start starts =>
      exact grown
  | move found moves =>
      exact grown.trans (taskMoves_grows documented moves)

/-- No name ever stands for two things at the broker. -/
theorem consistent_of_reachable
    {system later : Threads (BrokerWorld amqp) BrokerTask}
    (reached : Reachable (BrokerStep amqp settings results) system later)
    (consistent : Consistent system.shared.items) :
    Consistent later.shared.items := by
  refine reached.invariant
    (I := fun later => Consistent later.shared.items) consistent ?_
  intro before label after sound taken
  cases taken with
  | start starts =>
      exact sound
  | move found moves =>
      rcases taskMoves_items documented moves with same | ⟨_, _, answers⟩
      · rw [same]
        exact sound
      · exact sound.answers answers

end Outlines

end EmbeddingService
