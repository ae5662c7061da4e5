import EmbeddingService.System.BrokerSetup

/-!
# What the set-up guarantees

Declarations are never refused exactly when no name stands for two things.
Then every request that a client publishes gets into the queue of its lane and
no other, and the queue of its reply is there for good.
-/

namespace EmbeddingService

open CallProgram Declarations Interleaving LabelledRuns

section Names

/-- The settings name everything apart: only the results queues may be the
dead letter queue, which is declared alike. -/
structure NamesApart (settings : TopologySettings)
    (results : PyStr → Prop) : Prop where
  requestsEvents : settings.mqExchangeRequests ≠ settings.mqExchangeEvents
  dlxEvents : settings.mqExchangeDlx ≠ settings.mqExchangeEvents
  queryIndex : settings.queryQueue ≠ settings.indexQueue
  queryDead : settings.queryQueue ≠ settings.mqDeadLetterQueue
  indexDead : settings.indexQueue ≠ settings.mqDeadLetterQueue
  queryResults : ¬ results settings.queryQueue
  indexResults : ¬ results settings.indexQueue

variable {settings : TopologySettings} {results : PyStr → Prop}
  {present : Set BrokerItem} {name : PyStr}

theorem exchange_planned_iff {spec : ExchangeSpec} :
    .exchange name spec ∈ plannedItems settings results present ↔
      .exchange name spec ∈ present ∨
        name = settings.mqExchangeDlx ∧ spec = durableExchange .direct ∨
        name = settings.mqExchangeRequests ∧
          spec = durableExchange .direct ∨
        name = settings.mqExchangeEvents ∧ spec = durableExchange .topic := by
  simp [plannedItems, topologyItems, resultsItem]

theorem queue_planned_iff {spec : QueueSpec} :
    .queue name spec ∈ plannedItems settings results present ↔
      .queue name spec ∈ present ∨
        (name = settings.mqDeadLetterQueue ∧
            spec = durableQueue quorumArguments ∨
          name = settings.queryQueue ∧
            spec = durableQueue (queryQueueArguments settings) ∨
          name = settings.indexQueue ∧
            spec = durableQueue (indexQueueArguments settings)) ∨
        results name ∧ spec = durableQueue resultsQueueArguments := by
  simp [plannedItems, topologyItems, resultsItem, eq_comm]

theorem query_ne_index :
    durableQueue (queryQueueArguments settings) ≠
      durableQueue (indexQueueArguments settings) := by
  simp [durableQueue, queryQueueArguments, indexQueueArguments]

theorem query_ne_quorum :
    durableQueue (queryQueueArguments settings) ≠
      durableQueue quorumArguments := by
  simp [durableQueue, queryQueueArguments, quorumArguments]

theorem index_ne_quorum :
    durableQueue (indexQueueArguments settings) ≠
      durableQueue quorumArguments := by
  simp [durableQueue, indexQueueArguments, quorumArguments]

theorem direct_ne_topic :
    durableExchange .direct ≠ durableExchange .topic := by
  decide

/-- What is planned for a new broker names each thing once exactly when the
settings name everything apart. -/
theorem consistent_planned_iff :
    Consistent (plannedItems settings results ∅) ↔
      NamesApart settings results := by
  constructor
  · intro consistent
    have exchange : ∀ {name first second},
        .exchange name first ∈ plannedItems settings results ∅ →
        .exchange name second ∈ plannedItems settings results ∅ →
          first = second :=
      consistent.exchanges _ _ _
    have queue : ∀ {name first second},
        .queue name first ∈ plannedItems settings results ∅ →
        .queue name second ∈ plannedItems settings results ∅ →
          first = second :=
      consistent.queues _ _ _
    have query : .queue settings.queryQueue
        (durableQueue (queryQueueArguments settings)) ∈
          plannedItems settings results ∅ := by
      simp [queue_planned_iff]
    have index : .queue settings.indexQueue
        (durableQueue (indexQueueArguments settings)) ∈
          plannedItems settings results ∅ := by
      simp [queue_planned_iff]
    exact
      { requestsEvents := by
          intro same
          have requests : .exchange settings.mqExchangeRequests
              (durableExchange .direct) ∈
                plannedItems settings results ∅ := by
            simp [exchange_planned_iff]
          refine direct_ne_topic (exchange requests ?_)
          simp [exchange_planned_iff, same]
        dlxEvents := by
          intro same
          have dlx : .exchange settings.mqExchangeDlx
              (durableExchange .direct) ∈
                plannedItems settings results ∅ := by
            simp [exchange_planned_iff]
          refine direct_ne_topic (exchange dlx ?_)
          simp [exchange_planned_iff, same]
        queryIndex := by
          intro same
          exact query_ne_index (queue query (same ▸ index))
        queryDead := by
          intro same
          refine query_ne_quorum (queue query ?_)
          simp [queue_planned_iff, same]
        indexDead := by
          intro same
          refine index_ne_quorum (queue index ?_)
          simp [queue_planned_iff, same]
        queryResults := by
          intro named
          exact query_ne_quorum (queue query (resultsItem_planned named))
        indexResults := by
          intro named
          exact index_ne_quorum (queue index (resultsItem_planned named)) }
  · intro apart
    constructor
    · intro name spec other found again
      rw [exchange_planned_iff] at found again
      rcases found with ⟨⟨⟩⟩ | ⟨rfl, rfl⟩ | ⟨rfl, rfl⟩ | ⟨rfl, rfl⟩ <;>
        rcases again with ⟨⟨⟩⟩ | ⟨same, rfl⟩ | ⟨same, rfl⟩ | ⟨same, rfl⟩
      all_goals first
        | exact absurd same apart.dlxEvents
        | exact absurd same apart.requestsEvents
        | exact absurd same.symm apart.dlxEvents
        | exact absurd same.symm apart.requestsEvents
        | rfl
    · intro name spec other found again
      rw [queue_planned_iff] at found again
      rcases found with
          ⟨⟨⟩⟩ | (⟨rfl, rfl⟩ | ⟨rfl, rfl⟩ | ⟨rfl, rfl⟩) | ⟨named, rfl⟩ <;>
        rcases again with
          ⟨⟨⟩⟩ | (⟨same, rfl⟩ | ⟨same, rfl⟩ | ⟨same, rfl⟩) | ⟨also, rfl⟩
      all_goals first
        | exact absurd same apart.queryIndex
        | exact absurd same apart.queryDead
        | exact absurd same apart.indexDead
        | exact absurd same.symm apart.queryIndex
        | exact absurd same.symm apart.queryDead
        | exact absurd same.symm apart.indexDead
        | exact absurd also apart.queryResults
        | exact absurd also apart.indexResults
        | (subst same; exact absurd named apart.queryResults)
        | (subst same; exact absurd named apart.indexResults)
        | rfl

end Names

section Runs

variable {amqp : Amqp} {settings : TopologySettings}
  {results : PyStr → Prop}
  {start system : Threads (BrokerWorld amqp) BrokerTask}

/-- In no run from `start` is a call of the broker refused. -/
def NeverRefused (amqp : Amqp) (settings : TopologySettings)
    (results : PyStr → Prop)
    (start : Threads (BrokerWorld amqp) BrokerTask) : Prop :=
  ∀ system, Reachable (BrokerStep amqp settings results) start system →
    ∀ number request answer after,
      BrokerStep amqp settings results system
        (.move number (some (request, answer))) after →
      answer ≠ .refused

/-- A program that is run to its end with every call accepted. -/
theorem reachable_accepted (documented : amqp.Documented)
    (unrefused : NeverRefused amqp settings results start)
    {Value : Type} (wrap : BrokerProgram Value → TaskState)
    (moves : ∀ {world : BrokerWorld amqp} {client : Nat}
      {left : BrokerProgram Value} {request : BrokerRequest}
      {answer : Answer} {broker : amqp.Broker},
      left.request? = some request →
      amqp.answers world.broker request answer broker →
        TaskMoves amqp settings world ⟨client, wrap left⟩
          (some (request, answer)) { world with broker := broker }
          ⟨client, wrap (left.answer answer)⟩)
    (left : BrokerProgram Value) :
    ∀ {system : Threads (BrokerWorld amqp) BrokerTask},
      Reachable (BrokerStep amqp settings results) start system →
      ∀ (number : Nat) {client : Nat},
        system.threads[number]? = some ⟨client, wrap left⟩ →
        ∃ broker,
          Reachable (BrokerStep amqp settings results) start
            { shared := { system.shared with broker := broker }
              threads := system.threads.set number
                ⟨client, wrap (.done (acceptedValue left))⟩ } ∧
          system.shared.items ∪ acceptedItems amqp.rules left ⊆
            amqp.catalog broker := by
  induction left with
  | done value =>
      intro system reached number client found
      refine ⟨system.shared.broker, ?_, ?_⟩
      · rw [acceptedValue, ListUpdate.set_self found]
        exact reached
      · rw [acceptedItems, Set.union_empty]
        exact Set.Subset.refl _
  | call request resume inductionHypothesis =>
      intro system reached number client found
      by_cases accepts : amqp.rules.Accepts system.shared.items request
      · obtain ⟨taken, answers⟩ := documented.takes _ _ accepts
        have moved := reachable_move reached number found
          (moves rfl answers)
        have inside := (List.getElem?_eq_some_iff.mp found).1
        obtain ⟨broker, later, has⟩ := inductionHypothesis .accepted moved
          number (List.getElem?_set_self inside)
        refine ⟨broker, ?_, ?_⟩
        · rw [List.set_set] at later
          exact later
        · have added := documented.answers _ _ _ _ answers
          generalize same : amqp.catalog taken = after at added
          cases added with
          | accepted _ =>
              rw [acceptedItems, ← Set.union_assoc]
              change amqp.catalog system.shared.broker ∪
                amqp.rules.adds request ∪ _ ⊆ _
              rw [← same]
              exact has
      · obtain ⟨taken, answers⟩ := documented.refuses _ _ accepts
        exact False.elim (unrefused system reached number request .refused _
          (.move found (moves rfl answers)) rfl)

theorem reachable_start
    (reached : Reachable (BrokerStep amqp settings results) start system)
    {task : BrokerTask} (starts : TaskStarts settings results task) :
    Reachable (BrokerStep amqp settings results) start
        { system with threads := system.threads ++ [task] } ∧
      (system.threads ++ [task])[system.threads.length]? = some task :=
  ⟨reached.tail (.start starts), by simp⟩

/-- A worker that is not refused sets up the topology. -/
theorem exists_topology (documented : amqp.Documented)
    (unrefused : NeverRefused amqp settings results start) :
    ∃ system, Reachable (BrokerStep amqp settings results) start system ∧
      HasTopology settings system.shared.items := by
  obtain ⟨reached, found⟩ := reachable_start (Reachable.refl start)
    (@TaskStarts.worker settings results 0 [])
  obtain ⟨broker, later, has⟩ := reachable_accepted documented unrefused
    .settingUp .setUp (workerSetup settings []) reached _ found
  refine ⟨_, later, ?_⟩
  intro item member
  exact has (Or.inr (workerSetup_acceptedItems item member))

/-- A results queue that is not refused is declared. -/
theorem reachable_results (documented : amqp.Documented)
    (unrefused : NeverRefused amqp settings results start)
    (reached : Reachable (BrokerStep amqp settings results) start system)
    (number : Nat) {client : Nat} {name : PyStr}
    {job : Option (Except ValidationFailure EmbeddingJob)}
    (found : system.threads[number]? =
      some ⟨client, .declaringResults name job⟩) :
    ∃ broker,
      Reachable (BrokerStep amqp settings results) system
        { shared :=
            { system.shared with broker := broker }.addResults client name
          threads := system.threads.set number
            ⟨client, system.shared.afterResults client name job⟩ } ∧
      resultsItem name ∈ amqp.catalog broker := by
  by_cases accepts : amqp.rules.Accepts system.shared.items
      (.declareQueue name (durableQueue resultsQueueArguments))
  · obtain ⟨broker, answers⟩ := documented.takes _ _ accepts
    refine ⟨broker, reachable_move (Reachable.refl system) number found
      (.resultsDeclared answers), ?_⟩
    have added := documented.answers _ _ _ _ answers
    generalize amqp.catalog broker = items at added
    cases added with
    | accepted _ =>
        exact Or.inr rfl
  · obtain ⟨broker, answers⟩ := documented.refuses _ _ accepts
    refine False.elim (unrefused system reached number _ .refused _
      (.move found (.resultsUndeclared answers ?_)) rfl)
    intro same
    cases same

/-- A consumer that is not refused sets up its results queue. -/
theorem exists_results (documented : amqp.Documented)
    (unrefused : NeverRefused amqp settings results start)
    (reached : Reachable (BrokerStep amqp settings results) start system)
    {name : PyStr} (named : results name) (notEmpty : name ≠ []) :
    ∃ later, Reachable (BrokerStep amqp settings results) start later ∧
      Reachable (BrokerStep amqp settings results) system later ∧
      resultsItem name ∈ later.shared.items := by
  have same : resultsQueue wireClient (some name) = name := by
    cases name with
    | nil =>
        exact False.elim (notEmpty rfl)
    | cons point rest =>
        rfl
  have starts : TaskStarts settings results ⟨0, .consuming name⟩ := by
    have consumes := @TaskStarts.consumeResults settings results 0 _
      wireClient (some name) (by rw [same]; exact named)
    rw [same] at consumes
    exact consumes
  obtain ⟨connecting, connectFound⟩ := reachable_start
    (Reachable.refl system) (@TaskStarts.connect settings results 0)
  have connected := reachable_move connecting _ connectFound
    (@TaskMoves.connects amqp settings _ 0)
  obtain ⟨consuming, consumeFound⟩ := reachable_start connected starts
  have declaring := reachable_move consuming _ consumeFound
    (@TaskMoves.consumes amqp settings _ 0 name List.mem_cons_self)
  have inside := (List.getElem?_eq_some_iff.mp consumeFound).1
  obtain ⟨broker, declared, added⟩ := reachable_results documented unrefused
    (reached.trans declaring) _ (List.getElem?_set_self inside)
  exact ⟨_, reached.trans (declaring.trans declared),
    declaring.trans declared, added⟩

/-- Whoever keeps to a plan is never refused. -/
theorem neverRefused_of_plan (documented : amqp.Documented)
    {broker : amqp.Broker}
    (plan : BrokerPlan amqp settings results
      (plannedItems settings results (amqp.catalog broker))) :
    NeverRefused amqp settings results
      { shared := { broker := broker } } := by
  intro system reached number request answer after taken
  have annotated := (brokerOutline documented plan).reachable
    (worldSound_start settings results) reached
  cases taken with
  | move found moves =>
      exact (taskMoves_sound documented plan annotated.shared
        (annotated.about _ _ found) moves).accepted _ _ rfl

/-- However workers and clients set up at the broker, in any order, any number
of times, and with calls that fail at any moment: no declaration, no lookup of
a queue and no mandatory publish is ever refused, if and only if what was
there, the topology and the results queues name each thing once. -/
theorem neverRefused_iff (documented : amqp.Documented)
    {broker : amqp.Broker} (sound : Consistent (amqp.catalog broker))
    (admitted : CallsOnly amqp.admits (declareTopology settings))
    (admittedResults : ∀ name, results name →
      amqp.admits (.declareQueue name (durableQueue resultsQueueArguments)))
    (named : ∀ name, results name → name ≠ []) :
    NeverRefused amqp settings results { shared := { broker := broker } } ↔
      Consistent
        (plannedItems settings results (amqp.catalog broker)) := by
  constructor
  · intro unrefused
    obtain ⟨system, reached, has⟩ := exists_topology documented unrefused
    have present : amqp.catalog broker ⊆ system.shared.items :=
      items_grow documented reached
    have consistent := consistent_of_reachable documented reached sound
    constructor
    · have known : ∀ name spec,
          .exchange name spec ∈
            plannedItems settings results (amqp.catalog broker) →
          .exchange name spec ∈ system.shared.items := by
        rintro name spec (before | declared | ⟨other, _, same⟩)
        · exact present before
        · exact has _ declared
        · cases same
      intro name spec other found again
      exact consistent.exchanges name spec other (known _ _ found)
        (known _ _ again)
    · intro name spec other found again
      by_cases asked : results name
      · obtain ⟨later, laterReached, after, declared⟩ :=
          exists_results documented unrefused reached asked
            (named name asked)
        have laterConsistent := consistent_of_reachable documented
          laterReached sound
        have grown := items_grow documented after
        have known : ∀ spec,
            .queue name spec ∈
              plannedItems settings results (amqp.catalog broker) →
            .queue name spec ∈ later.shared.items := by
          rintro spec (before | member | ⟨result, _, same⟩)
          · exact grown (present before)
          · exact grown (has _ member)
          · cases same
            exact declared
        exact laterConsistent.queues name spec other (known _ found)
          (known _ again)
      · have known : ∀ spec,
            .queue name spec ∈
              plannedItems settings results (amqp.catalog broker) →
            .queue name spec ∈ system.shared.items := by
          rintro spec (before | member | ⟨result, also, same⟩)
          · exact present before
          · exact has _ member
          · cases same
            exact False.elim (asked also)
        exact consistent.queues name spec other (known _ found)
          (known _ again)
  · intro consistent
    exact neverRefused_of_plan documented
      { consistent := consistent
        topology := hasTopology_planned
        resultsQueues := fun _ asked => resultsItem_planned asked
        admitted := admitted
        admittedResults := admittedResults }

end Runs

section Ways

variable {amqp : Amqp} {settings : TopologySettings}
  {results : PyStr → Prop} {items : Set BrokerItem}

/-- The ways of a request on a lane and of what becomes of it: it gets into
the queue of the lane and no other; an index request that is given up gets
into the dead letter queue and no other, a query into none; and the reply to an
index request gets into the queue it is addressed to. -/
structure WaysOf (amqp : Amqp) (settings : TopologySettings)
    (items : Set BrokerItem) (lane : LaneName) (replyTo : PyStr) :
    Prop where
  request : ∀ name,
    Routes amqp.topicMatches items lane.text settings.mqExchangeRequests
        name ↔
      name = laneQueue settings lane
  deadLetters : ∀ spec, .queue (laneQueue settings lane) spec ∈ items →
    match lane with
    | .query => spec.deadLetterExchange = none
    | .index => ∃ dlx, spec.deadLetterExchange = some dlx ∧
        ∀ name, Routes amqp.topicMatches items lane.text dlx name ↔
          name = settings.mqDeadLetterQueue
  reply : lane = .index →
    Routes amqp.topicMatches items replyTo [] replyTo

/-- No binding but those of the topology is ever made at its exchanges. -/
theorem ownBindings_planned {present : Set BrokerItem}
    (own : OwnBindings settings present)
    (within : items ⊆ plannedItems settings results present) :
    OwnBindings settings items := by
  intro source destination key bound ours
  rcases within bound with before | declared | ⟨name, _, same⟩
  · exact own source destination key before ours
  · exact declared
  · cases same

theorem Consistent.mono {larger : Set BrokerItem}
    (consistent : Consistent larger) (within : items ⊆ larger) :
    Consistent items where
  exchanges := fun name spec other found again =>
    consistent.exchanges name spec other (within found) (within again)
  queues := fun name spec other found again =>
    consistent.queues name spec other (within found) (within again)

theorem waysOf (distinct : DistinctExchanges settings)
    (consistent : Consistent items) (has : HasTopology settings items)
    (own : OwnBindings settings items) {lane : LaneName} {replyTo : PyStr}
    (replies : lane = .index → resultsItem replyTo ∈ items) :
    WaysOf amqp settings items lane replyTo where
  request := by
    intro name
    rw [routes_requests_iff distinct consistent has own]
    cases lane with
    | query =>
        have different : pyStr "query" ≠ indexKey := by
          decide
        simp [LaneName.text, queryKey, laneQueue, different]
    | index =>
        have different : pyStr "index" ≠ queryKey := by
          decide
        simp [LaneName.text, indexKey, laneQueue, different]
  deadLetters := by
    intro spec found
    cases lane with
    | query =>
        have declared := has (.queue settings.queryQueue
          (durableQueue (queryQueueArguments settings)))
          (by simp [topologyItems])
        rw [consistent.queues _ _ _ found declared]
        rfl
    | index =>
        have declared := has (.queue settings.indexQueue
          (durableQueue (indexQueueArguments settings)))
          (by simp [topologyItems])
        rw [consistent.queues _ _ _ found declared]
        refine ⟨settings.mqExchangeDlx, rfl, ?_⟩
        intro name
        rw [routes_dlx_iff distinct consistent has own]
        simp [LaneName.text, indexKey]
  reply := fun indexed => .byName (replies indexed)

/-- In every run of any number of workers and clients: once a client is about
to publish a request, then and for good the request gets into the queue of its
lane and no other, what is given up of it where the topology says, and its
reply where it is addressed to. -/
theorem requestsRouted (documented : amqp.Documented)
    {broker : amqp.Broker}
    (plan : BrokerPlan amqp settings results
      (plannedItems settings results (amqp.catalog broker)))
    (distinct : DistinctExchanges settings)
    (own : OwnBindings settings (amqp.catalog broker))
    {system later : Threads (BrokerWorld amqp) BrokerTask}
    (reached : Reachable (BrokerStep amqp settings results)
      { shared := { broker := broker } } system)
    {client : Nat} {lane : LaneName} {job : EmbeddingJob} {replyTo : PyStr}
    (publishes : ⟨client, .publishing lane job replyTo⟩ ∈ system.threads)
    (goesOn : Reachable (BrokerStep amqp settings results) system later) :
    WaysOf amqp settings later.shared.items lane replyTo := by
  have annotated := (brokerOutline documented plan).reachable
    (worldSound_start settings results) reached
  have laterAnnotated := (brokerOutline documented plan).reachable
    (worldSound_start settings results) (reached.trans goesOn)
  obtain ⟨number, found⟩ := List.mem_iff_getElem?.mp publishes
  obtain ⟨has, replies⟩ := annotated.about number _ found
  have grown := items_grow documented goesOn
  have within := laterAnnotated.shared.within
  exact waysOf distinct (plan.consistent.mono within) (has.mono grown)
    (ownBindings_planned own within)
    (fun indexed => grown (replies indexed))

end Ways

section Samples

/-- Only the default results queue is used. -/
def defaultResults (name : PyStr) : Prop :=
  name = Settings.defaults.indexResultsQueue

theorem namesApart_defaults : NamesApart {} defaultResults := by
  unfold defaultResults
  constructor <;> decide

theorem callsOnly_admitted {Value : Type} (program : BrokerProgram Value) :
    CallsOnly smallAmqp.admits program := by
  induction program with
  | done value =>
      trivial
  | call request resume inductionHypothesis =>
      exact ⟨trivial, inductionHypothesis⟩

/-- With the default settings, nobody is refused at a new broker. -/
theorem neverRefused_iff_defaults :
    NeverRefused smallAmqp {} defaultResults
      { shared := { broker := (∅ : Set BrokerItem) } } := by
  have empty : Consistent (smallAmqp.catalog (∅ : Set BrokerItem)) :=
    { exchanges := fun _ _ _ found => found.elim
      queues := fun _ _ _ found => found.elim }
  have named : ∀ name, defaultResults name → name ≠ [] := by
    rintro name rfl
    decide
  exact (neverRefused_iff smallAmqp_documented empty
    (callsOnly_admitted _) (fun _ _ => trivial) named).mpr
      (consistent_planned_iff.mpr namesApart_defaults)

theorem defaultPlan :
    BrokerPlan smallAmqp {} defaultResults
      (plannedItems {} defaultResults
        (smallAmqp.catalog (∅ : Set BrokerItem))) where
  consistent := consistent_planned_iff.mpr namesApart_defaults
  topology := hasTopology_planned
  resultsQueues := fun _ asked => resultsItem_planned asked
  admitted := callsOnly_admitted _
  admittedResults := fun _ _ => trivial

/-- A client that connects at a new broker gets to submit a job. -/
theorem exists_publishing :
    ∃ (system : Threads (BrokerWorld smallAmqp) BrokerTask)
      (job : EmbeddingJob),
      Reachable (BrokerStep smallAmqp {} defaultResults)
        { shared := { broker := (∅ : Set BrokerItem) } } system ∧
      ⟨0, .publishing .index job Settings.defaults.indexResultsQueue⟩ ∈
        system.threads := by
  have unrefused := neverRefused_of_plan smallAmqp_documented defaultPlan
  obtain ⟨called, calledFound⟩ := reachable_start
    (Reachable.refl ({ shared := { broker := (∅ : Set BrokerItem) } } :
      Threads (BrokerWorld smallAmqp) BrokerTask))
    (@TaskStarts.connect {} defaultResults 0)
  have opening := reachable_move called 0 calledFound
    (@TaskMoves.connects smallAmqp {} _ 0)
  have connecting := reachable_move opening 0 rfl
    (@TaskMoves.opens smallAmqp {} _ 0)
  obtain ⟨broker, declared, _⟩ := reachable_accepted smallAmqp_documented
    unrefused .connecting .connecting (declareTopology {}) connecting
    0 rfl
  have connected := reachable_move declared 0 rfl
    (@TaskMoves.connected smallAmqp {} _ 0 _ _ rfl)
  obtain ⟨submitting, submitFound⟩ := reachable_start connected
    (@TaskStarts.submitIndex {} defaultResults 0 WireBody wireClient
      (pyStr "job") (.str (pyStr "text")) true [] none none rfl)
  have declaring := reachable_move submitting 1 submitFound
    (@TaskMoves.resultsNew smallAmqp {} _ 0 _ _ (by
      intro known
      cases known) List.mem_cons_self)
  obtain ⟨after, published, _⟩ := reachable_results smallAmqp_documented
    unrefused declaring 1 rfl
  exact ⟨_, _, declaring.trans published, .tail _ (.head _)⟩

/-- The job of that client finds its ways. -/
theorem requestsRouted_index :
    ∃ (system : Threads (BrokerWorld smallAmqp) BrokerTask)
      (job : EmbeddingJob),
      ⟨0, .publishing .index job Settings.defaults.indexResultsQueue⟩ ∈
          system.threads ∧
        WaysOf smallAmqp {} system.shared.items .index
          Settings.defaults.indexResultsQueue := by
  obtain ⟨system, job, reached, publishes⟩ := exists_publishing
  have distinct : DistinctExchanges {} := by
    constructor <;> decide
  have own : OwnBindings {} (smallAmqp.catalog (∅ : Set BrokerItem)) :=
    fun _ _ _ bound => bound.elim
  exact ⟨system, job, publishes, requestsRouted smallAmqp_documented
    defaultPlan distinct own reached publishes (Reachable.refl _)⟩

end Samples

end EmbeddingService
