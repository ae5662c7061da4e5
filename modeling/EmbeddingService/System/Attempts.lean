import EmbeddingService.System.FleetRuns

/-!
# The attempts of an index job

How often a message of the index queue is delivered when its encodes fail and
its replies fail, over any number of workers.  The attempt is checked where an
encode fails and not where a reply fails.
-/

namespace EmbeddingService

open LabelledRuns Trace

/-- The broker reports how often it delivered the message before. -/
def FleetAction.CountsDeliveries {Body : Type} : FleetAction Body → Prop
  | .deliver _ _ message earlier _ _ _ =>
      ∃ acquired delivered, message.acquiredCount.read = .ok acquired ∧
        message.deliveryCount.read = .ok delivered ∧
        max acquired delivered = earlier
  | _ => True

theorem deliveryAttempt_of_counts {Body : Type} {message : Message Body}
    {acquired delivered : Int}
    (acquisitions : message.acquiredCount.read = .ok acquired)
    (deliveries : message.deliveryCount.read = .ok delivered) :
    deliveryAttempt message = .ok (max acquired delivered + 1) := by
  rw [deliveryAttempt, acquisitions, deliveries]
  rfl

/-- The attempt of the delivery is below the limit. -/
def BelowLimit {Body : Type} (environment : Environment Body)
    (message : Message Body) : Prop :=
  ∃ attempt, deliveryAttempt message = .ok attempt ∧
    attempt < environment.settings.indexDeliveryLimit

/-- No worker is stopped and no connection is lost. -/
def FleetAction.Undisturbed {Body : Type} : FleetAction Body → Prop
  | .work _ action => action ≠ .beginShutdown
  | .loseConnection _ _ => False
  | _ => True

/-- Before it drains, the worker fails to publish the result of an index job
only in deliveries whose attempt is below the limit. -/
def RepliesBelowLimit {Body : Type} (environment : Environment Body)
    (worker : Worker Body) : Prop :=
  ∀ earlier message result later,
    worker.log = earlier ++ .replyFailed .index message result true :: later →
      .drainingBegan ∉ earlier →
        BelowLimit environment message

/-- Before it drains, the worker requeues an index message only in deliveries
whose attempt is below the limit. -/
def RequeuesBelowLimit {Body : Type} (environment : Environment Body)
    (worker : Worker Body) : Prop :=
  ∀ earlier message later,
    worker.log = earlier ++ .nacked .index message true :: later →
      .drainingBegan ∉ earlier →
        BelowLimit environment message

section Counting

variable {Body : Type} {environment : Environment Body}
  {Allowed : EncodeCall → EngineReply → Prop}
  {Good : EmbeddingJob → EmbeddingResult → Prop}
  {fleet after : Fleet Body}

theorem requeuesBelowLimit_of_replies {workerId : PyStr}
    {worker : Worker Body}
    (sound : WorkerSound environment workerId Allowed Good worker)
    (replies : RepliesBelowLimit environment worker) :
    RequeuesBelowLimit environment worker := by
  intro earlier message later split undrained
  have every := sound.ledgerSound.justified
  change Every _ worker.log at every
  rw [split] at every
  obtain ⟨_, ⟨_, draining⟩ | ⟨_, _, attempt, read, limit⟩ | ⟨result, failed⟩⟩ :=
    every.justified
  · exact False.elim (undrained draining)
  · exact ⟨attempt, read, by simpa using limit⟩
  · obtain ⟨before, between, earlierSplit⟩ := List.append_of_mem failed
    refine replies before message result
      (between ++ .nacked .index message true :: later) ?_ ?_
    · rw [split, earlierSplit]
      simp
    · intro member
      apply undrained
      rw [earlierSplit]
      exact List.mem_append_left _ member

theorem FleetSound.requeuesBelowLimit
    (sound : FleetSound environment Allowed Good fleet)
    (replies : ∀ replica ∈ fleet.replicas,
      RepliesBelowLimit environment replica.worker) :
    ∀ replica ∈ fleet.replicas,
      RequeuesBelowLimit environment replica.worker := by
  intro replica member
  obtain ⟨position, runs⟩ := List.getElem?_of_mem member
  exact requeuesBelowLimit_of_replies (sound.workers position replica runs)
    (replies replica member)

/-- A worker that does not drain requeues only below the limit. -/
theorem WorkerSound.requeues_served {workerId : PyStr}
    {worker : Worker Body}
    (sound : WorkerSound environment workerId Allowed Good worker)
    (serving : worker.draining = false)
    (requeues : RequeuesBelowLimit environment worker)
    {message : Message Body}
    (logged : .nacked .index message true ∈ worker.log) :
    BelowLimit environment message := by
  have undrained : .drainingBegan ∉ worker.log := by
    intro drained
    have draining : worker.draining = true :=
      sound.ledgerSound.drains.mpr drained
    rw [serving] at draining
    cases draining
  obtain ⟨earlier, later, split⟩ := List.append_of_mem logged
  refine requeues earlier message later split (fun drained => undrained ?_)
  rw [split]
  exact List.mem_append_left _ drained

/-- The broker's count of an index message is its attempt, and a message that
waits in the queue may be delivered once more. -/
structure AttemptsCounted (environment : Environment Body)
    (fleet : Fleet Body) : Prop where
  serving : ∀ replica ∈ fleet.replicas, replica.worker.draining = false
  bounded : ∀ request ∈ fleet.requests, request.publication.lane = .index →
    (request.deliveries : Int) ≤
      max 1 environment.settings.indexDeliveryLimit
  waiting : ∀ request ∈ fleet.requests, request.publication.lane = .index →
    request.place = .ready → (request.deliveries : Int) <
      max 1 environment.settings.indexDeliveryLimit
  counted : ∀ request ∈ fleet.requests, ∀ position message,
    request.place = .unacked position message →
      deliveryAttempt message = .ok request.deliveries

theorem attemptsCounted_empty :
    AttemptsCounted environment ({} : Fleet Body) where
  serving := by simp
  bounded := by simp
  waiting := by simp
  counted := by simp

/-- The broker's count of a message that a worker holds is its attempt. -/
def Fleet.DeliveriesCounted (fleet : Fleet Body) : Prop :=
  ∀ request ∈ fleet.requests, ∀ position message,
    request.place = .unacked position message →
      deliveryAttempt message = .ok request.deliveries

theorem Fleet.DeliveriesCounted.step (counted : fleet.DeliveriesCounted)
    {action : FleetAction Body} (counts : action.CountsDeliveries)
    (taken : FleetStep environment fleet action after) :
    after.DeliveriesCounted := by
  intro moved member position message place
  obtain ⟨number, movedFound⟩ := List.getElem?_of_mem member
  rcases taken.request_origin movedFound with
    ⟨request, found, step⟩ | ⟨publication, rfl⟩
  · cases step with
    | kept =>
        exact counted moved (List.mem_of_getElem? found) position message
          place
    | delivered ready =>
        cases place
        obtain ⟨acquired, delivered, acquisitions, deliveries, same⟩ := counts
        rw [deliveryAttempt_of_counts acquisitions deliveries, same]
        rfl
    | @nacked _ _ _ requeue held called =>
        cases requeue <;> cases lane : request.publication.lane <;>
          simp_all [nackPlace]
    | _ =>
        cases place
  · cases place

/-- The attempts of all deliveries a worker received can be read. -/
def CountsRead (worker : Worker Body) : Prop :=
  ∀ origin ∈ worker.ledger.received,
    ∃ attempt, deliveryAttempt origin.2 = .ok attempt

theorem countsRead_step {action : FleetAction Body}
    (counts : action.CountsDeliveries)
    (taken : FleetStep environment fleet action after)
    (read : ∀ replica ∈ fleet.replicas, CountsRead replica.worker) :
    ∀ replica ∈ after.replicas, CountsRead replica.worker := by
  refine taken.workers_keep (fun _ _ _ member => nomatch member) ?_ read
  intro position replica next runs before move origin member
  cases move with
  | kept =>
      exact before origin member
  | received found carries receives =>
      rw [received_step receives] at member
      rcases List.mem_append.mp member with earlier | new
      · exact before origin earlier
      · obtain ⟨acquired, delivered, acquisitions, deliveries, _⟩ := counts
        rw [List.mem_singleton.mp new]
        exact ⟨_, deliveryAttempt_of_counts acquisitions deliveries⟩
  | worked quiet works confirmed =>
      rw [received_step works, quiet, List.append_nil] at member
      exact before origin member

theorem AttemptsCounted.step
    (attempts : AttemptsCounted environment fleet)
    (sound : FleetSound environment Allowed Good fleet)
    (requeues : ∀ replica ∈ fleet.replicas,
      RequeuesBelowLimit environment replica.worker)
    {action : FleetAction Body} (counts : action.CountsDeliveries)
    (undisturbed : action.Undisturbed)
    (taken : FleetStep environment fleet action after) :
    AttemptsCounted environment after := by
  have requests : ∀ moved ∈ after.requests,
      moved.publication.lane = .index →
        (moved.deliveries : Int) ≤
            max 1 environment.settings.indexDeliveryLimit ∧
          (moved.place = .ready → (moved.deliveries : Int) <
            max 1 environment.settings.indexDeliveryLimit) := by
    intro moved member indexed
    obtain ⟨number, movedFound⟩ := List.getElem?_of_mem member
    rcases taken.request_origin movedFound with
      ⟨request, found, step⟩ | ⟨publication, rfl⟩
    · have present := List.mem_of_getElem? found
      cases step with
      | kept =>
          exact ⟨attempts.bounded moved present indexed,
            attempts.waiting moved present indexed⟩
      | delivered ready =>
          exact ⟨attempts.waiting request present indexed ready, nofun⟩
      | @nacked position message lane requeue held called =>
          refine ⟨attempts.bounded request present indexed, ?_⟩
          intro waits
          obtain ⟨replica, runs, logged⟩ := called
          have sameLane : lane = .index :=
            (sound.settles_lane present held runs logged rfl).trans indexed
          cases requeue with
          | false =>
              change nackPlace request.publication.lane false = _ at waits
              rw [show request.publication.lane = .index from indexed]
                at waits
              cases waits
          | true =>
              have serving := attempts.serving replica
                (List.mem_of_getElem? runs)
              rw [sameLane] at logged
              obtain ⟨attempt, read, below⟩ := (sound.workers position replica
                runs).requeues_served serving
                  (requeues replica (List.mem_of_getElem? runs)) logged
              rw [attempts.counted request present position message held]
                at read
              cases read
              exact lt_max_of_lt_right below
      | lost held =>
          exact False.elim undisturbed
      | _ =>
          exact ⟨attempts.bounded request present indexed, nofun⟩
    · simp
  exact
    { serving := by
        refine taken.workers_keep
          (I := fun worker : Worker Body => worker.draining = false)
          (fun _ _ => rfl) ?_ attempts.serving
        intro position replica next runs serving move
        cases move with
        | kept =>
            exact serving
        | received found carries receives =>
            rw [draining_step (by simp) receives]
            exact serving
        | worked quiet works confirmed =>
            rw [draining_step undisturbed works]
            exact serving
      bounded := fun moved member indexed =>
        (requests moved member indexed).1
      waiting := fun moved member indexed =>
        (requests moved member indexed).2
      counted := Fleet.DeliveriesCounted.step attempts.counted counts taken }

theorem RepliesBelowLimit.before {before worker : Worker Body}
    (replies : RepliesBelowLimit environment worker)
    (longer : before.log <+: worker.log) :
    RepliesBelowLimit environment before := by
  intro earlier message result later split undrained
  obtain ⟨added, log⟩ := longer
  refine replies earlier message result (later ++ added) ?_ undrained
  rw [← log, split, List.append_assoc, List.cons_append]

/-- Whether an event is no failed reply at or above the limit. -/
def Event.repliesBelow (environment : Environment Body) :
    Event Body → Bool
  | .replyFailed .index message _ true =>
      match deliveryAttempt message with
      | .ok attempt => attempt < environment.settings.indexDeliveryLimit
      | .error _ => false
  | _ => true

theorem repliesBelowLimit_of_all {worker : Worker Body}
    (all : worker.log.all (Event.repliesBelow environment) = true) :
    RepliesBelowLimit environment worker := by
  intro earlier message result later split _
  have below := List.all_eq_true.mp all
    (.replyFailed .index message result true) (by simp [split])
  unfold Event.repliesBelow at below
  dsimp only at below
  split at below
  · next attempt read =>
      exact ⟨attempt, read, of_decide_eq_true below⟩
  · cases below

end Counting

/-- If the reply to an index job fails only below the delivery limit, a worker
that is not draining requeues only below it; and without draining and lost
connections no index message is delivered more often than the limit says. -/
theorem attemptsBounded {Body : Type} (environment : Environment Body)
    (labels : List (FleetAction Body)) (fleet : Fleet Body)
    (run : Run (FleetStep environment) {} labels fleet)
    (replies : ∀ replica ∈ fleet.replicas,
      RepliesBelowLimit environment replica.worker) :
    (∀ replica ∈ fleet.replicas,
        RequeuesBelowLimit environment replica.worker) ∧
      ((∀ label ∈ labels, label.CountsDeliveries ∧ label.Undisturbed) →
        ∀ request ∈ fleet.requests, request.publication.lane = .index →
          (request.deliveries : Int) ≤
            max 1 environment.settings.indexDeliveryLimit) := by
  have sound := fleetSound_of_reachable run.reachable
  refine ⟨sound.requeuesBelowLimit replies, fun disturbed => ?_⟩
  have held := run.invariant
    (I := fun state =>
      FleetSound environment (fun _ _ => True) Attributed state ∧
        ((∀ replica ∈ state.replicas,
          RepliesBelowLimit environment replica.worker) →
          AttemptsCounted environment state))
    disturbed ⟨fleetSound_empty, fun _ => attemptsCounted_empty⟩ (by
      intro before label after held allowed taken
      refine ⟨held.1.anyStep taken, fun below => ?_⟩
      have earlierBelow : ∀ replica ∈ before.replicas,
          RepliesBelowLimit environment replica.worker := by
        intro replica member
        obtain ⟨position, present⟩ := List.getElem?_of_mem member
        obtain ⟨later, laterPresent, grows⟩ :=
          taken.grows.replicas position replica present
        exact (below later (List.mem_of_getElem? laterPresent)).before
          grows.log
      exact (held.2 earlierBelow).step held.1
        (held.1.requeuesBelowLimit earlierBelow) allowed.1 allowed.2 taken)
  exact (held.2 replies).bounded

/-- A worker for index jobs that may be delivered `limit` times. -/
def attemptsUpTo (limit : Int) : Environment Json :=
  { sampleEnvironment with
    settings := { Settings.oneText with indexDeliveryLimit := limit } }

/-- A job of one text without a deadline. -/
def samplePublication : Publication Json where
  lane := .index
  body := .dict [(pyStr "input", .str (pyStr "text"))]
  messageId := some (pyStr "job")
  replyTo := some (pyStr "replies")

/-- Its deliveries, with the number of those before. -/
def sampleDelivery (tag earlier : Nat) : Message Json where
  tag := tag
  body := samplePublication.body
  messageId := samplePublication.messageId
  replyTo := samplePublication.replyTo
  acquiredCount := .count earlier

/-- The job is delivered to a worker and encoded. -/
def encodedOnce (limit : Int) :
    { run : List (FleetAction Json) × Fleet Json //
      Run (FleetStep (attemptsUpTo limit)) {} run.1 run.2 } :=
  have delivered :=
    (((((Run.nil ({} : Fleet Json)).snoc
      (@FleetStep.publish Json (attemptsUpTo limit) _
        samplePublication)).snoc
      (@FleetStep.startWorker Json (attemptsUpTo limit) _ (pyStr "worker")
        [.index])).snoc
      (@FleetStep.work Json (attemptsUpTo limit) _ 0 _ _ _ rfl rfl rfl
        (.consume rfl) (stores_of_unconfirmed rfl))).snoc
      (@FleetStep.work Json (attemptsUpTo limit) _ 0 _ _ _ rfl rfl rfl
        (.startLoop rfl rfl) (stores_of_unconfirmed rfl))).snoc
      (@FleetStep.deliver Json (attemptsUpTo limit) _ 0 0 _ _
        (sampleDelivery 0 0) [] 0 0 _ rfl rfl ⟨rfl, rfl, rfl, rfl⟩ rfl rfl
        (.receive rfl rfl (List.forall_mem_nil _)))
  have encoding := (delivered.snoc
    (@FleetStep.work Json (attemptsUpTo limit) _ 0 _ _ _ rfl rfl rfl
      (@WorkerStep.takeBatch Json (attemptsUpTo limit) _ .index 0 _ _ rfl
        rfl rfl)
      (stores_of_unconfirmed rfl))).snoc
    (@FleetStep.work Json (attemptsUpTo limit) _ 0 _ _ _ rfl rfl rfl
      (@WorkerStep.startProcess Json (attemptsUpTo limit) _ 0 _
        (fun _ => 0) 0 rfl rfl rfl)
      (stores_of_unconfirmed rfl))
  have encoded := ((encoding.snoc
    (@FleetStep.work Json (attemptsUpTo limit) _ 0 _ _ _ rfl rfl rfl
      (@WorkerStep.engineReplies Json (attemptsUpTo limit) _ 0 _
        { texts := [pyStr "text"], inputType := .passage, normalize := true }
        (.ok { embeddings := [[]], truncated := [false], tookMs := .zero })
        rfl rfl)
      (stores_of_unconfirmed rfl))).snoc
    (@FleetStep.work Json (attemptsUpTo limit) _ 0 _ _ _ rfl rfl rfl
      (@WorkerStep.endThread Json (attemptsUpTo limit) _ 0 _ _ rfl rfl)
      (stores_of_unconfirmed rfl))).snoc
    (@FleetStep.work Json (attemptsUpTo limit) _ 0 _ _ _ rfl rfl rfl
      (@WorkerStep.collectOutcomes Json (attemptsUpTo limit) _ 0 _ _ rfl rfl
        rfl)
      (stores_of_unconfirmed rfl))
  ⟨(_, _), encoded⟩

/-- Its reply cannot be published: the message is requeued and delivered to
another worker. -/
def redelivered (limit : Int) :
    { run : List (FleetAction Json) × Fleet Json //
      Run (FleetStep (attemptsUpTo limit)) {} run.1 run.2 } :=
  have failed := ((encodedOnce limit).2.snoc
    (@FleetStep.work Json (attemptsUpTo limit) _ 0 _ _ _ rfl rfl rfl
      (@WorkerStep.startFinish Json (attemptsUpTo limit) _ 0 0 _ _ _ rfl rfl
        rfl (fun finished => by cases finished))
      (stores_of_unconfirmed rfl))).snoc
    (@FleetStep.work Json (attemptsUpTo limit) _ 0 _ _ _ rfl rfl rfl
      (@WorkerStep.answerFinish Json (attemptsUpTo limit) _ 0 0 _ _ _
        .publish .raised rfl rfl rfl rfl (fun finished => by cases finished)
        (fun cancelled => by cases cancelled))
      (stores_of_unconfirmed rfl))
  have requeued := failed.snoc
    (@FleetStep.takeNack Json (attemptsUpTo limit) _ 0 0 _ _ .index
      (sampleDelivery 0 0) true rfl rfl rfl (List.mem_of_getElem? (i := 4) rfl))
  have second := ((requeued.snoc
    (@FleetStep.startWorker Json (attemptsUpTo limit) _ (pyStr "second")
      [.index])).snoc
    (@FleetStep.work Json (attemptsUpTo limit) _ 1 _ _ _ rfl rfl rfl
      (.consume rfl) (stores_of_unconfirmed rfl))).snoc
    (@FleetStep.work Json (attemptsUpTo limit) _ 1 _ _ _ rfl rfl rfl
      (.startLoop rfl rfl) (stores_of_unconfirmed rfl))
  have again := second.snoc
    (@FleetStep.deliver Json (attemptsUpTo limit) _ 0 1 _ _
      (sampleDelivery 0 1) [] 0 0 _ rfl rfl ⟨rfl, rfl, rfl, rfl⟩ rfl rfl
      (.receive rfl rfl (List.forall_mem_nil _)))
  ⟨(_, _), again⟩

theorem work_undisturbed {Body : Type} {position : Nat}
    {action : WorkerAction Body} (running : action ≠ .beginShutdown) :
    (FleetAction.work position action).CountsDeliveries ∧
      (FleetAction.work position action).Undisturbed :=
  ⟨trivial, running⟩

theorem redelivered_undisturbed (limit : Int) :
    ∀ label ∈ (redelivered limit).1.1,
      label.CountsDeliveries ∧ label.Undisturbed := by
  simp only [redelivered, encodedOnce, List.forall_mem_append,
    List.forall_mem_singleton, work_undisturbed, ne_eq, reduceCtorEq,
    not_false_eq_true, and_true]
  simp [FleetAction.CountsDeliveries, FleetAction.Undisturbed,
    sampleDelivery, CountHeader.read]

/-- Under a limit of two, the encode of the second delivery fails: the message
is dead-lettered after two deliveries. -/
theorem attemptsBounded_deadLettered :
    ∃ fleet : Fleet Json,
      (∃ request ∈ fleet.requests, request.place = .dead ∧
        request.deliveries = 2) ∧
      (∀ replica ∈ fleet.replicas,
        RequeuesBelowLimit (attemptsUpTo 2) replica.worker) ∧
      ∀ request ∈ fleet.requests, request.publication.lane = .index →
        (request.deliveries : Int) ≤ 2 := by
  have encoding := ((redelivered 2).2.snoc
    (@FleetStep.work Json (attemptsUpTo 2) _ 1 _ _ _ rfl rfl rfl
      (@WorkerStep.takeBatch Json (attemptsUpTo 2) _ .index 0 _ _ rfl rfl
        rfl)
      (stores_of_unconfirmed rfl))).snoc
    (@FleetStep.work Json (attemptsUpTo 2) _ 1 _ _ _ rfl rfl rfl
      (@WorkerStep.startProcess Json (attemptsUpTo 2) _ 0 _ (fun _ => 0) 0
        rfl rfl rfl)
      (stores_of_unconfirmed rfl))
  have failed := (((encoding.snoc
    (@FleetStep.work Json (attemptsUpTo 2) _ 1 _ _ _ rfl rfl rfl
      (@WorkerStep.engineReplies Json (attemptsUpTo 2) _ 0 _
        { texts := [pyStr "text"], inputType := .passage, normalize := true }
        (.error ⟨[]⟩) rfl rfl)
      (stores_of_unconfirmed rfl))).snoc
    (@FleetStep.work Json (attemptsUpTo 2) _ 1 _ _ _ rfl rfl rfl
      (@WorkerStep.endThread Json (attemptsUpTo 2) _ 0 _ _ rfl rfl)
      (stores_of_unconfirmed rfl))).snoc
    (@FleetStep.work Json (attemptsUpTo 2) _ 1 _ _ _ rfl rfl rfl
      (@WorkerStep.collectOutcomes Json (attemptsUpTo 2) _ 0 _ _ rfl rfl rfl)
      (stores_of_unconfirmed rfl))).snoc
    (@FleetStep.work Json (attemptsUpTo 2) _ 1 _ _ _ rfl rfl rfl
      (@WorkerStep.startFinish Json (attemptsUpTo 2) _ 0 0 _ _ _ rfl rfl rfl
        (fun finished => by cases finished))
      (stores_of_unconfirmed rfl))
  have dead := failed.snoc
    (@FleetStep.takeNack Json (attemptsUpTo 2) _ 0 1 _ _ .index
      (sampleDelivery 0 1) false rfl rfl rfl
      (List.mem_of_getElem? (i := 3) rfl))
  have bounded := attemptsBounded (attemptsUpTo 2) _ _ dead
    (List.forall_mem_cons.mpr ⟨repliesBelowLimit_of_all rfl,
      List.forall_mem_singleton.mpr (repliesBelowLimit_of_all rfl)⟩)
  refine ⟨_, ⟨_, .head _, rfl, rfl⟩, bounded.1, bounded.2 ?_⟩
  simp only [List.forall_mem_append, List.forall_mem_singleton,
    work_undisturbed, ne_eq, reduceCtorEq, not_false_eq_true, and_true]
  exact ⟨redelivered_undisturbed 2, trivial, trivial⟩

/-- The reply to the last attempt cannot be published: the message is requeued
and delivered again. -/
theorem attemptsBounded_fails_replyRaises :
    ∃ (labels : List (FleetAction Json)) (fleet : Fleet Json),
      Run (FleetStep (attemptsUpTo 1)) {} labels fleet ∧
      (∀ label ∈ labels, label.CountsDeliveries ∧ label.Undisturbed) ∧
      (∃ replica ∈ fleet.replicas, replica.worker.draining = false ∧
        .nacked .index (sampleDelivery 0 0) true ∈ replica.worker.log ∧
        ∃ attempt, deliveryAttempt (sampleDelivery 0 0) = .ok attempt ∧
          (attemptsUpTo 1).settings.indexDeliveryLimit ≤ attempt) ∧
      ∃ request ∈ fleet.requests, request.publication.lane = .index ∧
        request.deliveries = 2 ∧
        max 1 (attemptsUpTo 1).settings.indexDeliveryLimit = 1 :=
  ⟨_, _, (redelivered 1).2, redelivered_undisturbed 1,
    ⟨_, .head _, rfl, List.mem_of_getElem? (i := 4) rfl, 1, rfl,
      Int.le_refl 1⟩,
    _, .head _, rfl, rfl, rfl⟩

end EmbeddingService
