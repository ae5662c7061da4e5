import EmbeddingService.System.FleetInversion
import EmbeddingService.Worker.Shutdown

/-!
# What holds of workers at a broker

Logs and deliveries only grow, every worker is sound, it works on what was
published, and a stored reply is one that a worker published.
-/

namespace EmbeddingService

open LabelledRuns

section Growth

variable {Body : Type} {environment : Environment Body}
  {worker after : Worker Body}

theorem received_batch {action : WorkerAction Body}
    (batch : action.IsBatch) : action.received = [] := by
  cases action with
  | receive lane message freshId now clock =>
      exact False.elim batch
  | _ =>
      rfl

/-- A worker receives deliveries and nothing else. -/
theorem received_step {action : WorkerAction Body}
    (taken : WorkerStep environment worker action after) :
    after.ledger.received = worker.ledger.received ++ action.received := by
  by_cases batch : action.IsBatch
  · rw [received_batch batch, List.append_nil]
    rcases step_isBatch batch taken with ⟨threads, same⟩ | ⟨_, batchStep⟩
    · rw [same]
      rfl
    · rw [Worker.ledger, batchStep.handlers]
      rfl
  cases taken with
  | receive consuming connected fresh =>
      unfold Worker.receive
      dsimp only
      split <;> exact List.map_append
  | answerHandler found state awaited running =>
      refine Eq.trans ?_ (List.append_nil _).symm
      change List.map _ (List.set _ _ _) = _
      rw [List.map_set]
      exact ListUpdate.set_self (by rw [List.getElem?_map, found]; rfl)
  | drainedBatch draining found state =>
      refine Eq.trans ?_ (List.append_nil _).symm
      unfold Worker.drainedBatch
      split <;> rfl
  | startProcess =>
      exact (batch trivial).elim
  | answerExpiry =>
      exact (batch trivial).elim
  | endThread =>
      exact (batch trivial).elim
  | _ =>
      exact (List.append_nil _).symm

/-- Only a stop makes a worker drain. -/
theorem draining_step {action : WorkerAction Body}
    (unstopped : action ≠ .beginShutdown)
    (taken : WorkerStep environment worker action after) :
    after.draining = worker.draining := by
  by_cases batch : action.IsBatch
  · rcases step_isBatch batch taken with ⟨threads, same⟩ | ⟨_, batchStep⟩
    · rw [same]
    · exact batchStep.draining
  cases taken with
  | receive consuming connected fresh =>
      unfold Worker.receive
      dsimp only
      split <;> rfl
  | drainedBatch draining found state =>
      unfold Worker.drainedBatch
      split <;> rfl
  | beginShutdown running =>
      exact False.elim (unstopped rfl)
  | startProcess =>
      exact (batch trivial).elim
  | answerExpiry =>
      exact (batch trivial).elim
  | endThread =>
      exact (batch trivial).elim
  | _ =>
      rfl

/-- A delivery confirms nothing. -/
theorem onMessage_unconfirmed {workerId : PyStr} {lane other : LaneName}
    {draining : Bool} {freshId : PyStr} {now : Instant}
    {message otherMessage : Message Body} {reply : Reply Body} :
    .confirmed other otherMessage reply ∉
      (onMessage environment workerId lane draining freshId now
        message).2 := by
  have settled : ∀ result retry,
      .confirmed other otherMessage reply ∉
        (settle environment workerId lane message result retry).2 := by
    intro result retry
    unfold settle
    split
    · split <;> simp
    · simp
  unfold onMessage
  split
  · simp
  · split
    · simp
    · simpa using settled _ _
    · split
      · cases lane with
        | query =>
            simp [expire]
        | index =>
            simpa [expire] using settled _ _
      · simp

theorem receive_log (lane : LaneName) (message : Message Body)
    (freshId : PyStr) (now : Instant) (clock : Seconds) :
    (worker.receive environment lane message freshId now clock).log =
      worker.log ++
        (onMessage environment worker.workerId lane worker.draining freshId
          now message).2 := by
  unfold Worker.receive
  dsimp only
  split <;> rfl

end Growth

namespace Fleet

variable {Body : Type}

/-- A worker was handed a message on a lane. -/
def Received (fleet : Fleet Body) (position : Nat) (lane : LaneName)
    (message : Message Body) : Prop :=
  ∃ replica, fleet.replicas[position]? = some replica ∧
    (lane, message) ∈ replica.worker.ledger.received

def publications (fleet : Fleet Body) : List (Publication Body) :=
  fleet.requests.map Request.publication

end Fleet

/-- The engine of every worker replies as `Allowed` says. -/
def FleetAction.EngineAllowed {Body : Type}
    (Allowed : EncodeCall → EngineReply → Prop) : FleetAction Body → Prop
  | .work _ action => action.EngineAllowed Allowed
  | _ => True

/-- Every worker is sound, its messages were published, an unacked request is
with the worker that received it, and replies are stored as published and
confirmed as stored. -/
structure FleetSound {Body : Type} (environment : Environment Body)
    (Allowed : EncodeCall → EngineReply → Prop)
    (Good : EmbeddingJob → EmbeddingResult → Prop)
    (fleet : Fleet Body) : Prop where
  workers : ∀ (position : Nat) (replica : Replica Body),
    fleet.replicas[position]? = some replica →
      WorkerSound environment replica.worker.workerId Allowed Good
        replica.worker
  received : ∀ position lane message, fleet.Received position lane message →
    ∃ publication ∈ fleet.publications,
      publication.lane = lane ∧ message.Carries publication
  unacked : ∀ request ∈ fleet.requests, ∀ position message,
    request.place = .unacked position message →
      message.Carries request.publication ∧
        fleet.Received position request.publication.lane message
  stored : ∀ stored ∈ fleet.replies, ∃ lane,
    fleet.Logs stored.worker (.published lane stored.message stored.reply)
  confirmed : ∀ position lane message reply,
    fleet.Logs position (.confirmed lane message reply) →
      reply.mandatory = true → fleet.Stores position message reply

section Steps

variable {Body : Type} {environment : Environment Body}
  {Allowed : EncodeCall → EngineReply → Prop}
  {Good : EmbeddingJob → EmbeddingResult → Prop}
  {fleet after : Fleet Body} {position number : Nat}
  {replica : Replica Body}

/-- What a worker has logged or received stays. -/
structure WorkerGrows (before after : Worker Body) : Prop where
  log : before.log <+: after.log
  received : ∀ origin ∈ before.ledger.received,
    origin ∈ after.ledger.received

theorem workerGrows_move {worker next : Worker Body}
    {action : FleetAction Body}
    (move : WorkerMove environment fleet position worker action next) :
    WorkerGrows worker next := by
  have step : ∀ own, WorkerStep environment worker own next →
      WorkerGrows worker next := by
    intro own taken
    obtain ⟨added, log⟩ := log_step taken
    refine ⟨⟨added, log.symm⟩, fun origin member => ?_⟩
    rw [received_step taken]
    exact List.mem_append_left _ member
  cases move with
  | kept =>
      exact ⟨List.prefix_refl _, fun _ member => member⟩
  | received found carries receives =>
      exact step _ receives
  | worked quiet taken confirmed =>
      exact step _ taken

/-- What the fleet has logged, received, stored or published stays. -/
structure FleetGrows (before after : Fleet Body) : Prop where
  replicas : ∀ (position : Nat) (replica : Replica Body),
    before.replicas[position]? = some replica →
      ∃ later, after.replicas[position]? = some later ∧
        WorkerGrows replica.worker later.worker
  stores : ∀ position message reply, before.Stores position message reply →
    after.Stores position message reply
  publications : before.publications <+: after.publications

theorem FleetGrows.logs (grows : FleetGrows fleet after)
    {event : Event Body} (logged : fleet.Logs position event) :
    after.Logs position event := by
  obtain ⟨replica, present, member⟩ := logged
  obtain ⟨later, laterPresent, more⟩ := grows.replicas _ _ present
  exact ⟨later, laterPresent, more.log.subset member⟩

theorem FleetGrows.received (grows : FleetGrows fleet after)
    {lane : LaneName} {message : Message Body}
    (got : fleet.Received position lane message) :
    after.Received position lane message := by
  obtain ⟨replica, present, member⟩ := got
  obtain ⟨later, laterPresent, more⟩ := grows.replicas _ _ present
  exact ⟨later, laterPresent, more.received _ member⟩

theorem Request.returned_publication (worker : Nat)
    (request : Request Body) :
    (request.returned worker).publication = request.publication := by
  unfold Request.returned
  split
  · split <;> rfl
  · rfl

theorem publications_loseConnection (number : Nat)
    (replica : Replica Body) (crashes : Bool) :
    (fleet.loseConnection number replica crashes).publications =
      fleet.publications := by
  rw [Fleet.publications, Fleet.loseConnection, List.map_map]
  exact List.map_congr_left (fun request _ =>
    request.returned_publication number)

/-- A step publishes at most what it says. -/
theorem FleetStep.publications {action : FleetAction Body}
    (taken : FleetStep environment fleet action after) :
    ∃ added : Option (Publication Body),
      after.publications = fleet.publications ++ added.toList ∧
      ∀ publication ∈ added, action = .publish publication := by
  have same : ∀ next : Fleet Body,
      next.publications = fleet.publications →
        ∃ added : Option (Publication Body),
          next.publications = fleet.publications ++ added.toList ∧
          ∀ publication ∈ added, action = .publish publication := by
    intro next publications
    refine ⟨none, ?_, by simp⟩
    rw [publications]
    exact (List.append_nil _).symm
  have setRequest : ∀ (number : Nat) (request : Request Body)
      (place : Place Body) (deliveries : Nat),
      fleet.requests[number]? = some request →
        (fleet.setRequest number
          { request with place := place, deliveries := deliveries }
          ).publications = fleet.publications := by
    intro number request place deliveries found
    rw [Fleet.publications, Fleet.setRequest, List.map_set]
    exact ListUpdate.set_self (by rw [List.getElem?_map, found]; rfl)
  cases taken with
  | @publish publication =>
      refine ⟨some publication, List.map_append, ?_⟩
      intro other added
      cases added
      rfl
  | deliver found =>
      exact same _ (setRequest _ _ _ _ found)
  | takeAck found =>
      exact same _ (setRequest _ _ _ _ found)
  | takeNack found =>
      exact same _ (setRequest _ _ _ _ found)
  | loseConnection =>
      exact same _ (publications_loseConnection _ _ _)
  | exceedLimit found =>
      exact same _ (setRequest _ _ _ _ found)
  | expire found =>
      exact same _ (setRequest _ _ _ _ found)
  | _ =>
      exact same _ rfl

theorem FleetStep.grows {action : FleetAction Body}
    (taken : FleetStep environment fleet action after) :
    FleetGrows fleet after where
  replicas := by
    intro position replica present
    obtain ⟨later, laterPresent, move⟩ := taken.moves_replica present
    exact ⟨later, laterPresent, workerGrows_move move⟩
  stores := by
    intro position message reply stores
    obtain ⟨stored, member, same⟩ := stores
    rcases taken.replies_origin with kept | ⟨_, _, _, _, _, added⟩
    · rw [← kept] at member
      exact ⟨stored, member, same⟩
    · refine ⟨stored, ?_, same⟩
      rw [added]
      exact List.mem_append_left _ member
  publications := by
    obtain ⟨added, appended, _⟩ := taken.publications
    exact ⟨added.toList, appended.symm⟩

theorem FleetSound.workers_step
    (sound : FleetSound environment Allowed Good fleet)
    (splits : ∀ workerId,
      SplitsGood environment.engine (some workerId) Allowed Good)
    {action : FleetAction Body} (allowed : action.EngineAllowed Allowed)
    (taken : FleetStep environment fleet action after)
    {later : Replica Body}
    (laterFound : after.replicas[position]? = some later) :
    WorkerSound environment later.worker.workerId Allowed Good
      later.worker := by
  rcases taken.replica_origin laterFound with
    ⟨replica, runs, move⟩ | ⟨workerId, lanes, started⟩
  · have before := sound.workers position replica runs
    have step : ∀ own, own.EngineAllowed Allowed →
        WorkerStep environment replica.worker own later.worker →
          WorkerSound environment later.worker.workerId Allowed Good
            later.worker := by
      intro own ownAllowed works
      rw [(identity_step works).1]
      exact before.step (splits _) ownAllowed works
    generalize later.worker = next at move step
    cases move with
    | kept =>
        exact before
    | received found carries receives =>
        refine step _ ?_ receives
        exact trivial
    | worked quiet works confirmed =>
        exact step _ allowed works
  · rw [started]
    exact workerSound_start lanes

theorem FleetSound.received_step
    (sound : FleetSound environment Allowed Good fleet)
    {action : FleetAction Body}
    (taken : FleetStep environment fleet action after) {lane : LaneName}
    {message : Message Body} (got : after.Received position lane message) :
    ∃ publication ∈ after.publications,
      publication.lane = lane ∧ message.Carries publication := by
  have known : ∀ publication ∈ fleet.publications,
      publication ∈ after.publications :=
    fun _ member => taken.grows.publications.subset member
  obtain ⟨later, laterFound, member⟩ := got
  rcases taken.replica_origin laterFound with
    ⟨replica, runs, move⟩ | ⟨workerId, lanes, started⟩
  · have before : (lane, message) ∈ replica.worker.ledger.received →
        ∃ publication ∈ after.publications,
          publication.lane = lane ∧ message.Carries publication := by
      intro old
      obtain ⟨publication, present, same⟩ :=
        sound.received position lane message ⟨replica, runs, old⟩
      exact ⟨publication, known publication present, same⟩
    generalize later.worker = next at move member
    cases move with
    | kept =>
        exact before member
    | @received number request _ _ _ _ _ found carries receives =>
        rw [EmbeddingService.received_step receives] at member
        rcases List.mem_append.mp member with old | new
        · exact before old
        · cases List.mem_singleton.mp new
          exact ⟨request.publication, known _
            (List.mem_map_of_mem (List.mem_of_getElem? found)), rfl,
            carries⟩
    | worked quiet works confirmed =>
        rw [EmbeddingService.received_step works, quiet,
          List.append_nil] at member
        exact before member
  · rw [started] at member
    cases member

/-- A delivered message carries its request, and its worker has it. -/
theorem FleetStep.delivers {message : Message Body} {earlier : Nat}
    {freshId : PyStr} {now : Instant} {clock : Seconds}
    (taken : FleetStep environment fleet
      (.deliver number position message earlier freshId now clock) after)
    {request : Request Body}
    (found : fleet.requests[number]? = some request) :
    message.Carries request.publication ∧
      after.Received position request.publication.lane message := by
  cases taken with
  | deliver requested ready carries runs alive receives =>
      rw [found] at requested
      cases requested
      refine ⟨carries, _, List.getElem?_set_self
        (List.getElem?_eq_some_iff.mp runs).1, ?_⟩
      rw [EmbeddingService.received_step receives]
      exact List.mem_append_right _ (List.mem_singleton_self _)

theorem FleetSound.unacked_step
    (sound : FleetSound environment Allowed Good fleet)
    {action : FleetAction Body}
    (taken : FleetStep environment fleet action after)
    {moved : Request Body} (movedFound : after.requests[number]? = some moved)
    {message : Message Body}
    (place : moved.place = .unacked position message) :
    message.Carries moved.publication ∧
      after.Received position moved.publication.lane message := by
  rcases taken.request_origin movedFound with
    ⟨request, found, step⟩ | ⟨publication, rfl⟩
  · cases step with
    | kept =>
        obtain ⟨carries, got⟩ := sound.unacked moved
          (List.mem_of_getElem? found) position message place
        exact ⟨carries, taken.grows.received got⟩
    | delivered ready =>
        cases place
        have delivery := taken.delivers found
        exact delivery
    | @nacked _ _ _ requeue held called =>
        cases requeue <;> cases lane : request.publication.lane <;>
          simp_all [nackPlace]
    | _ =>
        cases place
  · cases place

theorem FleetSound.confirmed_step
    (sound : FleetSound environment Allowed Good fleet)
    {action : FleetAction Body}
    (taken : FleetStep environment fleet action after) {lane : LaneName}
    {message : Message Body} {reply : Reply Body}
    (logged : after.Logs position (.confirmed lane message reply))
    (mandatory : reply.mandatory = true) :
    after.Stores position message reply := by
  apply taken.grows.stores
  obtain ⟨later, laterFound, member⟩ := logged
  rcases taken.replica_origin laterFound with
    ⟨replica, runs, move⟩ | ⟨workerId, lanes, started⟩
  · have before : .confirmed lane message reply ∈ replica.worker.log →
        fleet.Stores position message reply :=
      fun old => sound.confirmed position lane message reply
        ⟨replica, runs, old⟩ mandatory
    generalize later.worker = next at move member
    cases move with
    | kept =>
        exact before member
    | received found carries receives =>
        cases receives with
        | receive consuming connected fresh =>
            rw [receive_log] at member
            rcases List.mem_append.mp member with old | new
            · exact before old
            · exact False.elim (onMessage_unconfirmed new)
    | worked quiet works confirmed =>
        exact confirmed lane message reply member mandatory
  · rw [started] at member
    cases member

theorem FleetSound.step
    (sound : FleetSound environment Allowed Good fleet)
    (splits : ∀ workerId,
      SplitsGood environment.engine (some workerId) Allowed Good)
    {action : FleetAction Body} (allowed : action.EngineAllowed Allowed)
    (taken : FleetStep environment fleet action after) :
    FleetSound environment Allowed Good after where
  workers := fun _ _ laterFound =>
    sound.workers_step splits allowed taken laterFound
  received := fun _ _ _ got => sound.received_step taken got
  unacked := by
    intro moved member position message place
    obtain ⟨number, movedFound⟩ := List.getElem?_of_mem member
    exact sound.unacked_step taken movedFound place
  stored := by
    intro stored member
    rcases taken.replies_origin with
      kept | ⟨position, lane, message, reply, published, added⟩
    · rw [kept] at member
      obtain ⟨lane, logged⟩ := sound.stored stored member
      exact ⟨lane, taken.grows.logs logged⟩
    · rw [added] at member
      rcases List.mem_append.mp member with old | new
      · obtain ⟨otherLane, logged⟩ := sound.stored stored old
        exact ⟨otherLane, taken.grows.logs logged⟩
      · rw [List.mem_singleton.mp new]
        exact ⟨lane, taken.grows.logs published⟩
  confirmed := fun _ _ _ _ logged mandatory =>
    sound.confirmed_step taken logged mandatory

theorem fleetSound_empty :
    FleetSound environment Allowed Good ({} : Fleet Body) where
  workers := by simp
  received := by simp [Fleet.Received]
  unacked := by simp
  stored := by simp
  confirmed := by simp [Fleet.Logs]

/-- The lane on which a worker settles an unacked request is its own. -/
theorem FleetSound.settles_lane
    (sound : FleetSound environment Allowed Good fleet)
    {request : Request Body} (member : request ∈ fleet.requests)
    {position : Nat} {replica : Replica Body} {message : Message Body}
    (place : request.place = .unacked position message)
    (runs : fleet.replicas[position]? = some replica) {event : Event Body}
    (called : event ∈ replica.worker.log) {lane : LaneName}
    (about : event.origin? = some (lane, message)) :
    lane = request.publication.lane := by
  have workerSound := sound.workers position replica runs
  obtain ⟨found, present, received⟩ :=
    (sound.unacked request member position message place).2
  rw [runs] at present
  cases present
  exact workerSound.received_lane
    (workerSound.origin_received called about) received

/-- Whatever the engine replies, results are attributed to their jobs. -/
theorem FleetSound.anyStep
    (sound : FleetSound environment (fun _ _ => True) Attributed fleet)
    {action : FleetAction Body}
    (taken : FleetStep environment fleet action after) :
    FleetSound environment (fun _ _ => True) Attributed after := by
  refine sound.step (fun _ => splitsGood_attributed _) ?_ taken
  cases action with
  | work position action =>
      cases action <;> exact trivial
  | _ =>
      exact trivial

theorem fleetSound_of_reachable
    (reachable : Reachable (FleetStep environment) {} fleet) :
    FleetSound environment (fun _ _ => True) Attributed fleet :=
  reachable.invariant fleetSound_empty
    (fun _ _ _ sound taken => sound.anyStep taken)

end Steps

end EmbeddingService
