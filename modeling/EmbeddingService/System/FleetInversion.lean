import EmbeddingService.System.Fleet

/-!
# What a step of a fleet changes

A request leaves its queue by a delivery and a worker by its settlement or the
end of the connection; acked and dead requests stay where they are.  A worker
changes only by its own steps.
-/

namespace EmbeddingService

open LabelledRuns

section Requests

variable {Body : Type} {environment : Environment Body}
  {fleet after : Fleet Body} {action : FleetAction Body} {number : Nat}
  {request moved : Request Body}

/-- What a step can do to a request. -/
inductive RequestStep (fleet : Fleet Body) (number : Nat)
    (request : Request Body) : FleetAction Body → Request Body → Prop
  | kept {action : FleetAction Body} :
      RequestStep fleet number request action request
  | delivered {position : Nat} {message : Message Body} {freshId : PyStr}
      {now : Instant} {clock : Seconds} (ready : request.place = .ready) :
      RequestStep fleet number request
        (.deliver number position message request.deliveries freshId now
          clock)
        { request with
          place := .unacked position message
          deliveries := request.deliveries + 1 }
  | acked {position : Nat} {message : Message Body} {lane : LaneName}
      (held : request.place = .unacked position message)
      (called : fleet.Logs position (.acked lane message)) :
      RequestStep fleet number request (.takeAck number)
        { request with place := .acked }
  | nacked {position : Nat} {message : Message Body} {lane : LaneName}
      {requeue : Bool} (held : request.place = .unacked position message)
      (called : fleet.Logs position (.nacked lane message requeue)) :
      RequestStep fleet number request (.takeNack number requeue)
        { request with place := nackPlace request.publication.lane requeue }
  | lost {position : Nat} {message : Message Body} {crashes : Bool}
      (held : request.place = .unacked position message) :
      RequestStep fleet number request (.loseConnection position crashes)
        { request with place := .ready }
  | exceeded (ready : request.place = .ready)
      (indexed : request.publication.lane = .index) :
      RequestStep fleet number request (.exceedLimit number)
        { request with place := .dead }
  | expired (ready : request.place = .ready)
      (queried : request.publication.lane = .query) :
      RequestStep fleet number request (.expire number)
        { request with place := .dropped }

/-- Changing one request changes it or leaves the one asked for alone. -/
theorem requestStep_setRequest {other : Nat} {changed next : Request Body}
    (changedFound : fleet.requests[other]? = some changed)
    (found : fleet.requests[number]? = some request)
    (own : other = number → changed = request →
      RequestStep fleet number request action next) :
    ∃ moved, (fleet.setRequest other next).requests[number]? = some moved ∧
      RequestStep fleet number request action moved := by
  by_cases same : other = number
  · rw [same] at changedFound ⊢
    have inside := (List.getElem?_eq_some_iff.mp changedFound).1
    rw [found] at changedFound
    exact ⟨next, List.getElem?_set_self inside,
      own same (Option.some.inj changedFound).symm⟩
  · refine ⟨request, ?_, .kept⟩
    rw [Fleet.setRequest, List.getElem?_set_ne same]
    exact found

theorem requestStep_returned {position : Nat} {crashes : Bool} :
    RequestStep fleet number request (.loseConnection position crashes)
      (request.returned position) := by
  unfold Request.returned
  split
  · next holder message held =>
      split
      · next same =>
          rw [same] at held
          exact .lost held
      · exact .kept
  · exact .kept

/-- The inversion of the steps of a fleet for one request. -/
theorem FleetStep.moves_request
    (taken : FleetStep environment fleet action after)
    (found : fleet.requests[number]? = some request) :
    ∃ moved, after.requests[number]? = some moved ∧
      RequestStep fleet number request action moved := by
  have inside := (List.getElem?_eq_some_iff.mp found).1
  cases taken with
  | publish =>
      refine ⟨request, ?_, .kept⟩
      rw [Fleet.publish, List.getElem?_append_left inside]
      exact found
  | deliver changedFound ready carries runs alive receives =>
      refine requestStep_setRequest changedFound found ?_
      rintro rfl rfl
      exact .delivered ready
  | takeAck changedFound place runs called =>
      refine requestStep_setRequest changedFound found ?_
      rintro rfl rfl
      exact .acked place ⟨_, runs, called⟩
  | takeNack changedFound place runs called =>
      refine requestStep_setRequest changedFound found ?_
      rintro rfl rfl
      exact .nacked place ⟨_, runs, called⟩
  | loseConnection runs =>
      refine ⟨request.returned _, ?_, requestStep_returned⟩
      rw [Fleet.loseConnection, List.getElem?_map, found, Option.map_some]
  | exceedLimit changedFound ready indexed redelivered =>
      refine requestStep_setRequest changedFound found ?_
      rintro rfl rfl
      exact .exceeded ready indexed
  | expire changedFound ready queried =>
      refine requestStep_setRequest changedFound found ?_
      rintro rfl rfl
      exact .expired ready queried
  | _ =>
      exact ⟨request, found, .kept⟩

/-- A request after a step was there before, or is newly published. -/
theorem FleetStep.request_origin
    (taken : FleetStep environment fleet action after)
    (movedFound : after.requests[number]? = some moved) :
    (∃ request, fleet.requests[number]? = some request ∧
        RequestStep fleet number request action moved) ∨
      ∃ publication, moved = { publication := publication } := by
  by_cases inside : number < fleet.requests.length
  · have found := List.getElem?_eq_getElem inside
    obtain ⟨other, otherFound, step⟩ := taken.moves_request found
    rw [movedFound] at otherFound
    cases otherFound
    exact Or.inl ⟨_, found, step⟩
  · have beyond := (List.getElem?_eq_some_iff.mp movedFound).1
    have set : ∀ other next,
        ¬ number < (fleet.requests.set other next).length := by
      intro other next
      rw [List.length_set]
      exact inside
    cases taken with
    | publish =>
        rw [Fleet.publish, List.getElem?_append_right (by omega)]
          at movedFound
        have member := List.mem_of_getElem? movedFound
        exact Or.inr ⟨_, List.mem_singleton.mp member⟩
    | loseConnection runs =>
        rw [Fleet.loseConnection, List.length_map] at beyond
        exact False.elim (inside beyond)
    | startWorker =>
        exact False.elim (inside beyond)
    | work =>
        exact False.elim (inside beyond)
    | storeReply =>
        exact False.elim (inside beyond)
    | _ =>
        exact False.elim (set _ _ beyond)

/-- Acked and dead requests are not delivered again. -/
theorem FleetStep.settled_kept
    (taken : FleetStep environment fleet action after)
    (found : fleet.requests[number]? = some request)
    (settled : request.place = .acked ∨ request.place = .dead) :
    after.requests[number]? = some request := by
  obtain ⟨moved, movedFound, step⟩ := taken.moves_request found
  have left : ∀ place : Place Body, place ≠ .acked → place ≠ .dead →
      request.place ≠ place := by
    rintro place notAcked notDead rfl
    exact settled.elim notAcked notDead
  cases step with
  | kept =>
      exact movedFound
  | delivered ready =>
      exact False.elim (left .ready nofun nofun ready)
  | acked held called =>
      exact False.elim (left (.unacked _ _) nofun nofun held)
  | nacked held called =>
      exact False.elim (left (.unacked _ _) nofun nofun held)
  | lost held =>
      exact False.elim (left (.unacked _ _) nofun nofun held)
  | exceeded ready indexed =>
      exact False.elim (left .ready nofun nofun ready)
  | expired ready queried =>
      exact False.elim (left .ready nofun nofun ready)

end Requests

section Workers

variable {Body : Type} {environment : Environment Body}
  {fleet after : Fleet Body} {action : FleetAction Body} {position : Nat}
  {replica later : Replica Body}

/-- What a step can do to a worker. -/
inductive WorkerMove (environment : Environment Body) (fleet : Fleet Body)
    (position : Nat) (worker : Worker Body) :
    FleetAction Body → Worker Body → Prop
  | kept {action : FleetAction Body} :
      WorkerMove environment fleet position worker action worker
  | received {number : Nat} {request : Request Body}
      {message : Message Body} {freshId : PyStr} {now : Instant}
      {clock : Seconds} {next : Worker Body}
      (found : fleet.requests[number]? = some request)
      (carries : message.Carries request.publication)
      (receives : WorkerStep environment worker
        (.receive request.publication.lane message freshId now clock)
        next) :
      WorkerMove environment fleet position worker
        (.deliver number position message request.deliveries freshId now
          clock) next
  | worked {own : WorkerAction Body} {next : Worker Body}
      (quiet : own.received = [])
      (taken : WorkerStep environment worker own next)
      (confirmed : ∀ lane message reply,
        .confirmed lane message reply ∈ next.log →
          reply.mandatory = true → fleet.Stores position message reply) :
      WorkerMove environment fleet position worker (.work position own) next

/-- Changing one replica changes it or leaves the one asked for alone. -/
theorem workerMove_set {other : Nat} {changed next : Replica Body}
    (runs : fleet.replicas[other]? = some changed)
    (found : fleet.replicas[position]? = some replica)
    (own : other = position → changed = replica →
      WorkerMove environment fleet position replica.worker action
        next.worker) :
    ∃ later, (fleet.replicas.set other next)[position]? = some later ∧
      WorkerMove environment fleet position replica.worker action
        later.worker := by
  by_cases same : other = position
  · rw [same] at runs ⊢
    have inside := (List.getElem?_eq_some_iff.mp runs).1
    rw [found] at runs
    exact ⟨next, List.getElem?_set_self inside,
      own same (Option.some.inj runs).symm⟩
  · refine ⟨replica, ?_, .kept⟩
    rw [List.getElem?_set_ne same]
    exact found

/-- The inversion of the steps of a fleet for one worker. -/
theorem FleetStep.moves_replica
    (taken : FleetStep environment fleet action after)
    (found : fleet.replicas[position]? = some replica) :
    ∃ later, after.replicas[position]? = some later ∧
      WorkerMove environment fleet position replica.worker action
        later.worker := by
  cases taken with
  | startWorker =>
      refine ⟨replica, ?_, .kept⟩
      rw [List.getElem?_append_left
        (List.getElem?_eq_some_iff.mp found).1]
      exact found
  | deliver requested ready carries runs alive receives =>
      refine workerMove_set runs found ?_
      rintro rfl rfl
      exact .received requested carries receives
  | work runs alive quiet taken confirmed =>
      refine workerMove_set runs found ?_
      rintro rfl rfl
      exact .worked quiet taken confirmed
  | loseConnection runs =>
      refine workerMove_set runs found ?_
      rintro rfl rfl
      exact .kept
  | _ =>
      exact ⟨replica, found, .kept⟩

/-- A replica after a step was there before, or has just started. -/
theorem FleetStep.replica_origin
    (taken : FleetStep environment fleet action after)
    (laterFound : after.replicas[position]? = some later) :
    (∃ replica, fleet.replicas[position]? = some replica ∧
        WorkerMove environment fleet position replica.worker action
          later.worker) ∨
      ∃ workerId lanes, later.worker = Worker.start Body workerId lanes := by
  by_cases inside : position < fleet.replicas.length
  · have found := List.getElem?_eq_getElem inside
    obtain ⟨other, otherFound, move⟩ := taken.moves_replica found
    rw [laterFound] at otherFound
    cases otherFound
    exact Or.inl ⟨_, found, move⟩
  · have beyond := (List.getElem?_eq_some_iff.mp laterFound).1
    have set : ∀ other next,
        ¬ position < (fleet.replicas.set other next).length := by
      intro other next
      rw [List.length_set]
      exact inside
    cases taken with
    | startWorker =>
        rw [List.getElem?_append_right (by omega)] at laterFound
        have member := List.mem_of_getElem? laterFound
        rw [List.mem_singleton.mp member]
        exact Or.inr ⟨_, _, rfl⟩
    | deliver =>
        exact False.elim (set _ _ beyond)
    | work =>
        exact False.elim (set _ _ beyond)
    | loseConnection =>
        exact False.elim (set _ _ beyond)
    | _ =>
        exact False.elim (inside beyond)

/-- What a new worker has, and every worker keeps in its own steps, holds of
all workers. -/
theorem FleetStep.workers_keep {I : Worker Body → Prop}
    (taken : FleetStep environment fleet action after)
    (start : ∀ workerId lanes, I (Worker.start Body workerId lanes))
    (moves : ∀ (position : Nat) (replica : Replica Body) next,
      fleet.replicas[position]? = some replica → I replica.worker →
        WorkerMove environment fleet position replica.worker action next →
          I next)
    (held : ∀ replica ∈ fleet.replicas, I replica.worker) :
    ∀ replica ∈ after.replicas, I replica.worker := by
  intro later member
  obtain ⟨position, laterFound⟩ := List.getElem?_of_mem member
  rcases taken.replica_origin laterFound with
    ⟨replica, runs, move⟩ | ⟨workerId, lanes, started⟩
  · exact moves position replica later.worker runs
      (held replica (List.mem_of_getElem? runs)) move
  · rw [started]
    exact start workerId lanes

end Workers

section Replies

variable {Body : Type} {environment : Environment Body}
  {fleet after : Fleet Body} {action : FleetAction Body}

/-- A step stores at most one reply, which a worker has published. -/
theorem FleetStep.replies_origin
    (taken : FleetStep environment fleet action after) :
    after.replies = fleet.replies ∨
      ∃ position lane message reply,
        fleet.Logs position (.published lane message reply) ∧
        after.replies = fleet.replies ++
          [{ worker := position, message := message, reply := reply }] := by
  cases taken with
  | storeReply runs published once =>
      exact Or.inr ⟨_, _, _, _, ⟨_, runs, published⟩, rfl⟩
  | _ =>
      exact Or.inl rfl

end Replies

end EmbeddingService
