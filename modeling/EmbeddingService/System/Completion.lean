import EmbeddingService.System.FleetRuns
import EmbeddingService.Worker.Finishing

/-!
# Every `_finish` can be completed

Where the `_finish` of an index delivery has not ended, steps are enabled in
which all its calls return, up to its end.
-/

namespace EmbeddingService

open LabelledRuns

section Completion

variable {Body : Type} {environment : Environment Body}
  {Allowed : EncodeCall → EngineReply → Prop}
  {Good : EmbeddingJob → EmbeddingResult → Prop}
  {fleet after : Fleet Body} {position number place : Nat}
  {delivery : Delivery Body}

/-- A worker has encoded a delivery of the index lane and stands here in its
`_finish`, which was not cancelled. -/
def Fleet.Finishes (fleet : Fleet Body) (position : Nat)
    (delivery : Delivery Body) (settling : Settling Body) : Prop :=
  settling ≠ .ended .cancelled ∧
    ∃ replica, fleet.replicas[position]? = some replica ∧
      replica.worker.HasItem .index
        { delivery := delivery, state := .finishing settling }

/-- A delivery whose reply is being published is not settled. -/
theorem FleetSound.publishing_logged
    (sound : FleetSound environment Allowed Good fleet)
    {result : EmbeddingResult} {retry : Bool} {reply : Reply Body}
    (finishes : fleet.Finishes position delivery
      (.publishing result retry reply)) :
    fleet.Logs position (.published .index delivery.message reply) ∧
      ∀ event, fleet.Logs position event →
        event.settles delivery.message.tag = false := by
  obtain ⟨_, replica, runs, has⟩ := finishes
  obtain ⟨_, published, unsettled⟩ :=
    (sound.workers position replica runs).item_agrees has
  refine ⟨⟨replica, runs, published⟩, ?_⟩
  rintro event ⟨other, otherRuns, member⟩
  rw [runs] at otherRuns
  cases otherRuns
  exact Bool.eq_false_iff.mpr
    (List.countP_eq_zero.mp unsettled event member)

/-- The steps of `_finish` and of the broker in which every call returns. -/
def FleetAction.CarriesOut {Body : Type} : FleetAction Body → Prop
  | .storeReply _ _ _ => True
  | .work _ (.startFinish _ _) => True
  | .work _ (.answerFinish _ _ _ how) => how = .returned
  | _ => False

/-- An item of the index lane at a worker that runs and whose grace period has
not ended. -/
def Fleet.ItemAt (fleet : Fleet Body) (position number place : Nat)
    (item : Item Body) : Prop :=
  ∃ replica process, fleet.replicas[position]? = some replica ∧
    replica.crashed = false ∧ replica.worker.graceExpired = false ∧
    replica.worker.processes[number]? = some process ∧
    process.lane = .index ∧ process.items[place]? = some item

theorem itemAt_setItem {replica : Replica Body} {process : Process Body}
    {item updated : Item Body} {events : List (Event Body)}
    (runs : fleet.replicas[position]? = some replica)
    (alive : replica.crashed = false)
    (running : replica.worker.graceExpired = false)
    (found : replica.worker.processes[number]? = some process)
    (indexed : process.lane = .index)
    (itemFound : process.items[place]? = some item) :
    (fleet.setWorker position replica
      ((replica.worker.setItem number process place updated).record
        events)).ItemAt position number place updated := by
  have runsInside := (List.getElem?_eq_some_iff.mp runs).1
  have inside := (List.getElem?_eq_some_iff.mp found).1
  have itemInside := (List.getElem?_eq_some_iff.mp itemFound).1
  exact ⟨_, _, List.getElem?_set_self runsInside, alive, running,
    List.getElem?_set_self inside, indexed,
    List.getElem?_set_self itemInside⟩

/-- Events without a confirm leave the confirms of a log stored. -/
theorem FleetSound.confirmed_append
    (sound : FleetSound environment Allowed Good fleet)
    {replica : Replica Body} (runs : fleet.replicas[position]? = some replica)
    {events : List (Event Body)}
    (stored : ∀ lane message reply, .confirmed lane message reply ∈ events →
      reply.mandatory = true → fleet.Stores position message reply) :
    ∀ lane message reply,
      .confirmed lane message reply ∈ replica.worker.log ++ events →
        reply.mandatory = true → fleet.Stores position message reply := by
  intro lane message reply member mandatory
  rcases List.mem_append.mp member with old | new
  · exact sound.confirmed position lane message reply ⟨replica, runs, old⟩
      mandatory
  · exact stored lane message reply new mandatory

/-- `_finish` begins. -/
theorem FleetSound.begins_finish
    (sound : FleetSound environment Allowed Good fleet) {outcome : Outcome}
    (has : fleet.ItemAt position number place
      { delivery := delivery, state := .scheduled outcome }) :
    ∃ workerId after,
      FleetStep environment fleet (.work position (.startFinish number place))
        after ∧
      after.ItemAt position number place
        { delivery := delivery
          state := .finishing
            (finish environment workerId .index delivery outcome).1 } := by
  obtain ⟨replica, process, runs, alive, running, found, indexed,
    itemFound⟩ := has
  have begins : WorkerStep environment replica.worker
      (.startFinish number place) _ :=
    .startFinish found itemFound rfl (by simp [running])
  have unconfirmed : ∀ lane message reply, .confirmed lane message reply ∉
      (finish environment replica.worker.workerId process.lane delivery
        outcome).2 := by
    intro lane message reply
    unfold finish settle
    split
    · dsimp only
      split
      · split <;> simp
      · split
        · split <;> simp
        · simp
    · split
      · split <;> simp
      · simp
  have taken := FleetStep.work runs alive rfl begins
    (sound.confirmed_append runs (fun lane message reply member =>
      False.elim (unconfirmed lane message reply member)))
  refine ⟨replica.worker.workerId, _, taken, ?_⟩
  rw [← indexed]
  exact itemAt_setItem runs alive running found indexed itemFound

/-- A call of `_finish` returns; a reply is confirmed once it is stored. -/
theorem FleetSound.returns_finish
    (sound : FleetSound environment Allowed Good fleet)
    {settling : Settling Body} {call : BrokerCall}
    (has : fleet.ItemAt position number place
      { delivery := delivery, state := .finishing settling })
    (awaited : settling.call? = some call)
    (stored : ∀ result retry reply,
      settling = .publishing result retry reply →
        fleet.Stores position delivery.message reply) :
    ∃ after,
      FleetStep environment fleet
        (.work position (.answerFinish number place call .returned)) after ∧
      after.ItemAt position number place
        { delivery := delivery
          state := .finishing
            (settling.resume .index delivery.message .returned).1 } := by
  obtain ⟨replica, process, runs, alive, running, found, indexed,
    itemFound⟩ := has
  have answers : WorkerStep environment replica.worker
      (.answerFinish number place call .returned) _ :=
    .answerFinish found itemFound rfl awaited (by simp [running])
      (by simp)
  have confirms : ∀ lane message reply, .confirmed lane message reply ∈
      (settling.resume process.lane delivery.message .returned).2 →
        reply.mandatory = true → fleet.Stores position message reply := by
    intro lane message reply member _
    cases settling with
    | publishing result retry sent =>
        have same : Event.confirmed lane message reply =
            .confirmed process.lane delivery.message sent := by
          simpa [Settling.resume] using member
        cases same
        exact stored result retry reply rfl
    | _ =>
        cases member
  have taken := FleetStep.work runs alive rfl answers
    (sound.confirmed_append runs confirms)
  refine ⟨_, taken, ?_⟩
  rw [← indexed]
  exact itemAt_setItem runs alive running found indexed itemFound

/-- The `_finish` of a delivery can be carried out: the steps that are left all
return. -/
def Fleet.Completes (environment : Environment Body) (fleet : Fleet Body)
    (position number place : Nat) (delivery : Delivery Body) : Prop :=
  ∃ labels after, Run (FleetStep environment) fleet labels after ∧
    (∀ label ∈ labels, label.CarriesOut) ∧
    after.ItemAt position number place
      { delivery := delivery, state := .finishing (.ended .returned) }

theorem Fleet.Completes.after_step {action : FleetAction Body}
    (taken : FleetStep environment fleet action after)
    (carriesOut : action.CarriesOut)
    (completes : after.Completes environment position number place
      delivery) :
    fleet.Completes environment position number place delivery := by
  obtain ⟨labels, last, run, allCarryOut, has⟩ := completes
  exact ⟨action :: labels, last, Run.cons taken run,
    List.forall_mem_cons.mpr ⟨carriesOut, allCarryOut⟩, has⟩

theorem FleetSound.carriesOut_step
    (sound : FleetSound environment Allowed Good fleet)
    (splits : ∀ workerId,
      SplitsGood environment.engine (some workerId) Allowed Good)
    {action : FleetAction Body}
    (taken : FleetStep environment fleet action after)
    (carriesOut : action.CarriesOut) :
    FleetSound environment Allowed Good after := by
  refine sound.step splits ?_ taken
  cases action with
  | work position own =>
      cases own with
      | engineReplies thread request reply =>
          exact False.elim carriesOut
      | _ =>
          exact trivial
  | _ =>
      exact trivial

/-- An `ack` or a `nack` is the last call. -/
theorem FleetSound.completes_settling
    (sound : FleetSound environment Allowed Good fleet)
    {settling : Settling Body}
    (has : fleet.ItemAt position number place
      { delivery := delivery, state := .finishing settling })
    (last : settling = .acking ∨ ∃ requeue, settling = .nacking requeue) :
    fleet.Completes environment position number place delivery := by
  have answer : ∃ call, settling.call? = some call ∧
      (settling.resume .index delivery.message .returned).1 =
        .ended .returned ∧
      ∀ result retry reply, settling ≠ .publishing result retry reply := by
    rcases last with acking | ⟨requeue, nacking⟩
    · rw [acking]
      exact ⟨.ack, rfl, rfl, fun _ _ _ same => nomatch same⟩
    · rw [nacking]
      exact ⟨.nack, rfl, rfl, fun _ _ _ same => nomatch same⟩
  obtain ⟨call, awaited, ends, unpublished⟩ := answer
  obtain ⟨after, taken, hasAfter⟩ := sound.returns_finish has awaited
    (fun result retry reply same =>
      False.elim (unpublished result retry reply same))
  rw [ends] at hasAfter
  exact Fleet.Completes.after_step taken rfl
    ⟨[], after, Run.nil after, by simp, hasAfter⟩

theorem Fleet.ItemAt.finishes {settling : Settling Body}
    (has : fleet.ItemAt position number place
      { delivery := delivery, state := .finishing settling })
    (uncancelled : settling ≠ .ended .cancelled) :
    fleet.Finishes position delivery settling := by
  obtain ⟨replica, process, runs, _, _, found, indexed, itemFound⟩ := has
  exact ⟨uncancelled, replica, runs, process, List.mem_of_getElem? found,
    indexed, List.mem_of_getElem? itemFound⟩

/-- A reply that is published can be stored, confirmed and followed by the
`ack`. -/
theorem FleetSound.completes_publishing
    (sound : FleetSound environment Allowed Good fleet)
    (splits : ∀ workerId,
      SplitsGood environment.engine (some workerId) Allowed Good)
    {result : EmbeddingResult} {retry : Bool} {reply : Reply Body}
    (has : fleet.ItemAt position number place
      { delivery := delivery
        state := .finishing (.publishing result retry reply) }) :
    fleet.Completes environment position number place delivery := by
  by_cases stored : fleet.Stores position delivery.message reply
  · obtain ⟨after, taken, hasAfter⟩ := sound.returns_finish has rfl
      (by
        intro otherResult otherRetry otherReply same
        cases same
        exact stored)
    have soundAfter := sound.carriesOut_step splits taken rfl
    exact Fleet.Completes.after_step taken rfl
      (soundAfter.completes_settling hasAfter (Or.inl rfl))
  · obtain ⟨⟨replica, runs, published⟩, _⟩ :=
      sound.publishing_logged (has.finishes (fun same => nomatch same))
    have stores : FleetStep environment fleet _ _ :=
      .storeReply runs published stored
    have soundStored := sound.carriesOut_step splits stores trivial
    obtain ⟨after, taken, hasAfter⟩ := soundStored.returns_finish has rfl
      (by
        intro otherResult otherRetry otherReply same
        cases same
        exact ⟨_, List.mem_append_right _ (List.mem_singleton_self _), rfl,
          rfl, rfl⟩)
    have soundAfter := soundStored.carriesOut_step splits taken rfl
    exact Fleet.Completes.after_step stores trivial
      (Fleet.Completes.after_step taken rfl
        (soundAfter.completes_settling hasAfter (Or.inl rfl)))

/-- Where a `_finish` has not ended, it can be carried out. -/
theorem FleetSound.completes_finishing
    (sound : FleetSound environment Allowed Good fleet)
    (splits : ∀ workerId,
      SplitsGood environment.engine (some workerId) Allowed Good)
    {settling : Settling Body}
    (has : fleet.ItemAt position number place
      { delivery := delivery, state := .finishing settling })
    (pending : settling.IsPending) :
    fleet.Completes environment position number place delivery := by
  cases settling with
  | publishing result retry reply =>
      exact sound.completes_publishing splits has
  | acking =>
      exact sound.completes_settling has (Or.inl rfl)
  | nacking requeue =>
      exact sound.completes_settling has (Or.inr ⟨requeue, rfl⟩)
  | ended how =>
      obtain ⟨call, awaited⟩ := pending
      cases awaited

/-- Where `_finish` has yet to begin, it can be carried out. -/
theorem FleetSound.completes_scheduled
    (sound : FleetSound environment Allowed Good fleet)
    (splits : ∀ workerId,
      SplitsGood environment.engine (some workerId) Allowed Good)
    {outcome : Outcome}
    (has : fleet.ItemAt position number place
      { delivery := delivery, state := .scheduled outcome })
    {attempt : Int}
    (read : deliveryAttempt delivery.message = .ok attempt) :
    fleet.Completes environment position number place delivery := by
  obtain ⟨workerId, after, taken, hasAfter⟩ := sound.begins_finish has
  have soundAfter := sound.carriesOut_step splits taken trivial
  exact Fleet.Completes.after_step taken trivial
    (soundAfter.completes_finishing splits hasAfter
      (finish_pending delivery outcome (fun _ _ _ => ⟨attempt, read⟩)))

end Completion

end EmbeddingService
