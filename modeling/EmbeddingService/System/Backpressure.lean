import Mathlib.Data.List.Perm.Subperm
import Mathlib.Tactic.Linarith
import EmbeddingService.System.Attempts
import EmbeddingService.System.EngineCalls
import EmbeddingService.System.FleetRuns

/-!
# Backpressure

A worker has no bound of its own on what it takes in: its batchers grow with
every delivery.  What keeps them small is the `prefetch_count` of each lane's
channel, and that a delivery counts against it until its settlement.
-/

namespace EmbeddingService

open LabelledRuns

/-- The tag of a request that is unacked at the channel of a worker's lane. -/
def Request.unackedTag? {Body : Type} (position : Nat) (lane : LaneName)
    (request : Request Body) : Option Nat :=
  match request.place with
  | .unacked holder message =>
      if holder = position ∧ request.publication.lane = lane then
        some message.tag
      else
        none
  | _ => none

namespace Fleet

variable {Body : Type}

/-- What is unacked at the channel of a worker's lane. -/
def unackedTags (fleet : Fleet Body) (position : Nat) (lane : LaneName) :
    List Nat :=
  fleet.requests.filterMap (Request.unackedTag? position lane)

/-- `set_qos(prefetch_count=spec.prefetch)`: a delivery waits while that many
messages are unacked at the channel, where zero means no limit. -/
def Admits (settings : Settings) (fleet : Fleet Body) :
    FleetAction Body → Prop
  | .deliver number position _ _ _ _ _ =>
      ∀ request, fleet.requests[number]? = some request →
        (laneSpecs settings request.publication.lane).prefetch = 0 ∨
          ((fleet.unackedTags position request.publication.lane).length :
            Int) < (laneSpecs settings request.publication.lane).prefetch
  | _ => True

end Fleet

/-- The steps of workers and a broker that keeps to their prefetch counts. -/
def PrefetchStep {Body : Type} (environment : Environment Body)
    (before : Fleet Body) (action : FleetAction Body)
    (after : Fleet Body) : Prop :=
  FleetStep environment before action after ∧
    before.Admits environment.settings action

/-- The connection of this worker is lost. -/
def FleetAction.loses {Body : Type} (position : Nat) :
    FleetAction Body → Bool
  | .loseConnection worker _ => worker == position
  | _ => false

/-- How often the connection of a worker was lost. -/
def connectionsLost {Body : Type} (position : Nat)
    (labels : List (FleetAction Body)) : Nat :=
  labels.countP (FleetAction.loses position)

/-- What a worker received on a lane and did not settle yet. -/
def Worker.unsettled {Body : Type} (worker : Worker Body)
    (lane : LaneName) : List (LaneName × Message Body) :=
  worker.ledger.received.filter (fun origin =>
    origin.1 = lane ∧ settlements origin.2.tag worker.log = 0)

section Unacked

variable {Body : Type} {environment : Environment Body}
  {fleet after : Fleet Body} {action : FleetAction Body}
  {number position : Nat} {lane : LaneName} {request next : Request Body}

theorem mem_unackedTags_iff {tag : Nat} :
    tag ∈ fleet.unackedTags position lane ↔
      ∃ (number : Nat) (request : Request Body) (message : Message Body),
        fleet.requests[number]? = some request ∧
          request.place = .unacked position message ∧
          request.publication.lane = lane ∧ message.tag = tag := by
  rw [Fleet.unackedTags, List.mem_filterMap]
  constructor
  · rintro ⟨request, member, tagged⟩
    obtain ⟨number, found⟩ := List.mem_iff_getElem?.mp member
    unfold Request.unackedTag? at tagged
    split at tagged
    · next holder message place =>
        split at tagged
        · next own =>
            obtain ⟨rfl, sameLane⟩ := own
            exact ⟨number, request, message, found, place, sameLane,
              Option.some.inj tagged⟩
        · cases tagged
    · cases tagged
  · rintro ⟨number, request, message, found, place, rfl, rfl⟩
    refine ⟨request, List.mem_of_getElem? found, ?_⟩
    rw [Request.unackedTag?, place]
    exact if_pos ⟨rfl, rfl⟩

theorem length_unackedTags :
    (fleet.unackedTags position lane).length =
      fleet.requests.countP
        (fun request => (request.unackedTag? position lane).isSome) :=
  List.length_filterMap_eq_countP

theorem length_unackedTags_set (position : Nat) (lane : LaneName)
    (next : Request Body)
    (found : fleet.requests[number]? = some request) :
    ((fleet.setRequest number next).unackedTags position lane).length +
        (request.unackedTag? position lane).isSome.toNat =
      (fleet.unackedTags position lane).length +
        (next.unackedTag? position lane).isSome.toNat := by
  obtain ⟨rest, before, now⟩ := ListUpdate.exists_countP_set
    (fun request => (request.unackedTag? position lane).isSome) found
  rw [length_unackedTags, length_unackedTags, before, Fleet.setRequest, now]
  omega

theorem length_unackedTags_free
    (found : fleet.requests[number]? = some request)
    (free : next.unackedTag? position lane = none) :
    ((fleet.setRequest number next).unackedTags position lane).length ≤
      (fleet.unackedTags position lane).length := by
  have counted := length_unackedTags_set position lane next found
  rw [free] at counted
  simp at counted
  omega

/-- The broker never has more unacked at a channel than its prefetch count. -/
theorem length_unackedTags_step
    (limited : 0 < (laneSpecs environment.settings lane).prefetch)
    (bounded : ((fleet.unackedTags position lane).length : Int) ≤
      (laneSpecs environment.settings lane).prefetch)
    (taken : PrefetchStep environment fleet action after) :
    ((after.unackedTags position lane).length : Int) ≤
      (laneSpecs environment.settings lane).prefetch := by
  have fewer : (after.unackedTags position lane).length ≤
      (fleet.unackedTags position lane).length →
        ((after.unackedTags position lane).length : Int) ≤
          (laneSpecs environment.settings lane).prefetch := by
    intro less
    omega
  obtain ⟨step, admits⟩ := taken
  cases step with
  | publish =>
      refine fewer ?_
      rw [length_unackedTags, length_unackedTags, Fleet.publish,
        List.countP_append]
      exact Nat.le_refl _
  | @deliver number target request replica message freshId now clock worker
      found ready carries runs alive receives =>
      have counted := length_unackedTags_set position lane
        { request with
          place := .unacked target message
          deliveries := request.deliveries + 1 } found
      have free : request.unackedTag? position lane = none := by
        rw [Request.unackedTag?, ready]
      rw [free] at counted
      by_cases own : target = position ∧ request.publication.lane = lane
      · obtain ⟨rfl, rfl⟩ := own
        have room := admits request found
        change ((Fleet.unackedTags (fleet.setRequest number _) _
          _).length : Int) ≤ _
        have one : ∀ tag : Option Nat, tag.isSome.toNat ≤ 1 :=
          fun tag => Bool.toNat_le tag.isSome
        have atMost := one (Request.unackedTag? target
          request.publication.lane
          { request with
            place := .unacked target message
            deliveries := request.deliveries + 1 })
        simp at counted
        omega
      · refine fewer ?_
        have other : Request.unackedTag? position lane
            { request with
              place := .unacked target message
              deliveries := request.deliveries + 1 } = none :=
          if_neg own
        rw [other] at counted
        exact Nat.le_of_eq counted
  | takeAck found place runs called =>
      exact fewer (length_unackedTags_free found rfl)
  | @takeNack number target request replica handled message requeue found
      place runs called =>
      refine fewer (length_unackedTags_free found ?_)
      unfold Request.unackedTag? nackPlace
      cases requeue with
      | true =>
          rfl
      | false =>
          cases request.publication.lane <;> rfl
  | @loseConnection target replica crashes runs =>
      refine fewer ?_
      rw [length_unackedTags, length_unackedTags, Fleet.loseConnection,
        List.countP_map]
      refine List.countP_mono_left (fun request _ held => ?_)
      revert held
      unfold Function.comp Request.returned
      split
      · next holder message place =>
          split
          · simp [Request.unackedTag?]
          · exact fun held => held
      · exact fun held => held
  | exceedLimit found =>
      exact fewer (length_unackedTags_free found rfl)
  | expire found =>
      exact fewer (length_unackedTags_free found rfl)
  | _ =>
      exact fewer (Nat.le_refl _)

end Unacked

section Runs

variable {Body : Type} {environment : Environment Body}
  {fleet after : Fleet Body} {action : FleetAction Body}
  {labels : List (FleetAction Body)} {number position : Nat}
  {lane : LaneName} {replica later : Replica Body}
  {message : Message Body}

theorem mem_unsettled_iff {worker : Worker Body}
    {origin : LaneName × Message Body} :
    origin ∈ worker.unsettled lane ↔
      origin ∈ worker.ledger.received ∧ origin.1 = lane ∧
        settlements origin.2.tag worker.log = 0 := by
  rw [Worker.unsettled, List.mem_filter, decide_eq_true_iff]

/-- What was not settled before is what is not settled after, and what was
received. -/
theorem unsettled_step {worker next : Worker Body}
    {own : WorkerAction Body}
    (taken : WorkerStep environment worker own next)
    {origin : LaneName × Message Body}
    (unsettled : origin ∈ next.unsettled lane) :
    origin ∈ worker.unsettled lane ∨ origin ∈ own.received := by
  obtain ⟨received, sameLane, none⟩ := mem_unsettled_iff.mp unsettled
  obtain ⟨added, log⟩ := log_step taken
  rw [log, settlements_append] at none
  rw [received_step taken] at received
  rcases List.mem_append.mp received with before | new
  · exact Or.inl (mem_unsettled_iff.mpr ⟨before, sameLane, by omega⟩)
  · exact Or.inr new

theorem settlements_pos {log : List (Event Body)} {event : Event Body}
    {tag : Nat} (called : event ∈ log) (settles : event.settles tag = true) :
    settlements tag log ≠ 0 := by
  have positive : 0 < settlements tag log :=
    List.countP_pos_iff.mpr ⟨event, called, settles⟩
  omega

/-- What a worker has called for is settled for good. -/
theorem settled_of_logs (taken : FleetStep environment fleet action after)
    {event : Event Body} {tag : Nat} (logged : fleet.Logs position event)
    (settles : event.settles tag = true)
    (runs : after.replicas[position]? = some later) :
    settlements tag later.worker.log ≠ 0 := by
  obtain ⟨other, found, member⟩ := taken.grows.logs logged
  rw [runs] at found
  cases found
  exact settlements_pos member settles

/-- What is delivered is unacked. -/
theorem FleetStep.unacked_of_deliver {earlier : Nat} {freshId : PyStr}
    {now : Instant} {clock : Seconds} {request : Request Body}
    (taken : FleetStep environment fleet
      (.deliver number position message earlier freshId now clock) after)
    (found : fleet.requests[number]? = some request) :
    message.tag ∈ after.unackedTags position request.publication.lane := by
  cases taken with
  | @deliver _ _ other replica _ _ _ _ worker otherFound ready carries runs
      alive receives =>
      rw [found] at otherFound
      cases otherFound
      have inside := (List.getElem?_eq_some_iff.mp found).1
      exact mem_unackedTags_iff.mpr ⟨number, _, message,
        List.getElem?_set_self inside, rfl, rfl, rfl⟩

/-- What is unacked stays so until its settlement, or until the connection is
lost. -/
theorem unacked_stays (taken : FleetStep environment fleet action after)
    (connected : action.loses position = false)
    (runs : after.replicas[position]? = some later) {tag : Nat}
    (unsettled : settlements tag later.worker.log = 0)
    (unacked : tag ∈ fleet.unackedTags position lane) :
    tag ∈ after.unackedTags position lane := by
  obtain ⟨number, request, message, found, place, sameLane, rfl⟩ :=
    mem_unackedTags_iff.mp unacked
  obtain ⟨moved, movedFound, step⟩ := taken.moves_request found
  cases step with
  | kept =>
      exact mem_unackedTags_iff.mpr ⟨number, request, message, movedFound,
        place, sameLane, rfl⟩
  | delivered ready =>
      rw [place] at ready
      cases ready
  | @acked holder handled logged held called =>
      rw [place] at held
      cases held
      exact (settled_of_logs taken called (beq_self_eq_true _) runs
        unsettled).elim
  | @nacked holder handled logged requeue held called =>
      rw [place] at held
      cases held
      exact (settled_of_logs taken called (beq_self_eq_true _) runs
        unsettled).elim
  | @lost holder handled crashes held =>
      rw [place] at held
      cases held
      rw [FleetAction.loses, beq_self_eq_true] at connected
      cases connected
  | exceeded ready =>
      rw [place] at ready
      cases ready
  | expired ready =>
      rw [place] at ready
      cases ready

/-- What a worker did not settle is unacked, or was unacked when a connection
was lost. -/
def Covered (fleet : Fleet Body) (position : Nat) (lane : LaneName)
    (lost : List Nat) : Prop :=
  ∀ (replica : Replica Body), fleet.replicas[position]? = some replica →
    ∀ origin ∈ replica.worker.unsettled lane,
      origin.2.tag ∈ lost ∨ origin.2.tag ∈ fleet.unackedTags position lane

theorem Covered.step {lost lostAfter : List Nat}
    (covered : Covered fleet position lane lost)
    (taken : FleetStep environment fleet action after)
    (grows : lost ⊆ lostAfter)
    (lose : action.loses position = true →
      fleet.unackedTags position lane ⊆ lostAfter) :
    Covered after position lane lostAfter := by
  rintro ⟨next, crashed⟩ runs origin unsettled
  have settled := (mem_unsettled_iff.mp unsettled).2.2
  have carry : origin.2.tag ∈ lost ∨
        origin.2.tag ∈ fleet.unackedTags position lane →
      origin.2.tag ∈ lostAfter ∨
        origin.2.tag ∈ after.unackedTags position lane := by
    rintro (before | unacked)
    · exact Or.inl (grows before)
    · by_cases loses : action.loses position = true
      · exact Or.inl (lose loses unacked)
      · exact Or.inr (unacked_stays taken
          (Bool.eq_false_of_not_eq_true loses) runs settled unacked)
  rcases taken.replica_origin runs with
    ⟨replica, found, move⟩ | ⟨workerId, lanes, started⟩
  · have before : ∀ own : WorkerAction Body,
        WorkerStep environment replica.worker own next →
          own.received = [] → origin ∈ replica.worker.unsettled lane := by
      intro own step quiet
      rcases unsettled_step step unsettled with old | new
      · exact old
      · rw [quiet] at new
        cases new
    cases move with
    | kept =>
        exact carry (covered replica found origin unsettled)
    | worked quiet step confirmed =>
        exact carry (covered replica found origin (before _ step quiet))
    | @received number request message freshId now clock _ requestFound
        carries receives =>
        rcases unsettled_step receives unsettled with old | new
        · exact carry (covered replica found origin old)
        · have unacked := taken.unacked_of_deliver requestFound
          have sameLane := (mem_unsettled_iff.mp unsettled).2.1
          cases List.mem_singleton.mp new
          rw [← sameLane]
          exact Or.inr unacked
  · have none := (mem_unsettled_iff.mp unsettled).1
    change next = _ at started
    rw [started] at none
    cases none

/-- The channels of the broker keep to their counts, and cover what workers
did not settle. -/
structure Backpressured (environment : Environment Body) (position : Nat)
    (lane : LaneName) (labels : List (FleetAction Body))
    (fleet : Fleet Body) : Prop where
  unacked : ((fleet.unackedTags position lane).length : Int) ≤
    (laneSpecs environment.settings lane).prefetch
  covered : ∃ lost : List Nat,
    (lost.length : Int) ≤ (laneSpecs environment.settings lane).prefetch *
      connectionsLost position labels ∧
    Covered fleet position lane lost

theorem backpressured_of_run
    (run : Run (PrefetchStep environment) {} labels fleet)
    (position : Nat) {lane : LaneName}
    (limited : 0 < (laneSpecs environment.settings lane).prefetch) :
    Backpressured environment position lane labels fleet := by
  refine run.history (I := Backpressured environment position lane) ?_ ?_
  · refine ⟨le_of_lt limited, [], ?_, ?_⟩
    · simp [connectionsLost]
    · intro replica runs
      cases runs
  · rintro earlier before label after _ ⟨bounded, lost, few, covered⟩ taken
    refine ⟨length_unackedTags_step limited bounded taken, ?_⟩
    by_cases loses : label.loses position = true
    · have counted : connectionsLost position (earlier ++ [label]) =
          connectionsLost position earlier + 1 := by
        simp [connectionsLost, loses]
      refine ⟨lost ++ before.unackedTags position lane, ?_,
        covered.step taken.1 (List.subset_append_left _ _)
          (fun _ => List.subset_append_right _ _)⟩
      rw [counted, List.length_append]
      push_cast
      linarith
    · have counted : connectionsLost position (earlier ++ [label]) =
          connectionsLost position earlier := by
        simp [connectionsLost, loses]
      refine ⟨lost, ?_, covered.step taken.1 (List.Subset.refl _)
        (fun lost => (loses lost).elim)⟩
      rw [counted]
      exact few

/-- A worker holds no more on a lane than the prefetch count, once for each
connection it had. -/
theorem Backpressured.unsettled
    (backpressured : Backpressured environment position lane labels fleet)
    (runs : fleet.replicas[position]? = some replica)
    (distinct : (replica.worker.ledger.received.map
      (fun origin => origin.2.tag)).Nodup) :
    ((replica.worker.unsettled lane).length : Int) ≤
      (laneSpecs environment.settings lane).prefetch *
        (1 + connectionsLost position labels) := by
  obtain ⟨lost, few, covered⟩ := backpressured.covered
  have within : ((replica.worker.unsettled lane).map
      (fun origin => origin.2.tag)).Subperm
        (lost ++ fleet.unackedTags position lane) := by
    refine List.subperm_of_subset
      (distinct.sublist (List.filter_sublist.map _)) ?_
    intro tag member
    obtain ⟨origin, unsettled, rfl⟩ := List.mem_map.mp member
    exact List.mem_append.mpr (covered replica runs origin unsettled)
  have bound := within.length_le
  rw [List.length_map, List.length_append] at bound
  have unacked := backpressured.unacked
  have counted : ((replica.worker.unsettled lane).length : Int) ≤
      lost.length + (fleet.unackedTags position lane).length := by
    omega
  linarith

end Runs

section Buffered

variable {Body : Type} {environment : Environment Body}
  {workerId : PyStr} {Allowed : EncodeCall → EngineReply → Prop}
  {Good : EmbeddingJob → EmbeddingResult → Prop} {worker : Worker Body}
  {lane : LaneName}

theorem pendingCells_le (worker : Worker Body) (lane : LaneName) :
    heldCells lane (worker.lane lane).batcher.pending ≤ worker.cells := by
  have inLanes : heldCells lane (worker.lane lane).batcher.pending ≤
      laneCells worker.lane := by
    cases lane with
    | query =>
        exact Multiset.le_add_right _ _
    | index =>
        exact Multiset.le_add_left _ _
  calc
    heldCells lane (worker.lane lane).batcher.pending
      ≤ laneCells worker.lane := inLanes
    _ ≤ (worker.handlers.map Handler.cells).sum + laneCells worker.lane :=
        Multiset.le_add_left _ _
    _ ≤ worker.cells := by
        unfold Worker.cells
        rw [add_assoc, add_assoc]
        exact Multiset.le_add_right _ _

/-- What a batcher holds was received on its lane and not settled. -/
theorem WorkerSound.pending_le_unsettled
    (sound : WorkerSound environment workerId Allowed Good worker) :
    (worker.lane lane).batcher.size ≤ (worker.unsettled lane).length := by
  have ledger := sound.ledgerSound
  have cells := pendingCells_le worker lane
  have origins : (heldCells lane
        (worker.lane lane).batcher.pending).map Cell.origin ≤
      (worker.unsettled lane : Multiset (LaneName × Message Body)) := by
    rw [Worker.unsettled, ← Multiset.filter_coe, Multiset.le_filter]
    refine ⟨(Multiset.map_le_map cells).trans ledger.cellsReceived, ?_⟩
    intro origin member
    obtain ⟨cell, held, rfl⟩ := Multiset.mem_map.mp member
    have agrees := ledger.agrees cell (Multiset.mem_of_le cells held)
    obtain ⟨delivery, _, rfl⟩ := mem_heldCells_iff.mp held
    exact ⟨rfl, agrees.2⟩
  have counted := Multiset.card_le_card origins
  rw [Multiset.card_map, heldCells, Multiset.coe_card, List.length_map,
    Multiset.coe_card] at counted
  rw [MicroBatcher.size_eq_length_pending]
  exact counted

/-- Every job that waits has at most `max_batch_items` texts. -/
theorem WorkerSound.pendingTexts_le
    (sound : WorkerSound environment workerId Allowed Good worker)
    (batches : BatchesSound environment worker) :
    (worker.lane lane).batcher.pendingTexts ≤
      (worker.lane lane).batcher.size *
        environment.schemaSettings.maxBatchItems := by
  have within : ∀ delivery ∈ (worker.lane lane).batcher.pending,
      (delivery.job.input.length : Int) ≤
        environment.schemaSettings.maxBatchItems := by
    intro delivery member
    have held : heldCell lane delivery ∈
        heldCells lane (worker.lane lane).batcher.pending :=
      mem_heldCells_iff.mpr ⟨delivery, member, rfl⟩
    have agrees := sound.ledgerSound.agrees _
      (Multiset.mem_of_le (pendingCells_le worker lane) held)
    obtain ⟨parsed, _⟩ := agrees
    exact ParsedAs.wellFormed parsed |>.within
  rw [(batches.batchers lane).pendingTexts,
    MicroBatcher.size_eq_length_pending]
  generalize (worker.lane lane).batcher.pending = deliveries at within
  induction deliveries with
  | nil =>
      simp
  | cons delivery later inductionHypothesis =>
      rw [List.forall_mem_cons] at within
      have rest := inductionHypothesis within.2
      have first := within.1
      rw [List.length_cons, MicroBatcherConfig.textsOf, List.map_cons,
        List.sum_cons]
      change (delivery.job.input.length : Int) +
        (batcherConfig environment.settings lane).textsOf later ≤ _
      push_cast
      linarith

end Buffered

section Fleets

variable {Body : Type} {environment : Environment Body}
  {fleet : Fleet Body} {labels : List (FleetAction Body)}
  {replica : Replica Body} {position : Nat} {lane : LaneName}

theorem WorkerMove.reachable {action : FleetAction Body}
    {worker next : Worker Body}
    (move : WorkerMove environment fleet position worker action next) :
    Reachable (WorkerStep environment) worker next := by
  cases move with
  | kept =>
      exact Reachable.refl worker
  | received found carries receives =>
      exact (Run.single receives).reachable
  | worked quiet taken confirmed =>
      exact (Run.single taken).reachable

/-- Every worker of a fleet is one that started on its own. -/
theorem worker_reachable
    (reached : Reachable (FleetStep environment) {} fleet)
    (runs : fleet.replicas[position]? = some replica) :
    ∃ workerId lanes, Reachable (WorkerStep environment)
      (Worker.start Body workerId lanes) replica.worker := by
  have invariant := reached.invariant
    (I := fun fleet : Fleet Body => ∀ (position : Nat)
      (replica : Replica Body),
      fleet.replicas[position]? = some replica →
        ∃ workerId lanes, Reachable (WorkerStep environment)
          (Worker.start Body workerId lanes) replica.worker) ?_ ?_
  · exact invariant position replica runs
  · intro position replica runs
    cases runs
  · intro before label after known taken position later runs
    rcases taken.replica_origin runs with
      ⟨replica, found, move⟩ | ⟨workerId, lanes, started⟩
    · obtain ⟨workerId, lanes, started⟩ := known position replica found
      exact ⟨workerId, lanes, started.trans move.reachable⟩
    · rw [started]
      exact ⟨workerId, lanes, Reachable.refl _⟩

theorem PrefetchStep.reachable
    (run : Run (PrefetchStep environment) {} labels fleet) :
    Reachable (FleetStep environment) {} fleet :=
  run.reachable.mono (fun _ _ _ taken => taken.1)

/-- With a broker that keeps to the prefetch counts, whatever is published,
batched, retried or lost: what a worker has received on a lane and not settled
is at most the lane's prefetch count, once for each connection it has had; its
batcher holds no more jobs than that, and at most `max_batch_items` texts for
each of them. -/
theorem heldWithinPrefetch
    (run : Run (PrefetchStep environment) {} labels fleet)
    (limited : 0 < (laneSpecs environment.settings lane).prefetch)
    (runs : fleet.replicas[position]? = some replica) :
    ((replica.worker.unsettled lane).length : Int) ≤
        (laneSpecs environment.settings lane).prefetch *
          (1 + connectionsLost position labels) ∧
      (replica.worker.lane lane).batcher.size ≤
        (replica.worker.unsettled lane).length ∧
      (replica.worker.lane lane).batcher.pendingTexts ≤
        (replica.worker.lane lane).batcher.size *
          environment.schemaSettings.maxBatchItems := by
  have reached := PrefetchStep.reachable run
  have sound := (fleetSound_of_reachable reached).workers _ _ runs
  obtain ⟨workerId, lanes, started⟩ := worker_reachable reached runs
  exact ⟨(backpressured_of_run run position limited).unsettled runs
      sound.ledgerSound.tagsUnique,
    sound.pending_le_unsettled,
    sound.pendingTexts_le (batchesSound_of_reachable started)⟩

end Fleets

/-- One unacked index job at a time. -/
def onePrefetch : Environment Json :=
  { sampleEnvironment with
    settings := { Settings.twoTexts with indexPrefetch := 1 } }

theorem onePrefetch_admits {fleet : Fleet Json} {request : Request Json}
    {position : Nat} {message : Message Json} {earlier : Nat}
    {freshId : PyStr} {now : Instant} {clock : Seconds}
    (found : fleet.requests[0]? = some request)
    (indexed : request.publication.lane = .index)
    (free : fleet.unackedTags position .index = []) :
    fleet.Admits onePrefetch.settings
      (.deliver 0 position message earlier freshId now clock) := by
  intro other otherFound
  rw [found] at otherFound
  cases otherFound
  rw [indexed, free]
  exact Or.inr (by decide)

/-- A connection is lost and made again: the worker holds the job twice, and
the bound is reached. -/
theorem heldWithinPrefetch_reconnected :
    ∃ (labels : List (FleetAction Json)) (worker : Worker Json),
      (worker.unsettled .index).length = 2 ∧
        ((worker.unsettled .index).length : Int) ≤
          1 * (1 + connectionsLost 0 labels) ∧
        connectionsLost 0 labels = 1 := by
  have delivered :=
    ((((Run.nil ({} : Fleet Json)).snoc
      (show PrefetchStep onePrefetch _ _ _ from
        ⟨@FleetStep.publish Json onePrefetch _ samplePublication,
          trivial⟩)).snoc
      ⟨@FleetStep.startWorker Json onePrefetch _ (pyStr "worker") [.index],
        trivial⟩).snoc
      ⟨@FleetStep.work Json onePrefetch _ 0 _ _ _ rfl rfl rfl (.consume rfl)
        (stores_of_unconfirmed rfl), trivial⟩).snoc
      ⟨@FleetStep.deliver Json onePrefetch _ 0 0 _ _ (sampleDelivery 0 0) []
        0 0 _ rfl rfl ⟨rfl, rfl, rfl, rfl⟩ rfl rfl
        (.receive rfl rfl (List.forall_mem_nil _)),
        onePrefetch_admits rfl rfl rfl⟩
  have again := (delivered.snoc
    ⟨@FleetStep.loseConnection Json onePrefetch _ 0 _ false rfl,
      trivial⟩).snoc
    ⟨@FleetStep.deliver Json onePrefetch _ 0 0 _ _ (sampleDelivery 1 1) []
      0 0 _ rfl rfl ⟨rfl, rfl, rfl, rfl⟩ rfl rfl
      (.receive rfl rfl (List.forall_mem_singleton.mpr (by decide))),
      onePrefetch_admits rfl rfl rfl⟩
  have limited :
      0 < (laneSpecs onePrefetch.settings .index).prefetch := by
    decide
  exact ⟨_, _, rfl, (heldWithinPrefetch again limited rfl).1, rfl⟩

end EmbeddingService
