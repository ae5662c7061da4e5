import Mathlib.Data.List.Perm.Subperm
import EmbeddingService.System.FleetRuns
import EmbeddingService.Worker.AnsweredOnce

/-!
# Replies are no more than deliveries

The broker may hand out a request again and again, and each time it may be
answered again.  Within one delivery it is not: every stored reply belongs to
a delivery of its request, and no two belong to the same one.
-/

namespace EmbeddingService

open LabelledRuns

/-- The broker hands a request to a worker. -/
structure Handover (Body : Type) where
  request : Nat
  worker : Nat
  message : Message Body

/-- Deliveries are told apart by the worker and the tag. -/
def Handover.delivery {Body : Type} (handover : Handover Body) : Nat × Nat :=
  (handover.worker, handover.message.tag)

def StoredReply.delivery {Body : Type} (stored : StoredReply Body) :
    Nat × Nat :=
  (stored.worker, stored.message.tag)

def FleetAction.handover? {Body : Type} :
    FleetAction Body → Option (Handover Body)
  | .deliver request worker message _ _ _ _ =>
      some { request := request, worker := worker, message := message }
  | _ => none

/-- What was handed out in a run. -/
def handovers {Body : Type} (labels : List (FleetAction Body)) :
    List (Handover Body) :=
  labels.filterMap FleetAction.handover?

/-- The deliveries of one request. -/
def deliveriesOf {Body : Type} (number : Nat)
    (labels : List (FleetAction Body)) : List (Nat × Nat) :=
  ((handovers labels).filter (fun handover => handover.request = number)).map
    Handover.delivery

namespace Fleet

variable {Body : Type}

/-- The stored replies to some deliveries. -/
def repliesTo (fleet : Fleet Body) (deliveries : List (Nat × Nat)) :
    List (StoredReply Body) :=
  fleet.replies.filter (fun stored => stored.delivery ∈ deliveries)

/-- What a worker was handed. -/
def receivedAt (fleet : Fleet Body) (position : Nat) :
    List (LaneName × Message Body) :=
  ((fleet.replicas[position]?).map
    (fun replica => replica.worker.ledger.received)).getD []

/-- How often a request was handed out. -/
def handedOut (fleet : Fleet Body) (number : Nat) : Nat :=
  ((fleet.requests[number]?).map Request.deliveries).getD 0

end Fleet

section Steps

variable {Body : Type} {environment : Environment Body}
  {fleet after : Fleet Body} {action : FleetAction Body}

theorem receivedAt_setWorker (fleet : Fleet Body) {number : Nat} {replica : Replica Body}
    {worker : Worker Body} {added : List (LaneName × Message Body)}
    (runs : fleet.replicas[number]? = some replica)
    (received :
      worker.ledger.received = replica.worker.ledger.received ++ added)
    (position : Nat) :
    (fleet.setWorker number replica worker).receivedAt position =
      fleet.receivedAt position ++ if number = position then added else [] := by
  have inside := (List.getElem?_eq_some_iff.mp runs).1
  by_cases same : number = position
  · rw [same] at runs inside
    rw [if_pos same, Fleet.receivedAt, Fleet.setWorker, same,
      List.getElem?_set_self inside, Fleet.receivedAt, runs]
    exact received
  · rw [if_neg same, List.append_nil, Fleet.receivedAt, Fleet.setWorker,
      List.getElem?_set_ne same]
    rfl

/-- A worker receives what it is handed and nothing else. -/
theorem FleetStep.receivedAt
    (taken : FleetStep environment fleet action after) (position : Nat) :
    (after.receivedAt position).map Prod.snd =
      (fleet.receivedAt position).map Prod.snd ++
        (action.handover?.toList.filter
          (fun handover => handover.worker = position)).map
            Handover.message := by
  cases taken with
  | @deliver number target request replica message freshId now clock worker
      found ready carries runs alive receives =>
      have received := receivedAt_setWorker
        (fleet.setRequest number
          { request with
            place := .unacked target message
            deliveries := request.deliveries + 1 })
        runs (received_step receives) position
      rw [received, List.map_append]
      refine congrArg (List.map Prod.snd (fleet.receivedAt position) ++ ·) ?_
      by_cases same : target = position
      · simp [same, FleetAction.handover?, WorkerAction.received]
      · simp [same, FleetAction.handover?]
  | @work target replica own worker runs alive quiet taken confirmed =>
      have received := receivedAt_setWorker fleet runs
        (received_step taken) position
      rw [received, quiet, ite_self]
      simp [FleetAction.handover?]
  | @startWorker workerId lanes =>
      refine Eq.trans ?_ (List.append_nil _).symm
      refine congrArg (List.map Prod.snd) ?_
      unfold Fleet.receivedAt
      dsimp only
      by_cases inside : position < fleet.replicas.length
      · rw [List.getElem?_append_left inside]
      · have beyond : fleet.replicas[position]? = none :=
          List.getElem?_eq_none (Nat.le_of_not_lt inside)
        rw [beyond, List.getElem?_append_right (Nat.le_of_not_lt inside)]
        cases position - fleet.replicas.length <;> rfl
  | @loseConnection target replica crashes runs =>
      refine Eq.trans ?_ (List.append_nil _).symm
      refine congrArg (List.map Prod.snd) ?_
      have kept := receivedAt_setWorker fleet runs
        (List.append_nil replica.worker.ledger.received).symm position
      rw [ite_self, List.append_nil] at kept
      refine Eq.trans ?_ kept
      unfold Fleet.receivedAt Fleet.loseConnection Fleet.setWorker
      dsimp only
      by_cases same : target = position
      · have inside := (List.getElem?_eq_some_iff.mp runs).1
        rw [same] at inside ⊢
        rw [List.getElem?_set_self inside, List.getElem?_set_self inside]
        rfl
      · rw [List.getElem?_set_ne same, List.getElem?_set_ne same]
  | _ =>
      exact (List.append_nil _).symm

theorem handedOut_setRequest {number : Nat} {request next : Request Body}
    (found : fleet.requests[number]? = some request) (other : Nat) :
    (fleet.setRequest number next).handedOut other =
      if number = other then next.deliveries else fleet.handedOut other := by
  have inside := (List.getElem?_eq_some_iff.mp found).1
  by_cases same : number = other
  · rw [if_pos same, Fleet.handedOut, Fleet.setRequest, ← same,
      List.getElem?_set_self inside]
    rfl
  · rw [if_neg same, Fleet.handedOut, Fleet.setRequest,
      List.getElem?_set_ne same]
    rfl

theorem handedOut_of_found {number : Nat} {request : Request Body}
    (found : fleet.requests[number]? = some request) :
    fleet.handedOut number = request.deliveries := by
  rw [Fleet.handedOut, found]
  rfl

theorem handedOut_place {number : Nat} {request : Request Body}
    (found : fleet.requests[number]? = some request) (place : Place Body)
    (other : Nat) :
    (fleet.setRequest number { request with place := place }).handedOut
      other = fleet.handedOut other := by
  rw [handedOut_setRequest found]
  split
  · next same =>
      rw [← same, handedOut_of_found found]
  · rfl

theorem Request.returned_deliveries (worker : Nat)
    (request : Request Body) :
    (request.returned worker).deliveries = request.deliveries := by
  unfold Request.returned
  split
  · split <;> rfl
  · rfl

/-- A request counts its deliveries. -/
theorem FleetStep.handedOut
    (taken : FleetStep environment fleet action after) (number : Nat) :
    after.handedOut number = fleet.handedOut number +
      (action.handover?.toList.filter
        (fun handover => handover.request = number)).length := by
  cases taken with
  | @deliver other target request replica message freshId now clock worker
      found ready carries runs alive receives =>
      refine (handedOut_setRequest found number).trans ?_
      split
      · next same =>
          rw [← same, handedOut_of_found found]
          simp [FleetAction.handover?]
      · next different =>
          simp [FleetAction.handover?, different]
  | takeAck found =>
      exact handedOut_place found _ number
  | takeNack found =>
      exact handedOut_place found _ number
  | exceedLimit found =>
      exact handedOut_place found _ number
  | expire found =>
      exact handedOut_place found _ number
  | @publish publication =>
      unfold Fleet.handedOut Fleet.publish
      dsimp only
      by_cases inside : number < fleet.requests.length
      · rw [List.getElem?_append_left inside]
        rfl
      · have beyond : fleet.requests[number]? = none :=
          List.getElem?_eq_none (Nat.le_of_not_lt inside)
        rw [beyond, List.getElem?_append_right (Nat.le_of_not_lt inside)]
        cases number - fleet.requests.length <;> rfl
  | loseConnection runs =>
      unfold Fleet.handedOut Fleet.loseConnection
      dsimp only
      rw [List.getElem?_map]
      cases fleet.requests[number]? with
      | none =>
          rfl
      | some request =>
          exact request.returned_deliveries _
  | _ =>
      rfl

/-- What is handed out carries a published request. -/
theorem FleetStep.handover_carries {handover : Handover Body}
    (taken : FleetStep environment fleet action after)
    (handed : action.handover? = some handover) :
    ∃ publication, fleet.publications[handover.request]? = some publication ∧
      handover.message.Carries publication := by
  cases taken with
  | @deliver number target request replica message freshId now clock worker
      found ready carries runs alive receives =>
      cases handed
      refine ⟨request.publication, ?_, carries⟩
      rw [Fleet.publications, List.getElem?_map, found]
      rfl
  | _ =>
      cases handed

end Steps

section Runs

variable {Body : Type} {environment : Environment Body}
  {fleet : Fleet Body} {labels : List (FleetAction Body)}

theorem handovers_snoc (label : FleetAction Body) :
    handovers (labels ++ [label]) =
      handovers labels ++ label.handover?.toList := by
  rw [handovers, List.filterMap_append]
  cases handed : label.handover? with
  | none =>
      rw [List.filterMap_cons_none handed]
      rfl
  | some handover =>
      rw [List.filterMap_cons_some handed]
      rfl

/-- The history of a fleet: every worker holds what it was handed, every
request counts its deliveries, and what was handed out was published. -/
structure HandoversKept (labels : List (FleetAction Body))
    (fleet : Fleet Body) : Prop where
  received : ∀ position, (fleet.receivedAt position).map Prod.snd =
    ((handovers labels).filter
      (fun handover => handover.worker = position)).map Handover.message
  counted : ∀ number, fleet.handedOut number =
    ((handovers labels).filter
      (fun handover => handover.request = number)).length
  carries : ∀ handover ∈ handovers labels,
    ∃ publication, fleet.publications[handover.request]? = some publication ∧
      handover.message.Carries publication

theorem handoversKept_of_run
    (run : Run (FleetStep environment) {} labels fleet) :
    HandoversKept labels fleet := by
  refine run.history (I := HandoversKept) ?_ ?_
  · constructor
    · intro position
      rfl
    · intro number
      rfl
    · intro handover member
      cases member
  · intro earlier before label after _ kept taken
    have grown : ∀ (number : Nat) (publication : Publication Body),
        before.publications[number]? = some publication →
          after.publications[number]? = some publication := by
      intro number publication found
      obtain ⟨added, appended⟩ := taken.grows.publications
      rw [← appended, List.getElem?_append_left
        (List.getElem?_eq_some_iff.mp found).1]
      exact found
    constructor
    · intro position
      rw [taken.receivedAt, kept.received, handovers_snoc,
        List.filter_append, List.map_append]
    · intro number
      rw [taken.handedOut, kept.counted, handovers_snoc,
        List.filter_append, List.length_append]
    · intro handover member
      rw [handovers_snoc] at member
      rcases List.mem_append.mp member with old | new
      · obtain ⟨publication, found, carries⟩ := kept.carries handover old
        exact ⟨publication, grown _ _ found, carries⟩
      · obtain ⟨publication, found, carries⟩ :=
          taken.handover_carries (Option.mem_toList.mp new)
        exact ⟨publication, grown _ _ found, carries⟩

theorem nodup_delivery {given : List (Handover Body)}
    (apart : ∀ position,
      ((given.filter (fun handover => handover.worker = position)).map
        (fun handover => handover.message.tag)).Nodup) :
    (given.map Handover.delivery).Nodup := by
  induction given with
  | nil =>
      exact List.nodup_nil
  | cons handover later inductionHypothesis =>
      rw [List.map_cons, List.nodup_cons]
      constructor
      · intro member
        obtain ⟨again, found, same⟩ := List.mem_map.mp member
        obtain ⟨sameWorker, sameTag⟩ := Prod.mk.inj same
        have tags := apart handover.worker
        rw [List.filter_cons_of_pos (by simp), List.map_cons,
          List.nodup_cons] at tags
        refine tags.1 (List.mem_map.mpr ⟨again, ?_, sameTag⟩)
        exact List.mem_filter.mpr ⟨found, by simpa using sameWorker⟩
      · refine inductionHypothesis (fun position => ?_)
        exact (apart position).sublist
          (((List.sublist_cons_self handover later).filter _).map _)

theorem FleetSound.tags_receivedAt
    (sound : FleetSound environment (fun _ _ => True) Attributed fleet)
    (position : Nat) :
    (((fleet.receivedAt position).map Prod.snd).map Message.tag).Nodup := by
  rw [List.map_map, Fleet.receivedAt]
  cases runs : fleet.replicas[position]? with
  | none =>
      exact List.nodup_nil
  | some replica =>
      exact (sound.workers position replica runs).ledgerSound.tagsUnique

theorem HandoversKept.nodup (kept : HandoversKept labels fleet)
    (sound : FleetSound environment (fun _ _ => True) Attributed fleet) :
    ((handovers labels).map Handover.delivery).Nodup := by
  refine nodup_delivery (fun position => ?_)
  have tags := sound.tags_receivedAt position
  rw [kept.received, List.map_map] at tags
  exact tags

/-- A stored reply belongs to the message of some delivery. -/
theorem HandoversKept.handover_of_stored
    (kept : HandoversKept labels fleet)
    (sound : FleetSound environment (fun _ _ => True) Attributed fleet)
    {stored : StoredReply Body} (member : stored ∈ fleet.replies) :
    ∃ handover ∈ handovers labels, handover.worker = stored.worker ∧
      handover.message = stored.message := by
  obtain ⟨lane, replica, runs, published⟩ := sound.stored stored member
  have received :
      (lane, stored.message) ∈ replica.worker.ledger.received :=
    (sound.workers _ replica runs).origin_received published rfl
  have handed : stored.message ∈
      (fleet.receivedAt stored.worker).map Prod.snd := by
    refine List.mem_map.mpr ⟨(lane, stored.message), ?_, rfl⟩
    rw [Fleet.receivedAt, runs]
    exact received
  rw [kept.received] at handed
  obtain ⟨handover, found, same⟩ := List.mem_map.mp handed
  obtain ⟨inRun, atWorker⟩ := List.mem_filter.mp found
  exact ⟨handover, inRun, of_decide_eq_true atWorker, same⟩

/-- No two stored replies belong to one delivery. -/
theorem nodup_stored (reached : Reachable (FleetStep environment) {} fleet) :
    (fleet.replies.map StoredReply.delivery).Nodup := by
  have invariant := reached.invariant
    (I := fun fleet =>
      FleetSound environment (fun _ _ => True) Attributed fleet ∧
        (fleet.replies.map StoredReply.delivery).Nodup)
    ⟨fleetSound_empty, List.nodup_nil⟩ ?_
  · exact invariant.2
  · rintro before label after ⟨sound, distinct⟩ taken
    refine ⟨sound.anyStep taken, ?_⟩
    cases taken with
    | @storeReply position replica lane message reply runs published once =>
        rw [Fleet.storeReply, List.map_append, List.nodup_append]
        refine ⟨distinct, List.nodup_singleton _, ?_⟩
        rintro delivery member other single rfl
        obtain ⟨stored, found, same⟩ := List.mem_map.mp member
        obtain ⟨sameWorker, sameTag⟩ :=
          Prod.mk.inj (same.trans (List.mem_singleton.mp single))
        obtain ⟨other, first, firstRuns, earlier⟩ :=
          sound.stored stored found
        rw [sameWorker, runs] at firstRuns
        cases firstRuns
        have repeated := (sound.workers _ replica runs).published_once
          published earlier sameTag
        cases repeated
        exact once ⟨stored, found, sameWorker, rfl, rfl⟩
    | _ =>
        exact distinct

/-- In every run of workers at a broker, whatever is lost, handed back or
delivered again: no two deliveries are the same, each is answered by at most
one stored reply, and the replies to the deliveries of a request, which are
no more than it was delivered, answer what was published as that request. -/
theorem storedOnce (run : Run (FleetStep environment) {} labels fleet) :
    ((handovers labels).map Handover.delivery).Nodup ∧
      (fleet.replies.map StoredReply.delivery).Subperm
        ((handovers labels).map Handover.delivery) ∧
      ∀ number request, fleet.requests[number]? = some request →
        (fleet.repliesTo (deliveriesOf number labels)).length ≤
            request.deliveries ∧
          ∀ stored ∈ fleet.repliesTo (deliveriesOf number labels),
            stored.message.Carries request.publication := by
  have sound := fleetSound_of_reachable run.reachable
  have kept := handoversKept_of_run run
  have stored := nodup_stored run.reachable
  have handed := kept.nodup sound
  refine ⟨handed, List.subperm_of_subset stored ?_, ?_⟩
  · intro delivery member
    obtain ⟨reply, found, rfl⟩ := List.mem_map.mp member
    obtain ⟨handover, inRun, sameWorker, sameMessage⟩ :=
      kept.handover_of_stored sound found
    refine List.mem_map.mpr ⟨handover, inRun, ?_⟩
    rw [Handover.delivery, sameWorker, sameMessage]
    rfl
  · intro number request found
    constructor
    · have counted := kept.counted number
      rw [handedOut_of_found found] at counted
      have below : ((fleet.repliesTo (deliveriesOf number labels)).map
          StoredReply.delivery).Subperm (deliveriesOf number labels) := by
        refine List.subperm_of_subset
          (stored.sublist (List.filter_sublist.map _)) ?_
        intro delivery member
        obtain ⟨reply, answers, rfl⟩ := List.mem_map.mp member
        exact of_decide_eq_true (List.mem_filter.mp answers).2
      have bound := below.length_le
      rw [List.length_map, deliveriesOf, List.length_map,
        ← counted] at bound
      exact bound
    · intro reply answers
      obtain ⟨member, delivery⟩ := List.mem_filter.mp answers
      obtain ⟨handover, ofRequest, same⟩ :=
        List.mem_map.mp (of_decide_eq_true delivery)
      obtain ⟨inRun, sameRequest⟩ := List.mem_filter.mp ofRequest
      obtain ⟨other, otherInRun, otherWorker, otherMessage⟩ :=
        kept.handover_of_stored sound member
      have equal : other = handover := by
        refine List.inj_on_of_nodup_map handed otherInRun inRun ?_
        rw [same, Handover.delivery, otherWorker, otherMessage]
        rfl
      obtain ⟨publication, published, carries⟩ :=
        kept.carries handover inRun
      rw [of_decide_eq_true sameRequest, Fleet.publications,
        List.getElem?_map, found] at published
      cases published
      rw [← otherMessage, equal]
      exact carries

end Runs

/-- A request without any field. -/
def emptyPublication : Publication Json where
  lane := .index
  body := .dict []
  messageId := some (pyStr "job")
  replyTo := some (pyStr "replies")

def emptyDelivery (tag : Nat) : Message Json where
  tag := tag
  body := emptyPublication.body
  messageId := emptyPublication.messageId
  replyTo := emptyPublication.replyTo

/-- The connection is lost before the ack: the request is delivered and
answered twice. -/
theorem storedOnce_redelivered :
    ∃ (labels : List (FleetAction Json)) (fleet : Fleet Json)
      (request : Request Json),
      fleet.requests[0]? = some request ∧
        (fleet.repliesTo (deliveriesOf 0 labels)).length = 2 ∧
        (fleet.repliesTo (deliveriesOf 0 labels)).length ≤
          request.deliveries := by
  have delivered :=
    (((((Run.nil ({} : Fleet Json)).snoc
      (@FleetStep.publish Json sampleEnvironment _ emptyPublication)).snoc
      (@FleetStep.startWorker Json sampleEnvironment _ (pyStr "worker")
        [.index])).snoc
      (@FleetStep.work Json sampleEnvironment _ 0 _ _ _ rfl rfl rfl
        (.consume rfl) (stores_of_unconfirmed rfl))).snoc
      (@FleetStep.deliver Json sampleEnvironment _ 0 0 _ _ (emptyDelivery 0)
        [] 0 0 _ rfl rfl ⟨rfl, rfl, rfl, rfl⟩ rfl rfl
        (.receive rfl rfl (List.forall_mem_nil _)))).snoc
      (@FleetStep.storeReply Json sampleEnvironment _ 0 _ .index
        (emptyDelivery 0) _ rfl (.tail _ (.head _))
        (fun stores => List.not_mem_nil stores.choose_spec.1))
  have again := ((delivered.snoc
    (@FleetStep.loseConnection Json sampleEnvironment _ 0 _ false rfl)).snoc
    (@FleetStep.deliver Json sampleEnvironment _ 0 0 _ _ (emptyDelivery 1)
      [] 0 0 _ rfl rfl ⟨rfl, rfl, rfl, rfl⟩ rfl rfl
      (.receive rfl rfl (List.forall_mem_singleton.mpr (by decide))))).snoc
    (@FleetStep.storeReply Json sampleEnvironment _ 0 _ .index
      (emptyDelivery 1) _ rfl (.tail _ (.tail _ (.tail _ (.head _)))) (by
        rintro ⟨stored, member, _, same, _⟩
        rw [List.mem_singleton.mp member] at same
        exact absurd (congrArg Message.tag same) (by decide)))
  exact ⟨_, _, _, rfl, rfl, ((storedOnce again).2.2 0 _ rfl).1⟩

end EmbeddingService
