import EmbeddingService.System.Answers
import EmbeddingService.System.Attempts
import EmbeddingService.System.Completion
import EmbeddingService.System.Replies

/-!
# Poison jobs

An engine that raises on some texts fails every batch that holds one of them,
and in the retry only the jobs that do.  Such a job is requeued up to the
delivery limit and then dead-lettered; every other job of its batches is
answered and acked.
-/

namespace EmbeddingService

open LabelledRuns

section Texts

variable {Body : Type} {environment : Environment Body}
  {workerId otherId : PyStr} {message other : Message Body}
  {job otherJob : EmbeddingJob} {Poison : PyStr → Prop}
  {publication : Publication Body}

/-- The texts of a job are those of the body, whatever the ids are. -/
theorem parsedAs_input (parsed : ParsedAs environment workerId message job)
    (otherParsed : ParsedAs environment otherId other otherJob)
    (sameBody : message.body = other.body) : job.input = otherJob.input := by
  have inputOf : ∀ {entries : PyDict} {fallbackId : Option PyStr},
      requiredField (withFallbackId entries fallbackId) (pyStr "input")
          (checkInput environment.schemaSettings) =
        requiredField entries (pyStr "input")
          (checkInput environment.schemaSettings) := by
    intro entries fallbackId
    have same : PyDict.get (withFallbackId entries fallbackId)
        (pyStr "input") = PyDict.get entries (pyStr "input") :=
      withFallbackId_get entries fallbackId (by decide)
    rw [requiredField, requiredField, same]
  obtain ⟨_, returned⟩ := parsed
  obtain ⟨_, otherReturned⟩ := otherParsed
  unfold parseMessage at returned otherReturned
  obtain ⟨entries, loaded, validated⟩ := parseJob_job returned
  obtain ⟨otherEntries, otherLoaded, otherValidated⟩ :=
    parseJob_job otherReturned
  have sameEntries : entries = otherEntries := by
    rw [sameBody, otherLoaded] at loaded
    cases loaded
    rfl
  have input := (modelValidate_ok validated).1
  have otherInput := (modelValidate_ok otherValidated).1
  rw [inputOf] at input otherInput
  rw [sameEntries, otherInput] at input
  exact (Except.ok.inj input).symm

/-- A request whose body is parsed as a job with a poison text. -/
def Publication.Poisoned (environment : Environment Body)
    (Poison : PyStr → Prop) (publication : Publication Body) : Prop :=
  ∃ message workerId job, message.Carries publication ∧
    ParsedAs environment workerId message job ∧ job.Poisoned Poison

/-- Every delivery of a request has the poison of its body. -/
theorem poisoned_iff (carries : message.Carries publication)
    (parsed : ParsedAs environment workerId message job) :
    publication.Poisoned environment Poison ↔ job.Poisoned Poison := by
  constructor
  · rintro ⟨other, otherId, otherJob, otherCarries, otherParsed, poisoned⟩
    have sameBody : other.body = message.body :=
      otherCarries.body.trans carries.body.symm
    have sameInput := parsedAs_input otherParsed parsed sameBody
    unfold EmbeddingJob.Poisoned at poisoned ⊢
    rw [← sameInput]
    exact poisoned
  · intro poisoned
    exact ⟨message, workerId, job, carries, parsed, poisoned⟩

/-- A rejection is an error. -/
theorem rejection_status {freshId : PyStr} {result : EmbeddingResult}
    (returned : parseMessage environment workerId freshId message =
      .ok (.rejection result)) : result.status = .error := by
  unfold parseMessage parseJob at returned
  split at returned
  · cases returned
  · cases returned
  · cases returned
    rfl
  · dsimp only at returned
    split at returned
    · cases returned
    · cases returned
    · split at returned
      · cases returned
      · cases returned
        rfl
  · cases returned
    rfl

end Texts

section Fleets

variable {Body : Type} {environment : Environment Body}
  {Engine : EncodeCall → EngineReply → Prop} {Poison : PyStr → Prop}
  {fleet after : Fleet Body}

/-- What holds of a worker while the engine raises on exactly the poison
texts. -/
structure PoisonJudged (environment : Environment Body)
    (Engine : EncodeCall → EngineReply → Prop) (Poison : PyStr → Prop)
    (worker : Worker Body) : Prop where
  outcomes : OutcomesFit Engine (Verdict environment.engine Engine Poison)
    worker
  finished : Finished environment
    (Verdict environment.engine Engine Poison) worker

theorem poisonJudged_start (workerId : PyStr) (lanes : List LaneName) :
    PoisonJudged environment Engine Poison
      (Worker.start Body workerId lanes) where
  outcomes :=
    { scheduled := fun _ member => nomatch member
      encoded := fun _ member => nomatch member
      running := fun _ member => nomatch member }
  finished := finished_start lanes

theorem PoisonJudged.step {worker next : Worker Body}
    (judged : PoisonJudged environment Engine Poison worker)
    (raises : RaisesExactlyOn Poison Engine)
    (sound : WorkerSound environment worker.workerId Engine
      (OwnPart environment.engine Engine) worker)
    {own : WorkerAction Body} (replied : own.EngineAllowed Engine)
    (works : WorkerStep environment worker own next) :
    PoisonJudged environment Engine Poison next where
  outcomes := judged.outcomes.step sound.exclusion
    (fun jobs => encodeJobsIsolatingFailures_fits
      (encodesFit_verdict raises) jobs) replied works
  finished := judged.finished.step sound judged.outcomes works

/-- Every worker judges jobs by their poison, and the broker counts its
deliveries. -/
structure PoisonSound (environment : Environment Body)
    (Engine : EncodeCall → EngineReply → Prop) (Poison : PyStr → Prop)
    (fleet : Fleet Body) : Prop where
  sound : FleetSound environment Engine
    (OwnPart environment.engine Engine) fleet
  counted : fleet.DeliveriesCounted
  read : ∀ replica ∈ fleet.replicas, CountsRead replica.worker
  judged : ∀ replica ∈ fleet.replicas,
    PoisonJudged environment Engine Poison replica.worker

theorem poisonSound_empty :
    PoisonSound environment Engine Poison ({} : Fleet Body) where
  sound := fleetSound_empty
  counted := fun _ member => nomatch member
  read := fun _ member => nomatch member
  judged := fun _ member => nomatch member

theorem PoisonSound.step
    (held : PoisonSound environment Engine Poison fleet)
    (raises : RaisesExactlyOn Poison Engine) {action : FleetAction Body}
    (replied : action.EngineAllowed Engine)
    (counts : action.CountsDeliveries)
    (taken : FleetStep environment fleet action after) :
    PoisonSound environment Engine Poison after where
  sound := held.sound.step (fun _ => splitsGood_ownPart) replied taken
  counted := held.counted.step counts taken
  read := countsRead_step counts taken held.read
  judged := by
    refine taken.workers_keep poisonJudged_start ?_ held.judged
    intro position replica next runs judged move
    have sound := held.sound.workers position replica runs
    cases move with
    | kept =>
        exact judged
    | received found carries receives =>
        refine judged.step raises sound ?_ receives
        exact trivial
    | worked quiet works confirmed =>
        exact judged.step raises sound replied works

/-- Where the broker puts a message for a settlement. -/
def Event.destination? : Event Body → Option (Place Body)
  | .acked _ _ => some .acked
  | .nacked lane _ requeue => some (nackPlace lane requeue)
  | _ => none

/-- A delivery is settled by this call and by no other.  While the broker
waits for its settlement, the request was delivered as often as the attempt
says, and it can only move to where the call puts it, unless the connection
ends. -/
structure SettledAs (environment : Environment Body) (fleet : Fleet Body)
    (position : Nat) (message : Message Body) (call : Event Body)
    (place : Place Body) : Prop where
  called : fleet.Logs position call
  alone : ∀ event, fleet.Logs position event →
    event.settles message.tag = true → event = call
  attempt : ∀ request ∈ fleet.requests,
    request.place = .unacked position message →
      deliveryAttempt message = .ok request.deliveries
  moves : ∀ (number : Nat) (request : Request Body),
    fleet.requests[number]? = some request →
      request.place = .unacked position message →
        ∀ action after, FleetStep environment fleet action after →
          ∃ moved, after.requests[number]? = some moved ∧
            (moved = request ∨ moved = { request with place := place } ∨
              moved = { request with place := .ready } ∧
                ∃ crashes, action = .loseConnection position crashes)

theorem Fleet.settles_unique {Allowed : EncodeCall → EngineReply → Prop}
    {Good : EmbeddingJob → EmbeddingResult → Prop}
    (sound : FleetSound environment Allowed Good fleet) {position tag : Nat}
    {first second : Event Body} (firstLogged : fleet.Logs position first)
    (secondLogged : fleet.Logs position second)
    (firstSettles : first.settles tag = true)
    (secondSettles : second.settles tag = true) : first = second := by
  obtain ⟨replica, runs, firstMember⟩ := firstLogged
  obtain ⟨other, otherRuns, secondMember⟩ := secondLogged
  rw [runs] at otherRuns
  cases otherRuns
  exact (sound.workers position replica runs).settles_unique firstMember
    secondMember firstSettles secondSettles

/-- The one settlement a worker has called decides where the request goes. -/
theorem PoisonSound.settledAs
    (held : PoisonSound environment Engine Poison fleet) {position : Nat}
    {message : Message Body} {call : Event Body} {place : Place Body}
    (called : fleet.Logs position call)
    (settles : call.settles message.tag = true)
    (destination : call.destination? = some place) :
    SettledAs environment fleet position message call place where
  called := called
  alone := fun event logged eventSettles =>
    Fleet.settles_unique held.sound logged called eventSettles settles
  attempt := fun request member => held.counted request member position
    message
  moves := by
    intro number request found unacked action after taken
    have member := List.mem_of_getElem? found
    have destined : ∀ event, fleet.Logs position event →
        event.settles message.tag = true → event.destination? = some place := by
      intro event logged eventSettles
      rw [Fleet.settles_unique held.sound logged called eventSettles settles]
      exact destination
    obtain ⟨moved, movedFound, step⟩ := taken.moves_request found
    refine ⟨moved, movedFound, ?_⟩
    cases step with
    | kept =>
        exact Or.inl rfl
    | @acked holder heldMessage lane place logged =>
        rw [unacked] at place
        cases place
        have same := destined _ logged (by simp [Event.settles])
        exact Or.inr (Or.inl (by rw [Option.some.inj same]))
    | @nacked holder heldMessage lane requeue place logged =>
        rw [unacked] at place
        cases place
        have same := destined _ logged (by simp [Event.settles])
        obtain ⟨replica, runs, calledMember⟩ := logged
        have sameLane : lane = request.publication.lane :=
          held.sound.settles_lane member unacked runs calledMember rfl
        rw [sameLane] at same
        exact Or.inr (Or.inl (by rw [← Option.some.inj same]))
    | lost place =>
        rw [unacked] at place
        cases place
        exact Or.inr (Or.inr ⟨rfl, _, rfl⟩)
    | delivered ready =>
        rw [unacked] at ready
        cases ready
    | exceeded ready indexed =>
        rw [unacked] at ready
        cases ready
    | expired ready queried =>
        rw [unacked] at ready
        cases ready

/-- Every delivery that is finished is one of a published index request. -/
theorem FleetSound.finishes_published
    {Allowed : EncodeCall → EngineReply → Prop}
    {Good : EmbeddingJob → EmbeddingResult → Prop}
    (sound : FleetSound environment Allowed Good fleet) {position : Nat}
    {delivery : Delivery Body} {settling : Settling Body}
    (finishes : fleet.Finishes position delivery settling) :
    ∃ publication ∈ fleet.publications, publication.lane = .index ∧
      delivery.message.Carries publication := by
  obtain ⟨_, replica, runs, has⟩ := finishes
  have received :=
    (sound.workers position replica runs).item_received has
  exact sound.received position .index delivery.message
    ⟨replica, runs, received⟩

/-- What a delivery was judged by. -/
theorem PoisonSound.judgement
    (held : PoisonSound environment Engine Poison fleet) {position : Nat}
    {delivery : Delivery Body} {settling : Settling Body}
    (finishes : fleet.Finishes position delivery settling) :
    ∃ replica outcome, fleet.replicas[position]? = some replica ∧
      Verdict environment.engine Engine Poison delivery.job outcome ∧
      ParsedAs environment replica.worker.workerId delivery.message
        delivery.job ∧
      IndexFinish environment replica.worker.workerId delivery
        replica.worker.log outcome settling := by
  obtain ⟨notCancelled, replica, runs, has⟩ := finishes
  have judged := held.judged replica (List.mem_of_getElem? runs)
  rcases judged.finished delivery settling has with
    cancelled | ⟨outcome, verdict, parsed, finish⟩
  · exact False.elim (notCancelled cancelled)
  · exact ⟨replica, outcome, runs, verdict, parsed, finish⟩

/-- The attempt of every delivery in a batch can be read. -/
theorem PoisonSound.item_read
    (held : PoisonSound environment Engine Poison fleet) {position : Nat}
    {replica : Replica Body} {lane : LaneName} {item : Item Body}
    (runs : fleet.replicas[position]? = some replica)
    (has : replica.worker.HasItem lane item) :
    ∃ attempt, deliveryAttempt item.delivery.message = .ok attempt :=
  held.read replica (List.mem_of_getElem? runs) _
    ((held.sound.workers position replica runs).item_received has)

theorem PoisonSound.finishes_read
    (held : PoisonSound environment Engine Poison fleet) {position : Nat}
    {delivery : Delivery Body} {settling : Settling Body}
    (finishes : fleet.Finishes position delivery settling) :
    ∃ attempt, deliveryAttempt delivery.message = .ok attempt := by
  obtain ⟨_, replica, runs, has⟩ := finishes
  exact held.item_read runs has

/-- A poison job is nacked, below the limit with requeue. -/
theorem PoisonSound.poisoned
    (held : PoisonSound environment Engine Poison fleet)
    (raises : RaisesExactlyOn Poison Engine) {position : Nat}
    {delivery : Delivery Body} {settling : Settling Body}
    (finishes : fleet.Finishes position delivery settling)
    (poisoned : delivery.job.Poisoned Poison) {attempt : Int}
    (read : deliveryAttempt delivery.message = .ok attempt) :
    SettledAs environment fleet position delivery.message
      (.nacked .index delivery.message (requeuesFailure environment attempt))
      (nackPlace .index (requeuesFailure environment attempt)) := by
  obtain ⟨replica, outcome, runs, verdict, parsed, finish⟩ :=
    held.judgement finishes
  cases outcome with
  | ok result =>
      exact False.elim (OwnPart.healthy raises verdict poisoned)
  | error raised =>
      exact held.settledAs ⟨replica, runs, finish attempt read⟩
        (by simp [Event.settles]) rfl

/-- A job is answered with its own vectors: its reply is published and nothing
is settled yet, or the broker has stored the reply and the delivery is
acked. -/
def AnsweredOk (environment : Environment Body)
    (Engine : EncodeCall → EngineReply → Prop) (fleet : Fleet Body)
    (position : Nat) (delivery : Delivery Body)
    (settling : Settling Body) : Prop :=
  ∃ workerId result body replyTo,
    OwnPart environment.engine Engine delivery.job result ∧
    result.status = .ok ∧
    environment.dumpResult result = some body ∧
    delivery.message.replyTo = some replyTo ∧
    let reply :=
      replyMessage environment workerId .index delivery.message result
        replyTo body
    fleet.Logs position (.published .index delivery.message reply) ∧
      (settling = .publishing result true reply ∧
          (∀ event, fleet.Logs position event →
            event.settles delivery.message.tag = false) ∨
        fleet.Stores position delivery.message reply ∧
          SettledAs environment fleet position delivery.message
            (.acked .index delivery.message) .acked)

theorem OwnPart.status {job : EmbeddingJob} {result : EmbeddingResult}
    (own : OwnPart environment.engine Engine job result) :
    result.status = .ok := by
  cases own
  rfl

/-- A job without poison is answered, unless its reply fails. -/
theorem PoisonSound.healthy
    (held : PoisonSound environment Engine Poison fleet) {position : Nat}
    {delivery : Delivery Body} {settling : Settling Body}
    (finishes : fleet.Finishes position delivery settling)
    (healthy : ¬ delivery.job.Poisoned Poison)
    (asked : truthy delivery.message.replyTo = true)
    (unfailed : ∀ result, ¬ fleet.Logs position
      (.replyFailed .index delivery.message result true)) :
    AnsweredOk environment Engine fleet position delivery settling := by
  obtain ⟨replica, outcome, runs, verdict, parsed, finish⟩ :=
    held.judgement finishes
  cases outcome with
  | error raised =>
      exact False.elim (healthy verdict)
  | ok result =>
      rcases finish asked with failed | cancelled | sent
      · exact False.elim (unfailed result ⟨replica, runs, failed⟩)
      · exact False.elim (finishes.1 cancelled)
      · obtain ⟨body, replyTo, dumped, given, published, next⟩ := sent
        refine ⟨replica.worker.workerId, result, body, replyTo, verdict,
          OwnPart.status verdict, dumped, given, ⟨replica, runs, published⟩,
          ?_⟩
        rcases next with publishing | ⟨confirmed, acked⟩
        · rw [publishing] at finishes
          exact Or.inl ⟨publishing,
            (held.sound.publishing_logged finishes).2⟩
        · refine Or.inr ⟨held.sound.confirmed_stores
            ⟨replica, runs, confirmed⟩, ?_⟩
          exact held.settledAs ⟨replica, runs, acked⟩
            (by simp [Event.settles]) rfl

/-- What is published for a poisoned request is an error. -/
theorem PoisonSound.never_ok
    (held : PoisonSound environment Engine Poison fleet)
    (raises : RaisesExactlyOn Poison Engine) {position : Nat}
    {lane : LaneName} {message : Message Body} {reply : Reply Body}
    (logged : fleet.Logs position (.published lane message reply))
    {publication : Publication Body} (carries : message.Carries publication)
    (poisoned : publication.Poisoned environment Poison) :
    ∃ workerId result replyTo body,
      environment.dumpResult result = some body ∧
      reply = replyMessage environment workerId lane message result replyTo
        body ∧
      result.status = .error := by
  obtain ⟨workerId, result, retry, body, replyTo, answer, dumped, _, made⟩ :=
    held.sound.published logged
  refine ⟨workerId, result, replyTo, body, dumped, made, ?_⟩
  cases answer with
  | rejected parsed =>
      exact rejection_status parsed
  | expired parsed late indexed =>
      rfl
  | failed parsed queried =>
      rfl
  | encoded parsed own =>
      exact False.elim (OwnPart.healthy raises own
        ((poisoned_iff carries parsed).mp poisoned))

end Fleets

/-- The fate of the index jobs that workers encode.  A poisoned one is settled
by a `nack`: requeued below the delivery limit, and dead-lettered at or above
it; it is never answered but with an error.  Every other one that asked for a
reply is answered with its own vectors and acked, unless its reply fails.
Acked and dead requests are not delivered again, so this happens to the first
delivery that is encoded and settled; and every settlement that has not ended
can be carried out. -/
structure PoisonIsolated {Body : Type} (environment : Environment Body)
    (Engine : EncodeCall → EngineReply → Prop) (Poison : PyStr → Prop)
    (fleet : Fleet Body) : Prop where
  settled : ∀ position delivery settling,
    fleet.Finishes position delivery settling →
      ∃ publication ∈ fleet.publications, publication.lane = .index ∧
        delivery.message.Carries publication ∧
        (publication.Poisoned environment Poison →
          ∃ attempt, deliveryAttempt delivery.message = .ok attempt ∧
            (attempt < environment.settings.indexDeliveryLimit →
              SettledAs environment fleet position delivery.message
                (.nacked .index delivery.message true) .ready) ∧
            (environment.settings.indexDeliveryLimit ≤ attempt →
              SettledAs environment fleet position delivery.message
                (.nacked .index delivery.message false) .dead)) ∧
        (¬ publication.Poisoned environment Poison →
          truthy delivery.message.replyTo = true →
            (∀ result, ¬ fleet.Logs position
              (.replyFailed .index delivery.message result true)) →
              AnsweredOk environment Engine fleet position delivery
                settling)
  neverOk : ∀ position lane message reply publication,
    fleet.Logs position (.published lane message reply) →
      message.Carries publication →
        publication.Poisoned environment Poison →
          ∃ workerId result replyTo body,
            environment.dumpResult result = some body ∧
            reply = replyMessage environment workerId lane message result
              replyTo body ∧
            result.status = .error
  final : ∀ (number : Nat) (request : Request Body),
    fleet.requests[number]? = some request →
      request.place = .acked ∨ request.place = .dead →
        ∀ after, Reachable (FleetStep environment) fleet after →
          after.requests[number]? = some request
  completes : ∀ position number place delivery,
    (∃ outcome, fleet.ItemAt position number place
        { delivery := delivery, state := .scheduled outcome }) ∨
      (∃ settling, settling.IsPending ∧
        fleet.ItemAt position number place
          { delivery := delivery, state := .finishing settling }) →
      fleet.Completes environment position number place delivery

/-- For every engine that raises on exactly the texts that contain a poison
text, and a broker whose headers count the earlier deliveries: after every run
of any number of workers, poison is isolated. -/
theorem poisonIsolated {Body : Type} (environment : Environment Body)
    (Engine : EncodeCall → EngineReply → Prop) (Poison : PyStr → Prop)
    (raises : RaisesExactlyOn Poison Engine)
    (labels : List (FleetAction Body)) (fleet : Fleet Body)
    (run : Run (FleetStep environment) {} labels fleet)
    (rules : ∀ label ∈ labels,
      label.EngineAllowed Engine ∧ label.CountsDeliveries) :
    PoisonIsolated environment Engine Poison fleet := by
  have held : PoisonSound environment Engine Poison fleet :=
    run.invariant rules poisonSound_empty
      (fun _ _ _ before allowed taken =>
        before.step raises allowed.1 allowed.2 taken)
  have splits : ∀ workerId, SplitsGood environment.engine (some workerId)
      Engine (OwnPart environment.engine Engine) :=
    fun _ => splitsGood_ownPart
  exact
    { settled := by
        intro position delivery settling finishes
        obtain ⟨publication, published, indexed, carries⟩ :=
          held.sound.finishes_published finishes
        obtain ⟨replica, outcome, runs, verdict, parsed, finish⟩ :=
          held.judgement finishes
        have judged : publication.Poisoned environment Poison ↔
            delivery.job.Poisoned Poison :=
          poisoned_iff carries parsed
        refine ⟨publication, published, indexed, carries, ?_, ?_⟩
        · intro poisoned
          obtain ⟨attempt, read⟩ := held.finishes_read finishes
          have settled :=
            held.poisoned raises finishes (judged.mp poisoned) read
          unfold requeuesFailure at settled
          refine ⟨attempt, read, fun below => ?_, fun reached => ?_⟩
          · simpa [not_le.mpr below, nackPlace] using settled
          · simpa [reached, nackPlace] using settled
        · intro healthy asked unfailed
          exact held.healthy finishes (fun poisoned =>
            healthy (judged.mpr poisoned)) asked unfailed
      neverOk := fun position lane message reply publication logged carries
        poisoned => held.never_ok raises logged carries poisoned
      final := fun number request found settled after reachable =>
        reachable.invariant
          (I := fun state : Fleet Body =>
            state.requests[number]? = some request)
          found (fun _ _ _ kept taken => taken.settled_kept kept settled)
      completes := by
        intro position number place delivery pending
        rcases pending with ⟨outcome, has⟩ | ⟨settling, waits, has⟩
        · have itemAt := has
          obtain ⟨_, _, runs, _, _, found, _, itemFound⟩ := has
          obtain ⟨_, read⟩ :=
            held.item_read runs (hasItem_of_getElem found itemFound)
          exact held.sound.completes_scheduled splits itemAt read
        · exact held.sound.completes_finishing splits has waits }

/-- An engine that raises on the texts that hold a poison text, and on no
others. -/
def poisonEngine (Poison : PyStr → Prop) (request : EncodeCall)
    (reply : EngineReply) : Prop :=
  (∃ raised, reply = .error raised) ↔ ∃ text ∈ request.texts, Poison text

/-- Index jobs in batches of two texts, which may be delivered once. -/
def twoJobs : Environment Json :=
  { sampleEnvironment with
    settings := { Settings.twoTexts with indexDeliveryLimit := 1 } }

/-- A job of one text. -/
def textPublication (text : String) : Publication Json where
  lane := .index
  body := .dict [(pyStr "input", .str (pyStr text))]
  messageId := some (pyStr text)
  replyTo := some (pyStr "replies")

/-- Its first delivery, with the job it is parsed as. -/
def textDelivery (tag : Nat) (text : String) : Delivery Json where
  message :=
    { tag := tag
      body := (textPublication text).body
      messageId := (textPublication text).messageId
      replyTo := (textPublication text).replyTo }
  job := { input := [pyStr text], jobId := pyStr text }

def passageCall (texts : List String) : EncodeCall where
  texts := texts.map pyStr
  inputType := .passage
  normalize := true

def Event.isReplyFailed {Body : Type} : Event Body → Bool
  | .replyFailed _ _ _ _ => true
  | _ => false

theorem unfailed_of_none {Body : Type} {fleet : Fleet Body}
    {position : Nat} {replica : Replica Body} {lane : LaneName}
    {message : Message Body} {result : EmbeddingResult} {retry : Bool}
    (runs : fleet.replicas[position]? = some replica)
    (none : replica.worker.log.any Event.isReplyFailed = false) :
    ¬ fleet.Logs position (.replyFailed lane message result retry) := by
  rintro ⟨other, otherRuns, member⟩
  rw [runs] at otherRuns
  cases otherRuns
  have failed : replica.worker.log.any Event.isReplyFailed = true :=
    List.any_eq_true.mpr ⟨_, member, rfl⟩
  rw [none] at failed
  cases failed

/-- A poison job and another one in one batch: the combined encode fails, and
then only the one of the poison job, which is dead-lettered; the other one is
answered and acked. -/
theorem poisonIsolated_mates :
    ∃ fleet : Fleet Json,
      SettledAs twoJobs fleet 0 (textDelivery 0 "poison").message
        (.nacked .index (textDelivery 0 "poison").message false) .dead ∧
      AnsweredOk twoJobs (poisonEngine (· = pyStr "poison")) fleet 0
        (textDelivery 1 "text") .acking := by
  have delivered :=
    (((((((Run.nil ({} : Fleet Json)).snoc
      (@FleetStep.publish Json twoJobs _ (textPublication "poison"))).snoc
      (@FleetStep.publish Json twoJobs _ (textPublication "text"))).snoc
      (@FleetStep.startWorker Json twoJobs _ (pyStr "worker")
        [.index])).snoc
      (@FleetStep.work Json twoJobs _ 0 _ _ _ rfl rfl rfl (.consume rfl)
        (stores_of_unconfirmed rfl))).snoc
      (@FleetStep.work Json twoJobs _ 0 _ _ _ rfl rfl rfl
        (.startLoop rfl rfl) (stores_of_unconfirmed rfl))).snoc
      (@FleetStep.deliver Json twoJobs _ 0 0 _ _
        (textDelivery 0 "poison").message [] 0 0 _ rfl rfl
        ⟨rfl, rfl, rfl, rfl⟩ rfl rfl
        (.receive rfl rfl (fun _ member => nomatch member)))).snoc
      (@FleetStep.deliver Json twoJobs _ 1 0 _ _
        (textDelivery 1 "text").message [] 0 0 _ rfl rfl
        ⟨rfl, rfl, rfl, rfl⟩ rfl rfl
        (.receive rfl rfl (List.forall_mem_singleton.mpr (by decide))))
  have encoding := (delivered.snoc
    (@FleetStep.work Json twoJobs _ 0 _ _ _ rfl rfl rfl
      (@WorkerStep.takeBatch Json twoJobs _ .index 0 _ _ rfl rfl rfl)
      (stores_of_unconfirmed rfl))).snoc
    (@FleetStep.work Json twoJobs _ 0 _ _ _ rfl rfl rfl
      (@WorkerStep.startProcess Json twoJobs _ 0 _ (fun _ => 0) 0 rfl rfl
        rfl)
      (stores_of_unconfirmed rfl))
  have failed := (encoding.snoc
    (@FleetStep.work Json twoJobs _ 0 _ _ _ rfl rfl rfl
      (@WorkerStep.engineReplies Json twoJobs _ 0 _
        (passageCall ["poison", "text"]) (.error ⟨[]⟩) rfl rfl)
      (stores_of_unconfirmed rfl))).snoc
    (@FleetStep.work Json twoJobs _ 0 _ _ _ rfl rfl rfl
      (@WorkerStep.engineReplies Json twoJobs _ 0 _
        (passageCall ["poison"]) (.error ⟨[]⟩) rfl rfl)
      (stores_of_unconfirmed rfl))
  have encoded := ((failed.snoc
    (@FleetStep.work Json twoJobs _ 0 _ _ _ rfl rfl rfl
      (@WorkerStep.engineReplies Json twoJobs _ 0 _ (passageCall ["text"])
        (.ok { embeddings := [[]], truncated := [false], tookMs := .zero })
        rfl rfl)
      (stores_of_unconfirmed rfl))).snoc
    (@FleetStep.work Json twoJobs _ 0 _ _ _ rfl rfl rfl
      (@WorkerStep.endThread Json twoJobs _ 0 _ _ rfl rfl)
      (stores_of_unconfirmed rfl))).snoc
    (@FleetStep.work Json twoJobs _ 0 _ _ _ rfl rfl rfl
      (@WorkerStep.collectOutcomes Json twoJobs _ 0 _ _ rfl rfl rfl)
      (stores_of_unconfirmed rfl))
  have finishing := (encoded.snoc
    (@FleetStep.work Json twoJobs _ 0 _ _ _ rfl rfl rfl
      (@WorkerStep.startFinish Json twoJobs _ 0 0 _ _ _ rfl rfl rfl
        (fun finished => nomatch finished))
      (stores_of_unconfirmed rfl))).snoc
    (@FleetStep.work Json twoJobs _ 0 _ _ _ rfl rfl rfl
      (@WorkerStep.startFinish Json twoJobs _ 0 1 _ _ _ rfl rfl rfl
        (fun finished => nomatch finished))
      (stores_of_unconfirmed rfl))
  have acked := (finishing.snoc
    (@FleetStep.storeReply Json twoJobs _ 0 _ .index
      (textDelivery 1 "text").message _ rfl
      (.tail _ (.tail _ (.tail _ (.tail _ (.tail _ (.head _))))))
      (fun stores => nomatch stores.choose_spec.1))).snoc
    (@FleetStep.work Json twoJobs _ 0 _ _ _ rfl rfl rfl
      (@WorkerStep.answerFinish Json twoJobs _ 0 1 _ _ _ .publish .returned
        rfl rfl rfl rfl (fun finished => nomatch finished)
        (fun cancelled => nomatch cancelled))
      (@stores_of_one Json _ 0 [_, _, _, _, _, _] [_] .index _ _
        ⟨_, .head _, rfl, rfl, rfl⟩ rfl rfl))
  have different : pyStr "poison" ≠ pyStr "text" := by decide
  have isolated := poisonIsolated twoJobs
    (poisonEngine (· = pyStr "poison")) (· = pyStr "poison")
    (fun _ _ replied => replied) _ _ acked (by
      simp [FleetAction.EngineAllowed, WorkerAction.EngineAllowed,
        FleetAction.CountsDeliveries, CountHeader.read, poisonEngine,
        passageCall, textDelivery, different])
  obtain ⟨_, _, _, carries, poisoned, _⟩ := isolated.settled 0
    (textDelivery 0 "poison") (.nacking false)
    (@Fleet.ItemAt.finishes Json _ 0 0 0 _ _
      ⟨_, _, rfl, rfl, rfl, rfl, rfl, rfl⟩ (by simp))
  obtain ⟨_, _, _, otherCarries, _, healthy⟩ := isolated.settled 0
    (textDelivery 1 "text") .acking
    (@Fleet.ItemAt.finishes Json _ 0 0 1 _ _
      ⟨_, _, rfl, rfl, rfl, rfl, rfl, rfl⟩ (by simp))
  have poisonParsed : ParsedAs twoJobs (pyStr "worker")
      (textDelivery 0 "poison").message (textDelivery 0 "poison").job :=
    ⟨[], rfl⟩
  have textParsed : ParsedAs twoJobs (pyStr "worker")
      (textDelivery 1 "text").message (textDelivery 1 "text").job :=
    ⟨[], rfl⟩
  obtain ⟨attempt, read, _, reached⟩ :=
    poisoned ((poisoned_iff carries poisonParsed).mpr ⟨_, .head _, rfl⟩)
  have first : (1 : Int) = attempt := Except.ok.inj read
  refine ⟨_, reached first.le, healthy ?_ rfl (fun _ => unfailed_of_none rfl rfl)⟩
  rw [poisoned_iff otherCarries textParsed]
  rintro ⟨text, member, poison⟩
  exact different (poison.symm.trans (List.mem_singleton.mp member))

end EmbeddingService
