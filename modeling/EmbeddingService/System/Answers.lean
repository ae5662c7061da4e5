import EmbeddingService.Client.Jobs
import EmbeddingService.System.FleetRuns

/-!
# The answers to a job

What a worker publishes in answer to a dumped job is about that job, and an
index request is acked only once its answer is stored.
-/

namespace EmbeddingService

open LabelledRuns Trace

section Answers

variable {Body : Type} {environment : Environment Body}
  {serialization : Serialization Body} {workerId : PyStr}
  {Good : EmbeddingJob → EmbeddingResult → Prop} {lane : LaneName}
  {message : Message Body} {job : EmbeddingJob} {result : EmbeddingResult}

/-- A message whose body is the dump of a job with an id. -/
structure Holds (serialization : Serialization Body)
    (message : Message Body) (job : EmbeddingJob) : Prop where
  dumped : serialization.dumpJob job = some message.body
  named : job.jobId ≠ []

theorem Holds.parsed
    (faithful : serialization.Faithful environment.python
      environment.dumpResult)
    (holds : Holds serialization message job) {parsedJob : EmbeddingJob}
    (parsed : ParsedAs environment workerId message parsedJob) :
    parsedJob = job.onWire := by
  obtain ⟨freshId, returned⟩ := parsed
  exact parseJob_dumped faithful holds.dumped holds.named returned

theorem Holds.parsed_id
    (keepsIds : serialization.KeepsIds environment.python
      environment.dumpResult)
    (holds : Holds serialization message job) {parsedJob : EmbeddingJob}
    (parsed : ParsedAs environment workerId message parsedJob) :
    parsedJob.jobId = job.jobId := by
  obtain ⟨freshId, returned⟩ := parsed
  unfold parseMessage at returned
  rcases parseJob_named keepsIds holds.dumped holds.named
      (either message.messageId message.correlationId) (some workerId) with
    ⟨accepted, id, asJob⟩ | ⟨other, _, _, asRejection⟩ | ⟨escape, raised⟩
  · rw [asJob] at returned
    cases returned
    exact id
  · rw [asRejection] at returned
    cases returned
  · rw [raised] at returned
    cases returned

theorem Holds.rejection
    (keepsIds : serialization.KeepsIds environment.python
      environment.dumpResult)
    (holds : Holds serialization message job) {freshId : PyStr}
    (returned : parseMessage environment workerId freshId message =
      .ok (.rejection result)) :
    result.jobId = job.jobId ∧ result.status = .error := by
  unfold parseMessage at returned
  rcases parseJob_named keepsIds holds.dumped holds.named
      (either message.messageId message.correlationId) (some workerId) with
    ⟨accepted, _, asJob⟩ | ⟨other, id, status, asRejection⟩ |
      ⟨escape, raised⟩
  · rw [asJob] at returned
    cases returned
  · rw [asRejection] at returned
    cases returned
    exact ⟨id, status⟩
  · rw [raised] at returned
    cases returned

/-- An answer carries the id of the job. -/
theorem Holds.answer_id
    (keepsIds : serialization.KeepsIds environment.python
      environment.dumpResult)
    (identifies : ∀ job result, Good job result →
      result.jobId = job.jobId)
    (holds : Holds serialization message job) {retry : Bool}
    (answer : AnswerTo environment workerId Good lane message result
      retry) : result.jobId = job.jobId := by
  cases answer with
  | rejected returned =>
      exact (holds.rejection keepsIds returned).1
  | expired parsed late indexed =>
      exact holds.parsed_id keepsIds parsed
  | failed parsed queried =>
      exact holds.parsed_id keepsIds parsed
  | encoded parsed good =>
      exact (identifies _ _ good).trans (holds.parsed_id keepsIds parsed)

/-- An answer is an error, or what the engine may give the job as it was on
the wire. -/
theorem Holds.answer
    (faithful : serialization.Faithful environment.python
      environment.dumpResult)
    (holds : Holds serialization message job) {retry : Bool}
    (answer : AnswerTo environment workerId Good lane message result
      retry) : result.status = .error ∨ Good job.onWire result := by
  cases answer with
  | rejected returned =>
      exact Or.inl (holds.rejection faithful.keepsIds returned).2
  | expired parsed late indexed =>
      exact Or.inl rfl
  | failed parsed queried =>
      exact Or.inl rfl
  | encoded parsed good =>
      rw [holds.parsed faithful parsed] at good
      exact Or.inr good

end Answers

section Fleets

variable {Body : Type} {environment : Environment Body}
  {Allowed : EncodeCall → EngineReply → Prop}
  {Good : EmbeddingJob → EmbeddingResult → Prop}
  {fleet after : Fleet Body}

/-- What a worker publishes answers the message it is about. -/
theorem FleetSound.published
    (sound : FleetSound environment Allowed Good fleet) {position : Nat}
    {lane : LaneName} {message : Message Body} {reply : Reply Body}
    (logged : fleet.Logs position (.published lane message reply)) :
    ∃ workerId result retry body replyTo,
      AnswerTo environment workerId Good lane message result retry ∧
      environment.dumpResult result = some body ∧
      message.replyTo = some replyTo ∧
      reply =
        replyMessage environment workerId lane message result replyTo
          body := by
  obtain ⟨replica, runs, member⟩ := logged
  obtain ⟨earlier, _, _, justified⟩ :=
    (sound.workers position replica runs).ledgerSound.justified.of_mem member
  obtain ⟨result, retry, body, replyTo, answer⟩ := justified
  exact ⟨_, result, retry, body, replyTo, answer⟩

theorem FleetSound.confirmed_published
    (sound : FleetSound environment Allowed Good fleet) {position : Nat}
    {lane : LaneName} {message : Message Body} {reply : Reply Body}
    (logged : fleet.Logs position (.confirmed lane message reply)) :
    fleet.Logs position (.published lane message reply) := by
  obtain ⟨replica, runs, member⟩ := logged
  obtain ⟨earlier, later, split, published⟩ :=
    (sound.workers position replica runs).ledgerSound.justified.of_mem member
  refine ⟨replica, runs, ?_⟩
  change _ ∈ replica.worker.ledger.log
  rw [split]
  exact List.mem_append_left _ published

/-- Every reply on the index lane is mandatory, so its confirm means that it
is stored. -/
theorem FleetSound.confirmed_stores
    (sound : FleetSound environment Allowed Good fleet) {position : Nat}
    {message : Message Body} {reply : Reply Body}
    (logged : fleet.Logs position (.confirmed .index message reply)) :
    fleet.Stores position message reply := by
  obtain ⟨_, _, _, _, _, _, _, _, made⟩ :=
    sound.published (sound.confirmed_published logged)
  refine sound.confirmed position .index message reply logged ?_
  rw [made]
  rfl

/-- What a worker logs is about a published message. -/
theorem FleetSound.carries
    (sound : FleetSound environment Allowed Good fleet) {position : Nat}
    {event : Event Body} (logged : fleet.Logs position event)
    {lane : LaneName} {message : Message Body}
    (about : event.origin? = some (lane, message)) :
    ∃ publication ∈ fleet.publications,
      publication.lane = lane ∧ message.Carries publication := by
  obtain ⟨replica, runs, member⟩ := logged
  exact sound.received position lane message ⟨replica, runs,
    (sound.workers position replica runs).origin_received member about⟩

/-- No index request is dropped, and one that asked for a reply is acked only
with its reply stored. -/
structure IndexAnswered (fleet : Fleet Body) : Prop where
  kept : ∀ request ∈ fleet.requests, request.publication.lane = .index →
    request.place ≠ .dropped
  answered : ∀ request ∈ fleet.requests,
    request.publication.lane = .index → request.place = .acked →
      truthy request.publication.replyTo = true →
        ∃ stored ∈ fleet.replies,
          stored.message.Carries request.publication

/-- The reply of an acked index request is stored. -/
theorem FleetSound.acked_stores
    (sound : FleetSound environment Allowed Good fleet)
    {request : Request Body} (requested : request ∈ fleet.requests)
    (indexed : request.publication.lane = .index) {position : Nat}
    {lane : LaneName} {message : Message Body}
    (place : request.place = .unacked position message)
    (logged : fleet.Logs position (.acked lane message))
    (asked : truthy request.publication.replyTo = true) :
    ∃ stored ∈ fleet.replies,
      stored.message.Carries request.publication := by
  have carries :=
    (sound.unacked request requested position message place).1
  obtain ⟨replica, runs, called⟩ := logged
  have sameLane : lane = .index :=
    (sound.settles_lane requested place runs called rfl).trans indexed
  have every := (sound.workers position replica runs).ledgerSound.justified
  obtain ⟨earlier, later, split, _, reason⟩ := every.of_mem called
  rcases reason with ⟨reply, confirmed⟩ | unasked | ⟨queried, _⟩
  · have logged : fleet.Logs position (.confirmed .index message reply) := by
      refine ⟨replica, runs, ?_⟩
      change _ ∈ replica.worker.ledger.log
      rw [split, ← sameLane]
      exact List.mem_append_left _ confirmed
    obtain ⟨stored, member, _, sameMessage, _⟩ :=
      sound.confirmed_stores logged
    rw [← sameMessage] at carries
    exact ⟨stored, member, carries⟩
  · rw [carries.replyTo, asked] at unasked
    cases unasked
  · rw [sameLane] at queried
    cases queried

theorem IndexAnswered.kept_step (answered : IndexAnswered fleet)
    {action : FleetAction Body}
    (taken : FleetStep environment fleet action after)
    {moved : Request Body} (member : moved ∈ after.requests)
    (indexed : moved.publication.lane = .index) :
    moved.place ≠ .dropped := by
  obtain ⟨number, movedFound⟩ := List.getElem?_of_mem member
  rcases taken.request_origin movedFound with
    ⟨request, found, step⟩ | ⟨publication, rfl⟩
  · cases step with
    | kept =>
        exact answered.kept moved (List.mem_of_getElem? found) indexed
    | @nacked _ _ _ requeue held called =>
        intro dropped
        dsimp only at indexed dropped
        rw [indexed] at dropped
        cases requeue <;> cases dropped
    | expired ready queried =>
        have indexedLane : request.publication.lane = .index := indexed
        rw [queried] at indexedLane
        cases indexedLane
    | _ =>
        exact nofun
  · exact nofun

theorem IndexAnswered.answered_step (answered : IndexAnswered fleet)
    (sound : FleetSound environment Allowed Good fleet)
    {action : FleetAction Body}
    (taken : FleetStep environment fleet action after)
    {moved : Request Body} (member : moved ∈ after.requests)
    (indexed : moved.publication.lane = .index)
    (acked : moved.place = .acked)
    (asked : truthy moved.publication.replyTo = true) :
    ∃ stored ∈ after.replies, stored.message.Carries moved.publication := by
  have kept : ∀ publication : Publication Body,
      (∃ stored ∈ fleet.replies, stored.message.Carries publication) →
        ∃ stored ∈ after.replies, stored.message.Carries publication := by
    intro publication stores
    obtain ⟨stored, storedMember, carries⟩ := stores
    obtain ⟨later, laterMember, _, sameMessage, _⟩ :=
      taken.grows.stores _ _ _ ⟨stored, storedMember, rfl, rfl, rfl⟩
    rw [← sameMessage] at carries
    exact ⟨later, laterMember, carries⟩
  obtain ⟨number, movedFound⟩ := List.getElem?_of_mem member
  rcases taken.request_origin movedFound with
    ⟨request, found, step⟩ | ⟨publication, rfl⟩
  · have requested := List.mem_of_getElem? found
    cases step with
    | kept =>
        exact kept _ (answered.answered moved requested indexed acked asked)
    | acked held called =>
        have stored :=
          sound.acked_stores requested indexed held called asked
        exact kept request.publication stored
    | @nacked _ _ _ requeue held called =>
        dsimp only at indexed acked
        rw [indexed] at acked
        cases requeue <;> cases acked
    | _ =>
        cases acked
  · cases acked

theorem IndexAnswered.step (answered : IndexAnswered fleet)
    (sound : FleetSound environment Allowed Good fleet)
    {action : FleetAction Body}
    (taken : FleetStep environment fleet action after) :
    IndexAnswered after where
  kept := fun _ member indexed => answered.kept_step taken member indexed
  answered := fun _ member indexed acked asked =>
    answered.answered_step sound taken member indexed acked asked

end Fleets

end EmbeddingService
