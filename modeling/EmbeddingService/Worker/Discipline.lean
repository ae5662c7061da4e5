import EmbeddingService.Worker.Outcomes

/-!
# The settlement discipline

What the justified events of the ledger say about the calls a worker makes:
each delivery is settled at most once, and each kind of settlement has its
reasons.
-/

namespace EmbeddingService

open LabelledRuns Trace

/-- The discipline of a log: `ack` and `nack` together are called at most once
for a delivery; `ack` needs a confirmed reply, the lack of a `reply_to`, or an
expired query; a query is requeued only while draining; and an index job is
dropped only when its encode failed for the last time, or its error reply to a
malformed or expired job could not be published. -/
structure SettlementDiscipline {Body : Type}
    (environment : Environment Body) (workerId : PyStr)
    (log : List (Event Body)) : Prop where
  once : ∀ tag, settlements tag log ≤ 1
  acked : ∀ earlier lane message later,
    log = earlier ++ .acked lane message :: later →
      (∃ reply, .confirmed lane message reply ∈ earlier) ∨
        truthy message.replyTo = false ∨
        lane = .query ∧ ∃ job now,
          .expired .query message now ∈ earlier ∧
            ParsedAs environment workerId message job ∧
            isExpired job now = true
  requeued : ∀ earlier message later,
    log = earlier ++ .nacked .query message true :: later →
      .drainingBegan ∈ earlier
  dropped : ∀ earlier message later,
    log = earlier ++ .nacked .index message false :: later →
      (∃ raised, .encodeFailed .index message raised ∈ earlier) ∧
          (∃ attempt, deliveryAttempt message = .ok attempt ∧
            environment.settings.indexDeliveryLimit ≤ attempt) ∨
        ∃ result, .replyFailed .index message result false ∈ earlier ∧
          ((∃ freshId, parseMessage environment workerId freshId message =
              .ok (.rejection result)) ∨
            ∃ job now, ParsedAs environment workerId message job ∧
              isExpired job now = true ∧
              result = expiredError workerId job)

section Reading

variable {Body : Type} {environment : Environment Body} {workerId : PyStr}
  {Good : EmbeddingJob → EmbeddingResult → Prop}
  {message : Message Body} {result : EmbeddingResult}
  {log : List (Event Body)}

/-- On the query lane no answer is retried. -/
theorem answerTo_query {retry : Bool}
    (answer : AnswerTo environment workerId Good .query message result
      retry) : retry = false := by
  cases answer with
  | encoded parsed good =>
      rfl
  | _ =>
      rfl

/-- On the index lane only the error replies to malformed and expired jobs are
not retried. -/
theorem answerTo_index
    (answer : AnswerTo environment workerId Good .index message result
      false) :
    (∃ freshId, parseMessage environment workerId freshId message =
        .ok (.rejection result)) ∨
      ∃ job now, ParsedAs environment workerId message job ∧
        isExpired job now = true ∧ result = expiredError workerId job := by
  generalize notRetried : false = retry at answer
  cases answer with
  | rejected parsed =>
      exact Or.inl ⟨_, parsed⟩
  | expired parsed late indexed =>
      exact Or.inr ⟨_, _, parsed, late, rfl⟩
  | failed parsed queried =>
      cases queried
  | encoded parsed good =>
      cases notRetried

/-- The events of a justified log are justified by the log itself. -/
theorem justified_of_mem
    (every : Every (Justified environment workerId Good) log)
    {event : Event Body} (member : event ∈ log) :
    ∃ earlier, Justified environment workerId Good earlier event := by
  obtain ⟨earlier, _, _, justified⟩ := every.of_mem member
  exact ⟨earlier, justified⟩

/-- A justified log is disciplined. -/
theorem disciplined_of_justified
    (every : Every (Justified environment workerId Good) log) :
    SettlementDiscipline environment workerId log where
  once := by
    intro tag
    refine every.countP_le_one ?_
    intro earlier event justified settles
    cases event with
    | acked lane message =>
        have same : message.tag = tag := by
          simpa [Event.settles] using settles
        rw [← same]
        exact justified.1
    | nacked lane message requeue =>
        have same : message.tag = tag := by
          simpa [Event.settles] using settles
        rw [← same]
        exact justified.1
    | _ =>
        cases settles
  acked := by
    intro earlier lane message later split
    rw [split] at every
    obtain ⟨_, confirmed | unasked | ⟨queried, now, expired⟩⟩ :=
      every.justified
    · exact Or.inl confirmed
    · exact Or.inr (Or.inl unasked)
    · obtain ⟨_, job, parsed, late⟩ :=
        justified_of_mem every.of_append expired
      exact Or.inr (Or.inr ⟨queried, job, now, expired, parsed, late⟩)
  requeued := by
    intro earlier message later split
    rw [split] at every
    obtain ⟨_, ⟨_, draining⟩ | ⟨indexed, _⟩ | ⟨result, failed⟩⟩ :=
      every.justified
    · exact draining
    · cases indexed
    · obtain ⟨_, answer⟩ := justified_of_mem every.of_append failed
      cases answerTo_query answer
  dropped := by
    intro earlier message later split
    rw [split] at every
    obtain ⟨_, ⟨requeued, _⟩ | ⟨_, failed, attempt, read, limit⟩ |
        ⟨result, failed⟩⟩ :=
      every.justified
    · cases requeued
    · exact Or.inl ⟨failed, attempt, read, limit.mp rfl⟩
    · obtain ⟨_, answer⟩ := justified_of_mem every.of_append failed
      exact Or.inr ⟨result, failed, answerTo_index answer⟩

end Reading

/-- Every run of a worker keeps the settlement discipline, whatever the broker
raises and wherever the grace period cancels. -/
theorem settlementDiscipline {Body : Type}
    (environment : Environment Body) (workerId : PyStr)
    (lanes : List LaneName) (worker : Worker Body)
    (reachable : Reachable (WorkerStep environment)
      (Worker.start Body workerId lanes) worker) :
    SettlementDiscipline environment workerId worker.log :=
  disciplined_of_justified
    (workerSound_of_reachable reachable).ledgerSound.justified

/-- The discipline after a run that expires one query in its buffer. -/
theorem settlementDiscipline_expiredQuery :
    ∃ worker : Worker Json, settlements 0 worker.log = 1 ∧
      SettlementDiscipline sampleEnvironment (pyStr "worker")
        worker.log := by
  have taken :=
    ((((Reachable.refl (Worker.start Json (pyStr "worker") [.query])).tail
      (.consume rfl)).tail (.startLoop rfl rfl)).tail
      (@WorkerStep.receive Json sampleEnvironment _ .query
        (sampleMessage 0) [] 0 0 rfl rfl
        (fun _ member => nomatch member))).tail
      (@WorkerStep.takeBatch Json sampleEnvironment _ .query 0 _ _ rfl rfl
        rfl)
  have expired := taken.tail
    (@WorkerStep.startProcess Json sampleEnvironment _ 0 _ (fun _ => 20) 20
      rfl rfl rfl)
  exact ⟨_, rfl, settlementDiscipline _ _ _ _ expired⟩

end EmbeddingService
