import EmbeddingService.BatchedEncoding

/-!
# What an encode of a batch costs

The engine is given the texts of the jobs once.  Where the one call for
several jobs raises, the retry gives it all of them again, in the same thread.
-/

namespace EmbeddingService

open LabelledRuns CallProgram

/-- How many texts a call gives the engine. -/
def EncodeCall.size (request : EncodeCall) : Nat :=
  request.texts.length

/-- How many texts jobs have together. -/
def textCount (jobs : List EmbeddingJob) : Nat :=
  (allTexts jobs).length

@[simp]
theorem textCount_nil : textCount [] = 0 :=
  rfl

@[simp]
theorem textCount_cons (job : EmbeddingJob) (jobs : List EmbeddingJob) :
    textCount (job :: jobs) = job.input.length + textCount jobs := by
  simp [textCount, allTexts]

/-- The first call did not raise, as far as there is one. -/
def FirstEncodeReturns : List (EncodeCall × EngineReply) → Prop
  | (_, .error _) :: _ => False
  | _ => True

/-- The texts that the encode of a batch is going to give the engine, by the
calls so far. -/
def encodeTotal (jobs : List EmbeddingJob) :
    List (EncodeCall × EngineReply) → Nat
  | (_, .error _) :: _ =>
      if jobs.length ≤ 1 then textCount jobs else 2 * textCount jobs
  | _ => textCount jobs

/-- The encode stays within a bound that holds for its texts as long as its
first call returns, there is nothing to retry, or the bound is wide enough for
a second time. -/
theorem encodeTotal_le_iff {jobs : List EmbeddingJob} {bound : Nat}
    (fits : textCount jobs ≤ bound)
    (calls : List (EncodeCall × EngineReply)) :
    encodeTotal jobs calls ≤ bound ↔
      jobs.length ≤ 1 ∨ FirstEncodeReturns calls ∨
        2 * textCount jobs ≤ bound := by
  unfold encodeTotal FirstEncodeReturns
  split
  · by_cases single : jobs.length ≤ 1
    · simp [single, fits]
    · simp [single]
  · simp [fits]

section Programs

variable {engine : EngineInfo} {workerId : Option PyStr}

/-- An encode of jobs that share a key costs their texts. -/
theorem encodeJobs_spends {first : EmbeddingJob} {rest : List EmbeddingJob}
    (sharing : Sharing first.inputType first.normalize (first :: rest)) :
    Spends EncodeCall.size (encodeJobs engine workerId (first :: rest))
      (textCount (first :: rest)) := by
  rw [encodeJobs_call sharing]
  exact ⟨0, rfl, fun _ => rfl⟩

/-- The retry loop gives the engine the texts of every job once. -/
theorem encodeOneByOne_spends (jobs : List EmbeddingJob) :
    ∀ outcomes,
      Spends EncodeCall.size (encodeOneByOne engine workerId outcomes jobs)
        (textCount jobs) := by
  induction jobs with
  | nil =>
      intro outcomes
      rfl
  | cons job rest inductionHypothesis =>
      intro outcomes
      have alone :=
        @encodeJobs_spends engine workerId _ _ (sharing_single job)
      rw [textCount_cons, textCount_nil, Nat.add_zero] at alone
      rw [encodeOneByOne, textCount_cons]
      refine alone.andThen ?_
      intro encoded
      cases encoded with
      | ok results =>
          exact inductionHypothesis _
      | error raised =>
          exact inductionHypothesis _

/-- What is left to spend after the one call for all jobs. -/
theorem isolating_resumes {first : EmbeddingJob} {rest : List EmbeddingJob}
    (sharing : Sharing first.inputType first.normalize (first :: rest))
    {exchange : EncodeCall × EngineReply}
    {after : EncodeProgram (List Outcome)}
    (taken : Exchanges
      (encodeJobsIsolatingFailures engine workerId (first :: rest)) exchange
      after) (later : List (EncodeCall × EngineReply)) :
    ∃ left, Spends EncodeCall.size after left ∧
      encodeTotal (first :: rest) (exchange :: later) =
        exchange.1.size + left := by
  obtain ⟨request, reply⟩ := exchange
  obtain ⟨calls, same⟩ := taken
  rw [encodeJobsIsolatingFailures, encodeJobs_call sharing] at calls same
  cases calls
  rw [same]
  cases reply with
  | ok encoded =>
      exact ⟨0, rfl, rfl⟩
  | error raised =>
      cases rest with
      | nil =>
          exact ⟨0, rfl, rfl⟩
      | cons second others =>
          refine ⟨textCount (first :: second :: others), ?_, ?_⟩
          · exact encodeOneByOne_spends _ []
          · rw [encodeTotal, if_neg (by simp), Nat.two_mul]
            rfl

/-- Whatever the engine replies, the texts it was given, with those of the
call under way, are within the total of the encode, and make it up once the
encode is over. -/
theorem isolating_spent {jobs : List EmbeddingJob} {inputType : InputType}
    {normalize : Bool} (sharing : Sharing inputType normalize jobs)
    {calls : List (EncodeCall × EngineReply)}
    {after : EncodeProgram (List Outcome)}
    (run : Run Exchanges (encodeJobsIsolatingFailures engine workerId jobs)
      calls after) :
    spent EncodeCall.size calls + underWay EncodeCall.size after ≤
        encodeTotal jobs calls ∧
      (after.request? = none →
        spent EncodeCall.size calls = encodeTotal jobs calls) := by
  cases jobs with
  | nil =>
      have spends : Spends EncodeCall.size
          (encodeJobsIsolatingFailures engine workerId []) 0 :=
        rfl
      obtain ⟨left, leftSpends, balance⟩ := spends.run run
      have underWay := leftSpends.underWay_le
      have total : encodeTotal [] calls = 0 := by
        unfold encodeTotal
        split <;> rfl
      exact ⟨by omega, fun _ => by omega⟩
  | cons first rest =>
      obtain ⟨firstType, firstNormalize⟩ :=
        sharing first List.mem_cons_self
      rw [← firstType, ← firstNormalize] at sharing
      cases calls with
      | nil =>
          rw [← run.eq_of_nil, encodeJobsIsolatingFailures,
            encodeJobs_call sharing]
          refine ⟨Nat.le_of_eq (Nat.zero_add _), ?_⟩
          intro noCall
          cases noCall
      | cons exchange later =>
          obtain ⟨middle, taken, rest⟩ := run.uncons
          obtain ⟨left, spends, total⟩ :=
            isolating_resumes sharing taken later
          obtain ⟨remaining, remains, balance⟩ := spends.run rest
          have underWay := remains.underWay_le
          rw [total, spent_cons]
          refine ⟨by omega, fun noCall => ?_⟩
          have nothing := remains.of_noCall noCall
          omega

end Programs

end EmbeddingService
