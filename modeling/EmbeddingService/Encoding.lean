import Mathlib.Data.List.Forall2
import EmbeddingService.Handler

/-!
# What an encode gives each job

Whatever the engine replies, every job of a batch gets one outcome, and a
result goes to the job whose texts it belongs to: after a combined encode as
after a retry one by one.
-/

namespace EmbeddingService

/-- An outcome that is a result is one that the job may get. -/
def GoodOutcome (Good : EmbeddingJob → EmbeddingResult → Prop)
    (job : EmbeddingJob) (outcome : Outcome) : Prop :=
  ∀ result, outcome = .ok result → Good job result

/-- `Good` holds of what the split of an allowed encode gives each of its
jobs. -/
def SplitsGood (engine : EngineInfo) (workerId : Option PyStr)
    (Allowed : EncodeCall → EngineReply → Prop)
    (Good : EmbeddingJob → EmbeddingResult → Prop) : Prop :=
  ∀ (first : EmbeddingJob) (rest : List EmbeddingJob)
    (encoded : EncodeResult),
    (∀ job ∈ first :: rest, job.inputType = first.inputType ∧
      job.normalize = first.normalize) →
    Allowed (combinedCall first rest) (.ok encoded) →
    List.Forall₂ Good (first :: rest)
      (splitResults engine workerId (combinedCall first rest) encoded 0
        (first :: rest))

/-- `Fits` holds of what each job gets: of its part of a combined encode, and
of the failure of an encode of its own. -/
structure EncodesFit (engine : EngineInfo) (workerId : Option PyStr)
    (Allowed : EncodeCall → EngineReply → Prop)
    (Fits : EmbeddingJob → Outcome → Prop) : Prop where
  split : SplitsGood engine workerId Allowed
    (fun job result => Fits job (.ok result))
  failure : ∀ job raised, Allowed (combinedCall job []) (.error raised) →
    Fits job (.error raised)

section Programs

variable {engine : EngineInfo} {workerId : Option PyStr}
  {Allowed : EncodeCall → EngineReply → Prop}
  {Good : EmbeddingJob → EmbeddingResult → Prop}
  {Fits : EmbeddingJob → Outcome → Prop}

theorem encodeJobs_ensures
    (splits : SplitsGood engine workerId Allowed Good)
    (jobs : List EmbeddingJob) :
    (encodeJobs engine workerId jobs).Ensures Allowed (fun encoded =>
      ∀ results, encoded = .ok results →
        List.Forall₂ Good jobs results) := by
  cases jobs with
  | nil =>
      intro results returned
      cases returned
      exact List.Forall₂.nil
  | cons first rest =>
      rw [encodeJobs]
      split
      · intro results returned
        cases returned
      · next mixed =>
          have sharing : ∀ job ∈ first :: rest,
              job.inputType = first.inputType ∧
                job.normalize = first.normalize := by
            simpa using mixed
          intro reply allowed
          cases reply with
          | error raised =>
              intro results returned
              cases returned
          | ok encoded =>
              intro results returned
              cases returned
              exact splits first rest encoded sharing allowed

theorem fits_ok {jobs : List EmbeddingJob} {results : List EmbeddingResult}
    (fits : List.Forall₂ (fun job result => Fits job (.ok result)) jobs
      results) :
    List.Forall₂ Fits jobs (results.map Except.ok) :=
  List.forall₂_map_right_iff.mpr fits

/-- A job that is encoded alone gets its part or the failure. -/
theorem encodeJobs_alone_ensures
    (fits : EncodesFit engine workerId Allowed Fits) (job : EmbeddingJob) :
    (encodeJobs engine workerId [job]).Ensures Allowed (fun encoded =>
      match encoded with
      | .ok results => List.Forall₂ Fits [job] (results.map Except.ok)
      | .error raised => Fits job (.error raised)) := by
  have unmixed : [job].any (fun other =>
      other.inputType != job.inputType ||
        other.normalize != job.normalize) = false := by
    simp
  have sharing : ∀ other ∈ [job], other.inputType = job.inputType ∧
      other.normalize = job.normalize := by
    simp
  rw [encodeJobs, unmixed]
  intro reply allowed
  cases reply with
  | error raised =>
      exact fits.failure job raised allowed
  | ok encoded =>
      exact fits_ok (fits.split job [] encoded sharing allowed)

/-- The retry loop adds one outcome for each job. -/
theorem encodeOneByOne_ensures
    (fits : EncodesFit engine workerId Allowed Fits)
    (jobs : List EmbeddingJob) :
    ∀ (before : List EmbeddingJob) (outcomes : List Outcome),
      List.Forall₂ Fits before outcomes →
      (encodeOneByOne engine workerId outcomes jobs).Ensures Allowed
        (List.Forall₂ Fits (before ++ jobs)) := by
  induction jobs with
  | nil =>
      intro before outcomes good
      rw [List.append_nil]
      exact good
  | cons job rest inductionHypothesis =>
      intro before outcomes good
      have shifted : before ++ job :: rest = (before ++ [job]) ++ rest := by
        simp
      rw [shifted]
      unfold encodeOneByOne
      refine (encodeJobs_alone_ensures fits job).andThen ?_
      intro encoded gets
      cases encoded with
      | ok results =>
          exact inductionHypothesis (before ++ [job]) _
            (List.rel_append good gets)
      | error raised =>
          exact inductionHypothesis (before ++ [job]) _
            (List.rel_append good
              (List.Forall₂.cons gets List.Forall₂.nil))

/-- Every job of a batch gets one outcome, which fits it. -/
theorem encodeJobsIsolatingFailures_fits
    (fits : EncodesFit engine workerId Allowed Fits)
    (jobs : List EmbeddingJob) :
    (encodeJobsIsolatingFailures engine workerId jobs).Ensures Allowed
      (List.Forall₂ Fits jobs) := by
  by_cases single : jobs.length = 1
  · obtain ⟨job, jobs⟩ := List.length_eq_one_iff.mp single
    rw [jobs]
    refine (encodeJobs_alone_ensures fits job).andThen ?_
    intro encoded gets
    cases encoded with
    | ok results =>
        exact gets
    | error raised =>
        exact List.Forall₂.cons gets List.Forall₂.nil
  · refine (encodeJobs_ensures fits.split jobs).andThen ?_
    intro encoded results
    cases encoded with
    | ok encodedResults =>
        exact fits_ok (results encodedResults rfl)
    | error raised =>
        dsimp only
        rw [if_neg single]
        exact encodeOneByOne_ensures fits jobs [] [] List.Forall₂.nil

theorem goodOutcome_ok {job : EmbeddingJob} {result : EmbeddingResult}
    (good : Good job result) : GoodOutcome Good job (.ok result) := by
  intro other same
  cases same
  exact good

theorem goodOutcome_error (job : EmbeddingJob) (raised : PyException) :
    GoodOutcome Good job (.error raised) := by
  intro result same
  cases same

theorem encodesFit_good
    (splits : SplitsGood engine workerId Allowed Good) :
    EncodesFit engine workerId Allowed (GoodOutcome Good) where
  split := fun first rest encoded sharing allowed =>
    (splits first rest encoded sharing allowed).imp
      (fun _ _ => goodOutcome_ok)
  failure := fun job raised _ => goodOutcome_error job raised

/-- What a result repeats of its job, whatever the engine replied. -/
def Attributed (job : EmbeddingJob) (result : EmbeddingResult) : Prop :=
  result.jobId = job.jobId ∧ result.metadata = job.metadata ∧
    result.status = .ok ∧ result.count = job.input.length

theorem splitResults_attributed (request : EncodeCall)
    (encoded : EncodeResult) (jobs : List EmbeddingJob) :
    ∀ offset, List.Forall₂ Attributed jobs
      (splitResults engine workerId request encoded offset jobs) := by
  induction jobs with
  | nil =>
      intro offset
      exact List.Forall₂.nil
  | cons job rest inductionHypothesis =>
      intro offset
      exact List.Forall₂.cons ⟨rfl, rfl, rfl, rfl⟩
        (inductionHypothesis _)

/-- Results are attributed to their jobs under any engine. -/
theorem splitsGood_attributed (Allowed : EncodeCall → EngineReply → Prop) :
    SplitsGood engine workerId Allowed Attributed :=
  fun first rest encoded _ _ =>
    splitResults_attributed (combinedCall first rest) encoded
      (first :: rest) 0

end Programs

section Pointwise

/-- The vector the engine gives a text under a type and a flag. -/
abbrev Vectors := InputType → Bool → PyStr → List PyFloat

/-- What an engine that maps texts to vectors pointwise may reply; it may
raise on any call. -/
def Pointwise (vectors : Vectors) (request : EncodeCall) :
    EngineReply → Prop
  | .error _ => True
  | .ok encoded =>
      encoded.embeddings =
          request.texts.map (vectors request.inputType request.normalize) ∧
        encoded.truncated.length = request.texts.length

/-- A result holds exactly the vectors of its job's texts. -/
structure Answers (vectors : Vectors) (job : EmbeddingJob)
    (result : EmbeddingResult) : Prop where
  attributed : Attributed job result
  embeddings : result.embeddings =
    job.input.map (vectors job.inputType job.normalize)
  truncated : result.truncated.length = job.input.length
  inputType : result.inputType = some job.inputType
  normalized : result.normalized = some job.normalize

theorem slice_append {Value : Type} (before middle after : List Value) :
    slice (before ++ (middle ++ after)) before.length
      (before.length + middle.length) = middle := by
  simp [slice, List.take_append]

theorem length_slice {Value : Type} {values : List Value}
    {start size : Nat} (within : start + size ≤ values.length) :
    (slice values start (start + size)).length = size := by
  simp only [slice, List.length_drop, List.length_take]
  omega

/-- The results that hold the part of an encode which belongs to the texts of
their job, whatever the texts before and after it are. -/
inductive OwnPart (engine : EngineInfo)
    (Allowed : EncodeCall → EngineReply → Prop) (job : EmbeddingJob) :
    EmbeddingResult → Prop
  | encoded {workerId : Option PyStr} {before after : List PyStr}
      {request : EncodeCall} {encoded : EncodeResult}
      (texts : request.texts = before ++ (job.input ++ after))
      (inputType : job.inputType = request.inputType)
      (normalize : job.normalize = request.normalize)
      (replied : Allowed request (.ok encoded)) :
      OwnPart engine Allowed job
        (jobResult engine workerId request encoded before.length job)

variable {engine : EngineInfo} {workerId : Option PyStr}
  {Allowed : EncodeCall → EngineReply → Prop} {vectors : Vectors}

/-- The split starts at the texts of the jobs before, and gives each job the
part of its own texts. -/
theorem splitResults_ownPart {request : EncodeCall}
    {encoded : EncodeResult} (replied : Allowed request (.ok encoded))
    (jobs : List EmbeddingJob) :
    ∀ earlier : List PyStr, request.texts = earlier ++ allTexts jobs →
      (∀ job ∈ jobs, job.inputType = request.inputType ∧
        job.normalize = request.normalize) →
      List.Forall₂ (OwnPart engine Allowed) jobs
        (splitResults engine workerId request encoded earlier.length
          jobs) := by
  induction jobs with
  | nil =>
      intro earlier texts sharing
      exact List.Forall₂.nil
  | cons job rest inductionHypothesis =>
      intro earlier texts sharing
      have split : request.texts = earlier ++ (job.input ++ allTexts rest) :=
        texts
      obtain ⟨sameType, sameNormalize⟩ := sharing job List.mem_cons_self
      refine List.Forall₂.cons
        (.encoded split sameType sameNormalize replied) ?_
      have continued := inductionHypothesis (earlier ++ job.input)
        (by rw [split, List.append_assoc])
        (fun other member => sharing other (List.mem_cons_of_mem _ member))
      rw [List.length_append] at continued
      exact continued

/-- Every job gets its own part of an encode. -/
theorem splitsGood_ownPart :
    SplitsGood engine workerId Allowed (OwnPart engine Allowed) :=
  fun first rest _ sharing replied =>
    splitResults_ownPart replied (first :: rest) [] rfl sharing

/-- Under a pointwise engine the part of a job is the vectors of its texts. -/
theorem OwnPart.answers {job : EmbeddingJob} {result : EmbeddingResult}
    (own : OwnPart engine (Pointwise vectors) job result) :
    Answers vectors job result := by
  obtain @⟨_, before, after, request, encoded, texts, sameType,
    sameNormalize, embeddings, truncated⟩ := own
  exact
    { attributed := ⟨rfl, rfl, rfl, rfl⟩
      embeddings := by
        have sliced := slice_append
          (before.map (vectors request.inputType request.normalize))
          (job.input.map (vectors request.inputType request.normalize))
          (after.map (vectors request.inputType request.normalize))
        rw [sameType, sameNormalize]
        simpa [jobResult, embeddings, texts] using sliced
      truncated := by
        apply length_slice
        rw [truncated, texts]
        simp only [List.length_append]
        omega
      inputType := congrArg some sameType.symm
      normalized := congrArg some sameNormalize.symm }

/-- Under a pointwise engine every job gets its own vectors. -/
theorem splitsGood_answers :
    SplitsGood engine workerId (Pointwise vectors) (Answers vectors) :=
  fun first rest encoded sharing replied =>
    (splitsGood_ownPart first rest encoded sharing replied).imp
      (fun _ _ => OwnPart.answers)

end Pointwise

section Poison

variable {engine : EngineInfo} {workerId : Option PyStr}
  {Allowed : EncodeCall → EngineReply → Prop} {Poison : PyStr → Prop}
  {job : EmbeddingJob}

/-- The engine raises on exactly the texts that contain a poison text. -/
def RaisesExactlyOn (Poison : PyStr → Prop)
    (Allowed : EncodeCall → EngineReply → Prop) : Prop :=
  ∀ request reply, Allowed request reply →
    ((∃ raised, reply = .error raised) ↔ ∃ text ∈ request.texts, Poison text)

def EmbeddingJob.Poisoned (Poison : PyStr → Prop) (job : EmbeddingJob) :
    Prop :=
  ∃ text ∈ job.input, Poison text

/-- What a job gets of an engine that raises on poison: the others in its
batch make no difference. -/
def Verdict (engine : EngineInfo)
    (Allowed : EncodeCall → EngineReply → Prop) (Poison : PyStr → Prop)
    (job : EmbeddingJob) : Outcome → Prop
  | .ok result => OwnPart engine Allowed job result
  | .error _ => job.Poisoned Poison

/-- A job that got vectors holds no poison. -/
theorem OwnPart.healthy (raises : RaisesExactlyOn Poison Allowed)
    {result : EmbeddingResult}
    (own : OwnPart engine Allowed job result) :
    ¬ job.Poisoned Poison := by
  rintro ⟨text, member, poison⟩
  obtain @⟨_, before, after, request, encoded, texts, _, _, replied⟩ := own
  have inside : text ∈ request.texts := by
    rw [texts]
    exact List.mem_append_right _ (List.mem_append_left _ member)
  obtain ⟨raised, failed⟩ := (raises _ _ replied).mpr ⟨text, inside, poison⟩
  cases failed

theorem encodesFit_verdict (raises : RaisesExactlyOn Poison Allowed) :
    EncodesFit engine workerId Allowed (Verdict engine Allowed Poison) where
  split := splitsGood_ownPart
  failure := by
    intro job raised replied
    obtain ⟨text, member, poison⟩ := (raises _ _ replied).mp ⟨raised, rfl⟩
    have own : text ∈ job.input := by
      simpa [combinedCall, allTexts] using member
    exact ⟨text, own, poison⟩

end Poison

end EmbeddingService
