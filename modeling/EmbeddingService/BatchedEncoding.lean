import EmbeddingService.Encoding

/-!
# One encode for many jobs

The combined encode is cut apart at the offsets of the jobs, and a failed one
is retried job by job.  Both ways the outcomes stand in the order of the jobs,
and with a pointwise engine they are those of encoding every job on its own.
-/

namespace EmbeddingService

/-- An engine that returns as many vectors and flags as it was given texts, or
raises. -/
def Sized (request : EncodeCall) : EngineReply → Prop
  | .error _ => True
  | .ok encoded =>
      encoded.embeddings.length = request.texts.length ∧
        encoded.truncated.length = request.texts.length

/-- Whether jobs can share one encode. -/
def Sharing (inputType : InputType) (normalize : Bool)
    (jobs : List EmbeddingJob) : Prop :=
  ∀ job ∈ jobs, job.inputType = inputType ∧ job.normalize = normalize

/-- What the jobs of a combined encode get. -/
def combinedResults (engine : EngineInfo) (workerId : Option PyStr)
    (first : EmbeddingJob) (rest : List EmbeddingJob) :
    EngineReply → Except PyException (List EmbeddingResult)
  | .error raised => .error raised
  | .ok encoded =>
      .ok (splitResults engine workerId (combinedCall first rest) encoded 0
        (first :: rest))

/-- What a job gets from an encode of its own. -/
def singleOutcome (engine : EngineInfo) (workerId : Option PyStr)
    (job : EmbeddingJob) : EngineReply → Outcome
  | .error raised => .error raised
  | .ok encoded =>
      .ok (jobResult engine workerId (combinedCall job []) encoded 0 job)

section Runs

variable {engine : EngineInfo} {workerId : Option PyStr}
  {replies : Nat → EncodeCall → EngineReply}

/-- Jobs that share the first one's key are encoded by one call. -/
theorem encodeJobs_call {first : EmbeddingJob} {rest : List EmbeddingJob}
    (sharing : Sharing first.inputType first.normalize (first :: rest)) :
    encodeJobs engine workerId (first :: rest) =
      .call (combinedCall first rest) (fun reply =>
        .done (combinedResults engine workerId first rest reply)) := by
  have unmixed : (first :: rest).any (fun job =>
      job.inputType != first.inputType ||
        job.normalize != first.normalize) = false := by
    rw [List.any_eq_false]
    intro job member
    obtain ⟨sameType, sameNormalize⟩ := sharing job member
    simp [sameType, sameNormalize]
  have resumes : (fun reply : EngineReply =>
      match reply with
      | .error raised => .done (.error raised)
      | .ok encoded =>
          .done (.ok (splitResults engine workerId
            (combinedCall first rest) encoded 0 (first :: rest)))) =
        fun reply => (.done (combinedResults engine workerId first rest
          reply) : EncodeProgram (Except PyException
            (List EmbeddingResult))) := by
    funext reply
    cases reply <;> rfl
  rw [encodeJobs, unmixed, ← resumes]
  rfl

theorem sharing_single (job : EmbeddingJob) :
    Sharing job.inputType job.normalize [job] := by
  intro other member
  rw [List.mem_singleton.mp member]
  exact ⟨rfl, rfl⟩

theorem encodeJobs_sharing {first : EmbeddingJob}
    {rest : List EmbeddingJob}
    (sharing : Sharing first.inputType first.normalize (first :: rest))
    (number : Nat) :
    (encodeJobs engine workerId (first :: rest)).runFrom replies number =
      ([(combinedCall first rest,
          replies number (combinedCall first rest))],
        combinedResults engine workerId first rest
          (replies number (combinedCall first rest))) := by
  rw [encodeJobs_call sharing]
  rfl

/-- Jobs that do not share their first one's key are refused without a
call. -/
theorem encodeJobs_mixed {first : EmbeddingJob} {rest : List EmbeddingJob}
    (mixed : ¬ Sharing first.inputType first.normalize (first :: rest))
    (number : Nat) :
    ∃ raised,
      (encodeJobs engine workerId (first :: rest)).runFrom replies number =
        ([], .error raised) := by
  have different : (first :: rest).any (fun job =>
      job.inputType != first.inputType ||
        job.normalize != first.normalize) = true := by
    by_contra unmixed
    rw [Bool.not_eq_true] at unmixed
    refine mixed (fun job member => ?_)
    simpa using List.any_eq_false.mp unmixed job member
  rw [encodeJobs, if_pos different]
  exact ⟨_, rfl⟩

theorem encodeJobs_single (job : EmbeddingJob) (number : Nat) :
    (encodeJobs engine workerId [job]).runFrom replies number =
      ([(combinedCall job [], replies number (combinedCall job []))],
        combinedResults engine workerId job []
          (replies number (combinedCall job []))) :=
  encodeJobs_sharing (sharing_single job) number

/-- The retry loop makes one call for each job, in order. -/
theorem encodeOneByOne_runFrom (jobs : List EmbeddingJob) :
    ∀ outcomes number,
      (encodeOneByOne engine workerId outcomes jobs).runFrom replies
          number =
        (jobs.mapIdx (fun position job =>
            (combinedCall job [],
              replies (number + position) (combinedCall job []))),
          outcomes ++ jobs.mapIdx (fun position job =>
            singleOutcome engine workerId job
              (replies (number + position) (combinedCall job [])))) := by
  induction jobs with
  | nil =>
      intro outcomes number
      simp [encodeOneByOne, CallProgram.runFrom]
  | cons job rest inductionHypothesis =>
      intro outcomes number
      rw [encodeOneByOne, CallProgram.runFrom_andThen, encodeJobs_single]
      simp only [List.mapIdx_cons, Nat.add_zero]
      cases reply : replies number (combinedCall job []) with
      | error raised =>
          simp [combinedResults, singleOutcome, inductionHypothesis,
            Nat.add_assoc, Nat.add_comm 1]
      | ok encoded =>
          simp [combinedResults, singleOutcome, splitResults,
            inductionHypothesis, Nat.add_assoc, Nat.add_comm 1]

/-- The texts of a batch are those of the jobs before one of its jobs, those
of the job, and those of the jobs after it. -/
theorem allTexts_split {jobs : List EmbeddingJob} {position : Nat}
    {job : EmbeddingJob} (found : jobs[position]? = some job) :
    allTexts jobs =
      allTexts (jobs.take position) ++ job.input ++
        allTexts (jobs.drop (position + 1)) := by
  have split : jobs =
      jobs.take position ++ job :: jobs.drop (position + 1) := by
    obtain ⟨inside, same⟩ := List.getElem?_eq_some_iff.mp found
    rw [← same, List.getElem_cons_drop, List.take_append_drop]
  calc
    allTexts jobs =
        allTexts (jobs.take position ++ job :: jobs.drop (position + 1)) :=
      congrArg allTexts split
    _ = allTexts (jobs.take position) ++ job.input ++
        allTexts (jobs.drop (position + 1)) := by
      simp [allTexts]

theorem splitResults_getElem? (request : EncodeCall)
    (encoded : EncodeResult) (jobs : List EmbeddingJob) :
    ∀ (offset : Nat) {position : Nat} {job : EmbeddingJob},
      jobs[position]? = some job →
        (splitResults engine workerId request encoded offset
            jobs)[position]? =
          some (jobResult engine workerId request encoded
            (offset + (allTexts (jobs.take position)).length) job) := by
  induction jobs with
  | nil =>
      intro offset position job found
      simp at found
  | cons head rest inductionHypothesis =>
      intro offset position job found
      cases position with
      | zero =>
          cases found
          simp [splitResults, allTexts]
      | succ earlier =>
          have later :=
            inductionHypothesis (offset + head.input.length) found
          rw [splitResults, List.getElem?_cons_succ, later]
          simp [allTexts, Nat.add_assoc]

/-- A slice lies between what is before and after it. -/
theorem slice_split {Value : Type} (values : List Value)
    (start size : Nat) :
    values = values.take start ++ slice values start (start + size) ++
      values.drop (start + size) := by
  have before : values.take start ++ slice values start (start + size) =
      values.take (start + size) := by
    have shorter : values.take start =
        (values.take (start + size)).take start := by
      rw [List.take_take, Nat.min_eq_left (Nat.le_add_right start size)]
    rw [slice, shorter, List.take_append_drop]
  rw [before, List.take_append_drop]

end Runs

/-- Why the job at `position` of a batch got its outcome, from the calls that
were made: the vectors at the place of its texts in the one call for all, or
what the last but `jobs.length - position` call, with its texts alone,
returned or raised. -/
inductive Explained (calls : List (EncodeCall × EngineReply))
    (jobs : List EmbeddingJob) (position : Nat) (job : EmbeddingJob) :
    Outcome → Prop
  | together {call : EncodeCall} {encoded : EncodeResult}
      {result : EmbeddingResult}
      {vectorsBefore vectorsAfter : List (List PyFloat)}
      {flagsBefore flagsAfter : List Bool}
      (called : calls = [(call, .ok encoded)])
      (texts : call.texts = allTexts jobs)
      (inputType : call.inputType = job.inputType)
      (normalize : call.normalize = job.normalize)
      (attributed : Attributed job result)
      (vectors : encoded.embeddings =
        vectorsBefore ++ result.embeddings ++ vectorsAfter)
      (vectorsPlace : vectorsBefore.length =
        (allTexts (jobs.take position)).length)
      (vectorsSize : result.embeddings.length = job.input.length)
      (flags : encoded.truncated =
        flagsBefore ++ result.truncated ++ flagsAfter)
      (flagsPlace : flagsBefore.length =
        (allTexts (jobs.take position)).length)
      (flagsSize : result.truncated.length = job.input.length) :
      Explained calls jobs position job (.ok result)
  | alone {call : EncodeCall} {encoded : EncodeResult}
      {result : EmbeddingResult}
      (called : calls[calls.length - jobs.length + position]? =
        some (call, .ok encoded))
      (texts : call.texts = job.input)
      (inputType : call.inputType = job.inputType)
      (normalize : call.normalize = job.normalize)
      (attributed : Attributed job result)
      (vectors : result.embeddings = encoded.embeddings)
      (flags : result.truncated = encoded.truncated) :
      Explained calls jobs position job (.ok result)
  | raised {call : EncodeCall} {raised : PyException}
      (called : calls[calls.length - jobs.length + position]? =
        some (call, .error raised))
      (texts : call.texts = job.input)
      (inputType : call.inputType = job.inputType)
      (normalize : call.normalize = job.normalize) :
      Explained calls jobs position job (.error raised)

section Outcomes

variable {engine : EngineInfo} {workerId : Option PyStr}
  {replies : Nat → EncodeCall → EngineReply}

/-- A combined encode explains what each of its jobs gets. -/
theorem explained_together {jobs : List EmbeddingJob} {position : Nat}
    {job : EmbeddingJob} {call : EncodeCall} {encoded : EncodeResult}
    (found : jobs[position]? = some job)
    (texts : call.texts = allTexts jobs)
    (sharing : Sharing call.inputType call.normalize jobs)
    (sized : Sized call (.ok encoded)) :
    Explained [(call, .ok encoded)] jobs position job
      (.ok (jobResult engine workerId call encoded
        (allTexts (jobs.take position)).length job)) := by
  obtain ⟨vectorsSized, flagsSized⟩ := sized
  obtain ⟨sameType, sameNormalize⟩ :=
    sharing job (List.mem_of_getElem? found)
  have within : (allTexts (jobs.take position)).length +
      job.input.length ≤ call.texts.length := by
    rw [texts, allTexts_split found]
    simp
  rw [← vectorsSized] at within
  have flagsWithin := within
  rw [vectorsSized, ← flagsSized] at flagsWithin
  have vectorsBefore : (allTexts (jobs.take position)).length ≤
      encoded.embeddings.length := by
    omega
  have flagsBefore : (allTexts (jobs.take position)).length ≤
      encoded.truncated.length := by
    omega
  exact .together rfl texts sameType.symm sameNormalize.symm
    ⟨rfl, rfl, rfl, rfl⟩ (slice_split _ _ _)
    (List.length_take_of_le vectorsBefore) (length_slice within)
    (slice_split _ _ _) (List.length_take_of_le flagsBefore)
    (length_slice flagsWithin)

/-- An encode of one job explains what the job gets. -/
theorem explained_alone {calls : List (EncodeCall × EngineReply)}
    {jobs : List EmbeddingJob} {position : Nat} {job : EmbeddingJob}
    {reply : EngineReply}
    (called : calls[calls.length - jobs.length + position]? =
      some (combinedCall job [], reply))
    (sized : Sized (combinedCall job []) reply) :
    Explained calls jobs position job
      (singleOutcome engine workerId job reply) := by
  have texts : (combinedCall job []).texts = job.input := by
    simp [combinedCall, allTexts]
  cases reply with
  | error raised =>
      exact .raised called texts rfl rfl
  | ok encoded =>
      obtain ⟨vectorsSized, flagsSized⟩ := sized
      rw [texts] at vectorsSized flagsSized
      refine .alone called texts rfl rfl ⟨rfl, rfl, rfl, rfl⟩ ?_ ?_
      · simp [jobResult, slice, ← vectorsSized]
      · simp [jobResult, slice, ← flagsSized]

/-- After a retry, the calls of the jobs are the last ones, in order. -/
theorem explained_retried (before : List (EncodeCall × EngineReply))
    (number : Nat) {jobs : List EmbeddingJob} {position : Nat}
    {job : EmbeddingJob} (found : jobs[position]? = some job)
    (sized : ∀ number call, Sized call (replies number call)) :
    Explained
      (before ++ jobs.mapIdx (fun position job =>
        (combinedCall job [],
          replies (number + position) (combinedCall job []))))
      jobs position job
      (singleOutcome engine workerId job
        (replies (number + position) (combinedCall job []))) := by
  refine explained_alone ?_ (sized _ _)
  have place : (before ++ jobs.mapIdx (fun position job =>
      (combinedCall job [],
        replies (number + position) (combinedCall job [])))).length -
          jobs.length + position = before.length + position := by
    rw [List.length_append, List.length_mapIdx]
    omega
  rw [place, List.getElem?_append_right (Nat.le_add_right _ _),
    Nat.add_sub_cancel_left, List.getElem?_mapIdx, found]
  rfl

/-- The three ways a batch is encoded: together, as a single job that fails,
or one by one after a combined attempt that made at most one call. -/
theorem isolating_cases (engine : EngineInfo) (workerId : Option PyStr)
    (replies : Nat → EncodeCall → EngineReply) (first : EmbeddingJob)
    (rest : List EmbeddingJob) :
    let jobs := first :: rest
    let run :=
      (encodeJobsIsolatingFailures engine workerId jobs).runFrom replies 0
    (∃ encoded, replies 0 (combinedCall first rest) = .ok encoded ∧
      Sharing first.inputType first.normalize jobs ∧
      run = ([(combinedCall first rest, .ok encoded)],
        (splitResults engine workerId (combinedCall first rest) encoded 0
          jobs).map Except.ok)) ∨
    (∃ raised, replies 0 (combinedCall first rest) = .error raised ∧
      rest = [] ∧
      run = ([(combinedCall first rest, .error raised)],
        [.error raised])) ∨
    ∃ before number,
      run = (before ++ jobs.mapIdx (fun position job =>
          (combinedCall job [],
            replies (number + position) (combinedCall job []))),
        jobs.mapIdx (fun position job =>
          singleOutcome engine workerId job
            (replies (number + position) (combinedCall job [])))) := by
  intro jobs run
  by_cases sharing : Sharing first.inputType first.normalize jobs
  · cases reply : replies 0 (combinedCall first rest) with
    | ok encoded =>
        refine Or.inl ⟨encoded, rfl, sharing, ?_⟩
        simp [run, jobs, encodeJobsIsolatingFailures,
          CallProgram.runFrom_andThen, encodeJobs_sharing sharing, reply,
          combinedResults, CallProgram.runFrom]
    | error raised =>
        by_cases single : rest = []
        · subst single
          refine Or.inr (Or.inl ⟨raised, rfl, rfl, ?_⟩)
          simp [run, jobs, encodeJobsIsolatingFailures,
            CallProgram.runFrom_andThen, encodeJobs_single, reply,
            combinedResults, CallProgram.runFrom]
        · refine Or.inr (Or.inr
            ⟨[(combinedCall first rest, .error raised)], 1, ?_⟩)
          simp [run, jobs, encodeJobsIsolatingFailures,
            CallProgram.runFrom_andThen, encodeJobs_sharing sharing, reply,
            combinedResults, single, encodeOneByOne_runFrom]
  · have several : rest ≠ [] := by
      intro single
      subst single
      exact sharing (sharing_single first)
    obtain ⟨raised, refused⟩ :=
      @encodeJobs_mixed engine workerId replies _ _ sharing 0
    refine Or.inr (Or.inr ⟨[], 0, ?_⟩)
    simp [run, jobs, encodeJobsIsolatingFailures,
      CallProgram.runFrom_andThen, refused, several, encodeOneByOne_runFrom]

end Outcomes

/-- Whatever the engine does on each call, every job has one outcome, in
order, which the calls that were made explain. -/
theorem outcomesAligned (engine : EngineInfo) (workerId : Option PyStr)
    (replies : Nat → EncodeCall → EngineReply)
    (sized : ∀ number call, Sized call (replies number call))
    (jobs : List EmbeddingJob) :
    let run :=
      (encodeJobsIsolatingFailures engine workerId jobs).runFrom replies 0
    run.2.length = jobs.length ∧
      ∀ position job, jobs[position]? = some job →
        ∃ outcome, run.2[position]? = some outcome ∧
          Explained run.1 jobs position job outcome := by
  cases jobs with
  | nil =>
      exact ⟨rfl, by simp⟩
  | cons first rest =>
      dsimp only
      rcases isolating_cases engine workerId replies first rest with
        ⟨encoded, replied, sharing, made⟩ | ⟨raised, replied, rfl, made⟩ |
          ⟨before, number, made⟩
      · have sizedReply := sized 0 (combinedCall first rest)
        rw [replied] at sizedReply
        rw [made]
        constructor
        · rw [List.length_map]
          exact (splitResults_attributed _ encoded _ 0).length_eq.symm
        · intro position job found
          refine ⟨.ok (jobResult engine workerId (combinedCall first rest)
            encoded _ job), ?_,
            explained_together found rfl sharing sizedReply⟩
          rw [List.getElem?_map, splitResults_getElem? _ _ _ 0 found,
            Nat.zero_add]
          rfl
      · have sizedReply := sized 0 (combinedCall first [])
        rw [replied] at sizedReply
        rw [made]
        refine ⟨rfl, ?_⟩
        intro position job found
        obtain ⟨inside, same⟩ := List.getElem?_eq_some_iff.mp found
        have start : position = 0 := Nat.lt_one_iff.mp inside
        subst start
        cases same
        exact ⟨singleOutcome engine workerId first (.error raised), rfl,
          explained_alone rfl sizedReply⟩
      · rw [made]
        refine ⟨List.length_mapIdx, ?_⟩
        intro position job found
        refine ⟨singleOutcome engine workerId job
          (replies (number + position) (combinedCall job [])), ?_,
          explained_retried before number found sized⟩
        rw [List.getElem?_mapIdx, found]
        rfl

/-- An engine that raises on the lists with a poison text and encodes the
others text by text. -/
def poisonReply (poison : PyStr → Bool) (vectors : Vectors)
    (request : EncodeCall) : EngineReply :=
  if request.texts.any poison then
    .error ⟨pyStr "poison"⟩
  else
    .ok
      { embeddings :=
          request.texts.map (vectors request.inputType request.normalize)
        truncated := request.texts.map (fun _ => false)
        tookMs := .zero }

theorem poisonReply_sized (poison : PyStr → Bool) (vectors : Vectors)
    (request : EncodeCall) :
    Sized request (poisonReply poison vectors request) := by
  unfold poisonReply
  split
  · exact trivial
  · exact ⟨List.length_map _, List.length_map _⟩

/-- A batch of two of which one breaks the encode. -/
theorem outcomesAligned_retried :
    let jobs : List EmbeddingJob :=
      [{ input := [pyStr "text"], jobId := pyStr "first" },
        { input := [pyStr "poison"], jobId := pyStr "second" }]
    let run :=
      (encodeJobsIsolatingFailures { modelName := [], dimensions := 0 } none
        jobs).runFrom
          (fun _ => poisonReply (fun text => text == pyStr "poison")
            (fun _ _ _ => [])) 0
    (∃ result raised, run.2 = [.ok result, .error raised]) ∧
      ∀ position job, jobs[position]? = some job →
        ∃ outcome, run.2[position]? = some outcome ∧
          Explained run.1 jobs position job outcome :=
  ⟨⟨_, _, rfl⟩,
    (outcomesAligned _ _ _ (fun _ => poisonReply_sized _ _) _).2⟩

/-! ## Batched and single encodes -/

/-- An engine whose vector and flag for a text depend on the text, the type
and `normalize` alone. -/
structure PerText (encode : EncodeCall → EncodeResult) (vectors : Vectors)
    (flags : InputType → Bool → PyStr → Bool) : Prop where
  embeddings : ∀ call, (encode call).embeddings =
    call.texts.map (vectors call.inputType call.normalize)
  truncated : ∀ call, (encode call).truncated =
    call.texts.map (flags call.inputType call.normalize)

/-- A result without the fields that tell how it was encoded. -/
def EmbeddingResult.content (result : EmbeddingResult) : EmbeddingResult :=
  { result with tookMs := .zero, batchTexts := 0 }

/-- What a job gets from a `PerText` engine. -/
def ownContent (engine : EngineInfo) (workerId : Option PyStr)
    (vectors : Vectors) (flags : InputType → Bool → PyStr → Bool)
    (job : EmbeddingJob) : EmbeddingResult :=
  { jobId := job.jobId
    status := .ok
    modelName := some engine.modelName
    dimensions := some engine.dimensions
    inputType := some job.inputType
    normalized := some job.normalize
    count := job.input.length
    truncated := job.input.map (flags job.inputType job.normalize)
    embeddings := job.input.map (vectors job.inputType job.normalize)
    metadata := job.metadata
    workerId := workerId }

section PerText

variable {engine : EngineInfo} {workerId : Option PyStr}
  {encode : EncodeCall → EncodeResult} {vectors : Vectors}
  {flags : InputType → Bool → PyStr → Bool}

/-- The split starts at the texts of the jobs before, and gives each job its
own content. -/
theorem splitResults_content (perText : PerText encode vectors flags)
    (request : EncodeCall) (jobs : List EmbeddingJob) :
    ∀ earlier : List PyStr, request.texts = earlier ++ allTexts jobs →
      Sharing request.inputType request.normalize jobs →
        (splitResults engine workerId request (encode request)
            earlier.length jobs).map EmbeddingResult.content =
          jobs.map (ownContent engine workerId vectors flags) := by
  induction jobs with
  | nil =>
      intro earlier texts sharing
      rfl
  | cons job rest inductionHypothesis =>
      intro earlier texts sharing
      have split : request.texts = earlier ++ (job.input ++ allTexts rest) :=
        texts
      obtain ⟨sameType, sameNormalize⟩ := sharing job List.mem_cons_self
      have head : (jobResult engine workerId request (encode request)
          earlier.length job).content =
            ownContent engine workerId vectors flags job := by
        have vectorsSliced := slice_append
          (earlier.map (vectors request.inputType request.normalize))
          (job.input.map (vectors request.inputType request.normalize))
          ((allTexts rest).map
            (vectors request.inputType request.normalize))
        have flagsSliced := slice_append
          (earlier.map (flags request.inputType request.normalize))
          (job.input.map (flags request.inputType request.normalize))
          ((allTexts rest).map
            (flags request.inputType request.normalize))
        simp only [List.length_map, ← List.map_append, ← split]
          at vectorsSliced flagsSliced
        simp [EmbeddingResult.content, jobResult, ownContent,
          perText.embeddings, perText.truncated, sameType, sameNormalize,
          vectorsSliced, flagsSliced]
      have tail := inductionHypothesis (earlier ++ job.input)
        (by rw [split, List.append_assoc])
        (fun other member => sharing other (List.mem_cons_of_mem _ member))
      rw [List.length_append] at tail
      rw [splitResults, List.map_cons, List.map_cons, head, tail]

theorem encodeJobs_perText (perText : PerText encode vectors flags)
    {inputType : InputType} {normalize : Bool} {jobs : List EmbeddingJob}
    (sharing : Sharing inputType normalize jobs) :
    ∃ results,
      ((encodeJobs engine workerId jobs).runFrom
        (fun _ call => .ok (encode call)) 0).2 = .ok results ∧
      results.map EmbeddingResult.content =
        jobs.map (ownContent engine workerId vectors flags) := by
  cases jobs with
  | nil =>
      exact ⟨[], rfl, rfl⟩
  | cons first rest =>
      obtain ⟨firstType, firstNormalize⟩ :=
        sharing first List.mem_cons_self
      rw [← firstType, ← firstNormalize] at sharing
      rw [encodeJobs_sharing sharing]
      exact ⟨_, rfl,
        splitResults_content perText (combinedCall first rest)
          (first :: rest) [] rfl sharing⟩

theorem encodeJobs_alone (perText : PerText encode vectors flags)
    (jobs : List EmbeddingJob) :
    ∃ alone,
      List.Forall₂ (fun job own =>
        ((encodeJobs engine workerId [job]).runFrom
          (fun _ call => .ok (encode call)) 0).2 = .ok own) jobs alone ∧
      alone.flatten.map EmbeddingResult.content =
        jobs.map (ownContent engine workerId vectors flags) := by
  induction jobs with
  | nil =>
      exact ⟨[], List.Forall₂.nil, rfl⟩
  | cons job rest inductionHypothesis =>
      obtain ⟨alone, each, contents⟩ := inductionHypothesis
      obtain ⟨own, returned, content⟩ :=
        @encodeJobs_perText engine workerId _ _ _ perText _ _ _
          (sharing_single job)
      refine ⟨own :: alone, List.Forall₂.cons returned each, ?_⟩
      rw [List.flatten_cons, List.map_append, content, contents]
      rfl

/-- What the contents of some jobs hold together is what the shared key gives
all texts. -/
theorem flatMap_ownContent {Value : Type}
    {part : EmbeddingResult → List Value}
    {perJob : InputType → Bool → PyStr → Value}
    (own : ∀ job, part (ownContent engine workerId vectors flags job) =
      job.input.map (perJob job.inputType job.normalize))
    (same : ∀ result : EmbeddingResult, part result.content = part result)
    {inputType : InputType} {normalize : Bool} {jobs : List EmbeddingJob}
    (sharing : Sharing inputType normalize jobs)
    {results : List EmbeddingResult}
    (contents : results.map EmbeddingResult.content =
      jobs.map (ownContent engine workerId vectors flags)) :
    results.flatMap part =
      (allTexts jobs).map (perJob inputType normalize) := by
  calc
    results.flatMap part =
        (results.map EmbeddingResult.content).flatMap part := by
      simp [List.flatMap_map, same]
    _ = jobs.flatMap (fun job =>
          job.input.map (perJob job.inputType job.normalize)) := by
      rw [contents, List.flatMap_map]
      simp only [own]
    _ = jobs.flatMap (fun job =>
          job.input.map (perJob inputType normalize)) := by
      refine List.flatMap_congr (fun job member => ?_)
      obtain ⟨sameType, sameNormalize⟩ := sharing job member
      rw [sameType, sameNormalize]
    _ = (allTexts jobs).map (perJob inputType normalize) :=
      List.map_flatMap.symm

end PerText

/-- Encoding a batch is encoding its jobs one at a time, apart from the time
and the size of the batch, and the results together are what the engine gives
for all texts. -/
theorem batchedEncoding (engine : EngineInfo) (workerId : Option PyStr)
    (encode : EncodeCall → EncodeResult) (vectors : Vectors)
    (flags : InputType → Bool → PyStr → Bool)
    (perText : PerText encode vectors flags) (inputType : InputType)
    (normalize : Bool) (jobs : List EmbeddingJob)
    (sharing : Sharing inputType normalize jobs) :
    let encoded := fun jobs =>
      ((encodeJobs engine workerId jobs).runFrom
        (fun _ call => .ok (encode call)) 0).2
    let whole := encode
      { texts := allTexts jobs
        inputType := inputType
        normalize := normalize }
    ∃ results alone,
      encoded jobs = .ok results ∧
      List.Forall₂ (fun job own => encoded [job] = .ok own) jobs alone ∧
      results.map EmbeddingResult.content =
        alone.flatten.map EmbeddingResult.content ∧
      results.flatMap EmbeddingResult.embeddings = whole.embeddings ∧
      results.flatMap EmbeddingResult.truncated = whole.truncated := by
  obtain ⟨results, returned, contents⟩ :=
    @encodeJobs_perText engine workerId _ _ _ perText _ _ _ sharing
  obtain ⟨alone, each, aloneContents⟩ :=
    @encodeJobs_alone engine workerId _ _ _ perText jobs
  refine ⟨results, alone, returned, each,
    contents.trans aloneContents.symm, ?_, ?_⟩
  · rw [perText.embeddings]
    exact flatMap_ownContent (fun _ => rfl) (fun _ => rfl) sharing contents
  · rw [perText.truncated]
    exact flatMap_ownContent (fun _ => rfl) (fun _ => rfl) sharing contents

/-- A batch of two jobs of different sizes. -/
theorem batchedEncoding_two :
    let jobs : List EmbeddingJob :=
      [{ input := [pyStr "one"], jobId := pyStr "first" },
        { input := [pyStr "two", pyStr "three"], jobId := pyStr "second" }]
    let engine : EngineInfo := { modelName := [], dimensions := 0 }
    let encode := fun call : EncodeCall =>
      { embeddings := call.texts.map (fun text =>
          [PyFloat.finite false text.length 0])
        truncated := call.texts.map (fun text => decide (3 < text.length))
        tookMs := .zero : EncodeResult }
    ∃ results alone,
      ((encodeJobs engine none jobs).runFrom
        (fun _ call => .ok (encode call)) 0).2 = .ok results ∧
      List.Forall₂ (fun job own =>
        ((encodeJobs engine none [job]).runFrom
          (fun _ call => .ok (encode call)) 0).2 = .ok own) jobs alone ∧
      results.map EmbeddingResult.content =
        alone.flatten.map EmbeddingResult.content := by
  intro jobs engine encode
  have sharing : Sharing .passage true jobs := by
    simp [Sharing, jobs]
  obtain ⟨results, alone, returned, each, same, _⟩ :=
    batchedEncoding engine none encode
      (fun _ _ text => [PyFloat.finite false text.length 0])
      (fun _ _ text => decide (3 < text.length))
      ⟨fun _ => rfl, fun _ => rfl⟩ .passage true jobs sharing
  exact ⟨results, alone, returned, each, same⟩

end EmbeddingService
