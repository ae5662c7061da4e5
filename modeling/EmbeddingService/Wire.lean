import EmbeddingService.Contracts.DumpedJson
import EmbeddingService.Handler

/-!
# The wire between clients and workers

A job is dumped by its client and parsed by a worker; a result goes the other
way.  What pydantic and `json` do to a dump is stated as an assumption, and
parsing a dumped job is computed from it.
-/

namespace EmbeddingService

def InputType.text : InputType → PyStr
  | .passage => pyStr "passage"
  | .query => pyStr "query"

/-- The two ends of the wire: what `model_dump_json().encode()` gives for a
job, or `none` where it raises; what `EmbeddingResult.model_validate_json`
makes of a body, or `none` where it rejects it; and how a dump writes a
`datetime`. -/
structure Serialization (Body : Type) where
  dumpJob : EmbeddingJob → Option Body
  loadResult : Body → Option EmbeddingResult
  datetimeJson : Datetime → Json

/-- A job with its metadata as they are on the wire. -/
def EmbeddingJob.onWire (job : EmbeddingJob) : EmbeddingJob :=
  { job with metadata := Json.entriesOnWire job.metadata }

/-- A result with its metadata as they are on the wire. -/
def EmbeddingResult.onWire (result : EmbeddingResult) : EmbeddingResult :=
  { result with metadata := Json.entriesOnWire result.metadata }

/-- The object a job is dumped as. -/
def EmbeddingJob.fields (datetimeJson : Datetime → Json)
    (job : EmbeddingJob) : PyDict :=
  [(pyStr "input", .list (job.input.map Json.str)),
    (pyStr "input_type", .str job.inputType.text),
    (pyStr "normalize", .bool job.normalize),
    (pyStr "schema_version", .int job.schemaVersion),
    (pyStr "job_id", .str job.jobId),
    (pyStr "deadline", (job.deadline.map datetimeJson).getD .null),
    (pyStr "metadata", .dict job.metadata)]

/-- What keeps a job and its reply together: `str` of a string is that string,
and an id is read as it was written. -/
structure Serialization.KeepsIds {Body : Type}
    (serialization : Serialization Body) (python : Interpreter Body)
    (dumpResult : EmbeddingResult → Option Body) : Prop where
  strOf : ∀ value, python.strOf (.str value) = some value
  jobs : ∀ job body, serialization.dumpJob job = some body →
    ∃ raw, python.loads body = .value (.dict raw) ∧
      PyDict.get raw (pyStr "job_id") = some (.str job.jobId)
  results : ∀ result body loaded, dumpResult result = some body →
    serialization.loadResult body = some loaded →
    loaded.jobId = result.jobId

/-- What both ends rely on: values are read back as they were written, a
dumped job is the object with its fields, and a dumped result that is accepted
is the result that was dumped, with the metadata as they are on the wire. -/
structure Serialization.Faithful {Body : Type}
    (serialization : Serialization Body) (python : Interpreter Body)
    (dumpResult : EmbeddingResult → Option Body) : Prop where
  boolOf : ∀ flag, python.boolOf (.bool flag) = .ok flag
  intOf : ∀ value, python.intOf (.int value) = .ok value
  datetimeOf : ∀ value, serialization.datetimeJson value ≠ .null ∧
    python.datetimeOf (serialization.datetimeJson value) = .ok value
  strOf : ∀ value, python.strOf (.str value) = some value
  jobs : ∀ job body, serialization.dumpJob job = some body →
    python.loads body =
      .value (.dict (job.onWire.fields serialization.datetimeJson))
  results : ∀ result body loaded, dumpResult result = some body →
    serialization.loadResult body = some loaded → loaded = result.onWire

theorem Serialization.Faithful.keepsIds {Body : Type}
    {serialization : Serialization Body} {python : Interpreter Body}
    {dumpResult : EmbeddingResult → Option Body}
    (faithful : serialization.Faithful python dumpResult) :
    serialization.KeepsIds python dumpResult where
  strOf := faithful.strOf
  jobs := fun job body dumped =>
    ⟨_, faithful.jobs job body dumped, rfl⟩
  results := by
    intro result body loaded dumped read
    rw [faithful.results result body loaded dumped read]
    rfl

section Validation

variable {settings : Settings} {rules : ValueRules} {freshId : PyStr}
  {raw : PyDict} {job : EmbeddingJob}

/-- A validated job has what each field's check returned. -/
theorem modelValidate_ok
    (validated :
      EmbeddingJob.modelValidate settings rules freshId raw = .ok job) :
    requiredField raw (pyStr "input") (checkInput settings) =
        .ok job.input ∧
      defaultedField raw (pyStr "input_type") InputType.passage
        checkInputType = .ok job.inputType ∧
      defaultedField raw (pyStr "normalize") true rules.boolOf =
        .ok job.normalize ∧
      defaultedField raw (pyStr "schema_version") defaultSchemaVersion
        rules.intOf = .ok job.schemaVersion ∧
      defaultedField raw (pyStr "job_id") freshId checkJobId =
        .ok job.jobId ∧
      defaultedField raw (pyStr "deadline") none (checkDeadline rules) =
        .ok job.deadline ∧
      checkMetadata settings rules raw = .ok (.ok job.metadata) := by
  unfold EmbeddingJob.modelValidate at validated
  cases metadata : checkMetadata settings rules raw with
  | error failure =>
      rw [metadata] at validated
      cases validated
  | ok checked =>
      rw [metadata] at validated
      simp only [bind, Except.bind] at validated
      split at validated
      · next inputOk inputTypeOk normalizeOk versionOk jobIdOk deadlineOk =>
          cases validated
          exact ⟨inputOk, inputTypeOk, normalizeOk, versionOk, jobIdOk,
            deadlineOk, rfl⟩
      · cases validated

theorem ok_of_mapError {Failure Other Value : Type}
    {change : Failure → Other} {outcome : Except Failure Value}
    {value : Value} (mapped : outcome.mapError change = .ok value) :
    outcome = .ok value := by
  cases outcome with
  | error failure =>
      cases mapped
  | ok other =>
      cases mapped
      rfl

theorem requiredField_ok {Value : Type} {name : PyStr}
    {check : Json → Except PyStr Value} {value : Value} {entry : Json}
    (found : PyDict.get raw name = some entry)
    (checked : requiredField raw name check = .ok value) :
    check entry = .ok value := by
  rw [requiredField, found] at checked
  exact ok_of_mapError checked

theorem defaultedField_ok {Value : Type} {name : PyStr} {default : Value}
    {check : Json → Except PyStr Value} {value : Value} {entry : Json}
    (found : PyDict.get raw name = some entry)
    (checked : defaultedField raw name default check = .ok value) :
    check entry = .ok value := by
  rw [defaultedField, found] at checked
  exact ok_of_mapError checked

/-- The texts of an input: a bare string is one text. -/
def Json.texts : Json → List PyStr
  | .str text => [text]
  | .list values =>
      values.filterMap (fun value =>
        match value with
        | .str text => some text
        | _ => none)
  | _ => []

theorem texts_list (texts : List PyStr) :
    (Json.list (texts.map Json.str)).texts = texts := by
  rw [Json.texts, List.filterMap_map]
  exact List.filterMap_some

theorem checkTexts_ok {values : List Json} {accepted : List PyStr} :
    ∀ position, checkTexts settings position values = .ok accepted →
      values = accepted.map Json.str := by
  induction values generalizing accepted with
  | nil =>
      intro position checked
      cases checked
      rfl
  | cons value rest inductionHypothesis =>
      intro position checked
      cases value with
      | str text =>
          rw [checkTexts] at checked
          split at checked
          · cases checked
          · split at checked
            · cases checked
            · cases later : checkTexts settings (position + 1) rest with
              | error msg =>
                  rw [later] at checked
                  cases checked
              | ok others =>
                  rw [later] at checked
                  cases checked
                  rw [inductionHypothesis (position + 1) later]
                  rfl
      | _ =>
          cases checked

/-- The accepted texts are the texts themselves. -/
theorem checkInput_texts {value : Json} {accepted : List PyStr}
    (checked : checkInput settings value = .ok accepted) :
    accepted = value.texts := by
  have coerced : coerceAndValidate settings value = .ok accepted :=
    ok_of_mapError checked
  have checkedTexts : ∀ values,
      coerceAndValidate settings (.list values) = .ok accepted →
        values = accepted.map Json.str := by
    intro values coerced
    unfold coerceAndValidate at coerced
    cases values with
    | nil =>
        cases coerced
    | cons first rest =>
        dsimp only at coerced
        split at coerced
        · cases coerced
        · exact checkTexts_ok 0 coerced
  cases value with
  | str text =>
      have same := checkedTexts [.str text] coerced
      rw [← texts_list accepted, ← same]
      rfl
  | list values =>
      rw [checkedTexts values coerced]
      exact (texts_list accepted).symm
  | _ =>
      cases coerced

theorem checkInputType_of_text (inputType : InputType) :
    checkInputType (.str inputType.text) = .ok inputType := by
  cases inputType <;> rfl

theorem checkInputType_text {inputType accepted : InputType}
    (checked : checkInputType (.str inputType.text) = .ok accepted) :
    accepted = inputType := by
  rw [checkInputType_of_text] at checked
  exact (Except.ok.inj checked).symm

theorem checkJobId_str {value accepted : PyStr}
    (checked : checkJobId (.str value) = .ok accepted) :
    accepted = value := by
  unfold checkJobId at checked
  dsimp only at checked
  split at checked
  · cases checked
  · split at checked
    · cases checked
    · split at checked
      · cases checked
      · cases checked
        rfl

end Validation

section Jobs

variable {Body : Type} {serialization : Serialization Body}
  {python : Interpreter Body} {dumpResult : EmbeddingResult → Option Body}
  {settings : Settings} {freshId : PyStr} {job : EmbeddingJob}

theorem checkDeadline_json
    (faithful : serialization.Faithful python dumpResult)
    {deadline accepted : Option Datetime}
    (checked : checkDeadline python.toValueRules
      ((deadline.map serialization.datetimeJson).getD .null) =
        .ok accepted) : accepted = deadline := by
  cases deadline with
  | none =>
      cases checked
      rfl
  | some value =>
      obtain ⟨notNull, read⟩ := faithful.datetimeOf value
      have dumped : checkDeadline python.toValueRules
          (serialization.datetimeJson value) =
            (python.datetimeOf (serialization.datetimeJson value)).map
              some := by
        unfold checkDeadline
        split
        · next isNull =>
            exact False.elim (notNull isNull)
        · rfl
      rw [Option.map_some, Option.getD_some, dumped, read] at checked
      cases checked
      rfl

theorem checkMetadata_fields {rules : ValueRules} {metadata : PyDict}
    (checked : checkMetadata settings rules
      (job.fields serialization.datetimeJson) = .ok (.ok metadata)) :
    metadata = job.metadata := by
  have found : PyDict.get (job.fields serialization.datetimeJson)
      (pyStr "metadata") = some (.dict job.metadata) := rfl
  unfold checkMetadata at checked
  rw [found] at checked
  dsimp only at checked
  split at checked
  · cases checked
  · split at checked
    · cases checked
    · cases checked
      rfl

/-- The fields of a job are validated as that job or not at all. -/
theorem modelValidate_fields
    (faithful : serialization.Faithful python dumpResult)
    {accepted : EmbeddingJob}
    (validated : EmbeddingJob.modelValidate settings python.toValueRules
      freshId (job.fields serialization.datetimeJson) = .ok accepted) :
    accepted = job := by
  obtain ⟨input, inputType, normalize, version, jobId, deadline, metadata⟩ :=
    modelValidate_ok validated
  have sameInput : accepted.input = job.input :=
    (checkInput_texts (requiredField_ok rfl input)).trans (texts_list _)
  have sameType : accepted.inputType = job.inputType :=
    checkInputType_text (defaultedField_ok rfl inputType)
  have sameNormalize : accepted.normalize = job.normalize := by
    have read := defaultedField_ok rfl normalize
    rw [faithful.boolOf] at read
    exact (Except.ok.inj read).symm
  have sameVersion : accepted.schemaVersion = job.schemaVersion := by
    have read := defaultedField_ok rfl version
    rw [faithful.intOf] at read
    exact (Except.ok.inj read).symm
  have sameId : accepted.jobId = job.jobId :=
    checkJobId_str (defaultedField_ok rfl jobId)
  have sameDeadline : accepted.deadline = job.deadline :=
    checkDeadline_json faithful (defaultedField_ok rfl deadline)
  have sameMetadata : accepted.metadata = job.metadata :=
    checkMetadata_fields metadata
  obtain ⟨⟨_, _, _⟩, _, _, _, _⟩ := accepted
  obtain ⟨⟨_, _, _⟩, _, _, _, _⟩ := job
  simp_all

/-- A dumped job with an id is parsed under that id, or rejected under it, or
its parse raises. -/
theorem parseJob_named
    (keepsIds : serialization.KeepsIds python dumpResult) {body : Body}
    (dumped : serialization.dumpJob job = some body)
    (named : job.jobId ≠ []) (fallbackId workerId : Option PyStr) :
    (∃ accepted, accepted.jobId = job.jobId ∧
        parseJob settings python freshId body fallbackId workerId =
          .ok (.job accepted)) ∨
      (∃ result, result.jobId = job.jobId ∧ result.status = .error ∧
        parseJob settings python freshId body fallbackId workerId =
          .ok (.rejection result)) ∨
      ∃ escape, parseJob settings python freshId body fallbackId workerId =
        .error escape := by
  obtain ⟨raw, loaded, ownId⟩ := keepsIds.jobs job body dumped
  have idTruthy : (Json.str job.jobId).truthy = true := by
    simpa [Json.truthy] using named
  have keepsId : withFallbackId raw fallbackId = raw := by
    unfold withFallbackId
    split
    · rw [if_pos]
      rw [PyDict.getTruthy, ownId]
      exact idTruthy
    · rfl
  have printed : rejectedId python raw = some job.jobId := by
    rw [rejectedId, ownId]
    dsimp only
    rw [if_pos idTruthy, keepsIds.strOf]
  unfold parseJob
  rw [loaded]
  dsimp only
  rw [keepsId]
  cases validated : EmbeddingJob.modelValidate settings python.toValueRules
      freshId raw with
  | ok accepted =>
      obtain ⟨_, _, _, _, jobId, _⟩ := modelValidate_ok validated
      exact Or.inl ⟨accepted,
        checkJobId_str (defaultedField_ok ownId jobId), rfl⟩
  | error failure =>
      cases failure with
      | recursionError =>
          exact Or.inr (Or.inr ⟨_, rfl⟩)
      | invalid errors =>
          dsimp only
          rw [printed]
          exact Or.inr (Or.inl ⟨_, rfl, rfl, rfl⟩)

/-- What a dumped job is parsed as, whatever the settings of the worker are:
the job with its metadata as they are on the wire. -/
theorem parseJob_dumped
    (faithful : serialization.Faithful python dumpResult) {body : Body}
    (dumped : serialization.dumpJob job = some body)
    (named : job.jobId ≠ []) {fallbackId workerId : Option PyStr}
    {accepted : EmbeddingJob}
    (parsed : parseJob settings python freshId body fallbackId workerId =
      .ok (.job accepted)) : accepted = job.onWire := by
  have keepsId : withFallbackId
      (job.onWire.fields serialization.datetimeJson) fallbackId =
        job.onWire.fields serialization.datetimeJson := by
    unfold withFallbackId
    split
    · have idTruthy : (Json.str job.jobId).truthy = true := by
        simpa [Json.truthy] using named
      exact if_pos idTruthy
    · rfl
  unfold parseJob at parsed
  rw [faithful.jobs job body dumped] at parsed
  dsimp only at parsed
  rw [keepsId] at parsed
  split at parsed
  · next validated =>
      cases parsed
      exact modelValidate_fields faithful validated
  · cases parsed
  · split at parsed <;> cases parsed

end Jobs

end EmbeddingService
