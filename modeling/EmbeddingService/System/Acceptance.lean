import EmbeddingService.Contracts.Requests
import EmbeddingService.System.Replies
import EmbeddingService.Worker.OnMessage

/-!
# What is accepted

`EmbeddingRequest`, the body of an HTTP request, and `parse_job` judge the same
object alike, and what a client has built is accepted by every worker with the
client's limits, as what it was built as.
-/

namespace EmbeddingService

open LabelledRuns

section Locations

variable {settings : Settings} {rules : ValueRules} {raw : PyDict}
  {freshId : PyStr}

theorem requiredField_loc {Value : Type} {name : PyStr}
    {check : Json → Except PyStr Value} :
    ∀ detail ∈ (requiredField raw name check).errors,
      detail.loc = [name] := by
  unfold requiredField
  split
  · simp [Checked.errors]
  · next value _ =>
      cases check value <;> simp [Checked.errors, Except.mapError]

theorem defaultedField_loc {Value : Type} {name : PyStr} {default : Value}
    {check : Json → Except PyStr Value} :
    ∀ detail ∈ (defaultedField raw name default check).errors,
      detail.loc = [name] := by
  unfold defaultedField
  split
  · simp [Checked.errors]
  · next value _ =>
      cases check value <;> simp [Checked.errors, Except.mapError]

theorem checkMetadata_loc {checked : Checked PyDict}
    (returned : checkMetadata settings rules raw = .ok checked) :
    ∀ detail ∈ checked.errors, detail.loc = [pyStr "metadata"] := by
  unfold checkMetadata at returned
  split at returned
  · cases returned
    simp [Checked.errors]
  · split at returned
    · cases returned
    · split at returned <;> cases returned <;> simp [Checked.errors]
  · cases returned
    simp [Checked.errors]

/-- Every error of a request names a field of the request. -/
theorem requestErrors_loc :
    ∀ detail ∈ requestErrors settings rules raw,
      detail.loc ∈ requestFields := by
  intro detail member
  rcases List.mem_append.mp member with front | flag
  · rcases List.mem_append.mp front with input | type
    · rw [requiredField_loc detail input]
      exact .head _
    · rw [defaultedField_loc detail type]
      exact .tail _ (.head _)
  · rw [defaultedField_loc detail flag]
    exact .tail _ (.tail _ (.head _))

/-- The job of an object is a request with the same three fields. -/
theorem request_of_job {job : EmbeddingJob}
    (validated : EmbeddingJob.modelValidate settings rules freshId raw =
      .ok job) :
    EmbeddingRequest.modelValidate settings rules raw =
      .ok job.toEmbeddingRequest := by
  obtain ⟨input, type, flag, _⟩ := modelValidate_ok validated
  exact request_ok_iff.mpr ⟨input, type, flag⟩

/-- The errors of the fields that only a job has. -/
def jobErrors (rules : ValueRules) (freshId : PyStr) (raw : PyDict)
    (metadata : Checked PyDict) : List ErrorDetail :=
  (defaultedField raw (pyStr "schema_version") defaultSchemaVersion
      rules.intOf).errors ++
    (defaultedField raw (pyStr "job_id") freshId checkJobId).errors ++
    (defaultedField raw (pyStr "deadline") none
      (checkDeadline rules)).errors ++
    metadata.errors

theorem jobErrors_loc (freshId : PyStr) {metadata : Checked PyDict}
    (returned : checkMetadata settings rules raw = .ok metadata) :
    ∀ detail ∈ jobErrors rules freshId raw metadata,
      detail.loc ∈ jobFields := by
  intro detail member
  rcases List.mem_append.mp member with front | last
  · rcases List.mem_append.mp front with front | deadline
    · rcases List.mem_append.mp front with version | jobId
      · rw [defaultedField_loc detail version]
        exact .head _
      · rw [defaultedField_loc detail jobId]
        exact .tail _ (.head _)
    · rw [defaultedField_loc detail deadline]
      exact .tail _ (.tail _ (.head _))
  · rw [checkMetadata_loc returned detail last]
    exact .tail _ (.tail _ (.tail _ (.head _)))

theorem ok_of_no_errors {Value : Type} {checked : Checked Value}
    (none : checked.errors = []) : ∃ value, checked = .ok value := by
  cases checked with
  | error detail =>
      cases none
  | ok value =>
      exact ⟨value, rfl⟩

/-- A rejected job has the errors of the request first; the others name
fields that only a job has. -/
theorem job_invalid {errors : List ErrorDetail}
    (rejected : EmbeddingJob.modelValidate settings rules freshId raw =
      .error (.invalid errors)) :
    errors ≠ [] ∧ ∃ rest,
      errors = requestErrors settings rules raw ++ rest ∧
      ∀ detail ∈ rest, detail.loc ∈ jobFields := by
  unfold EmbeddingJob.modelValidate at rejected
  cases metadata : checkMetadata settings rules raw with
  | error failure =>
      rw [metadata] at rejected
      cases rejected
      obtain ⟨escaped, _⟩ := (checkMetadata_escapes_iff _).mp metadata
      cases escaped
  | ok checked =>
      rw [metadata] at rejected
      simp only [bind, Except.bind] at rejected
      split at rejected
      · cases rejected
      · next bad =>
          cases rejected
          refine ⟨?_, _, by
            simp only [requestErrors, jobErrors, List.append_assoc],
            jobErrors_loc freshId metadata⟩
          intro none
          simp only [List.append_eq_nil_iff] at none
          obtain ⟨⟨⟨⟨⟨⟨input, type⟩, flag⟩, version⟩, jobId⟩, deadline⟩,
            last⟩ := none
          obtain ⟨_, inputOk⟩ := ok_of_no_errors input
          obtain ⟨_, typeOk⟩ := ok_of_no_errors type
          obtain ⟨_, flagOk⟩ := ok_of_no_errors flag
          obtain ⟨_, versionOk⟩ := ok_of_no_errors version
          obtain ⟨_, jobIdOk⟩ := ok_of_no_errors jobId
          obtain ⟨_, deadlineOk⟩ := ok_of_no_errors deadline
          obtain ⟨_, lastOk⟩ := ok_of_no_errors last
          exact bad _ _ _ _ _ _ _ inputOk typeOk flagOk versionOk jobIdOk
            deadlineOk lastOk

/-- Looking up the fields of a request does not meet the job id. -/
theorem request_withFallbackId (entries : PyDict)
    (fallbackId : Option PyStr) :
    EmbeddingRequest.modelValidate settings rules
        (withFallbackId entries fallbackId) =
      EmbeddingRequest.modelValidate settings rules entries := by
  have input : PyDict.get (withFallbackId entries fallbackId)
      (pyStr "input") = PyDict.get entries (pyStr "input") :=
    withFallbackId_get entries fallbackId (by decide)
  have type : PyDict.get (withFallbackId entries fallbackId)
      (pyStr "input_type") = PyDict.get entries (pyStr "input_type") :=
    withFallbackId_get entries fallbackId (by decide)
  have flag : PyDict.get (withFallbackId entries fallbackId)
      (pyStr "normalize") = PyDict.get entries (pyStr "normalize") :=
    withFallbackId_get entries fallbackId (by decide)
  unfold EmbeddingRequest.modelValidate requiredField defaultedField
  rw [input, type, flag]

end Locations

/-! ## As a request and as a job -/

/-- What a worker says of the errors of a body. -/
def Tells (result : EmbeddingResult) (errors : List ErrorDetail) : Prop :=
  result.error = some
    { code := .validationError
      message := PyStr.join (pyStr "; ") (errors.map ErrorDetail.text) }

/-- How `EmbeddingRequest` and a worker judge the same object. -/
inductive JudgedAlike :
    Except (List ErrorDetail) EmbeddingRequest → Parsed → Prop
  | accepted {job : EmbeddingJob} :
      JudgedAlike (.ok job.toEmbeddingRequest) (.job job)
  | otherField {request : EmbeddingRequest} {result : EmbeddingResult}
      {errors : List ErrorDetail} (named : errors ≠ [])
      (others : ∀ detail ∈ errors, detail.loc ∈ jobFields)
      (told : Tells result errors) :
      JudgedAlike (.ok request) (.rejection result)
  | rejected {errors rest : List ErrorDetail} {result : EmbeddingResult}
      (named : errors ≠ [])
      (own : ∀ detail ∈ errors, detail.loc ∈ requestFields)
      (others : ∀ detail ∈ rest, detail.loc ∈ jobFields)
      (told : Tells result (errors ++ rest)) :
      JudgedAlike (.error errors) (.rejection result)

/-- An object that is parsed from a message is judged as `EmbeddingRequest`
with the same limits judges it: the accepted request is the accepted job's, and
the errors of a rejected request come first in the message of the rejection,
which otherwise names only fields that a request does not have. -/
theorem judgedAlike {Body : Type} {settings : Settings}
    {python : Interpreter Body} {body : Body} {entries : PyDict}
    (loaded : python.loads body = .value (.dict entries))
    {freshId : PyStr} {fallbackId workerId : Option PyStr}
    {parsed : Parsed}
    (returned : parseJob settings python freshId body fallbackId workerId =
      .ok parsed) :
    JudgedAlike
      (EmbeddingRequest.modelValidate settings python.toValueRules entries)
      parsed := by
  rw [← request_withFallbackId entries fallbackId]
  unfold parseJob at returned
  rw [loaded] at returned
  dsimp only at returned
  split at returned
  · next job validated =>
      cases returned
      rw [request_of_job validated]
      exact .accepted
  · cases returned
  · next errors invalid =>
      split at returned
      · cases returned
      · next jobId printed =>
          cases returned
          obtain ⟨named, rest, split, others⟩ := job_invalid invalid
          cases judged : EmbeddingRequest.modelValidate settings
              python.toValueRules (withFallbackId entries fallbackId) with
          | ok request =>
              obtain ⟨input, type, flag⟩ := request_ok_iff.mp judged
              have clean : requestErrors settings python.toValueRules
                  (withFallbackId entries fallbackId) = [] := by
                rw [requestErrors, input, type, flag]
                rfl
              rw [clean, List.nil_append] at split
              rw [split] at named
              exact .otherField named others (by rw [← split]; rfl)
          | error wrong =>
              obtain ⟨same, some⟩ := request_error judged
              refine .rejected some ?_ others (by rw [same, ← split]; rfl)
              rw [same]
              exact requestErrors_loc

/-- An object without input and with a wrong version. -/
def noInput : PyDict := [(pyStr "schema_version", .str [])]

/-- Both reject it for its input. -/
theorem judgedAlike_noInput :
    ∃ result : EmbeddingResult,
      parseJob .defaults wireEnvironment.python [] (.request noInput)
          (some (pyStr "job")) none = .ok (.rejection result) ∧
        JudgedAlike
          (EmbeddingRequest.modelValidate .defaults
            wireEnvironment.python.toValueRules noInput)
          (.rejection result) := by
  have returned : ∃ result, parseJob .defaults wireEnvironment.python []
      (.request noInput) (some (pyStr "job")) none =
        .ok (.rejection result) := ⟨_, rfl⟩
  obtain ⟨result, rejected⟩ := returned
  have loaded : wireEnvironment.python.loads (.request noInput) =
      .value (.dict noInput) := rfl
  exact ⟨result, rejected, judgedAlike loaded rejected⟩

/-! ## The jobs of a client -/

/-- Limits that are at least as wide. -/
structure Settings.Within (narrow wide : Settings) : Prop where
  items : narrow.maxBatchItems ≤ wide.maxBatchItems
  chars : narrow.maxCharsPerText ≤ wide.maxCharsPerText
  metadata : narrow.mqMetadataMaxBytes ≤ wide.mqMetadataMaxBytes

theorem WellFormedTexts.wider {narrow wide : Settings}
    {texts : List PyStr} (wellFormed : WellFormedTexts narrow texts)
    (within : narrow.Within wide) : WellFormedTexts wide texts where
  present := wellFormed.present
  within := wellFormed.within.trans within.items
  notBlank := wellFormed.notBlank
  short := fun text member =>
    (wellFormed.short text member).trans within.chars

/-- A job that the validators accept as it is. -/
structure AdmittedJob (settings : Settings) (rules : ValueRules)
    (job : EmbeddingJob) : Prop where
  texts : WellFormedTexts settings job.input
  jobId : checkJobId (.str job.jobId) = .ok job.jobId
  metadata : ∃ size, rules.dumpedSize job.metadata = some size ∧
    (size : Int) ≤ settings.mqMetadataMaxBytes

section Admitted

variable {settings : Settings} {rules : ValueRules} {freshId : PyStr}
  {raw : PyDict} {job : EmbeddingJob}

theorem checkJobId_again {value : Json} {id : PyStr}
    (checked : checkJobId value = .ok id) :
    checkJobId (.str id) = .ok id := by
  obtain ⟨same, _⟩ := checkJobId_ok checked
  rw [same] at checked
  exact checked

/-- What the validators made of keyword arguments, they accept again. -/
theorem admitted_of_arguments {texts : Json} {inputType : InputType}
    {normalize : Bool} {metadata : PyDict} {jobId : Option PyStr}
    (fresh : checkJobId (.str freshId) = .ok freshId)
    (validated : EmbeddingJob.modelValidate settings rules freshId
      (jobArguments texts inputType normalize metadata jobId) = .ok job) :
    AdmittedJob settings rules job := by
  obtain ⟨input, _, _, _, id, _, checked⟩ := modelValidate_ok validated
  refine ⟨?_, ?_, ?_⟩
  · cases found : PyDict.get
        (jobArguments texts inputType normalize metadata jobId)
        (pyStr "input") with
    | none =>
        rw [requiredField, found] at input
        cases input
    | some value =>
        exact (checkInput_iff.mp (requiredField_ok found input)).2
  · cases found : PyDict.get
        (jobArguments texts inputType normalize metadata jobId)
        (pyStr "job_id") with
    | none =>
        rw [defaultedField, found] at id
        cases id
        exact fresh
    | some value =>
        exact checkJobId_again (defaultedField_ok found id)
  · have found : PyDict.get
        (jobArguments texts inputType normalize metadata jobId)
        (pyStr "metadata") = some (.dict metadata) := by
      unfold jobArguments
      dsimp only
      split <;> rfl
    unfold checkMetadata at checked
    rw [found] at checked
    dsimp only at checked
    split at checked
    · cases checked
    · next size dumped =>
        split at checked
        · cases checked
        · next fits =>
            cases checked
            exact ⟨size, dumped, Int.not_lt.mp fits⟩

theorem requiredField_of_ok {Value : Type} {name : PyStr}
    {check : Json → Except PyStr Value} {entry : Json} {value : Value}
    (found : PyDict.get raw name = some entry)
    (checked : check entry = .ok value) :
    requiredField raw name check = .ok value := by
  rw [requiredField, found]
  dsimp only
  rw [checked]
  rfl

theorem defaultedField_of_ok {Value : Type} {name : PyStr}
    {default : Value} {check : Json → Except PyStr Value} {entry : Json}
    {value : Value} (found : PyDict.get raw name = some entry)
    (checked : check entry = .ok value) :
    defaultedField raw name default check = .ok value := by
  rw [defaultedField, found]
  dsimp only
  rw [checked]
  rfl

variable {Body : Type} {serialization : Serialization Body}
  {python : Interpreter Body} {dumpResult : EmbeddingResult → Option Body}

/-- The fields of an admitted job are validated as the job. -/
theorem modelValidate_fields_of_admitted
    (faithful : serialization.Faithful python dumpResult)
    (admitted : AdmittedJob settings python.toValueRules job) :
    EmbeddingJob.modelValidate settings python.toValueRules freshId
      (job.fields serialization.datetimeJson) = .ok job := by
  obtain ⟨size, dumped, fits⟩ := admitted.metadata
  have input : requiredField (job.fields serialization.datetimeJson)
      (pyStr "input") (checkInput settings) = .ok job.input :=
    requiredField_of_ok rfl
      (checkInput_iff.mpr ⟨.listed job.input, admitted.texts⟩)
  have type : defaultedField (job.fields serialization.datetimeJson)
      (pyStr "input_type") InputType.passage checkInputType =
        .ok job.inputType :=
    defaultedField_of_ok rfl (checkInputType_of_text job.inputType)
  have flag : defaultedField (job.fields serialization.datetimeJson)
      (pyStr "normalize") true python.boolOf = .ok job.normalize :=
    defaultedField_of_ok rfl (faithful.boolOf job.normalize)
  have version : defaultedField (job.fields serialization.datetimeJson)
      (pyStr "schema_version") defaultSchemaVersion python.intOf =
        .ok job.schemaVersion :=
    defaultedField_of_ok rfl (faithful.intOf job.schemaVersion)
  have id : defaultedField (job.fields serialization.datetimeJson)
      (pyStr "job_id") freshId checkJobId = .ok job.jobId :=
    defaultedField_of_ok rfl admitted.jobId
  have deadline : defaultedField (job.fields serialization.datetimeJson)
      (pyStr "deadline") none (checkDeadline python.toValueRules) =
        .ok job.deadline := by
    refine defaultedField_of_ok rfl ?_
    cases job.deadline with
    | none =>
        rfl
    | some value =>
        obtain ⟨notNull, read⟩ := faithful.datetimeOf value
        rw [Option.map_some, Option.getD_some]
        unfold checkDeadline
        split
        · next isNull =>
            exact False.elim (notNull isNull)
        · rw [read]
          rfl
  have metadata : checkMetadata settings python.toValueRules
      (job.fields serialization.datetimeJson) =
        .ok (.ok job.metadata) := by
    have found : PyDict.get (job.fields serialization.datetimeJson)
        (pyStr "metadata") = some (.dict job.metadata) := rfl
    unfold checkMetadata
    rw [found]
    dsimp only
    rw [dumped]
    dsimp only
    rw [if_neg (Int.not_lt.mpr fits)]
  simp only [EmbeddingJob.modelValidate, input, type, flag, version, id,
    deadline, metadata, bind, Except.bind]

/-- An admitted job is parsed from its dump as itself, where its metadata are
plain. -/
theorem parseJob_of_admitted
    (faithful : serialization.Faithful python dumpResult)
    (admitted : AdmittedJob settings python.toValueRules job)
    (plain : Json.EntriesArePlain job.metadata) {body : Body}
    (dumped : serialization.dumpJob job = some body)
    (fallbackId workerId : Option PyStr) :
    parseJob settings python freshId body fallbackId workerId =
      .ok (.job job) := by
  have same : job.onWire = job := by
    rw [EmbeddingJob.onWire, entriesOnWire_eq_iff.mpr plain]
  have loaded := faithful.jobs job body dumped
  rw [same] at loaded
  have named : job.jobId ≠ [] := (checkJobId_ok admitted.jobId).2
  have keepsId : withFallbackId
      (job.fields serialization.datetimeJson) fallbackId =
        job.fields serialization.datetimeJson := by
    rcases withFallbackId_id (job.fields serialization.datetimeJson)
        fallbackId with ⟨_, kept⟩ | ⟨missing, _⟩
    · exact kept
    · have own : PyDict.getTruthy
          (job.fields serialization.datetimeJson) (pyStr "job_id") =
            (Json.str job.jobId).truthy := rfl
      rw [own] at missing
      exact False.elim (named (by simpa [Json.truthy] using missing))
  unfold parseJob
  rw [loaded]
  dsimp only
  rw [keepsId, modelValidate_fields_of_admitted faithful admitted]

end Admitted

/-- A job that a client has built, from a query or for the index. -/
def BuiltBy {Body : Type} (client : ClientEnvironment Body)
    (freshId : PyStr) (job : EmbeddingJob) : Prop :=
  ∃ texts normalize metadata,
    (∃ deadline, queryJob client freshId texts normalize metadata deadline =
        .ok job) ∨
      ∃ jobId, indexJob client freshId texts normalize metadata jobId =
        .ok job

theorem BuiltBy.admitted {Body : Type} {client : ClientEnvironment Body}
    {freshId : PyStr} {job : EmbeddingJob}
    (fresh : checkJobId (.str freshId) = .ok freshId)
    (built : BuiltBy client freshId job) :
    AdmittedJob client.schemaSettings client.rules job := by
  obtain ⟨texts, normalize, metadata,
    ⟨deadline, queried⟩ | ⟨jobId, indexed⟩⟩ := built
  · unfold queryJob at queried
    cases validated : EmbeddingJob.modelValidate client.schemaSettings
        client.rules freshId
        (jobArguments texts .query normalize metadata none) with
    | error failure =>
        rw [validated] at queried
        cases queried
    | ok made =>
        rw [validated] at queried
        have admitted := admitted_of_arguments fresh validated
        cases queried
        exact ⟨admitted.texts, admitted.jobId, admitted.metadata⟩
  · exact admitted_of_arguments fresh indexed

/-- What a client builds for `embed_query` or `submit_index` survives the wire:
every worker whose limits are at least as wide parses its dump as the same job,
whatever the other properties of the message are, and in no run of such a
worker is a message that carries it rejected. -/
theorem ownJobsAccepted {Body : Type} {environment : Environment Body}
    {client : ClientEnvironment Body}
    (faithful : client.serialization.Faithful environment.python
      environment.dumpResult)
    (sizes : client.rules.dumpedSize = environment.python.dumpedSize)
    (limits : client.schemaSettings.Within environment.schemaSettings)
    {freshId : PyStr} (fresh : checkJobId (.str freshId) = .ok freshId)
    {job : EmbeddingJob} (built : BuiltBy client freshId job)
    (finite : Json.entriesAreFinite job.metadata = true)
    (plainKeys : Json.entriesHavePlainKeys job.metadata = true) {body : Body}
    (dumped : client.serialization.dumpJob job = some body) :
    (∀ otherId fallbackId workerId,
      parseJob environment.schemaSettings environment.python otherId body
        fallbackId workerId = .ok (.job job)) ∧
      ∀ workerId lanes worker,
        Reachable (WorkerStep environment)
          (Worker.start Body workerId lanes) worker →
        ∀ lane message result, message.body = body →
          .rejected lane message result ∉ worker.log := by
  have client := built.admitted fresh
  have admitted : AdmittedJob environment.schemaSettings
      environment.python.toValueRules job := by
    obtain ⟨size, measured, fits⟩ := client.metadata
    rw [sizes] at measured
    exact ⟨client.texts.wider limits, client.jobId, size, measured,
      fits.trans limits.metadata⟩
  have parses : ∀ otherId fallbackId workerId,
      parseJob environment.schemaSettings environment.python otherId body
        fallbackId workerId = .ok (.job job) :=
    fun _ => parseJob_of_admitted faithful admitted ⟨finite, plainKeys⟩
      dumped
  refine ⟨parses, ?_⟩
  intro workerId lanes worker reached lane message result same rejected
  have sound := (workerSound_of_reachable reached).ledgerSound
  obtain ⟨_, _, _, freshId, returned⟩ := sound.justified.of_mem rejected
  rw [parseMessage, same, parses] at returned
  cases returned

/-- A client that allows two short texts and eleven bytes of metadata. -/
def narrowClient : ClientEnvironment WireBody :=
  { wireClient with
    schemaSettings :=
      { Settings.defaults with
        maxBatchItems := 2
        maxCharsPerText := 7
        mqMetadataMaxBytes := 11 } }

/-- A query that is at all limits of its client is accepted as itself by a
worker with wider ones. -/
theorem ownJobsAccepted_query :
    ∃ job, BuiltBy narrowClient (pyStr "job") job ∧
      job.input = [pyStr "chapter", pyStr "page"] ∧
      job.metadata = [(pyStr "doc", .str (pyStr "a"))] ∧
      parseJob .defaults wireEnvironment.python []
        (.request (job.fields wireSerialization.datetimeJson))
        (some (pyStr "other")) none = .ok (.job job) := by
  have built : BuiltBy narrowClient (pyStr "job") _ :=
    ⟨.list [.str (pyStr "chapter"), .str (pyStr "page")], false,
      [(pyStr "doc", .str (pyStr "a"))], Or.inl ⟨1000, rfl⟩⟩
  have limits : narrowClient.schemaSettings.Within
      wireEnvironment.schemaSettings :=
    ⟨by decide, by decide, by decide⟩
  exact ⟨_, built, rfl, rfl,
    (@ownJobsAccepted WireBody wireEnvironment narrowClient wire_faithful rfl
      limits _ rfl _ built rfl rfl _ rfl).1 [] (some (pyStr "other")) none⟩

end EmbeddingService
