import EmbeddingService.Wire
import EmbeddingService.System.Fleet

/-!
# The jobs a client publishes

Both `embed_query` and `submit_index` build a job from their arguments, under
the validators of the wire contract, and publish its dump.
-/

namespace EmbeddingService

/-- What the code of a client depends on: its own settings, those the
validators read, and its end of the wire. -/
structure ClientEnvironment (Body : Type) where
  settings : Settings
  schemaSettings : Settings
  rules : ValueRules
  serialization : Serialization Body

/-- The keyword arguments of `EmbeddingJob(…)`; `job_id` is left out where the
caller gives none. -/
def jobArguments (texts : Json) (inputType : InputType) (normalize : Bool)
    (metadata : PyDict) (jobId : Option PyStr) : PyDict :=
  let given : PyDict :=
    [(pyStr "input", texts),
      (pyStr "input_type", .str inputType.text),
      (pyStr "normalize", .bool normalize),
      (pyStr "metadata", .dict metadata)]
  match jobId with
  | some (point :: rest) =>
      (pyStr "job_id", .str (point :: rest)) :: given
  | _ => given

section Jobs

variable {Body : Type} (client : ClientEnvironment Body)

/-- The job of `embed_query`; its deadline is an instant in UTC. -/
def queryJob (freshId : PyStr) (texts : Json) (normalize : Bool)
    (metadata : PyDict) (deadline : Instant) :
    Except ValidationFailure EmbeddingJob :=
  (EmbeddingJob.modelValidate client.schemaSettings client.rules freshId
    (jobArguments texts .query normalize metadata none)).map
    (fun job =>
      { job with
        deadline := some { wall := deadline, offset := some 0 } })

/-- The job of `submit_index`. -/
def indexJob (freshId : PyStr) (texts : Json) (normalize : Bool)
    (metadata : PyDict) (jobId : Option PyStr) :
    Except ValidationFailure EmbeddingJob :=
  EmbeddingJob.modelValidate client.schemaSettings client.rules freshId
    (jobArguments texts .passage normalize metadata jobId)

/-- `reply_to or self._settings.index_results_queue`. -/
def resultsQueue (replyTo : Option PyStr) : PyStr :=
  orDefault replyTo client.settings.indexResultsQueue

/-- The message of `_publish`. -/
def requestMessage (lane : LaneName) (job : EmbeddingJob) (body : Body)
    (replyTo : PyStr) : Publication Body :=
  { lane := lane
    body := body
    messageId := some job.jobId
    correlationId := some job.jobId
    replyTo := some replyTo }

end Jobs

section Arguments

variable {settings : Settings} {rules : ValueRules} {freshId : PyStr}
  {texts : Json} {inputType : InputType} {normalize : Bool}
  {metadata : PyDict} {job : EmbeddingJob}

/-- A job with an id given or fresh has an id. -/
theorem jobArguments_named {jobId : Option PyStr} (fresh : freshId ≠ [])
    (validated : EmbeddingJob.modelValidate settings rules freshId
      (jobArguments texts inputType normalize metadata jobId) = .ok job) :
    job.jobId ≠ [] := by
  have checked := (modelValidate_ok validated).2.2.2.2.1
  unfold jobArguments at checked
  dsimp only at checked
  split at checked
  · next point rest =>
      rw [checkJobId_str (defaultedField_ok rfl checked)]
      exact List.cons_ne_nil point rest
  · cases checked
    exact fresh

/-- What `EmbeddingJob(…)` takes over from its arguments. -/
theorem jobArguments_taken
    (boolOf : ∀ flag, rules.boolOf (.bool flag) = .ok flag)
    (validated : EmbeddingJob.modelValidate settings rules freshId
      (jobArguments texts inputType normalize metadata none) = .ok job) :
    job.inputType = inputType ∧ job.normalize = normalize ∧
      job.metadata = metadata ∧ job.jobId = freshId ∧
      job.input = texts.texts := by
  obtain ⟨input, type, flag, _, id, _, checked⟩ :=
    modelValidate_ok validated
  refine ⟨checkInputType_text (defaultedField_ok rfl type), ?_, ?_, ?_,
    checkInput_texts (requiredField_ok rfl input)⟩
  · have read := defaultedField_ok rfl flag
    rw [boolOf] at read
    exact (Except.ok.inj read).symm
  · have found : PyDict.get
        (jobArguments texts inputType normalize metadata none)
        (pyStr "metadata") = some (.dict metadata) := rfl
    unfold checkMetadata at checked
    rw [found] at checked
    dsimp only at checked
    split at checked
    · cases checked
    · split at checked
      · cases checked
      · cases checked
        rfl
  · cases id
    rfl

/-- What `embed_query` was given, and a fresh id, make up its job. -/
theorem queryJob_taken {Body : Type} {client : ClientEnvironment Body}
    {deadline : Instant}
    (boolOf : ∀ flag, client.rules.boolOf (.bool flag) = .ok flag)
    (built : queryJob client freshId texts normalize metadata deadline =
      .ok job) :
    job.inputType = .query ∧ job.normalize = normalize ∧
      job.metadata = metadata ∧ job.jobId = freshId ∧
      job.input = texts.texts := by
  unfold queryJob at built
  cases validated : EmbeddingJob.modelValidate client.schemaSettings
      client.rules freshId (jobArguments texts .query normalize metadata none)
    with
  | error failure =>
      rw [validated] at built
      cases built
  | ok made =>
      rw [validated] at built
      have taken := jobArguments_taken boolOf validated
      cases built
      exact taken

end Arguments

/-- The bytes of a character in `json.dumps`, which escapes all but ASCII. -/
def escapedWidth (point : CodePoint) : Nat :=
  if point.val ∈ [0x08, 0x09, 0x0A, 0x0C, 0x0D, 0x22, 0x5C] then
    2
  else if 0x20 ≤ point.val ∧ point.val < 0x80 then
    1
  else if point.val < 0x10000 then
    6
  else
    12

def PyStr.quotedSize (value : PyStr) : Nat :=
  (value.map escapedWidth).sum + 2

mutual

/-- `len(json.dumps(value, separators=(",", ":")).encode())`, of which the
digits of a number are given. -/
def Json.compactSize (digits : PyFloat → Nat) : Json → Nat
  | .null => 4
  | .bool true => 4
  | .bool false => 5
  | .int value => (toString value).length
  | .float (.finite negative significand exponent) =>
      digits (.finite negative significand exponent)
  | .float (.infinite false) => 8
  | .float (.infinite true) => 9
  | .float .nan => 3
  | .str value => value.quotedSize
  | .list values =>
      (Json.listSize digits values - 1) + 2
  | .dict entries => (Json.entriesSize digits entries - 1) + 2

/-- Every value is counted with a comma. -/
def Json.listSize (digits : PyFloat → Nat) : List Json → Nat
  | [] => 0
  | value :: rest =>
      value.compactSize digits + 1 + Json.listSize digits rest

def Json.entriesSize (digits : PyFloat → Nat) :
    List (PyStr × Json) → Nat
  | [] => 0
  | (key, value) :: rest =>
      key.quotedSize + 1 + value.compactSize digits + 1 +
        Json.entriesSize digits rest

end

/-- Bodies that are not written out: the object of a job, or a result. -/
inductive WireBody where
  | request (fields : PyDict)
  | reply (result : EmbeddingResult)

def wireSerialization : Serialization WireBody where
  dumpJob := fun job =>
    some (.request (job.onWire.fields (fun value =>
      .list [.int value.wall, (value.offset.map Json.int).getD .null])))
  loadResult := fun body =>
    match body with
    | .reply result => some result
    | .request _ => none
  datetimeJson := fun value =>
    .list [.int value.wall, (value.offset.map Json.int).getD .null]

def wireRules : ValueRules where
  boolOf := fun value =>
    match value with
    | .bool flag => .ok flag
    | _ => .error (pyStr "Input should be a valid boolean")
  intOf := fun value =>
    match value with
    | .int number => .ok number
    | _ => .error (pyStr "Input should be a valid integer")
  datetimeOf := fun value =>
    match value with
    | .list [.int wall, .int offset] =>
        .ok { wall := wall, offset := some offset }
    | .list [.int wall, .null] => .ok { wall := wall, offset := none }
    | _ => .error (pyStr "Input should be a valid datetime")
  dumpedSize := fun metadata =>
    some ((Json.dict metadata).compactSize (fun _ => 3))

/-- Workers with batches of one text. -/
def wireEnvironment : Environment WireBody where
  settings := .oneText
  schemaSettings := .defaults
  python :=
    { wireRules with
      loads := fun body =>
        match body with
        | .request fields => .value (.dict fields)
        | .reply _ => .decodeError (pyStr "Expecting value")
      strOf := fun value =>
        match value with
        | .str text => some text
        | _ => some (pyStr "other") }
  engine := { modelName := pyStr "model", dimensions := 1 }
  dumpResult := fun result => some (.reply result.onWire)

def wireClient : ClientEnvironment WireBody where
  settings := .defaults
  schemaSettings := .defaults
  rules := wireRules
  serialization := wireSerialization

theorem wire_faithful :
    wireSerialization.Faithful wireEnvironment.python
      wireEnvironment.dumpResult where
  boolOf := fun _ => rfl
  intOf := fun _ => rfl
  datetimeOf := by
    intro value
    obtain ⟨wall, offset⟩ := value
    cases offset <;> exact ⟨Json.noConfusion, rfl⟩
  strOf := fun _ => rfl
  jobs := by
    intro job body dumped
    cases dumped
    rfl
  results := by
    intro result body loaded dumped loads
    cases dumped
    cases loads
    rfl

end EmbeddingService
