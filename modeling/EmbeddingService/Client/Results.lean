import EmbeddingService.Client.Jobs

/-!
# Results on the wire

A worker dumps a result field by field, and a client reads the object back.
Metadata come through as they are on the wire; a vector component that is no
number makes the whole result unreadable.
-/

namespace EmbeddingService

/-! ## The object of a result -/

def ErrorCode.text : ErrorCode → PyStr
  | .validationError => pyStr "validation_error"
  | .expired => pyStr "expired"
  | .internalError => pyStr "internal_error"
  | .deadLettered => pyStr "dead_lettered"

def ResultStatus.text : ResultStatus → PyStr
  | .ok => pyStr "ok"
  | .error => pyStr "error"

/-- A field that may be `None`. -/
def optionalJson {Value : Type} (write : Value → Json)
    (value : Option Value) : Json :=
  (value.map write).getD .null

def listJson {Value : Type} (write : Value → Json)
    (values : List Value) : Json :=
  .list (values.map write)

def JobError.json (error : JobError) : Json :=
  .dict [(pyStr "code", .str error.code.text),
    (pyStr "message", .str error.message)]

/-- The object a result is dumped as. -/
def EmbeddingResult.fields (result : EmbeddingResult) : PyDict :=
  [(pyStr "schema_version", .int result.schemaVersion),
    (pyStr "job_id", .str result.jobId),
    (pyStr "status", .str result.status.text),
    (pyStr "error", optionalJson JobError.json result.error),
    (pyStr "model_name", optionalJson Json.str result.modelName),
    (pyStr "dimensions", optionalJson Json.int result.dimensions),
    (pyStr "input_type",
      optionalJson (fun inputType => .str inputType.text)
        result.inputType),
    (pyStr "normalized", optionalJson Json.bool result.normalized),
    (pyStr "count", .int result.count),
    (pyStr "truncated", listJson Json.bool result.truncated),
    (pyStr "embeddings",
      listJson (listJson Json.float) result.embeddings),
    (pyStr "metadata", .dict result.metadata),
    (pyStr "took_ms", .float result.tookMs),
    (pyStr "batch_texts", .int result.batchTexts),
    (pyStr "worker_id", optionalJson Json.str result.workerId)]

/-- What pydantic does with one value of a result. -/
structure ResultRules extends ValueRules where
  floatOf : Json → Except PyStr PyFloat

/-- A required field of an object.  The client never looks at the errors. -/
def readRequired {Value : Type} (raw : PyDict) (name : PyStr)
    (read : Json → Option Value) : Option Value :=
  match raw.get name with
  | none => none
  | some value => read value

def readDefaulted {Value : Type} (raw : PyDict) (name : PyStr)
    (default : Value) (read : Json → Option Value) : Option Value :=
  match raw.get name with
  | none => some default
  | some value => read value

def readStr : Json → Option PyStr
  | .str value => some value
  | _ => none

def readDict : Json → Option PyDict
  | .dict entries => some entries
  | _ => none

def readOptional {Value : Type} (read : Json → Option Value) :
    Json → Option (Option Value)
  | .null => some none
  | value => (read value).map some

def readList {Value : Type} (read : Json → Option Value) :
    Json → Option (List Value)
  | .list values => values.mapM read
  | _ => none

def readStatus : Json → Option ResultStatus
  | .str value =>
      if value = pyStr "ok" then
        some .ok
      else if value = pyStr "error" then
        some .error
      else
        none
  | _ => none

def readErrorCode : Json → Option ErrorCode
  | .str value =>
      if value = pyStr "validation_error" then
        some .validationError
      else if value = pyStr "expired" then
        some .expired
      else if value = pyStr "internal_error" then
        some .internalError
      else if value = pyStr "dead_lettered" then
        some .deadLettered
      else
        none
  | _ => none

/-- `JobError.model_validate`. -/
def readJobError : Json → Option JobError
  | .dict raw => do
      let code ← readRequired raw (pyStr "code") readErrorCode
      let message ← readRequired raw (pyStr "message") readStr
      return { code := code, message := message }
  | _ => none

def readInputType (value : Json) : Option InputType :=
  (checkInputType value).toOption

namespace ResultRules

variable (rules : ResultRules)

def readInt (value : Json) : Option Int :=
  (rules.intOf value).toOption

def readBool (value : Json) : Option Bool :=
  (rules.boolOf value).toOption

def readFloat (value : Json) : Option PyFloat :=
  (rules.floatOf value).toOption

end ResultRules

/-- `EmbeddingResult.model_validate` of a decoded object. -/
def EmbeddingResult.modelValidate (rules : ResultRules) (raw : PyDict) :
    Option EmbeddingResult := do
  let schemaVersion ← readDefaulted raw (pyStr "schema_version")
    defaultSchemaVersion rules.readInt
  let jobId ← readRequired raw (pyStr "job_id") readStr
  let status ← readRequired raw (pyStr "status") readStatus
  let error ← readDefaulted raw (pyStr "error") none
    (readOptional readJobError)
  let modelName ← readDefaulted raw (pyStr "model_name") none
    (readOptional readStr)
  let dimensions ← readDefaulted raw (pyStr "dimensions") none
    (readOptional rules.readInt)
  let inputType ← readDefaulted raw (pyStr "input_type") none
    (readOptional readInputType)
  let normalized ← readDefaulted raw (pyStr "normalized") none
    (readOptional rules.readBool)
  let count ← readDefaulted raw (pyStr "count") 0 rules.readInt
  let truncated ← readDefaulted raw (pyStr "truncated") []
    (readList rules.readBool)
  let embeddings ← readDefaulted raw (pyStr "embeddings") []
    (readList (readList rules.readFloat))
  let metadata ← readDefaulted raw (pyStr "metadata") [] readDict
  let tookMs ← readDefaulted raw (pyStr "took_ms") PyFloat.zero
    rules.readFloat
  let batchTexts ← readDefaulted raw (pyStr "batch_texts") 0 rules.readInt
  let workerId ← readDefaulted raw (pyStr "worker_id") none
    (readOptional readStr)
  return {
    schemaVersion := schemaVersion
    jobId := jobId
    status := status
    error := error
    modelName := modelName
    dimensions := dimensions
    inputType := inputType
    normalized := normalized
    count := count
    truncated := truncated
    embeddings := embeddings
    metadata := metadata
    tookMs := tookMs
    batchTexts := batchTexts
    workerId := workerId }

/-- JSON as the two ends write and read it: what pydantic dumps a value as, or
`none` where it raises, and which value the parser of pydantic finds in a
body, or `none` where it gives up. -/
structure JsonFormat (Body : Type) where
  dumps : Json → Option Body
  reads : Body → Option Json

/-- What is read of a dump is the value as it is on the wire.  The parser may
give up: it has limits on nesting and on digits.  A `null` in place of a
number does not change the dump. -/
structure JsonFormat.KeepsValues {Body : Type} (format : JsonFormat Body) :
    Prop where
  reads : ∀ value body read, format.dumps value = some body →
    format.reads body = some read → read = value.onWire
  nulls : ∀ value : Json, value.hasPlainKeys = true →
    format.dumps value.onWire = format.dumps value

/-- `model_dump_json().encode()` of a result. -/
def EmbeddingResult.modelDumpJson {Body : Type} (format : JsonFormat Body)
    (result : EmbeddingResult) : Option Body :=
  format.dumps (.dict result.fields)

/-- `EmbeddingResult.model_validate_json`. -/
def EmbeddingResult.modelValidateJson {Body : Type}
    (format : JsonFormat Body) (rules : ResultRules) (body : Body) :
    Option EmbeddingResult :=
  match format.reads body with
  | some (.dict raw) => EmbeddingResult.modelValidate rules raw
  | _ => none

/-! ## Reading a result back -/

def PyFloat.isFinite : PyFloat → Bool
  | .finite _ _ _ => true
  | _ => false

/-- All numbers of a result outside its metadata are finite. -/
def EmbeddingResult.isFinite (result : EmbeddingResult) : Bool :=
  result.embeddings.all (fun row => row.all PyFloat.isFinite) &&
    result.tookMs.isFinite

/-- What both ends rely on: a value is read as it was written, and `null` is
no number. -/
structure ResultRules.ReadsBack (rules : ResultRules) : Prop where
  boolOf : ∀ flag, rules.boolOf (.bool flag) = .ok flag
  intOf : ∀ value, rules.intOf (.int value) = .ok value
  floatOf : ∀ value, rules.floatOf (.float value) = .ok value
  nullOf : ∀ value, rules.floatOf .null ≠ .ok value

section Values

variable {rules : ResultRules} {Value : Type} {write : Value → Json}
  {read : Json → Option Value}

theorem readInt_int (readsBack : rules.ReadsBack) (value : Int) :
    rules.readInt (.int value) = some value := by
  rw [ResultRules.readInt, readsBack.intOf]
  rfl

theorem readBool_bool (readsBack : rules.ReadsBack) (flag : Bool) :
    rules.readBool (.bool flag) = some flag := by
  rw [ResultRules.readBool, readsBack.boolOf]
  rfl

/-- A number comes back exactly when it is finite. -/
theorem readFloat_onWire (readsBack : rules.ReadsBack) (value : PyFloat) :
    rules.readFloat (Json.float value).onWire =
      if value.isFinite then some value else none := by
  have noNumber : rules.readFloat .null = none := by
    cases outcome : rules.floatOf .null with
    | error msg =>
        rw [ResultRules.readFloat, outcome]
        rfl
    | ok number =>
        exact False.elim (readsBack.nullOf number outcome)
  cases value with
  | finite negative significand exponent =>
      rw [ResultRules.readFloat, Json.onWire, readsBack.floatOf]
      rfl
  | infinite negative =>
      exact noNumber
  | nan =>
      exact noNumber

theorem readStatus_text (status : ResultStatus) :
    readStatus (.str status.text) = some status := by
  cases status <;> rfl

theorem readJobError_json (error : JobError) :
    readJobError error.json = some error := by
  obtain ⟨code, message⟩ := error
  cases code <;> rfl

theorem readInputType_text (inputType : InputType) :
    readInputType (.str inputType.text) = some inputType := by
  cases inputType <;> rfl

/-- An optional field comes back, where its values do and are not `null`. -/
theorem readOptional_onWire
    (readsBack : ∀ value, read (write value).onWire = some value)
    (notNull : ∀ value, (write value).onWire ≠ .null)
    (value : Option Value) :
    readOptional read (optionalJson write value).onWire = some value := by
  cases value with
  | none =>
      rfl
  | some value =>
      have same := readsBack value
      have present := notNull value
      change readOptional read (write value).onWire = some (some value)
      generalize (write value).onWire = written at same present
      unfold readOptional
      split
      · exact False.elim (present rfl)
      · rw [same]
        rfl

/-- A list comes back exactly when all its values do. -/
theorem readList_onWire (keeps : Value → Bool)
    (readsBack : ∀ value, read (write value).onWire =
      if keeps value then some value else none)
    (values : List Value) :
    readList read (listJson write values).onWire =
      if values.all keeps then some values else none := by
  change (Json.listOnWire (values.map write)).mapM read = _
  induction values with
  | nil =>
      rfl
  | cons value rest inductionHypothesis =>
      rw [List.map_cons, Json.listOnWire, List.mapM_cons,
        inductionHypothesis, readsBack, List.all_cons]
      cases keeps value <;> cases rest.all keeps <;> rfl

end Values

/-- The keys of a result's object. -/
theorem fieldNames_plain (result : EmbeddingResult) :
    (∀ key ∈ result.fields.map Prod.fst, PyStr.isUnicode key = true) ∧
      (result.fields.map Prod.fst).Nodup := by
  simp only [EmbeddingResult.fields, List.map_cons, List.map_nil]
  decide

/-- The object that is written for a result is read as that result, except
that its metadata is as written; or not at all, where a vector or the time is
not finite. -/
theorem modelValidate_onWire {rules : ResultRules}
    (readsBack : rules.ReadsBack) (result : EmbeddingResult) :
    EmbeddingResult.modelValidate rules
        (Json.entriesOnWire result.fields) =
      if result.isFinite then some result.onWire else none := by
  let raw := result.fields.map (fun entry => (entry.1, entry.2.onWire))
  have written : Json.entriesOnWire result.fields = raw :=
    entriesOnWire_of_keys (fieldNames_plain result).1
      (fieldNames_plain result).2
  have schemaVersion : readDefaulted raw (pyStr "schema_version")
      defaultSchemaVersion rules.readInt = some result.schemaVersion :=
    readInt_int readsBack _
  have jobId :
      readRequired raw (pyStr "job_id") readStr = some result.jobId :=
    rfl
  have status :
      readRequired raw (pyStr "status") readStatus = some result.status :=
    readStatus_text _
  have error : readDefaulted raw (pyStr "error") none
      (readOptional readJobError) = some result.error :=
    readOptional_onWire readJobError_json (fun _ => Json.noConfusion) _
  have modelName : readDefaulted raw (pyStr "model_name") none
      (readOptional readStr) = some result.modelName :=
    readOptional_onWire (fun _ => rfl) (fun _ => Json.noConfusion) _
  have dimensions : readDefaulted raw (pyStr "dimensions") none
      (readOptional rules.readInt) = some result.dimensions :=
    readOptional_onWire (readInt_int readsBack)
      (fun _ => Json.noConfusion) _
  have inputType : readDefaulted raw (pyStr "input_type") none
      (readOptional readInputType) = some result.inputType :=
    readOptional_onWire readInputType_text (fun _ => Json.noConfusion) _
  have normalized : readDefaulted raw (pyStr "normalized") none
      (readOptional rules.readBool) = some result.normalized :=
    readOptional_onWire (readBool_bool readsBack)
      (fun _ => Json.noConfusion) _
  have count : readDefaulted raw (pyStr "count") 0 rules.readInt =
      some result.count :=
    readInt_int readsBack _
  have truncated : readDefaulted raw (pyStr "truncated") []
      (readList rules.readBool) = some result.truncated := by
    have always : ∀ flag, rules.readBool (Json.bool flag).onWire =
        if (fun _ => true) flag then some flag else none :=
      readBool_bool readsBack
    refine (readList_onWire _ always result.truncated).trans ?_
    rw [if_pos (List.all_eq_true.mpr (fun _ _ => rfl))]
  have embeddings : readDefaulted raw (pyStr "embeddings") []
      (readList (readList rules.readFloat)) =
        if result.embeddings.all (fun row => row.all PyFloat.isFinite) then
          some result.embeddings
        else
          none :=
    readList_onWire _
      (readList_onWire PyFloat.isFinite (readFloat_onWire readsBack)) _
  have metadata : readDefaulted raw (pyStr "metadata") [] readDict =
      some (Json.entriesOnWire result.metadata) :=
    rfl
  have tookMs : readDefaulted raw (pyStr "took_ms") PyFloat.zero
      rules.readFloat =
        if result.tookMs.isFinite then some result.tookMs else none :=
    readFloat_onWire readsBack _
  have batchTexts : readDefaulted raw (pyStr "batch_texts") 0
      rules.readInt = some result.batchTexts :=
    readInt_int readsBack _
  have workerId : readDefaulted raw (pyStr "worker_id") none
      (readOptional readStr) = some result.workerId :=
    readOptional_onWire (fun _ => rfl) (fun _ => Json.noConfusion) _
  rw [written, EmbeddingResult.modelValidate, schemaVersion, jobId, status, error,
    modelName, dimensions, inputType, normalized, count, truncated,
    embeddings, metadata, tookMs, batchTexts, workerId,
    EmbeddingResult.isFinite]
  cases result.embeddings.all (fun row => row.all PyFloat.isFinite) <;>
    cases result.tookMs.isFinite <;> rfl

/-! ## The round trip -/

section RoundTrip

variable {Body : Type} {format : JsonFormat Body} {rules : ResultRules}
  {result : EmbeddingResult} {body : Body}

/-- The keys of a result are those of its metadata. -/
theorem fields_havePlainKeys
    (plainKeys : Json.entriesHavePlainKeys result.metadata = true) :
    (Json.dict result.fields).hasPlainKeys = true := by
  have optional : ∀ {Value : Type} {write : Value → Json}
      (value : Option Value), (∀ value, (write value).hasPlainKeys = true) →
        (optionalJson write value).hasPlainKeys = true := by
    intro Value write value plainKeys
    cases value with
    | none =>
        rfl
    | some value =>
        exact plainKeys value
  have rows : ∀ row : List PyFloat,
      (listJson Json.float row).hasPlainKeys = true :=
    listHasPlainKeys_map (fun _ => rfl)
  refine entriesHavePlainKeys_of_keys (fieldNames_plain result).1
    (fieldNames_plain result).2 ?_
  simp only [EmbeddingResult.fields, List.map_cons, List.map_nil,
    List.forall_mem_cons]
  exact ⟨rfl, rfl, rfl, optional _ (fun _ => rfl), optional _ (fun _ => rfl),
    optional _ (fun _ => rfl), optional _ (fun _ => rfl),
    optional _ (fun _ => rfl), rfl, listHasPlainKeys_map (fun _ => rfl) _,
    listHasPlainKeys_map rows _, plainKeys, rfl, rfl, optional _ (fun _ => rfl), List.forall_mem_nil _⟩

/-- What was read is dumped as the result itself. -/
theorem onWire_modelDumpJson (keepsValues : format.KeepsValues)
    (plainKeys : Json.entriesHavePlainKeys result.metadata = true) :
    result.onWire.modelDumpJson format = result.modelDumpJson format := by
  have same : (Json.dict result.onWire.fields).onWire =
      (Json.dict result.fields).onWire := by
    let written := result.fields.map
      (fun entry => (entry.1, entry.2.onWire))
    have others : ∀ metadata,
        { result with metadata := metadata }.fields.map
            (fun entry : PyStr × Json => (entry.1, entry.2.onWire)) =
          written.take 11 ++
            (pyStr "metadata", .dict (Json.entriesOnWire metadata)) ::
              written.drop 12 :=
      fun _ => rfl
    rw [Json.onWire, Json.onWire,
      entriesOnWire_of_keys (fieldNames_plain _).1 (fieldNames_plain _).2,
      entriesOnWire_of_keys (fieldNames_plain _).1 (fieldNames_plain _).2,
      EmbeddingResult.onWire, others, entriesOnWire_twice]
    exact congrArg Json.dict (others result.metadata).symm
  have keys := (Json.entriesOnWire_arePlain result.metadata).2
  calc
    format.dumps (.dict result.onWire.fields)
        = format.dumps (Json.dict result.onWire.fields).onWire :=
      (keepsValues.nulls _ (fields_havePlainKeys keys)).symm
    _ = format.dumps (Json.dict result.fields).onWire := by
      rw [same]
    _ = format.dumps (.dict result.fields) :=
      keepsValues.nulls _ (fields_havePlainKeys plainKeys)

theorem onWire_eq_iff :
    result.onWire = result ↔ Json.EntriesArePlain result.metadata := by
  rw [← entriesOnWire_eq_iff]
  constructor
  · intro same
    exact congrArg EmbeddingResult.metadata same
  · intro same
    rw [EmbeddingResult.onWire, same]

/-- A body that the parser reads at all is the dumped result, or is rejected
where a number of the result is not finite. -/
theorem modelValidateJson_dumped (keepsValues : format.KeepsValues)
    (readsBack : rules.ReadsBack)
    (dumped : result.modelDumpJson format = some body)
    (parsed : format.reads body ≠ none) :
    EmbeddingResult.modelValidateJson format rules body =
      if result.isFinite then some result.onWire else none := by
  obtain ⟨read, found⟩ := Option.ne_none_iff_exists'.mp parsed
  have same : read = (Json.dict result.fields).onWire :=
    keepsValues.reads _ body read dumped found
  rw [EmbeddingResult.modelValidateJson, found, same]
  exact modelValidate_onWire readsBack result

end RoundTrip

/-! ## Both directions -/

section Formats

variable {Body : Type}

/-- Jobs and results in one format. -/
def JsonFormat.serialization (format : JsonFormat Body)
    (rules : ResultRules) (datetimeJson : Datetime → Json) :
    Serialization Body where
  dumpJob := fun job => format.dumps (.dict (job.fields datetimeJson))
  loadResult := EmbeddingResult.modelValidateJson format rules
  datetimeJson := datetimeJson

theorem texts_onWire (texts : List PyStr) :
    (Json.list (texts.map Json.str)).onWire =
      .list (texts.map Json.str) := by
  refine congrArg Json.list ?_
  induction texts with
  | nil =>
      rfl
  | cons text rest inductionHypothesis =>
      exact congrArg (Json.str text :: ·) inductionHypothesis

/-- A job is read with its metadata as they are on the wire, and nothing else
changed. -/
theorem jobFields_onWire {datetimeJson : Datetime → Json}
    (unchanged : ∀ value, (datetimeJson value).onWire = datetimeJson value)
    (job : EmbeddingJob) :
    Json.entriesOnWire (job.fields datetimeJson) =
      job.onWire.fields datetimeJson := by
  have names : (∀ key ∈ (job.fields datetimeJson).map Prod.fst,
      PyStr.isUnicode key = true) ∧
        ((job.fields datetimeJson).map Prod.fst).Nodup := by
    simp only [EmbeddingJob.fields, List.map_cons, List.map_nil]
    decide
  have deadline : ((job.deadline.map datetimeJson).getD .null).onWire =
      (job.deadline.map datetimeJson).getD .null := by
    cases job.deadline with
    | none =>
        rfl
    | some value =>
        exact unchanged value
  rw [entriesOnWire_of_keys names.1 names.2, EmbeddingJob.fields]
  simp only [List.map_cons, List.map_nil, texts_onWire, deadline]
  rfl

/-- Where both parsers read what was written, both ends of the wire agree. -/
theorem JsonFormat.faithful {format : JsonFormat Body} {rules : ResultRules}
    {datetimeJson : Datetime → Json} {python : Interpreter Body}
    (keepsValues : format.KeepsValues) (readsBack : rules.ReadsBack)
    (sameRules : python.toValueRules = rules.toValueRules)
    (strOf : ∀ value, python.strOf (.str value) = some value)
    (unchanged : ∀ value, (datetimeJson value).onWire = datetimeJson value)
    (datetimeOf : ∀ value, datetimeJson value ≠ .null ∧
      python.datetimeOf (datetimeJson value) = .ok value)
    (loads : ∀ value body, format.dumps value = some body →
      python.loads body = .value value.onWire) :
    (format.serialization rules datetimeJson).Faithful python
      (EmbeddingResult.modelDumpJson format) where
  boolOf := by
    rw [sameRules]
    exact readsBack.boolOf
  intOf := by
    rw [sameRules]
    exact readsBack.intOf
  datetimeOf := datetimeOf
  strOf := strOf
  jobs := by
    intro job body dumped
    rw [loads _ body dumped, Json.onWire, jobFields_onWire unchanged]
    rfl
  results := by
    intro result body loaded dumped read
    have parsed : format.reads body ≠ none := by
      intro none
      change EmbeddingResult.modelValidateJson format rules body = _ at read
      rw [EmbeddingResult.modelValidateJson, none] at read
      cases read
    have known := modelValidateJson_dumped keepsValues readsBack dumped parsed
    change EmbeddingResult.modelValidateJson format rules body = _ at read
    rw [read] at known
    split at known
    · cases known
      rfl
    · cases known

end Formats

/-- A client reads a dumped result back, with its metadata as they are on the
wire and nothing else changed, exactly when its vectors and its time are
finite.  What it reads is the result itself exactly when the metadata are
plain, and is dumped as the same body where their keys are. -/
theorem resultsReadBack {Body : Type} (format : JsonFormat Body)
    (rules : ResultRules) (keepsValues : format.KeepsValues)
    (readsBack : rules.ReadsBack) (result : EmbeddingResult) (body : Body)
    (dumped : result.modelDumpJson format = some body)
    (parsed : format.reads body ≠ none) (loaded : EmbeddingResult) :
    (EmbeddingResult.modelValidateJson format rules body = some loaded ↔
      result.isFinite = true ∧ loaded = result.onWire) ∧
    (loaded = result.onWire →
      (loaded = result ↔
        Json.entriesAreFinite result.metadata = true ∧
          Json.entriesHavePlainKeys result.metadata = true) ∧
      (Json.entriesHavePlainKeys result.metadata = true →
        loaded.modelDumpJson format = some body)) := by
  constructor
  · rw [modelValidateJson_dumped keepsValues readsBack dumped parsed]
    by_cases finite : result.isFinite = true
    · rw [if_pos finite, Option.some.injEq]
      constructor
      · intro same
        exact ⟨finite, same.symm⟩
      · intro same
        exact same.2.symm
    · rw [if_neg finite]
      constructor
      · intro read
        cases read
      · intro same
        exact False.elim (finite same.1)
  · intro read
    rw [read]
    refine ⟨onWire_eq_iff, ?_⟩
    intro plainKeys
    exact (onWire_modelDumpJson keepsValues plainKeys).trans dumped

def jsonRules : ResultRules :=
  { wireRules with
    floatOf := fun value =>
      match value with
      | .float number => .ok number
      | _ => .error (pyStr "Input should be a valid number") }

theorem jsonRules_readsBack : jsonRules.ReadsBack where
  boolOf := fun _ => rfl
  intOf := fun _ => rfl
  floatOf := fun _ => rfl
  nullOf := by
    intro value read
    cases read

/-- Bodies that are not printed. -/
def jsonFormat : JsonFormat Json where
  dumps := fun value => some value.onWire
  reads := some

theorem jsonFormat_keepsValues : jsonFormat.KeepsValues where
  reads := by
    intro value body read dumped found
    cases dumped
    cases found
    rfl
  nulls := by
    intro value _
    exact congrArg some (Json.onWire_of_plain _ (Json.onWire_isPlain value))

/-- Workers that read and write the objects themselves. -/
def jsonEnvironment : Environment Json where
  settings := .oneText
  schemaSettings := .defaults
  python :=
    { wireRules with
      loads := Loads.value
      strOf := fun value =>
        match value with
        | .str text => some text
        | _ => some (pyStr "other") }
  engine := { modelName := pyStr "model", dimensions := 1 }
  dumpResult := EmbeddingResult.modelDumpJson jsonFormat

def jsonClient : ClientEnvironment Json where
  settings := .defaults
  schemaSettings := .defaults
  rules := wireRules
  serialization :=
    jsonFormat.serialization jsonRules wireSerialization.datetimeJson

theorem jsonClient_faithful :
    jsonClient.serialization.Faithful jsonEnvironment.python
      jsonEnvironment.dumpResult := by
  apply JsonFormat.faithful jsonFormat_keepsValues jsonRules_readsBack
  · rfl
  · intro value
    rfl
  · intro value
    obtain ⟨wall, offset⟩ := value
    cases offset <;> rfl
  · exact wire_faithful.datetimeOf
  · intro value body dumped
    cases dumped
    rfl

/-- A result of one text, with what the client attached to it. -/
def markedResult (component : PyFloat) (metadata : PyDict) :
    EmbeddingResult where
  jobId := pyStr "job"
  status := .ok
  count := 1
  truncated := [false]
  embeddings := [[component]]
  metadata := metadata

/-- A score that is no number is lost on the way, and so is a key with a
surrogate; a vector that holds no number makes the result unreadable. -/
theorem resultsReadBack_scores :
    (∀ metadata ∈
        [[(pyStr "score", Json.float .nan)], [([0xD800], Json.int 1)]],
      EmbeddingResult.modelValidateJson jsonFormat jsonRules
          (Json.dict (markedResult .zero metadata).fields).onWire =
        some (markedResult .zero metadata).onWire ∧
      (markedResult .zero metadata).onWire ≠
        markedResult .zero metadata) ∧
    ∀ loaded, EmbeddingResult.modelValidateJson jsonFormat jsonRules
        (Json.dict (markedResult .nan []).fields).onWire ≠ some loaded := by
  constructor
  · intro metadata listed
    have marked := resultsReadBack jsonFormat jsonRules
      jsonFormat_keepsValues jsonRules_readsBack
      (markedResult .zero metadata) _ rfl (Option.some_ne_none _)
      (markedResult .zero metadata).onWire
    refine ⟨marked.1.mpr ⟨rfl, rfl⟩, ?_⟩
    intro same
    obtain ⟨finite, plainKeys⟩ := (marked.2 rfl).1.mp same
    rcases List.mem_pair.mp listed with rfl | rfl
    · cases finite
    · cases plainKeys
  · intro loaded read
    have finite := ((resultsReadBack jsonFormat jsonRules
      jsonFormat_keepsValues jsonRules_readsBack (markedResult .nan []) _ rfl
      (Option.some_ne_none _) loaded).1.mp read).1
    cases finite

end EmbeddingService
