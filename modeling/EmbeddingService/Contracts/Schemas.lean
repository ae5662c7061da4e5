import EmbeddingService.Contracts.Config

/-!
# Wire contracts

Jobs, results and the validation of a decoded body.  Each field keeps its own
checks and texts.  What pydantic and the standard library do to a single value
is a parameter; the order of the checks and the validators of the service are
modelled.
-/

namespace EmbeddingService

def defaultSchemaVersion : Int := 1

def resultType : PyStr := pyStr "embedding.result.v1"

inductive InputType where
  | passage
  | query
  deriving DecidableEq, Repr

inductive ErrorCode where
  | validationError
  | expired
  | internalError
  | deadLettered
  deriving DecidableEq, Repr

inductive ResultStatus where
  | ok
  | error
  deriving DecidableEq, Repr

/-- Microseconds since the epoch, in UTC. -/
abbrev Instant := Int

/-- A `datetime`: its wall clock in microseconds since the epoch, and the
offset from UTC when it is aware. -/
structure Datetime where
  wall : Int
  offset : Option Int
  deriving DecidableEq, Repr

/-- The instant of a `datetime`; a naive one is read as UTC. -/
def Datetime.instant (value : Datetime) : Instant :=
  value.wall - value.offset.getD 0

structure EmbeddingRequest where
  input : List PyStr
  inputType : InputType := .passage
  normalize : Bool := true

/-- `EmbeddingJob`: the body of a request message. -/
structure EmbeddingJob extends EmbeddingRequest where
  schemaVersion : Int := defaultSchemaVersion
  jobId : PyStr
  deadline : Option Datetime := none
  metadata : PyDict := []

structure JobError where
  code : ErrorCode
  message : PyStr
  deriving DecidableEq

/-- `EmbeddingResult`: the body of a reply. -/
structure EmbeddingResult where
  schemaVersion : Int := defaultSchemaVersion
  jobId : PyStr
  status : ResultStatus
  error : Option JobError := none
  modelName : Option PyStr := none
  dimensions : Option Int := none
  inputType : Option InputType := none
  normalized : Option Bool := none
  count : Int := 0
  truncated : List Bool := []
  embeddings : List (List PyFloat) := []
  metadata : PyDict := []
  tookMs : PyFloat := PyFloat.zero
  batchTexts : Int := 0
  workerId : Option PyStr := none

/-- What pydantic and `json` do with one value.  A text on the left is the
message of a validation error; `dumpedSize` is the number of bytes of the
compact dump of a dictionary, and `none` where dumping raises
`RecursionError`. -/
structure ValueRules where
  boolOf : Json → Except PyStr Bool
  intOf : Json → Except PyStr Int
  datetimeOf : Json → Except PyStr Datetime
  dumpedSize : PyDict → Option Nat

/-- One entry of `ValidationError.errors()`. -/
structure ErrorDetail where
  loc : List PyStr
  msg : PyStr
  deriving DecidableEq

/-- How `EmbeddingJob.model_validate` can fail.  Only the first is a
`ValidationError`. -/
inductive ValidationFailure where
  | invalid (errors : List ErrorDetail)
  | recursionError

abbrev Checked (Value : Type) := Except ErrorDetail Value

def Checked.errors {Value : Type} : Checked Value → List ErrorDetail
  | .error detail => [detail]
  | .ok _ => []

/-- A required field. -/
def requiredField {Value : Type} (raw : PyDict) (name : PyStr)
    (check : Json → Except PyStr Value) : Checked Value :=
  match raw.get name with
  | none => .error { loc := [name], msg := pyStr "Field required" }
  | some value =>
      (check value).mapError (fun msg => { loc := [name], msg := msg })

/-- A field with a default, which is used as it is. -/
def defaultedField {Value : Type} (raw : PyDict) (name : PyStr)
    (default : Value) (check : Json → Except PyStr Value) :
    Checked Value :=
  match raw.get name with
  | none => .ok default
  | some value =>
      (check value).mapError (fun msg => { loc := [name], msg := msg })

/-- The message of a `ValueError` raised by a validator. -/
def valueError (message : PyStr) : PyStr :=
  pyStr "Value error, " ++ message

/-- The loop of `_coerce_and_validate` over the texts. -/
def checkTexts (settings : Settings) :
    Nat → List Json → Except PyStr (List PyStr)
  | _, [] => .ok []
  | position, .str text :: rest =>
      let label :=
        pyStr "input[" ++ PyStr.ofInt position ++ pyStr "]"
      if PyStr.isBlank text then
        .error (label ++ pyStr " is empty")
      else if settings.maxCharsPerText < text.length then
        .error (label ++ pyStr " has " ++ PyStr.ofInt text.length ++
          pyStr " chars, over max_chars_per_text=" ++
          PyStr.ofInt settings.maxCharsPerText)
      else
        (checkTexts settings (position + 1) rest).map (text :: ·)
  | position, _ :: _ =>
      .error (pyStr "input[" ++ PyStr.ofInt position ++
        pyStr "] must be a string")

/-- `_coerce_and_validate`: a bare string counts as a list of one text. -/
def coerceAndValidate (settings : Settings) (value : Json) :
    Except PyStr (List PyStr) :=
  let values : Option (List Json) :=
    match value with
    | .str text => some [.str text]
    | .list values => some values
    | _ => none
  match values with
  | none => .error (pyStr "input must be a string or a list of strings")
  | some [] => .error (pyStr "input must contain at least one text")
  | some (first :: rest) =>
      if settings.maxBatchItems < (first :: rest).length then
        .error (pyStr "batch of " ++
          PyStr.ofInt (first :: rest).length ++
          pyStr " exceeds max_batch_items=" ++
          PyStr.ofInt settings.maxBatchItems)
      else
        checkTexts settings 0 (first :: rest)

def checkInput (settings : Settings) (value : Json) :
    Except PyStr (List PyStr) :=
  (coerceAndValidate settings value).mapError valueError

def notUnicode : PyStr :=
  pyStr ("Input should be a valid string, " ++
    "unable to parse raw data as a unicode string")

def checkInputType : Json → Except PyStr InputType
  | .str value =>
      if !PyStr.isUnicode value then
        .error notUnicode
      else if value = pyStr "passage" then
        .ok .passage
      else if value = pyStr "query" then
        .ok .query
      else
        .error (pyStr "Input should be 'passage' or 'query'")
  | _ => .error (pyStr "Input should be 'passage' or 'query'")

/-- A string of 1 to 128 code points. -/
def checkJobId : Json → Except PyStr PyStr
  | .str value =>
      if !PyStr.isUnicode value then
        .error notUnicode
      else if value.length < 1 then
        .error (pyStr "String should have at least 1 character")
      else if 128 < value.length then
        .error (pyStr "String should have at most 128 characters")
      else
        .ok value
  | _ => .error (pyStr "Input should be a valid string")

def checkDeadline (rules : ValueRules) :
    Json → Except PyStr (Option Datetime)
  | .null => .ok none
  | value => (rules.datetimeOf value).map some

/-- `metadata` with its validator `_cap_metadata`.  A `RecursionError` of
`json.dumps` is not a validation error. -/
def checkMetadata (settings : Settings) (rules : ValueRules)
    (raw : PyDict) : Except ValidationFailure (Checked PyDict) :=
  match raw.get (pyStr "metadata") with
  | none => .ok (.ok [])
  | some (.dict entries) =>
      match rules.dumpedSize entries with
      | none => .error .recursionError
      | some size =>
          if settings.mqMetadataMaxBytes < size then
            .ok (.error
              { loc := [pyStr "metadata"]
                msg := valueError (pyStr "metadata is " ++
                  PyStr.ofInt size ++
                  pyStr " bytes, over mq_metadata_max_bytes=" ++
                  PyStr.ofInt settings.mqMetadataMaxBytes) })
          else
            .ok (.ok entries)
  | some _ =>
      .ok (.error
        { loc := [pyStr "metadata"]
          msg := pyStr "Input should be a valid dictionary" })

/-- `EmbeddingJob.model_validate` of a decoded body.  Every field is checked
and all errors are reported; `freshId` is what `new_job_id` returns when the
body has no id. -/
def EmbeddingJob.modelValidate (settings : Settings) (rules : ValueRules)
    (freshId : PyStr) (raw : PyDict) :
    Except ValidationFailure EmbeddingJob := do
  let input := requiredField raw (pyStr "input") (checkInput settings)
  let inputType :=
    defaultedField raw (pyStr "input_type") InputType.passage checkInputType
  let normalize :=
    defaultedField raw (pyStr "normalize") true rules.boolOf
  let version :=
    defaultedField raw (pyStr "schema_version") defaultSchemaVersion
      rules.intOf
  let jobId := defaultedField raw (pyStr "job_id") freshId checkJobId
  let deadline :=
    defaultedField raw (pyStr "deadline") none (checkDeadline rules)
  let metadata ← checkMetadata settings rules raw
  match input, inputType, normalize, version, jobId, deadline, metadata with
  | .ok input, .ok inputType, .ok normalize, .ok version, .ok jobId,
      .ok deadline, .ok metadata =>
      .ok
        { input := input
          inputType := inputType
          normalize := normalize
          schemaVersion := version
          jobId := jobId
          deadline := deadline
          metadata := metadata }
  | input, inputType, normalize, version, jobId, deadline, metadata =>
      .error (.invalid (input.errors ++ inputType.errors ++
        normalize.errors ++ version.errors ++ jobId.errors ++
        deadline.errors ++ metadata.errors))

end EmbeddingService
