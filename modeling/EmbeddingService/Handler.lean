import EmbeddingService.Library.CallProgram
import EmbeddingService.Contracts.Schemas

/-!
# What a worker does with a message, minus the broker

Rejecting a body, dropping an expired job, and splitting one encode over the
jobs of a batch.
-/

namespace EmbeddingService

/-- An exception object; only its text is ever used. -/
structure PyException where
  text : PyStr
  deriving DecidableEq

/-! ## Error replies -/

/-- `error_result`. -/
def errorResult (jobId : PyStr) (code : ErrorCode) (message : PyStr)
    (metadata : Option PyDict) (workerId : Option PyStr) :
    EmbeddingResult :=
  { jobId := jobId
    status := .error
    error := some { code := code, message := message }
    metadata := metadata.getD []
    workerId := workerId }

/-- How `json.loads` ends.  Decoding and syntax errors are caught by
`parse_job`; an integer literal over the digit limit raises a plain
`ValueError`, and deep nesting a `RecursionError`. -/
inductive Loads where
  | value (value : Json)
  | decodeError (text : PyStr)
  | valueError
  | recursionError

/-- The interpreter and its libraries, as far as parsing depends on them.
`strOf` is `none` where `str` raises `RecursionError`. -/
structure Interpreter (Body : Type) extends ValueRules where
  loads : Body → Loads
  strOf : Json → Option PyStr

/-- An exception that `parse_job` lets through. -/
inductive ParseEscape where
  | valueError
  | recursionError
  deriving DecidableEq

/-- `(job, None)` or `(None, error_reply)`. -/
inductive Parsed where
  | job (job : EmbeddingJob)
  | rejection (result : EmbeddingResult)

/-- One error as `parse_job` prints it. -/
def ErrorDetail.text (detail : ErrorDetail) : PyStr :=
  let path := PyStr.join (pyStr ".") detail.loc
  (if path.isEmpty then pyStr "body" else path) ++ pyStr ": " ++ detail.msg

/-- `raw["job_id"] = fallback_id` where the body has no id of its own. -/
def withFallbackId (raw : PyDict) (fallbackId : Option PyStr) : PyDict :=
  match fallbackId with
  | some (point :: rest) =>
      if PyDict.getTruthy raw (pyStr "job_id") then
        raw
      else
        PyDict.set raw (pyStr "job_id") (.str (point :: rest))
  | _ => raw

/-- `str(raw.get("job_id") or "unknown")`. -/
def rejectedId {Body : Type} (python : Interpreter Body) (raw : PyDict) :
    Option PyStr :=
  match PyDict.get raw (pyStr "job_id") with
  | none => some (pyStr "unknown")
  | some value =>
      if value.truthy then python.strOf value else some (pyStr "unknown")

/-- `metadata if isinstance(metadata, dict) else None`. -/
def rejectedMetadata (raw : PyDict) : Option PyDict :=
  match PyDict.get raw (pyStr "metadata") with
  | some (.dict entries) => some entries
  | _ => none

/-- `parse_job`.  The job id comes from the body, else from the properties of
the message. -/
def parseJob {Body : Type} (settings : Settings) (python : Interpreter Body)
    (freshId : PyStr) (body : Body) (fallbackId workerId : Option PyStr) :
    Except ParseEscape Parsed :=
  match python.loads body with
  | .valueError => .error .valueError
  | .recursionError => .error .recursionError
  | .decodeError text =>
      .ok (.rejection
        (errorResult (orDefault fallbackId (pyStr "unknown"))
          .validationError (pyStr "body is not JSON: " ++ text)
          none workerId))
  | .value (.dict entries) =>
      let raw := withFallbackId entries fallbackId
      match EmbeddingJob.modelValidate settings python.toValueRules
          freshId raw with
      | .ok job => .ok (.job job)
      | .error .recursionError => .error .recursionError
      | .error (.invalid errors) =>
          match rejectedId python raw with
          | none => .error .recursionError
          | some jobId =>
              .ok (.rejection
                (errorResult jobId .validationError
                  (PyStr.join (pyStr "; ") (errors.map ErrorDetail.text))
                  (rejectedMetadata raw) workerId))
  | .value _ =>
      .ok (.rejection
        (errorResult (orDefault fallbackId (pyStr "unknown"))
          .validationError (pyStr "body must be a JSON object")
          none workerId))

/-- `is_expired`. -/
def isExpired (job : EmbeddingJob) (now : Instant) : Bool :=
  match job.deadline with
  | none => false
  | some deadline => deadline.instant ≤ now

/-! ## Encoding -/

/-- One call `engine.encode(texts, input_type=…, normalize=…)`. -/
structure EncodeCall where
  texts : List PyStr
  inputType : InputType
  normalize : Bool
  deriving DecidableEq

structure EncodeResult where
  embeddings : List (List PyFloat)
  truncated : List Bool
  tookMs : PyFloat

/-- The constant attributes of the engine. -/
structure EngineInfo where
  modelName : PyStr
  dimensions : Int

/-- What a call of the engine raises or returns. -/
abbrev EngineReply := Except PyException EncodeResult

abbrev EncodeProgram := CallProgram EncodeCall EngineReply

/-- What a job of a batch gets: a result, or the exception of its encode. -/
abbrev Outcome := Except PyException EmbeddingResult

/-- `values[start:stop]`. -/
def slice {Value : Type} (values : List Value) (start stop : Nat) :
    List Value :=
  (values.take stop).drop start

/-- The result of one job of an encode, at its offset. -/
def jobResult (engine : EngineInfo) (workerId : Option PyStr)
    (request : EncodeCall) (encoded : EncodeResult) (offset : Nat)
    (job : EmbeddingJob) : EmbeddingResult :=
  { jobId := job.jobId
    status := .ok
    modelName := some engine.modelName
    dimensions := some engine.dimensions
    inputType := some request.inputType
    normalized := some request.normalize
    count := job.input.length
    truncated := slice encoded.truncated offset (offset + job.input.length)
    embeddings := slice encoded.embeddings offset (offset + job.input.length)
    metadata := job.metadata
    tookMs := encoded.tookMs
    batchTexts := request.texts.length
    workerId := workerId }

/-- The loop of `encode_jobs` that splits the vectors back out. -/
def splitResults (engine : EngineInfo) (workerId : Option PyStr)
    (request : EncodeCall) (encoded : EncodeResult) :
    Nat → List EmbeddingJob → List EmbeddingResult
  | _, [] => []
  | offset, job :: rest =>
      jobResult engine workerId request encoded offset job ::
        splitResults engine workerId request encoded
          (offset + job.input.length) rest

/-- `texts` of `encode_jobs`. -/
def allTexts (jobs : List EmbeddingJob) : List PyStr :=
  jobs.flatMap (fun job => job.input)

/-- The call `encode_jobs` makes for jobs that share the first one's key. -/
def combinedCall (first : EmbeddingJob) (rest : List EmbeddingJob) :
    EncodeCall :=
  { texts := allTexts (first :: rest)
    inputType := first.inputType
    normalize := first.normalize }

/-- `encode_jobs`: one call for all jobs. -/
def encodeJobs (engine : EngineInfo) (workerId : Option PyStr) :
    List EmbeddingJob →
      EncodeProgram (Except PyException (List EmbeddingResult))
  | [] => .done (.ok [])
  | first :: rest =>
      if (first :: rest).any (fun job =>
          job.inputType != first.inputType ||
            job.normalize != first.normalize) then
        .done (.error
          ⟨pyStr "jobs in one batch must share input_type and normalize"⟩)
      else
        .call (combinedCall first rest)
          (fun reply =>
            match reply with
            | .error raised => .done (.error raised)
            | .ok encoded =>
                .done (.ok (splitResults engine workerId
                  (combinedCall first rest) encoded 0 (first :: rest))))

/-- The retry loop: `outcomes` are those of the jobs before. -/
def encodeOneByOne (engine : EngineInfo) (workerId : Option PyStr) :
    List Outcome → List EmbeddingJob → EncodeProgram (List Outcome)
  | outcomes, [] => .done outcomes
  | outcomes, job :: rest =>
      (encodeJobs engine workerId [job]).andThen (fun encoded =>
        match encoded with
        | .ok results =>
            encodeOneByOne engine workerId
              (outcomes ++ results.map Except.ok) rest
        | .error raised =>
            encodeOneByOne engine workerId
              (outcomes ++ [.error raised]) rest)

/-- `encode_jobs_isolating_failures`: if the combined encode raises, every job
is retried on its own. -/
def encodeJobsIsolatingFailures (engine : EngineInfo)
    (workerId : Option PyStr) (jobs : List EmbeddingJob) :
    EncodeProgram (List Outcome) :=
  (encodeJobs engine workerId jobs).andThen (fun encoded =>
    match encoded with
    | .ok results => .done (results.map Except.ok)
    | .error raised =>
        if jobs.length = 1 then
          .done [.error raised]
        else
          encodeOneByOne engine workerId [] jobs)

end EmbeddingService
