import EmbeddingService.Client.Results

/-!
# What the replies carry

A reply carries the id and the metadata of the job, or those of a rejected
body.  Both come from the body of the message, the id also from its
properties.
-/

namespace EmbeddingService

open LabelledRuns

section Dictionaries

variable {entries : PyDict} {key other : PyStr} {value : Json}

theorem get_cons (entry : PyStr × Json) (rest : PyDict) (key : PyStr) :
    PyDict.get (entry :: rest) key =
      if entry.1 = key then some entry.2 else PyDict.get rest key := by
  unfold PyDict.get
  by_cases same : entry.1 = key
  · simp [same]
  · have passed : (entry.1 == key) = false := by
      simpa using same
    rw [List.find?_cons, passed, if_neg same]

theorem get_set_self :
    PyDict.get (PyDict.set entries key value) key = some value := by
  unfold PyDict.set
  by_cases present : (entries.any (fun entry => entry.1 == key)) = true
  · rw [if_pos present]
    induction entries with
    | nil =>
        cases present
    | cons entry rest inductionHypothesis =>
        by_cases same : entry.1 = key
        · simp [get_cons, same]
        · have later :
              (rest.any (fun entry => entry.1 == key)) = true := by
            simpa [same] using present
          simpa [get_cons, same] using inductionHypothesis later
  · rw [if_neg present]
    induction entries with
    | nil =>
        simp [get_cons]
    | cons entry rest inductionHypothesis =>
        obtain ⟨same, later⟩ : entry.1 ≠ key ∧
            ¬ (rest.any (fun entry => entry.1 == key)) = true := by
          simpa using present
        simpa [get_cons, same] using inductionHypothesis later

theorem get_append_of_ne (different : key ≠ other) :
    PyDict.get (entries ++ [(key, value)]) other =
      PyDict.get entries other := by
  induction entries with
  | nil =>
      rw [List.nil_append, get_cons, if_neg different]
  | cons entry rest inductionHypothesis =>
      rw [List.cons_append, get_cons, get_cons, inductionHypothesis]

theorem get_replace_of_ne (different : key ≠ other) :
    PyDict.get (entries.map (fun entry =>
        if entry.1 == key then (key, value) else entry)) other =
      PyDict.get entries other := by
  induction entries with
  | nil =>
      rfl
  | cons entry rest inductionHypothesis =>
      by_cases same : entry.1 = key
      · simpa [get_cons, same, different] using inductionHypothesis
      · rw [List.map_cons, if_neg (by simpa using same), get_cons,
          get_cons, inductionHypothesis]

theorem get_set_of_ne (different : key ≠ other) :
    PyDict.get (PyDict.set entries key value) other =
      PyDict.get entries other := by
  unfold PyDict.set
  split
  · exact get_replace_of_ne different
  · exact get_append_of_ne different

theorem withFallbackId_get (entries : PyDict)
    (fallbackId : Option PyStr) (different : pyStr "job_id" ≠ other) :
    PyDict.get (withFallbackId entries fallbackId) other =
      PyDict.get entries other := by
  unfold withFallbackId
  split
  · split
    · rfl
    · exact get_set_of_ne different
  · rfl

/-- The id of a body is its own, or else the one of the properties. -/
theorem withFallbackId_id (entries : PyDict)
    (fallbackId : Option PyStr) :
    (PyDict.getTruthy entries (pyStr "job_id") = true ∨
        truthy fallbackId = false) ∧
        withFallbackId entries fallbackId = entries ∨
      PyDict.getTruthy entries (pyStr "job_id") = false ∧
        ∃ id, fallbackId = some id ∧ id ≠ [] ∧
          PyDict.get (withFallbackId entries fallbackId)
            (pyStr "job_id") = some (.str id) := by
  unfold withFallbackId
  split
  · next point rest =>
      by_cases own : PyDict.getTruthy entries (pyStr "job_id") = true
      · rw [if_pos own]
        exact Or.inl ⟨Or.inl own, rfl⟩
      · rw [if_neg own]
        exact Or.inr ⟨by simpa using own, _, rfl, List.cons_ne_nil _ _,
          get_set_self⟩
  · next unset =>
      refine Or.inl ⟨Or.inr ?_, rfl⟩
      cases fallbackId with
      | none =>
          rfl
      | some id =>
          cases id with
          | nil =>
              rfl
          | cons point rest =>
              exact False.elim (unset point rest rfl)

end Dictionaries

/-! ## What is parsed -/

section Parsing

variable {Body : Type} {settings : Settings} {python : Interpreter Body}
  {freshId : PyStr} {body : Body} {fallbackId workerId : Option PyStr}

/-- A parsed job comes from an object. -/
theorem parseJob_job {job : EmbeddingJob}
    (returned : parseJob settings python freshId body fallbackId workerId =
      .ok (.job job)) :
    ∃ entries, python.loads body = .value (.dict entries) ∧
      EmbeddingJob.modelValidate settings python.toValueRules freshId
        (withFallbackId entries fallbackId) = .ok job := by
  unfold parseJob at returned
  split at returned
  · cases returned
  · cases returned
  · cases returned
  · next entries loaded =>
      refine ⟨entries, loaded, ?_⟩
      dsimp only at returned
      split at returned
      · next job validated =>
          cases returned
          exact validated
      · cases returned
      · split at returned
        · cases returned
        · cases returned
  · cases returned

/-- A rejection carries the id of the properties, or the id and the metadata
of the object it rejects. -/
theorem parseJob_rejection {result : EmbeddingResult}
    (returned : parseJob settings python freshId body fallbackId workerId =
      .ok (.rejection result)) :
    ((∀ entries, python.loads body ≠ .value (.dict entries)) ∧
        result.jobId = orDefault fallbackId (pyStr "unknown") ∧
        result.metadata = []) ∨
      ∃ entries, python.loads body = .value (.dict entries) ∧
        rejectedId python (withFallbackId entries fallbackId) =
          some result.jobId ∧
        result.metadata = (rejectedMetadata
          (withFallbackId entries fallbackId)).getD [] := by
  unfold parseJob at returned
  split at returned
  · cases returned
  · cases returned
  · next text loaded =>
      cases returned
      refine Or.inl ⟨?_, rfl, rfl⟩
      intro entries
      rw [loaded]
      exact Loads.noConfusion
  · next entries loaded =>
      refine Or.inr ⟨entries, loaded, ?_⟩
      dsimp only at returned
      split at returned
      · cases returned
      · cases returned
      · split at returned
        · cases returned
        · next jobId printed =>
            cases returned
            exact ⟨printed, rfl⟩
  · next value notObject loaded =>
      cases returned
      refine Or.inl ⟨?_, rfl, rfl⟩
      intro entries same
      rw [loaded] at same
      cases same
      exact notObject entries rfl

end Parsing

section Built

variable {Body : Type} (environment : Environment Body) (workerId : PyStr)
  (freshId : PyStr) (message : Message Body)

/-- The results a worker builds to answer a message: the rejection of its
body, or for its job the error that it expired, the error that its encode
failed, or a result of the encode. -/
inductive BuiltFor : EmbeddingResult → Prop
  | rejected {result : EmbeddingResult}
      (parsed : parseMessage environment workerId freshId message =
        .ok (.rejection result)) :
      BuiltFor result
  | expired {job : EmbeddingJob}
      (parsed : parseMessage environment workerId freshId message =
        .ok (.job job)) :
      BuiltFor (expiredError workerId job)
  | failed {job : EmbeddingJob}
      (parsed : parseMessage environment workerId freshId message =
        .ok (.job job)) :
      BuiltFor (internalError workerId job)
  | encoded {job : EmbeddingJob} {result : EmbeddingResult}
      (parsed : parseMessage environment workerId freshId message =
        .ok (.job job))
      (attributed : Attributed job result) :
      BuiltFor result

variable {environment workerId freshId message}

/-- Built for a job, a result has the id and the metadata of the job. -/
theorem BuiltFor.parsed {result : EmbeddingResult}
    (built : BuiltFor environment workerId freshId message result) :
    parseMessage environment workerId freshId message =
        .ok (.rejection result) ∨
      ∃ job, parseMessage environment workerId freshId message =
          .ok (.job job) ∧
        result.jobId = job.jobId ∧ result.metadata = job.metadata := by
  cases built with
  | rejected parsed =>
      exact Or.inl parsed
  | expired parsed =>
      exact Or.inr ⟨_, parsed, rfl, rfl⟩
  | failed parsed =>
      exact Or.inr ⟨_, parsed, rfl, rfl⟩
  | encoded parsed attributed =>
      exact Or.inr ⟨_, parsed, attributed.1, attributed.2.1⟩

/-- What a worker publishes carries a result it built for the message. -/
theorem published_built {lanes : List LaneName} {worker : Worker Body}
    (reachable : Reachable (WorkerStep environment)
      (Worker.start Body workerId lanes) worker)
    {lane : LaneName} {reply : Reply Body}
    (published : .published lane message reply ∈ worker.log) :
    ∃ freshId result body replyTo,
      BuiltFor environment workerId freshId message result ∧
        environment.dumpResult result = some body ∧
        message.replyTo = some replyTo ∧
        reply = replyMessage environment workerId lane message result
          replyTo body := by
  have sound := (workerSound_of_reachable reachable).ledgerSound
  obtain ⟨earlier, _, _, justified⟩ := sound.justified.of_mem published
  obtain ⟨result, retry, body, replyTo, answer, dumped, asked, same⟩ :=
    justified
  cases answer with
  | rejected parsed =>
      exact ⟨_, result, body, replyTo, .rejected parsed, dumped, asked,
        same⟩
  | expired parsed late indexed =>
      obtain ⟨freshId, returned⟩ := parsed
      exact ⟨freshId, _, body, replyTo, .expired returned, dumped, asked,
        same⟩
  | failed parsed queried =>
      obtain ⟨freshId, returned⟩ := parsed
      exact ⟨freshId, _, body, replyTo, .failed returned, dumped, asked,
        same⟩
  | encoded parsed good =>
      obtain ⟨freshId, returned⟩ := parsed
      exact ⟨freshId, result, body, replyTo, .encoded returned good, dumped,
        asked, same⟩

end Built

/-! ## Metadata -/

section Metadata

variable {Body : Type} {environment : Environment Body} {workerId : PyStr}
  {freshId : PyStr} {message : Message Body} {result : EmbeddingResult}

/-- The metadata object in a body; there is none unless the body is an
object. -/
def bodyMetadata (python : Interpreter Body) (body : Body) : PyDict :=
  match python.loads body with
  | .value (.dict entries) => (rejectedMetadata entries).getD []
  | _ => []

/-- The compact dump of a dictionary is within `mq_metadata_max_bytes`. -/
def MetadataCapped (environment : Environment Body) (metadata : PyDict) :
    Prop :=
  ∃ size, environment.python.dumpedSize metadata = some size ∧
    (size : Int) ≤ environment.schemaSettings.mqMetadataMaxBytes

theorem withFallbackId_metadata (entries : PyDict)
    (fallbackId : Option PyStr) :
    PyDict.get (withFallbackId entries fallbackId) (pyStr "metadata") =
      PyDict.get entries (pyStr "metadata") :=
  withFallbackId_get entries fallbackId (by decide)

/-- The metadata of an accepted object is the one it has. -/
theorem checkMetadata_accepts {settings : Settings} {rules : ValueRules}
    {raw metadata : PyDict}
    (checked : checkMetadata settings rules raw = .ok (.ok metadata)) :
    metadata = (rejectedMetadata raw).getD [] := by
  unfold checkMetadata at checked
  unfold rejectedMetadata
  split at checked
  · next absent =>
      cases checked
      rw [absent]
      rfl
  · next entries found =>
      split at checked
      · cases checked
      · split at checked
        · cases checked
        · cases checked
          rw [found]
          rfl
  · cases checked

/-- Every result echoes the metadata of the body. -/
theorem BuiltFor.metadata
    (built : BuiltFor environment workerId freshId message result) :
    result.metadata = bodyMetadata environment.python message.body := by
  rcases built.parsed with rejected | ⟨job, parsed, _, same⟩
  · unfold parseMessage at rejected
    rcases parseJob_rejection rejected with
      ⟨notObject, _, none⟩ | ⟨entries, loaded, _, echoed⟩
    · rw [none, bodyMetadata]
      split
      · next entries loaded =>
          exact False.elim (notObject entries loaded)
      · rfl
    · rw [echoed, bodyMetadata, loaded, rejectedMetadata,
        withFallbackId_metadata]
      rfl
  · unfold parseMessage at parsed
    obtain ⟨entries, loaded, validated⟩ := parseJob_job parsed
    have accepted :=
      checkMetadata_accepts (modelValidate_ok validated).2.2.2.2.2.2
    rw [same, accepted, bodyMetadata, loaded, rejectedMetadata,
      withFallbackId_metadata]
    rfl

/-- The metadata that a job has of its own is within the cap. -/
theorem accepted_metadataCapped {job : EmbeddingJob}
    (parsed : parseMessage environment workerId freshId message =
      .ok (.job job))
    (given : bodyMetadata environment.python message.body ≠ []) :
    MetadataCapped environment
      (bodyMetadata environment.python message.body) := by
  unfold parseMessage at parsed
  obtain ⟨entries, loaded, validated⟩ := parseJob_job parsed
  have checked := (modelValidate_ok validated).2.2.2.2.2.2
  have own : bodyMetadata environment.python message.body = job.metadata :=
    by
      rw [checkMetadata_accepts checked, bodyMetadata, loaded,
        rejectedMetadata, withFallbackId_metadata]
      rfl
  rw [own] at given ⊢
  unfold checkMetadata at checked
  split at checked
  · injection checked with checked
    injection checked with none
    exact False.elim (given none.symm)
  · split at checked
    · cases checked
    · next size dumped =>
        split at checked
        · cases checked
        · next fits =>
            cases checked
            exact ⟨size, dumped, Int.not_lt.mp fits⟩
  · cases checked

/-- The metadata that is read of a dumped result. -/
theorem read_metadata {format : JsonFormat Body}
    (keepsValues : format.KeepsValues) {body : Body} {read : Json}
    (dumped : result.modelDumpJson format = some body)
    (found : format.reads body = some read) :
    ∃ raw, read = .dict raw ∧
      PyDict.get raw (pyStr "metadata") =
        some (.dict (Json.entriesOnWire result.metadata)) := by
  refine ⟨_, keepsValues.reads _ body read dumped found, ?_⟩
  rw [entriesOnWire_of_keys (fieldNames_plain result).1
    (fieldNames_plain result).2]
  rfl

end Metadata

/-- The metadata of a published reply, which are what a reader finds in its
body, are within the cap exactly when those in the body of its message are, as
they are on the wire.  Plain metadata of an accepted job always are. -/
theorem replyMetadataCapped_iff {Body : Type}
    {environment : Environment Body} {format : JsonFormat Body}
    (dumps : environment.dumpResult =
      EmbeddingResult.modelDumpJson format)
    (keepsValues : format.KeepsValues) {workerId : PyStr}
    {lanes : List LaneName} {worker : Worker Body}
    (reachable : Reachable (WorkerStep environment)
      (Worker.start Body workerId lanes) worker)
    {lane : LaneName} {message : Message Body} {reply : Reply Body}
    (published : .published lane message reply ∈ worker.log) :
    ∃ (result : EmbeddingResult) (metadata : PyDict),
      result.modelDumpJson format = some reply.body ∧
      metadata = Json.entriesOnWire result.metadata ∧
      (∀ read, format.reads reply.body = some read →
        ∃ raw, read = .dict raw ∧
          PyDict.get raw (pyStr "metadata") = some (.dict metadata)) ∧
      (MetadataCapped environment metadata ↔
        MetadataCapped environment (Json.entriesOnWire
          (bodyMetadata environment.python message.body))) ∧
      ∀ freshId job,
        parseMessage environment workerId freshId message =
            .ok (.job job) →
          bodyMetadata environment.python message.body ≠ [] →
          Json.EntriesArePlain
              (bodyMetadata environment.python message.body) →
            MetadataCapped environment metadata := by
  obtain ⟨freshId, result, body, replyTo, built, dumped, _, same⟩ :=
    published_built reachable published
  have written : result.modelDumpJson format = some reply.body := by
    rw [same, ← dumps]
    exact dumped
  refine ⟨result, _, written, rfl,
    fun read found => read_metadata keepsValues written found, ?_, ?_⟩
  · rw [built.metadata]
  · intro otherId job parsed given plain
    rw [built.metadata, Json.entriesOnWire_of_plain _ plain]
    exact accepted_metadataCapped parsed given

/-- A cap of sixteen bytes. -/
def cappedEnvironment : Environment Json :=
  { jsonEnvironment with
    schemaSettings := { Settings.oneText with mqMetadataMaxBytes := 16 } }

/-- An expired index job with metadata. -/
def expiredMessage (metadata : PyDict) : Message Json where
  tag := 0
  body := .dict
    [(pyStr "input", .str (pyStr "text")),
      (pyStr "deadline", .list [.int 10, .int 0]),
      (pyStr "metadata", .dict metadata)]
  messageId := some (pyStr "job")
  replyTo := some (pyStr "replies")

/-- The expiry error echoes metadata that is within the cap. -/
theorem replyMetadataCapped_iff_expired :
    ∃ (worker : Worker Json) (reply : Reply Json) (raw metadata : PyDict),
      Reachable (WorkerStep cappedEnvironment)
        (Worker.start Json (pyStr "worker") [.index]) worker ∧
      .published .index
          (expiredMessage [(pyStr "chapter", .int 21)]) reply ∈
        worker.log ∧
      reply.body = .dict raw ∧
      PyDict.get raw (pyStr "metadata") = some (.dict metadata) ∧
      MetadataCapped cappedEnvironment metadata := by
  have reachable :=
    ((Reachable.refl (Worker.start Json (pyStr "worker") [.index])).tail
      (.consume rfl)).tail
      (@WorkerStep.receive Json cappedEnvironment _ .index
        (expiredMessage [(pyStr "chapter", .int 21)]) [] 20 0 rfl rfl
        (List.forall_mem_nil _))
  obtain ⟨result, metadata, _, _, found, capped, _⟩ :=
    replyMetadataCapped_iff rfl jsonFormat_keepsValues reachable
      (.tail _ (.head _))
  obtain ⟨raw, same, own⟩ := found _ rfl
  exact ⟨_, _, raw, metadata, reachable, .tail _ (.head _), same, own,
    capped.mpr ⟨14, rfl, by decide⟩⟩

/-- A message without input, whose metadata is over the cap. -/
def oversizedMessage : Message Json where
  tag := 0
  body := .dict
    [(pyStr "metadata",
      .dict [(pyStr "doc", .str (pyStr "chapter twenty-one"))])]
  messageId := some (pyStr "job")
  replyTo := some (pyStr "replies")

/-- The message gets a reply whose metadata are over the cap. -/
def RepliedOverCap (message : Message Json) : Prop :=
  ∃ (worker : Worker Json) (reply : Reply Json) (raw metadata : PyDict),
    Reachable (WorkerStep cappedEnvironment)
      (Worker.start Json (pyStr "worker") [.index]) worker ∧
    .published .index message reply ∈ worker.log ∧
    reply.body = .dict raw ∧
    PyDict.get raw (pyStr "metadata") = some (.dict metadata) ∧
    ¬ MetadataCapped cappedEnvironment metadata

/-- The rejection of a body echoes its metadata whatever the size is, and a
number that is written as `null` may be longer than it was. -/
theorem replyMetadataCapped_iff_rejected :
    RepliedOverCap oversizedMessage ∧
      RepliedOverCap (expiredMessage [(pyStr "chapters", .float .nan)]) := by
  have consuming :=
    (Reachable.refl (Worker.start Json (pyStr "worker") [.index])).tail
      (@WorkerStep.consume Json cappedEnvironment _ .index [] rfl)
  constructor
  · have rejected := consuming.tail
      (@WorkerStep.receive Json cappedEnvironment _ .index
        oversizedMessage [] 0 0 rfl rfl (List.forall_mem_nil _))
    refine ⟨_, _, _, _, rejected, .tail _ (.head _), rfl, rfl, ?_⟩
    rintro ⟨size, dumped, small⟩
    cases dumped
    revert small
    decide
  · have expired := consuming.tail
      (@WorkerStep.receive Json cappedEnvironment _ .index
        (expiredMessage [(pyStr "chapters", .float .nan)]) [] 20 0 rfl rfl
        (List.forall_mem_nil _))
    refine ⟨_, _, _, _, expired, .tail _ (.head _), rfl, rfl, ?_⟩
    rintro ⟨size, dumped, small⟩
    cases dumped
    revert small
    decide

/-! ## Ids -/

/-- An AMQP short string has at most 255 bytes. -/
def fitsShortString (text : PyStr) : Bool :=
  match text.utf8Length with
  | none => false
  | some length => length ≤ 255

/-- The id that a body has of its own, as text, is a short string. -/
def BodyIdFits {Body : Type} (python : Interpreter Body) (body : Body) :
    Prop :=
  ∀ entries value text, python.loads body = .value (.dict entries) →
    PyDict.get entries (pyStr "job_id") = some value →
    value.truthy = true → python.strOf value = some text →
      fitsShortString text = true

section Ids

variable {Body : Type} {python : Interpreter Body} {entries : PyDict}
  {fallbackId : Option PyStr} {id : PyStr}

theorem getTruthy_iff (entries : PyDict) (key : PyStr) :
    PyDict.getTruthy entries key = true ↔
      ∃ value, PyDict.get entries key = some value ∧
        value.truthy = true := by
  unfold PyDict.getTruthy
  cases PyDict.get entries key with
  | none =>
      simp
  | some value =>
      simp

/-- A body with no id of its own leaves nothing to fit. -/
theorem bodyIdFits_of_missing {body : Body}
    (loaded : python.loads body = .value (.dict entries))
    (missing : PyDict.getTruthy entries (pyStr "job_id") = false) :
    BodyIdFits python body := by
  intro other value text same found present _
  rw [loaded] at same
  cases same
  have own := (getTruthy_iff entries (pyStr "job_id")).mpr
    ⟨value, found, present⟩
  rw [missing] at own
  cases own

/-- A body with an id of its own fits exactly when that id does. -/
theorem bodyIdFits_iff {body : Body} {value : Json} {text : PyStr}
    (loaded : python.loads body = .value (.dict entries))
    (found : PyDict.get entries (pyStr "job_id") = some value)
    (present : value.truthy = true)
    (printed : python.strOf value = some text) :
    BodyIdFits python body ↔ fitsShortString text = true := by
  constructor
  · intro fits
    exact fits entries value text loaded found present printed
  · intro fits other otherValue otherText same otherFound _ otherPrinted
    rw [loaded] at same
    cases same
    rw [found] at otherFound
    cases otherFound
    rw [printed] at otherPrinted
    cases otherPrinted
    exact fits

/-- The id of a rejected object is a short string exactly when the one in the
object is. -/
theorem rejectedId_fits_iff {body : Body}
    (strings : ∀ text, python.strOf (.str text) = some text)
    (loaded : python.loads body = .value (.dict entries))
    (fallbackFits : ∀ text, fallbackId = some text →
      fitsShortString text = true)
    (rejected : rejectedId python (withFallbackId entries fallbackId) =
      some id) :
    fitsShortString id = true ↔ BodyIdFits python body := by
  unfold rejectedId at rejected
  rcases withFallbackId_id entries fallbackId with
    ⟨_, same⟩ | ⟨missing, text, given, notEmpty, found⟩
  · rw [same] at rejected
    have unknown : fitsShortString (pyStr "unknown") = true := by decide
    split at rejected
    · next absent =>
        cases rejected
        have missing :
            PyDict.getTruthy entries (pyStr "job_id") = false := by
          rw [PyDict.getTruthy, absent]
        exact iff_of_true unknown (bodyIdFits_of_missing loaded missing)
    · next value found =>
        by_cases present : value.truthy = true
        · rw [if_pos present] at rejected
          exact (bodyIdFits_iff loaded found present rejected).symm
        · rw [if_neg present] at rejected
          cases rejected
          have missing :
              PyDict.getTruthy entries (pyStr "job_id") = false := by
            rw [PyDict.getTruthy, found]
            simpa using present
          exact iff_of_true unknown (bodyIdFits_of_missing loaded missing)
  · rw [found] at rejected
    dsimp only at rejected
    have present : (Json.str text).truthy = true := by
      simpa [Json.truthy] using notEmpty
    rw [if_pos present, strings] at rejected
    cases rejected
    exact iff_of_true (fallbackFits _ given)
      (bodyIdFits_of_missing loaded missing)

/-- A validated id is a string that is not empty. -/
theorem checkJobId_ok {value : Json} (checked : checkJobId value = .ok id) :
    value = .str id ∧ id ≠ [] := by
  cases value with
  | str text =>
      have same := checkJobId_str checked
      refine ⟨congrArg Json.str same.symm, ?_⟩
      rintro rfl
      rw [← same] at checked
      cases checked
  | _ =>
      cases checked

/-- The id of a validated object is a short string exactly when the one in the
object is. -/
theorem jobId_fits_iff {body : Body} {freshId : PyStr}
    (strings : ∀ text, python.strOf (.str text) = some text)
    (loaded : python.loads body = .value (.dict entries))
    (fallbackFits : ∀ text, fallbackId = some text →
      fitsShortString text = true)
    (generated : fitsShortString freshId = true)
    (checked : defaultedField (withFallbackId entries fallbackId)
      (pyStr "job_id") freshId checkJobId = .ok id) :
    fitsShortString id = true ↔ BodyIdFits python body := by
  rcases withFallbackId_id entries fallbackId with
    ⟨_, same⟩ | ⟨missing, text, given, notEmpty, found⟩
  · rw [same] at checked
    cases found : PyDict.get entries (pyStr "job_id") with
    | none =>
        have missing :
            PyDict.getTruthy entries (pyStr "job_id") = false := by
          rw [PyDict.getTruthy, found]
        rw [defaultedField, found] at checked
        cases checked
        exact iff_of_true generated (bodyIdFits_of_missing loaded missing)
    | some value =>
        obtain ⟨isText, notEmpty⟩ :=
          checkJobId_ok (defaultedField_ok found checked)
        rw [isText] at found
        have present : (Json.str id).truthy = true := by
          simpa [Json.truthy] using notEmpty
        exact (bodyIdFits_iff loaded found present (strings id)).symm
  · obtain ⟨isText, _⟩ := checkJobId_ok (defaultedField_ok found checked)
    cases isText
    exact iff_of_true (fallbackFits _ given)
      (bodyIdFits_of_missing loaded missing)

end Ids

/-- The id of every result a worker builds is a short string exactly when the
one in the body is. -/
theorem BuiltFor.jobId_fits_iff {Body : Type}
    {environment : Environment Body} {workerId freshId : PyStr}
    {message : Message Body} {result : EmbeddingResult}
    (built : BuiltFor environment workerId freshId message result)
    (strings : ∀ text, environment.python.strOf (.str text) = some text)
    (generated : fitsShortString freshId = true)
    (messageIdFits : ∀ id, message.messageId = some id →
      fitsShortString id = true)
    (correlationIdFits : ∀ id, message.correlationId = some id →
      fitsShortString id = true) :
    fitsShortString result.jobId = true ↔
      BodyIdFits environment.python message.body := by
  have fallbackFits : ∀ id,
      either message.messageId message.correlationId = some id →
        fitsShortString id = true := by
    intro id chosen
    unfold either at chosen
    split at chosen
    · exact messageIdFits id chosen
    · exact correlationIdFits id chosen
  rcases built.parsed with rejected | ⟨job, parsed, same, _⟩
  · unfold parseMessage at rejected
    rcases parseJob_rejection rejected with
      ⟨notObject, sameId, _⟩ | ⟨entries, loaded, printed, _⟩
    · have noId : BodyIdFits environment.python message.body := by
        intro entries value text loaded
        exact False.elim (notObject entries loaded)
      refine iff_of_true ?_ noId
      rw [sameId]
      unfold orDefault
      split
      · decide
      · decide
      · next point rest given =>
          exact fallbackFits _ given
    · exact rejectedId_fits_iff strings loaded fallbackFits printed
  · unfold parseMessage at parsed
    obtain ⟨entries, loaded, validated⟩ := parseJob_job parsed
    have checked := (modelValidate_ok validated).2.2.2.2.1
    rw [same]
    exact EmbeddingService.jobId_fits_iff strings loaded fallbackFits
      generated checked

/-- The ids of every reply that a worker builds for a message, whose own ids
are short strings, are short strings exactly when the id that the body has of
its own is one: where the body has none they always are. -/
theorem replyIds_fit_iff {Body : Type}
    (environment : Environment Body) (workerId : PyStr) (lane : LaneName)
    (freshId : PyStr) (message : Message Body)
    (strings : ∀ text, environment.python.strOf (.str text) = some text)
    (generated : fitsShortString freshId = true)
    (messageIdFits : ∀ id, message.messageId = some id →
      fitsShortString id = true)
    (correlationIdFits : ∀ id, message.correlationId = some id →
      fitsShortString id = true)
    (result : EmbeddingResult)
    (built : BuiltFor environment workerId freshId message result)
    (replyTo : PyStr) (body : Body) :
    let reply :=
      replyMessage environment workerId lane message result replyTo body
    (fitsShortString reply.messageId = true ∧
        fitsShortString reply.correlationId = true) ↔
      BodyIdFits environment.python message.body := by
  intro reply
  have own := built.jobId_fits_iff strings generated messageIdFits
    correlationIdFits
  constructor
  · intro fits
    exact own.mp fits.1
  · intro fits
    have idFits := own.mpr fits
    refine ⟨idFits, ?_⟩
    change fitsShortString
      (orDefault message.correlationId result.jobId) = true
    unfold orDefault
    split
    · exact idFits
    · exact idFits
    · next point rest given =>
        exact correlationIdFits _ given

/-- An expired index job with an id of its own. -/
def namedMessage (jobId : PyStr) : Message WireBody where
  tag := 0
  body := .request
    [(pyStr "input", .str (pyStr "text")),
      (pyStr "deadline", .list [.int 10, .int 0]),
      (pyStr "job_id", .str jobId)]
  replyTo := some (pyStr "replies")

/-- A short id is answered under itself. -/
theorem replyIds_fit_iff_short :
    let message := namedMessage (pyStr "job")
    ∃ result, BuiltFor wireEnvironment (pyStr "worker") (pyStr "fresh")
        message result ∧
      fitsShortString (replyMessage wireEnvironment (pyStr "worker") .index
        message result (pyStr "replies") (.reply result)).messageId =
          true := by
  intro message
  obtain ⟨result, built⟩ : ∃ result, BuiltFor wireEnvironment
      (pyStr "worker") (pyStr "fresh") message result :=
    ⟨_, .expired rfl⟩
  have short : BodyIdFits wireEnvironment.python message.body :=
    (bodyIdFits_iff rfl rfl (by decide) rfl).mpr (by decide)
  have fits := replyIds_fit_iff wireEnvironment (pyStr "worker") .index
    (pyStr "fresh") message (fun _ => rfl) (by decide)
    (fun _ missing => nomatch missing) (fun _ missing => nomatch missing)
    result built (pyStr "replies") (.reply result)
  exact ⟨result, built, (fits.mpr short).1⟩

/-- A face, of four bytes in UTF-8. -/
def face : CodePoint := 0x1F600

/-- A validated job may have an id that no short string can hold. -/
theorem replyIds_fit_iff_faces :
    ∃ (worker : Worker WireBody) (reply : Reply WireBody),
      Reachable (WorkerStep wireEnvironment)
        (Worker.start WireBody (pyStr "worker") [.index]) worker ∧
      .published .index (namedMessage (List.replicate 64 face)) reply ∈
        worker.log ∧
      fitsShortString reply.messageId = false := by
  have reachable :=
    ((Reachable.refl (Worker.start WireBody (pyStr "worker")
      [.index])).tail (.consume rfl)).tail
      (@WorkerStep.receive WireBody wireEnvironment _ .index
        (namedMessage (List.replicate 64 face)) [] 20 0 rfl rfl
        (fun _ member => nomatch member))
  exact ⟨_, _, reachable, .tail _ (.head _), by decide⟩

end EmbeddingService
