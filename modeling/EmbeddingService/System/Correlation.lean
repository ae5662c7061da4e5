import EmbeddingService.System.FleetRuns
import EmbeddingService.System.Replies

/-!
# The id a reply is sent under

Four functions choose the id of a reply: `_on_message` the fallback,
`parse_job` the id of a rejection or of the job, and `_reply` the correlation
id.  They agree on the first id that the message carries.
-/

namespace EmbeddingService

open LabelledRuns

/-- A property that is set and not empty. -/
def nonEmpty (id : Option PyStr) : Option PyStr :=
  if truthy id then id else none

section Carried

variable {Body : Type} (python : Interpreter Body)

/-- `str` of the `job_id` of an object, where that is truthy. -/
def objectId (entries : PyDict) : Option PyStr :=
  match PyDict.get entries (pyStr "job_id") with
  | none => none
  | some value => if value.truthy then python.strOf value else none

/-- The id in a body; there is none unless the body is an object. -/
def bodyId (body : Body) : Option PyStr :=
  match python.loads body with
  | .value (.dict entries) => objectId python entries
  | _ => none

/-- The first id that a message carries: its correlation id, the id in its
body, its message id. -/
def carriedId (message : Message Body) : Option PyStr :=
  (nonEmpty message.correlationId).or
    ((bodyId python message.body).or (nonEmpty message.messageId))

/-- The carried id, and `unknown` or a fresh id only where none is carried. -/
def IdRule (carried : Option PyStr) (freshId id : PyStr) : Prop :=
  match carried with
  | some own => id = own
  | none => id = pyStr "unknown" ∨ id = freshId

end Carried

section Choice

variable {Body : Type} {python : Interpreter Body} {entries : PyDict}
  {fallbackId : Option PyStr} {freshId id : PyStr}

theorem nonEmpty_of_falsy (unset : truthy fallbackId = false) :
    nonEmpty fallbackId = none := by
  rw [nonEmpty, unset]
  rfl

theorem nonEmpty_some (notEmpty : id ≠ []) :
    nonEmpty (some id) = some id := by
  cases id with
  | nil =>
      exact False.elim (notEmpty rfl)
  | cons point rest =>
      rfl

theorem orDefault_nonEmpty (value : Option PyStr) (default : PyStr) :
    orDefault value default = (nonEmpty value).getD default := by
  cases value with
  | none =>
      rfl
  | some text =>
      cases text with
      | nil =>
          rfl
      | cons point rest =>
          rfl

/-- Without a correlation id the fallback is the message id. -/
theorem nonEmpty_either {messageId correlationId : Option PyStr}
    (unset : nonEmpty correlationId = none) :
    nonEmpty (either messageId correlationId) = nonEmpty messageId := by
  unfold either
  by_cases given : truthy messageId = true
  · rw [if_pos given]
  · rw [if_neg given, unset, nonEmpty_of_falsy (by simpa using given)]

theorem objectId_of_missing
    (missing : PyDict.getTruthy entries (pyStr "job_id") = false) :
    objectId python entries = none := by
  unfold objectId
  cases found : PyDict.get entries (pyStr "job_id") with
  | none =>
      rfl
  | some value =>
      rw [PyDict.getTruthy, found] at missing
      dsimp only at missing ⊢
      rw [missing]
      rfl

/-- The fallback is used where it is given and the object has no id. -/
theorem objectId_or_fallback {text : PyStr}
    (missing : PyDict.getTruthy entries (pyStr "job_id") = false)
    (given : fallbackId = some text) (notEmpty : text ≠ []) :
    (objectId python entries).or (nonEmpty fallbackId) = some text := by
  rw [objectId_of_missing missing, given, nonEmpty_some notEmpty]
  rfl

/-- Nothing is carried where the object has no id and there is no fallback. -/
theorem objectId_or_none
    (unused : PyDict.getTruthy entries (pyStr "job_id") = true ∨
      truthy fallbackId = false)
    (missing : PyDict.getTruthy entries (pyStr "job_id") = false) :
    (objectId python entries).or (nonEmpty fallbackId) = none := by
  rw [objectId_of_missing missing]
  rcases unused with own | unset
  · rw [missing] at own
    cases own
  · rw [nonEmpty_of_falsy unset]
    rfl

theorem objectId_of_truthy {value : Json} {text : PyStr}
    (found : PyDict.get entries (pyStr "job_id") = some value)
    (present : value.truthy = true)
    (printed : python.strOf value = some text) :
    objectId python entries = some text := by
  rw [objectId, found]
  dsimp only
  rw [if_pos present, printed]

/-- The id of a rejected object. -/
theorem rejectedId_rule
    (strings : ∀ text, python.strOf (.str text) = some text)
    (rejected : rejectedId python (withFallbackId entries fallbackId) =
      some id) :
    IdRule ((objectId python entries).or (nonEmpty fallbackId)) freshId
      id := by
  unfold rejectedId at rejected
  rcases withFallbackId_id entries fallbackId with
    ⟨unused, same⟩ | ⟨missing, text, given, notEmpty, found⟩
  · rw [same] at rejected
    cases found : PyDict.get entries (pyStr "job_id") with
    | none =>
        rw [found] at rejected
        cases rejected
        have missing :
            PyDict.getTruthy entries (pyStr "job_id") = false := by
          rw [PyDict.getTruthy, found]
        rw [objectId_or_none unused missing]
        exact Or.inl rfl
    | some value =>
        rw [found] at rejected
        dsimp only at rejected
        by_cases present : value.truthy = true
        · rw [if_pos present] at rejected
          rw [objectId_of_truthy found present rejected]
          rfl
        · rw [if_neg present] at rejected
          cases rejected
          have missing :
              PyDict.getTruthy entries (pyStr "job_id") = false := by
            rw [PyDict.getTruthy, found]
            simpa using present
          rw [objectId_or_none unused missing]
          exact Or.inl rfl
  · rw [found] at rejected
    dsimp only at rejected
    have present : (Json.str text).truthy = true := by
      simpa [Json.truthy] using notEmpty
    rw [if_pos present, strings] at rejected
    cases rejected
    rw [objectId_or_fallback missing given notEmpty]
    rfl

/-- The id of a validated object. -/
theorem jobId_rule
    (strings : ∀ text, python.strOf (.str text) = some text)
    (checked : defaultedField (withFallbackId entries fallbackId)
      (pyStr "job_id") freshId checkJobId = .ok id) :
    IdRule ((objectId python entries).or (nonEmpty fallbackId)) freshId
      id := by
  rcases withFallbackId_id entries fallbackId with
    ⟨unused, same⟩ | ⟨missing, text, given, notEmpty, found⟩
  · rw [same] at checked
    cases found : PyDict.get entries (pyStr "job_id") with
    | none =>
        have missing :
            PyDict.getTruthy entries (pyStr "job_id") = false := by
          rw [PyDict.getTruthy, found]
        rw [defaultedField, found] at checked
        cases checked
        rw [objectId_or_none unused missing]
        exact Or.inr rfl
    | some value =>
        obtain ⟨isText, notEmpty⟩ :=
          checkJobId_ok (defaultedField_ok found checked)
        rw [isText] at found
        have present : (Json.str id).truthy = true := by
          simpa [Json.truthy] using notEmpty
        rw [objectId_of_truthy found present (strings id)]
        rfl
  · obtain ⟨isText, _⟩ := checkJobId_ok (defaultedField_ok found checked)
    cases isText
    rw [objectId_or_fallback missing given notEmpty]
    rfl

end Choice

section Built

variable {Body : Type} {environment : Environment Body} {workerId : PyStr}
  {freshId : PyStr} {message : Message Body} {result : EmbeddingResult}

/-- The id of every result built for a message without correlation id. -/
theorem BuiltFor.jobId_rule
    (built : BuiltFor environment workerId freshId message result)
    (strings : ∀ text, environment.python.strOf (.str text) = some text)
    (unset : nonEmpty message.correlationId = none) :
    IdRule ((bodyId environment.python message.body).or
      (nonEmpty message.messageId)) freshId result.jobId := by
  rw [← nonEmpty_either unset]
  rcases built.parsed with rejected | ⟨job, parsed, same, _⟩
  · unfold parseMessage at rejected
    rcases parseJob_rejection rejected with
      ⟨notObject, sameId, _⟩ | ⟨entries, loaded, printed, _⟩
    · have noId : bodyId environment.python message.body = none := by
        unfold bodyId
        split
        · next entries loaded =>
            exact False.elim (notObject entries loaded)
        · rfl
      rw [noId, Option.none_or, sameId, orDefault_nonEmpty]
      cases nonEmpty (either message.messageId message.correlationId) with
      | none =>
          exact Or.inl rfl
      | some id =>
          rfl
    · rw [bodyId, loaded]
      exact rejectedId_rule strings printed
  · unfold parseMessage at parsed
    obtain ⟨entries, loaded, validated⟩ := parseJob_job parsed
    have checked := (modelValidate_ok validated).2.2.2.2.1
    rw [same, bodyId, loaded]
    exact EmbeddingService.jobId_rule strings checked

/-- The correlation id of every reply that `_reply` makes of such a result. -/
theorem BuiltFor.correlationId_rule
    (built : BuiltFor environment workerId freshId message result)
    (strings : ∀ text, environment.python.strOf (.str text) = some text)
    (lane : LaneName) (replyTo : PyStr) (body : Body) :
    IdRule (carriedId environment.python message) freshId
      (replyMessage environment workerId lane message result replyTo
        body).correlationId := by
  change IdRule _ _ (orDefault message.correlationId result.jobId)
  rw [orDefault_nonEmpty, carriedId]
  cases given : nonEmpty message.correlationId with
  | none =>
      exact built.jobId_rule strings given
  | some id =>
      rfl

end Built

section Segments

variable {Body : Type} {environment : Environment Body} {workerId : PyStr}
  {lane other : LaneName} {message otherMessage : Message Body}
  {reply : Reply Body}

/-- What `_settle` publishes is its result. -/
theorem settle_publishes {result : EmbeddingResult} {retry : Bool}
    (published : .published other otherMessage reply ∈
      (settle environment workerId lane message result retry).2) :
    other = lane ∧ otherMessage = message ∧
      ∃ replyTo body, reply =
        replyMessage environment workerId lane message result replyTo
          body := by
  unfold settle at published
  split at published
  · split at published
    · simp at published
    · cases List.mem_singleton.mp published
      exact ⟨rfl, rfl, _, _, rfl⟩
  · simp at published

theorem expire_publishes {delivery : Delivery Body} {now : Instant}
    (published : .published other otherMessage reply ∈
      (expire environment workerId lane delivery now).2) :
    other = lane ∧ otherMessage = delivery.message ∧
      ∃ replyTo body, reply =
        replyMessage environment workerId lane delivery.message
          (expiredError workerId delivery.job) replyTo body := by
  cases lane with
  | query =>
      simp [expire] at published
  | index =>
      rcases List.mem_cons.mp published with noted | settled
      · cases noted
      · exact settle_publishes settled

theorem finish_publishes {delivery : Delivery Body} {outcome : Outcome}
    (published : .published other otherMessage reply ∈
      (finish environment workerId lane delivery outcome).2) :
    other = lane ∧ otherMessage = delivery.message ∧
      ∃ result replyTo body,
        (outcome = .ok result ∨
          result = internalError workerId delivery.job) ∧
        reply = replyMessage environment workerId lane delivery.message
          result replyTo body := by
  cases outcome with
  | error raised =>
      dsimp only [finish] at published
      split at published
      · split at published <;> simp at published
      · rcases List.mem_cons.mp published with noted | settled
        · cases noted
        · obtain ⟨sameLane, sameMessage, replyTo, body, same⟩ :=
            settle_publishes settled
          exact ⟨sameLane, sameMessage, _, replyTo, body, Or.inr rfl, same⟩
  | ok result =>
      obtain ⟨sameLane, sameMessage, replyTo, body, same⟩ :=
        settle_publishes published
      exact ⟨sameLane, sameMessage, result, replyTo, body, Or.inl rfl, same⟩

theorem resume_publishes {state : Settling Body} {how : Ending} :
    .published other otherMessage reply ∉
      (state.resume lane message how).2 := by
  cases state with
  | publishing result retry reply =>
      cases how <;> simp [Settling.resume]
  | _ =>
      simp [Settling.resume]

theorem onMessage_publishes {draining : Bool} {freshId : PyStr}
    {now : Instant}
    (published : .published other otherMessage reply ∈
      (onMessage environment workerId lane draining freshId now
        message).2) :
    other = lane ∧ otherMessage = message ∧
      ∃ result replyTo body,
        BuiltFor environment workerId freshId message result ∧
        reply = replyMessage environment workerId lane message result
          replyTo body := by
  unfold onMessage at published
  split at published
  · simp at published
  · split at published
    · simp at published
    · next result parsed =>
        rcases List.mem_cons.mp published with noted | settled
        · cases noted
        · obtain ⟨sameLane, sameMessage, replyTo, body, same⟩ :=
            settle_publishes settled
          exact ⟨sameLane, sameMessage, result, replyTo, body,
            .rejected parsed, same⟩
    · next job parsed =>
        split at published
        · obtain ⟨sameLane, sameMessage, replyTo, body, same⟩ :=
            expire_publishes published
          exact ⟨sameLane, sameMessage, _, replyTo, body, .expired parsed,
            same⟩
        · simp at published

theorem onMessage_buffers {draining : Bool} {freshId : PyStr}
    {now : Instant} {job : EmbeddingJob}
    (buffered : (onMessage environment workerId lane draining freshId now
      message).1 = .buffered job) :
    parseMessage environment workerId freshId message =
      .ok (.job job) := by
  unfold onMessage at buffered
  split at buffered
  · cases buffered
  · split at buffered
    · cases buffered
    · cases buffered
    · next parsed =>
        split at buffered
        · cases buffered
        · cases buffered
          exact parsed

end Segments

section Origins

variable {Body : Type}

/-- `_on_message` was given the message on this lane, with this id as the
default of a job without one. -/
def ReceivedWith (labels : List (WorkerAction Body)) (lane : LaneName)
    (message : Message Body) (freshId : PyStr) : Prop :=
  ∃ now clock, .receive lane message freshId now clock ∈ labels

/-- Held jobs and published replies are those of messages as they were
received. -/
structure Origins (environment : Environment Body) (workerId : PyStr)
    (labels : List (WorkerAction Body)) (ledger : Ledger Body) :
    Prop where
  held : ∀ cell ∈ ledger.cells, ∀ job, cell.phase = .held job →
    ∃ freshId, ReceivedWith labels cell.lane cell.message freshId ∧
      parseMessage environment workerId freshId cell.message =
        .ok (.job job)
  published : ∀ lane message reply,
    .published lane message reply ∈ ledger.log →
      ∃ freshId result replyTo body,
        ReceivedWith labels lane message freshId ∧
        BuiltFor environment workerId freshId message result ∧
        reply = replyMessage environment workerId lane message result
          replyTo body

variable {environment : Environment Body} {workerId : PyStr}
  {labels : List (WorkerAction Body)} {ledger before after : Ledger Body}
  {lane : LaneName} {message : Message Body} {freshId : PyStr}

theorem Origins.mono (origins : Origins environment workerId labels ledger)
    {more : List (WorkerAction Body)}
    (grown : ∀ label ∈ labels, label ∈ more) :
    Origins environment workerId more ledger where
  held := by
    intro cell member job phase
    obtain ⟨freshId, ⟨now, clock, received⟩, parsed⟩ :=
      origins.held cell member job phase
    exact ⟨freshId, ⟨now, clock, grown _ received⟩, parsed⟩
  published := by
    intro lane message reply member
    obtain ⟨freshId, result, replyTo, body, ⟨now, clock, received⟩, built,
      same⟩ := origins.published lane message reply member
    exact ⟨freshId, result, replyTo, body, ⟨now, clock, grown _ received⟩,
      built, same⟩

/-- A delivery moves on, and what is published is a result for its job. -/
theorem Origins.move (origins : Origins environment workerId labels ledger)
    {cell : Cell Body} {rest : Multiset (Cell Body)}
    (split : ledger.cells = cell ::ₘ rest)
    {segment : Segment Body (Settling Body)}
    (publishes : ∀ other otherMessage reply,
      .published other otherMessage reply ∈ segment.2 →
        ∃ freshId result replyTo body,
          ReceivedWith labels other otherMessage freshId ∧
          BuiltFor environment workerId freshId otherMessage result ∧
          reply = replyMessage environment workerId other otherMessage
            result replyTo body) :
    Origins environment workerId labels
      (ledger.move rest cell.lane cell.message segment) where
  held := by
    intro other member job phase
    rcases Multiset.mem_cons.mp member with moved | stays
    · rw [moved] at phase
      cases phase
    · refine origins.held other ?_ job phase
      rw [split]
      exact Multiset.mem_cons_of_mem stays
  published := by
    intro other otherMessage reply member
    rcases List.mem_append.mp member with earlier | added
    · exact origins.published other otherMessage reply earlier
    · exact publishes other otherMessage reply added

/-- A held job was parsed from what was received. -/
theorem Origins.job (origins : Origins environment workerId labels ledger)
    {rest : Multiset (Cell Body)} {job : EmbeddingJob}
    (held : ledger.cells =
      { lane := lane, message := message, phase := .held job } ::ₘ rest) :
    ∃ freshId, ReceivedWith labels lane message freshId ∧
      parseMessage environment workerId freshId message =
        .ok (.job job) := by
  refine origins.held
    { lane := lane, message := message, phase := .held job } ?_ job rfl
  rw [held]
  exact Multiset.mem_cons_self _ _

/-- Events that publish nothing. -/
theorem Origins.note (origins : Origins environment workerId labels ledger)
    {draining : Bool} {event : Event Body}
    (unpublished : ∀ lane message reply,
      event ≠ .published lane message reply) :
    Origins environment workerId labels
      { ledger with
        draining := draining
        log := ledger.log ++ [event] } where
  held := origins.held
  published := by
    intro lane message reply member
    rcases List.mem_append.mp member with earlier | added
    · exact origins.published lane message reply earlier
    · exact False.elim
        (unpublished lane message reply (List.mem_singleton.mp added).symm)

theorem Origins.receive
    (origins : Origins environment workerId labels ledger)
    (received : ReceivedWith labels lane message freshId) {draining : Bool}
    {now : Instant} :
    Origins environment workerId labels
      (ledger.receive lane message
        (onMessage environment workerId lane draining freshId now
          message)) where
  held := by
    intro cell member job phase
    rcases Multiset.mem_add.mp member with new | old
    · cases state : (onMessage environment workerId lane draining freshId now
          message).1 with
      | buffered parsedJob =>
          rw [state, receivedCells, Multiset.mem_singleton] at new
          subst new
          cases phase
          exact ⟨freshId, received, onMessage_buffers state⟩
      | settling settling =>
          rw [state, receivedCells, Multiset.mem_singleton] at new
          subst new
          cases phase
      | escaped escape =>
          rw [state] at new
          simp [receivedCells] at new
    · exact origins.held cell old job phase
  published := by
    intro other otherMessage reply member
    rcases List.mem_append.mp member with earlier | added
    · exact origins.published other otherMessage reply earlier
    · obtain ⟨sameLane, sameMessage, result, replyTo, body, built, same⟩ :=
        onMessage_publishes added
      subst sameLane sameMessage
      exact ⟨freshId, result, replyTo, body, received, built, same⟩

/-- A move of the ledger that receives nothing. -/
theorem Origins.step (origins : Origins environment workerId labels before)
    (taken : Ledger.Step environment workerId Attributed before () after)
    (unreceived : after.received.length = before.received.length) :
    Origins environment workerId labels after := by
  cases taken with
  | encode =>
      exact origins.note (by simp)
  | drain =>
      exact origins.note (by simp)
  | receive fresh =>
      simp [Ledger.receive] at unreceived
  | expire held late =>
      obtain ⟨freshId, received, parsed⟩ := origins.job held
      refine origins.move held ?_
      intro other otherMessage reply published
      obtain ⟨sameLane, sameMessage, replyTo, body, same⟩ :=
        expire_publishes published
      subst sameLane sameMessage
      exact ⟨freshId, _, replyTo, body, received, .expired parsed, same⟩
  | finish held good =>
      obtain ⟨freshId, received, parsed⟩ := origins.job held
      refine origins.move held ?_
      intro other otherMessage reply published
      obtain ⟨sameLane, sameMessage, result, replyTo, body, answer, same⟩ :=
        finish_publishes published
      subst sameLane sameMessage
      refine ⟨freshId, result, replyTo, body, received, ?_, same⟩
      rcases answer with succeeded | failed
      · exact .encoded parsed (good result succeeded)
      · rw [failed]
        exact .failed parsed
  | abandon held =>
      exact origins.move held (by simp)
  | resume settling =>
      exact origins.move settling
        (fun _ _ _ published => False.elim (resume_publishes published))

theorem received_grows
    (taken : Ledger.Step environment workerId Attributed before () after) :
    before.received.length ≤ after.received.length := by
  cases taken with
  | receive fresh =>
      rw [Ledger.receive, List.length_append]
      exact Nat.le_add_right _ _
  | _ =>
      exact Nat.le_refl _

/-- Any moves of the ledger that receive nothing. -/
theorem Origins.follows
    (origins : Origins environment workerId labels before)
    (follows : LedgerFollows environment workerId Attributed before after)
    (unreceived : after.received = before.received) :
    Origins environment workerId labels after := by
  have kept : before.received.length ≤ after.received.length ∧
      (after.received.length = before.received.length →
        Origins environment workerId labels after) := by
    refine Reachable.invariant
      (I := fun ledger =>
        before.received.length ≤ ledger.received.length ∧
          (ledger.received.length = before.received.length →
            Origins environment workerId labels ledger))
      follows ⟨Nat.le_refl _, fun _ => origins⟩ ?_
    intro earlier label later held taken
    have grows := received_grows taken
    refine ⟨Nat.le_trans held.1 grows, ?_⟩
    intro same
    have unchanged :
        earlier.received.length = before.received.length :=
      Nat.le_antisymm (same ▸ grows) held.1
    exact (held.2 unchanged).step taken (same.trans unchanged.symm)
  exact kept.2 (congrArg List.length unreceived)

variable {worker next : Worker Body}

/-- One step of a worker, whose label is among the labels. -/
theorem Origins.workerStep
    (origins : Origins environment worker.workerId labels worker.ledger)
    (scheduled : ScheduledGood Attributed worker)
    {action : WorkerAction Body} (member : action ∈ labels)
    (taken : WorkerStep environment worker action next) :
    Origins environment worker.workerId labels next.ledger := by
  have follows := ledger_step scheduled taken
  have received := received_step taken
  cases taken with
  | @receive lane message freshId now clock consuming connected fresh =>
      rw [receive_ledger]
      exact origins.receive ⟨now, clock, member⟩
  | _ =>
      exact origins.follows follows (received.trans (List.append_nil _))

theorem origins_of_run {lanes : List LaneName}
    (run : Run (WorkerStep environment) (Worker.start Body workerId lanes)
      labels worker) :
    Origins environment workerId labels worker.ledger := by
  refine run.history
    (I := fun earlier state =>
      Origins environment workerId earlier state.ledger) ?_ ?_
  · exact
      { held := by
          intro cell member
          change cell ∈ (0 : Multiset (Cell Body)) at member
          exact absurd member (Multiset.notMem_zero cell)
        published := by
          intro lane message reply member
          cases member }
  · intro earlier before action after run origins taken
    have sound := workerSound_of_reachable run.reachable
    have grown := origins.mono
      (fun label member => List.mem_append_left [action] member)
    rw [← sound.identity] at grown ⊢
    exact grown.workerStep sound.outcomes.scheduled
      (List.mem_append_right _ (List.mem_singleton.mpr rfl)) taken

end Origins

/-- Every reply, whatever it answers and however the worker came to it, is
sent under the first id that its message carries; `unknown` and the fresh id
that `parse_job` was given appear only where the message carries none. -/
theorem replyCorrelation {Body : Type} (environment : Environment Body)
    (workerId : PyStr) (lanes : List LaneName)
    (labels : List (WorkerAction Body)) (worker : Worker Body)
    (strings : ∀ text, environment.python.strOf (.str text) = some text)
    (run : Run (WorkerStep environment) (Worker.start Body workerId lanes)
      labels worker)
    (lane : LaneName) (message : Message Body) (reply : Reply Body)
    (published : .published lane message reply ∈ worker.log) :
    ∃ freshId, ReceivedWith labels lane message freshId ∧
      IdRule (carriedId environment.python message) freshId
        reply.correlationId := by
  obtain ⟨freshId, result, replyTo, body, received, built, same⟩ :=
    (origins_of_run run).published lane message reply published
  refine ⟨freshId, received, ?_⟩
  rw [same]
  exact built.correlationId_rule strings lane replyTo body

/-- The expiry error of a job that has an id only in its body. -/
theorem replyCorrelation_expired :
    ∃ (labels : List (WorkerAction WireBody)) (worker : Worker WireBody)
      (reply : Reply WireBody),
      Run (WorkerStep wireEnvironment)
        (Worker.start WireBody (pyStr "worker") [.index]) labels worker ∧
      .published .index (namedMessage (pyStr "job")) reply ∈ worker.log ∧
      reply.correlationId = pyStr "job" := by
  have run :=
    ((Run.nil (Worker.start WireBody (pyStr "worker") [.index])).snoc
      (@WorkerStep.consume WireBody wireEnvironment _ _ _ rfl)).snoc
      (@WorkerStep.receive WireBody wireEnvironment _ .index
        (namedMessage (pyStr "job")) [] 20 0 rfl rfl
        (fun _ member => nomatch member))
  obtain ⟨_, _, rule⟩ := replyCorrelation wireEnvironment (pyStr "worker")
    [.index] _ _ (fun _ => rfl) run .index (namedMessage (pyStr "job")) _
    (.tail _ (.head _))
  exact ⟨_, _, _, run, .tail _ (.head _), rule⟩

end EmbeddingService
