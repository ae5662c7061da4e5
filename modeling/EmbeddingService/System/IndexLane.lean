import EmbeddingService.System.Answers

/-!
# No index job is lost

Clients submit index jobs, any number of workers answers them, and results
consumers feed the answers to a handler.  A submitted job is always somewhere:
in the index queue, in `embedding.dead`, or in an answer that waits or was
handled.
-/

namespace EmbeddingService

open LabelledRuns

/-- Where `on_message` of `consume_results` is: at the handler, at the
settlement of the message, or over. -/
inductive ResultState where
  | handling (result : EmbeddingResult)
  | acking
  | nacking
  | rejecting
  | ended

/-- One call of `on_message`, for the stored reply of this number. -/
structure ResultCall where
  reply : Nat
  state : ResultState

/-- `on_message` up to its first await. -/
def onResult {Body : Type} (serialization : Serialization Body)
    (body : Body) : ResultState :=
  match serialization.loadResult body with
  | none => .rejecting
  | some result => .handling result

/-- `on_message` after the handler.  Only `Exception`s are handled. -/
def handlerEnded : Ending → ResultState
  | .returned => .acking
  | .raised => .nacking
  | .cancelled => .ended

/-- Where the settlement that is awaited puts the message; `reject` and `nack`
differ in the requeue. -/
def ResultState.place? : ResultState → Option ReplyPlace
  | .acking => some .acked
  | .nacking => some .ready
  | .rejecting => some .rejected
  | _ => none

/-- A job that `submit_index` published and the broker confirmed. -/
structure Submission where
  request : Nat
  job : EmbeddingJob
  replyTo : PyStr

structure IndexLane (Body : Type) where
  fleet : Fleet Body := {}
  submitted : List Submission := []
  calls : List ResultCall := []

inductive IndexAction (Body : Type) where
  | fleet (action : FleetAction Body)
  | submit (texts : Json) (normalize : Bool) (metadata : PyDict)
      (jobId replyTo : Option PyStr) (freshId : PyStr)
  | deliverResult (reply : Nat)
  | endHandler (call : Nat) (how : Ending)
  | settleResult (call : Nat)
  | returnResult (call : Nat)

namespace Fleet

variable {Body : Type}

def setReply (fleet : Fleet Body) (number : Nat)
    (stored : StoredReply Body) : Fleet Body :=
  { fleet with replies := fleet.replies.set number stored }

end Fleet

namespace IndexLane

variable {Body : Type}

/-- The broker confirms the request of a job. -/
def submit (state : IndexLane Body) (job : EmbeddingJob) (body : Body)
    (replyTo : PyStr) : IndexLane Body :=
  { state with
    fleet := state.fleet.publish (requestMessage .index job body replyTo)
    submitted := state.submitted ++
      [{ request := state.fleet.requests.length
         job := job
         replyTo := replyTo }] }

/-- A reply is handed to `on_message`. -/
def deliverResult (state : IndexLane Body)
    (serialization : Serialization Body) (number : Nat)
    (stored : StoredReply Body) : IndexLane Body :=
  { state with
    fleet := state.fleet.setReply number
      { stored with place := .unacked state.calls.length }
    calls := state.calls ++
      [{ reply := number
         state := onResult serialization stored.reply.body }] }

/-- The handler of a result ends. -/
def endHandler (state : IndexLane Body) (number : Nat) (call : ResultCall)
    (stored : StoredReply Body) (how : Ending) : IndexLane Body :=
  { state with
    fleet := state.fleet.setReply call.reply
      { stored with handled := stored.handled || decide (how = .returned) }
    calls := state.calls.set number
      { call with state := handlerEnded how } }

/-- The broker moves a reply that a call holds. -/
def moveResult (state : IndexLane Body) (call : ResultCall)
    (stored : StoredReply Body) (place : ReplyPlace) : IndexLane Body :=
  { state with
    fleet := state.fleet.setReply call.reply
      { stored with place := place } }

end IndexLane

/-- The steps of clients, workers, broker and results consumers.  A reply
returns to its queue when the connection of its consumer ends. -/
inductive IndexStep {Body : Type} (environment : Environment Body)
    (client : ClientEnvironment Body) :
    IndexLane Body → IndexAction Body → IndexLane Body → Prop
  | fleet {state : IndexLane Body} {action : FleetAction Body}
      {after : Fleet Body}
      (taken : FleetStep environment state.fleet action after) :
      IndexStep environment client state (.fleet action)
        { state with fleet := after }
  | submit {state : IndexLane Body} {texts : Json} {normalize : Bool}
      {metadata : PyDict} {jobId replyTo : Option PyStr} {freshId : PyStr}
      {job : EmbeddingJob} {body : Body} (fresh : freshId ≠ [])
      (built : indexJob client freshId texts normalize metadata jobId =
        .ok job)
      (dumped : client.serialization.dumpJob job = some body) :
      IndexStep environment client state
        (.submit texts normalize metadata jobId replyTo freshId)
        (state.submit job body (resultsQueue client replyTo))
  | deliverResult {state : IndexLane Body} {number : Nat}
      {stored : StoredReply Body}
      (found : state.fleet.replies[number]? = some stored)
      (ready : stored.place = .ready) :
      IndexStep environment client state (.deliverResult number)
        (state.deliverResult client.serialization number stored)
  | endHandler {state : IndexLane Body} {number : Nat} {call : ResultCall}
      {stored : StoredReply Body} {result : EmbeddingResult} {how : Ending}
      (called : state.calls[number]? = some call)
      (found : state.fleet.replies[call.reply]? = some stored)
      (handling : call.state = .handling result) :
      IndexStep environment client state (.endHandler number how)
        (state.endHandler number call stored how)
  | settleResult {state : IndexLane Body} {number : Nat}
      {call : ResultCall} {stored : StoredReply Body} {place : ReplyPlace}
      (called : state.calls[number]? = some call)
      (found : state.fleet.replies[call.reply]? = some stored)
      (held : stored.place = .unacked number)
      (settles : call.state.place? = some place) :
      IndexStep environment client state (.settleResult number)
        (state.moveResult call stored place)
  | returnResult {state : IndexLane Body} {number : Nat}
      {call : ResultCall} {stored : StoredReply Body}
      (called : state.calls[number]? = some call)
      (found : state.fleet.replies[call.reply]? = some stored)
      (held : stored.place = .unacked number) :
      IndexStep environment client state (.returnResult number)
        (state.moveResult call stored .ready)

/-- The job is in at least one of the places where it may be. -/
def Accounted {Body : Type} (serialization : Serialization Body)
    (fleet : Fleet Body) (submission : Submission) : Prop :=
  ∃ request, fleet.requests[submission.request]? = some request ∧
    (request.place = .ready ∨
      (∃ worker message, request.place = .unacked worker message) ∨
      request.place = .dead ∨
      ∃ stored ∈ fleet.replies,
        stored.reply.routingKey = submission.replyTo ∧
        (∃ result, serialization.loadResult stored.reply.body =
            some result ∧
          result.jobId = submission.job.jobId) ∧
        (stored.place = .ready ∨ (∃ call, stored.place = .unacked call) ∨
          stored.handled = true))

section Replies

variable {Body : Type} {environment : Environment Body}
  {Allowed : EncodeCall → EngineReply → Prop}
  {Good : EmbeddingJob → EmbeddingResult → Prop} {fleet : Fleet Body}
  {number : Nat} {stored : StoredReply Body}

/-- Moving a reply does not change whose it is. -/
theorem mem_replies_set {next other : StoredReply Body}
    (found : fleet.replies[number]? = some stored)
    (member : other ∈ (fleet.setReply number next).replies) :
    other ∈ fleet.replies ∨ other = next ∧ stored ∈ fleet.replies := by
  rcases List.mem_or_eq_of_mem_set member with old | new
  · exact Or.inl old
  · exact Or.inr ⟨new, List.mem_of_getElem? found⟩

theorem mem_replies_kept {place : ReplyPlace} {handled : Bool}
    (found : fleet.replies[number]? = some stored)
    {other : StoredReply Body} (member : other ∈ fleet.replies) :
    ∃ later ∈ (fleet.setReply number
        { stored with place := place, handled := handled }).replies,
      later.worker = other.worker ∧ later.message = other.message ∧
        later.reply = other.reply := by
  obtain ⟨position, present⟩ := List.getElem?_of_mem member
  by_cases own : position = number
  · rw [own, found] at present
    cases present
    have inside := (List.getElem?_eq_some_iff.mp found).1
    exact ⟨_, List.mem_of_getElem? (List.getElem?_set_self inside), rfl,
      rfl, rfl⟩
  · refine ⟨other, List.mem_of_getElem? (i := position) ?_, rfl, rfl, rfl⟩
    rw [Fleet.setReply, List.getElem?_set_ne (Ne.symm own)]
    exact present

theorem FleetSound.setReply
    (sound : FleetSound environment Allowed Good fleet)
    (found : fleet.replies[number]? = some stored) (place : ReplyPlace)
    (handled : Bool) :
    FleetSound environment Allowed Good
      (fleet.setReply number
        { stored with place := place, handled := handled }) where
  workers := sound.workers
  received := sound.received
  unacked := sound.unacked
  stored := by
    intro other member
    rcases mem_replies_set found member with old | ⟨new, inside⟩
    · exact sound.stored other old
    · rw [new]
      exact sound.stored stored inside
  confirmed := by
    intro position lane message reply logged mandatory
    obtain ⟨other, member, worker, sameMessage, sameReply⟩ :=
      sound.confirmed position lane message reply logged mandatory
    obtain ⟨later, laterMember, laterWorker, laterMessage, laterReply⟩ :=
      mem_replies_kept found member
    exact ⟨later, laterMember, laterWorker.trans worker,
      laterMessage.trans sameMessage, laterReply.trans sameReply⟩

theorem IndexAnswered.setReply (answered : IndexAnswered fleet)
    (found : fleet.replies[number]? = some stored) (place : ReplyPlace)
    (handled : Bool) :
    IndexAnswered (fleet.setReply number
      { stored with place := place, handled := handled }) where
  kept := answered.kept
  answered := by
    intro request member indexed acked asked
    obtain ⟨other, otherMember, carries⟩ :=
      answered.answered request member indexed acked asked
    obtain ⟨later, laterMember, _, laterMessage, _⟩ :=
      mem_replies_kept found otherMember
    rw [← laterMessage] at carries
    exact ⟨later, laterMember, carries⟩

/-- A reply leaves its queue only handled, or rejected because it cannot be
loaded; the calls that ack and reject know why. -/
structure ResultsSound (serialization : Serialization Body)
    (fleet : Fleet Body) (calls : List ResultCall) : Prop where
  replies : ∀ stored ∈ fleet.replies,
    (stored.place = .acked → stored.handled = true) ∧
      (stored.place = .rejected →
        serialization.loadResult stored.reply.body = none)
  calls : ∀ call ∈ calls, ∃ stored,
    fleet.replies[call.reply]? = some stored ∧
      (call.state = .acking → stored.handled = true) ∧
      (call.state = .rejecting →
        serialization.loadResult stored.reply.body = none)

variable {serialization : Serialization Body} {calls : List ResultCall}

theorem ResultsSound.setReply
    (sound : ResultsSound serialization fleet calls)
    (found : fleet.replies[number]? = some stored) {place : ReplyPlace}
    {handled : Bool} (grows : stored.handled = true → handled = true)
    (acked : place = .acked → handled = true)
    (rejected : place = .rejected →
      serialization.loadResult stored.reply.body = none) :
    ResultsSound serialization
      (fleet.setReply number
        { stored with place := place, handled := handled }) calls where
  replies := by
    intro other member
    rcases mem_replies_set found member with old | ⟨new, _⟩
    · exact sound.replies other old
    · rw [new]
      exact ⟨acked, rejected⟩
  calls := by
    intro call member
    obtain ⟨other, present, acking, rejecting⟩ := sound.calls call member
    by_cases own : call.reply = number
    · rw [own, found] at present
      cases present
      have inside := (List.getElem?_eq_some_iff.mp found).1
      refine ⟨{ stored with place := place, handled := handled }, ?_,
        fun called => grows (acking called), rejecting⟩
      rw [own]
      exact List.getElem?_set_self inside
    · refine ⟨other, ?_, acking, rejecting⟩
      rw [Fleet.setReply, List.getElem?_set_ne (Ne.symm own)]
      exact present

theorem ResultsSound.setCall
    (sound : ResultsSound serialization fleet calls)
    {call : ResultCall} (called : calls[number]? = some call)
    {next : ResultState}
    (acking : next = .acking → ∀ stored,
      fleet.replies[call.reply]? = some stored → stored.handled = true)
    (rejecting : next ≠ .rejecting) :
    ResultsSound serialization fleet
      (calls.set number { call with state := next }) where
  replies := sound.replies
  calls := by
    intro other member
    rcases List.mem_or_eq_of_mem_set member with old | new
    · exact sound.calls other old
    · obtain ⟨stored, present, _⟩ :=
        sound.calls call (List.mem_of_getElem? called)
      rw [new]
      exact ⟨stored, present, fun ends => acking ends stored present,
        fun ends => False.elim (rejecting ends)⟩

theorem ResultsSound.addCall
    (sound : ResultsSound serialization fleet calls)
    (found : fleet.replies[number]? = some stored) :
    ResultsSound serialization fleet
      (calls ++ [{ reply := number
                   state := onResult serialization stored.reply.body }])
      where
  replies := sound.replies
  calls := by
    intro call member
    rcases List.mem_append.mp member with old | new
    · exact sound.calls call old
    · rw [List.mem_singleton.mp new]
      refine ⟨stored, found, ?_, ?_⟩
      · unfold onResult
        split <;> simp
      · unfold onResult
        split
        · next unloaded =>
            exact fun _ => unloaded
        · simp

theorem ResultsSound.fleetStep
    (sound : ResultsSound serialization fleet calls) {after : Fleet Body}
    {action : FleetAction Body}
    (taken : FleetStep environment fleet action after) :
    ResultsSound serialization after calls := by
  rcases taken.replies_origin with same | ⟨_, _, _, _, _, added⟩
  · exact
      { replies := by
          rw [same]
          exact sound.replies
        calls := by
          rw [same]
          exact sound.calls }
  · exact
      { replies := by
          rw [added]
          intro other member
          rcases List.mem_append.mp member with old | new
          · exact sound.replies other old
          · rw [List.mem_singleton.mp new]
            simp
        calls := by
          rw [added]
          intro call member
          obtain ⟨other, present, known⟩ := sound.calls call member
          have inside := (List.getElem?_eq_some_iff.mp present).1
          refine ⟨other, ?_, known⟩
          rw [List.getElem?_append_left inside]
          exact present }

end Replies

section Systems

variable {Body : Type} {environment : Environment Body}
  {client : ClientEnvironment Body} {state after : IndexLane Body}

/-- A submission is the request it was published as. -/
def Submitted (client : ClientEnvironment Body) (fleet : Fleet Body)
    (submission : Submission) : Prop :=
  submission.job.jobId ≠ [] ∧
    (∃ replyTo, submission.replyTo = resultsQueue client replyTo) ∧
    ∃ body, client.serialization.dumpJob submission.job = some body ∧
      fleet.publications[submission.request]? =
        some (requestMessage .index submission.job body submission.replyTo)

structure IndexSound (environment : Environment Body)
    (client : ClientEnvironment Body) (state : IndexLane Body) : Prop where
  fleet : FleetSound environment (fun _ _ => True) Attributed state.fleet
  answered : IndexAnswered state.fleet
  results : ResultsSound client.serialization state.fleet state.calls
  submitted : ∀ submission ∈ state.submitted,
    Submitted client state.fleet submission

theorem Submitted.grows {fleet next : Fleet Body} {submission : Submission}
    (submitted : Submitted client fleet submission)
    (grows : fleet.publications <+: next.publications) :
    Submitted client next submission := by
  obtain ⟨named, asked, body, dumped, found⟩ := submitted
  obtain ⟨added, longer⟩ := grows
  refine ⟨named, asked, body, dumped, ?_⟩
  have inside := (List.getElem?_eq_some_iff.mp found).1
  rw [← longer, List.getElem?_append_left inside]
  exact found

theorem indexSound_empty :
    IndexSound environment client ({} : IndexLane Body) where
  fleet := fleetSound_empty
  answered := ⟨by simp, by simp⟩
  results := ⟨by simp, by simp⟩
  submitted := by simp

theorem IndexSound.submit (sound : IndexSound environment client state)
    {job : EmbeddingJob} {body : Body} {replyTo : Option PyStr}
    (named : job.jobId ≠ [])
    (dumped : client.serialization.dumpJob job = some body) :
    IndexSound environment client
      (state.submit job body (resultsQueue client replyTo)) := by
  have published : FleetStep environment state.fleet
      (.publish (requestMessage .index job body
        (resultsQueue client replyTo)))
      (state.fleet.publish (requestMessage .index job body
        (resultsQueue client replyTo))) :=
    .publish
  exact
    { fleet := sound.fleet.anyStep published
      answered := sound.answered.step sound.fleet published
      results := sound.results.fleetStep published
      submitted := by
        intro submission member
        rcases List.mem_append.mp member with old | new
        · exact (sound.submitted submission old).grows
            published.grows.publications
        · rw [List.mem_singleton.mp new]
          refine ⟨named, ⟨replyTo, rfl⟩, body, dumped, ?_⟩
          simp [IndexLane.submit, Fleet.publications, Fleet.publish] }

/-- A reply is delivered to a results consumer. -/
theorem ResultsSound.deliverResult {serialization : Serialization Body}
    (results : ResultsSound serialization state.fleet state.calls)
    {number : Nat} {stored : StoredReply Body}
    (found : state.fleet.replies[number]? = some stored) :
    ResultsSound serialization
      (state.deliverResult serialization number stored).fleet
      (state.deliverResult serialization number stored).calls := by
  have moved : ResultsSound serialization
      (state.fleet.setReply number
        { stored with place := .unacked state.calls.length })
      state.calls :=
    results.setReply found id (by simp) (by simp)
  have kept : (state.fleet.setReply number
      { stored with place := .unacked state.calls.length }
      ).replies[number]? =
        some { stored with place := .unacked state.calls.length } :=
    List.getElem?_set_self (List.getElem?_eq_some_iff.mp found).1
  have called := moved.addCall kept
  exact called

/-- The results handler returns or fails. -/
theorem ResultsSound.endHandler {serialization : Serialization Body}
    (results : ResultsSound serialization state.fleet state.calls)
    {number : Nat} {call : ResultCall} {stored : StoredReply Body}
    (called : state.calls[number]? = some call)
    (found : state.fleet.replies[call.reply]? = some stored)
    (how : Ending) :
    ResultsSound serialization
      (state.endHandler number call stored how).fleet
      (state.endHandler number call stored how).calls := by
  have known := results.replies stored (List.mem_of_getElem? found)
  have moved : ResultsSound serialization
      (state.fleet.setReply call.reply
        { stored with
          handled := stored.handled || decide (how = .returned) })
      state.calls := by
    refine results.setReply found ?_ ?_ known.2
    · intro handled
      rw [handled, Bool.true_or]
    · intro acked
      rw [known.1 acked, Bool.true_or]
  refine moved.setCall called ?_ ?_
  · intro acking other present
    rw [Fleet.setReply, List.getElem?_set_self
      (List.getElem?_eq_some_iff.mp found).1] at present
    cases present
    cases how with
    | returned =>
        exact Bool.or_true _
    | raised =>
        cases acking
    | cancelled =>
        cases acking
  · cases how <;> simp [handlerEnded]

/-- A reply goes where the call that has it settles it. -/
theorem ResultsSound.settleResult {serialization : Serialization Body}
    (results : ResultsSound serialization state.fleet state.calls)
    {number : Nat} {call : ResultCall} {stored : StoredReply Body}
    {place : ReplyPlace} (called : state.calls[number]? = some call)
    (found : state.fleet.replies[call.reply]? = some stored)
    (settles : call.state.place? = some place) :
    ResultsSound serialization (state.moveResult call stored place).fleet
      (state.moveResult call stored place).calls := by
  obtain ⟨other, present, acking, rejecting⟩ :=
    results.calls call (List.mem_of_getElem? called)
  rw [found] at present
  cases present
  refine results.setReply found id ?_ ?_
  · intro acked
    apply acking
    cases state : call.state <;> simp_all [ResultState.place?]
  · intro rejected
    apply rejecting
    cases state : call.state <;> simp_all [ResultState.place?]

/-- Where a reply is and who consumes it concerns the results only. -/
theorem IndexSound.setReply (sound : IndexSound environment client state)
    {number : Nat} {stored : StoredReply Body}
    (found : state.fleet.replies[number]? = some stored)
    {place : ReplyPlace} {handled : Bool} {calls : List ResultCall}
    (results : ResultsSound client.serialization
      (state.fleet.setReply number
        { stored with place := place, handled := handled }) calls) :
    IndexSound environment client
      { state with
        fleet := state.fleet.setReply number
          { stored with place := place, handled := handled }
        calls := calls } where
  fleet := sound.fleet.setReply found place handled
  answered := sound.answered.setReply found place handled
  results := results
  submitted := sound.submitted

theorem IndexSound.step (sound : IndexSound environment client state)
    {action : IndexAction Body}
    (taken : IndexStep environment client state action after) :
    IndexSound environment client after := by
  cases taken with
  | fleet taken =>
      exact
        { fleet := sound.fleet.anyStep taken
          answered := sound.answered.step sound.fleet taken
          results := sound.results.fleetStep taken
          submitted := fun submission member =>
            (sound.submitted submission member).grows
              taken.grows.publications }
  | submit fresh built dumped =>
      exact sound.submit (jobArguments_named fresh built) dumped
  | deliverResult found ready =>
      exact sound.setReply found (sound.results.deliverResult found)
  | endHandler called found handling =>
      exact sound.setReply found (sound.results.endHandler called found _)
  | settleResult called found held settles =>
      exact sound.setReply found
        (sound.results.settleResult called found settles)
  | returnResult called found held =>
      exact sound.setReply found
        (sound.results.setReply found id (by simp) (by simp))

theorem indexSound_of_reachable
    (reachable : Reachable (IndexStep environment client) {} state) :
    IndexSound environment client state :=
  reachable.invariant indexSound_empty
    (fun _ _ _ sound taken => sound.step taken)

/-- A stored reply that loads is in its queue, with a consumer, or handled. -/
theorem ResultsSound.waits_or_handled {serialization : Serialization Body}
    {fleet : Fleet Body} {calls : List ResultCall}
    (sound : ResultsSound serialization fleet calls)
    {stored : StoredReply Body} (member : stored ∈ fleet.replies)
    {result : EmbeddingResult}
    (loads : serialization.loadResult stored.reply.body = some result) :
    stored.place = .ready ∨ (∃ call, stored.place = .unacked call) ∨
      stored.handled = true := by
  obtain ⟨acked, rejected⟩ := sound.replies stored member
  cases place : stored.place with
  | ready =>
      exact Or.inl rfl
  | unacked call =>
      exact Or.inr (Or.inl ⟨call, rfl⟩)
  | acked =>
      exact Or.inr (Or.inr (acked place))
  | rejected =>
      rw [rejected place] at loads
      cases loads

theorem truthy_resultsQueue {replyTo : Option PyStr} {queue : PyStr}
    (named : client.settings.indexResultsQueue ≠ [])
    (asked : queue = resultsQueue client replyTo) :
    truthy (some queue) = true := by
  have notEmpty : queue ≠ [] := by
    rw [asked]
    unfold resultsQueue orDefault
    split
    · exact named
    · exact named
    · simp
  simpa [truthy] using notEmpty

/-- The stored answer to a submitted job carries its id to its queue. -/
theorem FleetSound.answers {fleet : Fleet Body}
    (sound : FleetSound environment (fun _ _ => True) Attributed fleet)
    (keepsIds : client.serialization.KeepsIds environment.python
      environment.dumpResult)
    (accepted : ∀ result body, environment.dumpResult result = some body →
      ∃ loaded, client.serialization.loadResult body = some loaded)
    {stored : StoredReply Body} (member : stored ∈ fleet.replies)
    {job : EmbeddingJob} {body : Body} {replyTo : PyStr}
    (dumped : client.serialization.dumpJob job = some body)
    (named : job.jobId ≠ [])
    (carries : stored.message.Carries
      (requestMessage .index job body replyTo)) :
    stored.reply.routingKey = replyTo ∧
      ∃ result, client.serialization.loadResult stored.reply.body =
          some result ∧
        result.jobId = job.jobId := by
  obtain ⟨lane, logged⟩ := sound.stored stored member
  obtain ⟨workerId, result, retry, written, asked, answer, dump, replyAsked,
    made⟩ := sound.published logged
  have holds : Holds client.serialization stored.message job :=
    { dumped := by
        rw [carries.body]
        exact dumped
      named := named }
  have sameId := holds.answer_id keepsIds (fun _ _ good => good.1) answer
  obtain ⟨loaded, loads⟩ := accepted result written dump
  have same := keepsIds.results result written loaded dump loads
  have sameQueue : asked = replyTo := by
    rw [carries.replyTo] at replyAsked
    exact (Option.some.inj replyAsked).symm
  refine ⟨?_, loaded, ?_, ?_⟩
  · rw [made]
    exact sameQueue
  · rw [made]
    exact loads
  · exact same.trans sameId

end Systems

/-- Wherever workers, consumers and connections fail, every job that
`submit_index` published and the broker confirmed is still in one of its
places. -/
theorem noIndexJobLost {Body : Type} (environment : Environment Body)
    (client : ClientEnvironment Body)
    (keepsIds : client.serialization.KeepsIds environment.python
      environment.dumpResult)
    (accepted : ∀ result body, environment.dumpResult result = some body →
      ∃ loaded, client.serialization.loadResult body = some loaded)
    (named : client.settings.indexResultsQueue ≠ [])
    (state : IndexLane Body)
    (reachable : Reachable (IndexStep environment client) {} state)
    (submission : Submission) (submitted : submission ∈ state.submitted) :
    Accounted client.serialization state.fleet submission := by
  have sound := indexSound_of_reachable reachable
  obtain ⟨jobNamed, ⟨replyTo, asked⟩, body, dumped, found⟩ :=
    sound.submitted submission submitted
  rw [Fleet.publications, List.getElem?_map] at found
  obtain ⟨request, present, publication⟩ := Option.map_eq_some_iff.mp found
  have member := List.mem_of_getElem? present
  have indexed : request.publication.lane = .index := by
    rw [publication]
    rfl
  refine ⟨request, present, ?_⟩
  cases place : request.place with
  | ready =>
      exact Or.inl rfl
  | unacked worker message =>
      exact Or.inr (Or.inl ⟨worker, message, rfl⟩)
  | dead =>
      exact Or.inr (Or.inr (Or.inl rfl))
  | dropped =>
      exact False.elim (sound.answered.kept request member indexed place)
  | acked =>
      have wanted : truthy request.publication.replyTo = true := by
        rw [publication]
        exact truthy_resultsQueue named asked
      obtain ⟨stored, storedMember, carries⟩ :=
        sound.answered.answered request member indexed place wanted
      rw [publication] at carries
      obtain ⟨queue, result, loads, sameId⟩ :=
        sound.fleet.answers keepsIds accepted storedMember dumped jobNamed
          carries
      exact Or.inr (Or.inr (Or.inr ⟨stored, storedMember, queue,
        ⟨result, loads, sameId⟩,
        sound.results.waits_or_handled storedMember loads⟩))

/-- A run in which the answer to a job is handled and the job acked. -/
theorem noIndexJobLost_handled :
    ∃ (state : IndexLane WireBody) (submission : Submission),
      submission ∈ state.submitted ∧
      (∃ request ∈ state.fleet.requests, request.place = .acked) ∧
      Accounted wireSerialization state.fleet submission := by
  have delivered :=
    (((((Reachable.refl ({} : IndexLane WireBody)).tail
      (@IndexStep.submit WireBody wireEnvironment wireClient _
        (.str (pyStr "text")) true [] none none (pyStr "job") _ _ (by decide)
        rfl rfl)).tail
      (.fleet (@FleetStep.startWorker WireBody wireEnvironment _
        (pyStr "worker") [.index]))).tail
      (.fleet (@FleetStep.work WireBody wireEnvironment _ 0 _ _ _ rfl rfl rfl
        (.consume rfl) (stores_of_unconfirmed rfl)))).tail
      (.fleet (@FleetStep.work WireBody wireEnvironment _ 0 _ _ _ rfl rfl rfl
        (.startLoop rfl rfl) (stores_of_unconfirmed rfl)))).tail
      (.fleet (@FleetStep.deliver WireBody wireEnvironment _ 0 0 _ _
        { tag := 0
          body := _
          messageId := some (pyStr "job")
          correlationId := some (pyStr "job")
          replyTo := some (pyStr "indexer.results") }
        [] 0 0 _ rfl rfl ⟨rfl, rfl, rfl, rfl⟩ rfl rfl
        (.receive rfl rfl (fun _ member => nomatch member))))
  have encoded := ((((delivered.tail
    (.fleet (@FleetStep.work WireBody wireEnvironment _ 0 _ _ _ rfl rfl rfl
      (@WorkerStep.takeBatch WireBody wireEnvironment _ .index 0 _ _ rfl rfl
        rfl)
      (stores_of_unconfirmed rfl)))).tail
    (.fleet (@FleetStep.work WireBody wireEnvironment _ 0 _ _ _ rfl rfl rfl
      (@WorkerStep.startProcess WireBody wireEnvironment _ 0 _ (fun _ => 0) 0
        rfl rfl rfl)
      (stores_of_unconfirmed rfl)))).tail
    (.fleet (@FleetStep.work WireBody wireEnvironment _ 0 _ _ _ rfl rfl rfl
      (@WorkerStep.engineReplies WireBody wireEnvironment _ 0 _ _
        (.ok { embeddings := [[]], truncated := [false], tookMs := .zero })
        rfl rfl)
      (stores_of_unconfirmed rfl)))).tail
    (.fleet (@FleetStep.work WireBody wireEnvironment _ 0 _ _ _ rfl rfl rfl
      (@WorkerStep.endThread WireBody wireEnvironment _ 0 _ _ rfl rfl)
      (stores_of_unconfirmed rfl)))).tail
    (.fleet (@FleetStep.work WireBody wireEnvironment _ 0 _ _ _ rfl rfl rfl
      (@WorkerStep.collectOutcomes WireBody wireEnvironment _ 0 _ _ rfl rfl
        rfl)
      (stores_of_unconfirmed rfl)))
  have published := (encoded.tail
    (.fleet (@FleetStep.work WireBody wireEnvironment _ 0 _ _ _ rfl rfl rfl
      (@WorkerStep.startFinish WireBody wireEnvironment _ 0 0 _ _ _ rfl rfl
        rfl (fun finished => nomatch finished))
      (stores_of_unconfirmed rfl)))).tail
    (.fleet (@FleetStep.storeReply WireBody wireEnvironment _ 0 _ .index _ _
      rfl (.tail _ (.tail _ (.head _)))
      (fun stores => nomatch stores.choose_spec.1)))
  have acked := (published.tail
    (.fleet (@FleetStep.work WireBody wireEnvironment _ 0 _ _ _ rfl rfl rfl
      (@WorkerStep.answerFinish WireBody wireEnvironment _ 0 0 _ _ _ .publish
        .returned rfl rfl rfl rfl (fun finished => nomatch finished)
        (fun cancelled => nomatch cancelled))
      (@stores_of_one WireBody _ 0 [_, _, _] [_] .index _ _
        ⟨_, .head _, rfl, rfl, rfl⟩ rfl rfl)))).tail
    (.fleet (@FleetStep.takeAck WireBody wireEnvironment _ 0 0 _ _ .index _
      rfl rfl rfl (.tail _ (.tail _ (.tail _ (.tail _ (.head _)))))))
  have handled := (acked.tail
    (@IndexStep.deliverResult WireBody wireEnvironment wireClient _ 0 _ rfl
      rfl)).tail
    (@IndexStep.endHandler WireBody wireEnvironment wireClient _ 0 _ _ _
      .returned rfl rfl rfl)
  exact ⟨_, _, .head _, ⟨_, .head _, rfl⟩,
    noIndexJobLost wireEnvironment wireClient wire_faithful.keepsIds
      (fun result body dumped => ⟨result.onWire, by cases dumped; rfl⟩)
      (by decide) _ handled _ (.head _)⟩

end EmbeddingService
