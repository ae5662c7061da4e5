import EmbeddingService.Client.ClientRuns
import EmbeddingService.System.Answers

/-!
# A query gets its own vectors

Any number of clients query any number of workers.  Replies reach a client in
any order, late, more than once, or not at all; what a call returns are the
vectors of its own texts.
-/

namespace EmbeddingService

open LabelledRuns

structure QueryLane (Body : Type) where
  fleet : Fleet Body := {}
  clients : List EmbeddingClient := []

inductive QueryAction (Body : Type) where
  | fleet (action : FleetAction Body)
  | startClient
  | client (client : Nat) (action : ClientAction Body)
  | publishQuery (client call : Nat)
  | reply (client worker : Nat) (message : Message Body)
      (reply : Reply Body)

namespace QueryLane

variable {Body : Type}

def setClient (state : QueryLane Body) (number : Nat)
    (client : EmbeddingClient) : QueryLane Body :=
  { state with clients := state.clients.set number client }

/-- Some client was asked a query. -/
def Asked (state : QueryLane Body) (query : Query) : Prop :=
  ∃ client ∈ state.clients, query ∈ client.queries

end QueryLane

/-- The job ids of a call are new; `new_job_id` never gives an empty one. -/
def FreshId {Body : Type} (state : QueryLane Body) :
    ClientAction Body → Prop
  | .call _ _ _ freshId _ =>
      freshId ≠ [] ∧ ∀ query, state.Asked query →
        query.job.jobId ≠ freshId
  | _ => True

def ClientAction.isReply {Body : Type} : ClientAction Body → Bool
  | .receiveReply _ _ => true
  | _ => false

/-- Nobody but a client can ask for replies to its own channel. -/
def Foreign {Body : Type} (address : Nat → PyStr) : FleetAction Body → Prop
  | .publish publication =>
      ∀ number, publication.replyTo ≠ some (address number)
  | _ => True

/-- The steps of clients, workers and broker, with an engine that replies as
`Allowed` says.  The direct reply-to address of a client's channel is
`address`.  The message of a call may reach the broker at any time, and a
worker's reply the channel it is addressed to at any time and any number of
times. -/
inductive QueryStep {Body : Type} (environment : Environment Body)
    (setting : ClientEnvironment Body) (address : Nat → PyStr)
    (Allowed : EncodeCall → EngineReply → Prop) :
    QueryLane Body → QueryAction Body → QueryLane Body → Prop
  | fleet {state : QueryLane Body} {action : FleetAction Body}
      {after : Fleet Body}
      (taken : FleetStep environment state.fleet action after)
      (foreign : Foreign address action)
      (allowed : action.EngineAllowed Allowed) :
      QueryStep environment setting address Allowed state (.fleet action)
        { state with fleet := after }
  | startClient {state : QueryLane Body} :
      QueryStep environment setting address Allowed state .startClient
        { state with clients := state.clients ++ [{}] }
  | client {state : QueryLane Body} {number : Nat}
      {client after : EmbeddingClient} {action : ClientAction Body}
      (runs : state.clients[number]? = some client)
      (own : action.isReply = false) (fresh : FreshId state action)
      (taken : ClientStep setting client action after) :
      QueryStep environment setting address Allowed state
        (.client number action) (state.setClient number after)
  | publishQuery {state : QueryLane Body} {number position : Nat}
      {client : EmbeddingClient} {call : QueryCall} {body : Body}
      (runs : state.clients[number]? = some client)
      (called : client.calls[position]? = some call)
      (dumped : setting.serialization.dumpJob call.job = some body) :
      QueryStep environment setting address Allowed state
        (.publishQuery number position)
        { state with
          fleet := state.fleet.publish
            (requestMessage .query call.job body (address number)) }
  | reply {state : QueryLane Body} {number position : Nat}
      {client : EmbeddingClient} {lane : LaneName} {message : Message Body}
      {reply : Reply Body}
      (runs : state.clients[number]? = some client)
      (published :
        state.fleet.Logs position (.published lane message reply))
      (addressed : reply.routingKey = address number) :
      QueryStep environment setting address Allowed state
        (.reply number position message reply)
        (state.setClient number
          (client.onReply setting.serialization (some reply.correlationId)
            reply.body))

/-- A result that holds exactly what was asked, with the metadata as they are
on the wire. -/
structure OwnVectors (vectors : Vectors) (query : Query)
    (result : EmbeddingResult) : Prop where
  jobId : result.jobId = query.job.jobId
  metadata : result.metadata = Json.entriesOnWire query.metadata
  embeddings : result.embeddings =
    query.texts.texts.map (vectors .query query.normalize)
  inputType : result.inputType = some .query
  normalized : result.normalized = some query.normalize
  count : result.count = query.texts.texts.length
  truncated : result.truncated.length = query.texts.texts.length

/-- A result that a worker published in answer to the message of a query. -/
def RepliedTo {Body : Type} (serialization : Serialization Body)
    (fleet : Fleet Body) (query : Query) (result : EmbeddingResult) : Prop :=
  ∃ position message reply,
    fleet.Logs position (.published .query message reply) ∧
    Holds serialization message query.job ∧
    serialization.loadResult reply.body = some result

/-- What a query may be answered with. -/
structure OwnReply {Body : Type} (serialization : Serialization Body)
    (vectors : Vectors) (fleet : Fleet Body) (query : Query)
    (result : EmbeddingResult) : Prop where
  jobId : result.jobId = query.job.jobId
  replied : RepliedTo serialization fleet query result
  vectors : result.status ≠ .error → OwnVectors vectors query result

/-- The job of a query is what it was asked to be. -/
structure Query.Built (query : Query) : Prop where
  named : query.job.jobId ≠ []
  input : query.job.input = query.texts.texts
  inputType : query.job.inputType = .query
  normalize : query.job.normalize = query.normalize
  metadata : query.job.metadata = query.metadata

/-- Queries are told apart by their ids, requests for a client's channel are
the client's queries, and every call has only replies of its own. -/
structure QuerySound {Body : Type} (environment : Environment Body)
    (setting : ClientEnvironment Body) (address : Nat → PyStr)
    (vectors : Vectors) (state : QueryLane Body) : Prop where
  fleet : FleetSound environment (Pointwise vectors) (Answers vectors)
    state.fleet
  built : ∀ query, state.Asked query → query.Built
  distinct : ∀ query other, state.Asked query → state.Asked other →
    query.job.jobId = other.job.jobId → query = other
  requests : ∀ publication ∈ state.fleet.publications, ∀ number,
    publication.replyTo = some (address number) →
      ∃ query body replyTo, state.Asked query ∧
        setting.serialization.dumpJob query.job = some body ∧
        publication = requestMessage .query query.job body replyTo
  clients : ∀ client ∈ state.clients,
    ClientAnswered
      (OwnReply setting.serialization vectors state.fleet) client

section Replies

variable {Body : Type} {environment : Environment Body}
  {setting : ClientEnvironment Body} {address : Nat → PyStr}
  {vectors : Vectors} {state : QueryLane Body}

/-- The answer the engine gives a job holds what was asked, after the wire. -/
theorem ownVectors_of_answers {query : Query} (built : query.Built)
    {result : EmbeddingResult}
    (answers : Answers vectors query.job.onWire result) :
    OwnVectors vectors query result.onWire where
  jobId := answers.attributed.1
  metadata := by
    have echoed : result.metadata = Json.entriesOnWire query.job.metadata :=
      answers.attributed.2.1
    rw [EmbeddingResult.onWire, echoed, entriesOnWire_twice, built.metadata]
  embeddings := by
    rw [← built.input, ← built.normalize, ← built.inputType]
    exact answers.embeddings
  inputType := by
    rw [← built.inputType]
    exact answers.inputType
  normalized := by
    rw [← built.normalize]
    exact answers.normalized
  count := by
    rw [← built.input]
    exact answers.attributed.2.2.2
  truncated := by
    rw [← built.input]
    exact answers.truncated

/-- A reply that is addressed to a client answers a query, under its id. -/
theorem QuerySound.reply
    (sound : QuerySound environment setting address vectors state)
    (faithful : setting.serialization.Faithful environment.python
      environment.dumpResult)
    {number position : Nat} {lane : LaneName} {message : Message Body}
    {reply : Reply Body}
    (published : state.fleet.Logs position (.published lane message reply))
    (addressed : reply.routingKey = address number) :
    ∃ query, state.Asked query ∧
      (∀ jobId, orDefault (some reply.correlationId) jobId =
        query.job.jobId) ∧
      ∀ result,
        setting.serialization.loadResult reply.body = some result →
          OwnReply setting.serialization vectors state.fleet query
            result := by
  obtain ⟨publication, member, sameLane, carries⟩ :=
    sound.fleet.carries published rfl
  obtain ⟨workerId, result, retry, body, replyTo, answer, dumped, asked,
    made⟩ := sound.fleet.published published
  have toClient : publication.replyTo = some (address number) := by
    rw [← carries.replyTo, asked, ← addressed, made]
    rfl
  obtain ⟨query, jobBody, channel, known, jobDumped, same⟩ :=
    sound.requests publication member number toClient
  have built := sound.built query known
  have holds : Holds setting.serialization message query.job :=
    { dumped := by
        rw [carries.body, same]
        exact jobDumped
      named := built.named }
  have queried : lane = .query := by
    rw [← sameLane, same]
    rfl
  have sameId := holds.answer_id faithful.keepsIds
    (fun _ _ good => good.attributed.1) answer
  have correlated : reply.correlationId = query.job.jobId := by
    have given : message.correlationId = some query.job.jobId := by
      rw [carries.correlationId, same]
      rfl
    rw [made]
    change orDefault message.correlationId result.jobId = _
    rw [given]
    exact orDefault_of_ne_nil built.named
  refine ⟨query, known, ?_, ?_⟩
  · intro jobId
    rw [correlated]
    exact orDefault_of_ne_nil built.named
  · intro loaded loads
    have loadedBody :
        setting.serialization.loadResult body = some loaded := by
      rw [made] at loads
      exact loads
    have sameResult :=
      faithful.results result body loaded dumped loadedBody
    rw [queried] at published
    refine ⟨?_, ⟨position, message, reply, published, holds, loads⟩, ?_⟩
    · rw [sameResult]
      exact sameId
    · intro succeeded
      rcases holds.answer faithful answer with failed | answers
      · rw [sameResult] at succeeded
        exact False.elim (succeeded failed)
      · rw [sameResult]
        exact ownVectors_of_answers built answers

/-- What was asked or replied stays so. -/
theorem OwnReply.mono {fleet after : Fleet Body} {query : Query}
    {result : EmbeddingResult}
    (own : OwnReply setting.serialization vectors fleet query result)
    (grows : FleetGrows fleet after) :
    OwnReply setting.serialization vectors after query result where
  jobId := own.jobId
  replied := by
    obtain ⟨position, message, reply, published, rest⟩ := own.replied
    exact ⟨position, message, reply, grows.logs published, rest⟩
  vectors := own.vectors

theorem querySound_empty :
    QuerySound environment setting address vectors
      ({} : QueryLane Body) where
  fleet := fleetSound_empty
  built := by simp [QueryLane.Asked]
  distinct := by simp [QueryLane.Asked]
  requests := by simp [Fleet.publications]
  clients := by simp

/-- The fleet moves on, and only queries are published for a client. -/
theorem QuerySound.setFleet
    (sound : QuerySound environment setting address vectors state)
    {after : Fleet Body} (grows : FleetGrows state.fleet after)
    (fleet : FleetSound environment (Pointwise vectors) (Answers vectors)
      after)
    (requests : ∀ publication ∈ after.publications, ∀ number,
      publication.replyTo = some (address number) →
        ∃ query body replyTo, state.Asked query ∧
          setting.serialization.dumpJob query.job = some body ∧
          publication = requestMessage .query query.job body replyTo) :
    QuerySound environment setting address vectors
      { state with fleet := after } where
  fleet := fleet
  built := sound.built
  distinct := sound.distinct
  requests := requests
  clients := by
    intro client member
    exact (sound.clients client member).mono
      (fun _ _ own => own.mono grows)

/-- Setting a client adds the queries that it adds to its own. -/
theorem asked_setClient {number : Nat} {client after : EmbeddingClient}
    {added : Option Query}
    (runs : state.clients[number]? = some client)
    (grown : after.queries = client.queries ++ added.toList)
    (query : Query) :
    (state.setClient number after).Asked query ↔
      state.Asked query ∨ query ∈ added := by
  have inside := (List.getElem?_eq_some_iff.mp runs).1
  have own : query ∈ after.queries ↔
      query ∈ client.queries ∨ query ∈ added := by
    rw [grown, List.mem_append, Option.mem_toList, Option.mem_def]
  constructor
  · intro known
    obtain ⟨other, member, asks⟩ := known
    rcases List.mem_or_eq_of_mem_set member with old | new
    · exact Or.inl ⟨other, old, asks⟩
    · rw [new] at asks
      rcases own.mp asks with before | now
      · exact Or.inl ⟨client, List.mem_of_getElem? runs, before⟩
      · exact Or.inr now
  · intro known
    have set : (state.clients.set number after)[number]? = some after :=
      List.getElem?_set_self inside
    have present := List.mem_of_getElem? set
    rcases known with before | now
    · obtain ⟨other, member, asks⟩ := before
      obtain ⟨position, found⟩ := List.getElem?_of_mem member
      by_cases same : position = number
      · rw [same, runs] at found
        cases found
        exact ⟨after, present, own.mpr (Or.inl asks)⟩
      · have kept : (state.clients.set number after)[position]? =
            some other := by
          rw [List.getElem?_set_ne (Ne.symm same)]
          exact found
        exact ⟨other, List.mem_of_getElem? kept, asks⟩
    · exact ⟨after, present, own.mpr (Or.inr now)⟩

/-- A client moves on; what it is asked anew has an id of its own. -/
theorem QuerySound.setClient
    (sound : QuerySound environment setting address vectors state)
    {number : Nat} {client after : EmbeddingClient} {added : Option Query}
    (runs : state.clients[number]? = some client)
    (grown : after.queries = client.queries ++ added.toList)
    (built : ∀ query ∈ added, query.Built)
    (fresh : ∀ query ∈ added, ∀ other, state.Asked other →
      other.job.jobId ≠ query.job.jobId)
    (answered : ClientAnswered
      (OwnReply setting.serialization vectors state.fleet) after) :
    QuerySound environment setting address vectors
      (state.setClient number after) where
  fleet := sound.fleet
  built := by
    intro query known
    rcases (asked_setClient runs grown query).mp known with before | now
    · exact sound.built query before
    · exact built query now
  distinct := by
    intro query other known otherKnown sameId
    rcases (asked_setClient runs grown query).mp known with before | now
    · rcases (asked_setClient runs grown other).mp otherKnown with
        otherBefore | otherNow
      · exact sound.distinct query other before otherBefore sameId
      · exact False.elim (fresh other otherNow query before sameId)
    · rcases (asked_setClient runs grown other).mp otherKnown with
        otherBefore | otherNow
      · exact False.elim (fresh query now other otherBefore sameId.symm)
      · exact Option.mem_unique now otherNow
  requests := by
    intro publication member channel toClient
    obtain ⟨query, body, replyTo, known, rest⟩ :=
      sound.requests publication member channel toClient
    exact ⟨query, body, replyTo,
      (asked_setClient runs grown query).mpr (Or.inl known), rest⟩
  clients := by
    intro other member
    rcases List.mem_or_eq_of_mem_set member with old | new
    · exact sound.clients other old
    · rw [new]
      exact answered

theorem QuerySound.clientStep
    (sound : QuerySound environment setting address vectors state)
    (boolOf : ∀ flag, setting.rules.boolOf (.bool flag) = .ok flag)
    {number : Nat} {client after : EmbeddingClient}
    {action : ClientAction Body}
    (runs : state.clients[number]? = some client)
    (fresh : FreshId state action)
    (replies : ∀ correlationId body, action = .receiveReply correlationId body →
      ∀ result number call,
        setting.serialization.loadResult body = some result →
        client.pending.lookup (orDefault correlationId result.jobId) =
          some number →
        client.calls[number]? = some call →
          OwnReply setting.serialization vectors state.fleet call.toQuery
            result)
    (taken : ClientStep setting client action after) :
    QuerySound environment setting address vectors
      (state.setClient number after) := by
  obtain ⟨added, grown, called⟩ := queries_step taken
  have member := List.mem_of_getElem? runs
  refine sound.setClient runs grown ?_ ?_
    ((sound.clients client member).step replies taken)
  · intro query now
    obtain ⟨freshId, deadline, same, made⟩ := called query now
    obtain ⟨inputType, normalize, metadata, jobId, input⟩ :=
      queryJob_taken boolOf made
    rw [same] at fresh
    refine ⟨?_, input, inputType, normalize, metadata⟩
    rw [jobId]
    exact fresh.1
  · intro query now other known
    obtain ⟨freshId, deadline, same, made⟩ := called query now
    have jobId := (queryJob_taken boolOf made).2.2.2.1
    rw [same] at fresh
    rw [jobId]
    exact fresh.2 other known

theorem QuerySound.startClient
    (sound : QuerySound environment setting address vectors state) :
    QuerySound environment setting address vectors
      { state with clients := state.clients ++ [{}] } := by
  have unasked : ∀ query,
      QueryLane.Asked { state with clients := state.clients ++ [{}] }
          query →
        state.Asked query := by
    intro query known
    obtain ⟨client, member, asks⟩ := known
    rcases List.mem_append.mp member with old | new
    · exact ⟨client, old, asks⟩
    · rw [List.mem_singleton.mp new] at asks
      cases asks
  exact
    { fleet := sound.fleet
      built := fun query known => sound.built query (unasked query known)
      distinct := fun query other known otherKnown =>
        sound.distinct query other (unasked query known)
          (unasked other otherKnown)
      requests := by
        intro publication member number toClient
        obtain ⟨query, body, replyTo, ⟨client, present, asks⟩, rest⟩ :=
          sound.requests publication member number toClient
        exact ⟨query, body, replyTo,
          ⟨client, List.mem_append_left _ present, asks⟩, rest⟩
      clients := by
        intro client member
        rcases List.mem_append.mp member with old | new
        · exact sound.clients client old
        · rw [List.mem_singleton.mp new]
          exact ⟨by simp, by simp [OrderedDict.lookup_empty]⟩ }

/-- The message of a call reaches the broker. -/
theorem QuerySound.publishQuery
    (sound : QuerySound environment setting address vectors state)
    {number position : Nat} {client : EmbeddingClient} {call : QueryCall}
    {body : Body} (runs : state.clients[number]? = some client)
    (called : client.calls[position]? = some call)
    (dumped : setting.serialization.dumpJob call.job = some body) :
    QuerySound environment setting address vectors
      { state with
        fleet := state.fleet.publish
          (requestMessage .query call.job body (address number)) } := by
  have published : FleetStep environment state.fleet
      (.publish (requestMessage .query call.job body (address number)))
      (state.fleet.publish
        (requestMessage .query call.job body (address number))) :=
    .publish
  have engine : (FleetAction.publish (requestMessage .query call.job body
      (address number))).EngineAllowed (Pointwise vectors) :=
    trivial
  refine sound.setFleet published.grows
    (sound.fleet.step (fun _ => splitsGood_answers) engine published) ?_
  intro publication member channel toClient
  obtain ⟨added, grown, same⟩ := published.publications
  rw [grown] at member
  rcases List.mem_append.mp member with old | new
  · exact sound.requests publication old channel toClient
  · cases same publication (Option.mem_toList.mp new)
    exact ⟨call.toQuery, body, address number,
      ⟨client, List.mem_of_getElem? runs,
        List.mem_map_of_mem (List.mem_of_getElem? called)⟩,
      dumped, rfl⟩

/-- A reply reaches a client's channel. -/
theorem QuerySound.onReply
    (sound : QuerySound environment setting address vectors state)
    (faithful : setting.serialization.Faithful environment.python
      environment.dumpResult)
    (boolOf : ∀ flag, setting.rules.boolOf (.bool flag) = .ok flag)
    {number position : Nat} {client : EmbeddingClient} {lane : LaneName}
    {message : Message Body} {reply : Reply Body}
    (runs : state.clients[number]? = some client)
    (published : state.fleet.Logs position (.published lane message reply))
    (addressed : reply.routingKey = address number) :
    QuerySound environment setting address vectors
      (state.setClient number
        (client.onReply setting.serialization (some reply.correlationId)
          reply.body)) := by
  have received : ClientStep setting client
      (.receiveReply (some reply.correlationId) reply.body)
      (client.onReply setting.serialization (some reply.correlationId)
        reply.body) :=
    .receiveReply
  have unasked : FreshId state (.receiveReply
      (some reply.correlationId) reply.body) :=
    trivial
  refine sound.clientStep boolOf runs unasked ?_ received
  intro correlationId body same result place call loads led found
  cases same
  obtain ⟨query, known, correlated, answered⟩ :=
    sound.reply faithful published addressed
  have member := List.mem_of_getElem? runs
  obtain ⟨other, present, sameId⟩ :=
    (sound.clients client member).pending _ _ led
  rw [found] at present
  cases present
  have asked : state.Asked call.toQuery :=
    ⟨client, member, List.mem_map_of_mem (List.mem_of_getElem? found)⟩
  have own := sound.distinct call.toQuery query asked known
    (sameId.trans (correlated _))
  rw [own]
  exact answered result loads

theorem QuerySound.step
    (sound : QuerySound environment setting address vectors state)
    (faithful : setting.serialization.Faithful environment.python
      environment.dumpResult)
    (boolOf : ∀ flag, setting.rules.boolOf (.bool flag) = .ok flag)
    {action : QueryAction Body} {after : QueryLane Body}
    (taken : QueryStep environment setting address (Pointwise vectors) state
      action after) :
    QuerySound environment setting address vectors after := by
  cases taken with
  | fleet taken foreign allowed =>
      refine sound.setFleet taken.grows
        (sound.fleet.step (fun _ => splitsGood_answers) allowed taken) ?_
      intro publication member number toClient
      obtain ⟨added, grown, published⟩ := taken.publications
      rw [grown] at member
      rcases List.mem_append.mp member with old | new
      · exact sound.requests publication old number toClient
      · rw [published publication (Option.mem_toList.mp new)] at foreign
        exact False.elim (foreign number toClient)
  | startClient =>
      exact sound.startClient
  | client runs own fresh taken =>
      refine sound.clientStep boolOf runs fresh ?_ taken
      intro correlationId body same
      rw [same] at own
      cases own
  | publishQuery runs called dumped =>
      exact sound.publishQuery runs called dumped
  | reply runs published addressed =>
      exact sound.onReply faithful boolOf runs published addressed

theorem querySound_of_reachable
    (faithful : setting.serialization.Faithful environment.python
      environment.dumpResult)
    (boolOf : ∀ flag, setting.rules.boolOf (.bool flag) = .ok flag)
    (reachable : Reachable
      (QueryStep environment setting address (Pointwise vectors)) {} state) :
    QuerySound environment setting address vectors state :=
  reachable.invariant querySound_empty
    (fun _ _ _ sound taken => sound.step faithful boolOf taken)

end Replies

/-- Whatever is batched with it and however replies travel, a call that
returns has its own vectors, with its own metadata exactly when their numbers
are finite and their keys plain; and one that fails has the error that answers
its own job. -/
theorem queryAnswered {Body : Type} (environment : Environment Body)
    (setting : ClientEnvironment Body) (address : Nat → PyStr)
    (vectors : Vectors)
    (faithful : setting.serialization.Faithful environment.python
      environment.dumpResult)
    (boolOf : ∀ flag, setting.rules.boolOf (.bool flag) = .ok flag)
    (state : QueryLane Body)
    (reachable : Reachable
      (QueryStep environment setting address (Pointwise vectors)) {} state)
    (client : EmbeddingClient) (member : client ∈ state.clients)
    (call : QueryCall) (called : call ∈ client.calls)
    (result : EmbeddingResult) :
    (call.state = .ended (.returned result) →
      OwnVectors vectors call.toQuery result ∧
        (result.metadata = call.metadata ↔
          Json.entriesAreFinite call.metadata = true ∧
            Json.entriesHavePlainKeys call.metadata = true)) ∧
    (call.state = .ended (.jobFailed result) →
      result.status = .error ∧ result.jobId = call.job.jobId ∧
        RepliedTo setting.serialization state.fleet call.toQuery
          result) := by
  have sound := querySound_of_reachable faithful boolOf reachable
  have answered := (sound.clients client member).calls call called
  constructor
  · intro returned
    obtain ⟨own, succeeded⟩ := answered.returned result returned
    have vectors := own.vectors succeeded
    refine ⟨vectors, ?_⟩
    rw [vectors.metadata]
    exact entriesOnWire_eq_iff
  · intro raised
    obtain ⟨own, failed⟩ := answered.jobFailed result raised
    exact ⟨failed, own.jobId, own.replied⟩

/-- Workers whose batches are two texts. -/
def pairEnvironment : Environment WireBody :=
  { wireEnvironment with settings := .twoTexts }

/-- A vector that tells texts of different lengths apart. -/
def lengthVector : Vectors :=
  fun _ _ text => [.finite false text.length 0]

def clientChannel : Nat → PyStr
  | 0 => pyStr "first"
  | _ => pyStr "second"

def chapterMetadata : PyDict := [(pyStr "doc", .str (pyStr "a"))]

def pageMetadata : PyDict := [(pyStr "a", .float .nan)]

/-- The delivery of a query. -/
def queryMessage (tag : Nat) (body : WireBody) (jobId replyTo : PyStr) :
    Message WireBody where
  tag := tag
  body := body
  messageId := some jobId
  correlationId := some jobId
  replyTo := some replyTo

theorem not_asked_of_all {state : QueryLane WireBody} {freshId : PyStr}
    (others : state.clients.all (fun client =>
      client.calls.all (fun call => call.job.jobId != freshId)) = true) :
    ∀ query, state.Asked query → query.job.jobId ≠ freshId := by
  rintro query ⟨client, member, asks⟩
  obtain ⟨call, called, rfl⟩ := List.mem_map.mp asks
  have different := List.all_eq_true.mp (List.all_eq_true.mp others client
    member) call called
  exact bne_iff_ne.mp different

/-- Two queries, of two clients, are encoded in one batch and answered in the
other order. -/
theorem pairReturned :
    ∃ (state : QueryLane WireBody) (client other : EmbeddingClient)
      (first second : QueryCall) (result otherResult : EmbeddingResult),
      Reachable (QueryStep pairEnvironment wireClient clientChannel
        (Pointwise lengthVector)) {} state ∧
      state.clients = [client, other] ∧
      client.calls = [first] ∧ other.calls = [second] ∧
      first.metadata = chapterMetadata ∧ second.metadata = pageMetadata ∧
      first.state = .ended (.returned result) ∧
      second.state = .ended (.returned otherResult) ∧
      result.embeddings ≠ otherResult.embeddings ∧
      otherResult.metadata = [(pyStr "a", .null)] := by
  have asked :=
    ((((Reachable.refl ({} : QueryLane WireBody)).tail
      (@QueryStep.startClient WireBody pairEnvironment wireClient
        clientChannel (Pointwise lengthVector) _)).tail
      (@QueryStep.startClient WireBody pairEnvironment wireClient
        clientChannel (Pointwise lengthVector) _)).tail
      (@QueryStep.client WireBody pairEnvironment wireClient clientChannel
        (Pointwise lengthVector) _ 0 _ _
        (.call (.str (pyStr "chapter")) true chapterMetadata (pyStr "one")
          1000) rfl rfl ⟨by decide, not_asked_of_all rfl⟩ (.call rfl))).tail
      (@QueryStep.client WireBody pairEnvironment wireClient clientChannel
        (Pointwise lengthVector) _ 1 _ _
        (.call (.str (pyStr "page")) true pageMetadata (pyStr "two") 1000)
        rfl rfl ⟨by decide, not_asked_of_all rfl⟩ (.call rfl))
  have published :=
    (((asked.tail
      (@QueryStep.publishQuery WireBody pairEnvironment wireClient
        clientChannel (Pointwise lengthVector) _ 0 0 _ _ _ rfl rfl
        rfl)).tail
      (@QueryStep.publishQuery WireBody pairEnvironment wireClient
        clientChannel (Pointwise lengthVector) _ 1 0 _ _ _ rfl rfl
        rfl)).tail
      (@QueryStep.client WireBody pairEnvironment wireClient clientChannel
        (Pointwise lengthVector) _ 0 _ _ (.published 0) rfl rfl trivial
        (.published rfl rfl rfl))).tail
      (@QueryStep.client WireBody pairEnvironment wireClient clientChannel
        (Pointwise lengthVector) _ 1 _ _ (.published 0) rfl rfl trivial
        (.published rfl rfl rfl))
  have delivered :=
    ((((published.tail
      (.fleet
        (@FleetStep.startWorker WireBody pairEnvironment _ (pyStr "worker")
          [.query]) trivial trivial)).tail
      (.fleet
        (@FleetStep.work WireBody pairEnvironment _ 0 _ _ _ rfl rfl rfl
          (.consume rfl) (stores_of_unconfirmed rfl)) trivial trivial)).tail
      (.fleet
        (@FleetStep.work WireBody pairEnvironment _ 0 _ _ _ rfl rfl rfl
          (.startLoop rfl rfl) (stores_of_unconfirmed rfl))
        trivial trivial)).tail
      (.fleet
        (@FleetStep.deliver WireBody pairEnvironment _ 0 0 _ _
          (queryMessage 0 _ (pyStr "one") (pyStr "first")) [] 0 0 _ rfl rfl
          ⟨rfl, rfl, rfl, rfl⟩ rfl rfl
          (.receive rfl rfl (List.forall_mem_nil _))) trivial trivial)).tail
      (.fleet
        (@FleetStep.deliver WireBody pairEnvironment _ 1 0 _ _
          (queryMessage 1 _ (pyStr "two") (pyStr "second")) [] 0 0 _ rfl rfl
          ⟨rfl, rfl, rfl, rfl⟩ rfl rfl
          (.receive rfl rfl (List.forall_mem_singleton.mpr (by decide))))
        trivial trivial)
  have encoding := ((delivered.tail
    (.fleet
      (@FleetStep.work WireBody pairEnvironment _ 0 _ _ _ rfl rfl rfl
        (@WorkerStep.takeBatch WireBody pairEnvironment _ .query 0 _ _ rfl
          rfl rfl)
        (stores_of_unconfirmed rfl)) trivial trivial)).tail
    (.fleet
      (@FleetStep.work WireBody pairEnvironment _ 0 _ _ _ rfl rfl rfl
        (@WorkerStep.startProcess WireBody pairEnvironment _ 0 _ (fun _ => 0)
          0 rfl rfl rfl)
        (stores_of_unconfirmed rfl)) trivial trivial)).tail
    (.fleet
      (@FleetStep.work WireBody pairEnvironment _ 0 _ _ _ rfl rfl rfl
        (@WorkerStep.engineReplies WireBody pairEnvironment _ 0 _
          { texts := [pyStr "chapter", pyStr "page"]
            inputType := .query
            normalize := true }
          (.ok
            { embeddings := [[.finite false 7 0], [.finite false 4 0]]
              truncated := [false, true]
              tookMs := .zero }) rfl rfl)
        (stores_of_unconfirmed rfl)) trivial ⟨rfl, rfl⟩)
  have finishing := (((encoding.tail
    (.fleet
      (@FleetStep.work WireBody pairEnvironment _ 0 _ _ _ rfl rfl rfl
        (@WorkerStep.endThread WireBody pairEnvironment _ 0 _ _ rfl rfl)
        (stores_of_unconfirmed rfl)) trivial trivial)).tail
    (.fleet
      (@FleetStep.work WireBody pairEnvironment _ 0 _ _ _ rfl rfl rfl
        (@WorkerStep.collectOutcomes WireBody pairEnvironment _ 0 _ _ rfl rfl
          rfl)
        (stores_of_unconfirmed rfl)) trivial trivial)).tail
    (.fleet
      (@FleetStep.work WireBody pairEnvironment _ 0 _ _ _ rfl rfl rfl
        (@WorkerStep.startFinish WireBody pairEnvironment _ 0 0 _ _ _ rfl rfl
          rfl (fun finished => by cases finished))
        (stores_of_unconfirmed rfl)) trivial trivial)).tail
    (.fleet
      (@FleetStep.work WireBody pairEnvironment _ 0 _ _ _ rfl rfl rfl
        (@WorkerStep.startFinish WireBody pairEnvironment _ 0 1 _ _ _ rfl rfl
          rfl (fun finished => by cases finished))
        (stores_of_unconfirmed rfl)) trivial trivial)
  have answeredSecond := (finishing.tail
    (@QueryStep.reply WireBody pairEnvironment wireClient clientChannel
      (Pointwise lengthVector) _ 1 0 _ .query _ _ rfl
      ⟨_, rfl, List.mem_of_getElem? (i := 4) rfl⟩ rfl)).tail
    (@QueryStep.client WireBody pairEnvironment wireClient clientChannel
      (Pointwise lengthVector) _ 1 _ _ (.resume 0) rfl rfl trivial
      (.resume rfl rfl rfl))
  have answered := (answeredSecond.tail
    (@QueryStep.reply WireBody pairEnvironment wireClient clientChannel
      (Pointwise lengthVector) _ 0 0 _ .query _ _ rfl
      ⟨_, rfl, List.mem_of_getElem? (i := 3) rfl⟩ rfl)).tail
    (@QueryStep.client WireBody pairEnvironment wireClient clientChannel
      (Pointwise lengthVector) _ 0 _ _ (.resume 0) rfl rfl trivial
      (.resume rfl rfl rfl))
  exact ⟨_, _, _, _, _, _, _, answered, rfl, rfl, rfl, rfl, rfl, rfl, rfl,
    by decide, rfl⟩

/-- Each of two clients gets the vectors of its own text, and its metadata
where JSON carries them. -/
theorem queryAnswered_returned :
    ∃ (state : QueryLane WireBody) (client other : EmbeddingClient)
      (first second : QueryCall) (result otherResult : EmbeddingResult),
      Reachable (QueryStep pairEnvironment wireClient clientChannel
        (Pointwise lengthVector)) {} state ∧
      state.clients = [client, other] ∧
      first ∈ client.calls ∧ second ∈ other.calls ∧
      first.state = .ended (.returned result) ∧
      second.state = .ended (.returned otherResult) ∧
      OwnVectors lengthVector first.toQuery result ∧
      OwnVectors lengthVector second.toQuery otherResult ∧
      result.embeddings ≠ otherResult.embeddings ∧
      result.metadata = first.metadata ∧
      otherResult.metadata ≠ second.metadata := by
  obtain ⟨state, client, other, first, second, result, otherResult,
    reachable, clients, calls, otherCalls, metadata, otherMetadata, ended,
    otherEnded, different, _⟩ := pairReturned
  have called : first ∈ client.calls := by
    rw [calls]
    exact .head _
  have otherCalled : second ∈ other.calls := by
    rw [otherCalls]
    exact .head _
  have own := (queryAnswered pairEnvironment wireClient clientChannel
    lengthVector wire_faithful (fun _ => rfl) state reachable client
    (by rw [clients]; exact .head _) first called result).1 ended
  have otherOwn := (queryAnswered pairEnvironment wireClient clientChannel
    lengthVector wire_faithful (fun _ => rfl) state reachable other
    (by rw [clients]; exact .tail _ (.head _)) second otherCalled
    otherResult).1 otherEnded
  refine ⟨state, client, other, first, second, result, otherResult,
    reachable, clients, called, otherCalled, ended, otherEnded, own.1,
    otherOwn.1, different, ?_, ?_⟩
  · exact own.2.mpr (by rw [metadata]; exact ⟨rfl, rfl⟩)
  · intro same
    have finite := (otherOwn.2.mp same).1
    rw [otherMetadata] at finite
    cases finite

/-- A call that attached a number JSON has no name for gets `None` back. -/
theorem queryAnswered_fails_nan :
    ∃ (state : QueryLane WireBody) (client : EmbeddingClient)
      (call : QueryCall) (result : EmbeddingResult),
      Reachable (QueryStep pairEnvironment wireClient clientChannel
        (Pointwise lengthVector)) {} state ∧
      client ∈ state.clients ∧ call ∈ client.calls ∧
      call.metadata = [(pyStr "a", .float .nan)] ∧
      call.state = .ended (.returned result) ∧
      result.metadata = [(pyStr "a", .null)] := by
  obtain ⟨state, _, other, _, second, _, otherResult, reachable, clients,
    _, otherCalls, _, metadata, _, ended, _, returned⟩ := pairReturned
  refine ⟨state, other, second, otherResult, reachable, ?_, ?_, metadata,
    ended, returned⟩
  · rw [clients]
    exact .tail _ (.head _)
  · rw [otherCalls]
    exact .head _

end EmbeddingService
