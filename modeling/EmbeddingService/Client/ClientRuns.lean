import EmbeddingService.Client.EmbeddingClient

/-!
# What the calls of a client end with

A result reaches a call only through its own future, and a future only from a
reply that the pending table led to it.
-/

namespace EmbeddingService

section Answered

variable {Body : Type} {environment : ClientEnvironment Body}

/-- Every result a call has or ends with is one that `Answered` allows it, and
the status decides between the two ends. -/
structure CallAnswered (Answered : Query → EmbeddingResult → Prop)
    (call : QueryCall) : Prop where
  future : ∀ result, call.future = .result result →
    Answered call.toQuery result
  returned : ∀ result, call.state = .ended (.returned result) →
    Answered call.toQuery result ∧ result.status ≠ .error
  jobFailed : ∀ result, call.state = .ended (.jobFailed result) →
    Answered call.toQuery result ∧ result.status = .error

/-- The pending table leads to calls under the ids of their jobs. -/
structure ClientAnswered (Answered : Query → EmbeddingResult → Prop)
    (client : EmbeddingClient) : Prop where
  calls : ∀ call ∈ client.calls, CallAnswered Answered call
  pending : ∀ jobId number, client.pending.lookup jobId = some number →
    ∃ call, client.calls[number]? = some call ∧ call.job.jobId = jobId

variable {Answered : Query → EmbeddingResult → Prop}
  {client after : EmbeddingClient} {number : Nat} {call : QueryCall}

theorem CallAnswered.mono {Weaker : Query → EmbeddingResult → Prop}
    (answered : CallAnswered Answered call)
    (weakens : ∀ query result, Answered query result →
      Weaker query result) : CallAnswered Weaker call where
  future := fun result same => weakens _ _ (answered.future result same)
  returned := fun result same =>
    ⟨weakens _ _ (answered.returned result same).1,
      (answered.returned result same).2⟩
  jobFailed := fun result same =>
    ⟨weakens _ _ (answered.jobFailed result same).1,
      (answered.jobFailed result same).2⟩

theorem ClientAnswered.mono {Weaker : Query → EmbeddingResult → Prop}
    (answered : ClientAnswered Answered client)
    (weakens : ∀ query result, Answered query result →
      Weaker query result) : ClientAnswered Weaker client where
  calls := fun call member => (answered.calls call member).mono weakens
  pending := answered.pending

/-- A call changes and keeps what it was asked. -/
theorem ClientAnswered.setCall
    (answered : ClientAnswered Answered client)
    (found : client.calls[number]? = some call) {next : QueryCall}
    (same : next.toQuery = call.toQuery)
    (nextAnswered : CallAnswered Answered next) :
    ClientAnswered Answered (client.setCall number next) where
  calls := by
    intro other member
    rcases List.mem_or_eq_of_mem_set member with old | new
    · exact answered.calls other old
    · rw [new]
      exact nextAnswered
  pending := by
    intro jobId place led
    obtain ⟨other, present, id⟩ := answered.pending jobId place led
    by_cases own : place = number
    · rw [own, found] at present
      cases present
      have inside := (List.getElem?_eq_some_iff.mp found).1
      refine ⟨next, ?_, ?_⟩
      · rw [own]
        exact List.getElem?_set_self inside
      · rw [same]
        exact id
    · refine ⟨other, ?_, id⟩
      rw [EmbeddingClient.setCall, List.getElem?_set_ne (Ne.symm own)]
      exact present

/-- The table may lose entries. -/
theorem ClientAnswered.erase (answered : ClientAnswered Answered client)
    (jobId : PyStr) :
    ClientAnswered Answered
      { client with pending := client.pending.erase jobId } where
  calls := answered.calls
  pending := by
    intro other place found
    refine answered.pending other place ?_
    rw [OrderedDict.lookup_eq_some_iff, OrderedDict.mem_erase_iff] at found
    exact (OrderedDict.lookup_eq_some_iff _ _ _).mpr found.1

theorem CallAnswered.settle (answered : CallAnswered Answered call)
    (next : ReplyFuture)
    (allowed : ∀ result, next = .result result →
      Answered call.toQuery result) :
    CallAnswered Answered
      { call with future := ReplyFuture.settle next call.future } where
  future := by
    intro result same
    unfold ReplyFuture.settle at same
    split at same
    · exact answered.future result same
    · exact allowed result same
  returned := answered.returned
  jobFailed := answered.jobFailed

theorem CallAnswered.ends (answered : CallAnswered Answered call)
    (outcome : QueryOutcome)
    (returned : ∀ result, outcome = .returned result →
      Answered call.toQuery result ∧ result.status ≠ .error)
    (jobFailed : ∀ result, outcome = .jobFailed result →
      Answered call.toQuery result ∧ result.status = .error) :
    CallAnswered Answered { call with state := .ended outcome } where
  future := answered.future
  returned := by
    intro result same
    cases same
    exact returned result rfl
  jobFailed := by
    intro result same
    cases same
    exact jobFailed result rfl

/-- `close` fails the pending futures and empties the table. -/
theorem ClientAnswered.close (answered : ClientAnswered Answered client) :
    ClientAnswered Answered client.close where
  calls := by
    intro call member
    obtain ⟨position, inside, same⟩ := List.mem_mapIdx.mp member
    have before :=
      answered.calls client.calls[position] (List.getElem_mem inside)
    rw [← same]
    split
    · exact before.settle .clientClosed (by simp)
    · exact before
  pending := by
    intro jobId number found
    cases found

theorem future_of_returned {future : ReplyFuture} {result : EmbeddingResult}
    (done : future.outcome? = some (.returned result)) :
    future = .result result ∧ result.status ≠ .error := by
  cases future with
  | result reply =>
      simp only [ReplyFuture.outcome?, resultOutcome, Option.some.injEq]
        at done
      split at done
      · cases done
      · next succeeded =>
          cases done
          exact ⟨rfl, succeeded⟩
  | _ =>
      cases done

theorem future_of_jobFailed {future : ReplyFuture}
    {result : EmbeddingResult}
    (done : future.outcome? = some (.jobFailed result)) :
    future = .result result ∧ result.status = .error := by
  cases future with
  | result reply =>
      simp only [ReplyFuture.outcome?, resultOutcome, Option.some.injEq]
        at done
      split at done
      · next failed =>
          cases done
          exact ⟨rfl, failed⟩
      · cases done
  | _ =>
      cases done

/-- A call ends with the result of its future. -/
theorem CallAnswered.resume (answered : CallAnswered Answered call)
    {outcome : QueryOutcome} (done : call.future.outcome? = some outcome) :
    CallAnswered Answered { call with state := .ended outcome } := by
  refine answered.ends outcome ?_ ?_
  · intro result same
    rw [same] at done
    obtain ⟨future, succeeded⟩ := future_of_returned done
    exact ⟨answered.future result future, succeeded⟩
  · intro result same
    rw [same] at done
    obtain ⟨future, failed⟩ := future_of_jobFailed done
    exact ⟨answered.future result future, failed⟩

theorem ClientAnswered.finish (answered : ClientAnswered Answered client)
    (found : client.calls[number]? = some call) {next : QueryCall}
    (same : next.toQuery = call.toQuery) {outcome : QueryOutcome}
    (ended : CallAnswered Answered { next with state := .ended outcome }) :
    ClientAnswered Answered (client.finish number next outcome) :=
  have moved : ClientAnswered Answered
      (client.setCall number { next with state := .ended outcome }) :=
    answered.setCall found same ended
  moved.erase _

theorem ClientAnswered.stop (answered : ClientAnswered Answered client)
    (found : client.calls[number]? = some call) (reason : StopReason) :
    ClientAnswered Answered (client.stop number call reason) := by
  have own := answered.calls call (List.mem_of_getElem? found)
  have settled := own.settle .cancelled (by simp)
  exact answered.setCall found rfl ⟨settled.future, by simp, by simp⟩

/-- Whatever a client does, its calls get only what replies give them. -/
theorem ClientAnswered.step (answered : ClientAnswered Answered client)
    {action : ClientAction Body}
    (replies : ∀ correlationId body, action = .receiveReply correlationId body →
      ∀ result number call,
        environment.serialization.loadResult body = some result →
        client.pending.lookup (orDefault correlationId result.jobId) =
          some number →
        client.calls[number]? = some call →
          Answered call.toQuery result)
    (taken : ClientStep environment client action after) :
    ClientAnswered Answered after := by
  have own : ∀ {number : Nat} {call : QueryCall},
      client.calls[number]? = some call → CallAnswered Answered call :=
    fun found => answered.calls _ (List.mem_of_getElem? found)
  cases taken with
  | @call texts normalize metadata freshId deadline job built =>
      exact
        { calls := by
            intro call member
            rcases List.mem_append.mp member with old | new
            · exact answered.calls call old
            · rw [List.mem_singleton.mp new]
              exact ⟨by simp, by simp, by simp⟩
          pending := by
            intro jobId number led
            by_cases same : jobId = job.jobId
            · rw [same, EmbeddingClient.register,
                OrderedDict.lookup_assign_self] at led
              cases led
              exact ⟨_, List.getElem?_concat_length, same.symm⟩
            · rw [EmbeddingClient.register,
                OrderedDict.lookup_assign_of_ne _ _ same] at led
              obtain ⟨call, found, id⟩ := answered.pending jobId number led
              have inside := (List.getElem?_eq_some_iff.mp found).1
              refine ⟨call, ?_, id⟩
              rw [EmbeddingClient.register,
                List.getElem?_append_left inside]
              exact found }
  | published found publishing dumped =>
      exact answered.setCall found rfl
        ⟨(own found).future, by simp, by simp⟩
  | @publishFailed number call failure found publishing =>
      refine answered.finish found rfl ((own found).ends _ ?_ ?_)
      · cases failure <;> simp [PublishFailure.outcome]
      · cases failure <;> simp [PublishFailure.outcome]
  | @receiveReply correlationId body =>
      have allowed := replies correlationId body rfl
      unfold EmbeddingClient.onReply
      split
      · exact answered
      · next result loads =>
          split
          · exact answered
          · next number led =>
              split
              · exact answered
              · next call found =>
                  refine answered.setCall found rfl ((own found).settle _ ?_)
                  intro other same
                  cases same
                  exact allowed result number call loads led found
  | resume found waiting done =>
      exact answered.finish found rfl ((own found).resume done)
  | timeOut found waiting =>
      exact answered.stop found .timeout
  | cancelPublishing found publishing =>
      exact answered.finish found rfl
        ((own found).ends .cancelled (by simp) (by simp))
  | cancelWaiting found waiting =>
      exact answered.stop found .cancellation
  | cancelStopping found stopping =>
      exact answered.stop found .cancellation
  | @stopped number call reason found stopping =>
      refine answered.finish found rfl ((own found).ends _ ?_ ?_)
      · cases reason <;> simp [StopReason.outcome]
      · cases reason <;> simp [StopReason.outcome]
  | close =>
      exact answered.close

end Answered

section Queries

variable {Body : Type} {environment : ClientEnvironment Body}
  {client after : EmbeddingClient}

def EmbeddingClient.queries (client : EmbeddingClient) : List Query :=
  client.calls.map QueryCall.toQuery

/-- A client is asked by its calls and by nothing else. -/
theorem queries_step {action : ClientAction Body}
    (taken : ClientStep environment client action after) :
    ∃ added : Option Query,
      after.queries = client.queries ++ added.toList ∧
      ∀ query ∈ added, ∃ freshId deadline,
        action = .call query.texts query.normalize query.metadata freshId
          deadline ∧
        queryJob environment freshId query.texts query.normalize
          query.metadata deadline = .ok query.job := by
  have same : ∀ next : EmbeddingClient,
      next.queries = client.queries →
        ∃ added : Option Query,
          next.queries = client.queries ++ added.toList ∧
          ∀ query ∈ added, ∃ freshId deadline,
            action = .call query.texts query.normalize query.metadata
              freshId deadline ∧
            queryJob environment freshId query.texts query.normalize
              query.metadata deadline = .ok query.job := by
    intro next queries
    refine ⟨none, ?_, by simp⟩
    rw [queries]
    exact (List.append_nil _).symm
  have setCall : ∀ {number : Nat} {call next : QueryCall},
      client.calls[number]? = some call → next.toQuery = call.toQuery →
        (client.calls.set number next).map QueryCall.toQuery =
          client.queries := by
    intro number call next found same
    rw [List.map_set]
    exact ListUpdate.set_self (by rw [List.getElem?_map, found, same]; rfl)
  cases taken with
  | @call texts normalize metadata freshId deadline job built =>
      refine ⟨some _, List.map_append, ?_⟩
      intro query asked
      cases asked
      exact ⟨freshId, deadline, rfl, built⟩
  | receiveReply =>
      unfold EmbeddingClient.onReply
      split
      · exact same _ rfl
      · split
        · exact same _ rfl
        · split
          · exact same _ rfl
          · next call found =>
              exact same _ (setCall found rfl)
  | close =>
      refine same _ (List.ext_getElem? (fun position => ?_))
      rw [EmbeddingClient.queries, EmbeddingClient.queries,
        List.getElem?_map, List.getElem?_map, EmbeddingClient.close,
        List.getElem?_mapIdx, Option.map_map]
      refine congrArg (fun change =>
        Option.map change client.calls[position]?) ?_
      funext call
      dsimp only [Function.comp_apply]
      split <;> rfl
  | _ found =>
      exact same _ (setCall found rfl)

end Queries

end EmbeddingService
