import EmbeddingService.Client.ClientRuns

/-!
# The pending table of a client

Callers, the reply callback and `close` all touch the table and the futures.
What each of them does is one of five changes, and every change keeps the table
to the calls that are not over.
-/

namespace EmbeddingService

open LabelledRuns

/-- The ids of the jobs of all calls. -/
def EmbeddingClient.jobIds (client : EmbeddingClient) : List PyStr :=
  client.queries.map (fun query => query.job.jobId)

/-- A call goes on, or its future is done, and what was settled stays. -/
structure CallMove (call next : QueryCall) : Prop where
  query : next.toQuery = call.toQuery
  ended : next.state.isEnded = call.state.isEnded
  final : call.state.isEnded = true → next.state = call.state
  future : call.future.done = true → next.future = call.future

/-- What a step does to a client. -/
inductive ClientChange {Body : Type} (client : EmbeddingClient) :
    ClientAction Body → EmbeddingClient → Prop
  | keeps {action : ClientAction Body} : ClientChange client action client
  | registers {action : ClientAction Body} (query : Query) :
      ClientChange client action (client.register query)
  | moves {action : ClientAction Body} {number : Nat}
      {call next : QueryCall} (found : client.calls[number]? = some call)
      (move : CallMove call next) :
      ClientChange client action (client.setCall number next)
  | ends {action : ClientAction Body} {number : Nat} {call : QueryCall}
      (outcome : QueryOutcome) (found : client.calls[number]? = some call)
      (unended : call.state.isEnded = false) :
      ClientChange client action (client.finish number call outcome)
  | closes : ClientChange client .close client.close

/-- The table leads to calls that are not over, each under its own id, and to
all of them; after a `close` a call that is not in the table has a future that
is done. -/
structure TableSound (closed : Prop) (client : EmbeddingClient) : Prop where
  leads : ∀ jobId number, client.pending.lookup jobId = some number →
    ∃ call, client.calls[number]? = some call ∧ call.job.jobId = jobId ∧
      call.state.isEnded = false
  covers : ∀ number call, client.calls[number]? = some call →
    call.state.isEnded = false →
      client.pending.lookup call.job.jobId = some number ∨
        closed ∧ call.future.done = true

/-- The table holds exactly the calls that are not over. -/
def EmbeddingClient.TableExact (client : EmbeddingClient) : Prop :=
  ∀ jobId number, client.pending.lookup jobId = some number ↔
    ∃ call, client.calls[number]? = some call ∧ call.job.jobId = jobId ∧
      call.state.isEnded = false

/-- Nothing that was settled is settled again, and a call that ends takes its
own entry out of the table and no other. -/
structure CallSettled (client after : EmbeddingClient)
    (call next : QueryCall) : Prop where
  query : next.toQuery = call.toQuery
  state : call.state.isEnded = true → next.state = call.state
  future : call.future.done = true → next.future = call.future
  removed : call.state.isEnded = false → next.state.isEnded = true →
    after.pending.lookup call.job.jobId = none ∧
      ∀ jobId, jobId ≠ call.job.jobId →
        after.pending.lookup jobId = client.pending.lookup jobId

section Futures

variable (next future : ReplyFuture)

theorem ReplyFuture.settle_of_done (done : future.done = true) :
    ReplyFuture.settle next future = future := by
  rw [ReplyFuture.settle, if_pos done]

theorem ReplyFuture.settle_done (settles : next.done = true) :
    (ReplyFuture.settle next future).done = true := by
  unfold ReplyFuture.settle
  split
  · next done =>
      exact done
  · exact settles

end Futures

section Steps

variable {Body : Type} {environment : ClientEnvironment Body}
  {client after : EmbeddingClient} {number : Nat} {call : QueryCall}

theorem CallMove.settle (call : QueryCall) (settled : ReplyFuture) :
    CallMove call
      { call with future := ReplyFuture.settle settled call.future } where
  query := rfl
  ended := rfl
  final := fun _ => rfl
  future := ReplyFuture.settle_of_done _ _

/-- A call that is not over is told to stop. -/
theorem CallMove.stop (unended : call.state.isEnded = false)
    (reason : StopReason) :
    CallMove call
      { call with
        state := .stopping reason
        future := ReplyFuture.settle .cancelled call.future } where
  query := rfl
  ended := unended.symm
  final := by
    intro finished
    rw [unended] at finished
    cases finished
  future := ReplyFuture.settle_of_done _ _

theorem EmbeddingClient.onReply_change
    (serialization : Serialization Body) (correlationId : Option PyStr)
    (body : Body) :
    ClientChange client (.receiveReply correlationId body)
      (client.onReply serialization correlationId body) := by
  unfold EmbeddingClient.onReply
  split
  · exact .keeps
  · split
    · exact .keeps
    · split
      · exact .keeps
      · next found =>
          exact .moves found (CallMove.settle _ _)

/-- Every step of a client is one of the changes. -/
theorem ClientStep.change {action : ClientAction Body}
    (taken : ClientStep environment client action after) :
    ClientChange client action after := by
  have unended : ∀ {call : QueryCall} {state : QueryState},
      call.state = state → state.isEnded = false →
        call.state.isEnded = false := by
    intro call state same goesOn
    rw [same]
    exact goesOn
  cases taken with
  | call built =>
      exact .registers _
  | @published number call body found publishing dumped =>
      have goesOn := unended publishing rfl
      refine .moves found ⟨rfl, goesOn.symm, ?_, fun _ => rfl⟩
      intro finished
      rw [goesOn] at finished
      cases finished
  | publishFailed found publishing =>
      exact .ends _ found (unended publishing rfl)
  | receiveReply =>
      exact EmbeddingClient.onReply_change _ _ _
  | resume found waiting done =>
      exact .ends _ found (unended waiting rfl)
  | timeOut found waiting =>
      exact .moves found (.stop (unended waiting rfl) _)
  | cancelPublishing found publishing =>
      exact .ends _ found (unended publishing rfl)
  | cancelWaiting found waiting =>
      exact .moves found (.stop (unended waiting rfl) _)
  | cancelStopping found stopping =>
      exact .moves found (.stop (unended stopping rfl) _)
  | stopped found stopping =>
      exact .ends _ found (unended stopping rfl)
  | close =>
      exact .closes

/-- The call of a place after a call was replaced. -/
theorem EmbeddingClient.setCall_found {next other : QueryCall} {place : Nat}
    (found : client.calls[number]? = some call)
    (present : (client.calls.set number next)[place]? = some other) :
    (place = number ∧ other = next) ∨
      (place ≠ number ∧ client.calls[place]? = some other) := by
  by_cases own : place = number
  · have inside := (List.getElem?_eq_some_iff.mp found).1
    rw [own, List.getElem?_set_self inside] at present
    cases present
    exact Or.inl ⟨own, rfl⟩
  · rw [List.getElem?_set_ne (Ne.symm own)] at present
    exact Or.inr ⟨own, present⟩

theorem EmbeddingClient.close_at (client : EmbeddingClient) (place : Nat) :
    client.close.calls[place]? =
      client.calls[place]?.map (fun call =>
        if place ∈ client.pending.entries.map Prod.snd then
          { call with
            future := ReplyFuture.settle .clientClosed call.future }
        else
          call) := by
  rw [EmbeddingClient.close, List.getElem?_mapIdx]

/-- Calls with distinct ids are told apart by them. -/
theorem EmbeddingClient.place_unique (distinct : client.jobIds.Nodup)
    {first second : Nat} {one other : QueryCall}
    (found : client.calls[first]? = some one)
    (present : client.calls[second]? = some other)
    (same : one.job.jobId = other.job.jobId) : first = second := by
  have idAt : ∀ {place : Nat} {call : QueryCall},
      client.calls[place]? = some call →
        client.jobIds[place]? = some call.job.jobId := by
    intro place call found
    rw [EmbeddingClient.jobIds, EmbeddingClient.queries, List.map_map,
      List.getElem?_map, found]
    rfl
  have firstId := idAt found
  have inside := (List.getElem?_eq_some_iff.mp firstId).1
  refine (List.getElem?_inj inside distinct).mp ?_
  rw [firstId, idAt present, same]

/-- The calls with distinct ids had distinct ids before. -/
theorem ClientStep.distinct {action : ClientAction Body}
    (taken : ClientStep environment client action after)
    (distinct : after.jobIds.Nodup) : client.jobIds.Nodup := by
  obtain ⟨added, queries, _⟩ := queries_step taken
  rw [EmbeddingClient.jobIds, queries, List.map_append] at distinct
  exact distinct.of_append_left

end Steps

section Table

variable {client after : EmbeddingClient} {closed : Prop} {number : Nat}
  {call next : QueryCall}

theorem TableSound.register (sound : TableSound closed client)
    (query : Query) (distinct : (client.register query).jobIds.Nodup) :
    TableSound closed (client.register query) where
  leads := by
    intro jobId place led
    by_cases own : jobId = query.job.jobId
    · rw [own, EmbeddingClient.register,
        OrderedDict.lookup_assign_self] at led
      cases led
      exact ⟨_, List.getElem?_concat_length, own.symm, rfl⟩
    · rw [EmbeddingClient.register,
        OrderedDict.lookup_assign_of_ne _ _ own] at led
      obtain ⟨other, found, id, unended⟩ := sound.leads jobId place led
      have inside := (List.getElem?_eq_some_iff.mp found).1
      refine ⟨other, ?_, id, unended⟩
      rw [EmbeddingClient.register, List.getElem?_append_left inside]
      exact found
  covers := by
    intro place other present unended
    have new : (client.register query).calls[client.calls.length]? =
        some { toQuery := query } :=
      List.getElem?_concat_length
    by_cases own : other.job.jobId = query.job.jobId
    · have same : place = client.calls.length :=
        EmbeddingClient.place_unique distinct present new own
      refine Or.inl ?_
      rw [own, same]
      exact OrderedDict.lookup_assign_self _ _ _
    · have old : client.calls[place]? = some other := by
        rcases ListUpdate.found_concat present with before | ⟨_, rfl⟩
        · exact before
        · exact False.elim (own rfl)
      rw [EmbeddingClient.register, OrderedDict.lookup_assign_of_ne _ _ own]
      exact sound.covers place other old unended

theorem TableSound.setCall (sound : TableSound closed client)
    (found : client.calls[number]? = some call)
    (move : CallMove call next) :
    TableSound closed (client.setCall number next) where
  leads := by
    intro jobId place led
    obtain ⟨other, present, id, unended⟩ := sound.leads jobId place led
    by_cases own : place = number
    · rw [own, found] at present
      cases present
      have inside := (List.getElem?_eq_some_iff.mp found).1
      refine ⟨next, ?_, ?_, ?_⟩
      · rw [own]
        exact List.getElem?_set_self inside
      · rw [move.query]
        exact id
      · rw [move.ended]
        exact unended
    · refine ⟨other, ?_, id, unended⟩
      rw [EmbeddingClient.setCall, List.getElem?_set_ne (Ne.symm own)]
      exact present
  covers := by
    intro place other present unended
    rcases EmbeddingClient.setCall_found found present with
      ⟨own, same⟩ | ⟨_, old⟩
    · subst own same
      rw [move.ended] at unended
      rw [move.query]
      rcases sound.covers place call found unended with led | ⟨finished, done⟩
      · exact Or.inl led
      · refine Or.inr ⟨finished, ?_⟩
        rw [move.future done]
        exact done
    · exact sound.covers place other old unended

theorem TableSound.finish (sound : TableSound closed client)
    (distinct : client.jobIds.Nodup)
    (found : client.calls[number]? = some call) (outcome : QueryOutcome) :
    TableSound closed (client.finish number call outcome) where
  leads := by
    intro jobId place led
    have kept := (OrderedDict.lookup_eq_some_iff _ _ _).mp led
    obtain ⟨old, different⟩ := (OrderedDict.mem_erase_iff _ _ _).mp kept
    obtain ⟨other, present, id, unended⟩ := sound.leads jobId place
      ((OrderedDict.lookup_eq_some_iff _ _ _).mpr old)
    refine ⟨other, ?_, id, unended⟩
    have elsewhere : number ≠ place := by
      intro own
      rw [← own, found] at present
      cases present
      exact different id.symm
    rw [EmbeddingClient.finish, List.getElem?_set_ne elsewhere]
    exact present
  covers := by
    intro place other present unended
    rcases EmbeddingClient.setCall_found found present with
      ⟨_, same⟩ | ⟨different, old⟩
    · subst same
      cases unended
    · have otherId : other.job.jobId ≠ call.job.jobId := by
        intro same
        exact different
          (EmbeddingClient.place_unique distinct old found same)
      rcases sound.covers place other old unended with led | settled
      · refine Or.inl ?_
        rw [EmbeddingClient.finish, OrderedDict.lookup_erase_of_ne _ otherId]
        exact led
      · exact Or.inr settled

/-- `close` leaves no call without a future that is done. -/
theorem TableSound.close (sound : TableSound closed client) :
    TableSound True client.close where
  leads := by
    intro jobId place led
    cases led
  covers := by
    intro place other present unended
    refine Or.inr ⟨trivial, ?_⟩
    rw [EmbeddingClient.close_at] at present
    obtain ⟨call, found, same⟩ := Option.map_eq_some_iff.mp present
    subst same
    split
    · exact ReplyFuture.settle_done _ _ rfl
    · next absent =>
        rw [if_neg absent] at unended
        rcases sound.covers place call found unended with led | settled
        · have entry := (OrderedDict.lookup_eq_some_iff _ _ _).mp led
          exact False.elim (absent (List.mem_map_of_mem entry))
        · exact settled.2

theorem TableSound.mono (sound : TableSound closed client) {later : Prop}
    (stays : closed → later) : TableSound later client where
  leads := sound.leads
  covers := by
    intro place call found unended
    rcases sound.covers place call found unended with led | settled
    · exact Or.inl led
    · exact Or.inr ⟨stays settled.1, settled.2⟩

variable {Body : Type} {environment : ClientEnvironment Body}

/-- A step keeps the table sound, and only `close` closes. -/
theorem TableSound.step {action : ClientAction Body}
    (sound : TableSound closed client)
    (taken : ClientStep environment client action after)
    (distinct : after.jobIds.Nodup) :
    TableSound (closed ∨ action = .close) after := by
  have stays : closed → closed ∨ action = .close := Or.inl
  cases taken.change with
  | keeps =>
      exact sound.mono stays
  | registers query =>
      exact (sound.register query distinct).mono stays
  | moves found move =>
      exact (sound.setCall found move).mono stays
  | ends outcome found unended =>
      have before := taken.distinct distinct
      exact (sound.finish before found outcome).mono stays
  | closes =>
      exact sound.close.mono (fun _ => Or.inr rfl)

/-- The table after a run of calls with distinct ids. -/
theorem tableSound_of_run {labels : List (ClientAction Body)}
    (run : Run (ClientStep environment) {} labels client)
    (distinct : client.jobIds.Nodup) :
    TableSound (.close ∈ labels) client := by
  have sound :
      client.jobIds.Nodup → TableSound (.close ∈ labels) client := by
    refine run.history
      (I := fun earlier state =>
        state.jobIds.Nodup → TableSound (.close ∈ earlier) state) ?_ ?_
    · intro _
      exact ⟨fun _ _ led => (nomatch led), fun _ _ found => (nomatch found)⟩
    · intro earlier before action after _ held taken distinct
      refine ((held (taken.distinct distinct)).step taken distinct).mono ?_
      rintro (closed | closing)
      · exact List.mem_append_left _ closed
      · rw [closing]
        exact List.mem_append_right _ (List.mem_singleton.mpr rfl)
  exact sound distinct

theorem TableSound.exact (sound : TableSound closed client)
    (unclosed : ¬ closed) : client.TableExact := by
  intro jobId place
  constructor
  · exact sound.leads jobId place
  · rintro ⟨call, found, id, unended⟩
    rw [← id]
    rcases sound.covers place call found unended with led | settled
    · exact led
    · exact False.elim (unclosed settled.1)

/-- A reply for nobody, or for a call that has its result, changes nothing. -/
theorem TableSound.reply_unmatched (sound : TableSound closed client)
    {serialization : Serialization Body} {correlationId : Option PyStr}
    {body : Body}
    (unmatched : ∀ result call,
      serialization.loadResult body = some result → call ∈ client.calls →
      call.job.jobId = orDefault correlationId result.jobId →
      call.state.isEnded = false → call.future.done = true) :
    client.onReply serialization correlationId body = client := by
  unfold EmbeddingClient.onReply
  split
  · rfl
  · next result loads =>
      split
      · rfl
      · next number led =>
          obtain ⟨call, found, id, unended⟩ := sound.leads _ _ led
          have done := unmatched result call loads
            (List.mem_of_getElem? found) id unended
          rw [found]
          dsimp only
          rw [ReplyFuture.settle_of_done _ _ done,
            EmbeddingClient.setCall, ListUpdate.set_self found]

theorem TableSound.close_done (sound : TableSound closed client) :
    ∀ call ∈ client.close.calls, call.state.isEnded = false →
      call.future.done = true := by
  intro call member unended
  obtain ⟨place, found⟩ := List.getElem?_of_mem member
  rcases sound.close.covers place call found unended with led | settled
  · cases led
  · exact settled.2

end Table

section Settling

variable {Body : Type} {client after : EmbeddingClient} {number : Nat}
  {call : QueryCall} {action : ClientAction Body}

/-- A call that does not change is settled as it was. -/
theorem CallSettled.refl (call : QueryCall) :
    CallSettled client after call call where
  query := rfl
  state := fun _ => rfl
  future := fun _ => rfl
  removed := by
    intro unended finished
    rw [unended] at finished
    cases finished

theorem CallMove.settled {next : QueryCall} (move : CallMove call next) :
    CallSettled client after call next where
  query := move.query
  state := move.final
  future := move.future
  removed := by
    intro unended finished
    rw [move.ended, unended] at finished
    cases finished

/-- What a change does to the call of one place. -/
theorem ClientChange.settled (change : ClientChange client action after)
    (found : client.calls[number]? = some call) :
    ∃ next, after.calls[number]? = some next ∧
      CallSettled client after call next := by
  have inside := (List.getElem?_eq_some_iff.mp found).1
  cases change with
  | keeps =>
      exact ⟨call, found, .refl call⟩
  | registers query =>
      refine ⟨call, ?_, .refl call⟩
      rw [EmbeddingClient.register, List.getElem?_append_left inside]
      exact found
  | @moves _ place other next present move =>
      by_cases own : place = number
      · subst own
        rw [found] at present
        cases present
        exact ⟨next, List.getElem?_set_self inside, move.settled⟩
      · refine ⟨call, ?_, .refl call⟩
        rw [EmbeddingClient.setCall, List.getElem?_set_ne own]
        exact found
  | @ends _ place other outcome present unended =>
      by_cases own : place = number
      · subst own
        rw [found] at present
        cases present
        refine ⟨_, List.getElem?_set_self inside, rfl, ?_, fun _ => rfl, ?_⟩
        · intro finished
          rw [unended] at finished
          cases finished
        · intro _ _
          exact ⟨OrderedDict.lookup_erase_self _ _,
            fun jobId different =>
              OrderedDict.lookup_erase_of_ne _ different⟩
      · refine ⟨call, ?_, .refl call⟩
        rw [EmbeddingClient.finish, List.getElem?_set_ne own]
        exact found
  | closes =>
      refine ⟨_, (client.close_at number).trans (by rw [found]; rfl), ?_⟩
      dsimp only
      split
      · exact (CallMove.settle call .clientClosed).settled
      · exact .refl call

end Settling

section Runs

variable {Body : Type} (environment : ClientEnvironment Body)
  (labels : List (ClientAction Body)) (client : EmbeddingClient)

/-- However calls, publishes, replies, timeouts, cancellations and `close`
interleave, the table is exact until `close`, every call and every future is
settled once, a reply that matches no unresolved call changes nothing, and
`close` leaves no entry and no call that could still wait. -/
theorem pendingTableExact
    (run : Run (ClientStep environment) {} labels client)
    (distinct : client.jobIds.Nodup) :
    (.close ∉ labels → client.TableExact) ∧
    ∀ (action : ClientAction Body) (after : EmbeddingClient),
      ClientStep environment client action after →
      (∀ (number : Nat) (call : QueryCall),
        client.calls[number]? = some call →
        ∃ next, after.calls[number]? = some next ∧
          CallSettled client after call next) ∧
      (∀ correlationId body, action = .receiveReply correlationId body →
        (∀ result call,
          environment.serialization.loadResult body = some result →
          call ∈ client.calls →
          call.job.jobId = orDefault correlationId result.jobId →
          call.state.isEnded = false → call.future.done = true) →
        after = client) ∧
      (action = .close →
        after.pending = OrderedDict.empty ∧
        ∀ call ∈ after.calls, call.state.isEnded = false →
          call.future.done = true) := by
  have sound := tableSound_of_run run distinct
  refine ⟨sound.exact, ?_⟩
  intro action after taken
  refine ⟨?_, ?_, ?_⟩
  · intro number call found
    exact taken.change.settled found
  · intro correlationId body same unmatched
    subst same
    cases taken
    exact sound.reply_unmatched unmatched
  · intro same
    subst same
    cases taken
    exact ⟨rfl, sound.close_done⟩

/-- Two calls of which the first timed out. -/
theorem pendingTableExact_timedOut :
    ∃ (labels : List (ClientAction WireBody)) (client : EmbeddingClient),
      Run (ClientStep wireClient) {} labels client ∧
      client.pending.entries = [(pyStr "second", 1)] ∧
      client.TableExact := by
  have run := ((((Run.nil ({} : EmbeddingClient)).snoc
    (@ClientStep.call WireBody wireClient _ (.str (pyStr "text")) true []
      (pyStr "first") 1000 _ rfl)).snoc
    (@ClientStep.call WireBody wireClient _ (.str (pyStr "text")) true []
      (pyStr "second") 1000 _ rfl)).snoc
    (@ClientStep.published WireBody wireClient _ 0 _ _ rfl rfl rfl)).snoc
    (@ClientStep.timeOut WireBody wireClient _ 0 _ rfl rfl)
  have stopped := run.snoc
    (@ClientStep.stopped WireBody wireClient _ 0 _ _ rfl rfl)
  exact ⟨_, _, stopped, rfl,
    (pendingTableExact wireClient _ _ stopped (by decide)).1 (by simp)⟩

end Runs

end EmbeddingService
