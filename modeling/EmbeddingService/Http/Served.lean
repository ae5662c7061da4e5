import EmbeddingService.Library.LabelledRuns
import EmbeddingService.Http.Embeddings

/-!
# What a request is served

Requests wait, encode and end in any order.  Whatever the order, the thread of
a request works on the request's own texts, and a response holds what that
thread returned.
-/

namespace EmbeddingService

open LabelledRuns

/-- What an engine may return or raise on a call. -/
abbrev TimedReplies := EncodeCall → Except PyException TimedResult → Prop

/-- A thread ends with what the engine may reply to its work. -/
def HttpApp.RepliesAllowed {anyio : Anyio} (Allowed : TimedReplies)
    (app : HttpApp anyio) : HttpAction → Prop
  | .endThread number reply =>
      ∀ request work, app.requests[number]? = some request →
        request.thread = .running work → Allowed work reply
  | _ => True

/-- The steps of the application with an engine behind its threads. -/
def ServeStep (anyio : Anyio) (engine : EngineInfo) (Allowed : TimedReplies)
    (before : HttpApp anyio) (action : HttpAction)
    (after : HttpApp anyio) : Prop :=
  HttpStep anyio engine before action after ∧
    before.RepliesAllowed Allowed action

/-- A request is served by its own encode. -/
structure HttpRequest.Served (engine : EngineInfo) (Allowed : TimedReplies)
    (request : HttpRequest) : Prop where
  work : ∀ work, request.thread = .running work → work = request.work
  returned : ∀ result, request.thread = .ended (.ok result) →
    Allowed request.work (.ok result)
  answered : ∀ response, request.state = .ended (.ok response) →
    ∃ result, Allowed request.work (.ok result) ∧
      response = embeddingResponse engine request.payload result

section Serving

variable {anyio : Anyio} {engine : EngineInfo} {Allowed : TimedReplies}
  {app after : HttpApp anyio} {number : Nat} {request next : HttpRequest}

/-- All requests are served by their own encodes. -/
def AllServed (engine : EngineInfo) (Allowed : TimedReplies)
    (requests : List HttpRequest) : Prop :=
  ∀ request ∈ requests, request.Served engine Allowed

theorem AllServed.add (served : AllServed engine Allowed app.requests)
    (new : next.Served engine Allowed) :
    AllServed engine Allowed (app.requests ++ [next]) := by
  intro other member
  rcases List.mem_append.mp member with old | last
  · exact served other old
  · rw [List.mem_singleton.mp last]
    exact new

theorem AllServed.set (served : AllServed engine Allowed app.requests)
    (changed : next.Served engine Allowed) :
    AllServed engine Allowed (app.requests.set number next) := by
  intro other member
  rcases List.mem_or_eq_of_mem_set member with old | same
  · exact served other old
  · rw [same]
    exact changed

/-- A request that has done nothing yet. -/
theorem served_unstarted {payload : EmbeddingRequest}
    {state : RequestState}
    (unanswered : ∀ response, state ≠ .ended (.ok response)) :
    HttpRequest.Served engine Allowed
      { payload := payload, state := state } where
  work := by
    intro work running
    cases running
  returned := by
    intro result ended
    cases ended
  answered := fun response answered =>
    False.elim (unanswered response answered)

/-- A request goes on with the same thread. -/
theorem HttpRequest.Served.goOn (served : request.Served engine Allowed)
    (payload : next.payload = request.payload)
    (thread : next.thread = request.thread)
    (answered : ∀ response, next.state = .ended (.ok response) →
      ∃ result, Allowed request.work (.ok result) ∧
        response = embeddingResponse engine request.payload result) :
    next.Served engine Allowed where
  work := by
    intro work running
    rw [thread] at running
    rw [HttpRequest.work, payload]
    exact served.work work running
  returned := by
    intro result ended
    rw [thread] at ended
    rw [HttpRequest.work, payload]
    exact served.returned result ended
  answered := by
    intro response ended
    rw [HttpRequest.work, payload]
    exact answered response ended

theorem AllServed.leaveSlot (served : AllServed engine Allowed app.requests)
    (own : request.Served engine Allowed) {answer : HttpAnswer}
    (answered : ∀ response, answer = .ok response →
      ∃ result, Allowed request.work (.ok result) ∧
        response = embeddingResponse engine request.payload result) :
    AllServed engine Allowed
      (app.leaveSlot number request answer).requests := by
  unfold HttpApp.leaveSlot
  cases anyio.release app.limiter number with
  | some limiter =>
      refine served.set (own.goOn rfl rfl ?_)
      intro response ended
      cases ended
      exact answered response rfl
  | none =>
      refine served.set (own.goOn rfl rfl ?_)
      intro response ended
      cases ended

theorem AllServed.resume (served : AllServed engine Allowed app.requests)
    (documented : anyio.Documented)
    (own : request.Served engine Allowed) {how : RunSyncEnding}
    (ends : anyio.runSyncEnds request.thread how) :
    AllServed engine Allowed
      (app.resume engine number request how).requests := by
  cases how with
  | returned result =>
      have replied := own.returned result (documented.returned _ _ ends)
      have goesOn : HttpRequest.Served engine Allowed
          { request with result := some result } :=
        own.goOn rfl rfl own.answered
      have sameRequests : AllServed engine Allowed
          { app with
            totalTimeToProcessTillNow :=
              app.totalTimeToProcessTillNow + result.tookMs }.requests :=
        served
      refine sameRequests.leaveSlot goesOn ?_
      intro response same
      cases same
      exact ⟨result, replied, rfl⟩
  | raised raised =>
      refine served.leaveSlot own ?_
      intro response same
      cases same
  | cancelled =>
      refine served.leaveSlot own ?_
      intro response same
      cases same

/-- Every step keeps requests with their own encodes. -/
theorem AllServed.step (served : AllServed engine Allowed app.requests)
    (documented : anyio.Documented) {action : HttpAction}
    (taken : ServeStep anyio engine Allowed app action after) :
    AllServed engine Allowed after.requests := by
  obtain ⟨moved, allowed⟩ := taken
  have own : ∀ {place : Nat} {other : HttpRequest},
      app.requests[place]? = some other → other.Served engine Allowed :=
    fun found => served _ (List.mem_of_getElem? found)
  cases moved with
  | load =>
      exact served
  | arrive ready calls =>
      exact served.add (served_unstarted (by simp))
  | arriveLoading loading =>
      exact served.add (served_unstarted (by simp))
  | acquire found acquiring acquires =>
      exact served.set ((own found).goOn rfl rfl (by simp))
  | refuse found acquiring refuses =>
      exact served.set ((own found).goOn rfl rfl (by simp))
  | timeOut found acquiring leaves =>
      exact served.set ((own found).goOn rfl rfl (by simp))
  | cancelAcquire found acquiring leaves =>
      exact served.set ((own found).goOn rfl rfl (by simp))
  | @startThread number request found encoding unstarted =>
      refine served.set ⟨?_, ?_, (own found).answered⟩
      · intro work running
        cases running
        rfl
      · intro result ended
        cases ended
  | @endThread number request reply found running =>
      refine served.set ⟨?_, ?_, (own found).answered⟩
      · intro work running
        cases running
      · intro result ended
        cases ended
        cases thread : request.thread with
        | running work =>
            have replied := allowed request work found thread
            rw [(own found).work work thread] at replied
            exact replied
        | _ =>
            rw [thread] at running
            cases running
  | resume found encoding ends =>
      exact served.resume documented (own found) ends

theorem allServed_of_reachable (documented : anyio.Documented)
    {limiter : anyio.Limiter}
    (reached : Reachable (ServeStep anyio engine Allowed)
      { limiter := limiter } app) :
    AllServed engine Allowed app.requests :=
  reached.invariant (I := fun app => AllServed engine Allowed app.requests)
    (by
      intro request member
      cases member)
    (fun _ _ _ served taken => served.step documented taken)

end Serving

end EmbeddingService
