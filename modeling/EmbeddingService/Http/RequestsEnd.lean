import Mathlib.Data.Multiset.AddSub
import EmbeddingService.Library.Inevitability
import EmbeddingService.Http.EncodeSlot

/-!
# Every request ends

Requests wait for a token, and each of them gives its token back.  So once no
more requests arrive, those that are there are served in turn: with timeouts
and cancellations or without them, none waits forever and no token is lost.
-/

namespace EmbeddingService

open LabelledRuns Inevitability

/-- The documentation of anyio on who waits: an `acquire` waits from its call
on until it returns or is left, it is refused only to a task that has a token,
and while there is a token and somebody without one waits, somebody gets it.
A thread that ended ends its `run_sync`. -/
structure Anyio.Queues (anyio : Anyio)
    (waiting : anyio.Limiter → Multiset Nat) : Prop where
  created : ∀ total limiter, anyio.capacityLimiter total = some limiter →
    waiting limiter = 0
  calls : ∀ before task after, anyio.calls before task after →
    waiting after = task ::ₘ waiting before
  acquires : ∀ before task after, anyio.acquires before task after →
    waiting before = task ::ₘ waiting after
  leaves : ∀ before task after, anyio.leaves before task after →
    waiting before = task ::ₘ waiting after
  releases : ∀ before task after, anyio.release before task = some after →
    waiting after = waiting before
  refuses : ∀ limiter task, anyio.refuses limiter task →
    task ∈ anyio.borrowers limiter
  serves : ∀ limiter,
    ((anyio.borrowers limiter).card : Int) < anyio.totalTokens limiter →
    waiting limiter ≠ 0 →
    (∀ task ∈ waiting limiter, task ∉ anyio.borrowers limiter) →
      ∃ task after, anyio.acquires limiter task after
  runSyncEnds : ∀ reply, ∃ how, anyio.runSyncEnds (.ended reply) how

/-- The steps by which requests come in. -/
def HttpAction.IsArrival : HttpAction → Prop
  | .load => True
  | .arrive _ => True
  | _ => False

/-- The steps by which a request gets on. -/
def HttpAction.GetsOn : HttpAction → Prop
  | .acquire _ => True
  | .startThread _ => True
  | .endThread _ _ => True
  | .resume _ _ => True
  | _ => False

/-- How many steps a request has left at most. -/
def HttpRequest.stepsLeft (request : HttpRequest) : Nat :=
  match request.state, request.thread with
  | .acquiring, _ => 4
  | .encoding, .unstarted => 3
  | .encoding, .running _ => 2
  | .encoding, .ended _ => 1
  | .ended _, _ => 0

/-- Every request is over, nobody waits, and all tokens are back. -/
structure HttpApp.Drained {anyio : Anyio}
    (waiting : anyio.Limiter → Multiset Nat) (app : HttpApp anyio) :
    Prop where
  ended : ∀ request ∈ app.requests, request.state.isEnded = true
  returned : anyio.borrowers app.limiter = ∅
  unawaited : waiting app.limiter = 0

section Waiting

variable {anyio : Anyio} {engine : EngineInfo}
  {waiting : anyio.Limiter → Multiset Nat} {app after : HttpApp anyio}
  {number : Nat} {request next : HttpRequest} {limiter : anyio.Limiter}

/-- Those who wait are the requests at `acquire`, each of them once. -/
structure WaitsSound (waiting : anyio.Limiter → Multiset Nat)
    (app : HttpApp anyio) : Prop where
  once : (waiting app.limiter).Nodup
  acquiring : ∀ number, number ∈ waiting app.limiter ↔
    ∃ request, app.requests[number]? = some request ∧
      request.state = .acquiring

theorem WaitsSound.iff (sound : WaitsSound waiting app)
    (found : app.requests[number]? = some request) :
    number ∈ waiting app.limiter ↔ request.state = .acquiring := by
  rw [sound.acquiring number, found]
  simp

/-- A request leaves `acquire`. -/
theorem WaitsSound.leave (sound : WaitsSound waiting app)
    (found : app.requests[number]? = some request)
    (left : waiting app.limiter = number ::ₘ waiting limiter)
    (gone : next.state ≠ .acquiring) {changed : HttpApp anyio}
    (sameLimiter : changed.limiter = limiter)
    (sameRequests : changed.requests = app.requests.set number next) :
    WaitsSound waiting changed := by
  have once := sound.once
  rw [left, Multiset.nodup_cons] at once
  have inside := (List.getElem?_eq_some_iff.mp found).1
  constructor
  · rw [sameLimiter]
    exact once.2
  · intro other
    rw [sameLimiter, sameRequests]
    by_cases same : other = number
    · subst same
      rw [List.getElem?_set_self inside]
      simp [once.1, gone]
    · rw [List.getElem?_set_ne (Ne.symm same), ← sound.acquiring other,
        left, Multiset.mem_cons]
      exact (or_iff_right same).symm

/-- A request that is past `acquire` changes. -/
theorem WaitsSound.change (sound : WaitsSound waiting app)
    (found : app.requests[number]? = some request)
    (past : request.state ≠ .acquiring) (gone : next.state ≠ .acquiring)
    {changed : HttpApp anyio}
    (sameWaiting : waiting changed.limiter = waiting app.limiter)
    (sameRequests : changed.requests = app.requests.set number next) :
    WaitsSound waiting changed := by
  have inside := (List.getElem?_eq_some_iff.mp found).1
  constructor
  · rw [sameWaiting]
    exact sound.once
  · intro other
    rw [sameWaiting, sameRequests]
    by_cases same : other = number
    · subst same
      rw [sound.iff found, List.getElem?_set_self inside]
      simp [past, gone]
    · rw [List.getElem?_set_ne (Ne.symm same)]
      exact sound.acquiring other

theorem WaitsSound.add (sound : WaitsSound waiting app)
    {changed : HttpApp anyio}
    (sameRequests : changed.requests = app.requests ++ [next])
    (waits : next.state = .acquiring ∧
        waiting changed.limiter =
          app.requests.length ::ₘ waiting app.limiter ∨
      next.state ≠ .acquiring ∧
        waiting changed.limiter = waiting app.limiter) :
    WaitsSound waiting changed := by
  have beyond : app.requests.length ∉ waiting app.limiter := by
    rw [sound.acquiring]
    rintro ⟨request, found, _⟩
    exact absurd (List.getElem?_eq_some_iff.mp found).1
      (Nat.lt_irrefl _)
  have acquiring : ∀ number, (∃ request,
      changed.requests[number]? = some request ∧
        request.state = .acquiring) ↔
      number ∈ waiting app.limiter ∨
        number = app.requests.length ∧ next.state = .acquiring := by
    intro number
    rw [sameRequests, sound.acquiring]
    constructor
    · rintro ⟨request, found, state⟩
      rcases ListUpdate.found_concat found with before | ⟨last, rfl⟩
      · exact Or.inl ⟨request, before, state⟩
      · exact Or.inr ⟨last, state⟩
    · rintro (⟨request, found, state⟩ | ⟨rfl, state⟩)
      · have inside := (List.getElem?_eq_some_iff.mp found).1
        exact ⟨request, by rw [List.getElem?_append_left inside, found],
          state⟩
      · exact ⟨next, List.getElem?_concat_length, state⟩
  rcases waits with ⟨state, called⟩ | ⟨state, same⟩
  · constructor
    · rw [called, Multiset.nodup_cons]
      exact ⟨beyond, sound.once⟩
    · intro number
      rw [acquiring, called, Multiset.mem_cons]
      simp [state, or_comm]
  · constructor
    · rw [same]
      exact sound.once
    · intro number
      rw [acquiring, same]
      simp [state]

end Waiting

section Steps

variable {anyio : Anyio} {engine : EngineInfo} {total : Int}
  {waiting : anyio.Limiter → Multiset Nat} {app after : HttpApp anyio}
  {number : Nat} {request last : HttpRequest}

theorem WaitsSound.leaveSlot (sound : WaitsSound waiting app)
    (queues : anyio.Queues waiting)
    (found : app.requests[number]? = some request)
    (encoding : request.state = .encoding) (totalTime : ℚ)
    (answer : HttpAnswer) :
    WaitsSound waiting
      ({ app with
        totalTimeToProcessTillNow := totalTime }.leaveSlot number last
          answer) := by
  have past : request.state ≠ .acquiring := by
    simp [encoding]
  unfold HttpApp.leaveSlot
  dsimp only
  cases released : anyio.release app.limiter number with
  | some limiter =>
      exact sound.change found past (by simp)
        (queues.releases _ _ _ released) rfl
  | none =>
      exact sound.change found past (by simp) rfl rfl

theorem WaitsSound.step (sound : WaitsSound waiting app)
    (queues : anyio.Queues waiting) (tokens : HttpSound anyio total app)
    {action : HttpAction}
    (taken : HttpStep anyio engine app action after) :
    WaitsSound waiting after := by
  cases taken with
  | load =>
      exact ⟨sound.once, sound.acquiring⟩
  | arrive ready calls =>
      exact sound.add rfl (Or.inl ⟨rfl, queues.calls _ _ _ calls⟩)
  | arriveLoading loading =>
      exact sound.add rfl (Or.inr ⟨by simp, rfl⟩)
  | acquire found acquiring acquires =>
      exact sound.leave found (queues.acquires _ _ _ acquires) (by simp)
        rfl rfl
  | refuse found acquiring refuses =>
      have borrows := queues.refuses _ _ refuses
      rw [tokens.holder_iff found, HttpRequest.holds,
        ((tokens.own found).acquiring acquiring).2.2] at borrows
      cases borrows
  | timeOut found acquiring leaves =>
      exact sound.leave found (queues.leaves _ _ _ leaves) (by simp) rfl rfl
  | cancelAcquire found acquiring leaves =>
      exact sound.leave found (queues.leaves _ _ _ leaves) (by simp) rfl rfl
  | startThread found encoding unstarted =>
      exact sound.change found (by simp [encoding]) (by simp [encoding]) rfl
        rfl
  | endThread found running =>
      have encoding := (tokens.own found).running running
      exact sound.change found (by simp [encoding]) (by simp [encoding]) rfl
        rfl
  | @resume number request how found encoding ends =>
      cases how with
      | returned result =>
          exact sound.leaveSlot queues found encoding _ _
      | raised raised =>
          exact sound.leaveSlot queues found encoding
            app.totalTimeToProcessTillNow _
      | cancelled =>
          exact sound.leaveSlot queues found encoding
            app.totalTimeToProcessTillNow _

/-- What is known of every reachable state. -/
structure LimiterSound (anyio : Anyio) (total : Int)
    (waiting : anyio.Limiter → Multiset Nat) (app : HttpApp anyio) :
    Prop where
  tokens : HttpSound anyio total app
  waits : WaitsSound waiting app

theorem LimiterSound.step (sound : LimiterSound anyio total waiting app)
    (documented : anyio.Documented) (queues : anyio.Queues waiting)
    {action : HttpAction}
    (taken : HttpStep anyio engine app action after) :
    LimiterSound anyio total waiting after :=
  ⟨sound.tokens.step documented taken,
    sound.waits.step queues sound.tokens taken⟩

theorem limiterSound_of_reachable (documented : anyio.Documented)
    (queues : anyio.Queues waiting) {limiter : anyio.Limiter}
    (created : anyio.capacityLimiter total = some limiter)
    (reached : Reachable (HttpStep anyio engine) { limiter := limiter }
      app) :
    LimiterSound anyio total waiting app := by
  have unawaited := queues.created _ _ created
  refine reached.invariant ⟨httpSound_start documented created, ?_⟩
    (fun _ _ _ sound taken => sound.step documented queues taken)
  constructor
  · rw [unawaited]
    exact Multiset.nodup_zero
  · intro number
    rw [unawaited]
    simp

/-- How many steps all requests have left at most. -/
def HttpApp.stepsLeft (app : HttpApp anyio) : Nat :=
  (app.requests.map HttpRequest.stepsLeft).sum

theorem stepsLeft_lt (found : app.requests[number]? = some request)
    {next : HttpRequest} (less : next.stepsLeft < request.stepsLeft)
    {changed : HttpApp anyio}
    (same : changed.requests = app.requests.set number next) :
    changed.stepsLeft < app.stepsLeft := by
  obtain ⟨rest, before, now⟩ :=
    ListUpdate.exists_sum_set HttpRequest.stepsLeft found
  unfold HttpApp.stepsLeft
  rw [same, before, now]
  omega

theorem HttpRequest.stepsLeft_encoding
    (encoding : request.state = .encoding) : 0 < request.stepsLeft := by
  unfold HttpRequest.stepsLeft
  rw [encoding]
  cases request.thread <;> simp

theorem HttpRequest.stepsLeft_acquiring
    (acquiring : request.state = .acquiring) : request.stepsLeft = 4 := by
  unfold HttpRequest.stepsLeft
  rw [acquiring]

theorem stepsLeft_leaveSlot (found : app.requests[number]? = some request)
    (encoding : request.state = .encoding) (totalTime : ℚ)
    (answer : HttpAnswer) :
    ({ app with
      totalTimeToProcessTillNow := totalTime }.leaveSlot number last
        answer).stepsLeft < app.stepsLeft := by
  have left := HttpRequest.stepsLeft_encoding encoding
  unfold HttpApp.leaveSlot
  dsimp only
  cases anyio.release app.limiter number with
  | some limiter =>
      refine stepsLeft_lt found ?_ rfl
      exact left
  | none =>
      refine stepsLeft_lt found ?_ rfl
      exact left

/-- Every step of a request brings it nearer to its end. -/
theorem stepsLeft_step (sound : HttpSound anyio total app)
    {action : HttpAction} (own : ¬ action.IsArrival)
    (taken : HttpStep anyio engine app action after) :
    after.stepsLeft < app.stepsLeft := by
  cases taken with
  | load =>
      exact (own trivial).elim
  | arrive ready calls =>
      exact (own trivial).elim
  | arriveLoading loading =>
      exact (own trivial).elim
  | acquire found acquiring acquires =>
      refine stepsLeft_lt found ?_ rfl
      rw [HttpRequest.stepsLeft_acquiring acquiring]
      have unstarted := ((sound.own found).acquiring acquiring).1
      simp [HttpRequest.stepsLeft, unstarted]
  | refuse found acquiring refuses =>
      refine stepsLeft_lt found ?_ rfl
      rw [HttpRequest.stepsLeft_acquiring acquiring]
      simp [HttpRequest.stepsLeft]
  | timeOut found acquiring leaves =>
      refine stepsLeft_lt found ?_ rfl
      rw [HttpRequest.stepsLeft_acquiring acquiring]
      simp [HttpRequest.stepsLeft]
  | cancelAcquire found acquiring leaves =>
      refine stepsLeft_lt found ?_ rfl
      rw [HttpRequest.stepsLeft_acquiring acquiring]
      simp [HttpRequest.stepsLeft]
  | startThread found encoding unstarted =>
      refine stepsLeft_lt found ?_ rfl
      simp [HttpRequest.stepsLeft, encoding, unstarted]
  | @endThread number request reply found running =>
      have encoding := (sound.own found).running running
      refine stepsLeft_lt found ?_ rfl
      cases thread : request.thread with
      | running work =>
          simp [HttpRequest.stepsLeft, encoding, thread]
      | _ =>
          rw [thread] at running
          cases running
  | @resume number request how found encoding ends =>
      cases how with
      | returned result =>
          exact stepsLeft_leaveSlot found encoding _ _
      | raised raised =>
          exact stepsLeft_leaveSlot found encoding
            app.totalTimeToProcessTillNow _
      | cancelled =>
          exact stepsLeft_leaveSlot found encoding
            app.totalTimeToProcessTillNow _

/-- A request at `run_sync` can get on. -/
theorem encoding_getsOn (queues : anyio.Queues waiting)
    (found : app.requests[number]? = some request)
    (encoding : request.state = .encoding) :
    ∃ action next, action.GetsOn ∧
      HttpStep anyio engine app action next := by
  cases thread : request.thread with
  | unstarted =>
      exact ⟨.startThread number, _, trivial,
        .startThread found encoding thread⟩
  | running work =>
      refine ⟨.endThread number (.error ⟨[]⟩), _, trivial,
        .endThread found ?_⟩
      rw [thread]
      rfl
  | ended reply =>
      obtain ⟨how, ends⟩ := queues.runSyncEnds reply
      rw [← thread] at ends
      exact ⟨.resume number how, _, trivial, .resume found encoding ends⟩

/-- With nobody at `run_sync` there is a token for somebody who waits. -/
theorem acquiring_getsOn (queues : anyio.Queues waiting) (positive : 1 ≤ total)
    (sound : LimiterSound anyio total waiting app)
    (idle : ∀ request ∈ app.requests, request.state ≠ .encoding)
    (found : app.requests[number]? = some request)
    (acquiring : request.state = .acquiring) :
    ∃ action next, action.GetsOn ∧
      HttpStep anyio engine app action next := by
  have unheld : ∀ other ∈ app.requests, other.holds = false := by
    intro other member
    have own := sound.tokens.requests other member
    cases state : other.state with
    | acquiring =>
        rw [HttpRequest.holds, (own.acquiring state).2.2]
        rfl
    | encoding =>
        exact (idle other member state).elim
    | ended answer =>
        rcases (own.ended state).2 with ⟨_, unused⟩ | ⟨calls, _⟩
        · rw [HttpRequest.holds, unused]
          rfl
        · rw [HttpRequest.holds, calls]
          rfl
  have unborrowed : (anyio.borrowers app.limiter).card = 0 := by
    rw [sound.tokens.borrowed, List.countP_eq_zero]
    intro other member
    simp [unheld other member]
  have free : ((anyio.borrowers app.limiter).card : Int) <
      anyio.totalTokens app.limiter := by
    rw [unborrowed, sound.tokens.tokens]
    omega
  have waits := (sound.waits.iff found).mpr acquiring
  have somebody : waiting app.limiter ≠ 0 := by
    intro none
    rw [none] at waits
    exact Multiset.notMem_zero _ waits
  have unborrowing : ∀ task ∈ waiting app.limiter,
      task ∉ anyio.borrowers app.limiter := by
    intro task _
    rw [Finset.card_eq_zero.mp unborrowed]
    exact Finset.notMem_empty task
  obtain ⟨task, limiter, acquires⟩ :=
    queues.serves _ free somebody unborrowing
  have chosen : task ∈ waiting app.limiter := by
    rw [queues.acquires _ _ _ acquires]
    exact Multiset.mem_cons_self _ _
  obtain ⟨other, otherFound, state⟩ := (sound.waits.acquiring task).mp chosen
  exact ⟨.acquire task, _, trivial,
    .acquire otherFound state acquires⟩

/-- With every request over, everything is given back. -/
theorem LimiterSound.drained (sound : LimiterSound anyio total waiting app)
    (ended : ∀ request ∈ app.requests, request.state.isEnded = true) :
    app.Drained waiting where
  ended := ended
  returned := by
    rw [← Finset.card_eq_zero, sound.tokens.borrowed, List.countP_eq_zero]
    intro request member
    have own := sound.tokens.requests request member
    have finished := ended request member
    cases state : request.state with
    | ended answer =>
        rcases (own.ended state).2 with ⟨_, unused⟩ | ⟨calls, _⟩
        · simp [HttpRequest.holds, unused]
        · simp [HttpRequest.holds, calls]
    | _ =>
        rw [state] at finished
        cases finished
  unawaited := by
    refine Multiset.eq_zero_of_forall_notMem (fun number waits => ?_)
    obtain ⟨request, found, acquiring⟩ :=
      (sound.waits.acquiring number).mp waits
    have finished := ended request (List.mem_of_getElem? found)
    rw [acquiring] at finished
    cases finished

/-- While a request is not over, some request can get on. -/
theorem LimiterSound.progress (sound : LimiterSound anyio total waiting app)
    (queues : anyio.Queues waiting) (positive : 1 ≤ total)
    (unfinished : ¬ app.Drained waiting) :
    ∃ action next, action.GetsOn ∧
      HttpStep anyio engine app action next := by
  have running : ∃ request ∈ app.requests,
      request.state.isEnded = false := by
    by_contra none
    push Not at none
    exact unfinished (sound.drained (fun request member => by
      simpa using none request member))
  obtain ⟨request, member, running⟩ := running
  obtain ⟨number, found⟩ := List.mem_iff_getElem?.mp member
  by_cases idle : ∀ other ∈ app.requests, other.state ≠ .encoding
  · cases state : request.state with
    | acquiring =>
        exact acquiring_getsOn queues positive sound idle found state
    | encoding =>
        exact (idle request member state).elim
    | ended answer =>
        rw [state] at running
        cases running
  · push Not at idle
    obtain ⟨other, otherMember, encoding⟩ := idle
    obtain ⟨place, otherFound⟩ := List.mem_iff_getElem?.mp otherMember
    exact encoding_getsOn queues otherFound encoding

/-- Once no more requests arrive, every request ends and every token comes
back, in whatever order they get on, and whichever timeouts and cancellations
strike, if any. -/
theorem requestsEnd (documented : anyio.Documented)
    (queues : anyio.Queues waiting) {limiter : anyio.Limiter}
    (created : anyio.capacityLimiter total = some limiter)
    (positive : 1 ≤ total)
    (reached : Reachable (HttpStep anyio engine) { limiter := limiter } app)
    (May : HttpAction → Prop) (getOn : ∀ action, action.GetsOn → May action)
    (closed : ∀ action, May action → ¬ action.IsArrival) :
    Inevitable
      (fun before after => ∃ action, May action ∧
        HttpStep anyio engine before action after)
      (HttpApp.Drained waiting) app := by
  refine inevitable_of_progress Nat.lt_wfRel.wf HttpApp.stepsLeft
    (I := LimiterSound anyio total waiting) ?_ ?_ ?_
    (limiterSound_of_reachable documented queues created reached)
  · rintro before after sound _ ⟨action, _, taken⟩
    exact sound.step documented queues taken
  · rintro before after sound _ ⟨action, may, taken⟩
    exact stepsLeft_step sound.tokens (closed action may) taken
  · intro before sound unfinished
    obtain ⟨action, next, getsOn, taken⟩ :=
      sound.progress queues positive unfinished
    exact ⟨next, action, getOn action getsOn, taken⟩

end Steps

section Samples

def FifoLimiter.waitingTasks (limiter : FifoLimiter) : Multiset Nat :=
  limiter.waiting

theorem fifo_queues : fifoAnyio.Queues FifoLimiter.waitingTasks where
  created := by
    intro total limiter created
    dsimp only [fifoAnyio] at created
    split at created
    · cases created
      rfl
    · cases created
  calls := by
    rintro before task after rfl
    exact Multiset.coe_eq_coe.mpr
      (List.perm_append_singleton task (FifoLimiter.waiting before))
  acquires := by
    rintro before task after ⟨_, _, first, rfl⟩
    have split := List.cons_head?_tail first
    exact congrArg (fun tasks : List Nat => (tasks : Multiset Nat)) split.symm
  leaves := by
    rintro before task after ⟨member, rfl⟩
    exact (Multiset.cons_erase member).symm
  releases := by
    intro before task after released
    dsimp only [fifoAnyio] at released
    split at released
    · cases released
      rfl
    · cases released
  refuses := fun _ _ borrows => borrows
  serves := by
    intro limiter free somebody unborrowing
    cases waits : limiter.waiting with
    | nil =>
        exact (somebody (congrArg _ waits)).elim
    | cons task later =>
        have first : task ∈ limiter.waiting := by
          rw [waits]
          exact List.mem_cons_self
        exact ⟨task, _, free, unborrowing task first, by rw [waits]; rfl,
          rfl⟩
  runSyncEnds := by
    intro reply
    cases reply with
    | ok result =>
        exact ⟨.returned result, rfl⟩
    | error raised =>
        exact ⟨.raised raised, rfl⟩

/-- One request encodes and another one waits; without timeouts and
cancellations both end. -/
theorem requestsEnd_inTurn :
    ∃ app : HttpApp fifoAnyio,
      app.requests.map HttpRequest.stepsLeft = [3, 4] ∧
        Inevitable
          (fun before after => ∃ action : HttpAction, action.GetsOn ∧
            HttpStep fifoAnyio { modelName := [], dimensions := 1 } before
              action after)
          (HttpApp.Drained FifoLimiter.waitingTasks) app := by
  have reachable :=
    ((((Reachable.refl
      ({ limiter := { total := 1 } } : HttpApp fifoAnyio)).tail
      (@HttpStep.load fifoAnyio { modelName := [], dimensions := 1 } _)).tail
      (@HttpStep.arrive fifoAnyio _ _ { input := [pyStr "one"] } _ rfl
        rfl)).tail
      (@HttpStep.arrive fifoAnyio _ _ { input := [pyStr "two"] } _ rfl
        rfl)).tail
      (@HttpStep.acquire fifoAnyio _ _ 0 _ _ rfl rfl
        ⟨by decide, by decide, rfl, rfl⟩)
  refine ⟨_, rfl, requestsEnd fifo_documented fifo_queues rfl (le_refl 1)
    reachable HttpAction.GetsOn (fun _ getsOn => getsOn) ?_⟩
  intro action getsOn arrival
  cases action with
  | load =>
      exact getsOn
  | arrive payload =>
      exact getsOn
  | _ =>
      exact arrival

end Samples

end EmbeddingService
