import Mathlib.Tactic.Linarith
import EmbeddingService.Library.LabelledRuns
import EmbeddingService.Library.ListUpdate
import EmbeddingService.Http.Embeddings

/-!
# The tokens of the encode limiter

The `acquire` and the `release` of a request sit in two `try` blocks, with an
await in each.  Whatever strikes there, a request holds a token exactly while
it is at `run_sync`.
-/

namespace EmbeddingService

open LabelledRuns

namespace HttpRequest

/-- The request began an encode. -/
def begun (request : HttpRequest) : Bool :=
  request.calls.contains .acquired

/-- The request is between its acquisition and its release. -/
def holds (request : HttpRequest) : Bool :=
  request.calls.contains .acquired && !request.calls.contains .released

/-- The encode of the request has returned its result. -/
def completed (request : HttpRequest) : Bool :=
  request.result.isSome

/-- The `took_ms` of a completed encode. -/
def encodeTime (request : HttpRequest) : ℚ :=
  match request.result with
  | some result => result.tookMs
  | none => 0

/-- What the await of a request says of its thread, its result and its calls
of the limiter. -/
def Sound (request : HttpRequest) : Prop :=
  match request.state with
  | .acquiring =>
      request.thread = .unstarted ∧ request.result = none ∧
        request.calls = []
  | .encoding => request.result = none ∧ request.calls = [.acquired]
  | .ended answer =>
      request.thread.isRunning = false ∧
        (request.result = none ∧ request.calls = [] ∨
          request.calls = [.acquired, .released] ∧
            ∀ detail, answer ≠ .unavailable detail)

end HttpRequest

section Requests

variable {request : HttpRequest} {answer : HttpAnswer}

theorem HttpRequest.Sound.acquiring (sound : request.Sound)
    (acquiring : request.state = .acquiring) :
    request.thread = .unstarted ∧ request.result = none ∧
      request.calls = [] := by
  rw [HttpRequest.Sound, acquiring] at sound
  exact sound

theorem HttpRequest.Sound.encoding (sound : request.Sound)
    (encoding : request.state = .encoding) :
    request.result = none ∧ request.calls = [.acquired] := by
  rw [HttpRequest.Sound, encoding] at sound
  exact sound

theorem HttpRequest.Sound.ended (sound : request.Sound)
    (ended : request.state = .ended answer) :
    request.thread.isRunning = false ∧
      (request.result = none ∧ request.calls = [] ∨
        request.calls = [.acquired, .released] ∧
          ∀ detail, answer ≠ .unavailable detail) := by
  rw [HttpRequest.Sound, ended] at sound
  exact sound

/-- A running thread has a request that waits for it. -/
theorem HttpRequest.Sound.running (sound : request.Sound)
    (running : request.thread.isRunning = true) :
    request.state = .encoding := by
  cases state : request.state with
  | acquiring =>
      rw [(sound.acquiring state).1] at running
      cases running
  | encoding =>
      rfl
  | ended answer =>
      rw [(sound.ended state).1] at running
      cases running

theorem HttpRequest.Sound.holds_of_running (sound : request.Sound)
    (running : request.thread.isRunning = true) :
    request.holds = true := by
  rw [HttpRequest.holds, (sound.encoding (sound.running running)).2]
  rfl

/-- Only a request that began an encode has a result. -/
theorem HttpRequest.Sound.begun_of_completed (sound : request.Sound)
    (completed : request.completed = true) : request.begun = true := by
  have absent : request.result ≠ none := by
    intro missing
    rw [HttpRequest.completed, missing] at completed
    cases completed
  cases state : request.state with
  | acquiring =>
      exact False.elim (absent (sound.acquiring state).2.1)
  | encoding =>
      exact False.elim (absent (sound.encoding state).1)
  | ended answer =>
      rcases (sound.ended state).2 with ⟨missing, _⟩ | ⟨calls, _⟩
      · exact False.elim (absent missing)
      · rw [HttpRequest.begun, calls]
        rfl

end Requests

/-- The tokens are those of the requests between acquisition and release, and
the globals count the encodes that were begun and add up those that
completed. -/
structure HttpSound (anyio : Anyio) (total : Int) (app : HttpApp anyio) :
    Prop where
  requests : ∀ request ∈ app.requests, request.Sound
  holders : ∀ number, number ∈ anyio.borrowers app.limiter ↔
    ∃ request, app.requests[number]? = some request ∧
      request.holds = true
  borrowed : (anyio.borrowers app.limiter).card =
    app.requests.countP HttpRequest.holds
  tokens : anyio.totalTokens app.limiter = total
  within : ((anyio.borrowers app.limiter).card : Int) ≤ total
  tasksRun : app.tasksRun = app.requests.countP HttpRequest.begun
  totalTime : app.totalTimeToProcessTillNow =
    (app.requests.map HttpRequest.encodeTime).sum

section Changes

variable {anyio : Anyio} {total : Int} {app : HttpApp anyio}
  {number : Nat} {request next : HttpRequest} {limiter : anyio.Limiter}

theorem HttpSound.own (sound : HttpSound anyio total app)
    (found : app.requests[number]? = some request) : request.Sound :=
  sound.requests request (List.mem_of_getElem? found)

theorem HttpSound.holder_iff (sound : HttpSound anyio total app)
    (found : app.requests[number]? = some request) :
    number ∈ anyio.borrowers app.limiter ↔ request.holds = true := by
  rw [sound.holders number, found]
  simp

/-- A new request, which has done nothing to the limiter. -/
theorem HttpSound.add (sound : HttpSound anyio total app)
    (same : anyio.SameTokens app.limiter limiter) (nextSound : next.Sound)
    (unused : next.calls = []) (unfinished : next.result = none) :
    HttpSound anyio total
      { app with
        limiter := limiter
        requests := app.requests ++ [next] } where
  requests := by
    intro other member
    rcases List.mem_append.mp member with old | new
    · exact sound.requests other old
    · rw [List.mem_singleton.mp new]
      exact nextSound
  holders := by
    intro place
    rw [same.borrowers, sound.holders place]
    constructor
    · rintro ⟨other, found, holds⟩
      have inside := (List.getElem?_eq_some_iff.mp found).1
      refine ⟨other, ?_, holds⟩
      rw [List.getElem?_append_left inside]
      exact found
    · rintro ⟨other, found, holds⟩
      rcases ListUpdate.found_concat found with before | ⟨_, rfl⟩
      · exact ⟨other, before, holds⟩
      · rw [HttpRequest.holds, unused] at holds
        cases holds
  borrowed := by
    have none : next.holds = false := by
      rw [HttpRequest.holds, unused]
      rfl
    rw [same.borrowers, sound.borrowed, List.countP_append,
      List.countP_singleton, none]
    rfl
  tokens := same.total.trans sound.tokens
  within := by
    rw [same.borrowers]
    exact sound.within
  tasksRun := by
    have none : next.begun = false := by
      rw [HttpRequest.begun, unused]
      rfl
    rw [List.countP_append, List.countP_singleton, none]
    exact sound.tasksRun
  totalTime := by
    have none : next.encodeTime = 0 := by
      rw [HttpRequest.encodeTime, unfinished]
    rw [List.map_append, List.sum_append, List.map_singleton,
      List.sum_singleton, none, add_zero]
    exact sound.totalTime

/-- One request changes, and the limiter and the globals with it. -/
theorem HttpSound.replace (sound : HttpSound anyio total app)
    (found : app.requests[number]? = some request)
    (nextSound : next.Sound) {tasksRun : Nat} {totalTime : ℚ}
    (tokens : anyio.totalTokens limiter = anyio.totalTokens app.limiter)
    (others : ∀ other, other ≠ number →
      (other ∈ anyio.borrowers limiter ↔
        other ∈ anyio.borrowers app.limiter))
    (own : number ∈ anyio.borrowers limiter ↔ next.holds = true)
    (borrowed : (anyio.borrowers limiter).card + request.holds.toNat =
      (anyio.borrowers app.limiter).card + next.holds.toNat)
    (within : ((anyio.borrowers limiter).card : Int) ≤ total)
    (tasks : tasksRun + request.begun.toNat =
      app.tasksRun + next.begun.toNat)
    (time : totalTime + request.encodeTime =
      app.totalTimeToProcessTillNow + next.encodeTime) :
    HttpSound anyio total
      { app with
        limiter := limiter
        tasksRun := tasksRun
        totalTimeToProcessTillNow := totalTime
        requests := app.requests.set number next } where
  requests := by
    intro other member
    rcases List.mem_or_eq_of_mem_set member with old | new
    · exact sound.requests other old
    · rw [new]
      exact nextSound
  holders := by
    intro place
    by_cases same : place = number
    · subst same
      have inside := (List.getElem?_eq_some_iff.mp found).1
      rw [own, List.getElem?_set_self inside]
      simp
    · rw [others place same, sound.holders place,
        List.getElem?_set_ne (Ne.symm same)]
  borrowed := by
    obtain ⟨rest, before, after⟩ :=
      ListUpdate.exists_countP_set HttpRequest.holds found
    rw [sound.borrowed, before] at borrowed
    change (anyio.borrowers limiter).card = _
    rw [after]
    omega
  tokens := tokens.trans sound.tokens
  within := within
  tasksRun := by
    obtain ⟨rest, before, after⟩ :=
      ListUpdate.exists_countP_set HttpRequest.begun found
    rw [sound.tasksRun, before] at tasks
    change tasksRun = _
    rw [after]
    omega
  totalTime := by
    obtain ⟨rest, before, after⟩ :=
      ListUpdate.exists_sum_set HttpRequest.encodeTime found
    rw [sound.totalTime, before] at time
    change totalTime = _
    rw [after]
    linarith

/-- A request goes on without touching its token. -/
theorem HttpSound.keep (sound : HttpSound anyio total app)
    (found : app.requests[number]? = some request)
    (same : anyio.SameTokens app.limiter limiter) (nextSound : next.Sound)
    (calls : next.calls = request.calls)
    (result : next.result = request.result) :
    HttpSound anyio total
      { app with
        limiter := limiter
        requests := app.requests.set number next } := by
  have holds : next.holds = request.holds := by
    rw [HttpRequest.holds, HttpRequest.holds, calls]
  have begun : next.begun = request.begun := by
    rw [HttpRequest.begun, HttpRequest.begun, calls]
  have time : next.encodeTime = request.encodeTime := by
    rw [HttpRequest.encodeTime, HttpRequest.encodeTime, result]
  refine sound.replace found nextSound same.total ?_ ?_ ?_ ?_ ?_ ?_
  · intro other _
    rw [same.borrowers]
  · rw [same.borrowers, holds]
    exact sound.holder_iff found
  · rw [same.borrowers, holds]
  · rw [same.borrowers]
    exact sound.within
  · rw [begun]
  · rw [time]

end Changes

section Steps

variable {anyio : Anyio} {engine : EngineInfo} {total : Int}
  {app after : HttpApp anyio} {number : Nat} {request : HttpRequest}
  {limiter : anyio.Limiter}

/-- A request that leaves `acquire` without a token. -/
theorem HttpSound.giveUp (sound : HttpSound anyio total app)
    (found : app.requests[number]? = some request)
    (acquiring : request.state = .acquiring)
    (same : anyio.SameTokens app.limiter limiter) (answer : HttpAnswer) :
    HttpSound anyio total (app.giveUp number request limiter answer) := by
  obtain ⟨thread, result, calls⟩ := (sound.own found).acquiring acquiring
  refine sound.keep found same ?_ rfl rfl
  refine ⟨?_, Or.inl ⟨result, calls⟩⟩
  rw [thread]
  rfl

theorem HttpSound.beginEncode (sound : HttpSound anyio total app)
    (documented : anyio.Documented)
    (found : app.requests[number]? = some request)
    (acquiring : request.state = .acquiring)
    (acquires : anyio.acquires app.limiter number limiter) :
    HttpSound anyio total (app.beginEncode number request limiter) := by
  obtain ⟨free, unheld, tokens, borrowers⟩ :=
    documented.acquires _ _ _ acquires
  obtain ⟨thread, result, calls⟩ := (sound.own found).acquiring acquiring
  have card : (anyio.borrowers limiter).card =
      (anyio.borrowers app.limiter).card + 1 := by
    rw [borrowers, Finset.card_insert_of_notMem unheld]
  refine sound.replace found ?_ tokens ?_ ?_ ?_ ?_ ?_ ?_
  · refine ⟨result, ?_⟩
    rw [calls]
    rfl
  · intro other different
    rw [borrowers, Finset.mem_insert]
    exact or_iff_right different
  · rw [borrowers, HttpRequest.holds, calls]
    simp
  · rw [card, HttpRequest.holds, HttpRequest.holds, calls]
    rfl
  · rw [sound.tokens] at free
    omega
  · rw [HttpRequest.begun, HttpRequest.begun, calls]
    rfl
  · rfl

/-- The `finally` gives back a token that the request has. -/
theorem HttpSound.leaveSlot (sound : HttpSound anyio total app)
    (documented : anyio.Documented)
    (found : app.requests[number]? = some request)
    (encoding : request.state = .encoding) {last : HttpRequest}
    (finished : last.thread.isRunning = false)
    (calls : last.calls = request.calls) {totalTime : ℚ}
    (time : totalTime =
      app.totalTimeToProcessTillNow + last.encodeTime) {answer : HttpAnswer}
    (served : ∀ detail, answer ≠ .unavailable detail) :
    HttpSound anyio total
      ({ app with
        totalTimeToProcessTillNow := totalTime }.leaveSlot number last
          answer) := by
  obtain ⟨unfinished, acquired⟩ := (sound.own found).encoding encoding
  have holds : request.holds = true := by
    rw [HttpRequest.holds, acquired]
    rfl
  have held := (sound.holder_iff found).mpr holds
  obtain ⟨limiter, released⟩ := documented.releasable _ _ held
  obtain ⟨_, tokens, borrowers⟩ := documented.releases _ _ _ released
  have card : (anyio.borrowers limiter).card + 1 =
      (anyio.borrowers app.limiter).card := by
    rw [borrowers]
    exact Finset.card_erase_add_one held
  rw [acquired] at calls
  unfold HttpApp.leaveSlot
  dsimp only
  rw [released]
  refine sound.replace found ?_ tokens ?_ ?_ ?_ ?_ ?_ ?_
  · refine ⟨finished, Or.inr ⟨?_, served⟩⟩
    rw [calls]
    rfl
  · intro other different
    rw [borrowers, Finset.mem_erase]
    exact and_iff_right different
  · rw [borrowers, HttpRequest.holds, calls]
    simp
  · rw [holds, HttpRequest.holds, calls, ← card]
    rfl
  · have within := sound.within
    omega
  · rw [HttpRequest.begun, HttpRequest.begun, calls, acquired]
    rfl
  · have none : request.encodeTime = 0 := by
      rw [HttpRequest.encodeTime, unfinished]
    rw [none, add_zero, time]
    rfl

theorem HttpSound.resume (sound : HttpSound anyio total app)
    (documented : anyio.Documented)
    (found : app.requests[number]? = some request)
    (encoding : request.state = .encoding) {how : RunSyncEnding}
    (ends : anyio.runSyncEnds request.thread how) :
    HttpSound anyio total (app.resume engine number request how) := by
  have finished := documented.threadEnds _ _ ends
  have unfinished := ((sound.own found).encoding encoding).1
  have time : app.totalTimeToProcessTillNow =
      app.totalTimeToProcessTillNow + request.encodeTime := by
    rw [HttpRequest.encodeTime, unfinished, add_zero]
  cases how with
  | returned result =>
      refine sound.leaveSlot documented found encoding ?_ ?_ ?_ ?_
      · exact finished
      · rfl
      · rfl
      · simp
  | raised raised =>
      exact sound.leaveSlot documented found encoding finished rfl time
        (by simp)
  | cancelled =>
      exact sound.leaveSlot documented found encoding finished rfl time
        (by simp)

/-- Every step keeps the tokens with the requests that hold them. -/
theorem HttpSound.step (sound : HttpSound anyio total app)
    (documented : anyio.Documented) {action : HttpAction}
    (taken : HttpStep anyio engine app action after) :
    HttpSound anyio total after := by
  have unchanged : anyio.SameTokens app.limiter app.limiter := ⟨rfl, rfl⟩
  cases taken with
  | load =>
      exact ⟨sound.requests, sound.holders, sound.borrowed, sound.tokens,
        sound.within, sound.tasksRun, sound.totalTime⟩
  | arrive ready calls =>
      exact sound.add (documented.calls _ _ _ calls) ⟨rfl, rfl, rfl⟩ rfl rfl
  | arriveLoading loading =>
      exact sound.add unchanged ⟨rfl, Or.inl ⟨rfl, rfl⟩⟩ rfl rfl
  | acquire found acquiring acquires =>
      exact sound.beginEncode documented found acquiring acquires
  | refuse found acquiring refuses =>
      exact sound.giveUp found acquiring unchanged _
  | timeOut found acquiring leaves =>
      exact sound.giveUp found acquiring (documented.leaves _ _ _ leaves) _
  | cancelAcquire found acquiring leaves =>
      exact sound.giveUp found acquiring (documented.leaves _ _ _ leaves) _
  | startThread found encoding unstarted =>
      refine sound.keep found unchanged ?_ rfl rfl
      have own := (sound.own found).encoding encoding
      rw [HttpRequest.Sound, encoding]
      exact own
  | endThread found running =>
      refine sound.keep found unchanged ?_ rfl rfl
      have encoding := (sound.own found).running running
      have own := (sound.own found).encoding encoding
      rw [HttpRequest.Sound, encoding]
      exact own
  | resume found encoding ends =>
      exact sound.resume documented found encoding ends

/-- The application once its limiter was made. -/
theorem httpSound_start (documented : anyio.Documented)
    (created : anyio.capacityLimiter total = some limiter) :
    HttpSound anyio total { limiter := limiter } := by
  obtain ⟨allowed, tokens, unused⟩ := documented.created _ _ created
  exact
    { requests := by simp
      holders := by simp [unused]
      borrowed := by rw [unused]; rfl
      tokens := tokens
      within := by
        rw [unused]
        exact allowed
      tasksRun := rfl
      totalTime := rfl }

theorem httpSound_of_reachable (documented : anyio.Documented)
    (created : anyio.capacityLimiter total = some limiter)
    (reachable : Reachable (HttpStep anyio engine) { limiter := limiter }
      app) :
    HttpSound anyio total app :=
  reachable.invariant (httpSound_start documented created)
    (fun _ _ _ sound taken => sound.step documented taken)

end Steps

section Slot

variable (anyio : Anyio) (engine : EngineInfo)

/-- However requests, threads, timeouts and cancellations interleave: a request
releases the limiter exactly once if it acquired it and never otherwise; the
borrowers are the requests between acquisition and release, so that a request
answered 503 is none of them; and neither they nor the running threads are ever
more than `max_concurrent_encodes`. -/
theorem encodeSlotExact (documented : anyio.Documented)
    (settings : HttpSettings) (limiter : anyio.Limiter)
    (created : anyio.capacityLimiter settings.maxConcurrentEncodes =
      some limiter) (app : HttpApp anyio)
    (reachable : Reachable (HttpStep anyio engine) { limiter := limiter }
      app) :
    (∀ request ∈ app.requests,
      if request.state.isEnded then
        request.calls = [] ∨ request.calls = [.acquired, .released]
      else
        request.calls = [] ∨ request.calls = [.acquired]) ∧
    (∀ number request, app.requests[number]? = some request →
      (number ∈ anyio.borrowers app.limiter ↔ request.holds = true) ∧
      ∀ detail, request.state = .ended (.unavailable detail) →
        request.calls = [] ∧ number ∉ anyio.borrowers app.limiter) ∧
    (anyio.borrowers app.limiter).card =
      app.requests.countP HttpRequest.holds ∧
    ((anyio.borrowers app.limiter).card : Int) ≤
      settings.maxConcurrentEncodes ∧
    (app.requests.countP (fun request => request.thread.isRunning) : Int) ≤
      settings.maxConcurrentEncodes := by
  have sound := httpSound_of_reachable documented created reachable
  refine ⟨?_, ?_, sound.borrowed, sound.within, ?_⟩
  · intro request member
    have own := sound.requests request member
    cases state : request.state with
    | acquiring =>
        exact Or.inl (own.acquiring state).2.2
    | encoding =>
        exact Or.inr (own.encoding state).2
    | ended answer =>
        rcases (own.ended state).2 with ⟨_, unused⟩ | ⟨calls, _⟩
        · exact Or.inl unused
        · exact Or.inr calls
  · intro number request found
    refine ⟨sound.holder_iff found, ?_⟩
    intro detail unavailable
    rcases ((sound.own found).ended unavailable).2 with
      ⟨_, unused⟩ | ⟨_, served⟩
    · refine ⟨unused, ?_⟩
      rw [sound.holder_iff found, HttpRequest.holds, unused]
      exact Bool.false_ne_true
    · exact False.elim (served detail rfl)
  · have fewer :
        app.requests.countP (fun request => request.thread.isRunning) ≤
          app.requests.countP HttpRequest.holds :=
      List.countP_mono_left (fun request member running =>
        (sound.requests request member).holds_of_running running)
    have within := sound.within
    rw [sound.borrowed] at within
    omega

end Slot

/-- A limiter with the tasks that have a token and those that wait. -/
structure FifoLimiter where
  total : Int
  borrowers : Finset Nat := ∅
  waiting : List Nat := []

/-- Tokens are given in the order they were asked for. -/
def fifoAnyio : Anyio where
  Limiter := FifoLimiter
  capacityLimiter := fun total =>
    if 1 ≤ total then some { total := total } else none
  totalTokens := FifoLimiter.total
  borrowers := FifoLimiter.borrowers
  calls := fun before task after =>
    after = { before with waiting := before.waiting ++ [task] }
  acquires := fun before task after =>
    (before.borrowers.card : Int) < before.total ∧
      task ∉ before.borrowers ∧ before.waiting.head? = some task ∧
      after =
        { before with
          borrowers := insert task before.borrowers
          waiting := before.waiting.tail }
  leaves := fun before task after =>
    task ∈ before.waiting ∧
      after = { before with waiting := before.waiting.erase task }
  refuses := fun before task => task ∈ before.borrowers
  release := fun before task =>
    if task ∈ before.borrowers then
      some { before with borrowers := before.borrowers.erase task }
    else
      none
  runSyncEnds := fun thread how =>
    match thread, how with
    | .unstarted, .cancelled => True
    | .ended (.ok result), .returned given => given = result
    | .ended (.error raised), .raised given => given = raised
    | _, _ => False

theorem fifo_documented : fifoAnyio.Documented where
  created := by
    intro total limiter created
    dsimp only [fifoAnyio] at created
    split at created
    · next positive =>
        cases created
        exact ⟨le_of_lt positive, rfl, rfl⟩
    · cases created
  calls := by
    rintro before task after rfl
    exact ⟨rfl, rfl⟩
  acquires := by
    rintro before task after ⟨free, unheld, _, rfl⟩
    exact ⟨free, unheld, rfl, rfl⟩
  leaves := by
    rintro before task after ⟨_, rfl⟩
    exact ⟨rfl, rfl⟩
  releases := by
    intro before task after released
    dsimp only [fifoAnyio] at released
    split at released
    · next held =>
        cases released
        exact ⟨held, rfl, rfl⟩
    · cases released
  releasable := by
    intro limiter task held
    exact ⟨_, if_pos held⟩
  threadEnds := by
    intro thread how ends
    cases thread with
    | running work =>
        exact False.elim ends
    | _ =>
        rfl
  returned := by
    intro thread result ends
    cases thread with
    | unstarted =>
        exact False.elim ends
    | running work =>
        exact False.elim ends
    | ended reply =>
        cases reply with
        | ok given =>
            rw [show result = given from ends]
        | error raised =>
            exact False.elim ends

/-- Two requests at a limiter of one token: one encode raises while the other
request is turned away. -/
theorem encodeSlotExact_raised :
    ∃ app : HttpApp fifoAnyio,
      Reachable (HttpStep fifoAnyio { modelName := [], dimensions := 1 })
        { limiter := { total := 1 } } app ∧
      app.requests.map HttpRequest.calls = [[.acquired, .released], []] ∧
      ((fifoAnyio.borrowers app.limiter).card : Int) ≤ 1 := by
  have reachable :=
    ((((((((Reachable.refl
      ({ limiter := { total := 1 } } : HttpApp fifoAnyio)).tail
      (@HttpStep.load fifoAnyio { modelName := [], dimensions := 1 } _)).tail
      (@HttpStep.arrive fifoAnyio _ _ { input := [pyStr "one"] } _ rfl
        rfl)).tail
      (@HttpStep.arrive fifoAnyio _ _ { input := [pyStr "two"] } _ rfl
        rfl)).tail
      (@HttpStep.acquire fifoAnyio _ _ 0 _ _ rfl rfl
        ⟨by decide, by decide, rfl, rfl⟩)).tail
      (@HttpStep.timeOut fifoAnyio _ _ 1 _ _ rfl rfl ⟨.head _, rfl⟩)).tail
      (@HttpStep.startThread fifoAnyio _ _ 0 _ rfl rfl rfl)).tail
      (@HttpStep.endThread fifoAnyio _ _ 0 _ (.error ⟨pyStr "failed"⟩) rfl
        rfl)).tail
      (@HttpStep.resume fifoAnyio _ _ 0 _ (.raised ⟨pyStr "failed"⟩) rfl rfl
        rfl)
  exact ⟨_, reachable, rfl,
    (encodeSlotExact fifoAnyio _ fifo_documented {} _ rfl _
      reachable).2.2.2.1⟩

end EmbeddingService
