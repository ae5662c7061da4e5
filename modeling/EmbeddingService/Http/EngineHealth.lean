import Mathlib.Algebra.Order.BigOperators.Group.List
import EmbeddingService.Http.EncodeSlot

/-!
# The figures of `/health/engine`

The count of the encodes goes up before `run_sync`, their total time after it.
The two belong together only while every encode that was begun has completed.
-/

namespace EmbeddingService

open LabelledRuns

section Figures

variable {anyio : Anyio}

/-- The `took_ms` of the encodes that have completed. -/
def HttpApp.completedTimes (app : HttpApp anyio) : List ℚ :=
  app.requests.filterMap (fun request =>
    request.result.map TimedResult.tookMs)

/-- The mean of some times, 0 when there are none. -/
def meanTime (times : List ℚ) : ℚ :=
  if times.length = 0 then 0 else times.sum / times.length

theorem completedTimes_length (app : HttpApp anyio) :
    app.completedTimes.length =
      app.requests.countP HttpRequest.completed := by
  rw [HttpApp.completedTimes, List.length_filterMap_eq_countP]
  refine List.countP_congr ?_
  intro request _
  rw [Option.isSome_map, HttpRequest.completed]

theorem completedTimes_sum (app : HttpApp anyio) :
    app.completedTimes.sum =
      (app.requests.map HttpRequest.encodeTime).sum := by
  rw [HttpApp.completedTimes]
  induction app.requests with
  | nil =>
      rfl
  | cons request later inductionHypothesis =>
      rw [List.map_cons, List.sum_cons, ← inductionHypothesis,
        List.filterMap_cons, HttpRequest.encodeTime]
      cases request.result with
      | none =>
          exact (zero_add _).symm
      | some result =>
          rfl

variable {total : Int} {app : HttpApp anyio}

/-- The count is right exactly when every encode that was begun has
completed. -/
theorem HttpSound.count_iff (sound : HttpSound anyio total app) :
    app.tasksRun = app.completedTimes.length ↔
      ∀ request ∈ app.requests, request.begun = true →
        request.completed = true := by
  rw [sound.tasksRun, completedTimes_length, eq_comm]
  exact ListUpdate.countP_eq_iff (fun request member =>
    (sound.requests request member).begun_of_completed)

/-- With the right count, the average is right as well. -/
theorem HttpSound.average (sound : HttpSound anyio total app)
    (counted : app.tasksRun = app.completedTimes.length) :
    app.totalTimeToProcessTillNow / (max app.tasksRun 1 : Nat) =
      meanTime app.completedTimes := by
  rw [sound.totalTime, ← completedTimes_sum, counted, meanTime]
  split
  · next none =>
      rw [List.length_eq_zero_iff.mp none]
      exact zero_div _
  · next some =>
      rw [Nat.max_eq_left (Nat.one_le_iff_ne_zero.mpr some)]

end Figures

/-- The figures describe the completed encodes exactly when every encode that
was begun has completed: none is running, has raised or was cancelled. -/
theorem healthFigures_iff (anyio : Anyio) (engine : EngineInfo)
    (documented : anyio.Documented) (settings : HttpSettings)
    (limiter : anyio.Limiter)
    (created : anyio.capacityLimiter settings.maxConcurrentEncodes =
      some limiter) (app : HttpApp anyio)
    (reachable : Reachable (HttpStep anyio engine) { limiter := limiter }
      app) :
    ((app.engineHealth settings).totalProcessedTasks =
        app.completedTimes.length ∧
      (app.engineHealth settings).averageTimeToProcess =
        meanTime app.completedTimes) ↔
      ∀ request ∈ app.requests, request.begun = true →
        request.completed = true := by
  have sound := httpSound_of_reachable documented created reachable
  constructor
  · intro figures
    exact sound.count_iff.mp figures.1
  · intro finished
    have counted := sound.count_iff.mpr finished
    exact ⟨counted, sound.average counted⟩

section Examples

def smallEngine : EngineInfo := { modelName := [], dimensions := 1 }

/-- The result of an encode of ten milliseconds. -/
def tenMilliseconds : TimedResult :=
  { embeddings := [[]], truncated := [false], tookMs := 10 }

def oneText : EmbeddingRequest := { input := [pyStr "text"] }

/-- One request was served. -/
def oneServed : HttpApp fifoAnyio where
  limiter := { total := 1 }
  ready := true
  tasksRun := 1
  totalTimeToProcessTillNow := 0 + 10
  requests :=
    [{ payload := oneText
       state :=
        .ended (.ok (embeddingResponse smallEngine oneText tenMilliseconds))
       thread := .ended (.ok tenMilliseconds)
       result := some tenMilliseconds
       calls := [.acquired, .released] }]

theorem oneServed_reachable :
    Reachable (HttpStep fifoAnyio smallEngine)
      { limiter := { total := 1 } } oneServed := by
  have encoded :=
    (((((Reachable.refl
      ({ limiter := { total := 1 } } : HttpApp fifoAnyio)).tail
      (@HttpStep.load fifoAnyio smallEngine _)).tail
      (@HttpStep.arrive fifoAnyio smallEngine _ oneText _ rfl rfl)).tail
      (@HttpStep.acquire fifoAnyio smallEngine _ 0 _ _ rfl rfl
        ⟨by decide, by decide, rfl, rfl⟩)).tail
      (@HttpStep.startThread fifoAnyio smallEngine _ 0 _ rfl rfl rfl)).tail
      (@HttpStep.endThread fifoAnyio smallEngine _ 0 _ (.ok tenMilliseconds)
        rfl rfl)
  have served := encoded.tail
    (@HttpStep.resume fifoAnyio smallEngine _ 0 _
      (.returned tenMilliseconds) rfl rfl rfl)
  exact served

/-- With one completed encode the figures are right. -/
theorem healthFigures_iff_served :
    ((oneServed.engineHealth {}).totalProcessedTasks =
        oneServed.completedTimes.length ∧
      (oneServed.engineHealth {}).averageTimeToProcess =
        meanTime oneServed.completedTimes) := by
  refine (healthFigures_iff fifoAnyio smallEngine fifo_documented {} _ rfl
    oneServed oneServed_reachable).mpr ?_
  intro request member _
  rw [List.mem_singleton.mp member]
  rfl

/-- Once a second encode has raised, two tasks are reported and half the mean
time. -/
theorem healthFigures_iff_raised :
    ∃ app : HttpApp fifoAnyio,
      Reachable (HttpStep fifoAnyio smallEngine)
        { limiter := { total := 1 } } app ∧
      app.completedTimes.length = 1 ∧ meanTime app.completedTimes = 10 ∧
      (app.engineHealth {}).totalProcessedTasks = 2 ∧
      (app.engineHealth {}).averageTimeToProcess = 5 := by
  have reachable :=
    ((((oneServed_reachable.tail
      (@HttpStep.arrive fifoAnyio smallEngine _ oneText _ rfl rfl)).tail
      (@HttpStep.acquire fifoAnyio smallEngine _ 1 _ _ rfl rfl
        ⟨by decide, by decide, rfl, rfl⟩)).tail
      (@HttpStep.startThread fifoAnyio smallEngine _ 1 _ rfl rfl rfl)).tail
      (@HttpStep.endThread fifoAnyio smallEngine _ 1 _
        (.error ⟨pyStr "failed"⟩) rfl rfl)).tail
      (@HttpStep.resume fifoAnyio smallEngine _ 1 _
        (.raised ⟨pyStr "failed"⟩) rfl rfl rfl)
  have mean : meanTime [10] = 10 := by
    norm_num [meanTime]
  have reported : (0 + 10 : ℚ) / (2 : Nat) = 5 := by
    norm_num
  exact ⟨_, reachable, rfl, mean, rfl, reported⟩

end Examples

end EmbeddingService
