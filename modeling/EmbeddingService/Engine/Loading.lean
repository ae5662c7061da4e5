import EmbeddingService.Library.Inevitability
import EmbeddingService.Library.Interleaving
import EmbeddingService.Handler

/-!
# Loading the model

`EmbeddingEngine.load` called from any number of threads.  The model is checked
for without the lock and again with it; every access to the engine and every
call of the model library is a step of its own.
-/

namespace EmbeddingService

open LabelledRuns Interleaving Inevitability

/-- What the engine reads of the settings. -/
structure EngineSettings where
  modelName : PyStr := pyStr "BAAI/bge-small-en-v1.5"
  device : Option PyStr := none
  maxSeqLength : Int := 512
  encodeBatchSize : Int := 32
  queryInstruction : PyStr :=
    pyStr "Represent this sentence for searching relevant passages: "
  torchNumThreads : Option Int := none

/-- A `SentenceTransformer`: what was loaded, and the attribute that the engine
sets. -/
structure SentenceTransformer (Weights : Type) where
  weights : Weights
  maxSeqLength : Int

/-- What the engine uses of torch and of the model library.  A call may end in
several ways; `describes` is the reading of `device` and of the dimension for
the log. -/
structure ModelLibrary (Weights : Type) where
  setsNumThreads : Int → Except PyException Unit → Prop
  constructs : PyStr → Option PyStr →
    Except PyException (SentenceTransformer Weights) → Prop
  describes : SentenceTransformer Weights → Except PyException Unit → Prop

/-- Where a call of `load` is.  From `checking` to `leaving` it has the
lock. -/
inductive LoadState (Weights : Type) where
  | called
  | acquiring
  | checking
  | settingThreads (threads : Int)
  | constructing
  | adjusting (model : SentenceTransformer Weights)
  | publishing (model : SentenceTransformer Weights)
  | logging (model : SentenceTransformer Weights)
  | leaving (how : Except PyException Unit)
  | ended (how : Except PyException Unit)

/-- The attributes of the engine, and every model `_model` was set to. -/
structure EmbeddingEngine (Weights : Type) where
  model : Option (SentenceTransformer Weights) := none
  loadLocked : Bool := false
  published : List (SentenceTransformer Weights) := []

/-- `is_ready`. -/
def EmbeddingEngine.isReady {Weights : Type}
    (engine : EmbeddingEngine Weights) : Bool :=
  engine.model.isSome

namespace LoadState

variable {Weights : Type}

def holdsLock : LoadState Weights → Bool
  | .called => false
  | .acquiring => false
  | .ended _ => false
  | _ => true

def isEnded : LoadState Weights → Bool
  | .ended _ => true
  | _ => false

/-- Where a call goes on when it has found no model under the lock. -/
def begin (settings : EngineSettings) : LoadState Weights :=
  match settings.torchNumThreads with
  | none => .constructing
  | some threads =>
      if threads = 0 then .constructing else .settingThreads threads

/-- Where a call is when the constructor has ended. -/
def afterConstructor :
    Except PyException (SentenceTransformer Weights) → LoadState Weights
  | .ok model => .adjusting model
  | .error raised => .leaving (.error raised)

/-- Where a call is when `torch.set_num_threads` has ended. -/
def afterSetThreads : Except PyException Unit → LoadState Weights
  | .ok () => .constructing
  | .error raised => .leaving (.error raised)

end LoadState

/-- The steps of one call of `load`. -/
inductive LoadMoves {Weights : Type} (library : ModelLibrary Weights)
    (settings : EngineSettings) :
    EmbeddingEngine Weights → LoadState Weights → Unit →
      EmbeddingEngine Weights → LoadState Weights → Prop
  | found {engine : EmbeddingEngine Weights}
      (ready : engine.isReady = true) :
      LoadMoves library settings engine .called () engine (.ended (.ok ()))
  | missing {engine : EmbeddingEngine Weights}
      (unready : engine.isReady = false) :
      LoadMoves library settings engine .called () engine .acquiring
  | acquire {engine : EmbeddingEngine Weights}
      (free : engine.loadLocked = false) :
      LoadMoves library settings engine .acquiring ()
        { engine with loadLocked := true } .checking
  | lost {engine : EmbeddingEngine Weights}
      (ready : engine.isReady = true) :
      LoadMoves library settings engine .checking () engine
        (.leaving (.ok ()))
  | won {engine : EmbeddingEngine Weights}
      (unready : engine.isReady = false) :
      LoadMoves library settings engine .checking () engine
        (.begin settings)
  | setThreads {engine : EmbeddingEngine Weights} {threads : Int}
      {result : Except PyException Unit}
      (ends : library.setsNumThreads threads result) :
      LoadMoves library settings engine (.settingThreads threads) () engine
        (.afterSetThreads result)
  | construct {engine : EmbeddingEngine Weights}
      {result : Except PyException (SentenceTransformer Weights)}
      (ends : library.constructs settings.modelName settings.device result) :
      LoadMoves library settings engine .constructing () engine
        (.afterConstructor result)
  | adjust {engine : EmbeddingEngine Weights}
      {model : SentenceTransformer Weights} :
      LoadMoves library settings engine (.adjusting model) () engine
        (.publishing { model with maxSeqLength := settings.maxSeqLength })
  | publish {engine : EmbeddingEngine Weights}
      {model : SentenceTransformer Weights} :
      LoadMoves library settings engine (.publishing model) ()
        { engine with
          model := some model
          published := engine.published ++ [model] }
        (.logging model)
  | log {engine : EmbeddingEngine Weights}
      {model : SentenceTransformer Weights}
      {result : Except PyException Unit}
      (ends : library.describes model result) :
      LoadMoves library settings engine (.logging model) () engine
        (.leaving result)
  | leave {engine : EmbeddingEngine Weights}
      {how : Except PyException Unit} :
      LoadMoves library settings engine (.leaving how) ()
        { engine with loadLocked := false } (.ended how)

/-- Any number of threads that call `load`. -/
abbrev LoadStep {Weights : Type} (library : ModelLibrary Weights)
    (settings : EngineSettings) :=
  Interleaving.Step (· = LoadState.called) (LoadMoves library settings)

section Outline

variable {Weights : Type} (library : ModelLibrary Weights)
  (settings : EngineSettings)

/-- The model of the settings, with their sequence length. -/
def Configured (model : SentenceTransformer Weights) : Prop :=
  model.maxSeqLength = settings.maxSeqLength ∧
    ∃ built, library.constructs settings.modelName settings.device
      (.ok built) ∧ built.weights = model.weights

/-- What holds of the engine: `_model` is the one model it was set to. -/
structure LoadHolds (engine : EmbeddingEngine Weights) : Prop where
  configured : ∀ model, engine.model = some model →
    Configured library settings model
  published : engine.published = engine.model.toList

/-- What a call of `load` knows where it is. -/
def LoadKnows (engine : EmbeddingEngine Weights) :
    LoadState Weights → Prop
  | .called => True
  | .acquiring => True
  | .checking => engine.loadLocked = true
  | .settingThreads _ => engine.loadLocked = true ∧ engine.model = none
  | .constructing => engine.loadLocked = true ∧ engine.model = none
  | .adjusting model =>
      (engine.loadLocked = true ∧ engine.model = none) ∧
        library.constructs settings.modelName settings.device (.ok model)
  | .publishing model =>
      (engine.loadLocked = true ∧ engine.model = none) ∧
        Configured library settings model
  | .logging _ => engine.loadLocked = true ∧ engine.isReady = true
  | .leaving how =>
      engine.loadLocked = true ∧ (how = .ok () → engine.isReady = true)
  | .ended how => how = .ok () → engine.isReady = true

/-- Two calls do not have the lock together. -/
def LoadApart (thread other : LoadState Weights) : Prop :=
  ¬ (thread.holdsLock = true ∧ other.holdsLock = true)

variable {library} {settings} {engine after : EmbeddingEngine Weights}
  {thread next other : LoadState Weights}

theorem not_ready_iff : engine.isReady = false ↔ engine.model = none := by
  simp [EmbeddingEngine.isReady]

theorem LoadKnows.locked (knows : LoadKnows library settings engine thread)
    (holds : thread.holdsLock = true) : engine.loadLocked = true := by
  cases thread <;> simp_all [LoadKnows, LoadState.holdsLock]

/-- What a call without the lock knows depends on `is_ready` alone, which only
grows. -/
theorem LoadKnows.unlocked
    (knows : LoadKnows library settings engine other)
    (without : other.holdsLock = false)
    (grows : engine.isReady = true → after.isReady = true) :
    LoadKnows library settings after other := by
  cases other <;> simp_all [LoadKnows, LoadState.holdsLock]

/-- Under the lock and without a model, a call sets the threads or
constructs. -/
theorem begin_knows (locked : engine.loadLocked = true)
    (missing : engine.model = none) :
    LoadKnows library settings engine (.begin settings) := by
  unfold LoadState.begin
  split
  · exact ⟨locked, missing⟩
  · split <;> exact ⟨locked, missing⟩

theorem begin_holdsLock :
    (LoadState.begin settings : LoadState Weights).holdsLock = true := by
  unfold LoadState.begin
  split
  · rfl
  · split <;> rfl

/-- A move keeps what the engine holds and what its own call knows. -/
theorem loadMoves_own (holds : LoadHolds library settings engine)
    (knows : LoadKnows library settings engine thread)
    (moves : LoadMoves library settings engine thread () after next) :
    LoadHolds library settings after ∧
      LoadKnows library settings after next := by
  cases moves with
  | found ready =>
      exact ⟨holds, fun _ => ready⟩
  | missing unready =>
      exact ⟨holds, trivial⟩
  | acquire free =>
      exact ⟨⟨holds.configured, holds.published⟩, rfl⟩
  | lost ready =>
      exact ⟨holds, knows, fun _ => ready⟩
  | won unready =>
      exact ⟨holds, begin_knows knows (not_ready_iff.mp unready)⟩
  | @setThreads threads result ends =>
      refine ⟨holds, ?_⟩
      cases result with
      | ok value =>
          exact knows
      | error raised =>
          exact ⟨knows.1, by simp⟩
  | @construct result ends =>
      refine ⟨holds, ?_⟩
      cases result with
      | ok model =>
          exact ⟨knows, ends⟩
      | error raised =>
          exact ⟨knows.1, by simp⟩
  | @adjust model =>
      exact ⟨holds, knows.1, rfl, model, knows.2, rfl⟩
  | @publish model =>
      refine ⟨⟨?_, ?_⟩, knows.1.1, rfl⟩
      · intro other same
        cases same
        exact knows.2
      · simp [holds.published, knows.1.2]
  | log ends =>
      exact ⟨holds, knows.1, fun _ => knows.2⟩
  | leave =>
      exact ⟨⟨holds.configured, holds.published⟩, knows.2⟩

/-- A move changes the engine with the lock only, or takes the lock. -/
theorem loadMoves_effect
    (moves : LoadMoves library settings engine thread () after next) :
    (engine.isReady = true → after.isReady = true) ∧
      (after = engine ∧
          (next.holdsLock = true → thread.holdsLock = true) ∨
        engine.loadLocked = false ∨ thread.holdsLock = true) := by
  cases moves with
  | found ready =>
      exact ⟨id, Or.inl ⟨rfl, id⟩⟩
  | missing unready =>
      exact ⟨id, Or.inl ⟨rfl, id⟩⟩
  | acquire free =>
      exact ⟨id, Or.inr (Or.inl free)⟩
  | publish =>
      exact ⟨fun _ => rfl, Or.inr (Or.inr rfl)⟩
  | leave =>
      exact ⟨id, Or.inr (Or.inr rfl)⟩
  | _ =>
      exact ⟨id, Or.inr (Or.inr rfl)⟩

/-- A move does not interfere with what the other calls know. -/
theorem loadMoves_others
    (otherKnows : LoadKnows library settings engine other)
    (apart : LoadApart thread other)
    (moves : LoadMoves library settings engine thread () after next) :
    LoadKnows library settings after other ∧ LoadApart next other := by
  obtain ⟨grows, effect⟩ := loadMoves_effect moves
  rcases effect with ⟨same, entered⟩ | free | inside
  · rw [same]
    exact ⟨otherKnows, fun both => apart ⟨entered both.1, both.2⟩⟩
  · have without : other.holdsLock = false := by
      by_contra holds
      rw [otherKnows.locked (by simpa using holds)] at free
      cases free
    exact ⟨otherKnows.unlocked without grows, by
      simp [LoadApart, without]⟩
  · have without : other.holdsLock = false := by
      simpa [LoadApart, inside] using apart
    exact ⟨otherKnows.unlocked without grows, by
      simp [LoadApart, without]⟩

variable (library) (settings)

/-- The outline of `load`. -/
theorem loadOutline :
    Outline (LoadHolds library settings) (LoadKnows library settings)
      LoadApart (· = .called) (LoadMoves library settings) where
  symmetric := fun _ _ apart both => apart both.symm
  starts := by
    rintro engine _ holds rfl
    trivial
  startsApart := by
    rintro engine _ other rfl knows both
    cases both.1
  own := fun _ _ _ _ _ holds knows moves =>
    loadMoves_own holds knows moves
  others := fun _ _ _ _ _ _ _ otherKnows apart moves =>
    loadMoves_others otherKnows apart moves

end Outline

/-! ## One model for the process -/

section Loaded

variable {Weights : Type} {library : ModelLibrary Weights}
  {settings : EngineSettings}
  {system later : Threads (EmbeddingEngine Weights) (LoadState Weights)}

theorem loadAnnotated_of_reachable
    (reached : Reachable (LoadStep library settings) { shared := {} }
      system) :
    Annotated (LoadHolds library settings) (LoadKnows library settings)
      LoadApart system :=
  (loadOutline library settings).reachable
    { configured := by
        intro model found
        cases found
      published := rfl } reached

/-- A published model stays. -/
theorem model_stays {model : SentenceTransformer Weights}
    (annotated : Annotated (LoadHolds library settings)
      (LoadKnows library settings) LoadApart system)
    (loaded : system.shared.model = some model)
    (reached : Reachable (LoadStep library settings) system later) :
    later.shared.model = some model := by
  refine (reached.invariant (I := fun system =>
    Annotated (LoadHolds library settings) (LoadKnows library settings)
        LoadApart system ∧ system.shared.model = some model)
    ⟨annotated, loaded⟩ ?_).2
  rintro before action after ⟨held, same⟩ taken
  refine ⟨(loadOutline library settings).step held taken, ?_⟩
  cases taken with
  | start starts =>
      exact same
  | @move number thread next label shared found moves =>
      have knows := held.about number thread found
      cases moves with
      | publish =>
          rw [knows.1.2] at same
          cases same
      | _ =>
          exact same

/-- However many threads call `load`, and however their calls interleave and
end: no two of them are under the lock at a time, so no two construct a model;
`_model` is set at most once, to the model of the settings with their sequence
length; a call that returned leaves the engine ready; and the model it leaves
is there for good. -/
theorem loadedOnce
    (reached : Reachable (LoadStep library settings) { shared := {} }
      system) :
    (∀ (first second : Nat) (thread other : LoadState Weights),
        system.threads[first]? = some thread →
        system.threads[second]? = some other →
        thread.holdsLock = true → other.holdsLock = true →
          first = second) ∧
      system.shared.published.length ≤ 1 ∧
      (∀ model, system.shared.model = some model →
        Configured library settings model) ∧
      (.ended (.ok ()) ∈ system.threads →
        ∃ model, system.shared.model = some model ∧
          ∀ later, Reachable (LoadStep library settings) system later →
            later.shared.model = some model) := by
  have annotated := loadAnnotated_of_reachable reached
  refine ⟨?_, ?_, annotated.shared.configured, ?_⟩
  · intro first second thread other firstFound secondFound holds otherHolds
    by_contra different
    exact annotated.apart first second thread other firstFound secondFound
      different ⟨holds, otherHolds⟩
  · rw [annotated.shared.published]
    cases system.shared.model <;> simp
  · intro returned
    obtain ⟨number, found⟩ := List.mem_iff_getElem?.mp returned
    have ready := annotated.about number _ found rfl
    obtain ⟨model, loaded⟩ := Option.isSome_iff_exists.mp ready
    exact ⟨model, loaded, fun later reached =>
      model_stays annotated loaded reached⟩

end Loaded

/-- A library whose constructor may raise. -/
def sampleLibrary : ModelLibrary Unit where
  setsNumThreads := fun _ result => result = .ok ()
  constructs := fun _ _ result =>
    result = .ok { weights := (), maxSeqLength := 256 } ∨
      ∃ raised, result = .error raised
  describes := fun _ result => result = .ok ()

/-- Two calls find no model; the first one's constructor raises, and the second
one loads the model. -/
def sampleLoads :
    Threads (EmbeddingEngine Unit) (LoadState Unit) where
  shared :=
    { model := some { weights := (), maxSeqLength := 512 }
      published := [{ weights := (), maxSeqLength := 512 }] }
  threads :=
    [.ended (.error ⟨pyStr "no such model"⟩), .ended (.ok ())]

theorem twoCalls_reachable :
    Reachable (LoadStep sampleLibrary {}) { shared := {} }
      { shared := {}, threads := [.called, .called] } := by
  have oneCall : Reachable (LoadStep sampleLibrary {}) { shared := {} }
      { shared := {}, threads := [.called] } :=
    (Reachable.refl _).tail (.start rfl)
  exact oneCall.tail (.start rfl)

theorem sampleLoads_reachable :
    Reachable (LoadStep sampleLibrary {}) { shared := {} } sampleLoads := by
  have missing := reachable_move (reachable_move twoCalls_reachable
    0 rfl (.missing rfl)) 1 rfl (.missing rfl)
  have raised := reachable_move (reachable_move (reachable_move
    (reachable_move missing 0 rfl (.acquire rfl)) 0 rfl (.won rfl))
    0 rfl (.construct (Or.inr ⟨⟨pyStr "no such model"⟩, rfl⟩)))
    0 rfl .leave
  have loaded := reachable_move (reachable_move (reachable_move
    (reachable_move (reachable_move raised 1 rfl (.acquire rfl))
      1 rfl (.won rfl)) 1 rfl (.construct (Or.inl rfl)))
    1 rfl .adjust) 1 rfl .publish
  exact reachable_move (reachable_move loaded 1 rfl (.log rfl)) 1 rfl .leave

/-- After the two calls the model is there for good. -/
theorem loadedOnce_twoCalls :
    ∃ model, sampleLoads.shared.model = some model ∧
      ∀ later, Reachable (LoadStep sampleLibrary {}) sampleLoads later →
        later.shared.model = some model :=
  (loadedOnce sampleLoads_reachable).2.2.2 (.tail _ (.head _))

/-! ## Every call ends -/

/-- Every call of the library returns or raises. -/
structure ModelLibrary.Ends {Weights : Type}
    (library : ModelLibrary Weights) : Prop where
  setsNumThreads : ∀ threads, ∃ result,
    library.setsNumThreads threads result
  constructs : ∀ name device, ∃ result,
    library.constructs name device result
  describes : ∀ model, ∃ result, library.describes model result

/-- A call that is under way goes on. -/
def LoadGoesOn {Weights : Type} (library : ModelLibrary Weights)
    (settings : EngineSettings)
    (before after : Threads (EmbeddingEngine Weights) (LoadState Weights)) :
    Prop :=
  ∃ number, LoadStep library settings before (.move number ()) after

/-- All calls are over and the lock is free; either the model is loaded or
every call raised. -/
structure LoadsOver {Weights : Type}
    (system : Threads (EmbeddingEngine Weights) (LoadState Weights)) :
    Prop where
  ended : ∀ thread ∈ system.threads, thread.isEnded = true
  unlocked : system.shared.loadLocked = false
  outcome : system.shared.isReady = true ∨
    ∀ thread ∈ system.threads, ∃ raised, thread = .ended (.error raised)

section Progress

variable {Weights : Type} {library : ModelLibrary Weights}
  {settings : EngineSettings}
  {system next : Threads (EmbeddingEngine Weights) (LoadState Weights)}

/-- How many steps a call has left at most. -/
def LoadState.stepsLeft : LoadState Weights → Nat
  | .called => 9
  | .acquiring => 8
  | .checking => 7
  | .settingThreads _ => 6
  | .constructing => 5
  | .adjusting _ => 4
  | .publishing _ => 3
  | .logging _ => 2
  | .leaving _ => 1
  | .ended _ => 0

theorem loadMoves_stepsLeft {engine after : EmbeddingEngine Weights}
    {thread next : LoadState Weights}
    (moves : LoadMoves library settings engine thread () after next) :
    next.stepsLeft < thread.stepsLeft := by
  cases moves with
  | won unready =>
      unfold LoadState.begin
      split
      · simp [LoadState.stepsLeft]
      · split <;> simp [LoadState.stepsLeft]
  | @setThreads threads result ends =>
      cases result <;>
        simp [LoadState.stepsLeft, LoadState.afterSetThreads]
  | @construct result ends =>
      cases result <;>
        simp [LoadState.stepsLeft, LoadState.afterConstructor]
  | _ =>
      simp [LoadState.stepsLeft]

/-- The lock is taken as often as calls have it. -/
theorem loadMoves_balance {engine after : EmbeddingEngine Weights}
    {thread next : LoadState Weights}
    (knows : LoadKnows library settings engine thread)
    (moves : LoadMoves library settings engine thread () after next) :
    after.loadLocked.toNat + thread.holdsLock.toNat =
      engine.loadLocked.toNat + next.holdsLock.toNat := by
  cases moves with
  | acquire free =>
      simp [free, LoadState.holdsLock]
  | won unready =>
      rw [begin_holdsLock]
      rfl
  | @setThreads threads result ends =>
      cases result <;> rfl
  | @construct result ends =>
      cases result <;> rfl
  | leave =>
      simp [knows.1, LoadState.holdsLock]
  | _ =>
      rfl

/-- A call that has the lock can go on. -/
theorem holder_moves (ends : library.Ends)
    {engine : EmbeddingEngine Weights} {thread : LoadState Weights}
    (holds : thread.holdsLock = true) :
    ∃ after next, LoadMoves library settings engine thread () after next := by
  cases thread with
  | checking =>
      cases ready : engine.isReady with
      | true =>
          exact ⟨_, _, .lost ready⟩
      | false =>
          exact ⟨_, _, .won ready⟩
  | settingThreads threads =>
      obtain ⟨result, ended⟩ := ends.setsNumThreads threads
      exact ⟨_, _, .setThreads ended⟩
  | constructing =>
      obtain ⟨result, ended⟩ :=
        ends.constructs settings.modelName settings.device
      exact ⟨_, _, .construct ended⟩
  | adjusting model =>
      exact ⟨_, _, .adjust⟩
  | publishing model =>
      exact ⟨_, _, .publish⟩
  | logging model =>
      obtain ⟨result, ended⟩ := ends.describes model
      exact ⟨_, _, .log ended⟩
  | leaving how =>
      exact ⟨_, _, .leave⟩
  | _ =>
      cases holds

/-- With a free lock, a call that is not over can go on. -/
theorem free_moves (ends : library.Ends)
    {engine : EmbeddingEngine Weights} {thread : LoadState Weights}
    (free : engine.loadLocked = false) (running : thread.isEnded = false) :
    ∃ after next, LoadMoves library settings engine thread () after next := by
  cases thread with
  | called =>
      cases ready : engine.isReady with
      | true =>
          exact ⟨_, _, .found ready⟩
      | false =>
          exact ⟨_, _, .missing ready⟩
  | acquiring =>
      exact ⟨_, _, .acquire free⟩
  | ended how =>
      cases running
  | _ =>
      exact holder_moves ends rfl

/-- What is known of every reachable state: its outline, and that the lock is
taken as often as calls have it. -/
structure LoadSound (library : ModelLibrary Weights)
    (settings : EngineSettings)
    (system : Threads (EmbeddingEngine Weights) (LoadState Weights)) :
    Prop where
  annotated : Annotated (LoadHolds library settings)
    (LoadKnows library settings) LoadApart system
  balanced : weight (fun thread => thread.holdsLock.toNat) system =
    system.shared.loadLocked.toNat

theorem LoadSound.step
    {action : Interleaving.Action (LoadState Weights) Unit}
    (sound : LoadSound library settings system)
    (taken : LoadStep library settings system action next) :
    LoadSound library settings next where
  annotated := (loadOutline library settings).step sound.annotated taken
  balanced := by
    refine weight_step _ (fun engine => engine.loadLocked.toNat) ?_ ?_
      sound.balanced taken
    · rintro _ rfl
      rfl
    · intro thread label shared after member moves
      obtain ⟨number, found⟩ := List.mem_iff_getElem?.mp member
      exact loadMoves_balance (sound.annotated.about number thread found)
        moves

theorem loadSound_of_reachable
    (reached : Reachable (LoadStep library settings) { shared := {} }
      system) : LoadSound library settings system :=
  reached.invariant
    { annotated := loadAnnotated_of_reachable (Reachable.refl _)
      balanced := rfl }
    (fun _ _ _ sound taken => sound.step taken)

/-- With every call over, the lock is free and the outcome decided. -/
theorem LoadSound.over (sound : LoadSound library settings system)
    (ended : ∀ thread ∈ system.threads, thread.isEnded = true) :
    LoadsOver system where
  ended := ended
  unlocked := by
    by_contra taken
    have held : 0 < weight (fun thread => thread.holdsLock.toNat)
        system := by
      rw [sound.balanced, Bool.eq_true_of_not_eq_false taken]
      decide
    obtain ⟨thread, member, holds⟩ := exists_of_weight_pos held
    have threadEnded := ended thread member
    cases thread with
    | ended how =>
        simp [LoadState.holdsLock] at holds
    | _ =>
        cases threadEnded
  outcome := by
    by_cases ready : system.shared.isReady = true
    · exact Or.inl ready
    · refine Or.inr (fun thread member => ?_)
      obtain ⟨number, found⟩ := List.mem_iff_getElem?.mp member
      have knows := sound.annotated.about number thread found
      have threadEnded := ended thread member
      cases thread with
      | ended how =>
          cases how with
          | ok value =>
              exact False.elim (ready (knows rfl))
          | error raised =>
              exact ⟨raised, rfl⟩
      | _ =>
          cases threadEnded

/-- While a call is not over, some call can go on. -/
theorem LoadSound.progress (sound : LoadSound library settings system)
    (ends : library.Ends) (unfinished : ¬ LoadsOver system) :
    ∃ next, LoadGoesOn library settings system next := by
  have moves : ∃ thread ∈ system.threads, ∃ after next,
      LoadMoves library settings system.shared thread () after next := by
    by_cases free : system.shared.loadLocked = false
    · have running : ∃ thread ∈ system.threads,
          thread.isEnded = false := by
        by_contra none
        push Not at none
        exact unfinished (sound.over (fun thread member => by
          simpa using none thread member))
      obtain ⟨thread, member, running⟩ := running
      exact ⟨thread, member, free_moves ends free running⟩
    · have held : 0 < weight (fun thread => thread.holdsLock.toNat)
          system := by
        rw [sound.balanced, Bool.eq_true_of_not_eq_false free]
        decide
      obtain ⟨thread, member, holds⟩ := exists_of_weight_pos held
      have holder : thread.holdsLock = true := by
        cases found : thread.holdsLock with
        | true =>
            rfl
        | false =>
            simp [found] at holds
      exact ⟨thread, member, holder_moves ends holder⟩
  obtain ⟨thread, member, after, next, moved⟩ := moves
  obtain ⟨number, found⟩ := List.mem_iff_getElem?.mp member
  exact ⟨_, number, .move found moved⟩

/-- As soon as no new call starts, every call ends, in whatever order the
threads go on; then the lock is free, and the model is loaded unless every
call raised. -/
theorem loadsEnd (ends : library.Ends)
    (reached : Reachable (LoadStep library settings) { shared := {} }
      system) :
    Inevitable (LoadGoesOn library settings) LoadsOver system := by
  refine inevitable_of_progress Nat.lt_wfRel.wf
    (weight LoadState.stepsLeft) (I := LoadSound library settings)
    ?_ ?_ ?_ (loadSound_of_reachable reached)
  · rintro before after sound _ ⟨number, taken⟩
    exact sound.step taken
  · rintro before after sound _ ⟨number, taken⟩
    cases taken with
    | move found moves =>
        exact weight_move_lt found _ (loadMoves_stepsLeft moves)
  · intro before sound unfinished
    exact sound.progress ends unfinished

end Progress

/-- The calls of the sample end from the start on. -/
theorem loadsEnd_twoCalls :
    Inevitable (LoadGoesOn sampleLibrary {}) LoadsOver
      { shared := {}, threads := [.called, .called] } :=
  loadsEnd
    { setsNumThreads := fun _ => ⟨.ok (), rfl⟩
      constructs := fun _ _ => ⟨_, Or.inl rfl⟩
      describes := fun _ => ⟨.ok (), rfl⟩ }
    twoCalls_reachable

end EmbeddingService
