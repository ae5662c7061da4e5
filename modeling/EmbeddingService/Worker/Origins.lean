import EmbeddingService.Worker.Outcomes

/-!
# Where the events of a log come from

Every event about a delivery is about one that the worker received: a worker
never acks, nacks or answers anything else.
-/

namespace EmbeddingService

open LabelledRuns

/-- The delivery an event is about. -/
def Event.origin? {Body : Type} :
    Event Body → Option (LaneName × Message Body)
  | .drainingBegan => none
  | .buffered lane message => some (lane, message)
  | .rejected lane message _ => some (lane, message)
  | .expired lane message _ => some (lane, message)
  | .encodeStarted _ _ _ => none
  | .encodeFailed lane message _ => some (lane, message)
  | .published lane message _ => some (lane, message)
  | .confirmed lane message _ => some (lane, message)
  | .replyFailed lane message _ _ => some (lane, message)
  | .acked lane message => some (lane, message)
  | .nacked lane message _ => some (lane, message)

/-- All of these events are about one delivery. -/
def AllAbout {Body : Type} (lane : LaneName) (message : Message Body)
    (events : List (Event Body)) : Prop :=
  ∀ event ∈ events, event.origin? = some (lane, message)

section Segments

variable {Body : Type} {environment : Environment Body} {workerId : PyStr}
  {lane : LaneName} {message : Message Body}

theorem settle_about (result : EmbeddingResult) (retry : Bool) :
    AllAbout lane message
      (settle environment workerId lane message result retry).2 := by
  unfold settle
  split
  · split <;> simp [AllAbout, Event.origin?]
  · simp [AllAbout, Event.origin?]

theorem resume_about (state : Settling Body) (how : Ending) :
    AllAbout lane message (state.resume lane message how).2 := by
  cases state with
  | publishing result retry reply =>
      cases how <;> simp [Settling.resume, AllAbout, Event.origin?]
  | _ =>
      simp [Settling.resume, AllAbout]

theorem AllAbout.cons {event : Event Body} {events : List (Event Body)}
    (first : event.origin? = some (lane, message))
    (rest : AllAbout lane message events) :
    AllAbout lane message (event :: events) :=
  List.forall_mem_cons.mpr ⟨first, rest⟩

theorem expire_about (job : EmbeddingJob) (now : Instant) :
    AllAbout lane message
      (expire environment workerId lane { message := message, job := job }
        now).2 := by
  cases lane with
  | query =>
      simp [expire, AllAbout, Event.origin?]
  | index =>
      exact (settle_about _ _).cons rfl

theorem finish_about (job : EmbeddingJob) (outcome : Outcome) :
    AllAbout lane message
      (finish environment workerId lane { message := message, job := job }
        outcome).2 := by
  cases outcome with
  | ok result =>
      exact settle_about _ _
  | error raised =>
      unfold finish
      dsimp only
      split
      · split <;> simp [AllAbout, Event.origin?]
      · exact (settle_about _ _).cons rfl

theorem onMessage_about (draining : Bool) (freshId : PyStr)
    (now : Instant) :
    AllAbout lane message
      (onMessage environment workerId lane draining freshId now
        message).2 := by
  unfold onMessage
  split
  · simp [AllAbout, Event.origin?]
  · split
    · simp [AllAbout]
    · exact (settle_about _ _).cons rfl
    · split
      · exact expire_about _ _
      · simp [AllAbout, Event.origin?]

end Segments

section Ledgers

variable {Body : Type} {environment : Environment Body} {workerId : PyStr}
  {Good : EmbeddingJob → EmbeddingResult → Prop} {ledger : Ledger Body}

/-- Every event about a delivery is about a received one. -/
def Ledger.OriginsReceived (ledger : Ledger Body) : Prop :=
  ∀ event ∈ ledger.log, ∀ origin, event.origin? = some origin →
    origin ∈ ledger.received

theorem Ledger.OriginsReceived.append
    (origins : ledger.OriginsReceived) {after : Ledger Body}
    {events : List (Event Body)}
    (log : after.log = ledger.log ++ events)
    (received : ∀ origin ∈ ledger.received, origin ∈ after.received)
    (added : ∀ event ∈ events, ∀ origin, event.origin? = some origin →
      origin ∈ after.received) :
    after.OriginsReceived := by
  intro event member origin about
  rw [log] at member
  rcases List.mem_append.mp member with earlier | new
  · exact received origin (origins event earlier origin about)
  · exact added event new origin about

theorem Ledger.OriginsReceived.move (origins : ledger.OriginsReceived)
    (sound : ledger.Sound environment workerId Good) {cell : Cell Body}
    {rest : Multiset (Cell Body)} (split : ledger.cells = cell ::ₘ rest)
    {segment : Segment Body (Settling Body)}
    (about : AllAbout cell.lane cell.message segment.2) :
    (ledger.move rest cell.lane cell.message segment).OriginsReceived := by
  have own : cell.origin ∈ ledger.received := by
    have member : cell.origin ∈ ledger.cells.map Cell.origin := by
      rw [split, Multiset.map_cons]
      exact Multiset.mem_cons_self _ _
    exact Multiset.mem_of_le sound.cellsReceived member
  refine origins.append rfl (fun _ member => member) ?_
  intro event member origin same
  rw [about event member] at same
  cases same
  exact own

theorem Ledger.OriginsReceived.step (origins : ledger.OriginsReceived)
    (sound : ledger.Sound environment workerId Good) {label : Unit}
    {after : Ledger Body}
    (taken : Ledger.Step environment workerId Good ledger label after) :
    after.OriginsReceived := by
  cases taken with
  | encode =>
      refine origins.append rfl (fun _ member => member) ?_
      simp [Event.origin?]
  | drain =>
      refine origins.append rfl (fun _ member => member) ?_
      simp [Event.origin?]
  | @receive lane message freshId now fresh =>
      refine origins.append rfl
        (fun _ member => List.mem_append_left _ member) ?_
      intro event member origin same
      rw [onMessage_about _ _ _ event member] at same
      cases same
      exact List.mem_append_right _ (List.mem_singleton_self _)
  | expire held late =>
      exact origins.move sound held (expire_about _ _)
  | finish held good =>
      exact origins.move sound held (finish_about _ _)
  | abandon held =>
      refine origins.move sound held ?_
      simp [AllAbout]
  | resume settling =>
      exact origins.move sound settling (resume_about _ _)

theorem originsReceived_of_follows
    (follows : LedgerFollows environment workerId Good {} ledger) :
    ledger.OriginsReceived := by
  have held := Reachable.invariant
    (I := fun state : Ledger Body =>
      state.Sound environment workerId Good ∧ state.OriginsReceived)
    follows ⟨Ledger.sound_empty, fun _ member => nomatch member⟩
    (fun before label after held taken =>
      ⟨held.1.step taken, held.2.step held.1 taken⟩)
  exact held.2

end Ledgers

section Workers

variable {Body : Type} {environment : Environment Body} {workerId : PyStr}
  {Allowed : EncodeCall → EngineReply → Prop}
  {Good : EmbeddingJob → EmbeddingResult → Prop} {worker : Worker Body}

/-- A sound worker acks, nacks and answers only what it received. -/
theorem WorkerSound.origin_received
    (sound : WorkerSound environment workerId Allowed Good worker)
    {event : Event Body} (member : event ∈ worker.log)
    {origin : LaneName × Message Body}
    (about : event.origin? = some origin) :
    origin ∈ worker.ledger.received :=
  originsReceived_of_follows sound.follows event member origin about

/-- A message is received on one lane. -/
theorem WorkerSound.received_lane
    (sound : WorkerSound environment workerId Allowed Good worker)
    {lane other : LaneName} {message : Message Body}
    (received : (lane, message) ∈ worker.ledger.received)
    (again : (other, message) ∈ worker.ledger.received) : lane = other := by
  have same := List.inj_on_of_nodup_map sound.ledgerSound.tagsUnique
    received again rfl
  exact congrArg Prod.fst same

end Workers

end EmbeddingService
