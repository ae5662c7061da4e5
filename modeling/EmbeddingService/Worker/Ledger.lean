import Mathlib.Data.Multiset.Basic
import Mathlib.Data.Multiset.MapFold
import EmbeddingService.Library.LabelledRuns
import EmbeddingService.Library.Trace
import EmbeddingService.Worker.Settling

/-!
# The settlement ledger

What a worker is for, with its loops, batches and tasks left out: deliveries
arrive, are held, and are settled one by one, in any order.  The ledger says
where each delivery stands and what was done so far.  Its invariant is the
settlement discipline; the worker is shown to follow the ledger.
-/

namespace EmbeddingService

open LabelledRuns Trace

/-- Where a delivery stands: held with its job and nothing called yet, or in
the middle or at the end of its settlement. -/
inductive Phase (Body : Type) where
  | held (job : EmbeddingJob)
  | settling (state : Settling Body)

structure Cell (Body : Type) where
  lane : LaneName
  message : Message Body
  phase : Phase Body

/-- The delivery a cell is about. -/
def Cell.origin {Body : Type} (cell : Cell Body) :
    LaneName × Message Body :=
  (cell.lane, cell.message)

@[ext]
structure Ledger (Body : Type) where
  draining : Bool := false
  received : List (LaneName × Message Body) := []
  cells : Multiset (Cell Body) := 0
  log : List (Event Body) := []

section Discipline

variable {Body : Type} (environment : Environment Body) (workerId : PyStr)
  (Good : EmbeddingJob → EmbeddingResult → Prop)

/-- The message was parsed as this job, with some fresh id at hand. -/
def ParsedAs (message : Message Body) (job : EmbeddingJob) : Prop :=
  ∃ freshId, parseMessage environment workerId freshId message =
    .ok (.job job)

/-- The results a delivery may be answered with, each with the flag `retry`
of its `_settle`.  `Good` says which outcomes the engine may give a job. -/
inductive AnswerTo (lane : LaneName) (message : Message Body) :
    EmbeddingResult → Bool → Prop
  | rejected {freshId : PyStr} {result : EmbeddingResult}
      (parsed : parseMessage environment workerId freshId message =
        .ok (.rejection result)) :
      AnswerTo lane message result false
  | expired {job : EmbeddingJob} {now : Instant}
      (parsed : ParsedAs environment workerId message job)
      (late : isExpired job now = true) (indexed : lane = .index) :
      AnswerTo lane message (expiredError workerId job) false
  | failed {job : EmbeddingJob}
      (parsed : ParsedAs environment workerId message job)
      (queried : lane = .query) :
      AnswerTo lane message (internalError workerId job) false
  | encoded {job : EmbeddingJob} {result : EmbeddingResult}
      (parsed : ParsedAs environment workerId message job)
      (good : Good job result) :
      AnswerTo lane message result
        (laneSpecs environment.settings lane).retryOnFailure

/-- Why a delivery may be acked: its reply was confirmed, nobody asked for a
reply, or it is a query whose deadline has passed. -/
def AckReason (earlier : List (Event Body)) (lane : LaneName)
    (message : Message Body) : Prop :=
  (∃ reply, .confirmed lane message reply ∈ earlier) ∨
    truthy message.replyTo = false ∨
    lane = .query ∧ ∃ now, .expired .query message now ∈ earlier

/-- Why a delivery may be nacked: the worker is draining, its encode failed on
the index lane, or its reply failed. -/
def NackReason (earlier : List (Event Body)) (lane : LaneName)
    (message : Message Body) (requeue : Bool) : Prop :=
  (requeue = true ∧ .drainingBegan ∈ earlier) ∨
    (lane = .index ∧
      (∃ raised, .encodeFailed .index message raised ∈ earlier) ∧
      ∃ attempt, deliveryAttempt message = .ok attempt ∧
        (requeue = false ↔
          environment.settings.indexDeliveryLimit ≤ attempt)) ∨
    ∃ result, .replyFailed lane message result requeue ∈ earlier

/-- What has to precede each event. -/
def Justified (earlier : List (Event Body)) : Event Body → Prop
  | .drainingBegan => True
  | .encodeStarted _ _ _ => True
  | .buffered _ message =>
      .drainingBegan ∉ earlier ∧
        ∃ job, ParsedAs environment workerId message job
  | .rejected _ message result =>
      ∃ freshId, parseMessage environment workerId freshId message =
        .ok (.rejection result)
  | .expired _ message now =>
      ∃ job, ParsedAs environment workerId message job ∧
        isExpired job now = true
  | .encodeFailed _ message _ =>
      ∃ job, ParsedAs environment workerId message job
  | .published lane message reply =>
      ∃ result retry body replyTo,
        AnswerTo environment workerId Good lane message result retry ∧
        environment.dumpResult result = some body ∧
        message.replyTo = some replyTo ∧
        reply =
          replyMessage environment workerId lane message result replyTo body
  | .confirmed lane message reply => .published lane message reply ∈ earlier
  | .replyFailed lane message result retry =>
      AnswerTo environment workerId Good lane message result retry
  | .acked lane message =>
      settlements message.tag earlier = 0 ∧ AckReason earlier lane message
  | .nacked lane message requeue =>
      settlements message.tag earlier = 0 ∧
        NackReason environment earlier lane message requeue

/-- What the log says about a delivery in each phase. -/
def Cell.Agrees (log : List (Event Body)) (cell : Cell Body) : Prop :=
  match cell.phase with
  | .held job =>
      ParsedAs environment workerId cell.message job ∧
        settlements cell.message.tag log = 0
  | .settling (.publishing result retry reply) =>
      AnswerTo environment workerId Good cell.lane cell.message result
          retry ∧
        .published cell.lane cell.message reply ∈ log ∧
        settlements cell.message.tag log = 0
  | .settling .acking => settlements cell.message.tag log = 1
  | .settling (.nacking _) => settlements cell.message.tag log = 1
  | .settling (.ended .returned) => settlements cell.message.tag log = 1
  | .settling (.ended _) => settlements cell.message.tag log ≤ 1

/-- The ledger is in order: deliveries are distinct, every cell belongs to one
of them and agrees with the log, every buffered delivery has its cell, and
every event of the log is justified. -/
structure Ledger.Sound (ledger : Ledger Body) : Prop where
  tagsUnique : (ledger.received.map (fun origin => origin.2.tag)).Nodup
  cellsReceived :
    ledger.cells.map Cell.origin ≤ (ledger.received : Multiset _)
  agrees : ∀ cell ∈ ledger.cells,
    cell.Agrees environment workerId Good ledger.log
  unknownUnsettled : ∀ tag,
    tag ∉ ledger.received.map (fun origin => origin.2.tag) →
      settlements tag ledger.log = 0
  bufferedHeld : ∀ lane message, .buffered lane message ∈ ledger.log →
    (lane, message) ∈ ledger.cells.map Cell.origin
  drains : ledger.draining = true ↔ .drainingBegan ∈ ledger.log
  justified : Every (Justified environment workerId Good) ledger.log

end Discipline

/-- The events of settlements. -/
def Event.isSettlement {Body : Type} : Event Body → Bool
  | .drainingBegan => false
  | .buffered _ _ => false
  | .encodeStarted _ _ _ => false
  | _ => true

section Counting

variable {Body : Type}

@[simp]
theorem settlements_nil (tag : Nat) :
    settlements tag ([] : List (Event Body)) = 0 :=
  rfl

@[simp]
theorem settlements_append (tag : Nat) (first second : List (Event Body)) :
    settlements tag (first ++ second) =
      settlements tag first + settlements tag second :=
  List.countP_append

@[simp]
theorem settlements_cons (tag : Nat) (event : Event Body)
    (later : List (Event Body)) :
    settlements tag (event :: later) =
      settlements tag later + if event.settles tag then 1 else 0 :=
  List.countP_cons

end Counting

section Segments

variable {Body : Type} {environment : Environment Body} {workerId : PyStr}
  {Good : EmbeddingJob → EmbeddingResult → Prop} {lane : LaneName}
  {message : Message Body} {log : List (Event Body)}

/-- A segment of a settlement is in order after `log`: it settles no other
delivery, each of its events is justified, and the log agrees with where it
stops. -/
structure Settles (environment : Environment Body) (workerId : PyStr)
    (Good : EmbeddingJob → EmbeddingResult → Prop) (lane : LaneName)
    (message : Message Body) (log : List (Event Body))
    (segment : Segment Body (Settling Body)) : Prop where
  about : ∀ tag, tag ≠ message.tag → settlements tag segment.2 = 0
  settlement : ∀ event ∈ segment.2, event.isSettlement = true
  follows : Follows (Justified environment workerId Good) log segment.2
  agrees : Cell.Agrees environment workerId Good (log ++ segment.2)
    { lane := lane, message := message, phase := .settling segment.1 }

/-- A segment may be preceded by an event of its own that calls nothing. -/
theorem Settles.cons {segment : Segment Body (Settling Body)}
    {event : Event Body}
    (silent : ∀ tag, event.settles tag = false)
    (settlement : event.isSettlement = true)
    (justified : Justified environment workerId Good log event)
    (settles : Settles environment workerId Good lane message
      (log ++ [event]) segment) :
    Settles environment workerId Good lane message log
      (segment.1, event :: segment.2) where
  about := by
    intro tag different
    simp [silent, settles.about tag different]
  settlement := by
    intro other member
    rcases List.mem_cons.mp member with same | later
    · rw [same]
      exact settlement
    · exact settles.settlement other later
  follows := ⟨justified, settles.follows⟩
  agrees := by
    have agrees := settles.agrees
    rw [List.append_assoc, List.singleton_append] at agrees
    exact agrees

theorem settle_settles {result : EmbeddingResult} {retry : Bool}
    (answer : AnswerTo environment workerId Good lane message result retry)
    (unsettled : settlements message.tag log = 0) :
    Settles environment workerId Good lane message log
      (settle environment workerId lane message result retry) := by
  unfold settle
  split
  · next point rest asked =>
      split
      · exact
          { about := by
              intro tag different
              simp [Event.settles, different.symm]
            settlement := by simp [Event.isSettlement]
            follows := by
              refine ⟨answer, ⟨?_, ?_⟩, trivial⟩
              · simp [unsettled, Event.settles]
              · exact Or.inr (Or.inr ⟨result, by simp⟩)
            agrees := by
              simp [Cell.Agrees, unsettled, Event.settles] }
      · next body dumped =>
          exact
            { about := by
                intro tag different
                simp [Event.settles]
              settlement := by simp [Event.isSettlement]
              follows := by
                refine ⟨?_, trivial⟩
                exact ⟨result, retry, body, point :: rest, answer, dumped,
                  asked, rfl⟩
              agrees := by
                refine ⟨answer, by simp, ?_⟩
                simp [unsettled, Event.settles] }
  · next unasked =>
      have falsy : truthy message.replyTo = false := by
        cases replyTo : message.replyTo with
        | none =>
            rfl
        | some points =>
            cases points with
            | nil =>
                rfl
            | cons point rest =>
                exact False.elim (unasked point rest replyTo)
      exact
        { about := by
            intro tag different
            simp [Event.settles, different.symm]
          settlement := by simp [Event.isSettlement]
          follows := ⟨⟨unsettled, Or.inr (Or.inl falsy)⟩, trivial⟩
          agrees := by
            simp [Cell.Agrees, unsettled, Event.settles] }

theorem resume_settles {state : Settling Body} (how : Ending)
    (agrees : Cell.Agrees environment workerId Good log
      { lane := lane, message := message, phase := .settling state }) :
    Settles environment workerId Good lane message log
      (state.resume lane message how) := by
  cases state with
  | publishing result retry reply =>
      obtain ⟨answer, published, unsettled⟩ := agrees
      cases how with
      | returned =>
          exact
            { about := by
                intro tag different
                simp [Settling.resume, Event.settles, different.symm]
              settlement := by simp [Settling.resume, Event.isSettlement]
              follows := by
                refine ⟨published, ⟨?_, ?_⟩, trivial⟩
                · simp [unsettled, Event.settles]
                · exact Or.inl ⟨reply, by simp⟩
              agrees := by
                simp [Settling.resume, Cell.Agrees, unsettled,
                  Event.settles] }
      | raised =>
          exact
            { about := by
                intro tag different
                simp [Settling.resume, Event.settles, different.symm]
              settlement := by simp [Settling.resume, Event.isSettlement]
              follows := by
                refine ⟨answer, ⟨?_, ?_⟩, trivial⟩
                · simp [unsettled, Event.settles]
                · exact Or.inr (Or.inr ⟨result, by simp⟩)
              agrees := by
                simp [Settling.resume, Cell.Agrees, unsettled,
                  Event.settles] }
      | cancelled =>
          exact
            { about := by simp [Settling.resume]
              settlement := by simp [Settling.resume, Event.isSettlement]
              follows := trivial
              agrees := by
                simp [Settling.resume, Cell.Agrees, unsettled] }
  | acking =>
      have called : settlements message.tag log = 1 := agrees
      exact
        { about := by simp [Settling.resume]
          settlement := by simp [Settling.resume, Event.isSettlement]
          follows := trivial
          agrees := by
            cases how <;> simp [Settling.resume, Cell.Agrees, called] }
  | nacking requeue =>
      have called : settlements message.tag log = 1 := agrees
      exact
        { about := by simp [Settling.resume]
          settlement := by simp [Settling.resume, Event.isSettlement]
          follows := trivial
          agrees := by
            cases how <;> simp [Settling.resume, Cell.Agrees, called] }
  | ended ending =>
      exact
        { about := by simp [Settling.resume]
          settlement := by simp [Settling.resume, Event.isSettlement]
          follows := trivial
          agrees := by
            simpa [Settling.resume] using agrees }

theorem expire_settles {job : EmbeddingJob} {now : Instant}
    (parsed : ParsedAs environment workerId message job)
    (late : isExpired job now = true)
    (unsettled : settlements message.tag log = 0) :
    Settles environment workerId Good lane message log
      (expire environment workerId lane
        { message := message, job := job } now) := by
  cases lane with
  | query =>
      exact
        { about := by
            intro tag different
            simp [expire, Event.settles, different.symm]
          settlement := by simp [expire, Event.isSettlement]
          follows := by
            refine ⟨⟨job, parsed, late⟩, ⟨?_, ?_⟩, trivial⟩
            · simp [unsettled, Event.settles]
            · exact Or.inr (Or.inr ⟨rfl, now, by simp⟩)
          agrees := by
            simp [expire, Cell.Agrees, unsettled, Event.settles] }
  | index =>
      refine Settles.cons (fun _ => rfl) rfl ⟨job, parsed, late⟩ ?_
      refine settle_settles (.expired parsed late rfl) ?_
      simp [unsettled, Event.settles]

theorem finish_settles {job : EmbeddingJob} {outcome : Outcome}
    (parsed : ParsedAs environment workerId message job)
    (good : ∀ result, outcome = .ok result → Good job result)
    (unsettled : settlements message.tag log = 0) :
    Settles environment workerId Good lane message log
      (finish environment workerId lane { message := message, job := job }
        outcome) := by
  cases outcome with
  | ok result =>
      exact settle_settles (.encoded parsed (good result rfl)) unsettled
  | error raised =>
      cases lane with
      | index =>
          cases read : deliveryAttempt
              { message := message, job := job : Delivery Body }.message with
          | error unreadable =>
              rw [finish_of_unreadable read]
              exact
                { about := by
                    intro tag different
                    simp [Event.settles]
                  settlement := by simp [Event.isSettlement]
                  follows := ⟨⟨job, parsed⟩, trivial⟩
                  agrees := by
                    simp [Cell.Agrees, unsettled, Event.settles] }
          | ok attempt =>
              rw [finish_of_read read]
              exact
                { about := by
                    intro tag different
                    simp [Event.settles, different.symm]
                  settlement := by simp [Event.isSettlement]
                  follows := by
                    refine ⟨⟨job, parsed⟩, ⟨?_, ?_⟩, trivial⟩
                    · simp [unsettled, Event.settles]
                    · exact Or.inr (Or.inl
                        ⟨rfl, ⟨raised, by simp⟩, attempt, read, by simp⟩)
                  agrees := by
                    simp [Cell.Agrees, unsettled, Event.settles] }
      | query =>
          refine Settles.cons (fun _ => rfl) rfl ⟨job, parsed⟩ ?_
          refine settle_settles (.failed parsed rfl) ?_
          simp [unsettled, Event.settles]

end Segments

end EmbeddingService
