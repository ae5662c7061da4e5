import Mathlib.Data.List.Pairwise
import EmbeddingService.Worker.Origins

/-!
# Each delivery is answered once

However a delivery is taken up, at most one reply is published to it: a held
delivery was not answered yet, and one whose settlement began is not answered
again.
-/

namespace EmbeddingService

open LabelledRuns

/-- The delivery an event publishes a reply to. -/
def Event.answers? {Body : Type} : Event Body → Option Nat
  | .published _ message _ => some message.tag
  | _ => none

/-- The deliveries that replies were published to, in order. -/
def answeredTags {Body : Type} (log : List (Event Body)) : List Nat :=
  log.filterMap Event.answers?

section Segments

variable {Body : Type} {environment : Environment Body} {workerId : PyStr}
  {lane : LaneName} {message : Message Body} {log : List (Event Body)}

theorem answeredTags_append (first second : List (Event Body)) :
    answeredTags (first ++ second) =
      answeredTags first ++ answeredTags second :=
  List.filterMap_append

theorem published_of_answeredTag {tag : Nat}
    (answered : tag ∈ answeredTags log) :
    ∃ lane message reply, message.tag = tag ∧
      Event.published lane message reply ∈ log := by
  obtain ⟨event, member, answers⟩ := List.mem_filterMap.mp answered
  cases event with
  | published lane message reply =>
      cases answers
      exact ⟨lane, message, reply, rfl, member⟩
  | _ =>
      cases answers

/-- Nobody is answered, or only this delivery, once. -/
def AnswersOnly (message : Message Body) (events : List (Event Body)) :
    Prop :=
  answeredTags events = [] ∨ answeredTags events = [message.tag]

theorem AnswersOnly.cons {event : Event Body} {events : List (Event Body)}
    (silent : event.answers? = none) (answers : AnswersOnly message events) :
    AnswersOnly message (event :: events) := by
  unfold AnswersOnly answeredTags at answers ⊢
  rw [List.filterMap_cons_none silent]
  exact answers

theorem settle_answers (result : EmbeddingResult) (retry : Bool) :
    AnswersOnly message
      (settle environment workerId lane message result retry).2 := by
  unfold settle
  split
  · split
    · exact Or.inl rfl
    · exact Or.inr rfl
  · exact Or.inl rfl

theorem expire_answers (job : EmbeddingJob) (now : Instant) :
    AnswersOnly message
      (expire environment workerId lane { message := message, job := job }
        now).2 := by
  cases lane with
  | query =>
      exact Or.inl rfl
  | index =>
      exact (settle_answers _ _).cons rfl

theorem finish_answers (job : EmbeddingJob) (outcome : Outcome) :
    AnswersOnly message
      (finish environment workerId lane { message := message, job := job }
        outcome).2 := by
  cases outcome with
  | ok result =>
      exact settle_answers _ _
  | error raised =>
      unfold finish
      dsimp only
      split
      · split <;> exact Or.inl rfl
      · exact (settle_answers _ _).cons rfl

/-- Once begun, a settlement publishes nothing more. -/
theorem resume_answers (state : Settling Body) (how : Ending) :
    answeredTags (state.resume lane message how).2 = [] := by
  cases state with
  | publishing result retry reply =>
      cases how <;> rfl
  | _ =>
      rfl

theorem onMessage_answers (draining : Bool) (freshId : PyStr)
    (now : Instant) :
    AnswersOnly message
      (onMessage environment workerId lane draining freshId now
        message).2 := by
  unfold onMessage
  split
  · exact Or.inl rfl
  · split
    · exact Or.inl rfl
    · exact (settle_answers _ _).cons rfl
    · split
      · exact expire_answers _ _
      · exact Or.inl rfl

/-- A delivery that is only buffered is not answered. -/
theorem onMessage_unanswered {draining : Bool} {freshId : PyStr}
    {now : Instant} {job : EmbeddingJob}
    (buffered : (onMessage environment workerId lane draining freshId now
      message).1 = .buffered job) :
    answeredTags (onMessage environment workerId lane draining freshId now
      message).2 = [] := by
  revert buffered
  unfold onMessage
  split
  · intro buffered
    cases buffered
  · split
    · intro buffered
      cases buffered
    · intro buffered
      cases buffered
    · split
      · intro buffered
        cases buffered
      · intro _
        rfl

end Segments

section Ledgers

variable {Body : Type} {environment : Environment Body} {workerId : PyStr}
  {Good : EmbeddingJob → EmbeddingResult → Prop} {ledger : Ledger Body}
  {cell : Cell Body} {rest : Multiset (Cell Body)}

/-- No delivery is answered twice, and those that are held not at all. -/
structure Ledger.AnsweredOnce (ledger : Ledger Body) : Prop where
  once : (answeredTags ledger.log).Nodup
  unanswered : ∀ cell ∈ ledger.cells, ∀ job, cell.phase = .held job →
    cell.message.tag ∉ answeredTags ledger.log

theorem Ledger.answeredOnce_empty : ({} : Ledger Body).AnsweredOnce where
  once := List.nodup_nil
  unanswered := by
    intro cell member
    cases Multiset.notMem_zero cell member

/-- Events that answer at most one delivery leave the others as they were. -/
theorem nodup_answeredTags {log events : List (Event Body)}
    {message : Message Body} (once : (answeredTags log).Nodup)
    (answers : AnswersOnly message events)
    (unanswered : answeredTags events = [] ∨
      message.tag ∉ answeredTags log) :
    (answeredTags (log ++ events)).Nodup := by
  rw [answeredTags_append]
  rcases answers with none | one
  · rw [none, List.append_nil]
    exact once
  · rcases unanswered with none | new
    · rw [none, List.append_nil]
      exact once
    · rw [one]
      refine List.nodup_append.mpr ⟨once, List.nodup_singleton _, ?_⟩
      rintro tag member other single rfl
      rw [List.mem_singleton.mp single] at member
      exact new member

theorem notMem_answeredTags_append {log events : List (Event Body)}
    {message : Message Body} {tag : Nat}
    (unanswered : tag ∉ answeredTags log)
    (answers : AnswersOnly message events) (other : tag ≠ message.tag) :
    tag ∉ answeredTags (log ++ events) := by
  rw [answeredTags_append, List.mem_append]
  rintro (before | new)
  · exact unanswered before
  · rcases answers with none | one
    · rw [none] at new
      cases new
    · rw [one] at new
      exact other (List.mem_singleton.mp new)

/-- A delivery moves on; only what was held may be answered by that. -/
theorem Ledger.AnsweredOnce.move (answered : ledger.AnsweredOnce)
    (sound : ledger.Sound environment workerId Good)
    (split : ledger.cells = cell ::ₘ rest)
    {segment : Segment Body (Settling Body)}
    (answers : AnswersOnly cell.message segment.2)
    (allowed : answeredTags segment.2 = [] ∨
      ∃ job, cell.phase = .held job) :
    (ledger.move rest cell.lane cell.message segment).AnsweredOnce where
  once := by
    have own : cell ∈ ledger.cells := by
      rw [split]
      exact Multiset.mem_cons_self _ _
    refine nodup_answeredTags answered.once answers ?_
    rcases allowed with none | ⟨job, held⟩
    · exact Or.inl none
    · exact Or.inr (answered.unanswered cell own job held)
  unanswered := by
    intro other member job held
    rcases Multiset.mem_cons.mp member with rfl | later
    · cases held
    · have before : other ∈ ledger.cells := by
        rw [split]
        exact Multiset.mem_cons_of_mem later
      exact notMem_answeredTags_append
        (answered.unanswered other before job held) answers
        (sound.others_differ split later)

/-- A new delivery was not answered before. -/
theorem Ledger.OriginsReceived.unanswered
    (origins : ledger.OriginsReceived) {tag : Nat}
    (fresh : tag ∉ ledger.received.map (fun origin => origin.2.tag)) :
    tag ∉ answeredTags ledger.log := by
  intro answered
  obtain ⟨lane, message, reply, rfl, published⟩ :=
    published_of_answeredTag answered
  have received := origins _ published (lane, message) rfl
  exact fresh (List.mem_map.mpr ⟨_, received, rfl⟩)

theorem Ledger.AnsweredOnce.receive (answered : ledger.AnsweredOnce)
    (sound : ledger.Sound environment workerId Good)
    (origins : ledger.OriginsReceived) {lane : LaneName}
    {message : Message Body}
    (fresh : message.tag ∉
      ledger.received.map (fun origin => origin.2.tag))
    {segment : Segment Body (HandlerState Body)}
    (answers : AnswersOnly message segment.2)
    (buffered : ∀ job, segment.1 = .buffered job →
      answeredTags segment.2 = []) :
    (ledger.receive lane message segment).AnsweredOnce where
  once := nodup_answeredTags answered.once answers
    (Or.inr (origins.unanswered fresh))
  unanswered := by
    intro cell member job held
    rcases Multiset.mem_add.mp member with new | before
    · cases state : segment.1 with
      | buffered buffering =>
          rw [state, receivedCells, Multiset.mem_singleton] at new
          rw [Ledger.receive, answeredTags_append, buffered _ state,
            List.append_nil, new]
          exact origins.unanswered fresh
      | settling settling =>
          rw [state, receivedCells, Multiset.mem_singleton] at new
          rw [new] at held
          cases held
      | escaped escape =>
          rw [state] at new
          cases Multiset.notMem_zero cell new
    · obtain ⟨others, split⟩ := Multiset.exists_cons_of_mem before
      refine notMem_answeredTags_append
        (answered.unanswered cell before job held) answers ?_
      intro same
      rw [← same] at fresh
      exact fresh (sound.cell_known split)

/-- An event that answers nobody changes nothing. -/
theorem Ledger.AnsweredOnce.note (answered : ledger.AnsweredOnce)
    {event : Event Body} (silent : event.answers? = none)
    {draining : Bool} :
    ({ ledger with
        draining := draining
        log := ledger.log ++ [event] } : Ledger Body).AnsweredOnce := by
  have same :
      answeredTags (ledger.log ++ [event]) = answeredTags ledger.log := by
    have none : answeredTags [event] = [] :=
      List.filterMap_cons_none silent
    rw [answeredTags_append, none, List.append_nil]
  constructor
  · rw [same]
    exact answered.once
  · rw [same]
    exact answered.unanswered

theorem Ledger.AnsweredOnce.step (answered : ledger.AnsweredOnce)
    (sound : ledger.Sound environment workerId Good)
    (origins : ledger.OriginsReceived) {label : Unit} {after : Ledger Body}
    (taken : Ledger.Step environment workerId Good ledger label after) :
    after.AnsweredOnce := by
  cases taken with
  | encode =>
      exact answered.note rfl
  | drain =>
      exact answered.note rfl
  | receive fresh =>
      exact answered.receive sound origins fresh (onMessage_answers _ _ _)
        (fun _ => onMessage_unanswered)
  | expire held late =>
      exact answered.move sound held (expire_answers _ _)
        (Or.inr ⟨_, rfl⟩)
  | finish held good =>
      exact answered.move sound held (finish_answers _ _)
        (Or.inr ⟨_, rfl⟩)
  | abandon held =>
      exact answered.move sound held (Or.inl rfl) (Or.inl rfl)
  | resume settling =>
      exact answered.move sound settling (Or.inl (resume_answers _ _))
        (Or.inl (resume_answers _ _))

theorem answeredOnce_of_follows
    (follows : LedgerFollows environment workerId Good {} ledger) :
    ledger.AnsweredOnce := by
  have held := Reachable.invariant
    (I := fun state : Ledger Body =>
      state.Sound environment workerId Good ∧ state.OriginsReceived ∧
        state.AnsweredOnce)
    follows
    ⟨Ledger.sound_empty, fun _ member => (List.not_mem_nil member).elim,
      Ledger.answeredOnce_empty⟩
    (fun before label after held taken =>
      ⟨held.1.step taken, held.2.1.step held.1 taken,
        held.2.2.step held.1 held.2.1 taken⟩)
  exact held.2.2

end Ledgers

section Workers

variable {Body : Type} {environment : Environment Body} {workerId : PyStr}
  {Allowed : EncodeCall → EngineReply → Prop}
  {Good : EmbeddingJob → EmbeddingResult → Prop} {worker : Worker Body}

theorem eq_of_nodup_answeredTags {log : List (Event Body)}
    (once : (answeredTags log).Nodup) {first second : Event Body}
    (firstMember : first ∈ log) (secondMember : second ∈ log) {tag : Nat}
    (answers : first.answers? = some tag)
    (again : second.answers? = some tag) : first = second := by
  let Apart (one two : Event Body) : Prop :=
    ∀ tag, one.answers? = some tag → two.answers? = some tag → one = two
  have symmetric : Std.Symm Apart :=
    ⟨fun _ _ apart tag answers again => (apart tag again answers).symm⟩
  have apart : log.Pairwise Apart := by
    refine (List.pairwise_filterMap.mp once).imp ?_
    intro one two different tag answers again
    exact (different tag answers tag again rfl).elim
  exact apart.forall_of_forall (fun _ _ _ _ _ => rfl) firstMember
    secondMember tag answers again

/-- A sound worker publishes at most one reply to a delivery. -/
theorem WorkerSound.published_once
    (sound : WorkerSound environment workerId Allowed Good worker)
    {lane other : LaneName} {message again : Message Body}
    {reply second : Reply Body}
    (published : .published lane message reply ∈ worker.log)
    (publishedAgain : .published other again second ∈ worker.log)
    (same : again.tag = message.tag) :
    Event.published other again second =
      .published lane message reply := by
  have answered := answeredOnce_of_follows sound.follows
  exact eq_of_nodup_answeredTags answered.once publishedAgain published
    (congrArg some same) rfl

end Workers

end EmbeddingService
