import Mathlib.Logic.ExistsUnique
import EmbeddingService.Worker.Settling

/-!
# One message through `_on_message`

Which bodies end in exactly one of the three ways a message may end: handed
back, buffered, or settled after an answer.  The bodies that do not are those
on which an exception leaves the parser.
-/

namespace EmbeddingService

section Completion

variable {Body : Type} (lane : LaneName) (message : Message Body)

/-- The rest of a settlement when every call returns: at most the publish and
the `ack` are awaited. -/
def Settling.complete (settling : Settling Body) :
    Segment Body (Settling Body) :=
  let first := settling.resume lane message .returned
  let second := first.1.resume lane message .returned
  (second.1, first.2 ++ second.2)

/-- `_on_message` to its end when every call returns. -/
def HandlerState.complete (handler : HandlerState Body) :
    Segment Body (HandlerState Body) :=
  match handler with
  | .settling state =>
      let completed := state.complete lane message
      (.settling completed.1, completed.2)
  | .buffered job => (.buffered job, [])
  | .escaped escape => (.escaped escape, [])

/-- A settlement whose calls return settles its delivery once. -/
theorem settle_complete (environment : Environment Body) (workerId : PyStr)
    (result : EmbeddingResult) (retry : Bool) :
    ((settle environment workerId lane message result retry).1.complete
        lane message).1 = .ended .returned ∧
      settlements message.tag
        ((settle environment workerId lane message result retry).2 ++
          ((settle environment workerId lane message result retry).1.complete
            lane message).2) = 1 := by
  unfold settle
  split
  · split
    · simp [Settling.complete, Settling.resume, settlements, Event.settles]
    · simp [Settling.complete, Settling.resume, settlements, Event.settles]
  · simp [Settling.complete, Settling.resume, settlements, Event.settles]

theorem expire_complete (environment : Environment Body) (workerId : PyStr)
    (job : EmbeddingJob) (now : Instant) :
    let delivery : Delivery Body := { message := message, job := job }
    ((expire environment workerId lane delivery now).1.complete
        lane message).1 = .ended .returned ∧
      settlements message.tag
        ((expire environment workerId lane delivery now).2 ++
          ((expire environment workerId lane delivery now).1.complete
            lane message).2) = 1 := by
  cases lane with
  | query =>
      simp [expire, Settling.complete, Settling.resume, settlements,
        Event.settles]
  | index =>
      have settled := settle_complete .index message environment workerId
        (expiredError workerId job) false
      refine ⟨settled.1, ?_⟩
      simpa [expire, settlements, Event.settles] using settled.2

end Completion

/-- The three ways a message may end. -/
inductive MessageEnd where
  | handedBack
  | buffered
  | settled
  deriving DecidableEq, Repr

/-- What each end means for a completed `_on_message`: the state it leaves,
the `ack` and `nack` calls it made, and why it made them. -/
def EndsAs {Body : Type} (environment : Environment Body) (workerId : PyStr)
    (lane : LaneName) (draining : Bool) (freshId : PyStr) (now : Instant)
    (message : Message Body) : MessageEnd → Prop
  | .handedBack =>
      draining = true ∧
        let received :=
          onMessage environment workerId lane draining freshId now message
        (received.1.complete lane message).1 =
            .settling (.ended .returned) ∧
          received.2 ++ (received.1.complete lane message).2 =
            [.nacked lane message true]
  | .buffered =>
      ∃ job, parseMessage environment workerId freshId message =
          .ok (.job job) ∧
        isExpired job now = false ∧
        let received :=
          onMessage environment workerId lane draining freshId now message
        (received.1.complete lane message).1 = .buffered job ∧
          received.2 ++ (received.1.complete lane message).2 =
            [.buffered lane message]
  | .settled =>
      ((∃ result, parseMessage environment workerId freshId message =
          .ok (.rejection result)) ∨
        ∃ job, parseMessage environment workerId freshId message =
          .ok (.job job) ∧ isExpired job now = true) ∧
        draining = false ∧
        let received :=
          onMessage environment workerId lane draining freshId now message
        (received.1.complete lane message).1 =
            .settling (.ended .returned) ∧
          settlements message.tag
            (received.2 ++ (received.1.complete lane message).2) = 1

/-- The bodies on which no exception leaves the parser: `json.loads` ends
with a value or with one of the two errors that are caught; an object whose
metadata is an object has metadata that `json.dumps` can dump; and where the
object is rejected, its job id can be printed. -/
def ParsesQuietly {Body : Type} (environment : Environment Body)
    (freshId : PyStr) (message : Message Body) : Prop :=
  match environment.python.loads message.body with
  | .valueError => False
  | .recursionError => False
  | .decodeError _ => True
  | .value (.dict entries) =>
      let raw := withFallbackId entries
        (either message.messageId message.correlationId)
      (∀ metadata, PyDict.get raw (pyStr "metadata") = some (.dict metadata) →
        environment.python.dumpedSize metadata ≠ none) ∧
        ∀ errors, EmbeddingJob.modelValidate environment.schemaSettings
            environment.python.toValueRules freshId raw =
              .error (.invalid errors) →
          rejectedId environment.python raw ≠ none
  | .value _ => True

section Escapes

variable {settings : Settings} {rules : ValueRules} {freshId : PyStr}
  {raw : PyDict}

theorem checkMetadata_escapes_iff (failure : ValidationFailure) :
    checkMetadata settings rules raw = .error failure ↔
      failure = .recursionError ∧
        ∃ metadata, PyDict.get raw (pyStr "metadata") =
            some (.dict metadata) ∧
          rules.dumpedSize metadata = none := by
  unfold checkMetadata
  cases found : PyDict.get raw (pyStr "metadata") with
  | none =>
      simp
  | some value =>
      cases value with
      | dict metadata =>
          cases dumped : rules.dumpedSize metadata with
          | none =>
              simp [dumped, eq_comm]
          | some size =>
              simp only [Option.some.injEq, Json.dict.injEq,
                exists_eq_left', dumped, reduceCtorEq, and_false, iff_false]
              split <;> simp
      | _ =>
          simp

/-- Validation ends with something other than a `ValidationError` only where
the metadata cannot be dumped. -/
theorem modelValidate_recursionError_iff :
    EmbeddingJob.modelValidate settings rules freshId raw =
        .error .recursionError ↔
      ∃ metadata, PyDict.get raw (pyStr "metadata") =
          some (.dict metadata) ∧
        rules.dumpedSize metadata = none := by
  have escapes : ∀ failure, checkMetadata settings rules raw =
        .error failure ↔
      failure = .recursionError ∧ ∃ metadata,
        PyDict.get raw (pyStr "metadata") = some (.dict metadata) ∧
          rules.dumpedSize metadata = none :=
    checkMetadata_escapes_iff
  unfold EmbeddingJob.modelValidate
  cases checked : checkMetadata settings rules raw with
  | error failure =>
      obtain ⟨rfl, undumped⟩ := (escapes failure).mp checked
      exact iff_of_true rfl undumped
  | ok metadata =>
      have dumped : ¬ ∃ metadata, PyDict.get raw (pyStr "metadata") =
            some (.dict metadata) ∧
          rules.dumpedSize metadata = none := by
        intro undumped
        have escaped := (escapes .recursionError).mpr ⟨rfl, undumped⟩
        rw [checked] at escaped
        cases escaped
      simp only [dumped, iff_false]
      intro failed
      revert failed
      simp only [bind, Except.bind]
      split <;> simp

end Escapes

/-- The parser returns exactly on the quiet bodies. -/
theorem parseMessage_returns_iff {Body : Type}
    (environment : Environment Body) (workerId freshId : PyStr)
    (message : Message Body) :
    (∃ parsed, parseMessage environment workerId freshId message =
        .ok parsed) ↔
      ParsesQuietly environment freshId message := by
  unfold parseMessage parseJob ParsesQuietly
  cases environment.python.loads message.body with
  | valueError =>
      simp
  | recursionError =>
      simp
  | decodeError text =>
      simp
  | value decoded =>
      cases decoded with
      | dict entries =>
          have escapes :=
            @modelValidate_recursionError_iff environment.schemaSettings
              environment.python.toValueRules freshId
              (withFallbackId entries
                (either message.messageId message.correlationId))
          dsimp only
          cases validated : EmbeddingJob.modelValidate
              environment.schemaSettings environment.python.toValueRules
              freshId (withFallbackId entries
                (either message.messageId message.correlationId)) with
          | ok job =>
              rw [validated] at escapes
              simp only [reduceCtorEq, false_iff, not_exists,
                not_and] at escapes
              simpa using escapes
          | error failure =>
              rw [validated] at escapes
              cases failure with
              | recursionError =>
                  simp only [true_iff] at escapes
                  obtain ⟨metadata, found, undumped⟩ := escapes
                  simp only [reduceCtorEq, exists_false, false_iff, not_and]
                  intro dumped
                  exact False.elim (dumped metadata found undumped)
              | invalid errors =>
                  simp only [Except.error.injEq, reduceCtorEq, false_iff,
                    not_exists, not_and] at escapes
                  cases printed : rejectedId environment.python
                      (withFallbackId entries
                        (either message.messageId
                          message.correlationId)) with
                  | none =>
                      simp
                  | some jobId =>
                      simpa [printed] using escapes
      | _ =>
          simp

section MessageEnds

variable {Body : Type} {environment : Environment Body} {workerId : PyStr}
  {lane : LaneName} {draining : Bool} {freshId : PyStr} {now : Instant}
  {message : Message Body}

/-- A message ends in at most one of the three ways. -/
theorem endsAs_unique {first second : MessageEnd}
    (endsFirst : EndsAs environment workerId lane draining freshId now
      message first)
    (endsSecond : EndsAs environment workerId lane draining freshId now
      message second) : first = second := by
  cases first <;> cases second <;> simp only [EndsAs] at endsFirst endsSecond
  all_goals grind

/-- A message that ends was handed back, or its body was parsed. -/
theorem endsAs_returns {messageEnd : MessageEnd}
    (ends : EndsAs environment workerId lane draining freshId now message
      messageEnd) :
    draining = true ∨
      ∃ parsed, parseMessage environment workerId freshId message =
        .ok parsed := by
  cases messageEnd with
  | handedBack =>
      exact Or.inl ends.1
  | buffered =>
      obtain ⟨job, returned, _⟩ := ends
      exact Or.inr ⟨.job job, returned⟩
  | settled =>
      obtain ⟨⟨result, returned⟩ | ⟨job, returned, _⟩, _⟩ := ends
      · exact Or.inr ⟨.rejection result, returned⟩
      · exact Or.inr ⟨.job job, returned⟩

theorem endsAs_of_draining (drains : draining = true) :
    EndsAs environment workerId lane draining freshId now message
      .handedBack := by
  refine ⟨drains, ?_⟩
  simp [onMessage, drains, HandlerState.complete, Settling.complete,
    Settling.resume]

theorem endsAs_of_parsed (serving : draining = false) {parsed : Parsed}
    (returned : parseMessage environment workerId freshId message =
      .ok parsed) :
    ∃ messageEnd, EndsAs environment workerId lane draining freshId now
      message messageEnd := by
  cases parsed with
  | rejection result =>
      have settled :=
        settle_complete lane message environment workerId result false
      refine ⟨.settled, Or.inl ⟨result, returned⟩, serving, ?_⟩
      simp only [onMessage, serving, returned, Bool.false_eq_true, if_false,
        HandlerState.complete]
      refine ⟨congrArg HandlerState.settling settled.1, ?_⟩
      simpa [settlements, Event.settles] using settled.2
  | job job =>
      cases late : isExpired job now with
      | false =>
          refine ⟨.buffered, job, returned, late, ?_⟩
          simp [onMessage, serving, returned, late, HandlerState.complete]
      | true =>
          have expired :=
            expire_complete lane message environment workerId job now
          refine ⟨.settled, Or.inr ⟨job, returned, late⟩, serving, ?_⟩
          simp only [onMessage, serving, returned, late, Bool.false_eq_true,
            if_false, if_true, HandlerState.complete]
          exact ⟨congrArg HandlerState.settling expired.1, expired.2⟩

/-- A message ends in exactly one of the three ways if and only if the worker
is draining or the body parses quietly. -/
theorem onMessage_endsOnce_iff {Body : Type}
    (environment : Environment Body) (workerId : PyStr) (lane : LaneName)
    (draining : Bool) (freshId : PyStr) (now : Instant)
    (message : Message Body) :
    (∃! messageEnd, EndsAs environment workerId lane draining freshId now
        message messageEnd) ↔
      draining = true ∨ ParsesQuietly environment freshId message := by
  rw [← parseMessage_returns_iff environment workerId freshId message]
  constructor
  · intro endsOnce
    obtain ⟨messageEnd, ends, _⟩ := endsOnce
    exact endsAs_returns ends
  · intro handled
    have ends : ∃ messageEnd, EndsAs environment workerId lane draining
        freshId now message messageEnd := by
      cases drains : draining with
      | true =>
          exact ⟨.handedBack, endsAs_of_draining rfl⟩
      | false =>
          rw [drains] at handled
          obtain ⟨parsed, returned⟩ := handled.resolve_left (by decide)
          exact endsAs_of_parsed rfl returned
    obtain ⟨messageEnd, endsAs⟩ := ends
    exact ⟨messageEnd, endsAs, fun other otherEnds =>
      endsAs_unique otherEnds endsAs⟩

end MessageEnds

/-- `json.loads` on bodies of digits: an integer literal of more than 4300
digits raises a plain `ValueError`. -/
def digitsEnvironment : Environment (List UInt8) where
  settings := .defaults
  schemaSettings := .defaults
  python :=
    { boolOf := fun _ => .error []
      intOf := fun _ => .error []
      datetimeOf := fun _ => .error []
      dumpedSize := fun _ => some 2
      loads := fun body =>
        if body.all (fun byte => 48 ≤ byte && byte ≤ 57) &&
            decide (4300 < body.length) then
          .valueError
        else
          .decodeError (pyStr "Expecting value: line 1 column 1 (char 0)")
      strOf := fun _ => some [] }
  engine := { modelName := [], dimensions := 0 }
  dumpResult := fun _ => none

/-- A message whose body is one integer literal of the digit 1. -/
def integerMessage (digits : Nat) : Message (List UInt8) :=
  { tag := 0, body := List.replicate digits 49 }

theorem integerMessage_not_quiet {digits : Nat} (long : 4300 < digits)
    (freshId : PyStr) :
    ¬ ParsesQuietly digitsEnvironment freshId (integerMessage digits) := by
  have raised :
      digitsEnvironment.python.loads (integerMessage digits).body =
        .valueError := by
    simp [digitsEnvironment, integerMessage, long]
  simp [ParsesQuietly, raised]

theorem integerMessage_never_ends {digits : Nat} (long : 4300 < digits)
    (messageEnd : MessageEnd) :
    ¬ EndsAs digitsEnvironment (pyStr "worker") .index false
        (pyStr "fresh") 0 (integerMessage digits) messageEnd := by
  intro ends
  have returned :=
    (endsAs_returns ends).resolve_left Bool.false_ne_true
  exact integerMessage_not_quiet long (pyStr "fresh")
    ((parseMessage_returns_iff _ _ _ _).mp returned)

/-- A body of 4301 digits ends in none of the three ways. -/
theorem onMessage_endsOnce_fails_longInteger :
    ¬ ∃! messageEnd, EndsAs digitsEnvironment (pyStr "worker") .index false
        (pyStr "fresh") 0 (integerMessage 4301) messageEnd := by
  intro endsOnce
  obtain ⟨messageEnd, ends, _⟩ := endsOnce
  exact integerMessage_never_ends (by omega) messageEnd ends

end EmbeddingService
