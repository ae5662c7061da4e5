import EmbeddingService.Worker.Origins

/-!
# Deadlines and the start of an encode

`_process` checks the deadlines of its batch before it asks for the slot.  A
job is encoded in time if nothing was awaited since its check, or if what was
awaited came before its deadline.
-/

namespace EmbeddingService

open LabelledRuns

section Steps

variable {Body : Type} {environment : Environment Body}
  {worker after : Worker Body} {number : Nat} {process : Process Body}

/-- What a step that starts an encode passes to the engine: the live jobs of a
batch that gets the slot, or of one that was checked up to its end just now,
together with those found in time earlier. -/
def StartsEncode (worker : Worker Body) (action : WorkerAction Body)
    (jobs : List EmbeddingJob) (start : Instant) : Prop :=
  ∃ number process, worker.processes[number]? = some process ∧
    ((action = .enterSlot number start ∧
        jobs = Process.liveJobs process.items) ∨
      ∃ readings,
        (action = .startProcess number readings start ∨
          ∃ call how,
            action = .answerExpiry number call how readings start) ∧
        ∀ job ∈ jobs, ∃ index item, process.items[index]? = some item ∧
          item.delivery.job = job ∧
          (item.state = .live ∨ isExpired job (readings index) = false))

/-- Some events among which no encode starts. -/
def NoEncodeStarts (events : List (Event Body)) : Prop :=
  ∀ lane jobs start, .encodeStarted lane jobs start ∉ events

theorem noEncodeStarts_of_about {lane : LaneName} {message : Message Body}
    {events : List (Event Body)} (about : AllAbout lane message events) :
    NoEncodeStarts events := by
  intro other jobs start member
  cases about _ member

/-- What the loop of `_process` encodes was live already, or found in time. -/
theorem runProcess_log (environment : Environment Body)
    (worker : Worker Body) (number : Nat) (process : Process Body)
    (readings : Nat → Instant) (now : Instant) :
    ∃ events,
      (worker.runProcess environment number process readings now).log =
          worker.log ++ events ∧
        ∀ lane jobs start, .encodeStarted lane jobs start ∈ events →
          start = now ∧ ∀ job ∈ jobs, ∃ index item,
            process.items[index]? = some item ∧
              item.delivery.job = job ∧
              (item.state = .live ∨
                isExpired job (readings index) = false) := by
  unfold Worker.runProcess
  rcases Process.checkExpiry_cases environment worker.workerId process.lane
      readings process.items 0 with
    ⟨checked, early⟩ | ⟨before, item, rest, split, unchecked, late, checked⟩
  · simp only [checked, record_nil]
    have nothing : ∀ state : Worker Body, state.log = worker.log →
        ∃ events, state.log = worker.log ++ events ∧
          ∀ lane jobs start, .encodeStarted lane jobs start ∈ events →
            start = now ∧ ∀ job ∈ jobs, ∃ index item,
              process.items[index]? = some item ∧
                item.delivery.job = job ∧
                (item.state = .live ∨
                  isExpired job (readings index) = false) := by
      intro state same
      refine ⟨[], same.trans (List.append_nil _).symm, ?_⟩
      intro lane jobs start member
      cases member
    split
    · exact nothing _ rfl
    · split
      · refine ⟨[_], rfl, ?_⟩
        intro lane jobs start member
        cases List.mem_singleton.mp member
        refine ⟨rfl, ?_⟩
        intro job encoded
        obtain ⟨marked, markedMember, live, same⟩ :=
          Process.mem_liveJobs_iff.mp encoded
        obtain ⟨item, member, rfl⟩ := List.mem_map.mp markedMember
        obtain ⟨index, found⟩ := List.getElem?_of_mem member
        rw [Process.markLive_delivery] at same
        refine ⟨index, item, found, same, ?_⟩
        by_cases unchecked : item.state = .unchecked
        · have inTime := early index item found unchecked
          rw [Nat.zero_add, same] at inTime
          exact Or.inr inTime
        · rw [Process.markLive_of_checked unchecked] at live
          exact Or.inl live
      · exact nothing _ rfl
  · simp only [checked]
    refine ⟨_, rfl, ?_⟩
    intro lane jobs start member
    exact False.elim
      (noEncodeStarts_of_about (expire_about _ _) lane jobs start member)

/-- An answered call of `_expire` changes no other delivery of the batch. -/
theorem answerExpiry_log (environment : Environment Body)
    (worker : Worker Body) (number : Nat) (process : Process Body)
    {position : Nat} {item : Item Body}
    (itemFound : process.items[position]? = some item)
    (settling : Settling Body) (how : Ending)
    (readings : Nat → Instant) (now : Instant) :
    ∃ events,
      (worker.answerExpiry environment number process position item settling
        how readings now).log = worker.log ++ events ∧
        ∀ lane jobs start, .encodeStarted lane jobs start ∈ events →
          start = now ∧ ∀ job ∈ jobs, ∃ index item,
            process.items[index]? = some item ∧
              item.delivery.job = job ∧
              (item.state = .live ∨
                isExpired job (readings index) = false) := by
  have quiet : NoEncodeStarts
      (settling.resume process.lane item.delivery.message how).2 :=
    noEncodeStarts_of_about (resume_about settling how)
  have answers := answerExpiry_answers environment worker number process
    position item settling how readings now
  generalize worker.answerExpiry environment number process position item
    settling how readings now = result at answers
  cases answers with
  | continues returned =>
      obtain ⟨events, log, started⟩ := runProcess_log environment
        (worker.answeredExpiry number process position item
          (settling.resume process.lane item.delivery.message how)) number
        { process with
          items := process.items.set position
            { item with
              state := .expiring (settling.resume process.lane
                item.delivery.message how).1 } } readings now
      refine ⟨(settling.resume process.lane item.delivery.message how).2 ++
        events, log.trans (List.append_assoc _ _ _), ?_⟩
      intro lane jobs start member
      rcases List.mem_append.mp member with resumed | ran
      · exact False.elim (quiet lane jobs start resumed)
      · obtain ⟨sameStart, checked⟩ := started lane jobs start ran
        refine ⟨sameStart, ?_⟩
        intro job encoded
        obtain ⟨index, other, found, same, inTime⟩ := checked job encoded
        by_cases own : index = position
        · subst own
          have inside : index < process.items.length :=
            (List.getElem?_eq_some_iff.mp itemFound).1
          rw [List.getElem?_set_self inside] at found
          cases found
          exact ⟨index, item, itemFound, same,
            Or.inr (inTime.resolve_left (by simp))⟩
        · rw [List.getElem?_set_ne (Ne.symm own)] at found
          exact ⟨index, other, found, same, inTime⟩
  | leaves failed ended =>
      exact ⟨_, rfl, fun lane jobs start member =>
        False.elim (quiet lane jobs start member)⟩
  | awaits pending =>
      exact ⟨_, rfl, fun lane jobs start member =>
        False.elim (quiet lane jobs start member)⟩

/-- Every step adds to the log, and an encode that starts has its jobs from
the batch of the step. -/
theorem step_log {action : WorkerAction Body}
    (taken : WorkerStep environment worker action after) :
    ∃ events, after.log = worker.log ++ events ∧
      ∀ lane jobs start, .encodeStarted lane jobs start ∈ events →
        StartsEncode worker action jobs start := by
  have quiet : ∀ events, NoEncodeStarts events →
      after.log = worker.log ++ events →
      ∃ events, after.log = worker.log ++ events ∧
        ∀ lane jobs start, .encodeStarted lane jobs start ∈ events →
          StartsEncode worker action jobs start := by
    intro events none log
    exact ⟨events, log, fun lane jobs start member =>
      False.elim (none lane jobs start member)⟩
  have silent : after.log = worker.log →
      ∃ events, after.log = worker.log ++ events ∧
        ∀ lane jobs start, .encodeStarted lane jobs start ∈ events →
          StartsEncode worker action jobs start := by
    intro log
    refine quiet [] ?_ (log.trans (List.append_nil _).symm)
    intro lane jobs start member
    cases member
  cases taken with
  | @receive lane message freshId now clock consuming connected fresh =>
      refine quiet (onMessage environment worker.workerId lane
        worker.draining freshId now message).2
        (noEncodeStarts_of_about (onMessage_about _ _ _)) ?_
      unfold Worker.receive
      dsimp only
      split <;> rfl
  | answerHandler found state awaited running =>
      exact quiet _ (noEncodeStarts_of_about (resume_about _ _)) rfl
  | @startProcess number process readings now found state running =>
      obtain ⟨events, log, started⟩ := runProcess_log environment worker
        number process readings now
      refine ⟨events, log, ?_⟩
      intro lane jobs start member
      obtain ⟨rfl, checked⟩ := started lane jobs start member
      exact ⟨number, process, found,
        Or.inr ⟨readings, Or.inl rfl, checked⟩⟩
  | @answerExpiry number position process item settling call how readings
      now found state itemFound itemState awaited running =>
      obtain ⟨events, log, started⟩ := answerExpiry_log environment worker
        number process itemFound settling how readings now
      refine ⟨events, log, ?_⟩
      intro lane jobs start member
      obtain ⟨rfl, checked⟩ := started lane jobs start member
      exact ⟨number, process, found,
        Or.inr ⟨readings, Or.inr ⟨call, how, rfl⟩, checked⟩⟩
  | @enterSlot number process now found state running resolved =>
      refine ⟨[_], rfl, ?_⟩
      intro lane jobs start member
      cases List.mem_singleton.mp member
      exact ⟨number, process, found, Or.inl ⟨rfl, rfl⟩⟩
  | endThread found finished =>
      refine silent ?_
      unfold Worker.endThread
      dsimp only
      split
      · split <;> rfl
      · rfl
  | startFinish found itemFound itemState running =>
      exact quiet _ (noEncodeStarts_of_about (finish_about _ _)) rfl
  | answerFinish found itemFound itemState awaited running cancelled =>
      exact quiet _ (noEncodeStarts_of_about (resume_about _ _)) rfl
  | beginShutdown running =>
      refine quiet [.drainingBegan] ?_ rfl
      intro lane jobs start member
      cases List.mem_singleton.mp member
  | drainedBatch draining found state =>
      refine silent ?_
      unfold Worker.drainedBatch
      split <;> rfl
  | _ =>
      exact silent rfl

/-- The batch `number` waited no longer than the deadlines of those of its
deliveries that were found in time before. -/
def WaitedInTime (worker : Worker Body) (number : Nat) (now : Instant) :
    Prop :=
  ∀ process item, worker.processes[number]? = some process →
    item ∈ process.items → item.state = .live →
      isExpired item.delivery.job now = false

/-- Time passes only while something is awaited; and where a batch goes on
after it awaited the slot, or the call for an expired delivery, it waited in
time. -/
def Timely (worker : Worker Body) : WorkerAction Body → Prop
  | .startProcess number readings now =>
      (∀ position, readings position = now) ∧
        WaitedInTime worker number now
  | .answerExpiry number _ _ readings now =>
      (∀ position, readings position = now) ∧
        WaitedInTime worker number now
  | .enterSlot number now => WaitedInTime worker number now
  | _ => True

/-- A step of a worker that is timely. -/
def TimelyStep (environment : Environment Body) (before : Worker Body)
    (action : WorkerAction Body) (after : Worker Body) : Prop :=
  WorkerStep environment before action after ∧ Timely before action

/-- Every job of every encode had its deadline ahead when the encode
started. -/
def EncodesInTime (worker : Worker Body) : Prop :=
  ∀ lane jobs start, .encodeStarted lane jobs start ∈ worker.log →
    ∀ job ∈ jobs, isExpired job start = false

theorem startsEncode_inTime {action : WorkerAction Body}
    {jobs : List EmbeddingJob} {start : Instant}
    (starts : StartsEncode worker action jobs start)
    (timely : Timely worker action) :
    ∀ job ∈ jobs, isExpired job start = false := by
  intro job encoded
  obtain ⟨number, process, found, ⟨rfl, rfl⟩ | ⟨readings, action, checked⟩⟩ :=
    starts
  · obtain ⟨item, member, live, same⟩ := Process.mem_liveJobs_iff.mp encoded
    rw [← same]
    exact timely process item found member live
  · obtain ⟨index, item, itemFound, same, kept⟩ := checked job encoded
    have atOnce : (∀ position, readings position = start) ∧
        WaitedInTime worker number start := by
      rcases action with rfl | ⟨call, how, rfl⟩
      · exact timely
      · exact timely
    rcases kept with live | inTime
    · rw [← same]
      exact atOnce.2 process item found (List.mem_of_getElem? itemFound) live
    · rw [← atOnce.1 index]
      exact inTime

theorem EncodesInTime.step (inTime : EncodesInTime worker)
    {action : WorkerAction Body} (timely : Timely worker action)
    (taken : WorkerStep environment worker action after) :
    EncodesInTime after := by
  obtain ⟨events, log, started⟩ := step_log taken
  intro lane jobs start member
  rw [log] at member
  rcases List.mem_append.mp member with earlier | new
  · exact inTime lane jobs start earlier
  · exact startsEncode_inTime (started lane jobs start new) timely

/-- In every run in which no batch is kept waiting, for the slot or for the
call of an expired delivery, beyond a deadline that it has checked, no expired
job is encoded. -/
theorem encodesInTime {workerId : PyStr} {lanes : List LaneName}
    (reachable : Reachable (TimelyStep environment)
      (Worker.start Body workerId lanes) worker) :
    ∀ lane jobs start, .encodeStarted lane jobs start ∈ worker.log →
      ∀ job ∈ jobs, isExpired job start = false := by
  refine reachable.invariant (I := EncodesInTime) ?_ ?_
  · intro lane jobs start member
    cases member
  · intro before action after inTime taken
    exact inTime.step taken.2 taken.1

end Steps

/-- A worker with batches of two texts. -/
def pairsEnvironment : Environment Json :=
  { sampleEnvironment with settings := .twoTexts }

/-- A job of one text with a deadline. -/
def timedMessage (tag : Nat) (deadline : Int) : Message Json where
  tag := tag
  body := .dict [(pyStr "input", .str (pyStr "text")),
    (pyStr "deadline", .int deadline)]
  messageId := some (pyStr "job")
  replyTo := some (pyStr "replies")

/-- The job of the first timed message. -/
def dueAtTwenty : EmbeddingJob where
  input := [pyStr "text"]
  jobId := pyStr "job"
  deadline := some { wall := 20, offset := some 0 }

/-- A worker whose loop has just got a batch of two queries, with deadlines at
20 and at 10. -/
def queriesTaken : Worker Json :=
  let serving :=
    ((Worker.start Json (pyStr "worker") [.query]).setLane .query
      { consuming := true })
  let received :=
    (({ serving with main := .starting [] }.setLoop .query
      .waiting).receive pairsEnvironment .query (timedMessage 0 20) [] 0
        0).receive pairsEnvironment .query (timedMessage 1 10) [] 0 0
  match (received.lane .query).batcher.takeReady
      (batcherConfig pairsEnvironment.settings .query) 0 with
  | some (batch, rest) => received.takeBatch .query batch rest
  | none => received

theorem queriesTaken_reachable :
    Reachable (TimelyStep pairsEnvironment)
      (Worker.start Json (pyStr "worker") [.query]) queriesTaken := by
  have consuming :
      TimelyStep pairsEnvironment
        (Worker.start Json (pyStr "worker") [.query]) _ _ :=
    ⟨@WorkerStep.consume Json _ _ .query [] rfl, trivial⟩
  have received := ((((Reachable.refl _).tail consuming).tail
    ⟨.startLoop rfl rfl, trivial⟩).tail
    ⟨@WorkerStep.receive Json pairsEnvironment _ .query
      (timedMessage 0 20) [] 0 0 rfl rfl (List.forall_mem_nil _),
      trivial⟩).tail
    ⟨@WorkerStep.receive Json pairsEnvironment _ .query
      (timedMessage 1 10) [] 0 0 rfl rfl
      (List.forall_mem_singleton.mpr (by decide)), trivial⟩
  have taken := received.tail
    ⟨@WorkerStep.takeBatch Json pairsEnvironment _ .query 0 _ _ rfl rfl
      rfl, trivial⟩
  exact taken

/-- At 15 the first is in time, and the `ack` of the second is awaited. -/
def expiryAwaited : Worker Json :=
  match queriesTaken.processes[0]? with
  | some process =>
      queriesTaken.runProcess pairsEnvironment 0 process (fun _ => 15) 15
  | none => queriesTaken

theorem expiryAwaited_reachable :
    Reachable (TimelyStep pairsEnvironment)
      (Worker.start Json (pyStr "worker") [.query]) expiryAwaited := by
  have checked := queriesTaken_reachable.tail
    ⟨@WorkerStep.startProcess Json pairsEnvironment _ 0 _ (fun _ => 15) 15
        rfl rfl rfl,
      fun _ => rfl, by
        intro process item found member live
        cases found
        rcases List.mem_pair.mp member with rfl | rfl
        · cases live
        · cases live⟩
  exact checked

/-- A job with a deadline at 20 waits until 19 for the `ack` of the expired
query behind it in its batch, and is encoded in time. -/
theorem encodesInTime_ackedInTime :
    ∃ (worker : Worker Json) (job : EmbeddingJob),
      Reachable (TimelyStep pairsEnvironment)
        (Worker.start Json (pyStr "worker") [.query]) worker ∧
      .encodeStarted .query [job] 19 ∈ worker.log ∧
      isExpired job 20 = true ∧ isExpired job 19 = false := by
  have encoding := expiryAwaited_reachable.tail
    ⟨@WorkerStep.answerExpiry Json pairsEnvironment _ 0 1 _ _ _ .ack
        .returned (fun _ => 19) 19 rfl rfl rfl rfl rfl (by decide),
      fun _ => rfl, by
        intro process item found member live
        cases found
        rcases List.mem_pair.mp member with rfl | rfl
        · decide
        · cases live⟩
  obtain ⟨worker, reached, started⟩ :
      ∃ worker, Reachable (TimelyStep pairsEnvironment) _ worker ∧
        .encodeStarted .query [dueAtTwenty] 19 ∈ worker.log :=
    ⟨_, encoding, List.mem_of_getElem? (i := 4) rfl⟩
  exact ⟨worker, dueAtTwenty, reached, started, by decide,
    encodesInTime reached _ _ _ started _ (.head _)⟩

/-- The `ack` is only answered at 25, and the job with a deadline at 20 is
encoded then. -/
theorem encodesInTime_fails_expiryAwaited :
    ∃ (worker : Worker Json) (job : EmbeddingJob),
      Reachable (WorkerStep pairsEnvironment)
        (Worker.start Json (pyStr "worker") [.query]) worker ∧
      .encodeStarted .query [job] 25 ∈ worker.log ∧
      isExpired job 25 = true := by
  have late :=
    (expiryAwaited_reachable.mono (fun _ _ _ taken => taken.1)).tail
      (@WorkerStep.answerExpiry Json pairsEnvironment _ 0 1 _ _ _ .ack
        .returned (fun _ => 25) 25 rfl rfl rfl rfl rfl (by decide))
  exact ⟨_, dueAtTwenty, late, List.mem_of_getElem? (i := 4) rfl,
    by decide⟩

end EmbeddingService
