import EmbeddingService.Worker.Discipline

/-!
# Runs in which every batch is settled

The states of the items follow the state of their task.  As long as the `ack`
and `nack` calls of a batch task return and the grace period does not end, the
task does not fail, and when it is over each of its deliveries is settled.
-/

namespace EmbeddingService

open LabelledRuns

/-- No `ack` or `nack` of a batch task raises, so that a batch of the drain
has no `TimeoutError` to raise either, and the grace period does not end.  A
publish may raise. -/
def WorkerAction.Quiet {Body : Type} : WorkerAction Body → Prop
  | .answerExpiry _ call how _ _ => call ≠ .publish → how ≠ .raised
  | .answerFinish _ _ call how => call ≠ .publish → how ≠ .raised
  | .drainedBatch timeoutError => timeoutError = false
  | .graceOver => False
  | _ => True

/-- Whenever the encode of an index job failed, its attempt could be read. -/
def AttemptsRead {Body : Type} (worker : Worker Body) : Prop :=
  ∀ message raised, .encodeFailed .index message raised ∈ worker.log →
    ∃ attempt, deliveryAttempt message = .ok attempt

/-- Whether an event needs no attempt, or one that can be read. -/
def Event.attemptRead {Body : Type} : Event Body → Bool
  | .encodeFailed .index message _ => (deliveryAttempt message).isOk
  | _ => true

theorem attemptsRead_of_all {Body : Type} {worker : Worker Body}
    (all : worker.log.all Event.attemptRead = true) :
    AttemptsRead worker := by
  intro message raised member
  have read := List.all_eq_true.mp all _ member
  cases attempt : deliveryAttempt message with
  | ok number =>
      exact ⟨number, rfl⟩
  | error unreadable =>
      rw [Event.attemptRead, attempt] at read
      cases read

theorem AttemptsRead.of_step {Body : Type} {environment : Environment Body}
    {worker after : Worker Body} {action : WorkerAction Body}
    (read : AttemptsRead after)
    (taken : WorkerStep environment worker action after) :
    AttemptsRead worker := by
  obtain ⟨added, log⟩ := log_step taken
  intro message raised member
  refine read message raised ?_
  rw [log]
  exact List.mem_append_left _ member

/-- The attempt of the item can be read, if its `_finish` reads it. -/
def Worker.ReadsAttempt {Body : Type} (worker : Worker Body)
    (number position : Nat) : Prop :=
  ∀ process item raised, worker.processes[number]? = some process →
    process.lane = .index →
      process.items[position]? = some item →
        item.state = .scheduled (.error raised) →
          ∃ attempt, deliveryAttempt item.delivery.message = .ok attempt

/-- No `ack` or `nack` of the batch task `number` raises, and neither does the
reading of an attempt. -/
def WorkerAction.SettlesFor {Body : Type} (worker : Worker Body)
    (number : Nat) : WorkerAction Body → Prop
  | .answerExpiry process call how _ _ =>
      process = number → call ≠ .publish → how ≠ .raised
  | .startFinish process position =>
      process = number → worker.ReadsAttempt process position
  | .answerFinish process _ call how =>
      process = number → call ≠ .publish → how ≠ .raised
  | _ => True

section Reading

variable {Body : Type} {environment : Environment Body} {workerId : PyStr}
  {lane : LaneName} {delivery : Delivery Body} {outcome : Outcome}

theorem encodeFailed_mem_finish (raised : PyException) :
    .encodeFailed lane delivery.message raised ∈
      (finish environment workerId lane delivery (.error raised)).2 := by
  cases lane with
  | query =>
      exact List.mem_cons_self
  | index =>
      cases read : deliveryAttempt delivery.message with
      | error unreadable =>
          rw [finish_of_unreadable read]
          exact List.mem_cons_self
      | ok attempt =>
          rw [finish_of_read read]
          exact List.mem_cons_self

/-- A step that is quiet settles for every task, if the attempts it read could
be read. -/
theorem WorkerAction.Quiet.settlesFor {worker after : Worker Body}
    {action : WorkerAction Body} (quiet : action.Quiet)
    (read : AttemptsRead after)
    (taken : WorkerStep environment worker action after) (number : Nat) :
    action.SettlesFor worker number := by
  cases taken with
  | answerExpiry found state itemFound itemState awaited running =>
      exact fun _ => quiet
  | @startFinish number position process item outcome found itemFound
      itemState running =>
      intro _ other otherItem raised otherFound indexed otherItemFound failed
      rw [found] at otherFound
      cases otherFound
      rw [itemFound] at otherItemFound
      cases otherItemFound
      rw [itemState] at failed
      cases failed
      refine read _ raised (List.mem_append_right _ ?_)
      rw [indexed]
      exact encodeFailed_mem_finish raised
  | answerFinish found itemFound itemState awaited running cancelled =>
      exact fun _ => quiet
  | _ =>
      exact trivial

end Reading

section Pending

variable {Body : Type} {environment : Environment Body} {workerId : PyStr}
  {lane : LaneName} {message : Message Body}

/-- A settlement that still awaits a call. -/
def Settling.IsPending (settling : Settling Body) : Prop :=
  ∃ call, settling.call? = some call

theorem settle_pending (result : EmbeddingResult) (retry : Bool) :
    (settle environment workerId lane message result retry).1.IsPending := by
  unfold settle
  split
  · split
    · exact ⟨.nack, rfl⟩
    · exact ⟨.publish, rfl⟩
  · exact ⟨.ack, rfl⟩

theorem expire_pending (delivery : Delivery Body) (now : Instant) :
    (expire environment workerId lane delivery now).1.IsPending := by
  cases lane with
  | query =>
      exact ⟨.ack, rfl⟩
  | index =>
      exact settle_pending _ _

theorem finish_pending (delivery : Delivery Body) (outcome : Outcome)
    (read : ∀ raised, lane = .index → outcome = .error raised →
      ∃ attempt, deliveryAttempt delivery.message = .ok attempt) :
    (finish environment workerId lane delivery outcome).1.IsPending := by
  cases outcome with
  | ok result =>
      exact settle_pending _ _
  | error raised =>
      cases lane with
      | index =>
          obtain ⟨attempt, isRead⟩ := read raised rfl rfl
          rw [finish_of_read isRead]
          exact ⟨.nack, rfl⟩
      | query =>
          exact settle_pending _ _

/-- Where its `ack` and `nack` return, a settlement goes on or returns. -/
theorem resume_quiet {settling : Settling Body} {call : BrokerCall}
    {how : Ending} (awaited : settling.call? = some call)
    (quiet : call ≠ .publish → how ≠ .raised)
    (uncancelled : how ≠ .cancelled) :
    (settling.resume lane message how).1 = .ended .returned ∨
      (settling.resume lane message how).1.IsPending := by
  cases settling with
  | publishing result retry reply =>
      cases how with
      | returned =>
          exact Or.inr ⟨.ack, rfl⟩
      | raised =>
          exact Or.inr ⟨.nack, rfl⟩
      | cancelled =>
          exact False.elim (uncancelled rfl)
  | ended before =>
      cases awaited
  | _ =>
      cases awaited
      cases how with
      | returned =>
          exact Or.inl rfl
      | raised =>
          exact False.elim (quiet (by decide) rfl)
      | cancelled =>
          exact False.elim (uncancelled rfl)

theorem pending_of_unended {settling : Settling Body}
    (unended : ∀ how, settling ≠ .ended how) : settling.IsPending := by
  cases settling with
  | ended how =>
      exact False.elim (unended how rfl)
  | _ =>
      exact ⟨_, rfl⟩

end Pending

section Items

variable {Body : Type}

/-- The `_expire` of the item has returned. -/
def Item.IsGone (item : Item Body) : Prop :=
  item.state = .expiring (.ended .returned)

/-- What the expiry loop may find besides the item it waits for. -/
def Item.IsCheckable (item : Item Body) : Prop :=
  item.state = .unchecked ∨ item.state = .live ∨ item.IsGone

/-- What the expiry loop leaves. -/
def Item.IsKept (item : Item Body) : Prop :=
  item.state = .live ∨ item.IsGone

/-- What the `gather` may find. -/
def Item.IsGathered (item : Item Body) : Prop :=
  item.IsGone ∨ (∃ outcome, item.state = .scheduled outcome) ∨
    ∃ settling, item.state = .finishing settling ∧
      (settling = .ended .returned ∨ settling.IsPending)

/-- What a batch task that returned leaves. -/
def Item.IsDone (item : Item Body) : Prop :=
  item.IsGone ∨ item.state = .finishing (.ended .returned)

/-- The states of the items follow the state of their process, which can only
end by returning. -/
def Process.Fits (process : Process Body) : Prop :=
  match process.state with
  | .created => ∀ item ∈ process.items, item.state = .unchecked
  | .expiring position =>
      (∃ item settling, process.items[position]? = some item ∧
        item.state = .expiring settling ∧ settling.IsPending) ∧
        ∀ index item, process.items[index]? = some item →
          index ≠ position → item.IsCheckable
  | .queued => ∀ item ∈ process.items, item.IsKept
  | .encoding _ => ∀ item ∈ process.items, item.IsKept
  | .gathering => ∀ item ∈ process.items, item.IsGathered
  | .ended how => how = .returned ∧ ∀ item ∈ process.items, item.IsDone

theorem markLive_kept {item : Item Body} (checkable : item.IsCheckable) :
    (Process.markLive item).IsKept := by
  rcases checkable with unchecked | live | gone
  · exact Or.inl (by simp [Process.markLive, unchecked])
  · exact Or.inl (by simp [Process.markLive, live])
  · refine Or.inr ?_
    rw [Process.markLive_of_checked (by rw [gone]; simp)]
    exact gone

theorem markLive_all_kept {items : List (Item Body)}
    (checkable : ∀ item ∈ items, item.IsCheckable) :
    ∀ item ∈ items.map Process.markLive, item.IsKept := by
  intro item member
  obtain ⟨source, sourceMember, rfl⟩ := List.mem_map.mp member
  exact markLive_kept (checkable source sourceMember)

/-- Items that are kept, but none of them live, are gone. -/
theorem gone_of_noneLive {items : List (Item Body)}
    (kept : ∀ item ∈ items, item.IsKept)
    (noneLive : Process.liveJobs items = []) :
    ∀ item ∈ items, item.IsGone := by
  intro item member
  rcases kept item member with live | gone
  · have present : item.delivery.job ∈ Process.liveJobs items :=
      Process.mem_liveJobs_iff.mpr ⟨item, member, live, rfl⟩
    rw [noneLive] at present
    cases present
  · exact gone

/-- The elements around a position. -/
theorem mem_around_of_ne {Value : Type} {before after : List Value}
    {middle value : Value} {index : Nat}
    (found : (before ++ middle :: after)[index]? = some value)
    (different : index ≠ before.length) :
    value ∈ before ∨ value ∈ after := by
  rcases Nat.lt_or_gt_of_ne different with earlier | later
  · rw [List.getElem?_append_left earlier] at found
    exact Or.inl (List.mem_of_getElem? found)
  · rw [List.getElem?_append_right (Nat.le_of_lt later)] at found
    obtain ⟨offset, shifted⟩ : ∃ offset, index - before.length = offset + 1 :=
      ⟨index - before.length - 1, by omega⟩
    rw [shifted, List.getElem?_cons_succ] at found
    exact Or.inr (List.mem_of_getElem? found)

/-- What the `gather` may find in any run; in a calm one, no settlement has
failed. -/
def Item.InGather (calm : Prop) (item : Item Body) : Prop :=
  item.IsGone ∨ (∃ outcome, item.state = .scheduled outcome) ∨
    ∃ settling, item.state = .finishing settling ∧
      (calm → settling = .ended .returned ∨ settling.IsPending)

/-- The states of the items follow the state of their process; a calm process
can only end by returning. -/
def Process.Shaped (calm : Prop) (process : Process Body) : Prop :=
  match process.state with
  | .created => ∀ item ∈ process.items, item.state = .unchecked
  | .expiring position =>
      (∃ item settling, process.items[position]? = some item ∧
        item.state = .expiring settling ∧ settling.IsPending) ∧
        ∀ index item, process.items[index]? = some item →
          index ≠ position → item.IsCheckable
  | .queued => ∀ item ∈ process.items, item.IsKept
  | .encoding _ => ∀ item ∈ process.items, item.IsKept
  | .gathering => ∀ item ∈ process.items, item.InGather calm
  | .ended how => calm → how = .returned ∧ ∀ item ∈ process.items, item.IsDone

theorem Process.Shaped.fits {process : Process Body}
    (shaped : process.Shaped True) : process.Fits := by
  unfold Process.Shaped at shaped
  unfold Process.Fits
  split at shaped
  · exact shaped
  · exact shaped
  · exact shaped
  · exact shaped
  · intro item member
    rcases shaped item member with gone | scheduled |
      ⟨settling, finishing, goesOn⟩
    · exact Or.inl gone
    · exact Or.inr (Or.inl scheduled)
    · exact Or.inr (Or.inr ⟨settling, finishing, goesOn trivial⟩)
  · exact shaped trivial

theorem Process.Fits.shaped {process : Process Body}
    (fits : process.Fits) (calm : Prop) : process.Shaped calm := by
  unfold Process.Fits at fits
  unfold Process.Shaped
  split at fits
  · exact fits
  · exact fits
  · exact fits
  · exact fits
  · intro item member
    rcases fits item member with gone | scheduled |
      ⟨settling, finishing, goesOn⟩
    · exact Or.inl gone
    · exact Or.inr (Or.inl scheduled)
    · exact Or.inr (Or.inr ⟨settling, finishing, fun _ => goesOn⟩)
  · exact fun _ => fits

end Items

/-- Every process is shaped, and those that are calm have not failed. -/
def Shaped {Body : Type} (calm : Nat → Prop) (worker : Worker Body) : Prop :=
  ∀ (number : Nat) (process : Process Body),
    worker.processes[number]? = some process → process.Shaped (calm number)

/-- Every process but one is shaped. -/
def ShapedBut {Body : Type} (calm : Nat → Prop) (worker : Worker Body)
    (left : Nat) : Prop :=
  ∀ (number : Nat) (process : Process Body),
    worker.processes[number]? = some process → number ≠ left →
      process.Shaped (calm number)

section Steps

variable {Body : Type} {environment : Environment Body}
  {calm : Nat → Prop} {worker after : Worker Body} {number : Nat}
  {process : Process Body}

theorem Shaped.but (shaped : Shaped calm worker) (number : Nat) :
    ShapedBut calm worker number :=
  fun other _ found _ => shaped other _ found

theorem Shaped.same (shaped : Shaped calm worker)
    (processes : after.processes = worker.processes) :
    Shaped calm after := by
  unfold Shaped
  rw [processes]
  exact shaped

theorem ShapedBut.same (shapedBut : ShapedBut calm worker number)
    (processes : after.processes = worker.processes) :
    ShapedBut calm after number := by
  unfold ShapedBut
  rw [processes]
  exact shapedBut

theorem ShapedBut.setProcess (shapedBut : ShapedBut calm worker number)
    {updated : Process Body} (own : updated.Shaped (calm number)) :
    Shaped calm (worker.setProcess number updated) := by
  intro index other found
  by_cases same : index = number
  · rw [Worker.setProcess, same, List.getElem?_set_self'] at found
    obtain ⟨_, _, rfl⟩ := Option.map_eq_some_iff.mp found
    rw [same]
    exact own
  · rw [Worker.setProcess, List.getElem?_set_ne (Ne.symm same)] at found
    exact shapedBut index other found same

/-- Whatever becomes of the process left out, the others are shaped. -/
theorem ShapedBut.setOwn (shapedBut : ShapedBut calm worker number)
    (updated : Process Body) :
    ShapedBut calm (worker.setProcess number updated) number := by
  intro other process found different
  rw [Worker.setProcess, List.getElem?_set_ne (Ne.symm different)] at found
  exact shapedBut other process found different

theorem newProcess_shaped (calm : Prop) (lane : LaneName)
    (batch : Batch (Delivery Body) BatchKey) :
    (newProcess lane batch).Shaped calm := by
  intro item member
  obtain ⟨delivery, _, rfl⟩ := List.mem_map.mp member
  rfl

theorem Shaped.create (shaped : Shaped calm worker) (lane : LaneName)
    (batch : Batch (Delivery Body) BatchKey) :
    Shaped calm
      { worker with
        processes := worker.processes ++ [newProcess lane batch] } := by
  intro index other found
  rcases ListUpdate.found_concat found with before | ⟨_, rfl⟩
  · exact shaped index other before
  · exact newProcess_shaped _ lane batch

/-- `_process` from a state in which every item can be checked. -/
theorem ShapedBut.runProcess (shapedBut : ShapedBut calm worker number)
    (checkable : ∀ item ∈ process.items, item.IsCheckable)
    (readings : Nat → Instant) (now : Instant) :
    Shaped calm
      (worker.runProcess environment number process readings now) := by
  have kept := markLive_all_kept checkable
  have runs :=
    runProcess_runs environment worker number process readings now
  generalize worker.runProcess environment number process readings now =
    result at runs
  cases runs with
  | @expires before after item split unchecked late =>
      have recorded : ∀ events,
          ShapedBut calm (worker.record events) number :=
        fun events => shapedBut.same rfl
      rw [split] at checkable
      refine (recorded _).setProcess ⟨?_, ?_⟩
      · have present : ∀ expiring : Item Body,
            (before.map Process.markLive ++ expiring ::
              after)[before.length]? = some expiring := by
          intro expiring
          simp
        exact ⟨_, _, present _, rfl, expire_pending _ _⟩
      · intro index other otherFound different
        have around := mem_around_of_ne otherFound (by simpa using different)
        rcases around with marked | later
        · obtain ⟨source, sourceMember, rfl⟩ := List.mem_map.mp marked
          exact Or.inr (markLive_kept
            (checkable source (List.mem_append_left _ sourceMember)))
        · exact checkable other
            (List.mem_append_right _ (List.mem_cons_of_mem _ later))
  | ends nothingLive =>
      refine shapedBut.setProcess (fun _ => ⟨rfl, ?_⟩)
      intro item member
      exact Or.inl (gone_of_noneLive kept nothingLive item member)
  | enters someLive inside =>
      have changed : Shaped calm (worker.setProcess number
          { process.allLive with state := .encoding none }) :=
        shapedBut.setProcess kept
      exact changed.same rfl
  | queues someLive outside =>
      have changed : Shaped calm (worker.setProcess number
          { process.allLive with state := .queued }) :=
        shapedBut.setProcess kept
      exact changed.same rfl

theorem Shaped.answerExpiry (shaped : Shaped calm worker)
    (found : worker.processes[number]? = some process) {position : Nat}
    (state : process.state = .expiring position) {item : Item Body}
    {settling : Settling Body} {call : BrokerCall} {how : Ending}
    (itemFound : process.items[position]? = some item)
    (awaited : settling.call? = some call)
    (uncancelled : calm number → how ≠ .cancelled)
    (quiet : calm number → call ≠ .publish → how ≠ .raised)
    (readings : Nat → Instant) (now : Instant) :
    Shaped calm (worker.answerExpiry environment number process position
      item settling how readings now) := by
  have own := shaped number process found
  rw [Process.Shaped, state] at own
  obtain ⟨_, others⟩ := own
  have goesOn : calm number →
      (settling.resume process.lane item.delivery.message
          how).1 = .ended .returned ∨
        (settling.resume process.lane item.delivery.message
          how).1.IsPending :=
    fun isCalm => resume_quiet awaited (quiet isCalm) (uncancelled isCalm)
  have inside := (List.getElem?_eq_some_iff.mp itemFound).1
  have othersKept : ∀ (updated : Item Body) index other,
      (process.items.set position updated)[index]? = some other →
        index ≠ position → other.IsCheckable := by
    intro updated index other otherFound different
    rw [List.getElem?_set_ne (Ne.symm different)] at otherFound
    exact others index other otherFound different
  have recorded : ∀ events, ShapedBut calm (worker.record events) number :=
    fun events => (shaped.but number).same rfl
  have answers := answerExpiry_answers environment worker number process
    position item settling how readings now
  generalize worker.answerExpiry environment number process position item
    settling how readings now = result at answers
  generalize settling.resume process.lane item.delivery.message how =
    segment at answers goesOn
  cases answers with
  | continues returned =>
      refine ((recorded _).setOwn _).runProcess ?_ readings now
      intro other member
      obtain ⟨index, otherFound⟩ := List.mem_iff_getElem?.mp member
      by_cases own : index = position
      · rw [own, List.getElem?_set_self inside] at otherFound
        cases otherFound
        exact Or.inr (Or.inr (congrArg ItemState.expiring returned))
      · exact othersKept _ index other otherFound own
  | leaves failed ended =>
      refine ((recorded _).setOwn _).setProcess ?_
      intro isCalm
      rcases goesOn isCalm with returned | ⟨call, pending⟩
      · rw [returned] at ended
        cases ended
        exact False.elim (failed rfl)
      · rw [ended] at pending
        cases pending
  | awaits unended =>
      refine (recorded _).setProcess ?_
      rw [Process.Shaped]
      simp only [state]
      refine ⟨⟨_, _, List.getElem?_set_self inside, rfl,
        pending_of_unended unended⟩, ?_⟩
      exact othersKept _

/-- Outcomes and their settlements are found at the `gather`, or left behind
by a process that has failed. -/
theorem gathering_of_shaped {calm : Prop} (shaped : process.Shaped calm)
    {item : Item Body} (member : item ∈ process.items)
    (occupied : (∃ outcome, item.state = .scheduled outcome) ∨
      ∃ settling, item.state = .finishing settling ∧ settling.IsPending) :
    process.state = .gathering ∨
      ¬ calm ∧ ∃ how, process.state = .ended how := by
  have unchecked : item.state ≠ .unchecked := by
    rcases occupied with ⟨outcome, state⟩ | ⟨settling, state, _⟩ <;>
      simp [state]
  have notLive : item.state ≠ .live := by
    rcases occupied with ⟨outcome, state⟩ | ⟨settling, state, _⟩ <;>
      simp [state]
  have notExpiring : ∀ settling, item.state ≠ .expiring settling := by
    intro other
    rcases occupied with ⟨outcome, state⟩ | ⟨settling, state, _⟩ <;>
      simp [state]
  have notKept : ¬ item.IsKept := by
    intro kept
    exact kept.elim notLive (notExpiring _)
  rw [Process.Shaped] at shaped
  cases state : process.state with
  | created =>
      rw [state] at shaped
      exact False.elim (unchecked (shaped item member))
  | expiring position =>
      rw [state] at shaped
      obtain ⟨⟨expiring, settling, present, itemState, _⟩, others⟩ := shaped
      obtain ⟨index, found⟩ := List.mem_iff_getElem?.mp member
      by_cases own : index = position
      · rw [own, present] at found
        cases found
        exact False.elim (notExpiring _ itemState)
      · rcases others index item found own with raw | kept
        · exact False.elim (unchecked raw)
        · exact False.elim (notKept kept)
  | queued =>
      rw [state] at shaped
      exact False.elim (notKept (shaped item member))
  | encoding outcomes =>
      rw [state] at shaped
      exact False.elim (notKept (shaped item member))
  | gathering =>
      exact Or.inl rfl
  | ended how =>
      rw [state] at shaped
      refine Or.inr ⟨?_, how, rfl⟩
      intro isCalm
      rcases (shaped isCalm).2 item member with gone | finished
      · exact notExpiring _ gone
      · rcases occupied with ⟨outcome, scheduled⟩ | ⟨_, finishing, pending⟩
        · rw [finished] at scheduled
          cases scheduled
        · rw [finished] at finishing
          cases finishing
          obtain ⟨call, awaited⟩ := pending
          cases awaited

/-- A `_finish` task moves its item. -/
theorem Shaped.setItem (shaped : Shaped calm worker)
    (found : worker.processes[number]? = some process) {position : Nat}
    {item updated : Item Body}
    (itemFound : process.items[position]? = some item)
    (occupied : (∃ outcome, item.state = .scheduled outcome) ∨
      ∃ settling, item.state = .finishing settling ∧ settling.IsPending)
    (moved : updated.InGather (calm number)) :
    Shaped calm (worker.setItem number process position updated) := by
  have own := shaped number process found
  refine (shaped.but number).setProcess ?_
  rcases gathering_of_shaped own (List.mem_of_getElem? itemFound)
      occupied with gathering | ⟨failed, how, ended⟩
  · rw [Process.Shaped, gathering] at own
    rw [Process.Shaped]
    simp only [gathering]
    intro other member
    rcases List.mem_or_eq_of_mem_set member with old | new
    · exact own other old
    · rw [new]
      exact moved
  · rw [Process.Shaped]
    simp only [ended]
    exact fun isCalm => False.elim (failed isCalm)

/-- What is over in a calm `gather` is done. -/
theorem done_of_inGather {calm : Prop} (isCalm : calm) {item : Item Body}
    (gathered : item.InGather calm) :
    Process.finishRaised item = false ∧
      (Process.itemOver item = true → item.IsDone) := by
  rcases gathered with gone | ⟨outcome, scheduled⟩ |
    ⟨settling, finishing, goesOn⟩
  · exact ⟨by simp [Process.finishRaised, show item.state = _ from gone],
      fun _ => Or.inl gone⟩
  · simp [Process.finishRaised, Process.itemOver, scheduled]
  · rcases goesOn isCalm with returned | ⟨call, awaited⟩
    · rw [returned] at finishing
      exact ⟨by simp [Process.finishRaised, finishing],
        fun _ => Or.inr finishing⟩
    · cases settling <;>
        simp_all [Process.finishRaised, Process.itemOver, Settling.call?]

theorem Shaped.endGather (shaped : Shaped calm worker)
    (graced : calm number → worker.graceExpired = false)
    (found : worker.processes[number]? = some process)
    (state : process.state = .gathering)
    (finished : process.items.all Process.itemOver = true ∨
      process.items.any Process.finishRaised = true ∧
        process.items.all Process.finishBegun = true) :
    Shaped calm (worker.endProcess number process
      (worker.gatherEnding process)) := by
  have own := shaped number process found
  rw [Process.Shaped, state] at own
  refine (shaped.but number).setProcess ?_
  intro isCalm
  have unraised : process.items.any Process.finishRaised = false := by
    rw [List.any_eq_false]
    intro item member raised
    rw [(done_of_inGather isCalm (own item member)).1] at raised
    cases raised
  have allOver : process.items.all Process.itemOver = true := by
    refine finished.resolve_right (fun raises => ?_)
    rw [unraised] at raises
    exact Bool.false_ne_true raises.1
  refine ⟨?_, ?_⟩
  · simp [Worker.gatherEnding, graced isCalm, unraised]
  · intro item member
    exact (done_of_inGather isCalm (own item member)).2
      (List.all_eq_true.mp allOver item member)

theorem Shaped.collectOutcomes (shaped : Shaped calm worker)
    (found : worker.processes[number]? = some process)
    {outcomes : List Outcome}
    (state : process.state = .encoding (some outcomes))
    {Fitting : EmbeddingJob → Outcome → Prop}
    (fitting : List.Forall₂ Fitting (Process.liveJobs process.items)
      outcomes) :
    Shaped calm (worker.collectOutcomes number process outcomes) := by
  have own := shaped number process found
  rw [Process.Shaped, state] at own
  have left : ShapedBut calm
      { worker with slot := worker.slot.next (.leave number) } number :=
    (shaped.but number).same rfl
  refine left.setProcess ?_
  intro item member
  obtain ⟨source, sourceMember, same | ⟨_, given, _, same⟩⟩ :=
    forall₂_mem_right (Process.assignOutcomes_spec fitting) member
  · rcases own source sourceMember with live | gone
    · exact False.elim (same.2 live)
    · rw [same.1]
      exact Or.inl gone
  · rw [same]
    exact Or.inr (Or.inl ⟨given, rfl⟩)

theorem Shaped.endThread (shaped : Shaped calm worker) (position : Nat)
    (thread : EncodeThread) (outcomes : List Outcome) :
    Shaped calm (worker.endThread position thread outcomes) := by
  unfold Worker.endThread
  dsimp only
  split
  · next process processFound =>
      split
      · next encoding =>
          have own := shaped _ process processFound
          rw [Process.Shaped, encoding] at own
          have changed : Shaped calm (worker.setProcess thread.process
              { process with state := .encoding (some outcomes) }) :=
            (shaped.but _).setProcess own
          exact changed.same rfl
      · exact shaped.same rfl
  · exact shaped.same rfl

/-- Every step keeps the items and their processes in step; a calm process
asks that its calls return, that its attempts can be read, and that nothing is
cancelled. -/
theorem Shaped.step (shaped : Shaped calm worker)
    {Allowed : EncodeCall → EngineReply → Prop}
    {Good : EmbeddingJob → EmbeddingResult → Prop}
    (outcomesGood : OutcomesGood Allowed Good worker)
    {action : WorkerAction Body}
    (graced : ∀ number, calm number → worker.graceExpired = false)
    (settles : ∀ number, calm number → action.SettlesFor worker number)
    (taken : WorkerStep environment worker action after) :
    Shaped calm after := by
  have unexpired : ∀ number, calm number → worker.graceExpired ≠ true := by
    intro number isCalm
    rw [graced number isCalm]
    exact Bool.false_ne_true
  cases taken with
  | receive consuming connected fresh =>
      unfold Worker.receive
      dsimp only
      split <;> exact shaped.same rfl
  | takeBatch loop running ready =>
      exact (shaped.create _ _).same rfl
  | startProcess found state running =>
      have own := shaped _ _ found
      rw [Process.Shaped, state] at own
      exact (shaped.but _).runProcess
        (fun item member => Or.inl (own item member)) _ _
  | answerExpiry found state itemFound itemState awaited running =>
      refine shaped.answerExpiry found state itemFound awaited ?_
        (fun isCalm => settles _ isCalm rfl) _ _
      intro isCalm cancelled
      exact unexpired _ isCalm (running.mp cancelled)
  | @enterSlot number process now found state running resolved =>
      have own := shaped _ _ found
      rw [Process.Shaped, state] at own
      have changed : Shaped calm (worker.setProcess number
          { process with state := .encoding none }) :=
        (shaped.but number).setProcess own
      exact changed.same rfl
  | endThread found finished =>
      exact shaped.endThread _ _ _
  | collectOutcomes found state running =>
      exact shaped.collectOutcomes found state
        (outcomesGood.encoded _ (List.mem_of_getElem? found) _ state)
  | @startFinish number position process item outcome found itemFound
      itemState running =>
      refine (shaped.setItem found itemFound
        (Or.inl ⟨outcome, itemState⟩) ?_).same rfl
      refine Or.inr (Or.inr ⟨_, rfl, fun isCalm => Or.inr ?_⟩)
      refine finish_pending item.delivery outcome ?_
      intro raised indexed failed
      rw [failed] at itemState
      exact settles _ isCalm rfl process item raised found indexed itemFound
        itemState
  | @answerFinish number position process item settling call how found
      itemFound itemState awaited running cancelled =>
      refine (shaped.setItem found itemFound
        (Or.inr ⟨settling, itemState, call, awaited⟩) ?_).same rfl
      refine Or.inr (Or.inr ⟨_, rfl, fun isCalm => ?_⟩)
      refine resume_quiet awaited (settles _ isCalm rfl) ?_
      intro isCancelled
      exact unexpired _ isCalm (cancelled isCancelled)
  | @cancelFinish number position process item outcome found itemFound
      itemState cancelled =>
      refine shaped.setItem found itemFound (Or.inl ⟨outcome, itemState⟩) ?_
      exact Or.inr (Or.inr ⟨_, rfl,
        fun isCalm => False.elim (unexpired _ isCalm cancelled)⟩)
  | endGather found state finished =>
      exact shaped.endGather (graced _) found state finished
  | @cancelProcess number process found state cancelled =>
      have changed : Shaped calm
          (worker.endProcess number process .cancelled) :=
        (shaped.but _).setProcess
          (fun isCalm => False.elim (unexpired _ isCalm cancelled))
      exact changed.same rfl
  | drainBatch draining =>
      exact (shaped.create _ _).same rfl
  | drainedBatch draining found state =>
      unfold Worker.drainedBatch
      split <;> exact shaped.same rfl
  | _ =>
      exact shaped.same rfl

theorem runProcess_graced (environment : Environment Body)
    (worker : Worker Body) (number : Nat) (process : Process Body)
    (readings : Nat → Instant) (now : Instant) :
    (worker.runProcess environment number process readings
      now).graceExpired = worker.graceExpired := by
  have runs :=
    runProcess_runs environment worker number process readings now
  generalize worker.runProcess environment number process readings now =
    result at runs
  cases runs <;> rfl

/-- The grace period ends in one step only. -/
theorem graceExpired_step {action : WorkerAction Body}
    (before : action ≠ .graceOver)
    (taken : WorkerStep environment worker action after) :
    after.graceExpired = worker.graceExpired := by
  cases taken with
  | receive consuming connected fresh =>
      unfold Worker.receive
      dsimp only
      split <;> rfl
  | startProcess found state running =>
      exact runProcess_graced _ _ _ _ _ _
  | answerExpiry found state itemFound itemState awaited running =>
      unfold Worker.answerExpiry
      dsimp only
      split
      · exact runProcess_graced _ _ _ _ _ _
      · rfl
      · rfl
  | endThread found finished =>
      unfold Worker.endThread
      dsimp only
      split
      · split <;> rfl
      · rfl
  | graceOver timed running =>
      exact False.elim (before rfl)
  | drainedBatch draining found state =>
      unfold Worker.drainedBatch
      split <;> rfl
  | _ =>
      rfl

end Steps

/-- Every process fits, and nothing was cancelled. -/
structure QuietWorker {Body : Type} (worker : Worker Body) : Prop where
  graced : worker.graceExpired = false
  fits : ∀ process ∈ worker.processes, process.Fits

section Quiet

variable {Body : Type} {environment : Environment Body}
  {worker after : Worker Body} {number : Nat} {process : Process Body}

theorem QuietWorker.found (quietWorker : QuietWorker worker)
    (found : worker.processes[number]? = some process) : process.Fits :=
  quietWorker.fits process (List.mem_of_getElem? found)

/-- Every quiet step keeps the items and their processes in step. -/
theorem QuietWorker.step (quietWorker : QuietWorker worker)
    {Allowed : EncodeCall → EngineReply → Prop}
    {Good : EmbeddingJob → EmbeddingResult → Prop}
    (outcomesGood : OutcomesGood Allowed Good worker)
    {action : WorkerAction Body} (quiet : action.Quiet)
    (read : AttemptsRead after)
    (taken : WorkerStep environment worker action after) :
    QuietWorker after where
  graced := by
    rw [graceExpired_step ?_ taken]
    · exact quietWorker.graced
    · intro same
      rw [same] at quiet
      exact quiet
  fits := by
    have shaped : Shaped (fun _ => True) worker :=
      fun _ _ found => (quietWorker.found found).shaped True
    have shapedAfter := shaped.step outcomesGood
      (fun _ _ => quietWorker.graced)
      (fun number _ => quiet.settlesFor read taken number) taken
    intro other member
    obtain ⟨index, found⟩ := List.mem_iff_getElem?.mp member
    exact (shapedAfter index other found).fits

end Quiet

end EmbeddingService
