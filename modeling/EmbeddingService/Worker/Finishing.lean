import EmbeddingService.Worker.Discipline

/-!
# Finished index jobs

The outcome of an encode decides how `_finish` settles an index delivery, and
nothing but `_finish` settles it: a failed job is nacked, with requeue below
the delivery limit, and a result is published before the delivery is acked.
-/

namespace EmbeddingService

section Items

variable {Body : Type} {environment : Environment Body}
  {worker after : Worker Body} {number : Nat} {process : Process Body}
  {lane : LaneName} {item : Item Body}

/-- A process on the lane has this item. -/
def Worker.HasItem (worker : Worker Body) (lane : LaneName)
    (item : Item Body) : Prop :=
  ∃ process ∈ worker.processes, process.lane = lane ∧ item ∈ process.items

def Item.IsFinishing (item : Item Body) : Prop :=
  ∃ settling, item.state = .finishing settling

theorem hasItem_of_getElem (found : worker.processes[number]? = some process)
    {position : Nat} (itemFound : process.items[position]? = some item) :
    worker.HasItem process.lane item :=
  ⟨process, List.mem_of_getElem? found, rfl, List.mem_of_getElem? itemFound⟩

/-- An item after a change of one process is one of that process, or was there
before. -/
theorem hasItem_setProcess {updated : Process Body}
    (has : (worker.setProcess number updated).HasItem lane item) :
    worker.HasItem lane item ∨ updated.lane = lane ∧ item ∈ updated.items := by
  obtain ⟨other, member, sameLane, itemMember⟩ := has
  rcases List.mem_or_eq_of_mem_set member with old | new
  · exact Or.inl ⟨other, old, sameLane, itemMember⟩
  · rw [new] at sameLane itemMember
    exact Or.inr ⟨sameLane, itemMember⟩

theorem finishing_markLive {items : List (Item Body)}
    (finishing : item.IsFinishing)
    (member : item ∈ items.map Process.markLive) : item ∈ items := by
  obtain ⟨source, sourceMember, rfl⟩ := List.mem_map.mp member
  obtain ⟨settling, state⟩ := finishing
  have checked : source.state ≠ .unchecked := by
    intro unchecked
    rw [Process.markLive_of_unchecked unchecked] at state
    cases state
  rw [Process.markLive_of_checked checked]
  exact sourceMember

theorem finishing_assignOutcomes {items : List (Item Body)}
    (finishing : item.IsFinishing) :
    ∀ outcomes, item ∈ Process.assignOutcomes items outcomes →
      item ∈ items := by
  obtain ⟨settling, state⟩ := finishing
  induction items with
  | nil =>
      intro outcomes member
      exact member
  | cons first rest inductionHypothesis =>
      intro outcomes member
      rw [Process.assignOutcomes.eq_def] at member
      dsimp only at member
      split at member
      · rcases List.mem_cons.mp member with assigned | later
        · rw [assigned] at state
          cases state
        · exact List.mem_cons_of_mem _ (inductionHypothesis _ later)
      · rcases List.mem_cons.mp member with same | later
        · rw [same]
          exact List.mem_cons_self
        · exact List.mem_cons_of_mem _ (inductionHypothesis _ later)

/-- The expiry loop finishes nothing. -/
theorem finishing_runProcess
    (found : worker.processes[number]? = some process)
    (finishing : item.IsFinishing) (readings : Nat → Instant)
    (now : Instant)
    (has : (worker.runProcess environment number process readings
      now).HasItem lane item) : worker.HasItem lane item := by
  have own : process.lane = lane → item ∈ process.items →
      worker.HasItem lane item :=
    fun sameLane member =>
      ⟨process, List.mem_of_getElem? found, sameLane, member⟩
  have runs :=
    runProcess_runs environment worker number process readings now
  generalize worker.runProcess environment number process readings now =
    result at runs has
  cases runs with
  | @expires before rest expired split unchecked late =>
      rcases hasItem_setProcess has with old | ⟨sameLane, member⟩
      · exact old
      · refine own sameLane ?_
        rw [split]
        rcases List.mem_append.mp member with marked | later
        · exact List.mem_append_left _ (finishing_markLive finishing marked)
        · rcases List.mem_cons.mp later with expiring | unread
          · obtain ⟨settling, state⟩ := finishing
            rw [expiring] at state
            cases state
          · exact List.mem_append_right _ (List.mem_cons_of_mem _ unread)
  | ends nothingLive =>
      rcases hasItem_setProcess has with old | ⟨sameLane, member⟩
      · exact old
      · exact own sameLane (finishing_markLive finishing member)
  | enters someLive inside =>
      rcases hasItem_setProcess has with old | ⟨sameLane, member⟩
      · exact old
      · exact own sameLane (finishing_markLive finishing member)
  | queues someLive outside =>
      rcases hasItem_setProcess has with old | ⟨sameLane, member⟩
      · exact old
      · exact own sameLane (finishing_markLive finishing member)

theorem finishing_answerExpiry
    (found : worker.processes[number]? = some process)
    (finishing : item.IsFinishing) (position : Nat) (expired : Item Body)
    (settling : Settling Body) (how : Ending) (readings : Nat → Instant)
    (now : Instant)
    (has : (worker.answerExpiry environment number process position expired
      settling how readings now).HasItem lane item) :
    worker.HasItem lane item := by
  have kept : ∀ segment : Segment Body (Settling Body), process.lane = lane →
      item ∈ process.items.set position
        { expired with state := .expiring segment.1 } →
        worker.HasItem lane item := by
    intro segment sameLane member
    rcases List.mem_or_eq_of_mem_set member with old | new
    · exact ⟨process, List.mem_of_getElem? found, sameLane, old⟩
    · obtain ⟨ending, state⟩ := finishing
      rw [new] at state
      cases state
  have answered : ∀ segment,
      (worker.answeredExpiry number process position expired
        segment).HasItem lane item → worker.HasItem lane item := by
    intro segment hasAfter
    rcases hasItem_setProcess hasAfter with old | ⟨sameLane, member⟩
    · exact old
    · exact kept segment sameLane member
  have answers := answerExpiry_answers environment worker number process
    position expired settling how readings now
  generalize worker.answerExpiry environment number process position expired
    settling how readings now = result at answers has
  cases answers with
  | continues returned =>
      exact answered _ (finishing_runProcess
        (answeredExpiry_found found position expired _) finishing readings
        now has)
  | leaves failed ended =>
      rcases hasItem_setProcess has with old | ⟨sameLane, member⟩
      · exact answered _ old
      · exact kept _ sameLane member
  | awaits pending =>
      exact answered _ has

/-- How `_finish` can have come to where it stands for a delivery: it stood
there before, it has begun with an outcome, a call was answered, or it was
cancelled. -/
inductive FinishingFrom (environment : Environment Body)
    (worker after : Worker Body) (lane : LaneName)
    (delivery : Delivery Body) : Settling Body → Prop
  | kept {settling : Settling Body}
      (had : worker.HasItem lane
        { delivery := delivery, state := .finishing settling }) :
      FinishingFrom environment worker after lane delivery settling
  | started {outcome : Outcome}
      (had : worker.HasItem lane
        { delivery := delivery, state := .scheduled outcome })
      (log : after.log = worker.log ++
        (finish environment worker.workerId lane delivery outcome).2) :
      FinishingFrom environment worker after lane delivery
        (finish environment worker.workerId lane delivery outcome).1
  | answered {earlier : Settling Body} {call : BrokerCall} {how : Ending}
      (had : worker.HasItem lane
        { delivery := delivery, state := .finishing earlier })
      (awaited : earlier.call? = some call)
      (log : after.log = worker.log ++
        (earlier.resume lane delivery.message how).2) :
      FinishingFrom environment worker after lane delivery
        (earlier.resume lane delivery.message how).1
  | cancelled :
      FinishingFrom environment worker after lane delivery (.ended .cancelled)

/-- The item that a step sets, or one that was there. -/
theorem finishingFrom_setItem {delivery : Delivery Body}
    {settling : Settling Body} {position : Nat} {updated : Item Body}
    (found : worker.processes[number]? = some process)
    (has : (worker.setItem number process position updated).HasItem lane
      { delivery := delivery, state := .finishing settling })
    (own : process.lane = lane →
      { delivery := delivery, state := .finishing settling } = updated →
        FinishingFrom environment worker after lane delivery settling) :
    FinishingFrom environment worker after lane delivery settling := by
  rcases hasItem_setProcess has with old | ⟨sameLane, member⟩
  · exact .kept old
  · rcases List.mem_or_eq_of_mem_set member with old | new
    · exact .kept ⟨process, List.mem_of_getElem? found, sameLane, old⟩
    · exact own sameLane new

theorem not_hasItem_newProcess {batch : Batch (Delivery Body) BatchKey}
    {name : LaneName} (finishing : item.IsFinishing) :
    item ∉ (newProcess name batch).items := by
  intro member
  obtain ⟨delivery, _, rfl⟩ := List.mem_map.mp member
  obtain ⟨settling, state⟩ := finishing
  cases state

/-- The inversion of the steps of `_finish`. -/
theorem finishing_step {action : WorkerAction Body}
    {delivery : Delivery Body} {settling : Settling Body}
    (taken : WorkerStep environment worker action after)
    (has : after.HasItem lane
      { delivery := delivery, state := .finishing settling }) :
    FinishingFrom environment worker after lane delivery settling := by
  have finishing : Item.IsFinishing
      { delivery := delivery, state := .finishing settling } :=
    ⟨settling, rfl⟩
  have created : ∀ name (batch : Batch (Delivery Body) BatchKey),
      (∃ process ∈ worker.processes ++ [newProcess name batch],
        process.lane = lane ∧
          { delivery := delivery, state := .finishing settling } ∈
            process.items) →
        FinishingFrom environment worker after lane delivery settling := by
    rintro name batch ⟨process, member, sameLane, itemMember⟩
    rcases List.mem_append.mp member with old | new
    · exact .kept ⟨process, old, sameLane, itemMember⟩
    · rw [List.mem_singleton.mp new] at itemMember
      exact False.elim (not_hasItem_newProcess finishing itemMember)
  cases taken with
  | receive consuming connected fresh =>
      refine .kept ?_
      unfold Worker.receive at has
      dsimp only at has
      split at has <;> exact has
  | takeBatch loop running taken =>
      exact created _ _ has
  | drainBatch draining =>
      exact created _ _ has
  | startProcess found state running =>
      exact .kept (finishing_runProcess found finishing _ _ has)
  | answerExpiry found state itemFound itemState awaited running =>
      exact .kept (finishing_answerExpiry found finishing _ _ _ _ _ _ has)
  | enterSlot found state running resolved =>
      rcases hasItem_setProcess has with old | ⟨sameLane, member⟩
      · exact .kept old
      · exact .kept ⟨_, List.mem_of_getElem? found, sameLane, member⟩
  | endThread found finished =>
      refine .kept ?_
      unfold Worker.endThread at has
      dsimp only at has
      split at has
      · next process processFound =>
          split at has
          · rcases hasItem_setProcess has with old | ⟨sameLane, member⟩
            · exact old
            · exact ⟨_, List.mem_of_getElem? processFound, sameLane, member⟩
          · exact has
      · exact has
  | collectOutcomes found state running =>
      rcases hasItem_setProcess has with old | ⟨sameLane, member⟩
      · exact .kept old
      · exact .kept ⟨_, List.mem_of_getElem? found, sameLane,
          finishing_assignOutcomes finishing _ member⟩
  | @startFinish number position process item outcome found itemFound
      itemState running =>
      refine finishingFrom_setItem found has ?_
      rintro rfl same
      cases item
      cases itemState
      cases same
      exact .started (hasItem_of_getElem found itemFound) rfl
  | @answerFinish number position process item earlier call how found
      itemFound itemState awaited running cancelled =>
      refine finishingFrom_setItem found has ?_
      rintro rfl same
      cases item
      cases itemState
      cases same
      exact .answered (hasItem_of_getElem found itemFound) awaited rfl
  | cancelFinish found itemFound itemState cancelled =>
      refine finishingFrom_setItem found has ?_
      intro _ same
      cases same
      exact .cancelled
  | endGather found state finished =>
      rcases hasItem_setProcess has with old | ⟨sameLane, member⟩
      · exact .kept old
      · exact .kept ⟨_, List.mem_of_getElem? found, sameLane, member⟩
  | cancelProcess found state cancelled =>
      rcases hasItem_setProcess has with old | ⟨sameLane, member⟩
      · exact .kept old
      · exact .kept ⟨_, List.mem_of_getElem? found, sameLane, member⟩
  | drainedBatch draining found state =>
      refine .kept ?_
      unfold Worker.drainedBatch at has
      split at has <;> exact has
  | _ =>
      exact .kept has

end Items

section Outcomes

variable {Body : Type} {environment : Environment Body}
  {Allowed : EncodeCall → EngineReply → Prop}
  {Fits : EmbeddingJob → Outcome → Prop}
  {Good : EmbeddingJob → EmbeddingResult → Prop}
  {worker after : Worker Body} {workerId : PyStr} {delivery : Delivery Body}
  {log : List (Event Body)} {outcome : Outcome} {settling : Settling Body}

/-- `_finish` requeues a failed index job below the delivery limit. -/
def requeuesFailure (environment : Environment Body)
    (attempt : Int) : Bool :=
  !decide (environment.settings.indexDeliveryLimit ≤ attempt)

/-- A result is published, and the delivery is acked once the broker has
confirmed the reply. -/
def ResultSent (environment : Environment Body) (workerId : PyStr)
    (message : Message Body) (result : EmbeddingResult)
    (log : List (Event Body)) (settling : Settling Body) : Prop :=
  ∃ body replyTo, environment.dumpResult result = some body ∧
    message.replyTo = some replyTo ∧
    let reply :=
      replyMessage environment workerId .index message result replyTo body
    .published .index message reply ∈ log ∧
      (settling = .publishing result true reply ∨
        .confirmed .index message reply ∈ log ∧
          .acked .index message ∈ log)

/-- What `_finish` has done for an index delivery whose reply was asked for,
by the outcome of its encode; it can fail only in the reply, or at a header
that cannot be read. -/
def IndexFinish (environment : Environment Body) (workerId : PyStr)
    (delivery : Delivery Body) (log : List (Event Body)) :
    Outcome → Settling Body → Prop
  | .error _, _ =>
      ∀ attempt, deliveryAttempt delivery.message = .ok attempt →
        .nacked .index delivery.message
          (requeuesFailure environment attempt) ∈ log
  | .ok result, settling =>
      truthy delivery.message.replyTo = true →
        .replyFailed .index delivery.message result true ∈ log ∨
          settling = .ended .cancelled ∨
          ResultSent environment workerId delivery.message result log
            settling

theorem ResultSent.mono {message : Message Body} {result : EmbeddingResult}
    (sent : ResultSent environment workerId message result log settling)
    {longer : List (Event Body)} (grows : log ⊆ longer) :
    ResultSent environment workerId message result longer settling := by
  obtain ⟨body, replyTo, dumped, asked, published, next⟩ := sent
  refine ⟨body, replyTo, dumped, asked, grows published, ?_⟩
  exact next.imp_right (fun done => ⟨grows done.1, grows done.2⟩)

theorem IndexFinish.mono
    (finish : IndexFinish environment workerId delivery log outcome settling)
    {longer : List (Event Body)} (grows : log ⊆ longer) :
    IndexFinish environment workerId delivery longer outcome settling := by
  cases outcome with
  | error raised =>
      intro attempt read
      exact grows (finish attempt read)
  | ok result =>
      intro asked
      rcases finish asked with failed | cancelled | sent
      · exact Or.inl (grows failed)
      · exact Or.inr (Or.inl cancelled)
      · exact Or.inr (Or.inr (sent.mono grows))

/-- The first segment of `_finish`. -/
theorem indexFinish_finish (delivery : Delivery Body) (outcome : Outcome) :
    IndexFinish environment workerId delivery
      (finish environment workerId .index delivery outcome).2 outcome
      (finish environment workerId .index delivery outcome).1 := by
  cases outcome with
  | error raised =>
      intro attempt read
      rw [finish_of_read read]
      exact List.mem_cons_of_mem _ List.mem_cons_self
  | ok result =>
      intro asked
      have settled : finish environment workerId .index delivery
          (.ok result) =
            settle environment workerId .index delivery.message result
              true := rfl
      rw [settled]
      unfold settle
      split
      · next point rest replyTo =>
          split
          · exact Or.inl List.mem_cons_self
          · next body dumped =>
              exact Or.inr (Or.inr ⟨body, point :: rest, dumped, replyTo,
                List.mem_cons_self, Or.inl rfl⟩)
      · next unasked =>
          cases replyTo : delivery.message.replyTo with
          | none =>
              rw [replyTo] at asked
              cases asked
          | some text =>
              cases text with
              | nil =>
                  rw [replyTo] at asked
                  cases asked
              | cons point rest =>
                  exact False.elim (unasked point rest replyTo)

/-- An answer moves a reply that was published on; nothing else is left to
do. -/
theorem ResultSent.resume {message : Message Body} {result : EmbeddingResult}
    (sent : ResultSent environment workerId message result log settling)
    (how : Ending) :
    .replyFailed .index message result true ∈
        log ++ (settling.resume .index message how).2 ∨
      (settling.resume .index message how).1 = .ended .cancelled ∨
      ResultSent environment workerId message result
        (log ++ (settling.resume .index message how).2)
        (settling.resume .index message how).1 := by
  have grows : log ⊆ log ++ (settling.resume .index message how).2 :=
    List.subset_append_left _ _
  obtain ⟨body, replyTo, dumped, asked, published, publishing | acked⟩ :=
    sent
  · rw [publishing] at grows ⊢
    cases how with
    | returned =>
        refine Or.inr (Or.inr ⟨body, replyTo, dumped, asked,
          grows published, Or.inr ⟨?_, ?_⟩⟩)
        · exact List.mem_append_right _ List.mem_cons_self
        · exact List.mem_append_right _
            (List.mem_cons_of_mem _ List.mem_cons_self)
    | raised =>
        exact Or.inl (List.mem_append_right _ List.mem_cons_self)
    | cancelled =>
        exact Or.inr (Or.inl rfl)
  · exact Or.inr (Or.inr ⟨body, replyTo, dumped, asked, grows published,
      Or.inr ⟨grows acked.1, grows acked.2⟩⟩)

theorem IndexFinish.resume
    (finish : IndexFinish environment workerId delivery log outcome settling)
    {call : BrokerCall} (awaited : settling.call? = some call)
    (how : Ending) :
    IndexFinish environment workerId delivery
      (log ++ (settling.resume .index delivery.message how).2) outcome
      (settling.resume .index delivery.message how).1 := by
  cases outcome with
  | error raised =>
      intro attempt read
      exact List.mem_append_left _ (finish attempt read)
  | ok result =>
      intro asked
      rcases finish asked with failed | cancelled | sent
      · exact Or.inl (List.mem_append_left _ failed)
      · rw [cancelled] at awaited
        cases awaited
      · exact sent.resume how

/-- Where a `_finish` that was not cancelled stands follows from an outcome
that fits the job. -/
def Finished (environment : Environment Body)
    (Fits : EmbeddingJob → Outcome → Prop) (worker : Worker Body) : Prop :=
  ∀ delivery settling,
    worker.HasItem .index
        { delivery := delivery, state := .finishing settling } →
      settling = .ended .cancelled ∨
        ∃ outcome, Fits delivery.job outcome ∧
          ParsedAs environment worker.workerId delivery.message
            delivery.job ∧
          IndexFinish environment worker.workerId delivery worker.log
            outcome settling

theorem Worker.HasItem.cell {lane : LaneName} {item : Item Body}
    (has : worker.HasItem lane item) : item.cell lane ∈ worker.cells := by
  obtain ⟨process, member, rfl, itemMember⟩ := has
  refine Multiset.mem_add.mpr (Or.inr (mem_sum_map_iff.mpr
    ⟨process, member, ?_⟩))
  exact mem_processCells_iff.mpr ⟨item, itemMember, rfl⟩

/-- The log agrees with where every item stands. -/
theorem WorkerSound.item_agrees
    (sound : WorkerSound environment workerId Allowed Good worker)
    {lane : LaneName} {item : Item Body} (has : worker.HasItem lane item) :
    (item.cell lane).Agrees environment workerId Good worker.log :=
  sound.ledgerSound.agrees _ has.cell

/-- The delivery of every item was received. -/
theorem WorkerSound.item_received
    (sound : WorkerSound environment workerId Allowed Good worker)
    {lane : LaneName} {item : Item Body} (has : worker.HasItem lane item) :
    (lane, item.delivery.message) ∈ worker.ledger.received := by
  have origin : (item.cell lane).origin ∈ worker.ledger.cells.map Cell.origin :=
    Multiset.mem_map_of_mem _ has.cell
  exact Multiset.mem_of_le sound.ledgerSound.cellsReceived origin

theorem Finished.step (finished : Finished environment Fits worker)
    (sound : WorkerSound environment worker.workerId Allowed Good worker)
    (fit : OutcomesFit Allowed Fits worker) {action : WorkerAction Body}
    (taken : WorkerStep environment worker action after) :
    Finished environment Fits after := by
  intro delivery settling has
  rw [(identity_step taken).1]
  have inversion := finishing_step taken has
  cases inversion with
  | kept had =>
      rcases finished delivery settling had with
        cancelled | ⟨outcome, fits, parsed, finish⟩
      · exact Or.inl cancelled
      · obtain ⟨added, log⟩ := log_step taken
        refine Or.inr ⟨outcome, fits, parsed, finish.mono ?_⟩
        rw [log]
        exact List.subset_append_left _ _
  | @started outcome had log =>
      have parsed : ParsedAs environment worker.workerId delivery.message
          delivery.job := (sound.item_agrees had).1
      obtain ⟨process, member, _, itemMember⟩ := had
      refine Or.inr ⟨outcome,
        fit.scheduled process member _ itemMember outcome rfl, parsed, ?_⟩
      rw [log]
      exact (indexFinish_finish delivery outcome).mono
        (List.subset_append_right _ _)
  | @answered earlier call how had awaited log =>
      rcases finished delivery earlier had with
        cancelled | ⟨outcome, fits, parsed, finish⟩
      · rw [cancelled] at awaited
        cases awaited
      · refine Or.inr ⟨outcome, fits, parsed, ?_⟩
        rw [log]
        exact finish.resume awaited how
  | cancelled =>
      exact Or.inl rfl

theorem finished_start (lanes : List LaneName) :
    Finished environment Fits (Worker.start Body workerId lanes) := by
  rintro delivery settling ⟨process, member, _⟩
  cases member

/-- Two settlements of one delivery are the same call. -/
theorem WorkerSound.settles_unique
    (sound : WorkerSound environment workerId Allowed Good worker)
    {tag : Nat} {first second : Event Body} (firstMember : first ∈ worker.log)
    (secondMember : second ∈ worker.log)
    (firstSettles : first.settles tag = true)
    (secondSettles : second.settles tag = true) : first = second := by
  have once : settlements tag worker.log ≤ 1 :=
    (disciplined_of_justified sound.ledgerSound.justified).once tag
  rw [settlements, List.countP_eq_length_filter] at once
  have inFirst := List.mem_filter.mpr ⟨firstMember, firstSettles⟩
  have inSecond := List.mem_filter.mpr ⟨secondMember, secondSettles⟩
  cases called : worker.log.filter (Event.settles tag) with
  | nil =>
      rw [called] at inFirst
      cases inFirst
  | cons event rest =>
      rw [called] at once inFirst inSecond
      have alone : rest = [] := by
        simpa using once
      rw [alone] at inFirst inSecond
      exact (List.mem_singleton.mp inFirst).trans
        (List.mem_singleton.mp inSecond).symm

end Outcomes

end EmbeddingService
