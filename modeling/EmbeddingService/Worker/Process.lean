import EmbeddingService.Worker.Step

/-!
# The expiry loop and the outcomes of a batch

What the two list loops of `_process` do: the check of the deadlines, and the
zip of the deliveries with the outcomes of their encode.
-/

namespace EmbeddingService

namespace Process

variable {Body : Type}

/-- An item after its deadline was found to lie ahead. -/
def markLive (item : Item Body) : Item Body :=
  match item.state with
  | .unchecked => { item with state := .live }
  | _ => item

@[simp]
theorem markLive_delivery (item : Item Body) :
    (markLive item).delivery = item.delivery := by
  unfold markLive
  split <;> rfl

theorem markLive_of_unchecked {item : Item Body}
    (unchecked : item.state = .unchecked) :
    markLive item = { item with state := .live } := by
  simp [markLive, unchecked]

theorem markLive_of_checked {item : Item Body}
    (checked : item.state ≠ .unchecked) : markLive item = item := by
  unfold markLive
  split
  · next unchecked =>
      exact False.elim (checked unchecked)
  · rfl

/-- The expiry loop either finds no expired item among the unchecked ones and
keeps them all, or stops at the first expired one. -/
theorem checkExpiry_cases (environment : Environment Body)
    (workerId : PyStr) (lane : LaneName) (readings : Nat → Instant)
    (items : List (Item Body)) :
    ∀ position,
      (checkExpiry environment workerId lane readings position items =
          ((items.map markLive, none), []) ∧
        ∀ index item, items[index]? = some item →
          item.state = .unchecked →
          isExpired item.delivery.job (readings (position + index)) =
            false) ∨
      ∃ before item after,
        items = before ++ item :: after ∧
        item.state = .unchecked ∧
        isExpired item.delivery.job
          (readings (position + before.length)) = true ∧
        checkExpiry environment workerId lane readings position items =
          ((before.map markLive ++
              { item with
                state := .expiring
                  (expire environment workerId lane item.delivery
                    (readings (position + before.length))).1 } :: after,
            some (position + before.length)),
            (expire environment workerId lane item.delivery
              (readings (position + before.length))).2) := by
  induction items with
  | nil =>
      intro position
      exact Or.inl ⟨rfl, by simp⟩
  | cons first rest inductionHypothesis =>
      intro position
      by_cases stops : first.state = .unchecked ∧
          isExpired first.delivery.job (readings position) = true
      · refine Or.inr ⟨[], first, rest, rfl, stops.1, stops.2, ?_⟩
        simp [checkExpiry, stops.1, stops.2]
      · have continues :
            checkExpiry environment workerId lane readings position
                (first :: rest) =
              ((markLive first ::
                  (checkExpiry environment workerId lane readings
                    (position + 1) rest).1.1,
                (checkExpiry environment workerId lane readings
                  (position + 1) rest).1.2),
                (checkExpiry environment workerId lane readings
                  (position + 1) rest).2) := by
          by_cases unchecked : first.state = .unchecked
          · have early : isExpired first.delivery.job (readings position) =
                false := by
              simpa using fun late => stops ⟨unchecked, late⟩
            simp [checkExpiry, markLive, unchecked, early]
          · rw [markLive_of_checked unchecked, checkExpiry]
            split
            · next found =>
                exact False.elim (unchecked found)
            · rfl
        have shift : ∀ length, position + 1 + length =
            position + (length + 1) := by
          intro length
          omega
        rcases inductionHypothesis (position + 1) with
          ⟨result, early⟩ |
            ⟨before, item, after, split, unchecked, late, result⟩
        · refine Or.inl ⟨?_, ?_⟩
          · rw [continues, result, List.map_cons]
          · intro index item found unchecked
            cases index with
            | zero =>
                have same : first = item := by
                  simpa using found
                subst same
                simpa using fun late => stops ⟨unchecked, late⟩
            | succ index =>
                rw [← shift]
                exact early index item (by simpa using found) unchecked
        · refine Or.inr ⟨first :: before, item, after, ?_, unchecked, ?_, ?_⟩
          · rw [split, List.cons_append]
          · rw [List.length_cons, ← shift]
            exact late
          · rw [continues, result, List.length_cons, List.map_cons,
              List.cons_append, shift before.length]

theorem mem_liveJobs_iff {items : List (Item Body)} {job : EmbeddingJob} :
    job ∈ liveJobs items ↔
      ∃ item ∈ items, item.state = .live ∧ item.delivery.job = job := by
  unfold liveJobs
  rw [List.mem_map]
  constructor
  · rintro ⟨delivery, member, same⟩
    obtain ⟨item, itemMember, kept⟩ := List.mem_filterMap.mp member
    unfold liveDelivery at kept
    split at kept
    · next live =>
        cases kept
        exact ⟨item, itemMember, live, same⟩
    · cases kept
  · rintro ⟨item, member, live, same⟩
    refine ⟨item.delivery, List.mem_filterMap.mpr ⟨item, member, ?_⟩, same⟩
    simp [liveDelivery, live]

theorem liveDelivery_of_ne {item : Item Body}
    (notLive : item.state ≠ .live) : liveDelivery item = none := by
  cases state : item.state <;>
    simp_all [liveDelivery]

theorem liveJobs_cons_live {item : Item Body} {rest : List (Item Body)}
    (live : item.state = .live) :
    liveJobs (item :: rest) = item.delivery.job :: liveJobs rest := by
  simp [liveJobs, liveDelivery, live]

theorem liveJobs_cons_of_ne {item : Item Body} {rest : List (Item Body)}
    (notLive : item.state ≠ .live) :
    liveJobs (item :: rest) = liveJobs rest := by
  rw [liveJobs, List.filterMap_cons, liveDelivery_of_ne notLive, liveJobs]

/-- The outcomes of the live items, in order, and nothing else. -/
theorem assignOutcomes_spec {items : List (Item Body)}
    {outcomes : List Outcome} {Fits : EmbeddingJob → Outcome → Prop}
    (fits : List.Forall₂ Fits (liveJobs items) outcomes) :
    List.Forall₂
      (fun item assigned =>
        assigned = item ∧ item.state ≠ .live ∨
          item.state = .live ∧
            ∃ outcome, Fits item.delivery.job outcome ∧
              assigned = { item with state := .scheduled outcome })
      items (assignOutcomes items outcomes) := by
  induction items generalizing outcomes with
  | nil =>
      exact List.Forall₂.nil
  | cons item rest inductionHypothesis =>
      by_cases live : item.state = .live
      · rw [liveJobs_cons_live live] at fits
        cases fits with
        | @cons _ outcome _ others fit othersFit =>
            have assigned : assignOutcomes (item :: rest)
                  (outcome :: others) =
                { item with state := .scheduled outcome } ::
                  assignOutcomes rest others := by
              simp only [assignOutcomes, live]
            rw [assigned]
            exact List.Forall₂.cons
              (Or.inr ⟨live, outcome, fit, rfl⟩)
              (inductionHypothesis othersFit)
      · rw [liveJobs_cons_of_ne live] at fits
        have unassigned : assignOutcomes (item :: rest) outcomes =
            item :: assignOutcomes rest outcomes := by
          rw [assignOutcomes]
          intro _ _ found _
          exact live found
        rw [unassigned]
        exact List.Forall₂.cons (Or.inl ⟨rfl, live⟩)
          (inductionHypothesis fits)

end Process

section Segments

variable {Body : Type} (environment : Environment Body)
  (worker : Worker Body) (number : Nat) (process : Process Body)

/-- The slot after `_process` has asked for it. -/
def Worker.askedSlot : SlotSystem Nat :=
  worker.slot.next (.acquire number
    (laneSpecs environment.settings process.lane).priority)

/-- The process once every deadline was found to lie ahead. -/
def Process.allLive (process : Process Body) : Process Body :=
  { process with items := process.items.map Process.markLive }

/-- The ways `_process` can run to its next await: into `_expire` for one
item, to its end because nothing is live, into the slot and its thread, or
into the queue of the slot. -/
inductive ProcessRun (readings : Nat → Instant) (now : Instant) :
    Worker Body → Prop
  | expires {before after : List (Item Body)} {item : Item Body}
      (split : process.items = before ++ item :: after)
      (unchecked : item.state = .unchecked)
      (late : isExpired item.delivery.job (readings before.length) = true) :
      ProcessRun readings now
        ((worker.record
            (expire environment worker.workerId process.lane item.delivery
              (readings before.length)).2).setProcess number
          { process with
            items := before.map Process.markLive ++
              { item with
                state := .expiring
                  (expire environment worker.workerId process.lane
                    item.delivery (readings before.length)).1 } :: after
            state := .expiring before.length })
  | ends
      (nothingLive : Process.liveJobs process.allLive.items = []) :
      ProcessRun readings now
        (worker.setProcess number
          { process.allLive with state := .ended .returned })
  | enters
      (someLive : Process.liveJobs process.allLive.items ≠ [])
      (inside : (worker.askedSlot environment number process).callers
        number = .inside) :
      ProcessRun readings now
        ({ worker with
            slot := worker.askedSlot environment number process
          }.startEncode environment number process.allLive now)
  | queues
      (someLive : Process.liveJobs process.allLive.items ≠ [])
      (outside : (worker.askedSlot environment number process).callers
        number ≠ .inside) :
      ProcessRun readings now
        ({ worker with
            slot := worker.askedSlot environment number process
          }.setProcess number { process.allLive with state := .queued })

theorem record_nil : worker.record [] = worker := by
  simp [Worker.record]

theorem runProcess_runs (readings : Nat → Instant) (now : Instant) :
    ProcessRun environment worker number process readings now
      (worker.runProcess environment number process readings now) := by
  unfold Worker.runProcess
  rcases Process.checkExpiry_cases environment worker.workerId process.lane
      readings process.items 0 with
    ⟨checked, _⟩ | ⟨before, item, after, split, unchecked, late, checked⟩
  · simp only [checked, record_nil]
    split
    · next nothingLive =>
        exact ProcessRun.ends (List.isEmpty_iff.mp nothingLive)
    · next someLive =>
        have live : Process.liveJobs process.allLive.items ≠ [] := by
          simpa [Process.allLive] using someLive
        split
        · next inside =>
            exact ProcessRun.enters live inside
        · next outside =>
            exact ProcessRun.queues live outside
  · simp only [Nat.zero_add] at late checked
    simp only [checked]
    exact ProcessRun.expires split unchecked late

/-- A worker whose process has got an answer for the `_expire` it awaits. -/
def Worker.answeredExpiry (position : Nat) (item : Item Body)
    (segment : Segment Body (Settling Body)) : Worker Body :=
  (worker.record segment.2).setProcess number
    { process with
      items := process.items.set position
        { item with state := .expiring segment.1 } }

theorem answeredExpiry_found
    {worker : Worker Body} {number : Nat} {process : Process Body}
    (found : worker.processes[number]? = some process) (position : Nat)
    (item : Item Body) (segment : Segment Body (Settling Body)) :
    (worker.answeredExpiry number process position item
        segment).processes[number]? =
      some { process with
        items := process.items.set position
          { item with state := .expiring segment.1 } } := by
  have inside : number < worker.processes.length :=
    (List.getElem?_eq_some_iff.mp found).1
  simp [Worker.answeredExpiry, Worker.setProcess, Worker.record, inside]

/-- The ways `_process` can go on after an answer to a call of `_expire`: with
its loop, to its end, or to the next call of the same `_expire`. -/
inductive ExpiryAnswer (position : Nat) (item : Item Body)
    (segment : Segment Body (Settling Body)) (readings : Nat → Instant)
    (now : Instant) : Worker Body → Prop
  | continues (returned : segment.1 = .ended .returned) :
      ExpiryAnswer position item segment readings now
        ((worker.answeredExpiry number process position item
            segment).runProcess environment number
          { process with
            items := process.items.set position
              { item with state := .expiring segment.1 } }
          readings now)
  | leaves {how : Ending} (failed : how ≠ .returned)
      (ended : segment.1 = .ended how) :
      ExpiryAnswer position item segment readings now
        ((worker.answeredExpiry number process position item
            segment).setProcess number
          { process with
            items := process.items.set position
              { item with state := .expiring segment.1 }
            state := .ended how })
  | awaits (pending : ∀ how, segment.1 ≠ .ended how) :
      ExpiryAnswer position item segment readings now
        (worker.answeredExpiry number process position item segment)

theorem answerExpiry_answers (position : Nat) (item : Item Body)
    (settling : Settling Body) (how : Ending) (readings : Nat → Instant)
    (now : Instant) :
    ExpiryAnswer environment worker number process position item
      (settling.resume process.lane item.delivery.message how) readings now
      (worker.answerExpiry environment number process position item settling
        how readings now) := by
  unfold Worker.answerExpiry
  dsimp only
  split
  · next returned =>
      exact ExpiryAnswer.continues returned
  · next other failed ended =>
      exact ExpiryAnswer.leaves failed ended
  · next pending unended =>
      exact ExpiryAnswer.awaits (fun how ended => unended how ended)

end Segments

end EmbeddingService
