import Mathlib.Tactic.Linarith
import EmbeddingService.Batcher.MicroBatcherRuns

/-!
# When items are due

A group is stamped with the clock reading of its first item and keeps the stamp
when it is split or refilled.  Under a clock that does not go back the stamp
is a lower bound for the arrivals of all items that are pending in the group.
-/

namespace EmbeddingService

universe u v

variable {Item : Type u} {Key : Type v}

namespace MicroBatcher

def Full (config : MicroBatcherConfig Item Key) (group : Group Item) :
    Prop :=
  config.maxTexts ≤ group.texts

def Expired (config : MicroBatcherConfig Item Key) (now : Seconds)
    (group : Group Item) : Prop :=
  config.windowS ≤ now - group.firstAdded

section ReadyKey

variable {config : MicroBatcherConfig Item Key} {now : Seconds}
  {key : Key} {group : Group Item} {rest : List (Key × Group Item)}

theorem readyKey_of_full {due : Option (Seconds × Key)}
    (full : Full config group) :
    readyKey config now due ((key, group) :: rest) = some key := by
  rw [readyKey.eq_def]
  exact if_pos full

theorem readyKey_of_expired (notFull : ¬ Full config group)
    (expired : Expired config now group) :
    readyKey config now none ((key, group) :: rest) =
      readyKey config now (some (group.firstAdded, key)) rest := by
  rw [readyKey]
  exact (if_neg notFull).trans (if_pos expired)

theorem readyKey_of_better {best : Seconds × Key}
    (notFull : ¬ Full config group) (expired : Expired config now group)
    (earlier : group.firstAdded < best.1) :
    readyKey config now (some best) ((key, group) :: rest) =
      readyKey config now (some (group.firstAdded, key)) rest := by
  rw [readyKey]
  exact ((if_neg notFull).trans (if_pos expired)).trans (if_pos earlier)

theorem readyKey_of_later {best : Seconds × Key}
    (notFull : ¬ Full config group)
    (later : best.1 ≤ group.firstAdded) :
    readyKey config now (some best) ((key, group) :: rest) =
      readyKey config now (some best) rest := by
  rw [readyKey]
  refine (if_neg notFull).trans ?_
  split
  · exact if_neg (not_lt.mpr later)
  · rfl

theorem readyKey_of_young {due : Option (Seconds × Key)}
    (notFull : ¬ Full config group)
    (young : ¬ Expired config now group) :
    readyKey config now due ((key, group) :: rest) =
      readyKey config now due rest := by
  rw [readyKey.eq_def]
  exact (if_neg notFull).trans (if_neg young)

/-- A group that is not full is passed, for better or worse. -/
theorem readyKey_of_notFull (due : Option (Seconds × Key))
    (notFull : ¬ Full config group) :
    ∃ later, (later = due ∨ later = some (group.firstAdded, key)) ∧
      readyKey config now due ((key, group) :: rest) =
        readyKey config now later rest := by
  by_cases expired : Expired config now group
  · cases due with
    | none =>
        exact ⟨_, Or.inr rfl, readyKey_of_expired notFull expired⟩
    | some best =>
        by_cases earlier : group.firstAdded < best.1
        · exact ⟨_, Or.inr rfl,
            readyKey_of_better notFull expired earlier⟩
        · exact ⟨_, Or.inl rfl,
            readyKey_of_later notFull (not_lt.mp earlier)⟩
  · exact ⟨_, Or.inl rfl, readyKey_of_young notFull expired⟩

end ReadyKey

/-- Nothing is chosen exactly when no group is full or expired. -/
theorem readyKey_eq_none_iff (config : MicroBatcherConfig Item Key)
    (now : Seconds) (entries : List (Key × Group Item)) :
    readyKey config now none entries = none ↔
      ∀ entry ∈ entries,
        ¬ Full config entry.2 ∧ ¬ Expired config now entry.2 := by
  induction entries with
  | nil =>
      simp [readyKey]
  | cons entry rest inductionHypothesis =>
      obtain ⟨key, group⟩ := entry
      rw [List.forall_mem_cons, ← inductionHypothesis]
      by_cases full : Full config group
      · rw [readyKey_of_full full]
        simp [full]
      · by_cases expired : Expired config now group
        · obtain ⟨chosen, ready, _⟩ :=
            readyKey_of_due config now rest (group.firstAdded, key)
          rw [readyKey_of_expired full expired, ready]
          simp [expired]
        · rw [readyKey_of_young full expired]
          simp [full, expired]

/-- What is chosen is stored. -/
theorem readyKey_mem (config : MicroBatcherConfig Item Key)
    (now : Seconds) (entries : List (Key × Group Item)) {key : Key}
    (ready : readyKey config now none entries = some key) :
    ∃ group, (key, group) ∈ entries := by
  induction entries with
  | nil =>
      cases ready
  | cons entry rest inductionHypothesis =>
      obtain ⟨first, group⟩ := entry
      by_cases full : Full config group
      · rw [readyKey_of_full full] at ready
        cases ready
        exact ⟨group, List.mem_cons_self⟩
      · by_cases expired : Expired config now group
        · obtain ⟨chosen, chosenReady, known⟩ :=
            readyKey_of_due config now rest (group.firstAdded, first)
          rw [readyKey_of_expired full expired, chosenReady] at ready
          cases ready
          rcases known with same | ⟨other, member⟩
          · rw [same]
            exact ⟨group, List.mem_cons_self⟩
          · exact ⟨other, List.mem_cons_of_mem _ member⟩
        · rw [readyKey_of_young full expired] at ready
          obtain ⟨other, member⟩ := inductionHypothesis ready
          exact ⟨other, List.mem_cons_of_mem _ member⟩

variable [DecidableEq Key]

/-- `take_ready` finds nothing exactly when no group is full or expired. -/
theorem takeReady_eq_none_iff (config : MicroBatcherConfig Item Key)
    (batcher : MicroBatcher Item Key) (now : Seconds) :
    batcher.takeReady config now = none ↔
      ∀ key group, batcher.groups.lookup key = some group →
        ¬ Full config group ∧ ¬ Expired config now group := by
  have chosen : batcher.takeReady config now = none ↔
      readyKey config now none batcher.groups.entries = none := by
    constructor
    · intro nothing
      cases ready :
          readyKey config now none batcher.groups.entries with
      | none =>
          rfl
      | some key =>
          obtain ⟨group, member⟩ := readyKey_mem config now _ ready
          have stored :=
            (batcher.groups.lookup_eq_some_iff key group).mpr member
          rw [takeReady, ready, Option.bind_some, pop, stored] at nothing
          cases nothing
    · intro nothing
      rw [takeReady, nothing]
      rfl
  rw [chosen, readyKey_eq_none_iff]
  constructor
  · intro idle key group stored
    exact idle (key, group)
      ((batcher.groups.lookup_eq_some_iff key group).mp stored)
  · intro idle entry member
    exact idle entry.1 entry.2
      ((batcher.groups.lookup_eq_some_iff _ _).mpr member)

/-- Every group after some calls has the stamp of a group before them. -/
def StampsFrom (before after : MicroBatcher Item Key) : Prop :=
  ∀ key group, after.groups.lookup key = some group →
    ∃ earlier, before.groups.lookup key = some earlier ∧
      group.firstAdded = earlier.firstAdded

theorem popGroup_stampsFrom (config : MicroBatcherConfig Item Key)
    (batcher : MicroBatcher Item Key) {key : Key} {group : Group Item}
    (stored : batcher.groups.lookup key = some group) :
    StampsFrom batcher (batcher.popGroup config key group).2 := by
  intro other found after
  rcases (popGroup_lookup_iff config batcher key other group found).mp after
    with ⟨_, untouched⟩ | left
  · exact ⟨found, untouched, rfl⟩
  · obtain ⟨_, entryEqual⟩ := (mem_leftovers_iff config key group _).mp left
    injection entryEqual with keyEqual foundEqual
    rw [keyEqual, foundEqual]
    exact ⟨group, stored, rfl⟩

theorem drain_stampsFrom (config : MicroBatcherConfig Item Key)
    (batcher : MicroBatcher Item Key) :
    StampsFrom batcher (batcher.drain config).2 := by
  intro key group stored
  rw [(OrderedDict.lookup_eq_some_iff _ _ _), drain_empties] at stored
  cases stored

end MicroBatcher

/-! ## Arrivals -/

/-- The clock reading of a call. -/
def BatcherCall.reading? : BatcherCall Item → Option Seconds
  | .add now _ => some now
  | .takeReady now => some now
  | .drain => none

/-- An added item with the reading at which it arrived. -/
def BatcherCall.arrival? : BatcherCall Item → Option (Item × Seconds)
  | .add now item => some (item, now)
  | _ => none

namespace BatcherHistory

variable [DecidableEq Key]

/-- The items pending under a key with their arrivals: what was released under
the key are its first items. -/
def pendingArrivals (config : MicroBatcherConfig Item Key)
    (history : BatcherHistory Item Key) (arrivals : List (Item × Seconds))
    (key : Key) : List (Item × Seconds) :=
  (arrivals.filter (fun arrival => config.keyOf arrival.1 = key)).drop
    (releasedOf history.released key).length

/-- The stamp of a group is a reading that was made, and no later than the
arrival of any item pending in the group. -/
structure Stamped (config : MicroBatcherConfig Item Key)
    (history : BatcherHistory Item Key) (arrivals : List (Item × Seconds))
    (readings : List Seconds) : Prop where
  conserved : Conserved config history
  arrived : arrivals.map Prod.fst = history.added
  read : ∀ key group, history.batcher.groups.lookup key = some group →
    group.firstAdded ∈ readings
  earliest : ∀ key group, history.batcher.groups.lookup key = some group →
    ∀ arrival ∈ pendingArrivals config history arrivals key,
      group.firstAdded ≤ arrival.2

variable {config : MicroBatcherConfig Item Key}
  {history : BatcherHistory Item Key} {arrivals : List (Item × Seconds)}
  {readings : List Seconds}

theorem stamped_start (config : MicroBatcherConfig Item Key) :
    Stamped config {} [] [] where
  conserved := conserved_start config
  arrived := rfl
  read := by
    intro key group stored
    cases stored
  earliest := by
    intro key group stored
    cases stored

theorem pendingArrivals_items (conserved : Conserved config history)
    (arrived : arrivals.map Prod.fst = history.added) (key : Key) :
    (pendingArrivals config history arrivals key).map Prod.fst =
      history.batcher.pendingOf key := by
  have balance := conserved.balance key
  rw [← arrived, List.filter_map] at balance
  rw [pendingArrivals, List.map_drop]
  change ((arrivals.filter ((fun item => decide (config.keyOf item = key)) ∘
    Prod.fst)).map Prod.fst).drop _ = _
  rw [← balance, List.drop_left]

/-- What is released only shortens what is pending. -/
theorem pendingArrivals_release (config : MicroBatcherConfig Item Key)
    {later : BatcherHistory Item Key} {released : List (Batch Item Key)}
    (grown : later.released = history.released ++ released)
    (arrivals : List (Item × Seconds)) (key : Key) :
    ∀ arrival ∈ pendingArrivals config later arrivals key,
      arrival ∈ pendingArrivals config history arrivals key := by
  intro arrival member
  have longer : (releasedOf later.released key).length =
      (releasedOf history.released key).length +
        (releasedOf released key).length := by
    rw [grown, releasedOf, List.filter_append, List.flatMap_append,
      List.length_append]
    rfl
  rw [pendingArrivals, longer, ← List.drop_drop] at member
  exact List.mem_of_mem_drop member

/-- A release keeps the stamps of the groups it leaves. -/
theorem Stamped.release (stamped : Stamped config history arrivals readings)
    {later : BatcherHistory Item Key} {released : List (Batch Item Key)}
    (conserved : Conserved config later)
    (added : later.added = history.added)
    (grown : later.released = history.released ++ released)
    (left : MicroBatcher.StampsFrom history.batcher later.batcher) :
    Stamped config later arrivals readings where
  conserved := conserved
  arrived := by
    rw [added]
    exact stamped.arrived
  read := by
    intro key group stored
    obtain ⟨earlier, earlierStored, same⟩ := left key group stored
    rw [same]
    exact stamped.read key earlier earlierStored
  earliest := by
    intro key group stored arrival member
    obtain ⟨earlier, earlierStored, same⟩ := left key group stored
    rw [same]
    exact stamped.earliest key earlier earlierStored arrival
      (pendingArrivals_release config grown arrivals key arrival member)

theorem mem_pendingArrivals_add {now : Seconds} {item : Item} {key : Key}
    {arrival : Item × Seconds}
    (member : arrival ∈ pendingArrivals config
      (history.call config (.add now item)) (arrivals ++ [(item, now)])
      key) :
    arrival ∈ pendingArrivals config history arrivals key ∨
      arrival = (item, now) ∧ config.keyOf item = key := by
  rw [pendingArrivals, List.filter_append, List.drop_append] at member
  rcases List.mem_append.mp member with old | new
  · exact Or.inl old
  · have added := List.mem_filter.mp (List.mem_of_mem_drop new)
    have same := List.mem_singleton.mp added.1
    refine Or.inr ⟨same, ?_⟩
    rw [same] at added
    exact of_decide_eq_true added.2

/-- A refilled group keeps its stamp, and a new one is stamped with the
reading of its first item. -/
theorem Stamped.add (stamped : Stamped config history arrivals readings)
    (now : Seconds) (item : Item)
    (forward : ∀ reading ∈ readings, reading ≤ now) :
    Stamped config (history.call config (.add now item))
      (arrivals ++ [(item, now)]) (readings ++ [now]) := by
  have stamp : ∀ key group,
      (history.call config (.add now item)).batcher.groups.lookup key =
          some group →
        (∃ earlier, history.batcher.groups.lookup key = some earlier ∧
          group.firstAdded = earlier.firstAdded) ∨
        history.batcher.groups.lookup key = none ∧
          group.firstAdded = now := by
    intro key group stored
    by_cases same : key = config.keyOf item
    · rw [same] at stored ⊢
      simp only [call, MicroBatcher.add, OrderedDict.lookup_assign_self,
        Option.some.injEq] at stored
      cases found : history.batcher.groups.lookup (config.keyOf item) with
      | none =>
          refine Or.inr ⟨rfl, ?_⟩
          rw [← stored, found]
          rfl
      | some earlier =>
          refine Or.inl ⟨earlier, rfl, ?_⟩
          rw [← stored, found]
          rfl
    · simp only [call, MicroBatcher.add,
        OrderedDict.lookup_assign_of_ne _ _ same] at stored
      exact Or.inl ⟨group, stored, rfl⟩
  exact
    { conserved := stamped.conserved.add now item
      arrived := by
        rw [List.map_append, stamped.arrived]
        rfl
      read := by
        intro key group stored
        rcases stamp key group stored with
          ⟨earlier, earlierStored, same⟩ | ⟨_, same⟩
        · rw [same]
          exact List.mem_append_left _
            (stamped.read key earlier earlierStored)
        · rw [same]
          exact List.mem_append_right _ (List.mem_singleton_self now)
      earliest := by
        intro key group stored arrival member
        rcases stamp key group stored with
          ⟨earlier, earlierStored, same⟩ | ⟨absent, same⟩
        · rw [same]
          rcases mem_pendingArrivals_add member with old | ⟨new, _⟩
          · exact stamped.earliest key earlier earlierStored arrival old
          · rw [new]
            exact forward _ (stamped.read key earlier earlierStored)
        · rw [same]
          rcases mem_pendingArrivals_add member with old | ⟨new, _⟩
          · have items := pendingArrivals_items stamped.conserved
              stamped.arrived key
            have none : history.batcher.pendingOf key = [] := by
              rw [MicroBatcher.pendingOf, absent]
              rfl
            rw [none, List.map_eq_nil_iff] at items
            rw [items] at old
            cases old
          · rw [new] }

theorem Stamped.readMore
    (stamped : Stamped config history arrivals readings)
    (more : List Seconds) :
    Stamped config history arrivals (readings ++ more) where
  conserved := stamped.conserved
  arrived := stamped.arrived
  read := fun key group stored =>
    List.mem_append_left _ (stamped.read key group stored)
  earliest := stamped.earliest

theorem Stamped.call (stamped : Stamped config history arrivals readings)
    (made : BatcherCall Item)
    (forward : ∀ now ∈ made.reading?, ∀ reading ∈ readings,
      reading ≤ now) :
    Stamped config (history.call config made)
      (arrivals ++ made.arrival?.toList)
      (readings ++ made.reading?.toList) := by
  cases made with
  | add now item =>
      exact stamped.add now item (forward now rfl)
  | takeReady now =>
      have kept : Stamped config
          (history.call config (.takeReady now)) arrivals readings := by
        have conserved := stamped.conserved.takeReady now
        cases taken : history.batcher.takeReady config now with
        | none =>
            simpa only [BatcherHistory.call, taken] using stamped
        | some result =>
            obtain ⟨key, _, popped⟩ := Option.bind_eq_some_iff.mp taken
            obtain ⟨group, stored, resultEqual⟩ :=
              Option.map_eq_some_iff.mp popped
            have left :=
              MicroBatcher.popGroup_stampsFrom config history.batcher stored
            rw [resultEqual] at left
            simp only [BatcherHistory.call, taken] at conserved ⊢
            exact stamped.release conserved rfl rfl left
      have read := kept.readMore [now]
      simpa [BatcherCall.arrival?, BatcherCall.reading?] using read
  | drain =>
      have left :=
        MicroBatcher.drain_stampsFrom config history.batcher
      have kept := stamped.release stamped.conserved.drain rfl rfl left
      simpa [BatcherCall.arrival?, BatcherCall.reading?] using kept

/-- A run of calls whose readings do not go back. -/
theorem Stamped.run (calls : List (BatcherCall Item)) :
    ∀ {history : BatcherHistory Item Key}
      {arrivals : List (Item × Seconds)} {readings : List Seconds},
      Stamped config history arrivals readings →
      (readings ++ calls.filterMap BatcherCall.reading?).Pairwise
        (· ≤ ·) →
      Stamped config (calls.foldl (BatcherHistory.call config) history)
        (arrivals ++ calls.filterMap BatcherCall.arrival?)
        (readings ++ calls.filterMap BatcherCall.reading?) := by
  induction calls with
  | nil =>
      intro history arrivals readings stamped forward
      simpa using stamped
  | cons made rest inductionHypothesis =>
      intro history arrivals readings stamped forward
      have arrivalsSplit : (made :: rest).filterMap BatcherCall.arrival? =
          made.arrival?.toList ++ rest.filterMap BatcherCall.arrival? := by
        cases made <;> rfl
      have readingsSplit : (made :: rest).filterMap BatcherCall.reading? =
          made.reading?.toList ++ rest.filterMap BatcherCall.reading? := by
        cases made <;> rfl
      rw [readingsSplit] at forward ⊢
      rw [arrivalsSplit, ← List.append_assoc, ← List.append_assoc]
      rw [← List.append_assoc] at forward
      refine inductionHypothesis (stamped.call made ?_) forward
      intro now makes reading member
      have earlier := (List.pairwise_append.mp
        (List.pairwise_append.mp forward).1).2.2
      exact earlier reading member now (Option.mem_toList.mpr makes)

/-- Under a clock that does not go back: every pending item arrived no earlier
than the stamp of its group, so `take_ready` finds a batch from one window
after any of these arrivals on; and it finds none exactly when every group
holds fewer than `maxTexts` texts and is younger than the window. -/
theorem itemsDueInTime (config : MicroBatcherConfig Item Key)
    (calls : List (BatcherCall Item))
    (forward :
      (calls.filterMap BatcherCall.reading?).Pairwise (· ≤ ·)) :
    let history := calls.foldl (BatcherHistory.call config) {}
    let arrivals := pendingArrivals config history
      (calls.filterMap BatcherCall.arrival?)
    (∀ key group, history.batcher.groups.lookup key = some group →
      (arrivals key).map Prod.fst = group.items ∧
        ∀ arrival ∈ arrivals key, group.firstAdded ≤ arrival.2) ∧
    (∀ key, ∀ arrival ∈ arrivals key, ∀ now,
      arrival.2 + config.windowS ≤ now →
        ∃ batch rest,
          history.batcher.takeReady config now = some (batch, rest)) ∧
    ∀ now, history.batcher.takeReady config now = none ↔
      ∀ key group, history.batcher.groups.lookup key = some group →
        group.texts < config.maxTexts ∧
          now - group.firstAdded < config.windowS := by
  intro history arrivals
  have stamped : Stamped config history
      (calls.filterMap BatcherCall.arrival?)
      (calls.filterMap BatcherCall.reading?) :=
    Stamped.run calls (stamped_start config) forward
  refine ⟨?_, ?_, ?_⟩
  · intro key group stored
    refine ⟨?_, stamped.earliest key group stored⟩
    rw [pendingArrivals_items stamped.conserved stamped.arrived,
      MicroBatcher.pendingOf, stored]
    rfl
  · intro key arrival member now late
    have items :=
      pendingArrivals_items stamped.conserved stamped.arrived key
    cases found : history.batcher.groups.lookup key with
    | none =>
        rw [MicroBatcher.pendingOf, found] at items
        have none : arrivals key = [] := List.map_eq_nil_iff.mp items
        rw [none] at member
        cases member
    | some group =>
        have early := stamped.earliest key group found arrival member
        cases taken : history.batcher.takeReady config now with
        | some result =>
            exact ⟨result.1, result.2, rfl⟩
        | none =>
            have idle :=
              (MicroBatcher.takeReady_eq_none_iff config _ now).mp taken
                key group found
            refine False.elim (idle.2 ?_)
            rw [MicroBatcher.Expired]
            linarith
  · intro now
    rw [MicroBatcher.takeReady_eq_none_iff]
    simp only [MicroBatcher.Full, MicroBatcher.Expired, not_le]

/-- A leftover of a full group is due one window after its own arrival. -/
theorem itemsDueInTime_leftover :
    let config : MicroBatcherConfig Nat Unit :=
      { maxTexts := 2
        maxTextsPositive := by decide
        window := 5
        sizeOf := fun _ => 1
        keyOf := fun _ => () }
    let history := [.add 0 10, .add 1 11, .add 2 12, .takeReady 2].foldl
      (BatcherHistory.call config) {}
    ∃ batch rest,
      history.batcher.takeReady config 7 = some (batch, rest) := by
  intro config history
  have forward : ([0, 1, 2, 2] : List Seconds).Pairwise (· ≤ ·) := by
    simp
  exact (itemsDueInTime config
    [.add 0 10, .add 1 11, .add 2 12, .takeReady 2] forward).2.1 ()
      (12, 2) (.head _) 7 (by norm_num [MicroBatcherConfig.windowS, config])

end BatcherHistory

end EmbeddingService
