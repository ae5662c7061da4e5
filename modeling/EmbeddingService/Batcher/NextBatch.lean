import EmbeddingService.Library.LabelledRuns
import EmbeddingService.Batcher.Turns

/-!
# Waiting for the next batch

The consumer of a batcher clears the event, tries `take_ready`, computes a
timeout and goes to sleep, one step at a time.  Items are added, groups are
split and time passes between any two of its steps.
-/

namespace EmbeddingService

open LabelledRuns

universe u v

variable {Item : Type u} {Key : Type v}

namespace MicroBatcher

/-- The earliest stamp of a stored group. -/
def oldest (batcher : MicroBatcher Item Key) : Option Seconds :=
  (batcher.groups.entries.map (fun entry => entry.2.firstAdded)).min?

/-- The timeout of `next_batch`: none while nothing is stored. -/
def timeout (config : MicroBatcherConfig Item Key)
    (batcher : MicroBatcher Item Key) (now : Seconds) : Option Seconds :=
  batcher.oldest.map (fun oldest => max (oldest + config.windowS - now) 0)

/-- Some stored group is expired from `due` on. -/
def DueBy (config : MicroBatcherConfig Item Key)
    (batcher : MicroBatcher Item Key) (due : Seconds) : Prop :=
  ∃ entry ∈ batcher.groups.entries,
    entry.2.firstAdded + config.windowS ≤ due

end MicroBatcher

/-- Where the consumer is in `next_batch`.  `byTimer` tells whether it was
woken by its timer; a waiting one remembers the reading its timeout was
computed from, when the wait began, and for when its timer is armed. -/
inductive Consumer where
  | outside
  | clearing (byTimer : Bool)
  | taking (byTimer : Bool)
  | computing
  | sleeping (reading : Seconds) (timeout : Option Seconds)
  | waiting (reading began : Seconds) (deadline : Option Seconds)
  deriving DecidableEq

/-- A batcher with its clock and its consumer.  `drained` tells whether it was
drained since the consumer last computed a timeout. -/
structure NextBatch (Item : Type u) (Key : Type v) where
  batcher : MicroBatcher Item Key := {}
  clock : Seconds
  consumer : Consumer := .outside
  drained : Bool := false

inductive NextBatchAction (Item : Type u) (Key : Type v) where
  | tick (later : Seconds)
  | add (item : Item)
  | reinsert (key : Key)
  | drain
  | enter
  | clear
  | take
  | compute
  | sleep
  | wakeByEvent
  | wakeByTimer

namespace NextBatch

variable [DecidableEq Key]

/-- One step of the consumer, of the clock, or of those who use the batcher
meanwhile: `add`, a `_pop` with leftovers, or `drain`. -/
inductive Step (config : MicroBatcherConfig Item Key) :
    NextBatch Item Key → NextBatchAction Item Key →
      NextBatch Item Key → Prop
  | tick {state : NextBatch Item Key} {later : Seconds} :
      state.clock ≤ later →
      Step config state (.tick later) { state with clock := later }
  | add {state : NextBatch Item Key} (item : Item) :
      Step config state (.add item)
        { state with
          batcher := state.batcher.add config state.clock item }
  | reinsert {state : NextBatch Item Key} {key : Key}
      {group : Group Item} :
      state.batcher.groups.lookup key = some group →
      MicroBatcher.leftovers config key group ≠ [] →
      Step config state (.reinsert key)
        { state with
          batcher := (state.batcher.popGroup config key group).2 }
  | drain {state : NextBatch Item Key} :
      Step config state .drain
        { state with
          batcher := (state.batcher.drain config).2
          drained := true }
  | enter {state : NextBatch Item Key} :
      state.consumer = .outside →
      Step config state .enter
        { state with consumer := .clearing false }
  | clear {state : NextBatch Item Key} {byTimer : Bool} :
      state.consumer = .clearing byTimer →
      Step config state .clear
        { state with
          batcher := { state.batcher with changed := false }
          consumer := .taking byTimer }
  | takeBatch {state : NextBatch Item Key} {byTimer : Bool}
      {batch : Batch Item Key} {rest : MicroBatcher Item Key} :
      state.consumer = .taking byTimer →
      state.batcher.takeReady config state.clock = some (batch, rest) →
      Step config state .take
        { state with
          batcher := rest
          consumer := .outside }
  | takeNothing {state : NextBatch Item Key} {byTimer : Bool} :
      state.consumer = .taking byTimer →
      state.batcher.takeReady config state.clock = none →
      Step config state .take { state with consumer := .computing }
  | compute {state : NextBatch Item Key} :
      state.consumer = .computing →
      Step config state .compute
        { state with
          consumer := .sleeping state.clock
            (state.batcher.timeout config state.clock)
          drained := false }
  | sleep {state : NextBatch Item Key} {reading : Seconds}
      {timeout : Option Seconds} :
      state.consumer = .sleeping reading timeout →
      Step config state .sleep
        { state with
          consumer := .waiting reading state.clock
            (timeout.map (fun timeout => state.clock + timeout)) }
  | wakeByEvent {state : NextBatch Item Key} {reading began : Seconds}
      {deadline : Option Seconds} :
      state.consumer = .waiting reading began deadline →
      state.batcher.changed = true →
      Step config state .wakeByEvent
        { state with consumer := .clearing false }
  | wakeByTimer {state : NextBatch Item Key} {reading began : Seconds}
      {deadline : Seconds} :
      state.consumer = .waiting reading began (some deadline) →
      deadline ≤ state.clock →
      Step config state .wakeByTimer
        { state with consumer := .clearing true }

variable {config : MicroBatcherConfig Item Key}
  {state after : NextBatch Item Key}

/-- No group is full unless the event is set. -/
def Rested (config : MicroBatcherConfig Item Key)
    (state : NextBatch Item Key) : Prop :=
  state.batcher.changed = false → ¬ state.batcher.FindsFull config

/-- A timeout computed at `reading` is the current one unless the event is
set, and some group is expired when it ends unless all were drained. -/
structure Timed (config : MicroBatcherConfig Item Key)
    (state : NextBatch Item Key) (reading : Seconds)
    (timeout : Option Seconds) : Prop where
  current : state.batcher.changed = false →
    ∀ oldest, state.batcher.oldest = some oldest →
      timeout = some (max (oldest + config.windowS - reading) 0)
  due : state.drained = false →
    ∀ length, timeout = some length →
      state.batcher.DueBy config (reading + length)

/-- What the consumer may rely on, wherever it is. -/
def Agrees (config : MicroBatcherConfig Item Key)
    (state : NextBatch Item Key) : Consumer → Prop
  | .outside => True
  | .clearing byTimer =>
      byTimer = true → state.drained = false →
        state.batcher.DueBy config state.clock
  | .taking byTimer =>
      byTimer = true → state.drained = false →
        state.batcher.DueBy config state.clock
  | .computing => Rested config state
  | .sleeping reading timeout =>
      reading ≤ state.clock ∧ Rested config state ∧
        Timed config state reading timeout
  | .waiting reading began deadline =>
      reading ≤ began ∧ Rested config state ∧
        ∃ timeout, Timed config state reading timeout ∧
          deadline = timeout.map (fun timeout => began + timeout)

/-- Others set the event and leave every stamp, or leave no group at all. -/
def Disturbed (config : MicroBatcherConfig Item Key)
    (state after : NextBatch Item Key) : Prop :=
  after.clock = state.clock ∧
    ((after.batcher.changed = true ∧ after.drained = state.drained ∧
        ∀ due, state.batcher.DueBy config due →
          after.batcher.DueBy config due) ∨
      after.batcher.groups.entries = [] ∧ after.drained = true)

omit [DecidableEq Key] in
theorem Rested.disturbed (disturbed : Disturbed config state after) :
    Rested config after := by
  intro unset
  rcases disturbed.2 with ⟨set, _⟩ | ⟨empty, _⟩
  · rw [set] at unset
    cases unset
  · rintro ⟨entry, member, _⟩
    rw [empty] at member
    cases member

omit [DecidableEq Key] in
theorem Timed.disturbed {reading : Seconds} {timeout : Option Seconds}
    (timed : Timed config state reading timeout)
    (disturbed : Disturbed config state after) :
    Timed config after reading timeout := by
  rcases disturbed.2 with ⟨set, sameFlag, kept⟩ | ⟨empty, drained⟩
  · refine ⟨?_, ?_⟩
    · intro unset
      rw [set] at unset
      cases unset
    · intro notDrained length same
      rw [sameFlag] at notDrained
      exact kept _ (timed.due notDrained length same)
  · refine ⟨?_, ?_⟩
    · intro _ oldest found
      rw [MicroBatcher.oldest, empty] at found
      cases found
    · intro notDrained
      rw [drained] at notDrained
      cases notDrained

omit [DecidableEq Key] in
theorem Agrees.disturbed {consumer : Consumer}
    (agrees : Agrees config state consumer)
    (disturbed : Disturbed config state after) :
    Agrees config after consumer := by
  have due : (state.drained = false →
        state.batcher.DueBy config state.clock) →
      after.drained = false →
        after.batcher.DueBy config after.clock := by
    intro dueBefore notDrained
    rw [disturbed.1]
    rcases disturbed.2 with ⟨_, sameFlag, kept⟩ | ⟨_, drained⟩
    · rw [sameFlag] at notDrained
      exact kept _ (dueBefore notDrained)
    · rw [drained] at notDrained
      cases notDrained
  cases consumer with
  | outside =>
      trivial
  | clearing byTimer =>
      exact fun woken => due (agrees woken)
  | taking byTimer =>
      exact fun woken => due (agrees woken)
  | computing =>
      exact Rested.disturbed disturbed
  | sleeping reading timeout =>
      obtain ⟨earlier, _, timed⟩ := agrees
      refine ⟨?_, Rested.disturbed disturbed, timed.disturbed disturbed⟩
      rw [disturbed.1]
      exact earlier
  | waiting reading began deadline =>
      obtain ⟨earlier, _, timeout, timed, same⟩ := agrees
      exact ⟨earlier, Rested.disturbed disturbed, timeout,
        timed.disturbed disturbed, same⟩

theorem disturbed_add (config : MicroBatcherConfig Item Key)
    (state : NextBatch Item Key) (item : Item) :
    Disturbed config state
      { state with
        batcher := state.batcher.add config state.clock item } := by
  refine ⟨rfl, Or.inl ⟨rfl, rfl, ?_⟩⟩
  rintro due ⟨entry, member, early⟩
  rcases MicroBatcher.add_entries config state.batcher state.clock item with
    ⟨update, updated, _, sameStamp⟩ | ⟨fresh, _, appended⟩
  · refine ⟨update entry, ?_, ?_⟩
    · rw [updated]
      exact List.mem_map_of_mem member
    · rw [(sameStamp entry member).2.1]
      exact early
  · refine ⟨entry, ?_, early⟩
    rw [appended]
    exact List.mem_append_left _ member

theorem disturbed_reinsert {key : Key} {group : Group Item}
    (stored : state.batcher.groups.lookup key = some group)
    (left : MicroBatcher.leftovers config key group ≠ []) :
    Disturbed config state
      { state with
        batcher := (state.batcher.popGroup config key group).2 } := by
  obtain ⟨leftEntry, leftMember⟩ := List.exists_mem_of_ne_nil _ left
  obtain ⟨notDone, leftEqual⟩ :=
    (MicroBatcher.mem_leftovers_iff config key group leftEntry).mp
      leftMember
  refine ⟨rfl, Or.inl ⟨?_, rfl, ?_⟩⟩
  · simp [MicroBatcher.popGroup, notDone]
  · rintro due ⟨entry, member, early⟩
    by_cases same : entry.1 = key
    · have present :=
        (state.batcher.groups.lookup_eq_some_iff _ _).mpr member
      rw [same, stored] at present
      cases present
      refine ⟨leftEntry, ?_, ?_⟩
      · rw [MicroBatcher.popGroup_entries]
        exact List.mem_append_right _ leftMember
      · rw [leftEqual]
        exact early
    · refine ⟨entry, ?_, early⟩
      rw [MicroBatcher.popGroup_entries]
      exact List.mem_append_left _
        ((OrderedDict.mem_erase_iff _ _ _).mpr ⟨member, same⟩)

theorem disturbed_drain (config : MicroBatcherConfig Item Key)
    (state : NextBatch Item Key) :
    Disturbed config state
      { state with
        batcher := (state.batcher.drain config).2
        drained := true } :=
  ⟨rfl, Or.inr ⟨state.batcher.drain_empties config, rfl⟩⟩

omit [DecidableEq Key] in
theorem Agrees.tick (agrees : Agrees config state state.consumer)
    {later : Seconds} (forward : state.clock ≤ later) :
    Agrees config { state with clock := later } state.consumer := by
  have due : (state.drained = false →
        state.batcher.DueBy config state.clock) →
      state.drained = false → state.batcher.DueBy config later := by
    intro dueBefore notDrained
    obtain ⟨entry, member, early⟩ := dueBefore notDrained
    exact ⟨entry, member, early.trans forward⟩
  cases place : state.consumer with
  | outside =>
      trivial
  | clearing byTimer =>
      rw [place] at agrees
      exact fun woken => due (agrees woken)
  | taking byTimer =>
      rw [place] at agrees
      exact fun woken => due (agrees woken)
  | computing =>
      rw [place] at agrees
      exact agrees
  | sleeping reading timeout =>
      rw [place] at agrees
      obtain ⟨earlier, rested, timed⟩ := agrees
      exact ⟨earlier.trans forward, rested, timed.current, timed.due⟩
  | waiting reading began deadline =>
      rw [place] at agrees
      obtain ⟨earlier, rested, timeout, timed, same⟩ := agrees
      exact ⟨earlier, rested, timeout, ⟨timed.current, timed.due⟩, same⟩

omit [DecidableEq Key] in
/-- A timeout is computed from the earliest stamp, which is a stored one. -/
theorem timed_compute (config : MicroBatcherConfig Item Key)
    (state : NextBatch Item Key) (consumer : Consumer) :
    Timed config { state with consumer := consumer, drained := false }
      state.clock (state.batcher.timeout config state.clock) := by
  refine ⟨?_, ?_⟩
  · intro _ oldest found
    rw [MicroBatcher.timeout, found]
    rfl
  · intro _ length same
    obtain ⟨oldest, found, lengthEqual⟩ := Option.map_eq_some_iff.mp same
    obtain ⟨entry, member, stamp⟩ :=
      List.mem_map.mp (List.min?_mem found)
    refine ⟨entry, member, ?_⟩
    have long : oldest + config.windowS - state.clock ≤ length := by
      rw [← lengthEqual]
      exact le_max_left _ _
    rw [stamp]
    linarith

theorem Agrees.step {action : NextBatchAction Item Key}
    (agrees : Agrees config state state.consumer)
    (taken : Step config state action after) :
    Agrees config after after.consumer := by
  cases taken with
  | tick forward =>
      exact agrees.tick forward
  | add item =>
      exact agrees.disturbed (disturbed_add config state item)
  | reinsert stored left =>
      exact agrees.disturbed (disturbed_reinsert stored left)
  | drain =>
      exact agrees.disturbed (disturbed_drain config state)
  | enter place =>
      exact fun woken => Bool.noConfusion woken
  | clear place =>
      rw [place] at agrees
      exact agrees
  | takeBatch place found =>
      trivial
  | takeNothing place nothing =>
      rintro - ⟨entry, member, full⟩
      have idle := (MicroBatcher.takeReady_eq_none_iff config
        state.batcher state.clock).mp nothing entry.1 entry.2
          ((OrderedDict.lookup_eq_some_iff _ _ _).mpr member)
      exact idle.1 full
  | compute place =>
      rw [place] at agrees
      exact ⟨le_rfl, agrees, timed_compute config state _⟩
  | sleep place =>
      rw [place] at agrees
      obtain ⟨earlier, rested, timed⟩ := agrees
      exact ⟨earlier, rested, _, ⟨timed.current, timed.due⟩, rfl⟩
  | wakeByEvent place set =>
      exact fun woken => Bool.noConfusion woken
  | @wakeByTimer reading began deadline place late =>
      rw [place] at agrees
      obtain ⟨earlier, _, timeout, timed, same⟩ := agrees
      intro _ notDrained
      obtain ⟨length, timeoutEqual, deadlineEqual⟩ :=
        Option.map_eq_some_iff.mp same.symm
      obtain ⟨entry, member, early⟩ :=
        timed.due notDrained length timeoutEqual
      refine ⟨entry, member, ?_⟩
      rw [← deadlineEqual] at late
      exact early.trans ((add_le_add_left earlier length).trans late)

theorem agrees_of_reachable {start : Seconds}
    (reachable : Reachable (Step config) { clock := start } state) :
    Agrees config state state.consumer :=
  reachable.invariant (I := fun state => Agrees config state state.consumer)
    trivial (fun _ _ _ agrees taken => agrees.step taken)

omit [DecidableEq Key] in
theorem oldest_isSome {batcher : MicroBatcher Item Key}
    (stored : batcher.groups.entries ≠ []) :
    ∃ oldest, batcher.oldest = some oldest := by
  cases found : batcher.oldest with
  | none =>
      rw [MicroBatcher.oldest, List.min?_eq_none_iff, List.map_eq_nil_iff]
        at found
      exact False.elim (stored found)
  | some oldest =>
      exact ⟨oldest, rfl⟩

/-- While the consumer waits and the event is not set, no group is full, and
the timer is armed for the timeout of the earliest stamp, counted from when
the wait began: for that stamp plus the window, or for the begin of the wait
if that is later, where no time passed since the timeout was computed.  A
consumer woken by its timer finds a batch unless there was a drain. -/
theorem nextBatchTimer (config : MicroBatcherConfig Item Key)
    {start : Seconds} {state : NextBatch Item Key}
    (reachable : Reachable (Step config) { clock := start } state) :
    (∀ reading began deadline,
      state.consumer = .waiting reading began deadline →
      state.batcher.changed = false →
      (∀ key group, state.batcher.groups.lookup key = some group →
        group.texts < config.maxTexts) ∧
      (state.batcher.groups.entries ≠ [] →
        ∃ oldest, state.batcher.oldest = some oldest ∧
          reading ≤ began ∧
          deadline = some
            (began + max (oldest + config.windowS - reading) 0) ∧
          (reading = began →
            deadline = some (max (oldest + config.windowS) began)))) ∧
    (state.consumer = .taking true → state.drained = false →
      ∃ batch rest, state.batcher.takeReady config state.clock =
        some (batch, rest)) := by
  have agrees := agrees_of_reachable reachable
  refine ⟨?_, ?_⟩
  · intro reading began deadline place unset
    rw [place] at agrees
    obtain ⟨earlier, rested, timeout, timed, same⟩ := agrees
    refine ⟨?_, ?_⟩
    · intro key group stored
      refine not_le.mp (fun full => rested unset ⟨(key, group), ?_, full⟩)
      exact (OrderedDict.lookup_eq_some_iff _ _ _).mp stored
    · intro stored
      obtain ⟨oldest, found⟩ := oldest_isSome stored
      have armed : deadline = some
          (began + max (oldest + config.windowS - reading) 0) := by
        rw [same, timed.current unset oldest found]
        rfl
      refine ⟨oldest, found, earlier, armed, ?_⟩
      intro atOnce
      rw [armed, atOnce, ← max_add_add_left, add_sub_cancel, add_zero]
  · intro place notDrained
    rw [place] at agrees
    obtain ⟨entry, member, early⟩ := agrees rfl notDrained
    cases taken : state.batcher.takeReady config state.clock with
    | some result =>
        exact ⟨result.1, result.2, rfl⟩
    | none =>
        have idle := (MicroBatcher.takeReady_eq_none_iff config
          state.batcher state.clock).mp taken entry.1 entry.2
            ((OrderedDict.lookup_eq_some_iff _ _ _).mpr member)
        refine False.elim (idle.2 ?_)
        rw [MicroBatcher.Expired]
        linarith

/-- A window of five seconds, and batches of three texts. -/
def fiveSeconds : MicroBatcherConfig Nat Unit where
  maxTexts := 3
  maxTextsPositive := by decide
  window := 5
  sizeOf := fun _ => 1
  keyOf := fun _ => ()

/-- One item, added at the start, and a cleared event. -/
def oneItem : MicroBatcher Nat Unit :=
  { MicroBatcher.add fiveSeconds {} 0 7 with changed := false }

theorem oneItem_takeReady : oneItem.takeReady fiveSeconds 0 = none := by
  rw [MicroBatcher.takeReady_eq_none_iff]
  intro key group stored
  cases stored
  refine ⟨?_, ?_⟩
  · change ¬ (3 : Int) ≤ 1
    decide
  · norm_num [MicroBatcher.Expired, fiveSeconds,
      MicroBatcherConfig.windowS]

theorem oneItem_timeout : oneItem.timeout fiveSeconds 0 = some 5 := by
  have found : oneItem.oldest = some 0 := rfl
  rw [MicroBatcher.timeout, found]
  norm_num [fiveSeconds, MicroBatcherConfig.windowS]

/-- A consumer that computes its timeout at the start, and goes to sleep at
`began`. -/
theorem sleeper_reachable {began : Seconds} (later : 0 ≤ began) :
    Reachable (Step fiveSeconds) { clock := 0 }
      { batcher := oneItem
        clock := began
        consumer := .waiting 0 began (some (began + 5))
        drained := false } := by
  have added : Step fiveSeconds { clock := 0 } (.add 7)
      { batcher := MicroBatcher.add fiveSeconds {} 0 7, clock := 0 } :=
    Step.add 7
  have entered : Step fiveSeconds
      { batcher := MicroBatcher.add fiveSeconds {} 0 7, clock := 0 } .enter
      { batcher := MicroBatcher.add fiveSeconds {} 0 7
        clock := 0
        consumer := .clearing false } :=
    Step.enter rfl
  have cleared : Step fiveSeconds
      { batcher := MicroBatcher.add fiveSeconds {} 0 7
        clock := 0
        consumer := .clearing false } .clear
      { batcher := oneItem, clock := 0, consumer := .taking false } :=
    Step.clear rfl
  have tried : Step fiveSeconds
      { batcher := oneItem, clock := 0, consumer := .taking false } .take
      { batcher := oneItem, clock := 0, consumer := .computing } :=
    Step.takeNothing rfl oneItem_takeReady
  have computed : Step fiveSeconds
      { batcher := oneItem, clock := 0, consumer := .computing } .compute
      { batcher := oneItem
        clock := 0
        consumer := .sleeping 0 (oneItem.timeout fiveSeconds 0) } :=
    Step.compute rfl
  rw [oneItem_timeout] at computed
  have passed : Step fiveSeconds
      { batcher := oneItem, clock := 0, consumer := .sleeping 0 (some 5) }
      (.tick began)
      { batcher := oneItem
        clock := began
        consumer := .sleeping 0 (some 5) } :=
    Step.tick later
  have slept : Step fiveSeconds
      { batcher := oneItem
        clock := began
        consumer := .sleeping 0 (some 5) } .sleep
      { batcher := oneItem
        clock := began
        consumer := .waiting 0 began (some (began + 5)) } :=
    @Step.sleep Nat Unit _ fiveSeconds
      { batcher := oneItem
        clock := began
        consumer := .sleeping 0 (some 5) } 0 (some 5) rfl
  exact ((((((Reachable.refl _).tail added).tail entered).tail
    cleared).tail tried).tail computed).tail passed |>.tail slept

/-- Where no time passes before the sleep, the timer is armed for the end of
the window. -/
theorem nextBatchTimer_atOnce :
    ∃ state : NextBatch Nat Unit,
      Reachable (Step fiveSeconds) { clock := 0 } state ∧
      state.batcher.changed = false ∧
      ∃ oldest, state.batcher.oldest = some oldest ∧
        state.consumer =
          .waiting 0 0 (some (max (oldest + fiveSeconds.windowS) 0)) := by
  have reachable := sleeper_reachable le_rfl
  obtain ⟨oldest, found, _, _, armed⟩ :=
    ((nextBatchTimer fiveSeconds reachable).1 0 0 _ rfl rfl).2
      (List.cons_ne_nil _ _)
  refine ⟨_, reachable, rfl, oldest, found, ?_⟩
  rw [← armed rfl]

/-- Time that passes between the computation of the timeout and the sleep is
slept in addition. -/
theorem nextBatchTimer_oversleeps :
    ∃ state : NextBatch Nat Unit,
      Reachable (Step fiveSeconds) { clock := 0 } state ∧
      state.batcher.changed = false ∧
      state.batcher.oldest = some 0 ∧
      state.consumer = .waiting 0 1 (some 6) ∧
      some 6 ≠ some (max (0 + fiveSeconds.windowS) 1) := by
  have reachable := @sleeper_reachable 1 zero_le_one
  refine ⟨_, reachable, rfl, rfl, ?_, ?_⟩
  · norm_num
  · norm_num [fiveSeconds, MicroBatcherConfig.windowS]

end NextBatch

end EmbeddingService
