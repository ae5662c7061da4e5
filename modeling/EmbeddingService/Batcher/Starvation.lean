import EmbeddingService.Batcher.Turns

/-!
# Expired groups and full ones

A group that waits for its turn is overtaken by every full group, and by no
expired group more than once.
-/

namespace EmbeddingService

universe u v

variable {Item : Type u} {Key : Type v}

/-- What others do from `start` on: calls of `take_ready`, and items added
under other keys. -/
def BatcherCall.Elsewhere (config : MicroBatcherConfig Item Key) (key : Key)
    (start : Seconds) : BatcherCall Item → Prop
  | .add now item => start ≤ now ∧ config.keyOf item ≠ key
  | .takeReady now => start ≤ now
  | .drain => False

namespace BatcherHistory

variable [DecidableEq Key]

/-- One for a call of `take_ready`. -/
def takes : BatcherCall Item → Nat
  | .takeReady _ => 1
  | _ => 0

/-- One for a call of `take_ready` that finds a full group. -/
def filledTakes (config : MicroBatcherConfig Item Key)
    (history : BatcherHistory Item Key) : BatcherCall Item → Nat
  | .takeReady _ => if history.batcher.FindsFull config then 1 else 0
  | _ => 0

/-- The calls of `take_ready` in a run. -/
def takesOf (calls : List (BatcherCall Item)) : Nat :=
  (calls.map takes).sum

/-- The calls of `take_ready` in a run that find a full group. -/
def filledTakesOf (config : MicroBatcherConfig Item Key) :
    BatcherHistory Item Key → List (BatcherCall Item) → Nat
  | _, [] => 0
  | history, made :: rest =>
      filledTakes config history made +
        filledTakesOf config (history.call config made) rest

/-- A group that waits, with at most `bound` others ahead of it. -/
structure Waiting (config : MicroBatcherConfig Item Key) (key : Key)
    (group : Group Item) (history : BatcherHistory Item Key)
    (bound : Nat) : Prop where
  conserved : Conserved config history
  ahead : MicroBatcher.Ahead key group history.batcher.groups.entries bound

/-- The whole group was released between two points of a run. -/
def ReleasedBetween (key : Key) (group : Group Item)
    (earlier later : BatcherHistory Item Key) : Prop :=
  ∃ batches batch, later.released = earlier.released ++ batches ∧
    batch ∈ batches ∧ batch.key = key ∧ batch.items = group.items

variable {config : MicroBatcherConfig Item Key} {key : Key}
  {group : Group Item} {history : BatcherHistory Item Key} {bound : Nat}
  {start : Seconds}

theorem Waiting.stored (waiting : Waiting config key group history bound) :
    history.batcher.groups.lookup key = some group := by
  obtain ⟨before, after, entriesEqual, _⟩ := waiting.ahead
  rw [OrderedDict.lookup_eq_some_iff, entriesEqual]
  exact List.mem_append_right _ List.mem_cons_self

/-- A `take_ready` that finds a full group releases that one. -/
theorem Waiting.takeFilled
    (waiting : Waiting config key group history bound)
    (notFull : ¬ MicroBatcher.Full config group)
    (filled : history.batcher.FindsFull config) (now : Seconds) :
    Waiting config key group (history.call config (.takeReady now))
      bound := by
  have conserved := waiting.conserved.takeReady now
  obtain ⟨chosen, found, ready, member, full⟩ :=
    MicroBatcher.readyKey_full filled none
  have stored := (history.batcher.groups.lookup_eq_some_iff _ _).mpr member
  have taken : history.batcher.takeReady config now =
      some (history.batcher.popGroup config chosen found) := by
    rw [MicroBatcher.takeReady, ready, Option.bind_some, MicroBatcher.pop,
      stored]
    rfl
  have different : key ≠ chosen := by
    intro same
    rw [← same, waiting.stored] at stored
    cases stored
    exact notFull full
  simp only [BatcherHistory.call, taken] at conserved ⊢
  exact ⟨conserved, waiting.ahead.popGroup different member⟩

/-- A `take_ready` that finds no full group releases the waiting one, or one
of those ahead. -/
theorem Waiting.takeUnfilled
    (waiting : Waiting config key group history bound)
    (sized : ∀ item, 0 ≤ config.sizeOf item)
    (unfilled : ¬ history.batcher.FindsFull config) {now : Seconds}
    (expired : MicroBatcher.Expired config now group) :
    ReleasedBetween key group history
        (history.call config (.takeReady now)) ∨
      ∃ fewer, fewer < bound ∧ Waiting config key group
        (history.call config (.takeReady now)) fewer := by
  have conserved := waiting.conserved.takeReady now
  have noneFull : ∀ entry ∈ history.batcher.groups.entries,
      ¬ MicroBatcher.Full config entry.2 := by
    intro entry member full
    exact unfilled ⟨entry, member, full⟩
  have own := (history.batcher.groups.lookup_eq_some_iff _ _).mp
    waiting.stored
  cases taken : history.batcher.takeReady config now with
  | none =>
      have idle := (MicroBatcher.takeReady_eq_none_iff config _ now).mp
        taken key group waiting.stored
      exact False.elim (idle.2 expired)
  | some result =>
      obtain ⟨chosen, found, ready, member, popped⟩ :=
        MicroBatcher.takeReady_chosen taken
      have stored :=
        (history.batcher.groups.lookup_eq_some_iff _ _).mpr member
      have whole := MicroBatcher.leftovers_of_notFull sized
        (waiting.conserved.wellFormed chosen found stored)
        (noneFull _ member)
      simp only [BatcherHistory.call, taken] at conserved ⊢
      by_cases same : key = chosen
      · rw [← same, waiting.stored] at stored
        cases stored
        refine Or.inl ⟨[result.1], result.1, rfl, List.mem_singleton_self _,
          ?_, ?_⟩
        · rw [← popped, MicroBatcher.popGroup_batch, same]
        · have split := MicroBatcher.popGroup_split config chosen group
          rw [whole, List.flatMap_nil, List.append_nil] at split
          rw [← popped, MicroBatcher.popGroup_batch]
          exact split
      · obtain ⟨before, after, entriesEqual, counted⟩ := waiting.ahead
        have passed : (chosen, found) ∈ before ∧
              found.firstAdded ≤ group.firstAdded ∨
            (chosen, found) ∈ after ∧
              found.firstAdded < group.firstAdded := by
          have overtakes := MicroBatcher.readyKey_overtakes expired before
            none (entriesEqual ▸ noneFull) (entriesEqual ▸ ready)
          rcases overtakes with own | ⟨best, absent, _⟩ |
            inBefore | inAfter
          · exact False.elim (same own.symm)
          · cases absent
          · obtain ⟨other, otherMember, notYounger⟩ := inBefore
            have sameGroup : other = found :=
              history.batcher.groups.value_unique
                (entriesEqual ▸ List.mem_append_left _ otherMember) member
            rw [← sameGroup]
            exact Or.inl ⟨otherMember, notYounger⟩
          · obtain ⟨other, otherMember, older⟩ := inAfter
            have sameGroup : other = found :=
              history.batcher.groups.value_unique
                (entriesEqual ▸ List.mem_append_right _
                  (List.mem_cons_of_mem _ otherMember)) member
            rw [← sameGroup]
            exact Or.inr ⟨otherMember, older⟩
        obtain ⟨fewer, less, ahead⟩ := MicroBatcher.Ahead.overtaken
          entriesEqual counted same whole passed
        rw [popped] at ahead
        exact Or.inr ⟨fewer, less, conserved, ahead⟩

/-- One call of others: the group is released, or it waits on behind fewer
groups, unless a full one was found. -/
theorem Waiting.call
    (waiting : Waiting config key group history bound)
    (sized : ∀ item, 0 ≤ config.sizeOf item)
    (notFull : ¬ MicroBatcher.Full config group)
    (expired : MicroBatcher.Expired config start group)
    {made : BatcherCall Item}
    (elsewhere : made.Elsewhere config key start) :
    filledTakes config history made < takes made ∧
        ReleasedBetween key group history (history.call config made) ∨
      ∃ fewer,
        fewer + takes made ≤ bound + filledTakes config history made ∧
          Waiting config key group (history.call config made) fewer := by
  cases made with
  | add now item =>
      have windowNonneg : 0 ≤ config.windowS := le_max_right _ _
      have late : group.firstAdded ≤ now := by
        have started := elsewhere.1
        rw [MicroBatcher.Expired] at expired
        linarith
      exact Or.inr ⟨bound, le_rfl, waiting.conserved.add now item,
        waiting.ahead.add elsewhere.2 late⟩
  | takeReady now =>
      have started : start ≤ now := elsewhere
      have expiredNow : MicroBatcher.Expired config now group := by
        rw [MicroBatcher.Expired] at expired ⊢
        linarith
      by_cases filled : history.batcher.FindsFull config
      · have one : filledTakes config history (.takeReady now) = 1 :=
          if_pos filled
        refine Or.inr ⟨bound, ?_, waiting.takeFilled notFull filled now⟩
        rw [one]
        exact le_rfl
      · have zero : filledTakes config history (.takeReady now) = 0 :=
          if_neg filled
        rcases waiting.takeUnfilled sized filled expiredNow with
          released | ⟨fewer, less, still⟩
        · refine Or.inl ⟨?_, released⟩
          rw [zero]
          exact Nat.zero_lt_one
        · refine Or.inr ⟨fewer, ?_, still⟩
          rw [zero]
          exact less
  | drain =>
      exact False.elim elsewhere

theorem call_released (config : MicroBatcherConfig Item Key)
    (history : BatcherHistory Item Key) (made : BatcherCall Item) :
    ∃ batches, (history.call config made).released =
      history.released ++ batches :=
  ⟨_, call_pops config history made⟩

theorem run_released (config : MicroBatcherConfig Item Key)
    (calls : List (BatcherCall Item)) :
    ∀ history : BatcherHistory Item Key, ∃ batches,
      (calls.foldl (BatcherHistory.call config) history).released =
        history.released ++ batches := by
  induction calls with
  | nil =>
      intro history
      exact ⟨[], (List.append_nil _).symm⟩
  | cons made rest inductionHypothesis =>
      intro history
      obtain ⟨first, firstEqual⟩ := call_released config history made
      obtain ⟨others, othersEqual⟩ :=
        inductionHypothesis (history.call config made)
      refine ⟨first ++ others, ?_⟩
      rw [List.foldl_cons, othersEqual, firstEqual, List.append_assoc]

omit [DecidableEq Key] in
theorem filledTakes_le (config : MicroBatcherConfig Item Key)
    (history : BatcherHistory Item Key) (made : BatcherCall Item) :
    filledTakes config history made ≤ takes made := by
  cases made with
  | add now item =>
      exact le_rfl
  | takeReady now =>
      unfold filledTakes takes
      dsimp only
      split <;> omega
  | drain =>
      exact le_rfl

theorem filledTakesOf_le (config : MicroBatcherConfig Item Key)
    (calls : List (BatcherCall Item)) :
    ∀ history : BatcherHistory Item Key,
      filledTakesOf config history calls ≤ takesOf calls := by
  induction calls with
  | nil =>
      intro history
      exact le_rfl
  | cons made rest inductionHypothesis =>
      intro history
      have one := filledTakes_le config history made
      have others := inductionHypothesis (history.call config made)
      rw [filledTakesOf, takesOf, List.map_cons, List.sum_cons]
      exact Nat.add_le_add one others

/-- A run of others. -/
theorem Waiting.run (sized : ∀ item, 0 ≤ config.sizeOf item)
    (notFull : ¬ MicroBatcher.Full config group)
    (expired : MicroBatcher.Expired config start group)
    (later : List (BatcherCall Item)) :
    ∀ {history : BatcherHistory Item Key} {bound : Nat},
      Waiting config key group history bound →
      (∀ made ∈ later, made.Elsewhere config key start) →
      filledTakesOf config history later < takesOf later ∧
          ReleasedBetween key group history
            (later.foldl (BatcherHistory.call config) history) ∨
        ∃ fewer,
          fewer + takesOf later ≤
              bound + filledTakesOf config history later ∧
            Waiting config key group
              (later.foldl (BatcherHistory.call config) history) fewer := by
  induction later with
  | nil =>
      intro history bound waiting elsewhere
      exact Or.inr ⟨bound, le_rfl, waiting⟩
  | cons made rest inductionHypothesis =>
      intro history bound waiting elsewhere
      obtain ⟨firstElsewhere, restElsewhere⟩ :=
        List.forall_mem_cons.mp elsewhere
      have total : takesOf (made :: rest) = takes made + takesOf rest :=
        List.sum_cons
      rw [filledTakesOf, total, List.foldl_cons]
      rcases waiting.call sized notFull expired firstElsewhere with
        ⟨less, batches, batch, released, member, shape⟩ |
          ⟨fewer, counted, still⟩
      · have others :=
          filledTakesOf_le config rest (history.call config made)
        obtain ⟨more, moreEqual⟩ :=
          run_released config rest (history.call config made)
        refine Or.inl ⟨by omega, batches ++ more, batch, ?_,
          List.mem_append_left _ member, shape⟩
        rw [moreEqual, released, List.append_assoc]
      · rcases inductionHypothesis still restElsewhere with
          ⟨less, batches, batch, released, member, shape⟩ |
            ⟨left, restCounted, stillLater⟩
        · have one := filledTakes_le config history made
          obtain ⟨first, firstEqual⟩ := call_released config history made
          refine Or.inl ⟨by omega, first ++ batches, batch, ?_,
            List.mem_append_right _ member, shape⟩
          rw [released, firstEqual, List.append_assoc]
        · exact Or.inr ⟨left, by omega, stillLater⟩

/-- A group that expired unfilled is released, whole, after as many calls of
`take_ready` as there are groups, not counting those that find a full group;
and it stays where it is while every call finds one.  Others may add items
under other keys in between, at any readings. -/
theorem expiredGroupReleased (config : MicroBatcherConfig Item Key)
    (sized : ∀ item, 0 ≤ config.sizeOf item)
    (calls : List (BatcherCall Item)) {key : Key} {group : Group Item}
    {start : Seconds}
    (stored : (calls.foldl (BatcherHistory.call config)
      {}).batcher.groups.lookup key = some group)
    (notFull : group.texts < config.maxTexts)
    (expired : config.windowS ≤ start - group.firstAdded) :
    let history := calls.foldl (BatcherHistory.call config) {}
    ∀ later : List (BatcherCall Item),
      (∀ made ∈ later, made.Elsewhere config key start) →
      let final := later.foldl (BatcherHistory.call config) history
      (history.batcher.groups.entries.length +
            filledTakesOf config history later ≤ takesOf later →
        ReleasedBetween key group history final) ∧
      (filledTakesOf config history later = takesOf later →
        final.batcher.groups.lookup key = some group) := by
  intro history later elsewhere final
  have conserved : Conserved config history :=
    Conserved.run calls (conserved_start config)
  obtain ⟨before, after, entriesEqual⟩ := List.append_of_mem
    ((history.batcher.groups.lookup_eq_some_iff key group).mp stored)
  have lengths := congrArg List.length entriesEqual
  rw [List.length_append, List.length_cons] at lengths
  have fewBefore :=
    before.countP_le_length (p := MicroBatcher.isNotYounger group)
  have fewAfter :=
    after.countP_le_length (p := MicroBatcher.isOlder group)
  have waiting : Waiting config key group history
      (before.length + after.length) :=
    ⟨conserved, before, after, entriesEqual, by omega⟩
  rcases Waiting.run sized (not_le.mpr notFull) expired later waiting
    elsewhere with ⟨less, released⟩ | ⟨fewer, counted, still⟩
  · exact ⟨fun _ => released, fun same => by omega⟩
  · exact ⟨fun enough => by omega, fun _ => still.stored⟩

theorem pair_positive : (1 : Int) ≤ 2 :=
  one_le_two

/-- Two texts fill a batch, and a window lasts five seconds. -/
def pairsConfig : MicroBatcherConfig Bool Bool where
  maxTexts := 2
  maxTextsPositive := pair_positive
  window := 5
  sizeOf := fun _ => 1
  keyOf := id

/-- Items are keyed by themselves. -/
def countedConfig : MicroBatcherConfig Nat Nat where
  maxTexts := 2
  maxTextsPositive := pair_positive
  window := 5
  sizeOf := fun _ => 1
  keyOf := id

/-- Two groups expire, and another one fills up meanwhile: the younger of the
two is released by the third call, after the full one and the older one. -/
theorem expiredGroupReleased_third :
    let history := [.add 0 1, .add 1 2].foldl
      (BatcherHistory.call countedConfig) {}
    let later : List (BatcherCall Nat) :=
      [.add 6 3, .add 6 3, .takeReady 6, .takeReady 6]
    let group : Group Nat := { firstAdded := 1, items := [2], texts := 1 }
    filledTakesOf countedConfig history later = 1 ∧
      ((later.foldl (BatcherHistory.call countedConfig)
        history).batcher.groups.lookup 2).map Group.items = some [2] ∧
      ReleasedBetween 2 group history
        ((later ++ [BatcherCall.takeReady 6]).foldl
          (BatcherHistory.call countedConfig) history) := by
  intro history later group
  have expired : countedConfig.windowS ≤ (6 : Seconds) - 1 := by
    norm_num [MicroBatcherConfig.windowS, countedConfig]
  have filled : filledTakesOf countedConfig history later = 1 := by
    decide +kernel
  have stored : history.batcher.groups.lookup 2 = some group := rfl
  have released := (expiredGroupReleased countedConfig
    (fun _ => Int.one_nonneg) [.add 0 1, .add 1 2] stored (by decide)
    expired (later ++ [BatcherCall.takeReady 6]) (by
      simp [later, BatcherCall.Elsewhere, countedConfig])).1
    (by decide +kernel)
  exact ⟨filled, by decide +kernel, released⟩

/-- A round of a busy key: it fills its group, which is taken. -/
def busyRound : List (BatcherCall Bool) :=
  [.add 5 true, .add 5 true, .takeReady 5]

def busyRounds (count : Nat) : List (BatcherCall Bool) :=
  (List.replicate count busyRound).flatten

/-- The state between two rounds: an item of the rare key waits. -/
def rareWaiting (released : List (Batch Bool Bool)) (added : List Bool) :
    BatcherHistory Bool Bool where
  batcher := MicroBatcher.add pairsConfig {} 0 false
  released := released
  added := added

theorem busyRound_takeReady {filled : MicroBatcher Bool Bool}
    (filledEqual : filled = MicroBatcher.add pairsConfig
      (MicroBatcher.add pairsConfig
        (MicroBatcher.add pairsConfig {} 0 false) 5 true) 5 true) :
    filled.takeReady pairsConfig 5 =
      some ({ key := true, items := [true, true], texts := 2 },
        MicroBatcher.add pairsConfig {} 0 false) := by
  let rareGroup : Group Bool :=
    { firstAdded := 0, items := [false], texts := 1 }
  let busyGroup : Group Bool :=
    { firstAdded := 5, items := [true, true], texts := 2 }
  have entries :
      filled.groups.entries = [(false, rareGroup), (true, busyGroup)] := by
    rw [filledEqual]
    rfl
  have stored : filled.groups.lookup true = some busyGroup := by
    rw [filledEqual]
    rfl
  have ready : MicroBatcher.readyKey pairsConfig 5 none
      filled.groups.entries = some true := by
    rw [entries]
    norm_num [MicroBatcher.readyKey, pairsConfig,
      MicroBatcherConfig.windowS, rareGroup, busyGroup]
  rw [MicroBatcher.takeReady, ready, Option.bind_some,
    MicroBatcher.pop, stored, filledEqual]
  rfl

theorem busyRound_run (released : List (Batch Bool Bool))
    (added : List Bool) :
    busyRound.foldl (BatcherHistory.call pairsConfig)
        (rareWaiting released added) =
      rareWaiting
        (released ++ [{ key := true, items := [true, true], texts := 2 }])
        (added ++ [true] ++ [true]) := by
  have taken := busyRound_takeReady rfl
  change BatcherHistory.call pairsConfig
    { batcher := MicroBatcher.add pairsConfig
        (MicroBatcher.add pairsConfig
          (MicroBatcher.add pairsConfig {} 0 false) 5 true) 5 true
      released := released
      added := added ++ [true] ++ [true] } (.takeReady 5) = _
  simp only [BatcherHistory.call, taken]
  rfl

theorem busyRounds_released (count : Nat) :
    ∀ released added,
      ((busyRounds count).foldl (BatcherHistory.call pairsConfig)
        (rareWaiting released added)).released =
        released ++ List.replicate count
          { key := true, items := [true, true], texts := 2 } := by
  induction count with
  | zero =>
      intro released added
      exact (List.append_nil _).symm
  | succ count inductionHypothesis =>
      intro released added
      rw [busyRounds, List.replicate_succ, List.flatten_cons,
        List.foldl_append, busyRound_run]
      refine (inductionHypothesis _ _).trans ?_
      rw [List.append_assoc]
      rfl

/-- A busy key keeps an expired item of another key waiting through any number
of calls. -/
theorem expiredGroupReleased_starved :
    let history := [.add 0 false].foldl
      (BatcherHistory.call pairsConfig) {}
    let group : Group Bool :=
      { firstAdded := 0, items := [false], texts := 1 }
    history.batcher.groups.lookup false = some group ∧
      group.texts < pairsConfig.maxTexts ∧
      pairsConfig.windowS ≤ 5 - group.firstAdded ∧
      ¬ ∃ bound, ∀ later : List (BatcherCall Bool),
        (∀ made ∈ later, made.Elsewhere pairsConfig false 5) →
        bound ≤ takesOf later →
        ReleasedBetween false group history
          (later.foldl (BatcherHistory.call pairsConfig) history) := by
  refine ⟨rfl, by decide, ?_, ?_⟩
  · norm_num [MicroBatcherConfig.windowS, pairsConfig]
  · rintro ⟨bound, bounded⟩
    have elsewhere : ∀ made ∈ busyRounds bound,
        made.Elsewhere pairsConfig false 5 := by
      intro made member
      obtain ⟨round, rounds, inside⟩ := List.mem_flatten.mp member
      rw [List.eq_of_mem_replicate rounds] at inside
      have cases : ∀ made ∈ busyRound,
          made.Elsewhere pairsConfig false 5 := by
        simp [busyRound, BatcherCall.Elsewhere, pairsConfig]
      exact cases made inside
    have enough : bound ≤ takesOf (busyRounds bound) := by
      have takesEach : ∀ count, takesOf (busyRounds count) = count := by
        intro count
        induction count with
        | zero =>
            rfl
        | succ count inductionHypothesis =>
            rw [takesOf, busyRounds, List.replicate_succ,
              List.flatten_cons, List.map_append, List.sum_append]
            change 1 + takesOf (busyRounds count) = count + 1
            rw [inductionHypothesis, Nat.add_comm]
      rw [takesEach]
    obtain ⟨batches, batch, released, member, sameKey, _⟩ :=
      bounded (busyRounds bound) elsewhere enough
    have runs := busyRounds_released bound [] [false]
    have batchesEqual : batches = List.replicate bound
        { key := true, items := [true, true], texts := 2 } :=
      released.symm.trans runs
    rw [batchesEqual] at member
    rw [List.eq_of_mem_replicate member] at sameKey
    cases sameKey

end BatcherHistory

end EmbeddingService
