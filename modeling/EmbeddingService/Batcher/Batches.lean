import Mathlib.Algebra.Order.BigOperators.Group.List
import EmbeddingService.Batcher.MicroBatcherRuns

/-!
# Released batches

What a batch is when it leaves the batcher, and what it leaves in its group.
A drain pops many batches in one call, so each pop is recorded with the
batcher it leaves behind.
-/

namespace EmbeddingService

universe u v

variable {Item : Type u} {Key : Type v}

namespace MicroBatcherConfig

/-- A batch within the limit, or a single item of any size. -/
def Bounded (config : MicroBatcherConfig Item Key) (items : List Item)
    (texts : Int) : Prop :=
  texts ≤ config.maxTexts ∨ ∃ item, items = [item]

/-- The greedy loop never goes over the limit by a second item. -/
theorem takeLoop_bounded (config : MicroBatcherConfig Item Key)
    (items : List Item) :
    ∀ taken texts, taken = [] ∨ config.Bounded taken texts →
      (config.takeLoop taken texts items).1 = [] ∨
        config.Bounded (config.takeLoop taken texts items).1
          (config.takeLoop taken texts items).2.1 := by
  induction items with
  | nil =>
      intro taken texts soFar
      exact soFar
  | cons item rest inductionHypothesis =>
      intro taken texts soFar
      rw [takeLoop]
      split
      · next takes =>
          apply inductionHypothesis
          right
          rcases takes with first | fits
          · rw [List.isEmpty_iff.mp first]
            exact Or.inr ⟨item, rfl⟩
          · exact Or.inl fits
      · exact soFar

/-- The greedy loop stops at an item that does not fit any more. -/
theorem takeLoop_fills (config : MicroBatcherConfig Item Key)
    {next : Item} {left : List Item} (items : List Item) :
    ∀ taken texts,
      (config.takeLoop taken texts items).2.2 = next :: left →
        config.maxTexts <
          (config.takeLoop taken texts items).2.1 + config.sizeOf next := by
  induction items with
  | nil =>
      intro taken texts stopped
      cases stopped
  | cons item rest inductionHypothesis =>
      intro taken texts
      rw [takeLoop]
      split
      · exact inductionHypothesis _ _
      · next refused =>
          intro stopped
          cases stopped
          exact not_le.mp (fun fits => refused (Or.inr fits))

theorem textsOf_nonneg (config : MicroBatcherConfig Item Key)
    {items : List Item} (sized : ∀ item ∈ items, 0 ≤ config.sizeOf item) :
    0 ≤ config.textsOf items := by
  refine List.sum_nonneg ?_
  intro size member
  obtain ⟨item, itemMember, rfl⟩ := List.mem_map.mp member
  exact sized item itemMember

/-- An item that is too large for any batch is the only one of its list, when
the others have some size. -/
theorem oversized_alone {config : MicroBatcherConfig Item Key}
    {items : List Item} (sized : ∀ item ∈ items, 1 ≤ config.sizeOf item)
    (bounded : config.Bounded items (config.textsOf items))
    {item : Item} (member : item ∈ items)
    (oversized : config.maxTexts < config.sizeOf item) :
    items = [item] := by
  rcases bounded with small | ⟨only, single⟩
  · obtain ⟨before, after, rfl⟩ := List.append_of_mem member
    rw [List.forall_mem_append, List.forall_mem_cons] at sized
    obtain ⟨beforeSized, _, afterSized⟩ := sized
    have beforeSize := config.textsOf_nonneg (fun other otherMember =>
      Int.le_of_lt (beforeSized other otherMember))
    have afterSize := config.textsOf_nonneg (fun other otherMember =>
      Int.le_of_lt (afterSized other otherMember))
    rw [← List.singleton_append, textsOf_append, textsOf_append,
      textsOf_singleton] at small
    omega
  · rw [single] at member ⊢
    rw [List.mem_singleton.mp member]

end MicroBatcherConfig

/-- What `_pop` makes of a group: a batch of one key, with its texts counted,
as large as the limit lets it be. -/
structure BatchWellFormed (config : MicroBatcherConfig Item Key)
    (batch : Batch Item Key) : Prop where
  nonempty : batch.items ≠ []
  sameKey : ∀ item ∈ batch.items, config.keyOf item = batch.key
  texts : batch.texts = config.textsOf batch.items
  bounded : config.Bounded batch.items batch.texts

namespace MicroBatcher

theorem popGroup_batchWellFormed [DecidableEq Key]
    {config : MicroBatcherConfig Item Key} {key : Key}
    {group : Group Item} (wellFormed : GroupWellFormed config key group)
    (batcher : MicroBatcher Item Key) :
    BatchWellFormed config (batcher.popGroup config key group).1 := by
  obtain ⟨moved, takenEqual, textsEqual, split⟩ :=
    config.takeLoop_spec group.items [] 0
  rw [List.nil_append] at takenEqual
  rw [zero_add] at textsEqual
  have takes := config.takeLoop_takes wellFormed.nonempty
  rw [popGroup_batch]
  exact
    { nonempty := takes
      sameKey := by
        intro item member
        apply wellFormed.sameKey item
        rw [← split, ← takenEqual]
        exact List.mem_append_left _ member
      texts := by
        change (config.takeLoop [] 0 group.items).2.1 = _
        rw [textsEqual, takenEqual]
      bounded :=
        (config.takeLoop_bounded group.items [] 0
          (Or.inl rfl)).resolve_left takes }

variable [DecidableEq Key]

/-- What stays in the group begins with an item that did not fit. -/
theorem popGroup_fills (config : MicroBatcherConfig Item Key)
    (batcher : MicroBatcher Item Key) (key : Key) (group : Group Item)
    {next : Item}
    (remains : ((batcher.popGroup config key group).2.pendingOf
      key).head? = some next) :
    config.maxTexts <
      (batcher.popGroup config key group).1.texts +
        config.sizeOf next := by
  rw [popGroup_batch]
  rw [pendingOf_popGroup_self] at remains
  obtain ⟨left, pending⟩ := List.head?_eq_some_iff.mp remains
  have stopped :
      (config.takeLoop [] 0 group.items).2.2 = next :: left := by
    unfold leftovers at pending
    dsimp only at pending
    split at pending
    · cases pending
    · simpa using pending
  exact config.takeLoop_fills group.items [] 0 stopped

/-- The pops of one `drain`, each with the batcher that it leaves. -/
def drainPops (config : MicroBatcherConfig Item Key)
    (batcher : MicroBatcher Item Key) :
    List (Batch Item Key × MicroBatcher Item Key) :=
  match _first : batcher.groups.entries with
  | [] => []
  | (key, group) :: _ =>
      let popped := batcher.popGroup config key group
      popped :: drainPops config popped.2
termination_by batcher.weight
decreasing_by
  refine (batcher.popGroup_weight config ?_).1
  rw [OrderedDict.lookup_eq_some_iff, _first]
  exact List.mem_cons_self

theorem drainPops_of_empty (config : MicroBatcherConfig Item Key)
    {batcher : MicroBatcher Item Key}
    (none : batcher.groups.entries = []) :
    batcher.drainPops config = [] := by
  rw [drainPops]
  split
  · rfl
  · simp_all

theorem drainPops_of_cons (config : MicroBatcherConfig Item Key)
    {batcher : MicroBatcher Item Key} {key : Key} {group : Group Item}
    {others : List (Key × Group Item)}
    (first : batcher.groups.entries = (key, group) :: others) :
    batcher.drainPops config =
      batcher.popGroup config key group ::
        (batcher.popGroup config key group).2.drainPops config := by
  rw [drainPops]
  split
  · simp_all
  · next same =>
      rw [first] at same
      cases same
      rfl

/-- The pops of a drain are the batches that it returns. -/
theorem drainPops_batches (config : MicroBatcherConfig Item Key)
    (batcher : MicroBatcher Item Key) :
    (batcher.drainPops config).map Prod.fst =
      (batcher.drain config).1 := by
  induction batcher using drain_induction config with
  | empty batcher none =>
      rw [drainPops_of_empty config none, batcher.drain_of_empty config none]
      rfl
  | popped batcher key group others first inductionHypothesis =>
      rw [drainPops_of_cons config first, List.map_cons,
        inductionHypothesis, batcher.drain_of_cons config first]

/-- One pop: a well formed batch, as large as it may be. -/
structure PopWellFormed (config : MicroBatcherConfig Item Key)
    (popped : Batch Item Key × MicroBatcher Item Key) : Prop where
  batch : BatchWellFormed config popped.1
  fills : ∀ next, (popped.2.pendingOf popped.1.key).head? = some next →
    config.maxTexts < popped.1.texts + config.sizeOf next

theorem popGroup_popWellFormed {config : MicroBatcherConfig Item Key}
    {batcher : MicroBatcher Item Key}
    (wellFormed : batcher.WellFormed config) {key : Key}
    {group : Group Item}
    (stored : batcher.groups.lookup key = some group) :
    PopWellFormed config (batcher.popGroup config key group) where
  batch := popGroup_batchWellFormed (wellFormed key group stored) batcher
  fills := by
    intro next remains
    rw [popGroup_batch] at remains
    exact batcher.popGroup_fills config key group remains

theorem takeReady_popWellFormed {config : MicroBatcherConfig Item Key}
    {batcher : MicroBatcher Item Key}
    (wellFormed : batcher.WellFormed config) {now : Seconds}
    {result : Batch Item Key × MicroBatcher Item Key}
    (taken : batcher.takeReady config now = some result) :
    PopWellFormed config result := by
  obtain ⟨key, _, popped⟩ := Option.bind_eq_some_iff.mp taken
  obtain ⟨group, stored, resultEqual⟩ := Option.map_eq_some_iff.mp popped
  rw [← resultEqual]
  exact popGroup_popWellFormed wellFormed stored

theorem takeReady_wellFormed {config : MicroBatcherConfig Item Key}
    {batcher : MicroBatcher Item Key}
    (wellFormed : batcher.WellFormed config) {now : Seconds}
    {result : Batch Item Key × MicroBatcher Item Key}
    (taken : batcher.takeReady config now = some result) :
    result.2.WellFormed config := by
  obtain ⟨key, _, popped⟩ := Option.bind_eq_some_iff.mp taken
  obtain ⟨group, stored, resultEqual⟩ := Option.map_eq_some_iff.mp popped
  rw [← resultEqual]
  exact popGroup_wellFormed config wellFormed stored

theorem drain_wellFormed (config : MicroBatcherConfig Item Key)
    (batcher : MicroBatcher Item Key) :
    (batcher.drain config).2.WellFormed config := by
  intro key group found
  rw [OrderedDict.lookup_eq_some_iff, drain_empties] at found
  cases found

theorem drainPops_popWellFormed (config : MicroBatcherConfig Item Key)
    (batcher : MicroBatcher Item Key)
    (wellFormed : batcher.WellFormed config) :
    ∀ popped ∈ batcher.drainPops config, PopWellFormed config popped := by
  induction batcher using drain_induction config with
  | empty batcher none =>
      intro popped member
      rw [drainPops_of_empty config none] at member
      cases member
  | popped batcher key group others first inductionHypothesis =>
      have stored := OrderedDict.lookup_first first
      rw [drainPops_of_cons config first, List.forall_mem_cons]
      exact ⟨popGroup_popWellFormed wellFormed stored,
        inductionHypothesis (popGroup_wellFormed config wellFormed stored)⟩

end MicroBatcher

namespace BatcherHistory

variable [DecidableEq Key]

/-- The pops of one call, each with the batcher that it leaves. -/
def pops (config : MicroBatcherConfig Item Key)
    (history : BatcherHistory Item Key) :
    BatcherCall Item → List (Batch Item Key × MicroBatcher Item Key)
  | .add _ _ => []
  | .takeReady now => (history.batcher.takeReady config now).toList
  | .drain => history.batcher.drainPops config

/-- What a call returns is what it pops. -/
theorem call_pops (config : MicroBatcherConfig Item Key)
    (history : BatcherHistory Item Key) (made : BatcherCall Item) :
    (history.call config made).released =
      history.released ++ (history.pops config made).map Prod.fst := by
  cases made with
  | add now item =>
      exact (List.append_nil _).symm
  | takeReady now =>
      cases taken : history.batcher.takeReady config now with
      | none =>
          simp [call, pops, taken]
      | some result =>
          simp [call, pops, taken]
  | drain =>
      rw [pops, MicroBatcher.drainPops_batches]
      rfl

theorem Conserved.pops {config : MicroBatcherConfig Item Key}
    {history : BatcherHistory Item Key}
    (conserved : Conserved config history) (made : BatcherCall Item) :
    ∀ popped ∈ history.pops config made,
      MicroBatcher.PopWellFormed config popped := by
  intro popped member
  cases made with
  | add now item =>
      cases member
  | takeReady now =>
      exact MicroBatcher.takeReady_popWellFormed conserved.wellFormed
        (Option.mem_toList.mp member)
  | drain =>
      exact MicroBatcher.drainPops_popWellFormed config history.batcher
        conserved.wellFormed popped member

/-- Whatever is in a released batch was added. -/
theorem Conserved.released_added {config : MicroBatcherConfig Item Key}
    {history : BatcherHistory Item Key}
    (conserved : Conserved config history) {batch : Batch Item Key}
    (released : batch ∈ history.released) :
    ∀ item ∈ batch.items, item ∈ history.added := by
  intro item member
  have ofKey : item ∈ releasedOf history.released batch.key := by
    unfold releasedOf
    exact List.mem_flatMap.mpr
      ⟨batch, List.mem_filter.mpr ⟨released, by simp⟩, member⟩
  have balanced : item ∈ history.added.filter
      (fun item => config.keyOf item = batch.key) := by
    rw [← conserved.balance batch.key]
    exact List.mem_append_left _ ofKey
  exact (List.mem_filter.mp balanced).1

/-- What a run added, by its calls. -/
theorem added_of_run (config : MicroBatcherConfig Item Key)
    (calls : List (BatcherCall Item)) :
    ∀ history : BatcherHistory Item Key, ∀ item,
      item ∈ (calls.foldl (BatcherHistory.call config) history).added →
        item ∈ history.added ∨ ∃ now, BatcherCall.add now item ∈ calls := by
  induction calls with
  | nil =>
      intro history item member
      exact Or.inl member
  | cons made rest inductionHypothesis =>
      intro history item member
      rcases inductionHypothesis _ item member with
        before | ⟨now, later⟩
      · cases made with
        | add now added =>
            rcases List.mem_append.mp before with earlier | new
            · exact Or.inl earlier
            · rw [List.mem_singleton.mp new]
              exact Or.inr ⟨now, List.mem_cons_self⟩
        | takeReady now =>
            left
            cases taken : history.batcher.takeReady config now with
            | none =>
                simpa [call, taken] using before
            | some result =>
                simpa [call, taken] using before
        | drain =>
            exact Or.inl before
      · exact Or.inr ⟨now, List.mem_cons_of_mem _ later⟩

/-- After every run of calls that added items of size one or more, each batch
that the next call returns is nonempty and of one key, counts its texts, holds
at most `max_texts` of them unless it is a single item, takes an item that is
larger than that alone, and leaves its group empty or with a first item that
did not fit. -/
theorem releasedBatches (config : MicroBatcherConfig Item Key)
    (calls : List (BatcherCall Item))
    (sized : ∀ now item, BatcherCall.add now item ∈ calls →
      1 ≤ config.sizeOf item)
    (made : BatcherCall Item) :
    let history := calls.foldl (BatcherHistory.call config) {}
    (history.call config made).released =
        history.released ++ (history.pops config made).map Prod.fst ∧
      ∀ batch left, (batch, left) ∈ history.pops config made →
        batch.items ≠ [] ∧
        (∀ item ∈ batch.items, config.keyOf item = batch.key) ∧
        batch.texts = (batch.items.map config.sizeOf).sum ∧
        (batch.texts ≤ config.maxTexts ∨ ∃ item, batch.items = [item]) ∧
        (∀ item ∈ batch.items, config.maxTexts < config.sizeOf item →
          batch.items = [item]) ∧
        ∀ next, (left.pendingOf batch.key).head? = some next →
          config.maxTexts < batch.texts + config.sizeOf next := by
  intro history
  have conserved : Conserved config history :=
    Conserved.run calls (conserved_start config)
  have returned := history.call_pops config made
  refine ⟨returned, ?_⟩
  intro batch left popped
  have wellFormed := conserved.pops made _ popped
  have batchSized : ∀ item ∈ batch.items, 1 ≤ config.sizeOf item := by
    intro item member
    have released : batch ∈ (history.call config made).released := by
      rw [returned]
      exact List.mem_append_right _ (List.mem_map_of_mem popped)
    have added : item ∈ ((calls ++ [made]).foldl
        (BatcherHistory.call config) {}).added := by
      rw [List.foldl_append]
      exact (conserved.call made).released_added released item member
    rcases added_of_run config _ {} item added with start | ⟨now, call⟩
    · cases start
    · rcases List.mem_append.mp call with earlier | last
      · exact sized now item earlier
      · rw [← List.mem_singleton.mp last] at popped
        cases popped
  refine ⟨wellFormed.batch.nonempty, wellFormed.batch.sameKey,
    wellFormed.batch.texts, wellFormed.batch.bounded, ?_, wellFormed.fills⟩
  intro item member oversized
  have bounded := wellFormed.batch.bounded
  rw [wellFormed.batch.texts] at bounded
  exact MicroBatcherConfig.oversized_alone batchSized bounded member
    oversized

theorem sizesConfig_positive : (1 : Int) ≤ 4 := by
  decide

/-- Items that are their own sizes, all of one key, four texts a batch. -/
def sizesConfig : MicroBatcherConfig Int Unit where
  maxTexts := 4
  maxTextsPositive := sizesConfig_positive
  window := 5
  sizeOf := id
  keyOf := fun _ => ()

/-- A small item goes before an oversized one, which does not fit in with
it. -/
theorem releasedBatches_oversized :
    let history := [BatcherCall.add 0 1, .add 0 7, .add 0 2].foldl
      (BatcherHistory.call sizesConfig) {}
    (history.call sizesConfig (.takeReady 0)).released.map Batch.items =
        [[1]] ∧
      ∀ batch left,
        (batch, left) ∈ history.pops sizesConfig (.takeReady 0) →
          ∀ next, (left.pendingOf ()).head? = some next →
            4 < batch.texts + next := by
  intro history
  have sized : ∀ now item,
      BatcherCall.add now item ∈
          [BatcherCall.add 0 1, .add 0 7, .add 0 2] →
        1 ≤ sizesConfig.sizeOf item := by
    intro now item member
    simp only [List.mem_cons, BatcherCall.add.injEq, List.not_mem_nil,
      or_false] at member
    rcases member with ⟨_, rfl⟩ | ⟨_, rfl⟩ | ⟨_, rfl⟩ <;> decide
  have wellFormed := releasedBatches sizesConfig _ sized (.takeReady 0)
  refine ⟨by decide, ?_⟩
  intro batch left popped
  exact (wellFormed.2 batch left popped).2.2.2.2.2

end BatcherHistory

end EmbeddingService
