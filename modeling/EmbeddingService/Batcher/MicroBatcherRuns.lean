import EmbeddingService.Batcher.MicroBatcher

/-!
# Runs of the micro-batcher

A history records what was added and what was released by a sequence of calls
at arbitrary clock readings.  For each key, the released items followed by the
pending ones are the added ones, in order.
-/

namespace EmbeddingService

universe u v

variable {Item : Type u} {Key : Type v} [DecidableEq Key]

namespace MicroBatcher

/-- The items pending under one key. -/
def pendingOf (batcher : MicroBatcher Item Key) (key : Key) : List Item :=
  ((batcher.groups.lookup key).map Group.items).getD []

/-- What `add` and `_pop` keep true of every stored group. -/
structure GroupWellFormed (config : MicroBatcherConfig Item Key)
    (key : Key) (group : Group Item) : Prop where
  nonempty : group.items ≠ []
  texts : group.texts = config.textsOf group.items
  sameKey : ∀ item ∈ group.items, config.keyOf item = key

def WellFormed (config : MicroBatcherConfig Item Key)
    (batcher : MicroBatcher Item Key) : Prop :=
  ∀ key group, batcher.groups.lookup key = some group →
    GroupWellFormed config key group

theorem wellFormed_empty (config : MicroBatcherConfig Item Key) :
    WellFormed config {} := by
  intro key group found
  simp at found

theorem add_wellFormed (config : MicroBatcherConfig Item Key)
    {batcher : MicroBatcher Item Key}
    (wellFormed : batcher.WellFormed config)
    (now : Seconds) (item : Item) :
    (batcher.add config now item).WellFormed config := by
  intro key group found
  by_cases same : key = config.keyOf item
  · subst same
    simp only [add, OrderedDict.lookup_assign_self,
      Option.some.injEq] at found
    subst found
    cases stored : batcher.groups.lookup (config.keyOf item) with
    | none =>
        exact
          { nonempty := by simp
            texts := by simp
            sameKey := by simp }
    | some old =>
        have oldWellFormed := wellFormed _ old stored
        refine
          { nonempty := by simp
            texts := by simp [oldWellFormed.texts]
            sameKey := ?_ }
        intro other member
        simp only [Option.getD_some, List.mem_append,
          List.mem_singleton] at member
        rcases member with earlier | rfl
        · exact oldWellFormed.sameKey other earlier
        · rfl
  · simp only [add, OrderedDict.lookup_assign_of_ne _ _ same] at found
    exact wellFormed key group found

theorem pendingOf_add (config : MicroBatcherConfig Item Key)
    (batcher : MicroBatcher Item Key) (now : Seconds) (item : Item)
    (key : Key) :
    (batcher.add config now item).pendingOf key =
      batcher.pendingOf key ++
        (if config.keyOf item = key then [item] else []) := by
  by_cases same : config.keyOf item = key
  · subst same
    rw [if_pos rfl]
    simp only [add, pendingOf, OrderedDict.lookup_assign_self]
    cases batcher.groups.lookup (config.keyOf item) with
    | none =>
        rfl
    | some group =>
        rfl
  · rw [if_neg same, List.append_nil]
    simp only [add, pendingOf,
      OrderedDict.lookup_assign_of_ne _ _ (Ne.symm same)]

/-- The groups after a pop: the other ones as they were, and the leftovers
under the popped key. -/
theorem popGroup_lookup_iff (config : MicroBatcherConfig Item Key)
    (batcher : MicroBatcher Item Key) (key other : Key)
    (group found : Group Item) :
    (batcher.popGroup config key group).2.groups.lookup other =
        some found ↔
      (other ≠ key ∧ batcher.groups.lookup other = some found) ∨
        (other, found) ∈ leftovers config key group := by
  rw [OrderedDict.lookup_eq_some_iff, popGroup_entries,
    List.mem_append, OrderedDict.mem_erase_iff,
    OrderedDict.lookup_eq_some_iff, and_comm]

theorem popGroup_wellFormed (config : MicroBatcherConfig Item Key)
    {batcher : MicroBatcher Item Key}
    (wellFormed : batcher.WellFormed config)
    {key : Key} {group : Group Item}
    (stored : batcher.groups.lookup key = some group) :
    (batcher.popGroup config key group).2.WellFormed config := by
  intro other found after
  rcases (popGroup_lookup_iff config batcher key other group found).mp after
    with ⟨_, untouched⟩ | left
  · exact wellFormed other found untouched
  · have groupWellFormed := wellFormed key group stored
    obtain ⟨notDone, entryEqual⟩ :=
      (mem_leftovers_iff config key group _).mp left
    injection entryEqual with keyEqual foundEqual
    subst keyEqual
    subst foundEqual
    obtain ⟨moved, _, textsEqual, split⟩ :=
      config.takeLoop_spec group.items [] 0
    have total :
        config.textsOf group.items =
          config.textsOf moved +
            config.textsOf (config.takeLoop [] 0 group.items).2.2 := by
      rw [← config.textsOf_append, split]
    refine
      { nonempty := notDone
        texts := ?_
        sameKey := ?_ }
    · simp only
      rw [groupWellFormed.texts, textsEqual, total]
      omega
    · intro item member
      apply groupWellFormed.sameKey item
      rw [← split]
      exact List.mem_append_right moved member

theorem pendingOf_popGroup_self
    (config : MicroBatcherConfig Item Key)
    (batcher : MicroBatcher Item Key) (key : Key) (group : Group Item) :
    (batcher.popGroup config key group).2.pendingOf key =
      (leftovers config key group).flatMap (fun entry => entry.2.items) := by
  by_cases done : (config.takeLoop [] 0 group.items).2.2 = []
  · have nothingLeft : leftovers config key group = [] := by
      simp [leftovers, done]
    have missing :
        (batcher.popGroup config key group).2.groups.lookup key = none := by
      rw [Option.eq_none_iff_forall_ne_some]
      intro found present
      rcases (popGroup_lookup_iff config batcher key key group found).mp
        present with ⟨different, _⟩ | member
      · exact different rfl
      · simp [nothingLeft] at member
    simp [pendingOf, missing, nothingLeft]
  · let left : Group Item :=
      { group with
        items := (config.takeLoop [] 0 group.items).2.2
        texts := group.texts - (config.takeLoop [] 0 group.items).2.1 }
    have present :
        (batcher.popGroup config key group).2.groups.lookup key =
          some left :=
      (popGroup_lookup_iff config batcher key key group left).mpr
        (Or.inr ((mem_leftovers_iff config key group _).mpr ⟨done, rfl⟩))
    simp [pendingOf, present, leftovers, done, left]

private theorem pendingOf_popGroup_of_ne
    (config : MicroBatcherConfig Item Key)
    (batcher : MicroBatcher Item Key) {key other : Key}
    (group : Group Item) (different : key ≠ other) :
    (batcher.popGroup config key group).2.pendingOf other =
      batcher.pendingOf other := by
  have untouched :
      (batcher.popGroup config key group).2.groups.lookup other =
        batcher.groups.lookup other := by
    apply Option.ext
    intro found
    rw [popGroup_lookup_iff]
    constructor
    · rintro (⟨_, kept⟩ | member)
      · exact kept
      · obtain ⟨_, entryEqual⟩ :=
          (mem_leftovers_iff config key group _).mp member
        exact False.elim (different (congrArg Prod.fst entryEqual).symm)
    · intro kept
      exact Or.inl ⟨Ne.symm different, kept⟩
  simp [pendingOf, untouched]

/-- A pop moves the front of one key's items into the batch. -/
theorem pendingOf_popGroup (config : MicroBatcherConfig Item Key)
    (batcher : MicroBatcher Item Key) {key : Key} {group : Group Item}
    (stored : batcher.groups.lookup key = some group) (other : Key) :
    batcher.pendingOf other =
      (if key = other then (batcher.popGroup config key group).1.items
        else []) ++
        (batcher.popGroup config key group).2.pendingOf other := by
  by_cases same : key = other
  · subst same
    have before : batcher.pendingOf key = group.items := by
      simp [pendingOf, stored]
    rw [if_pos rfl, before, popGroup_batch, pendingOf_popGroup_self]
    exact (popGroup_split config key group).symm
  · rw [if_neg same, List.nil_append,
      pendingOf_popGroup_of_ne config batcher group same]

end MicroBatcher

/-- A batcher with what was added to it and what it released, in order. -/
structure BatcherHistory (Item : Type u) (Key : Type v) where
  batcher : MicroBatcher Item Key := {}
  released : List (Batch Item Key) := []
  added : List Item := []

/-- One call, at the clock reading it makes. -/
inductive BatcherCall (Item : Type u) where
  | add (now : Seconds) (item : Item)
  | takeReady (now : Seconds)
  | drain

namespace BatcherHistory

/-- Perform one call. -/
def call (config : MicroBatcherConfig Item Key)
    (history : BatcherHistory Item Key) :
    BatcherCall Item → BatcherHistory Item Key
  | .add now item =>
      { history with
        batcher := history.batcher.add config now item
        added := history.added ++ [item] }
  | .takeReady now =>
      match history.batcher.takeReady config now with
      | none => history
      | some (batch, rest) =>
          { history with
            batcher := rest
            released := history.released ++ [batch] }
  | .drain =>
      { history with
        batcher := (history.batcher.drain config).2
        released := history.released ++ (history.batcher.drain config).1 }

/-- The items of all batches released under one key, in release order. -/
def releasedOf (released : List (Batch Item Key)) (key : Key) : List Item :=
  (released.filter (fun batch => batch.key = key)).flatMap Batch.items

/-- Nothing is lost, duplicated or reordered under any key. -/
structure Conserved (config : MicroBatcherConfig Item Key)
    (history : BatcherHistory Item Key) : Prop where
  wellFormed : history.batcher.WellFormed config
  balance : ∀ key,
    releasedOf history.released key ++ history.batcher.pendingOf key =
      history.added.filter (fun item => config.keyOf item = key)

theorem conserved_start (config : MicroBatcherConfig Item Key) :
    Conserved config {} where
  wellFormed := MicroBatcher.wellFormed_empty config
  balance := by
    intro key
    simp [releasedOf, MicroBatcher.pendingOf]

theorem releasedOf_snoc (released : List (Batch Item Key))
    (batch : Batch Item Key) (key : Key) :
    releasedOf (released ++ [batch]) key =
      releasedOf released key ++
        (if batch.key = key then batch.items else []) := by
  by_cases same : batch.key = key
  · simp [releasedOf, same]
  · simp [releasedOf, same]

theorem Conserved.add {config : MicroBatcherConfig Item Key}
    {history : BatcherHistory Item Key}
    (conserved : Conserved config history) (now : Seconds) (item : Item) :
    Conserved config (history.call config (.add now item)) where
  wellFormed :=
    MicroBatcher.add_wellFormed config conserved.wellFormed now item
  balance := by
    intro key
    simp only [call, MicroBatcher.pendingOf_add, List.filter_append,
      ← conserved.balance key, List.append_assoc]
    congr 2
    by_cases same : config.keyOf item = key
    · simp [same]
    · simp [same]

/-- The release of one popped group. -/
theorem Conserved.popGroup {config : MicroBatcherConfig Item Key}
    {history : BatcherHistory Item Key}
    (conserved : Conserved config history)
    {key : Key} {group : Group Item}
    (stored : history.batcher.groups.lookup key = some group) :
    Conserved config
      { history with
        batcher := (history.batcher.popGroup config key group).2
        released := history.released ++
          [(history.batcher.popGroup config key group).1] } where
  wellFormed :=
    MicroBatcher.popGroup_wellFormed config conserved.wellFormed stored
  balance := by
    intro other
    have moved :=
      MicroBatcher.pendingOf_popGroup config history.batcher stored other
    have batchKey :
        (history.batcher.popGroup config key group).1.key = key := by
      simp
    rw [← conserved.balance other, moved, releasedOf_snoc, batchKey,
      List.append_assoc]

theorem Conserved.takeReady {config : MicroBatcherConfig Item Key}
    {history : BatcherHistory Item Key}
    (conserved : Conserved config history) (now : Seconds) :
    Conserved config (history.call config (.takeReady now)) := by
  cases taken : history.batcher.takeReady config now with
  | none =>
      simpa only [call, taken] using conserved
  | some result =>
      obtain ⟨key, _, popped⟩ := Option.bind_eq_some_iff.mp taken
      obtain ⟨group, stored, resultEqual⟩ := Option.map_eq_some_iff.mp popped
      subst resultEqual
      simpa only [call, taken] using conserved.popGroup stored

theorem Conserved.drain {config : MicroBatcherConfig Item Key}
    {history : BatcherHistory Item Key}
    (conserved : Conserved config history) :
    Conserved config (history.call config .drain) := by
  obtain ⟨batcher, released, added⟩ := history
  induction batcher using MicroBatcher.drain_induction config
    generalizing released with
  | empty batcher none =>
      simpa [call, batcher.drain_of_empty config none] using conserved
  | popped batcher key group others first inductionHypothesis =>
      have afterOne := conserved.popGroup (OrderedDict.lookup_first first)
      have afterAll := inductionHypothesis _ afterOne
      simp only [call] at afterAll ⊢
      rw [batcher.drain_of_cons config first]
      simpa [List.append_assoc] using afterAll

/-- One call keeps the balance. -/
theorem Conserved.call {config : MicroBatcherConfig Item Key}
    {history : BatcherHistory Item Key}
    (conserved : Conserved config history) (made : BatcherCall Item) :
    Conserved config (history.call config made) := by
  cases made with
  | add now item =>
      exact conserved.add now item
  | takeReady now =>
      exact conserved.takeReady now
  | drain =>
      exact conserved.drain

/-- A run of calls keeps the balance. -/
theorem Conserved.run {config : MicroBatcherConfig Item Key}
    (calls : List (BatcherCall Item)) :
    ∀ {history : BatcherHistory Item Key}, Conserved config history →
      Conserved config (calls.foldl (BatcherHistory.call config) history) := by
  induction calls with
  | nil =>
      intro history conserved
      exact conserved
  | cons made rest inductionHypothesis =>
      intro history conserved
      exact inductionHypothesis (conserved.call made)

/-- Over every sequence of calls at any clock readings: the batches released
under a key and then the items still pending under it are the items added with
that key, in order; every stored group is nonempty and counts its texts; and a
drain leaves nothing pending. -/
theorem microBatcherConserves (config : MicroBatcherConfig Item Key)
    (calls : List (BatcherCall Item)) :
    let history := calls.foldl (BatcherHistory.call config) {}
    (∀ key,
      releasedOf history.released key ++ history.batcher.pendingOf key =
        history.added.filter (fun item => config.keyOf item = key)) ∧
    (∀ key group, history.batcher.groups.lookup key = some group →
      group.items ≠ [] ∧
        group.texts = (group.items.map config.sizeOf).sum) ∧
    (history.call config .drain).batcher.groups.entries = [] := by
  intro history
  have conserved : Conserved config history :=
    Conserved.run calls (conserved_start config)
  refine ⟨conserved.balance, ?_, ?_⟩
  · intro key group stored
    have groupWellFormed := conserved.wellFormed key group stored
    exact ⟨groupWellFormed.nonempty, groupWellFormed.texts⟩
  · exact history.batcher.drain_empties config

end BatcherHistory

namespace MicroBatcher

variable {Item : Type u} {Key : Type v}

/-- `__len__`. -/
def size (batcher : MicroBatcher Item Key) : Nat :=
  (batcher.groups.entries.map (fun entry => entry.2.items.length)).sum

/-- `pending_texts`. -/
def pendingTexts (batcher : MicroBatcher Item Key) : Int :=
  (batcher.groups.entries.map (fun entry => entry.2.texts)).sum

theorem size_eq_length_pending (batcher : MicroBatcher Item Key) :
    batcher.size = batcher.pending.length :=
  List.length_flatMap.symm

/-- The counters of the groups add up to the sizes of the items. -/
theorem WellFormed.pendingTexts [DecidableEq Key]
    {config : MicroBatcherConfig Item Key}
    {batcher : MicroBatcher Item Key}
    (wellFormed : batcher.WellFormed config) :
    batcher.pendingTexts = config.textsOf batcher.pending := by
  have counted : ∀ entries : List (Key × Group Item),
      (∀ entry ∈ entries, entry.2.texts = config.textsOf entry.2.items) →
        (entries.map (fun entry => entry.2.texts)).sum =
          config.textsOf
            (entries.flatMap (fun entry => entry.2.items)) := by
    intro entries texts
    induction entries with
    | nil =>
        rfl
    | cons entry later inductionHypothesis =>
        rw [List.forall_mem_cons] at texts
        rw [List.map_cons, List.sum_cons, List.flatMap_cons,
          MicroBatcherConfig.textsOf_append, texts.1,
          inductionHypothesis texts.2]
  refine counted _ (fun entry member => ?_)
  have stored := (batcher.groups.lookup_eq_some_iff _ _).mpr member
  exact (wellFormed _ _ stored).texts

end MicroBatcher

end EmbeddingService
