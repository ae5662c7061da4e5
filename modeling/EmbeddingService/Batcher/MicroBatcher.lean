import Mathlib.Algebra.BigOperators.Group.List.Basic
import Mathlib.Data.Rat.Init
import Mathlib.Algebra.Order.Ring.Rat
import Mathlib.Algebra.Ring.Nat
import EmbeddingService.Library.OrderedDict

/-!
# The micro-batcher

`MicroBatcher` collects items by key and releases a group when it holds
`maxTexts` texts or its oldest item has waited one window.  The clock is an
argument of the operations that read it, so that every sequence of readings is
covered.
-/

namespace EmbeddingService

universe u v

/-- Readings of the batcher's clock and lengths of time, in seconds. -/
abbrev Seconds := ℚ

structure Batch (Item : Type u) (Key : Type v) where
  key : Key
  items : List Item
  texts : Int

structure Group (Item : Type u) where
  firstAdded : Seconds
  items : List Item := []
  texts : Int := 0

/-- The arguments of `MicroBatcher.__init__`, which refuses `max_texts`
below one. -/
structure MicroBatcherConfig (Item : Type u) (Key : Type v) where
  maxTexts : Int
  maxTextsPositive : 1 ≤ maxTexts
  window : Seconds
  sizeOf : Item → Int
  keyOf : Item → Key

namespace MicroBatcherConfig

variable {Item : Type u} {Key : Type v}

/-- `_window_s`: a negative window counts as none. -/
def windowS (config : MicroBatcherConfig Item Key) : Seconds :=
  max config.window 0

/-- Sum of the sizes of some items. -/
def textsOf (config : MicroBatcherConfig Item Key)
    (items : List Item) : Int :=
  (items.map config.sizeOf).sum

@[simp]
theorem textsOf_nil (config : MicroBatcherConfig Item Key) :
    config.textsOf [] = 0 :=
  rfl

@[simp]
theorem textsOf_append (config : MicroBatcherConfig Item Key)
    (first second : List Item) :
    config.textsOf (first ++ second) =
      config.textsOf first + config.textsOf second := by
  simp [textsOf]

@[simp]
theorem textsOf_singleton (config : MicroBatcherConfig Item Key)
    (item : Item) :
    config.textsOf [item] = config.sizeOf item := by
  simp [textsOf]

/-- The greedy loop of `_pop`.  The first item is always taken, so that an
oversized one cannot wedge its group. -/
def takeLoop (config : MicroBatcherConfig Item Key) :
    List Item → Int → List Item → List Item × Int × List Item
  | taken, texts, [] => (taken, texts, [])
  | taken, texts, item :: rest =>
      if taken.isEmpty ∨ texts + config.sizeOf item ≤ config.maxTexts then
        takeLoop config (taken ++ [item]) (texts + config.sizeOf item) rest
      else
        (taken, texts, item :: rest)

theorem takeLoop_spec (config : MicroBatcherConfig Item Key)
    (items : List Item) :
    ∀ taken texts,
      ∃ moved,
        (config.takeLoop taken texts items).1 = taken ++ moved ∧
        (config.takeLoop taken texts items).2.1 =
          texts + config.textsOf moved ∧
        moved ++ (config.takeLoop taken texts items).2.2 = items := by
  induction items with
  | nil =>
      intro taken texts
      exact ⟨[], by simp [takeLoop]⟩
  | cons item rest inductionHypothesis =>
      intro taken texts
      rw [takeLoop]
      split
      · obtain ⟨moved, takenEqual, textsEqual, split⟩ :=
          inductionHypothesis (taken ++ [item])
            (texts + config.sizeOf item)
        refine ⟨item :: moved, ?_, ?_, ?_⟩
        · rw [takenEqual, List.append_assoc, List.singleton_append]
        · rw [textsEqual, ← List.singleton_append, textsOf_append,
            textsOf_singleton, add_assoc]
        · rw [List.cons_append, split]
      · exact ⟨[], by simp⟩

theorem takeLoop_takes (config : MicroBatcherConfig Item Key)
    {items : List Item} (nonempty : items ≠ []) :
    (config.takeLoop [] 0 items).1 ≠ [] := by
  cases items with
  | nil =>
      exact False.elim (nonempty rfl)
  | cons item rest =>
      obtain ⟨moved, takenEqual, _⟩ :=
        config.takeLoop_spec rest [item] (config.sizeOf item)
      simp [takeLoop, takenEqual]

end MicroBatcherConfig

/-- The pending groups, in dictionary order, and the event `_changed`. -/
structure MicroBatcher (Item : Type u) (Key : Type v) where
  groups : OrderedDict Key (Group Item) := OrderedDict.empty
  changed : Bool := false

namespace MicroBatcher

variable {Item : Type u} {Key : Type v}

/-- Every pending item, group by group. -/
def pending (batcher : MicroBatcher Item Key) : List Item :=
  batcher.groups.entries.flatMap (fun entry => entry.2.items)

/-- The entry that a pop puts back: none when the whole group was taken. -/
def leftovers (config : MicroBatcherConfig Item Key)
    (key : Key) (group : Group Item) : List (Key × Group Item) :=
  let split := config.takeLoop [] 0 group.items
  if split.2.2.isEmpty then
    []
  else
    [(key, { group with
        items := split.2.2
        texts := group.texts - split.2.1 })]

theorem mem_leftovers_iff (config : MicroBatcherConfig Item Key)
    (key : Key) (group : Group Item) (entry : Key × Group Item) :
    entry ∈ leftovers config key group ↔
      (config.takeLoop [] 0 group.items).2.2 ≠ [] ∧
        entry = (key, { group with
          items := (config.takeLoop [] 0 group.items).2.2
          texts := group.texts -
            (config.takeLoop [] 0 group.items).2.1 }) := by
  unfold leftovers
  by_cases done : (config.takeLoop [] 0 group.items).2.2 = []
  · simp [done]
  · simp [done]

/-- The batch and the leftovers are the popped group, in order. -/
theorem popGroup_split (config : MicroBatcherConfig Item Key)
    (key : Key) (group : Group Item) :
    (config.takeLoop [] 0 group.items).1 ++
      (leftovers config key group).flatMap (fun entry => entry.2.items) =
        group.items := by
  obtain ⟨moved, takenEqual, _, split⟩ :=
    config.takeLoop_spec group.items [] 0
  rw [List.nil_append] at takenEqual
  unfold leftovers
  by_cases done : (config.takeLoop [] 0 group.items).2.2 = []
  · rw [done, List.append_nil] at split
    simp [done, takenEqual, split]
  · simp [done, takenEqual, split]

/-- What is left to drain: one for each pending item and each group. -/
def entriesWeight (entries : List (Key × Group Item)) : Nat :=
  (entries.map (fun entry => entry.2.items.length + 1)).sum

def weight (batcher : MicroBatcher Item Key) : Nat :=
  entriesWeight batcher.groups.entries

variable [DecidableEq Key]

def add (config : MicroBatcherConfig Item Key)
    (batcher : MicroBatcher Item Key) (now : Seconds) (item : Item) :
    MicroBatcher Item Key :=
  let key := config.keyOf item
  let group := (batcher.groups.lookup key).getD { firstAdded := now }
  { groups := batcher.groups.assign key
      { group with
        items := group.items ++ [item]
        texts := group.texts + config.sizeOf item }
    changed := true }

/-- `_pop` of the group stored under `key`.  Leftovers keep the group's
timestamp and go back in at the end of the dictionary. -/
def popGroup (config : MicroBatcherConfig Item Key)
    (batcher : MicroBatcher Item Key) (key : Key) (group : Group Item) :
    Batch Item Key × MicroBatcher Item Key :=
  let split := config.takeLoop [] 0 group.items
  let batch : Batch Item Key :=
    { key := key, items := split.1, texts := split.2.1 }
  let others := batcher.groups.erase key
  if split.2.2.isEmpty then
    (batch, { batcher with groups := others })
  else
    (batch,
      { groups := others.assign key
          { group with
            items := split.2.2
            texts := group.texts - split.2.1 }
        changed := true })

/-- `_pop`; there is no group to pop under an absent key. -/
def pop (config : MicroBatcherConfig Item Key)
    (batcher : MicroBatcher Item Key) (key : Key) :
    Option (Batch Item Key × MicroBatcher Item Key) :=
  (batcher.groups.lookup key).map (batcher.popGroup config key)

/-- The loop of `take_ready`: the first full group, else the expired group
with the earliest timestamp.  `due` is the best expired group so far. -/
def readyKey (config : MicroBatcherConfig Item Key) (now : Seconds) :
    Option (Seconds × Key) → List (Key × Group Item) → Option Key
  | due, [] => due.map Prod.snd
  | due, (key, group) :: rest =>
      if config.maxTexts ≤ group.texts then
        some key
      else if config.windowS ≤ now - group.firstAdded then
        match due with
        | none => readyKey config now (some (group.firstAdded, key)) rest
        | some best =>
            if group.firstAdded < best.1 then
              readyKey config now (some (group.firstAdded, key)) rest
            else
              readyKey config now due rest
      else
        readyKey config now due rest

def takeReady (config : MicroBatcherConfig Item Key)
    (batcher : MicroBatcher Item Key) (now : Seconds) :
    Option (Batch Item Key × MicroBatcher Item Key) :=
  (readyKey config now none batcher.groups.entries).bind
    (batcher.pop config)

@[simp]
theorem popGroup_batch (config : MicroBatcherConfig Item Key)
    (batcher : MicroBatcher Item Key) (key : Key) (group : Group Item) :
    (batcher.popGroup config key group).1 =
      { key := key
        items := (config.takeLoop [] 0 group.items).1
        texts := (config.takeLoop [] 0 group.items).2.1 } := by
  unfold popGroup
  dsimp only
  split <;> rfl

/-- The other groups keep their order and the leftovers go last. -/
theorem popGroup_entries (config : MicroBatcherConfig Item Key)
    (batcher : MicroBatcher Item Key) (key : Key) (group : Group Item) :
    (batcher.popGroup config key group).2.groups.entries =
      (batcher.groups.erase key).entries ++ leftovers config key group := by
  unfold popGroup leftovers
  by_cases done : (config.takeLoop [] 0 group.items).2.2 = []
  · simp [done]
  · have reinserted :=
      OrderedDict.assign_of_lookup_none (batcher.groups.erase key)
        { group with
          items := (config.takeLoop [] 0 group.items).2.2
          texts := group.texts - (config.takeLoop [] 0 group.items).2.1 }
        (batcher.groups.lookup_erase_self key)
    simp [done, reinserted]

/-- Popping a stored group splits its items and touches no other group. -/
theorem popGroup_pending (config : MicroBatcherConfig Item Key)
    (batcher : MicroBatcher Item Key) {key : Key} {group : Group Item}
    (found : batcher.groups.lookup key = some group) :
    batcher.pending.Perm
      ((batcher.popGroup config key group).1.items ++
        (batcher.popGroup config key group).2.pending) := by
  have exposed :
      batcher.pending.Perm
        (group.items ++
          (batcher.groups.erase key).entries.flatMap
            (fun entry => entry.2.items)) :=
    (batcher.groups.entries_perm_cons_erase found).flatMap_right _
  refine exposed.trans ?_
  rw [popGroup_batch, pending, popGroup_entries, List.flatMap_append]
  nth_rewrite 1 [← popGroup_split config key group]
  rw [List.append_assoc]
  exact List.perm_append_comm.append_left _

theorem add_pending (config : MicroBatcherConfig Item Key)
    (batcher : MicroBatcher Item Key) (now : Seconds) (item : Item) :
    (batcher.add config now item).pending.Perm (item :: batcher.pending) := by
  have reordered :=
    (batcher.groups.assign_entries_perm (config.keyOf item)
      { (batcher.groups.lookup (config.keyOf item)).getD
          { firstAdded := now } with
        items := ((batcher.groups.lookup (config.keyOf item)).getD
          { firstAdded := now }).items ++ [item]
        texts := ((batcher.groups.lookup (config.keyOf item)).getD
          { firstAdded := now }).texts + config.sizeOf item }).flatMap_right
      (fun entry => entry.2.items)
  refine reordered.trans ?_
  cases found : batcher.groups.lookup (config.keyOf item) with
  | none =>
      rw [batcher.groups.erase_of_lookup_none found]
      simp [pending]
  | some group =>
      have exposed :=
        (batcher.groups.entries_perm_cons_erase found).flatMap_right
          (fun entry => entry.2.items)
      simp only [List.flatMap_cons, Option.getD_some] at exposed ⊢
      refine List.Perm.trans ?_ (exposed.symm.cons item)
      rw [List.append_assoc, List.singleton_append]
      exact List.perm_middle

theorem pop_pending (config : MicroBatcherConfig Item Key)
    (batcher : MicroBatcher Item Key) {key : Key}
    {batch : Batch Item Key} {rest : MicroBatcher Item Key}
    (popped : batcher.pop config key = some (batch, rest)) :
    batcher.pending.Perm (batch.items ++ rest.pending) := by
  obtain ⟨group, found, result⟩ := Option.map_eq_some_iff.mp popped
  have split := batcher.popGroup_pending config found
  rw [result] at split
  exact split

theorem takeReady_pending (config : MicroBatcherConfig Item Key)
    (batcher : MicroBatcher Item Key) {now : Seconds}
    {batch : Batch Item Key} {rest : MicroBatcher Item Key}
    (taken : batcher.takeReady config now = some (batch, rest)) :
    batcher.pending.Perm (batch.items ++ rest.pending) := by
  obtain ⟨key, _, popped⟩ := Option.bind_eq_some_iff.mp taken
  exact batcher.pop_pending config popped

omit [DecidableEq Key] in
theorem leftovers_weight (config : MicroBatcherConfig Item Key)
    (key : Key) (group : Group Item) :
    entriesWeight (leftovers config key group) ≤ group.items.length ∧
      entriesWeight (leftovers config key group) +
          (config.takeLoop [] 0 group.items).1.length ≤
        group.items.length + 1 := by
  have lengths := congrArg List.length (popGroup_split config key group)
  by_cases done : (config.takeLoop [] 0 group.items).2.2 = []
  · simp only [leftovers, entriesWeight, List.isEmpty_iff, done, if_true,
      List.length_append, List.flatMap_nil, List.length_nil, List.map_nil,
      List.sum_nil] at lengths ⊢
    omega
  · have groupNonempty : group.items ≠ [] := by
      intro empty
      simp [empty, MicroBatcherConfig.takeLoop] at done
    have taken :=
      List.length_pos_iff.mpr (config.takeLoop_takes groupNonempty)
    simp only [leftovers, entriesWeight, List.isEmpty_iff, done, if_false,
      List.length_append, List.flatMap_singleton, List.map_singleton,
      List.sum_singleton] at lengths ⊢
    omega

/-- Every pop makes progress: a group goes away, or leaves fewer items. -/
theorem popGroup_weight (config : MicroBatcherConfig Item Key)
    (batcher : MicroBatcher Item Key) {key : Key} {group : Group Item}
    (found : batcher.groups.lookup key = some group) :
    (batcher.popGroup config key group).2.weight < batcher.weight ∧
      (batcher.popGroup config key group).2.weight +
          (batcher.popGroup config key group).1.items.length ≤
        batcher.weight := by
  have before :
      batcher.weight =
        group.items.length + 1 +
          entriesWeight (batcher.groups.erase key).entries := by
    have exposed :=
      ((batcher.groups.entries_perm_cons_erase found).map
        (fun entry => entry.2.items.length + 1)).sum_eq
    rw [List.map_cons, List.sum_cons] at exposed
    exact exposed
  have after :
      (batcher.popGroup config key group).2.weight =
        entriesWeight (batcher.groups.erase key).entries +
          entriesWeight (leftovers config key group) := by
    rw [weight, popGroup_entries, entriesWeight, List.map_append,
      List.sum_append]
    rfl
  obtain ⟨lighter, split⟩ := leftovers_weight config key group
  rw [popGroup_batch]
  dsimp only
  omega

theorem takeReady_weight (config : MicroBatcherConfig Item Key)
    (batcher : MicroBatcher Item Key) {now : Seconds}
    {batch : Batch Item Key} {rest : MicroBatcher Item Key}
    (taken : batcher.takeReady config now = some (batch, rest)) :
    rest.weight < batcher.weight ∧
      rest.weight + batch.items.length ≤ batcher.weight := by
  obtain ⟨key, _, popped⟩ := Option.bind_eq_some_iff.mp taken
  obtain ⟨group, found, result⟩ := Option.map_eq_some_iff.mp popped
  have lighter := batcher.popGroup_weight config found
  rw [result] at lighter
  exact lighter

omit [DecidableEq Key] in
/-- A group that is due is released, or a better one. -/
theorem readyKey_of_due (config : MicroBatcherConfig Item Key)
    (now : Seconds) (entries : List (Key × Group Item)) :
    ∀ best : Seconds × Key, ∃ key,
      readyKey config now (some best) entries = some key ∧
        (key = best.2 ∨ ∃ group, (key, group) ∈ entries) := by
  induction entries with
  | nil =>
      intro best
      exact ⟨best.2, rfl, Or.inl rfl⟩
  | cons entry rest inductionHypothesis =>
      intro best
      obtain ⟨key, group⟩ := entry
      have later : ∀ due : Seconds × Key,
          (due = best ∨ due = (group.firstAdded, key)) →
          ∃ chosen, readyKey config now (some due) rest = some chosen ∧
            (chosen = best.2 ∨
              ∃ other, (chosen, other) ∈ (key, group) :: rest) := by
        intro due either
        obtain ⟨chosen, ready, known⟩ := inductionHypothesis due
        refine ⟨chosen, ready, ?_⟩
        rcases known with same | ⟨other, member⟩
        · rcases either with old | new
          · exact Or.inl (same.trans (congrArg Prod.snd old))
          · refine Or.inr ⟨group, ?_⟩
            rw [same, new]
            exact List.mem_cons_self
        · exact Or.inr ⟨other, List.mem_cons_of_mem _ member⟩
      rw [readyKey]
      split
      · exact ⟨key, rfl, Or.inr ⟨group, List.mem_cons_self⟩⟩
      · split
        · split
          · exact later _ (Or.inr rfl)
          · exact later _ (Or.inl rfl)
        · exact later _ (Or.inl rfl)

/-- What is pending is released at the latest when its window has passed. -/
theorem takeReady_of_pending (config : MicroBatcherConfig Item Key)
    (batcher : MicroBatcher Item Key)
    (pending : batcher.groups.entries ≠ []) :
    ∃ now batch rest,
      batcher.takeReady config now = some (batch, rest) := by
  obtain ⟨⟨key, group⟩, later, entries⟩ :=
    List.exists_cons_of_ne_nil pending
  have found : ∃ chosen stored,
      readyKey config (group.firstAdded + config.windowS) none
          batcher.groups.entries = some chosen ∧
        (chosen, stored) ∈ batcher.groups.entries := by
    rw [entries, readyKey]
    split
    · exact ⟨key, group, rfl, List.mem_cons_self⟩
    · rw [if_pos (by simp)]
      obtain ⟨chosen, ready, same | ⟨stored, member⟩⟩ :=
        readyKey_of_due config (group.firstAdded + config.windowS) later
          (group.firstAdded, key)
      · refine ⟨chosen, group, ready, ?_⟩
        rw [same]
        exact List.mem_cons_self
      · exact ⟨chosen, stored, ready, List.mem_cons_of_mem _ member⟩
  obtain ⟨chosen, stored, ready, member⟩ := found
  have lookup := (batcher.groups.lookup_eq_some_iff chosen stored).mpr member
  refine ⟨group.firstAdded + config.windowS,
    (batcher.popGroup config chosen stored).1,
    (batcher.popGroup config chosen stored).2, ?_⟩
  rw [takeReady, ready, Option.bind_some, pop, lookup]
  rfl

/-- `drain`: pop the first group until none is left. -/
def drain (config : MicroBatcherConfig Item Key)
    (batcher : MicroBatcher Item Key) :
    List (Batch Item Key) × MicroBatcher Item Key :=
  match _first : batcher.groups.entries with
  | [] => ([], batcher)
  | (key, group) :: _ =>
      let popped := batcher.popGroup config key group
      let drained := drain config popped.2
      (popped.1 :: drained.1, drained.2)
termination_by batcher.weight
decreasing_by
  refine (batcher.popGroup_weight config ?_).1
  rw [OrderedDict.lookup_eq_some_iff, _first]
  exact List.mem_cons_self

theorem drain_of_empty (config : MicroBatcherConfig Item Key)
    (batcher : MicroBatcher Item Key)
    (none : batcher.groups.entries = []) :
    batcher.drain config = ([], batcher) := by
  rw [drain]
  split
  · rfl
  · simp_all

theorem drain_of_cons (config : MicroBatcherConfig Item Key)
    (batcher : MicroBatcher Item Key) {key : Key} {group : Group Item}
    {others : List (Key × Group Item)}
    (first : batcher.groups.entries = (key, group) :: others) :
    batcher.drain config =
      ((batcher.popGroup config key group).1 ::
          ((batcher.popGroup config key group).2.drain config).1,
        ((batcher.popGroup config key group).2.drain config).2) := by
  rw [drain]
  split
  · simp_all
  · next same =>
      rw [first] at same
      injection same with entryEqual _
      injection entryEqual with keyEqual groupEqual
      subst keyEqual
      subst groupEqual
      rfl

theorem drain_of_single (config : MicroBatcherConfig Item Key)
    (batcher : MicroBatcher Item Key) {key : Key} {group : Group Item}
    {others : List (Key × Group Item)}
    (first : batcher.groups.entries = (key, group) :: others)
    (emptied : (batcher.popGroup config key group).2.groups.entries = []) :
    batcher.drain config =
      ([(batcher.popGroup config key group).1],
        (batcher.popGroup config key group).2) := by
  rw [batcher.drain_of_cons config first,
    drain_of_empty config _ emptied]

/-- Induction along `drain`: one case for the empty dictionary, one for the
pop of a first group. -/
theorem drain_induction (config : MicroBatcherConfig Item Key)
    {motive : MicroBatcher Item Key → Prop}
    (empty : ∀ batcher : MicroBatcher Item Key,
      batcher.groups.entries = [] → motive batcher)
    (popped : ∀ (batcher : MicroBatcher Item Key) (key : Key)
      (group : Group Item) (others : List (Key × Group Item)),
      batcher.groups.entries = (key, group) :: others →
      motive (batcher.popGroup config key group).2 → motive batcher)
    (batcher : MicroBatcher Item Key) : motive batcher := by
  generalize size : batcher.weight = bound
  induction bound using Nat.strongRecOn generalizing batcher with
  | ind bound inductionHypothesis =>
      cases first : batcher.groups.entries with
      | nil =>
          exact empty batcher first
      | cons entry others =>
          have smaller := batcher.popGroup_weight config
            (OrderedDict.lookup_first first)
          exact popped batcher entry.1 entry.2 others first
            (inductionHypothesis _ (by omega) _ rfl)

/-- `drain` leaves nothing behind. -/
theorem drain_empties (config : MicroBatcherConfig Item Key)
    (batcher : MicroBatcher Item Key) :
    (batcher.drain config).2.groups.entries = [] := by
  induction batcher using drain_induction config with
  | empty batcher none =>
      rw [batcher.drain_of_empty config none]
      exact none
  | popped batcher key group others first inductionHypothesis =>
      rw [batcher.drain_of_cons config first]
      exact inductionHypothesis

theorem drain_pending (config : MicroBatcherConfig Item Key)
    (batcher : MicroBatcher Item Key) :
    batcher.pending.Perm
      ((batcher.drain config).1.flatMap Batch.items) := by
  induction batcher using drain_induction config with
  | empty batcher none =>
      rw [batcher.drain_of_empty config none]
      simp [pending, none]
  | popped batcher key group others first inductionHypothesis =>
      rw [batcher.drain_of_cons config first, List.flatMap_cons]
      exact (batcher.popGroup_pending config
        (OrderedDict.lookup_first first)).trans
          (inductionHypothesis.append_left _)

end MicroBatcher

end EmbeddingService
