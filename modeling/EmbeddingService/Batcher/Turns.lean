import EmbeddingService.Batcher.Batches
import EmbeddingService.Batcher.Deadlines

/-!
# Who goes before an expired group

`take_ready` looks at expired groups only when no group is full.  While none
is, the groups ahead of an expired one are those with an earlier stamp and
those with the same stamp that stand before it.
-/

namespace EmbeddingService

universe u v

variable {Item : Type u} {Key : Type v}

namespace MicroBatcher

def isOlder (group : Group Item) (entry : Key × Group Item) : Bool :=
  entry.2.firstAdded < group.firstAdded

def isNotYounger (group : Group Item) (entry : Key × Group Item) : Bool :=
  entry.2.firstAdded ≤ group.firstAdded

/-- At most `bound` of the entries are released before the group of `key`
while no group is full: the older ones, and those of the same age before it. -/
def Ahead (key : Key) (group : Group Item)
    (entries : List (Key × Group Item)) (bound : Nat) : Prop :=
  ∃ before after, entries = before ++ (key, group) :: after ∧
    before.countP (isNotYounger group) + after.countP (isOlder group) ≤
      bound

section ReadyKey

variable {config : MicroBatcherConfig Item Key} {now : Seconds}
  {key chosen : Key} {group : Group Item}
  {entries : List (Key × Group Item)}

/-- A full group is released before anything else. -/
theorem readyKey_full
    (full : ∃ entry ∈ entries, Full config entry.2) :
    ∀ due, ∃ key group, readyKey config now due entries = some key ∧
      (key, group) ∈ entries ∧ Full config group := by
  induction entries with
  | nil =>
      obtain ⟨entry, member, _⟩ := full
      cases member
  | cons first rest inductionHypothesis =>
      obtain ⟨firstKey, firstGroup⟩ := first
      intro due
      by_cases firstFull : Full config firstGroup
      · exact ⟨firstKey, firstGroup, readyKey_of_full firstFull,
          List.mem_cons_self, firstFull⟩
      · have later : ∃ entry ∈ rest, Full config entry.2 := by
          obtain ⟨entry, member, entryFull⟩ := full
          rcases List.mem_cons.mp member with same | inside
          · rw [same] at entryFull
            exact False.elim (firstFull entryFull)
          · exact ⟨entry, inside, entryFull⟩
        obtain ⟨other, _, same⟩ := readyKey_of_notFull due firstFull
        obtain ⟨key, group, ready, member, groupFull⟩ :=
          inductionHypothesis later other
        refine ⟨key, group, ?_, List.mem_cons_of_mem _ member, groupFull⟩
        rw [same]
        exact ready

/-- Without full groups, the best one so far is released, or a strictly older
one. -/
theorem readyKey_older
    (unfilled : ∀ entry ∈ entries, ¬ Full config entry.2) :
    ∀ best : Seconds × Key,
      readyKey config now (some best) entries = some chosen →
        chosen = best.2 ∨
          ∃ found, (chosen, found) ∈ entries ∧
            found.firstAdded < best.1 := by
  induction entries with
  | nil =>
      intro best ready
      cases ready
      exact Or.inl rfl
  | cons first rest inductionHypothesis =>
      obtain ⟨firstKey, firstGroup⟩ := first
      obtain ⟨firstUnfilled, restUnfilled⟩ :=
        List.forall_mem_cons.mp unfilled
      have later := inductionHypothesis restUnfilled
      have keep : ∀ best : Seconds × Key,
          readyKey config now (some best) rest = some chosen →
            chosen = best.2 ∨
              ∃ found, (chosen, found) ∈ (firstKey, firstGroup) :: rest ∧
                found.firstAdded < best.1 := by
        intro best ready
        rcases later best ready with same | ⟨found, member, older⟩
        · exact Or.inl same
        · exact Or.inr ⟨found, List.mem_cons_of_mem _ member, older⟩
      intro best ready
      by_cases expired : Expired config now firstGroup
      · by_cases earlier : firstGroup.firstAdded < best.1
        · rw [readyKey_of_better firstUnfilled expired earlier] at ready
          rcases keep _ ready with same | ⟨found, member, older⟩
          · refine Or.inr ⟨firstGroup, ?_, earlier⟩
            rw [same]
            exact List.mem_cons_self
          · exact Or.inr ⟨found, member, older.trans earlier⟩
        · rw [readyKey_of_later firstUnfilled (not_lt.mp earlier)] at ready
          exact keep best ready
      · rw [readyKey_of_young firstUnfilled expired] at ready
        exact keep best ready

/-- What may be released instead of the group of `key`, which stands between
`before` and `after`: the best one so far, or one of them that is older. -/
def Overtakes (key : Key) (group : Group Item)
    (before after : List (Key × Group Item))
    (due : Option (Seconds × Key)) (chosen : Key) : Prop :=
  chosen = key ∨
    (∃ best, due = some best ∧ chosen = best.2 ∧
      best.1 ≤ group.firstAdded) ∨
    (∃ found, (chosen, found) ∈ before ∧
      found.firstAdded ≤ group.firstAdded) ∨
    ∃ found, (chosen, found) ∈ after ∧
      found.firstAdded < group.firstAdded

theorem readyKey_first {after : List (Key × Group Item)}
    (expired : Expired config now group)
    (notFull : ¬ Full config group)
    (unfilled : ∀ entry ∈ after, ¬ Full config entry.2)
    (due : Option (Seconds × Key))
    (ready : readyKey config now due ((key, group) :: after) =
      some chosen) :
    Overtakes key group [] after due chosen := by
  have ownBest :
      readyKey config now (some (group.firstAdded, key)) after =
          some chosen →
        Overtakes key group [] after due chosen := by
    intro ready
    rcases readyKey_older unfilled _ ready with
      same | ⟨found, member, older⟩
    · exact Or.inl same
    · exact Or.inr (Or.inr (Or.inr ⟨found, member, older⟩))
  cases due with
  | none =>
      rw [readyKey_of_expired notFull expired] at ready
      exact ownBest ready
  | some best =>
      by_cases earlier : group.firstAdded < best.1
      · rw [readyKey_of_better notFull expired earlier] at ready
        exact ownBest ready
      · have notLater := not_lt.mp earlier
        rw [readyKey_of_later notFull notLater] at ready
        rcases readyKey_older unfilled _ ready with
          same | ⟨found, member, older⟩
        · exact Or.inr (Or.inl ⟨best, rfl, same, notLater⟩)
        · exact Or.inr (Or.inr (Or.inr
            ⟨found, member, older.trans_le notLater⟩))

/-- Without full groups, an expired group is released, or one ahead of it. -/
theorem readyKey_overtakes {after : List (Key × Group Item)}
    (expired : Expired config now group)
    (before : List (Key × Group Item)) :
    ∀ due,
      (∀ entry ∈ before ++ (key, group) :: after,
        ¬ Full config entry.2) →
      readyKey config now due (before ++ (key, group) :: after) =
          some chosen →
        Overtakes key group before after due chosen := by
  induction before with
  | nil =>
      intro due unfilled ready
      obtain ⟨ownUnfilled, afterUnfilled⟩ :=
        List.forall_mem_cons.mp unfilled
      exact readyKey_first expired ownUnfilled afterUnfilled due ready
  | cons first rest inductionHypothesis =>
      obtain ⟨firstKey, firstGroup⟩ := first
      intro due unfilled ready
      rw [List.cons_append] at unfilled ready
      obtain ⟨firstUnfilled, restUnfilled⟩ :=
        List.forall_mem_cons.mp unfilled
      obtain ⟨later, adopted, same⟩ :=
        readyKey_of_notFull due firstUnfilled
      rw [same] at ready
      rcases inductionHypothesis later restUnfilled ready with
        own | ⟨best, laterBest, chosenBest, older⟩ |
          ⟨found, member, older⟩ | behind
      · exact Or.inl own
      · rcases adopted with kept | taken
        · exact Or.inr (Or.inl
            ⟨best, kept.symm.trans laterBest, chosenBest, older⟩)
        · rw [taken] at laterBest
          cases laterBest
          refine Or.inr (Or.inr (Or.inl ⟨firstGroup, ?_, older⟩))
          rw [chosenBest]
          exact List.mem_cons_self
      · exact Or.inr (Or.inr (Or.inl
          ⟨found, List.mem_cons_of_mem _ member, older⟩))
      · exact Or.inr (Or.inr (Or.inr behind))

end ReadyKey

section Ahead

variable {config : MicroBatcherConfig Item Key} {key chosen : Key}
  {group found : Group Item} {before after : List (Key × Group Item)}
  {bound : Nat}

theorem leftovers_countP_le (config : MicroBatcherConfig Item Key)
    (chosen : Key) (found group : Group Item) :
    (leftovers config chosen found).countP (isOlder group) ≤
      if found.firstAdded < group.firstAdded then 1 else 0 := by
  unfold leftovers
  dsimp only
  split
  · exact Nat.zero_le _
  · rw [List.countP_singleton]
    simp [isOlder]

variable [DecidableEq Key] {batcher : MicroBatcher Item Key}
  {entries : List (Key × Group Item)}

theorem countP_others_le (counted : Key × Group Item → Bool) :
    (entries.filter (fun entry => entry.1 ≠ chosen)).countP counted ≤
      entries.countP counted :=
  List.filter_sublist.countP_le

theorem countP_others_lt (counted : Key × Group Item → Bool)
    (member : (chosen, found) ∈ entries)
    (counts : counted (chosen, found) = true) :
    (entries.filter (fun entry => entry.1 ≠ chosen)).countP counted <
      entries.countP counted := by
  have parts := List.countP_eq_countP_filter_add entries counted
    (fun entry => decide (entry.1 ≠ chosen))
  have removed : 0 < (entries.filter
      (fun entry => !decide (entry.1 ≠ chosen))).countP counted := by
    refine List.countP_pos_iff.mpr ⟨(chosen, found), ?_, counts⟩
    simpa using member
  omega

/-- A group keeps its place when another one is popped. -/
theorem popGroup_entries_split (config : MicroBatcherConfig Item Key)
    (found : Group Item)
    (entriesEqual :
      batcher.groups.entries = before ++ (key, group) :: after)
    (different : key ≠ chosen) :
    (batcher.popGroup config chosen found).2.groups.entries =
      before.filter (fun entry => entry.1 ≠ chosen) ++ (key, group) ::
        (after.filter (fun entry => entry.1 ≠ chosen) ++
          leftovers config chosen found) := by
  have others : (batcher.groups.erase chosen).entries =
      before.filter (fun entry => entry.1 ≠ chosen) ++ (key, group) ::
        after.filter (fun entry => entry.1 ≠ chosen) := by
    change batcher.groups.entries.filter _ = _
    rw [entriesEqual, List.filter_append,
      List.filter_cons_of_pos (by simpa using different)]
  rw [popGroup_entries, others, List.append_assoc, List.cons_append]

/-- Leftovers go to the end with the stamp of their group, so that nobody
moves ahead. -/
theorem Ahead.popGroup
    (ahead : Ahead key group batcher.groups.entries bound)
    (different : key ≠ chosen)
    (stored : (chosen, found) ∈ batcher.groups.entries) :
    Ahead key group
      (batcher.popGroup config chosen found).2.groups.entries bound := by
  obtain ⟨before, after, entriesEqual, counted⟩ := ahead
  refine ⟨_, _, popGroup_entries_split config found entriesEqual different,
    ?_⟩
  rw [List.countP_append]
  have left := leftovers_countP_le config chosen found group
  have fewerBefore :=
    @countP_others_le Item Key chosen _ before (isNotYounger group)
  have fewerAfter :=
    @countP_others_le Item Key chosen _ after (isOlder group)
  by_cases older : found.firstAdded < group.firstAdded
  · rw [if_pos older] at left
    rw [entriesEqual] at stored
    rcases List.mem_append.mp stored with inBefore | others
    · have less := countP_others_lt (isNotYounger group) inBefore
        (decide_eq_true older.le)
      omega
    · rcases List.mem_cons.mp others with same | inAfter
      · exact False.elim (different (congrArg Prod.fst same).symm)
      · have less := countP_others_lt (isOlder group) inAfter
          (decide_eq_true older)
        omega
  · rw [if_neg older] at left
    omega

/-- A group that goes first and leaves nothing is gone from ahead. -/
theorem Ahead.overtaken
    (entriesEqual :
      batcher.groups.entries = before ++ (key, group) :: after)
    (counted : before.countP (isNotYounger group) +
      after.countP (isOlder group) ≤ bound)
    (different : key ≠ chosen)
    (whole : leftovers config chosen found = [])
    (passed : (chosen, found) ∈ before ∧
          found.firstAdded ≤ group.firstAdded ∨
        (chosen, found) ∈ after ∧
          found.firstAdded < group.firstAdded) :
    ∃ fewer, fewer < bound ∧ Ahead key group
      (batcher.popGroup config chosen found).2.groups.entries fewer := by
  have entriesAfter :=
    popGroup_entries_split config found entriesEqual different
  rw [whole, List.append_nil] at entriesAfter
  refine ⟨_, ?_, _, _, entriesAfter, le_rfl⟩
  rcases passed with ⟨member, older⟩ | ⟨member, older⟩
  · have less := countP_others_lt (isNotYounger group) member
      (decide_eq_true older)
    have fewer := @countP_others_le Item Key chosen _ after (isOlder group)
    omega
  · have less := countP_others_lt (isOlder group) member
      (decide_eq_true older)
    have fewer :=
      @countP_others_le Item Key chosen _ before (isNotYounger group)
    omega

/-- An item goes to its group in place, or to a fresh group at the end. -/
theorem add_entries (config : MicroBatcherConfig Item Key)
    (batcher : MicroBatcher Item Key) (now : Seconds) (item : Item) :
    (∃ update : Key × Group Item → Key × Group Item,
      (batcher.add config now item).groups.entries =
          batcher.groups.entries.map update ∧
        (∀ entry, entry.1 ≠ config.keyOf item → update entry = entry) ∧
        ∀ entry ∈ batcher.groups.entries,
          (update entry).1 = entry.1 ∧
            (update entry).2.firstAdded = entry.2.firstAdded ∧
            (entry.1 = config.keyOf item → (update entry).2.texts =
              entry.2.texts + config.sizeOf item)) ∨
    ∃ fresh : Group Item, fresh.firstAdded = now ∧
      (batcher.add config now item).groups.entries =
        batcher.groups.entries ++ [(config.keyOf item, fresh)] := by
  cases stored : batcher.groups.lookup (config.keyOf item) with
  | none =>
      refine Or.inr ⟨_, ?_, batcher.groups.assign_of_lookup_none _ stored⟩
      rw [stored]
      rfl
  | some old =>
      refine Or.inl ⟨_, batcher.groups.assign_of_lookup_some _ stored,
        ?_, ?_⟩
      · intro entry different
        exact if_neg different
      · intro entry member
        by_cases same : entry.1 = config.keyOf item
        · have present :=
            (batcher.groups.lookup_eq_some_iff _ _).mpr member
          rw [same, stored] at present
          cases present
          rw [if_pos same, stored]
          exact ⟨same.symm, rfl, fun _ => rfl⟩
        · rw [if_neg same]
          exact ⟨rfl, rfl, fun own => False.elim (same own)⟩

/-- An item of another key puts nobody ahead, once a group is expired. -/
theorem Ahead.add (ahead : Ahead key group batcher.groups.entries bound)
    {now : Seconds} {item : Item} (different : config.keyOf item ≠ key)
    (late : group.firstAdded ≤ now) :
    Ahead key group (batcher.add config now item).groups.entries
      bound := by
  obtain ⟨before, after, entriesEqual, counted⟩ := ahead
  rcases add_entries config batcher now item with
    ⟨update, updated, others, sameStamp⟩ | ⟨fresh, stamp, appended⟩
  · have own : update (key, group) = (key, group) :=
      others _ (Ne.symm different)
    refine ⟨before.map update, after.map update, ?_, ?_⟩
    · rw [updated, entriesEqual, List.map_append, List.map_cons, own]
    · rw [entriesEqual] at sameStamp
      have beforeEqual : (before.map update).countP (isNotYounger group) =
          before.countP (isNotYounger group) := by
        rw [List.countP_map]
        refine List.countP_congr (fun entry member => ?_)
        have stamp := (sameStamp entry (List.mem_append_left _ member)).2.1
        simp [isNotYounger, stamp]
      have afterEqual : (after.map update).countP (isOlder group) =
          after.countP (isOlder group) := by
        rw [List.countP_map]
        refine List.countP_congr (fun entry member => ?_)
        have stamp := (sameStamp entry
          (List.mem_append_right _ (List.mem_cons_of_mem _ member))).2.1
        simp [isOlder, stamp]
      rw [beforeEqual, afterEqual]
      exact counted
  · refine ⟨before, after ++ [(config.keyOf item, fresh)], ?_, ?_⟩
    · rw [appended, entriesEqual, List.append_assoc, List.cons_append]
    · have young : isOlder group (config.keyOf item, fresh) = false := by
        rw [isOlder, decide_eq_false_iff_not, stamp]
        exact not_lt.mpr late
      rw [List.countP_append, List.countP_singleton, young]
      simpa using counted

end Ahead

end MicroBatcher

/-! ## The whole of an unfilled group -/

namespace MicroBatcherConfig

variable {config : MicroBatcherConfig Item Key}

/-- Everything is taken when it fits. -/
theorem takeLoop_fits (sized : ∀ item, 0 ≤ config.sizeOf item)
    (items : List Item) :
    ∀ taken texts, texts + config.textsOf items ≤ config.maxTexts →
      (config.takeLoop taken texts items).2.2 = [] := by
  induction items with
  | nil =>
      intro taken texts fits
      rfl
  | cons item rest inductionHypothesis =>
      intro taken texts fits
      have total : config.textsOf (item :: rest) =
          config.sizeOf item + config.textsOf rest :=
        List.sum_cons
      have restSize :=
        config.textsOf_nonneg (fun other (_ : other ∈ rest) => sized other)
      rw [total] at fits
      rw [takeLoop, if_pos (Or.inr (by omega))]
      exact inductionHypothesis _ _ (by omega)

end MicroBatcherConfig

namespace MicroBatcher

variable {config : MicroBatcherConfig Item Key} {key : Key}
  {group : Group Item}

theorem leftovers_of_notFull (sized : ∀ item, 0 ≤ config.sizeOf item)
    (wellFormed : GroupWellFormed config key group)
    (notFull : ¬ Full config group) :
    leftovers config key group = [] := by
  have few := not_le.mp notFull
  rw [wellFormed.texts] at few
  have done := config.takeLoop_fits sized group.items [] 0 (by omega)
  unfold leftovers
  simp [done]

/-- What `take_ready` releases is a stored group, the one it chose. -/
theorem takeReady_chosen [DecidableEq Key] {batcher : MicroBatcher Item Key}
    {now : Seconds} {result : Batch Item Key × MicroBatcher Item Key}
    (taken : batcher.takeReady config now = some result) :
    ∃ chosen found,
      readyKey config now none batcher.groups.entries = some chosen ∧
        (chosen, found) ∈ batcher.groups.entries ∧
        batcher.popGroup config chosen found = result := by
  obtain ⟨chosen, ready, popped⟩ := Option.bind_eq_some_iff.mp taken
  obtain ⟨found, stored, resultEqual⟩ := Option.map_eq_some_iff.mp popped
  exact ⟨chosen, found, ready,
    (batcher.groups.lookup_eq_some_iff _ _).mp stored, resultEqual⟩

/-- Some group is full. -/
def FindsFull (config : MicroBatcherConfig Item Key)
    (batcher : MicroBatcher Item Key) : Prop :=
  ∃ entry ∈ batcher.groups.entries, Full config entry.2

instance (config : MicroBatcherConfig Item Key)
    (batcher : MicroBatcher Item Key) :
    Decidable (batcher.FindsFull config) :=
  inferInstanceAs (Decidable
    (∃ entry ∈ batcher.groups.entries, config.maxTexts ≤ entry.2.texts))

end MicroBatcher

end EmbeddingService
