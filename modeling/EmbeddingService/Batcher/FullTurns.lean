import EmbeddingService.Batcher.Starvation

/-!
# Full groups in turn

`take_ready` pops the first full group of the dictionary.  Additions never put
a group ahead of another, and leftovers go to the end, so that each group ahead
of a full one is popped once at most before it.
-/

namespace EmbeddingService

universe u v

variable {Item : Type u} {Key : Type v}

/-- Calls of `add` with items of some size, and calls of `take_ready`. -/
def BatcherCall.InService (config : MicroBatcherConfig Item Key) :
    BatcherCall Item → Prop
  | .add _ item => 1 ≤ config.sizeOf item
  | .takeReady _ => True
  | .drain => False

namespace MicroBatcher

variable {config : MicroBatcherConfig Item Key} {key chosen : Key}
  {group : Group Item} {bound : Nat}

/-- A full group with at most `bound` groups ahead of it. -/
def FullBehind (config : MicroBatcherConfig Item Key) (key : Key)
    (entries : List (Key × Group Item)) (bound : Nat) : Prop :=
  ∃ before group after, entries = before ++ (key, group) :: after ∧
    Full config group ∧ before.length ≤ bound

/-- A full group is released, or one ahead of it. -/
theorem readyKey_before_full {now : Seconds}
    {after : List (Key × Group Item)} (full : Full config group)
    (before : List (Key × Group Item)) :
    ∀ due, ∃ chosen,
      readyKey config now due (before ++ (key, group) :: after) =
          some chosen ∧
        (chosen = key ∨ ∃ found, (chosen, found) ∈ before) := by
  induction before with
  | nil =>
      intro due
      exact ⟨key, readyKey_of_full full, Or.inl rfl⟩
  | cons first rest inductionHypothesis =>
      obtain ⟨firstKey, firstGroup⟩ := first
      intro due
      by_cases firstFull : Full config firstGroup
      · exact ⟨firstKey, readyKey_of_full firstFull,
          Or.inr ⟨firstGroup, List.mem_cons_self⟩⟩
      · obtain ⟨later, _, same⟩ := readyKey_of_notFull due firstFull
        obtain ⟨chosen, ready, known⟩ := inductionHypothesis later
        refine ⟨chosen, same.trans ready, ?_⟩
        rcases known with own | ⟨found, member⟩
        · exact Or.inl own
        · exact Or.inr ⟨found, List.mem_cons_of_mem _ member⟩

variable [DecidableEq Key] {batcher : MicroBatcher Item Key}

/-- An addition leaves a full group full and in its place. -/
theorem FullBehind.add
    (behind : FullBehind config key batcher.groups.entries bound)
    {item : Item} (sized : 1 ≤ config.sizeOf item) (now : Seconds) :
    FullBehind config key (batcher.add config now item).groups.entries
      bound := by
  obtain ⟨before, group, after, entriesEqual, full, short⟩ := behind
  rcases add_entries config batcher now item with
    ⟨update, updated, others, kept⟩ | ⟨fresh, _, appended⟩
  · obtain ⟨sameKey, _, grows⟩ := kept (key, group) (by
      rw [entriesEqual]
      exact List.mem_append_right _ List.mem_cons_self)
    refine ⟨before.map update, (update (key, group)).2, after.map update,
      ?_, ?_, ?_⟩
    · rw [updated, entriesEqual, List.map_append, List.map_cons]
      congr 2
      exact Prod.ext sameKey rfl
    · by_cases own : key = config.keyOf item
      · have more : (update (key, group)).2.texts =
            group.texts + config.sizeOf item := grows own
        unfold Full at full ⊢
        omega
      · rw [others (key, group) own]
        exact full
    · rw [List.length_map]
      exact short
  · refine ⟨before, group, after ++ [(config.keyOf item, fresh)], ?_, full,
      short⟩
    rw [appended, entriesEqual, List.append_assoc, List.cons_append]

/-- A call of `take_ready` releases the full group, or one of those ahead of
it, which is then not ahead any more. -/
theorem FullBehind.take
    (behind : FullBehind config key batcher.groups.entries bound)
    (now : Seconds) :
    ∃ batch rest, batcher.takeReady config now = some (batch, rest) ∧
      (batch.key = key ∨
        ∃ fewer, bound = fewer + 1 ∧
          FullBehind config key rest.groups.entries fewer) := by
  obtain ⟨before, group, after, entriesEqual, full, short⟩ := behind
  obtain ⟨chosen, ready, known⟩ :=
    @readyKey_before_full Item Key config key group now after full before
      none
  rw [← entriesEqual] at ready
  have stored : ∃ found, (chosen, found) ∈ batcher.groups.entries := by
    rw [entriesEqual]
    rcases known with own | ⟨found, member⟩
    · rw [own]
      exact ⟨group, List.mem_append_right _ List.mem_cons_self⟩
    · exact ⟨found, List.mem_append_left _ member⟩
  obtain ⟨found, member⟩ := stored
  have lookup := (batcher.groups.lookup_eq_some_iff _ _).mpr member
  refine ⟨(batcher.popGroup config chosen found).1,
    (batcher.popGroup config chosen found).2, ?_, ?_⟩
  · rw [takeReady, ready, Option.bind_some, pop, lookup]
    rfl
  · by_cases own : chosen = key
    · left
      rw [popGroup_batch]
      exact own
    · right
      obtain ⟨ahead, aheadMember⟩ := known.resolve_left own
      have fewer : (before.filter
          (fun entry => entry.1 ≠ chosen)).length < before.length := by
        rw [List.length_filter_lt_length_iff_exists]
        exact ⟨(chosen, ahead), aheadMember, by simp⟩
      refine ⟨bound - 1, by omega, _, group, _,
        popGroup_entries_split config found entriesEqual (Ne.symm own),
        full, by omega⟩

end MicroBatcher

namespace BatcherHistory

variable [DecidableEq Key] {config : MicroBatcherConfig Item Key}
  {key : Key} {bound : Nat}

/-- Over any calls in service, at most `bound` batches of other keys are
released before one of the full group, which is among the first `bound + 1`
that `take_ready` returns. -/
theorem fullBehind_run (calls : List (BatcherCall Item)) :
    ∀ (history : BatcherHistory Item Key) (bound : Nat),
      MicroBatcher.FullBehind config key history.batcher.groups.entries
        bound →
      (∀ made ∈ calls, made.InService config) →
      ∃ batches,
        (calls.foldl (BatcherHistory.call config) history).released =
          history.released ++ batches ∧
        (batches.takeWhile (fun batch => batch.key ≠ key)).length ≤ bound ∧
        (bound < takesOf calls → ∃ batch ∈ batches, batch.key = key) := by
  induction calls with
  | nil =>
      intro history bound _ _
      exact ⟨[], (List.append_nil _).symm, Nat.zero_le _,
        fun taken => False.elim (Nat.not_lt_zero _ taken)⟩
  | cons made rest inductionHypothesis =>
      intro history bound behind inService
      obtain ⟨allowed, restAllowed⟩ := List.forall_mem_cons.mp inService
      have counted : takesOf (made :: rest) = takes made + takesOf rest :=
        List.sum_cons
      cases made with
      | add now item =>
          obtain ⟨batches, released, few, soon⟩ := inductionHypothesis
            (history.call config (.add now item)) bound
            (behind.add allowed now) restAllowed
          refine ⟨batches, released, few, fun taken => soon ?_⟩
          have none : takes (.add now item) = 0 := rfl
          omega
      | takeReady now =>
          obtain ⟨batch, left, taken, turn⟩ := behind.take now
          have called : (history.call config (.takeReady now)).released =
              history.released ++ [batch] := by
            simp [call, taken]
          by_cases own : batch.key = key
          · obtain ⟨others, released⟩ := run_released config rest
              (history.call config (.takeReady now))
            refine ⟨batch :: others, ?_, ?_,
              fun _ => ⟨batch, List.mem_cons_self, own⟩⟩
            · rw [List.foldl_cons, released, called, List.append_assoc,
                List.singleton_append]
            · rw [List.takeWhile_cons_of_neg (by simpa using own)]
              exact Nat.zero_le _
          · obtain ⟨fewer, boundEqual, still⟩ := turn.resolve_left own
            have after : (history.call config (.takeReady now)).batcher =
                left := by
              simp [call, taken]
            rw [← after] at still
            obtain ⟨others, released, few, soon⟩ := inductionHypothesis
              (history.call config (.takeReady now)) fewer still restAllowed
            refine ⟨batch :: others, ?_, ?_, ?_⟩
            · rw [List.foldl_cons, released, called, List.append_assoc,
                List.singleton_append]
            · rw [List.takeWhile_cons_of_pos (by simpa using own),
                List.length_cons]
              omega
            · intro many
              have one : takes (.takeReady now : BatcherCall Item) = 1 := rfl
              obtain ⟨found, member, ofKey⟩ := soon (by omega)
              exact ⟨found, List.mem_cons_of_mem _ member, ofKey⟩
      | drain =>
          exact False.elim allowed

/-- From every reachable state, a group of `max_texts` texts or more with `p`
groups ahead of it has its turn: whatever is added later, of any key, size and
reading, at most `p` calls of `take_ready` return a batch of another key before
one returns a batch of it, and the call after `p` others at the latest. -/
theorem fullGroupInTurn (config : MicroBatcherConfig Item Key)
    (calls : List (BatcherCall Item)) {key : Key} {group : Group Item}
    {before after : List (Key × Group Item)}
    (stands : (calls.foldl (BatcherHistory.call config)
      {}).batcher.groups.entries = before ++ (key, group) :: after)
    (full : config.maxTexts ≤ group.texts) :
    let history := calls.foldl (BatcherHistory.call config) {}
    ∀ later : List (BatcherCall Item),
      (∀ made ∈ later, made.InService config) →
      ∀ batches, (later.foldl (BatcherHistory.call config)
          history).released = history.released ++ batches →
        (batches.takeWhile (fun batch => batch.key ≠ key)).length ≤
            before.length ∧
          (before.length < takesOf later →
            ∃ batch ∈ batches, batch.key = key) := by
  intro history later inService batches released
  obtain ⟨found, foundReleased, few, soon⟩ := fullBehind_run later history
    before.length ⟨before, group, after, stands, full, le_rfl⟩ inService
  rw [foundReleased] at released
  rw [← List.append_cancel_left released]
  exact ⟨few, soon⟩

/-- A full group stands behind another full one: the second of two calls
returns it. -/
theorem fullGroupInTurn_second :
    let calls : List (BatcherCall Bool) :=
      [.add 0 true, .add 0 false, .add 1 true, .add 1 false]
    ∀ batches, ([.takeReady 1, .add 1 true, .takeReady 2].foldl
        (BatcherHistory.call pairsConfig)
        (calls.foldl (BatcherHistory.call pairsConfig) {})).released =
          batches →
      ∃ batch ∈ batches, batch.key = false := by
  intro calls batches released
  have stands : (calls.foldl (BatcherHistory.call pairsConfig)
      {}).batcher.groups.entries =
        [(true, { firstAdded := 0, items := [true, true], texts := 2 })] ++
          [(false, { firstAdded := 0, items := [false, false], texts := 2 })]
      := rfl
  have inService : ∀ made ∈ [BatcherCall.takeReady 1, .add 1 true,
      .takeReady 2], made.InService pairsConfig := by
    simp [BatcherCall.InService, pairsConfig]
  exact (fullGroupInTurn pairsConfig calls stands (by decide) _ inService
    batches released).2 (by decide)

end BatcherHistory

end EmbeddingService
