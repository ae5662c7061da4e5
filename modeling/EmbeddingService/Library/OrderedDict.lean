import Mathlib.Data.List.Nodup
import Mathlib.Data.List.Perm.Basic

/-!
# Dictionaries that remember insertion order

Entries are kept in the order their keys were first inserted.  Assigning to a
key that is present keeps its place; a key that was removed and assigned again
goes to the end.  Keys are distinct by construction.
-/

universe u v

/-- A dictionary with its entries in insertion order. -/
structure OrderedDict (Key : Type u) (Value : Type v) where
  entries : List (Key × Value)
  keysUnique : (entries.map Prod.fst).Nodup

namespace OrderedDict

variable {Key : Type u} {Value : Type v}

theorem ext_entries {left right : OrderedDict Key Value}
    (same : left.entries = right.entries) : left = right := by
  cases left
  cases right
  simp only at same
  subst same
  rfl

def empty : OrderedDict Key Value :=
  ⟨[], List.nodup_nil⟩

@[simp]
theorem empty_entries :
    (empty : OrderedDict Key Value).entries = [] :=
  rfl

/-- Two entries of a dictionary with the same key are the same entry. -/
theorem value_unique (dict : OrderedDict Key Value)
    {key : Key} {first second : Value}
    (firstMember : (key, first) ∈ dict.entries)
    (secondMember : (key, second) ∈ dict.entries) :
    first = second := by
  have same : ((key, first) : Key × Value) = (key, second) :=
    List.inj_on_of_nodup_map dict.keysUnique
      firstMember secondMember rfl
  exact congrArg Prod.snd same

theorem entries_nodup (dict : OrderedDict Key Value) :
    dict.entries.Nodup :=
  dict.keysUnique.of_map Prod.fst

variable [DecidableEq Key]

/-- The value stored under a key. -/
def lookup (dict : OrderedDict Key Value) (key : Key) : Option Value :=
  (dict.entries.find? (fun entry => entry.1 = key)).map Prod.snd

theorem lookup_eq_some_iff
    (dict : OrderedDict Key Value) (key : Key) (value : Value) :
    dict.lookup key = some value ↔ (key, value) ∈ dict.entries := by
  constructor
  · intro found
    obtain ⟨entry, entryFound, valueEqual⟩ :=
      Option.map_eq_some_iff.mp found
    have member : entry ∈ dict.entries :=
      List.mem_of_find?_eq_some entryFound
    have keyEqual : entry.1 = key := by
      simpa using List.find?_some entryFound
    rw [← keyEqual, ← valueEqual]
    exact member
  · intro member
    cases found : dict.entries.find? (fun entry => entry.1 = key) with
    | none =>
        have absent := List.find?_eq_none.mp found (key, value) member
        simp at absent
    | some entry =>
        have keyEqual : entry.1 = key := by
          simpa using List.find?_some found
        have entryMember : (key, entry.2) ∈ dict.entries := by
          rw [← keyEqual]
          exact List.mem_of_find?_eq_some found
        have valueEqual : entry.2 = value :=
          dict.value_unique entryMember member
        simp [lookup, found, valueEqual]

theorem lookup_first {dict : OrderedDict Key Value} {key : Key}
    {value : Value} {others : List (Key × Value)}
    (first : dict.entries = (key, value) :: others) :
    dict.lookup key = some value := by
  rw [lookup_eq_some_iff, first]
  exact List.mem_cons_self

theorem lookup_eq_none_iff
    (dict : OrderedDict Key Value) (key : Key) :
    dict.lookup key = none ↔ ∀ value, (key, value) ∉ dict.entries := by
  constructor
  · intro missing value member
    rw [(dict.lookup_eq_some_iff key value).mpr member] at missing
    cases missing
  · intro absent
    cases found : dict.lookup key with
    | none =>
        rfl
    | some value =>
        exact False.elim
          (absent value ((dict.lookup_eq_some_iff key value).mp found))

@[simp]
theorem lookup_empty (key : Key) :
    (empty : OrderedDict Key Value).lookup key = none :=
  rfl

/-- Remove a key and its value. -/
def erase (dict : OrderedDict Key Value) (key : Key) :
    OrderedDict Key Value where
  entries := dict.entries.filter (fun entry => entry.1 ≠ key)
  keysUnique :=
    dict.keysUnique.sublist (List.filter_sublist.map Prod.fst)

theorem mem_erase_iff
    (dict : OrderedDict Key Value) (key : Key) (entry : Key × Value) :
    entry ∈ (dict.erase key).entries ↔
      entry ∈ dict.entries ∧ entry.1 ≠ key := by
  simp [erase]

theorem lookup_erase_self (dict : OrderedDict Key Value) (key : Key) :
    (dict.erase key).lookup key = none := by
  rw [lookup_eq_none_iff]
  intro value member
  exact ((dict.mem_erase_iff key _).mp member).2 rfl

theorem lookup_erase_of_ne (dict : OrderedDict Key Value)
    {key other : Key} (different : other ≠ key) :
    (dict.erase key).lookup other = dict.lookup other := by
  apply Option.ext
  intro found
  rw [lookup_eq_some_iff, lookup_eq_some_iff, mem_erase_iff]
  constructor
  · exact And.left
  · intro member
    exact ⟨member, different⟩

private theorem map_replace_keys
    (key : Key) (value : Value) (entries : List (Key × Value)) :
    (entries.map (fun entry =>
        if entry.1 = key then (key, value) else entry)).map Prod.fst =
      entries.map Prod.fst := by
  rw [List.map_map]
  apply List.map_congr_left
  intro entry _
  by_cases same : entry.1 = key
  · simp [same]
  · simp [same]

/-- Assign a value to a key: in place when the key is present, at the end
otherwise. -/
def assign (dict : OrderedDict Key Value) (key : Key) (value : Value) :
    OrderedDict Key Value :=
  if present : key ∈ dict.entries.map Prod.fst then
    { entries := dict.entries.map (fun entry =>
        if entry.1 = key then (key, value) else entry)
      keysUnique := by
        rw [map_replace_keys]
        exact dict.keysUnique }
  else
    { entries := dict.entries ++ [(key, value)]
      keysUnique := by
        rw [List.map_append, List.map_singleton]
        exact dict.keysUnique.append (List.nodup_singleton key)
          (by simpa using present) }

theorem assign_of_lookup_none (dict : OrderedDict Key Value)
    {key : Key} (value : Value) (missing : dict.lookup key = none) :
    (dict.assign key value).entries = dict.entries ++ [(key, value)] := by
  have absent : key ∉ dict.entries.map Prod.fst := by
    intro member
    obtain ⟨entry, entryMember, rfl⟩ := List.mem_map.mp member
    exact (dict.lookup_eq_none_iff entry.1).mp missing entry.2 entryMember
  rw [assign, dif_neg absent]

theorem assign_of_lookup_some (dict : OrderedDict Key Value)
    {key : Key} {old : Value} (value : Value)
    (found : dict.lookup key = some old) :
    (dict.assign key value).entries =
      dict.entries.map (fun entry =>
        if entry.1 = key then (key, value) else entry) := by
  have present : key ∈ dict.entries.map Prod.fst :=
    List.mem_map_of_mem ((dict.lookup_eq_some_iff key old).mp found)
  rw [assign, dif_pos present]

theorem mem_assign_iff (dict : OrderedDict Key Value)
    (key : Key) (value : Value) (entry : Key × Value) :
    entry ∈ (dict.assign key value).entries ↔
      entry = (key, value) ∨ (entry ∈ dict.entries ∧ entry.1 ≠ key) := by
  by_cases present : key ∈ dict.entries.map Prod.fst
  · rw [assign, dif_pos present, List.mem_map]
    constructor
    · rintro ⟨old, oldMember, rfl⟩
      by_cases same : old.1 = key
      · exact Or.inl (by rw [if_pos same])
      · exact Or.inr (by rw [if_neg same]; exact ⟨oldMember, same⟩)
    · rintro (rfl | ⟨member, different⟩)
      · obtain ⟨old, oldMember, oldKey⟩ := List.mem_map.mp present
        exact ⟨old, oldMember, by rw [if_pos oldKey]⟩
      · exact ⟨entry, member, by rw [if_neg different]⟩
  · rw [assign, dif_neg present, List.mem_append, List.mem_singleton]
    constructor
    · rintro (member | rfl)
      · refine Or.inr ⟨member, ?_⟩
        rintro rfl
        exact present (List.mem_map_of_mem member)
      · exact Or.inl rfl
    · rintro (rfl | ⟨member, _⟩)
      · exact Or.inr rfl
      · exact Or.inl member

theorem lookup_assign_self (dict : OrderedDict Key Value)
    (key : Key) (value : Value) :
    (dict.assign key value).lookup key = some value := by
  rw [lookup_eq_some_iff, mem_assign_iff]
  exact Or.inl rfl

theorem lookup_assign_of_ne (dict : OrderedDict Key Value)
    {key other : Key} (value : Value) (different : other ≠ key) :
    (dict.assign key value).lookup other = dict.lookup other := by
  apply Option.ext
  intro found
  rw [lookup_eq_some_iff, lookup_eq_some_iff, mem_assign_iff]
  constructor
  · rintro (same | ⟨member, _⟩)
    · exact False.elim (different (congrArg Prod.fst same))
    · exact member
  · intro member
    exact Or.inr ⟨member, different⟩

/-- Taking an entry out and putting it in front only reorders. -/
theorem entries_perm_cons_erase (dict : OrderedDict Key Value)
    {key : Key} {value : Value} (found : dict.lookup key = some value) :
    dict.entries.Perm ((key, value) :: (dict.erase key).entries) := by
  have member : (key, value) ∈ dict.entries :=
    (dict.lookup_eq_some_iff key value).mp found
  have headNotErased : (key, value) ∉ (dict.erase key).entries := by
    intro erased
    exact ((dict.mem_erase_iff key _).mp erased).2 rfl
  refine (List.perm_ext_iff_of_nodup dict.entries_nodup ?_).mpr ?_
  · exact List.nodup_cons.mpr ⟨headNotErased, entries_nodup _⟩
  · intro entry
    rw [List.mem_cons, mem_erase_iff]
    constructor
    · intro entryMember
      by_cases same : entry.1 = key
      · have entryMember' : (key, entry.2) ∈ dict.entries := by
          rw [← same]
          exact entryMember
        have valueEqual : entry.2 = value :=
          dict.value_unique entryMember' member
        exact Or.inl (Prod.ext same valueEqual)
      · exact Or.inr ⟨entryMember, same⟩
    · rintro (rfl | ⟨entryMember, _⟩)
      · exact member
      · exact entryMember

/-- Assignment is removal followed by insertion, up to order. -/
theorem assign_entries_perm (dict : OrderedDict Key Value)
    (key : Key) (value : Value) :
    (dict.assign key value).entries.Perm
      ((key, value) :: (dict.erase key).entries) := by
  have exposed :=
    (dict.assign key value).entries_perm_cons_erase
      (dict.lookup_assign_self key value)
  refine exposed.trans (List.Perm.cons _ ?_)
  refine (List.perm_ext_iff_of_nodup
    (entries_nodup _) (entries_nodup _)).mpr ?_
  intro entry
  rw [mem_erase_iff, mem_erase_iff, mem_assign_iff]
  constructor
  · rintro ⟨rfl | ⟨member, _⟩, different⟩
    · exact False.elim (different rfl)
    · exact ⟨member, different⟩
  · rintro ⟨member, different⟩
    exact ⟨Or.inr ⟨member, different⟩, different⟩

theorem erase_of_lookup_none (dict : OrderedDict Key Value)
    {key : Key} (missing : dict.lookup key = none) :
    dict.erase key = dict := by
  apply ext_entries
  apply List.filter_eq_self.mpr
  intro entry member
  have different : entry.1 ≠ key := by
    rintro rfl
    exact (dict.lookup_eq_none_iff entry.1).mp missing entry.2 member
  simpa using different

end OrderedDict
