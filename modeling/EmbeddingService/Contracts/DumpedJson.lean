import EmbeddingService.Contracts.Python

/-!
# What JSON carries

pydantic writes `null` for a number that JSON has no name for, and three
replacement characters for a surrogate in a key.  Of a key that is repeated,
both parsers keep the last value.
-/

namespace EmbeddingService

/-- PyO3's `to_string_lossy`: the three bytes of a surrogate are replaced one
by one. -/
def PyStr.lossy (value : PyStr) : PyStr :=
  value.flatMap
    (fun point =>
      if isSurrogate point then
        List.replicate 3 ⟨0xFFFD, by decide⟩
      else
        [point])

/-- `{key: value, **rest}`. -/
def PyDict.prepend (key : PyStr) (value : Json) (rest : PyDict) : PyDict :=
  (key, (PyDict.get rest key).getD value) ::
    rest.filter (fun entry => entry.1 != key)

mutual

/-- What is read of a value that pydantic has written. -/
def Json.onWire : Json → Json
  | .float (.finite negative significand exponent) =>
      .float (.finite negative significand exponent)
  | .float _ => .null
  | .list values => .list (Json.listOnWire values)
  | .dict entries => .dict (Json.entriesOnWire entries)
  | value => value

def Json.listOnWire : List Json → List Json
  | [] => []
  | value :: rest => value.onWire :: Json.listOnWire rest

def Json.entriesOnWire : List (PyStr × Json) → List (PyStr × Json)
  | [] => []
  | (key, value) :: rest =>
      PyDict.prepend key.lossy value.onWire (Json.entriesOnWire rest)

end

mutual

/-- Whether JSON has a name for all numbers of a value. -/
def Json.isFinite : Json → Bool
  | .float (.finite _ _ _) => true
  | .float _ => false
  | .list values => Json.listIsFinite values
  | .dict entries => Json.entriesAreFinite entries
  | _ => true

def Json.listIsFinite : List Json → Bool
  | [] => true
  | value :: rest => value.isFinite && Json.listIsFinite rest

def Json.entriesAreFinite : List (PyStr × Json) → Bool
  | [] => true
  | (_, value) :: rest => value.isFinite && Json.entriesAreFinite rest

end

mutual

/-- Whether all keys of a value are without surrogates.  They never repeat in
a `dict`. -/
def Json.hasPlainKeys : Json → Bool
  | .list values => Json.listHasPlainKeys values
  | .dict entries => Json.entriesHavePlainKeys entries
  | _ => true

def Json.listHasPlainKeys : List Json → Bool
  | [] => true
  | value :: rest => value.hasPlainKeys && Json.listHasPlainKeys rest

def Json.entriesHavePlainKeys : List (PyStr × Json) → Bool
  | [] => true
  | (key, value) :: rest =>
      key.isUnicode && (PyDict.get rest key).isNone &&
        value.hasPlainKeys && Json.entriesHavePlainKeys rest

end

/-- Whether a value is read as it is. -/
def Json.IsPlain (value : Json) : Prop :=
  value.isFinite = true ∧ value.hasPlainKeys = true

def Json.ListIsPlain (values : List Json) : Prop :=
  Json.listIsFinite values = true ∧ Json.listHasPlainKeys values = true

def Json.EntriesArePlain (entries : List (PyStr × Json)) : Prop :=
  Json.entriesAreFinite entries = true ∧
    Json.entriesHavePlainKeys entries = true

section Keys

variable {key : PyStr} {value found : Json} {entries : PyDict}

theorem lossy_isUnicode (text : PyStr) : text.lossy.isUnicode = true := by
  have replaced : ∀ point ∈ text.lossy, isSurrogate point = false := by
    intro point member
    obtain ⟨source, _, written⟩ := List.mem_flatMap.mp member
    split at written
    · rw [List.eq_of_mem_replicate written]
      rfl
    · next kept =>
        rw [List.mem_singleton.mp written]
        exact Bool.eq_false_iff.mpr kept
  simpa [PyStr.isUnicode] using replaced

theorem lossy_of_isUnicode {text : PyStr} (unicode : text.isUnicode = true) :
    text.lossy = text := by
  have kept : ∀ point ∈ text, isSurrogate point = false := by
    simpa [PyStr.isUnicode] using unicode
  induction text with
  | nil =>
      rfl
  | cons point rest inductionHypothesis =>
      have later := inductionHypothesis
        (by simpa [PyStr.isUnicode] using (List.forall_mem_cons.mp kept).2)
        (List.forall_mem_cons.mp kept).2
      rw [PyStr.lossy, List.flatMap_cons,
        (List.forall_mem_cons.mp kept).1]
      exact congrArg (point :: ·) later

theorem get_eq_none_iff :
    PyDict.get entries key = none ↔ ∀ entry ∈ entries, entry.1 ≠ key := by
  simp [PyDict.get]

theorem get_mem (present : PyDict.get entries key = some found) :
    (key, found) ∈ entries := by
  obtain ⟨⟨name, stored⟩, first, same⟩ := Option.map_eq_some_iff.mp present
  have named : name = key := by
    simpa using List.find?_some first
  rw [← named, ← same]
  exact List.mem_of_find?_eq_some first

theorem prepend_of_absent (absent : PyDict.get entries key = none) :
    PyDict.prepend key value entries = (key, value) :: entries := by
  have all : entries.filter (fun entry => entry.1 != key) = entries :=
    List.filter_eq_self.mpr
      (by simpa using get_eq_none_iff.mp absent)
  rw [PyDict.prepend, absent, all]
  rfl

theorem listIsPlain_cons {values : List Json} :
    Json.ListIsPlain (value :: values) ↔
      value.IsPlain ∧ Json.ListIsPlain values := by
  simp only [Json.ListIsPlain, Json.IsPlain, Json.listIsFinite,
    Json.listHasPlainKeys, Bool.and_eq_true]
  exact and_and_and_comm

theorem entriesArePlain_cons :
    Json.EntriesArePlain ((key, value) :: entries) ↔
      (key.isUnicode = true ∧ PyDict.get entries key = none ∧
        value.IsPlain) ∧ Json.EntriesArePlain entries := by
  simp only [Json.EntriesArePlain, Json.IsPlain, Json.entriesAreFinite,
    Json.entriesHavePlainKeys, Bool.and_eq_true, Option.isNone_iff_eq_none]
  constructor
  · rintro ⟨⟨finite, others⟩, ⟨⟨unicode, absent⟩, plainKeys⟩, later⟩
    exact ⟨⟨unicode, absent, finite, plainKeys⟩, others, later⟩
  · rintro ⟨⟨unicode, absent, finite, plainKeys⟩, others, later⟩
    exact ⟨⟨finite, others⟩, ⟨⟨unicode, absent⟩, plainKeys⟩, later⟩

theorem entriesArePlain_filter (keep : PyStr × Json → Bool)
    (plain : Json.EntriesArePlain entries) :
    Json.EntriesArePlain (entries.filter keep) := by
  induction entries with
  | nil =>
      exact plain
  | cons entry rest inductionHypothesis =>
      obtain ⟨⟨unicode, absent, plainValue⟩, later⟩ :=
        entriesArePlain_cons.mp plain
      have filtered := inductionHypothesis later
      rw [List.filter_cons]
      split
      · have stillAbsent :
            PyDict.get (rest.filter keep) entry.1 = none :=
          get_eq_none_iff.mpr
            (fun other member =>
              get_eq_none_iff.mp absent other (List.mem_filter.mp member).1)
        exact entriesArePlain_cons.mpr
          ⟨⟨unicode, stillAbsent, plainValue⟩, filtered⟩
      · exact filtered

theorem isPlain_of_mem (plain : Json.EntriesArePlain entries)
    (member : (key, value) ∈ entries) : value.IsPlain := by
  induction entries with
  | nil =>
      cases member
  | cons entry rest inductionHypothesis =>
      obtain ⟨⟨_, _, plainValue⟩, later⟩ := entriesArePlain_cons.mp plain
      cases member with
      | head =>
          exact plainValue
      | tail _ member =>
          exact inductionHypothesis later member

theorem prepend_arePlain (unicode : key.isUnicode = true)
    (plainValue : value.IsPlain) (plain : Json.EntriesArePlain entries) :
    Json.EntriesArePlain (PyDict.prepend key value entries) := by
  have plainFinal : ((PyDict.get entries key).getD value).IsPlain := by
    cases present : PyDict.get entries key with
    | none =>
        exact plainValue
    | some found =>
        exact isPlain_of_mem plain (get_mem present)
  have absent : PyDict.get
      (entries.filter (fun entry => entry.1 != key)) key = none :=
    get_eq_none_iff.mpr
      (fun entry member => by simpa using (List.mem_filter.mp member).2)
  exact entriesArePlain_cons.mpr
    ⟨⟨unicode, absent, plainFinal⟩, entriesArePlain_filter _ plain⟩

end Keys

mutual

/-- What is read is plain. -/
theorem Json.onWire_isPlain : ∀ value : Json, value.onWire.IsPlain
  | .null | .bool _ | .int _ | .str _ => ⟨rfl, rfl⟩
  | .float (.finite _ _ _) | .float (.infinite _) | .float .nan => ⟨rfl, rfl⟩
  | .list values => Json.listOnWire_isPlain values
  | .dict entries => Json.entriesOnWire_arePlain entries

theorem Json.listOnWire_isPlain :
    ∀ values, Json.ListIsPlain (Json.listOnWire values)
  | [] => ⟨rfl, rfl⟩
  | value :: rest =>
      listIsPlain_cons.mpr
        ⟨Json.onWire_isPlain value, Json.listOnWire_isPlain rest⟩

theorem Json.entriesOnWire_arePlain :
    ∀ entries, Json.EntriesArePlain (Json.entriesOnWire entries)
  | [] => ⟨rfl, rfl⟩
  | (key, value) :: rest =>
      prepend_arePlain (lossy_isUnicode key) (Json.onWire_isPlain value)
        (Json.entriesOnWire_arePlain rest)

end

mutual

/-- What is plain is read as it is. -/
theorem Json.onWire_of_plain :
    ∀ value : Json, value.IsPlain → value.onWire = value
  | .null, _ | .bool _, _ | .int _, _ | .str _, _ => rfl
  | .float (.finite _ _ _), _ => rfl
  | .list values, plain =>
      congrArg Json.list (Json.listOnWire_of_plain values plain)
  | .dict entries, plain =>
      congrArg Json.dict (Json.entriesOnWire_of_plain entries plain)

theorem Json.listOnWire_of_plain :
    ∀ values, Json.ListIsPlain values → Json.listOnWire values = values
  | [], _ => rfl
  | value :: rest, plain => by
      obtain ⟨first, later⟩ := listIsPlain_cons.mp plain
      rw [Json.listOnWire, Json.onWire_of_plain value first,
        Json.listOnWire_of_plain rest later]

theorem Json.entriesOnWire_of_plain :
    ∀ entries, Json.EntriesArePlain entries →
      Json.entriesOnWire entries = entries
  | [], _ => rfl
  | (key, value) :: rest, plain => by
      obtain ⟨⟨unicode, absent, plainValue⟩, later⟩ :=
        entriesArePlain_cons.mp plain
      rw [Json.entriesOnWire, lossy_of_isUnicode unicode,
        Json.onWire_of_plain value plainValue,
        Json.entriesOnWire_of_plain rest later]
      exact prepend_of_absent absent

end

section Metadata

variable {metadata : PyDict}

/-- Metadata is read as it is exactly when it is plain. -/
theorem entriesOnWire_eq_iff :
    Json.entriesOnWire metadata = metadata ↔
      Json.EntriesArePlain metadata := by
  constructor
  · intro same
    rw [← same]
    exact Json.entriesOnWire_arePlain metadata
  · exact Json.entriesOnWire_of_plain metadata

/-- A second trip changes nothing. -/
theorem entriesOnWire_twice :
    Json.entriesOnWire (Json.entriesOnWire metadata) =
      Json.entriesOnWire metadata :=
  Json.entriesOnWire_of_plain _ (Json.entriesOnWire_arePlain metadata)

/-- Where the keys are Unicode and distinct, only the values change. -/
theorem entriesOnWire_of_keys
    (unicode : ∀ key ∈ metadata.map Prod.fst, PyStr.isUnicode key = true)
    (distinct : (metadata.map Prod.fst).Nodup) :
    Json.entriesOnWire metadata =
      metadata.map (fun entry => (entry.1, entry.2.onWire)) := by
  induction metadata with
  | nil =>
      rfl
  | cons entry rest inductionHypothesis =>
      obtain ⟨first, later⟩ := List.forall_mem_cons.mp unicode
      obtain ⟨other, distinctRest⟩ := List.nodup_cons.mp distinct
      have absent : PyDict.get
          (rest.map (fun entry => (entry.1, entry.2.onWire))) entry.1 =
            none := by
        refine get_eq_none_iff.mpr ?_
        intro written member same
        obtain ⟨source, stored, rfl⟩ := List.mem_map.mp member
        exact other (List.mem_map.mpr ⟨source, stored, same⟩)
      rw [Json.entriesOnWire, lossy_of_isUnicode first,
        inductionHypothesis later distinctRest]
      exact prepend_of_absent absent

theorem entriesHavePlainKeys_of_keys
    (unicode : ∀ key ∈ metadata.map Prod.fst, PyStr.isUnicode key = true)
    (distinct : (metadata.map Prod.fst).Nodup)
    (values : ∀ value ∈ metadata.map Prod.snd, value.hasPlainKeys = true) :
    Json.entriesHavePlainKeys metadata = true := by
  induction metadata with
  | nil =>
      rfl
  | cons entry rest inductionHypothesis =>
      obtain ⟨first, later⟩ := List.forall_mem_cons.mp unicode
      obtain ⟨other, distinctRest⟩ := List.nodup_cons.mp distinct
      obtain ⟨value, laterValues⟩ := List.forall_mem_cons.mp values
      have absent : PyDict.get rest entry.1 = none :=
        get_eq_none_iff.mpr
          (fun entry member same =>
            other (List.mem_map.mpr ⟨entry, member, same⟩))
      rw [Json.entriesHavePlainKeys, first, absent, value,
        inductionHypothesis later distinctRest laterValues]
      rfl

theorem listHasPlainKeys_map {Value : Type} {write : Value → Json}
    (plainKeys : ∀ value, (write value).hasPlainKeys = true)
    (values : List Value) :
    Json.listHasPlainKeys (values.map write) = true := by
  induction values with
  | nil =>
      rfl
  | cons value rest inductionHypothesis =>
      rw [List.map_cons, Json.listHasPlainKeys, plainKeys,
        inductionHypothesis]
      rfl

end Metadata

end EmbeddingService
