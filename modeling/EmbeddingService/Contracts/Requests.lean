import EmbeddingService.Wire

/-!
# What a request must be

The body of an HTTP request has the first three fields of a job.  They are
checked the same way over both transports, so that the errors of a request are
the first errors of a job with the same fields.
-/

namespace EmbeddingService

/-- `EmbeddingRequest.model_validate` of a decoded body. -/
def EmbeddingRequest.modelValidate (settings : Settings)
    (rules : ValueRules) (raw : PyDict) :
    Except (List ErrorDetail) EmbeddingRequest :=
  let input := requiredField raw (pyStr "input") (checkInput settings)
  let inputType :=
    defaultedField raw (pyStr "input_type") InputType.passage checkInputType
  let normalize :=
    defaultedField raw (pyStr "normalize") true rules.boolOf
  match input, inputType, normalize with
  | .ok input, .ok inputType, .ok normalize =>
      .ok
        { input := input
          inputType := inputType
          normalize := normalize }
  | input, inputType, normalize =>
      .error (input.errors ++ inputType.errors ++ normalize.errors)

/-- The fields of a request. -/
def requestFields : List (List PyStr) :=
  [[pyStr "input"], [pyStr "input_type"], [pyStr "normalize"]]

/-- The fields that only a job has. -/
def jobFields : List (List PyStr) :=
  [[pyStr "schema_version"], [pyStr "job_id"], [pyStr "deadline"],
    [pyStr "metadata"]]

/-! ## The texts of an input -/

/-- Texts within the limits: at least one and not too many, none of them blank
or too long. -/
structure WellFormedTexts (settings : Settings) (texts : List PyStr) :
    Prop where
  present : texts ≠ []
  within : (texts.length : Int) ≤ settings.maxBatchItems
  notBlank : ∀ text ∈ texts, PyStr.isBlank text = false
  short : ∀ text ∈ texts, (text.length : Int) ≤ settings.maxCharsPerText

/-- A value that stands for some texts: a list of them, or the only one. -/
inductive Json.Lists : Json → List PyStr → Prop
  | bare (text : PyStr) : Json.Lists (.str text) [text]
  | listed (texts : List PyStr) :
      Json.Lists (.list (texts.map Json.str)) texts

section Texts

variable {settings : Settings} {texts : List PyStr} {value : Json}

/-- The loop over the texts accepts exactly those within the limits. -/
theorem checkTexts_iff {values : List Json} :
    ∀ position, checkTexts settings position values = .ok texts ↔
      values = texts.map Json.str ∧
        (∀ text ∈ texts, PyStr.isBlank text = false) ∧
        ∀ text ∈ texts, (text.length : Int) ≤ settings.maxCharsPerText := by
  induction values generalizing texts with
  | nil =>
      intro position
      cases texts <;> simp [checkTexts]
  | cons first rest inductionHypothesis =>
      intro position
      constructor
      · intro checked
        have same := checkTexts_ok position checked
        cases texts with
        | nil =>
            cases same
        | cons text others =>
            injection same with firstSame restSame
            subst firstSame
            rw [checkTexts] at checked
            split at checked
            · cases checked
            · next notBlank =>
                split at checked
                · cases checked
                · next short =>
                    cases later : checkTexts settings (position + 1) rest with
                    | error msg =>
                        rw [later] at checked
                        cases checked
                    | ok accepted =>
                        rw [later] at checked
                        cases checked
                        obtain ⟨_, laterNotBlank, laterShort⟩ :=
                          (inductionHypothesis (position + 1)).mp later
                        refine ⟨by rw [restSame]; rfl, ?_, ?_⟩
                        · exact List.forall_mem_cons.mpr
                            ⟨by simpa using notBlank, laterNotBlank⟩
                        · exact List.forall_mem_cons.mpr
                            ⟨Int.not_lt.mp short, laterShort⟩
      · rintro ⟨same, notBlank, short⟩
        cases texts with
        | nil =>
            cases same
        | cons text others =>
            injection same with firstSame restSame
            subst firstSame
            have later := (inductionHypothesis (position + 1)).mpr
              ⟨restSame, (List.forall_mem_cons.mp notBlank).2,
                (List.forall_mem_cons.mp short).2⟩
            rw [checkTexts, if_neg (by simp [notBlank]),
              if_neg (Int.not_lt.mpr (short text List.mem_cons_self)),
              later]
            rfl

theorem coerce_listed_iff :
    coerceAndValidate settings (.list (texts.map Json.str)) = .ok texts ↔
      WellFormedTexts settings texts := by
  cases texts with
  | nil =>
      constructor
      · intro checked
        cases checked
      · intro wellFormed
        exact False.elim (wellFormed.present rfl)
  | cons first rest =>
      by_cases many : settings.maxBatchItems < ((first :: rest).length : Int)
      · constructor
        · intro checked
          simp only [coerceAndValidate, List.map_cons, List.length_cons,
            List.length_map] at checked many
          rw [if_pos many] at checked
          cases checked
        · intro wellFormed
          exact False.elim (Int.not_lt.mpr wellFormed.within many)
      · have checks : coerceAndValidate settings
              (.list ((first :: rest).map Json.str)) =
            checkTexts settings 0 ((first :: rest).map Json.str) := by
          simp only [coerceAndValidate, List.map_cons, List.length_cons,
            List.length_map] at many ⊢
          rw [if_neg many]
        rw [checks, checkTexts_iff]
        constructor
        · rintro ⟨_, notBlank, short⟩
          exact ⟨List.cons_ne_nil _ _, Int.not_lt.mp many, notBlank, short⟩
        · intro wellFormed
          exact ⟨rfl, wellFormed.notBlank, wellFormed.short⟩

/-- An input is accepted as some texts exactly when it stands for them and
they are within the limits. -/
theorem checkInput_iff :
    checkInput settings value = .ok texts ↔
      value.Lists texts ∧ WellFormedTexts settings texts := by
  have coerced : checkInput settings value = .ok texts ↔
      coerceAndValidate settings value = .ok texts := by
    constructor
    · exact ok_of_mapError
    · intro returned
      rw [checkInput, returned]
      rfl
  rw [coerced]
  constructor
  · intro checked
    have accepted : texts = value.texts :=
      checkInput_texts (coerced.mpr checked)
    cases value with
    | str text =>
        have one : texts = [text] := accepted
        subst one
        exact ⟨.bare text, coerce_listed_iff.mp checked⟩
    | list values =>
        have listed : values = texts.map Json.str := by
          unfold coerceAndValidate at checked
          cases values with
          | nil =>
              cases checked
          | cons first rest =>
              dsimp only at checked
              split at checked
              · cases checked
              · exact checkTexts_ok 0 checked
        subst listed
        exact ⟨.listed texts, coerce_listed_iff.mp checked⟩
    | _ =>
        cases checked
  · rintro ⟨lists, wellFormed⟩
    have returned := coerce_listed_iff.mpr wellFormed
    cases lists with
    | bare text =>
        exact returned
    | listed =>
        exact returned

end Texts

/-! ## The errors of a request and of a job -/

section Errors

variable {settings : Settings} {rules : ValueRules} {raw : PyDict}
  {freshId : PyStr}

/-- The errors of the three fields of a request. -/
def requestErrors (settings : Settings) (rules : ValueRules)
    (raw : PyDict) : List ErrorDetail :=
  (requiredField raw (pyStr "input") (checkInput settings)).errors ++
    (defaultedField raw (pyStr "input_type") InputType.passage
      checkInputType).errors ++
    (defaultedField raw (pyStr "normalize") true rules.boolOf).errors

theorem request_ok_iff {request : EmbeddingRequest} :
    EmbeddingRequest.modelValidate settings rules raw = .ok request ↔
      requiredField raw (pyStr "input") (checkInput settings) =
          .ok request.input ∧
        defaultedField raw (pyStr "input_type") InputType.passage
          checkInputType = .ok request.inputType ∧
        defaultedField raw (pyStr "normalize") true rules.boolOf =
          .ok request.normalize := by
  unfold EmbeddingRequest.modelValidate
  obtain ⟨texts, type, flag⟩ := request
  cases requiredField raw (pyStr "input") (checkInput settings) <;>
    cases defaultedField raw (pyStr "input_type") InputType.passage
        checkInputType <;>
      cases defaultedField raw (pyStr "normalize") true rules.boolOf <;>
        simp

theorem request_error {errors : List ErrorDetail}
    (rejected : EmbeddingRequest.modelValidate settings rules raw =
      .error errors) :
    errors = requestErrors settings rules raw ∧ errors ≠ [] := by
  unfold EmbeddingRequest.modelValidate at rejected
  unfold requestErrors
  cases input : requiredField raw (pyStr "input") (checkInput settings) <;>
    cases type : defaultedField raw (pyStr "input_type") InputType.passage
        checkInputType <;>
      cases flag : defaultedField raw (pyStr "normalize") true
          rules.boolOf <;>
        simp [input, type, flag, Checked.errors] at rejected ⊢ <;>
          simp [← rejected]

end Errors

end EmbeddingService
