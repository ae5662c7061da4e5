import Mathlib.Algebra.BigOperators.Group.List.Basic

/-!
# Updating one place of a list

What a sum over a list is when one place is replaced: the rest does not
change.
-/

namespace ListUpdate

universe u v

variable {Value : Type u} {Total : Type v}

/-- Writing back what is there changes nothing. -/
theorem set_self {values : List Value} {position : Nat} {value : Value}
    (found : values[position]? = some value) :
    values.set position value = values := by
  obtain ⟨inside, rfl⟩ := List.getElem?_eq_some_iff.mp found
  exact List.set_getElem_self inside

/-- What is found in a list with one value more was there before, or is the
last one. -/
theorem found_concat {values : List Value} {last value : Value}
    {position : Nat}
    (found : (values ++ [last])[position]? = some value) :
    values[position]? = some value ∨
      position = values.length ∧ value = last := by
  by_cases inside : position < values.length
  · rw [List.getElem?_append_left inside] at found
    exact Or.inl found
  · have within := (List.getElem?_eq_some_iff.mp found).1
    rw [List.length_append, List.length_singleton] at within
    have isLast : position = values.length := by omega
    rw [isLast, List.getElem?_concat_length] at found
    exact Or.inr ⟨isLast, (Option.some.inj found).symm⟩

/-- What is found after an update is what was written, or was there before. -/
theorem found_set {values : List Value} {position other : Nat}
    {next value : Value}
    (found : (values.set position next)[other]? = some value) :
    other = position ∧ value = next ∨
      other ≠ position ∧ values[other]? = some value := by
  by_cases same : other = position
  · subst same
    have inside := (List.getElem?_eq_some_iff.mp found).1
    rw [List.length_set] at inside
    rw [List.getElem?_set_self inside] at found
    exact Or.inl ⟨rfl, (Option.some.inj found).symm⟩
  · rw [List.getElem?_set_ne (Ne.symm same)] at found
    exact Or.inr ⟨same, found⟩

/-- A value after an update was written, or is there whatever is written. -/
theorem mem_set_cases {values : List Value} {position : Nat}
    {next value : Value} (other : Value)
    (member : value ∈ values.set position next) :
    value = next ∨ value ∈ values.set position other := by
  obtain ⟨place, found⟩ := List.mem_iff_getElem?.mp member
  rcases found_set found with ⟨_, same⟩ | ⟨different, before⟩
  · exact Or.inl same
  · refine Or.inr (List.mem_iff_getElem?.mpr ⟨place, ?_⟩)
    rw [List.getElem?_set_ne (Ne.symm different)]
    exact before

theorem countP_cons_toNat (test : Value → Bool) (first : Value)
    (later : List Value) :
    (first :: later).countP test =
      later.countP test + (test first).toNat := by
  cases held : test first <;> simp [held]

/-- How many values of a list satisfy a test, seen from one place. -/
theorem exists_countP_set (test : Value → Bool) {values : List Value}
    {position : Nat} {value : Value}
    (found : values[position]? = some value) :
    ∃ rest,
      values.countP test = rest + (test value).toNat ∧
      ∀ other, (values.set position other).countP test =
        rest + (test other).toNat := by
  induction values generalizing position with
  | nil =>
      simp at found
  | cons first later inductionHypothesis =>
      cases position with
      | zero =>
          have same : first = value := by
            simpa using found
          subst same
          exact ⟨later.countP test, countP_cons_toNat test first later,
            fun other => countP_cons_toNat test other later⟩
      | succ position =>
          obtain ⟨rest, before, after⟩ :=
            inductionHypothesis (by simpa using found)
          refine ⟨rest + (test first).toNat, ?_, ?_⟩
          · rw [countP_cons_toNat, before, Nat.add_right_comm]
          · intro other
            rw [List.set_cons_succ, countP_cons_toNat, after other,
              Nat.add_right_comm]

/-- A test that implies another holds as often only where the other implies
it too. -/
theorem countP_eq_iff {test weaker : Value → Bool} {values : List Value}
    (implies : ∀ value ∈ values, test value = true → weaker value = true) :
    values.countP test = values.countP weaker ↔
      ∀ value ∈ values, weaker value = true → test value = true := by
  induction values with
  | nil =>
      simp
  | cons first later inductionHypothesis =>
      have laterImplies :
          ∀ value ∈ later, test value = true → weaker value = true :=
        fun value member => implies value (List.mem_cons_of_mem _ member)
      have fewer := List.countP_mono_left laterImplies
      rw [List.forall_mem_cons, ← inductionHypothesis laterImplies,
        List.countP_cons, List.countP_cons]
      have firstImplies := implies first List.mem_cons_self
      cases held : test first with
      | true =>
          simp [firstImplies held]
      | false =>
          cases allowed : weaker first with
          | true =>
              simp only [Bool.false_eq_true, if_false, if_true, forall_const,
                false_and, iff_false]
              omega
          | false =>
              simp

variable [AddCommMonoid Total]

/-- The sum over a list, seen from one place. -/
theorem exists_sum_set (weigh : Value → Total) {values : List Value}
    {position : Nat} {value : Value}
    (found : values[position]? = some value) :
    ∃ rest,
      (values.map weigh).sum = weigh value + rest ∧
      ∀ other, ((values.set position other).map weigh).sum =
        weigh other + rest := by
  induction values generalizing position with
  | nil =>
      simp at found
  | cons first later inductionHypothesis =>
      cases position with
      | zero =>
          have same : first = value := by
            simpa using found
          subst same
          exact ⟨(later.map weigh).sum, by simp, by simp⟩
      | succ position =>
          obtain ⟨rest, before, after⟩ :=
            inductionHypothesis (by simpa using found)
          refine ⟨weigh first + rest, ?_, ?_⟩
          · rw [List.map_cons, List.sum_cons, before, add_left_comm]
          · intro other
            rw [List.set_cons_succ, List.map_cons, List.sum_cons,
              after other, add_left_comm]

end ListUpdate
