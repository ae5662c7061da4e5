import Mathlib.Data.Set.Basic
import EmbeddingService.Library.CallProgram

/-!
# Declarations in a shared catalog

Several parties declare what they need in one catalog.  A declaration that
agrees with what is there is accepted and adds its items, which may be there
already; one that conflicts, or that lacks what it needs, is refused; and a
call may fail for another reason, with or without effect.  Nothing is removed.

A program that declares within one schema, each call after what it needs, is
never refused, whatever the others do within the schema.
-/

namespace Declarations

open CallProgram

universe u v w x

/-- What a call adds to the catalog, what it conflicts with, what it needs
there, and whether the catalog takes such calls at all. -/
structure Rules (Call : Type u) (Item : Type v) where
  adds : Call → Set Item
  Conflicts : Call → Item → Prop
  Needs : Call → Set Item → Prop
  Admits : Call → Prop
  needs_mono : ∀ call {before after : Set Item}, before ⊆ after →
    Needs call before → Needs call after

inductive Answer where
  | accepted
  | refused
  | failed
  deriving DecidableEq, Repr

section Catalogs

variable {Call : Type u} {Item : Type v} (rules : Rules Call Item)

/-- A call agrees with a catalog. -/
def Rules.Agrees (catalog : Set Item) (call : Call) : Prop :=
  ∀ item ∈ catalog, ¬ rules.Conflicts call item

/-- A call that a catalog can take as it stands. -/
structure Rules.Accepts (catalog : Set Item) (call : Call) : Prop where
  admitted : rules.Admits call
  agrees : rules.Agrees catalog call
  met : rules.Needs call catalog

/-- How a catalog may answer a call. -/
inductive Rules.Answers (catalog : Set Item) (call : Call) :
    Answer → Set Item → Prop
  | accepted (accepts : rules.Accepts catalog call) :
      Rules.Answers catalog call .accepted (catalog ∪ rules.adds call)
  | refused (unaccepted : ¬ rules.Accepts catalog call) :
      Rules.Answers catalog call .refused catalog
  | failed : Rules.Answers catalog call .failed catalog
  | failedLate (accepts : rules.Accepts catalog call) :
      Rules.Answers catalog call .failed (catalog ∪ rules.adds call)

variable {rules} {catalog after : Set Item} {call : Call} {answer : Answer}

/-- The catalog only grows, by what is declared. -/
theorem Rules.Answers.grows (answers : rules.Answers catalog call answer after) :
    catalog ⊆ after ∧ after ⊆ catalog ∪ rules.adds call := by
  cases answers with
  | accepted accepts =>
      exact ⟨Set.subset_union_left, Set.Subset.refl _⟩
  | refused unaccepted =>
      exact ⟨Set.Subset.refl _, Set.subset_union_left⟩
  | failed =>
      exact ⟨Set.Subset.refl _, Set.subset_union_left⟩
  | failedLate accepts =>
      exact ⟨Set.subset_union_left, Set.Subset.refl _⟩

/-- A call within a schema: it adds only what the schema has, and conflicts
with nothing there. -/
structure Rules.Fits (rules : Rules Call Item) (schema : Set Item)
    (call : Call) : Prop where
  admitted : rules.Admits call
  adds : rules.adds call ⊆ schema
  agrees : rules.Agrees schema call

/-- A call within the schema, after what it needs, is not refused. -/
theorem Rules.Answers.not_refused
    (answers : rules.Answers catalog call answer after) {schema : Set Item}
    (within : catalog ⊆ schema) (fits : rules.Fits schema call)
    (met : rules.Needs call catalog) : answer ≠ .refused := by
  cases answers with
  | refused unaccepted =>
      have accepts : rules.Accepts catalog call :=
        { admitted := fits.admitted
          agrees := fun item member => fits.agrees item (within member)
          met := met }
      exact False.elim (unaccepted accepts)
  | _ =>
      intro refused
      cases refused

end Catalogs

/-! ## Programs that declare -/

section Programs

variable {Call : Type u} {Item : Type v} {Value : Type w} {Other : Type x}
  {rules : Rules Call Item} {schema known : Set Item}

/-- A program declares within the schema, each call after what it needs, where
`known` is what is known to be in the catalog; it ends with a value for which
what is known by then satisfies `Post`.  A failed call adds nothing to what is
known. -/
def Declares (rules : Rules Call Item) (schema : Set Item) :
    CallProgram Call Answer Value → Set Item →
      (Value → Set Item → Prop) → Prop
  | .done value, known, Post => Post value known
  | .call request resume, known, Post =>
      rules.Fits schema request ∧ rules.Needs request known ∧
        Declares rules schema (resume .accepted)
          (known ∪ rules.adds request) Post ∧
        Declares rules schema (resume .failed) known Post

theorem Declares.andThen {first : CallProgram Call Answer Value}
    {second : Value → CallProgram Call Answer Other}
    {Middle : Value → Set Item → Prop} {Post : Other → Set Item → Prop}
    (declares : Declares rules schema first known Middle)
    (continued : ∀ value known, Middle value known →
      Declares rules schema (second value) known Post) :
    Declares rules schema (first.andThen second) known Post := by
  induction first generalizing known with
  | done value =>
      exact continued value known declares
  | call request resume inductionHypothesis =>
      obtain ⟨fits, met, accepted, failed⟩ := declares
      exact ⟨fits, met, inductionHypothesis _ accepted,
        inductionHypothesis _ failed⟩

/-- A call of the program is not refused, and its answer leaves a program that
declares, with what was accepted known. -/
theorem Declares.answer {program : CallProgram Call Answer Value}
    {Post : Value → Set Item → Prop}
    (declares : Declares rules schema program known Post) {request : Call}
    (calls : program.request? = some request) {catalog after : Set Item}
    {answer : Answer} (answers : rules.Answers catalog request answer after)
    (within : catalog ⊆ schema) (has : known ⊆ catalog) :
    answer ≠ .refused ∧ after ⊆ schema ∧
      ∃ next, next ⊆ after ∧
        Declares rules schema (program.answer answer) next Post := by
  cases program with
  | done value =>
      cases calls
  | call other resume =>
      cases calls
      obtain ⟨fits, met, accepted, failed⟩ := declares
      have notRefused := answers.not_refused within fits
        (rules.needs_mono request has met)
      refine ⟨notRefused, ?_, ?_⟩
      · exact answers.grows.2.trans (Set.union_subset within fits.adds)
      · cases answers with
        | accepted accepts =>
            exact ⟨_, Set.union_subset_union_left _ has, accepted⟩
        | refused unaccepted =>
            exact False.elim (notRefused rfl)
        | failed =>
            exact ⟨known, has, failed⟩
        | failedLate accepts =>
            exact ⟨known, has.trans Set.subset_union_left, failed⟩

theorem Declares.value {program : CallProgram Call Answer Value}
    {Post : Value → Set Item → Prop} {value : Value}
    (declares : Declares rules schema program known Post)
    (finished : program.value? = some value) : Post value known := by
  cases program with
  | done result =>
      cases finished
      exact declares
  | call request resume =>
      cases finished

/-- What a program adds if every call is accepted. -/
def acceptedItems (rules : Rules Call Item) :
    CallProgram Call Answer Value → Set Item
  | .done _ => ∅
  | .call request resume =>
      rules.adds request ∪ acceptedItems rules (resume .accepted)

/-- What a program returns if every call is accepted. -/
def acceptedValue : CallProgram Call Answer Value → Value
  | .done value => value
  | .call _ resume => acceptedValue (resume .accepted)

theorem acceptedItems_andThen (first : CallProgram Call Answer Value)
    (second : Value → CallProgram Call Answer Other) :
    acceptedItems rules (first.andThen second) =
      acceptedItems rules first ∪
        acceptedItems rules (second (acceptedValue first)) := by
  induction first with
  | done value =>
      exact (Set.empty_union _).symm
  | call request resume inductionHypothesis =>
      rw [CallProgram.andThen, acceptedItems, inductionHypothesis .accepted,
        acceptedItems, Set.union_assoc]
      rfl

end Programs

end Declarations
