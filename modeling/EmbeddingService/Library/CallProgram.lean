import Mathlib.Algebra.BigOperators.Group.List.Basic
import Mathlib.Algebra.Ring.Nat
import EmbeddingService.Library.LabelledRuns

/-!
# Programs that call out

A program either is done or calls out and continues with the reply.  What is
on the other side is not part of the program: a rule about it is a relation
between calls and the replies it may give.
-/

universe u v w x

/-- A sequential program over calls answered by an environment. -/
inductive CallProgram (Call : Type u) (Reply : Type v) (Value : Type w) where
  | done (value : Value)
  | call (request : Call) (resume : Reply → CallProgram Call Reply Value)

namespace CallProgram

variable {Call : Type u} {Reply : Type v} {Value : Type w} {Other : Type x}

/-- Sequential composition. -/
def andThen (first : CallProgram Call Reply Value)
    (second : Value → CallProgram Call Reply Other) :
    CallProgram Call Reply Other :=
  match first with
  | .done value => second value
  | .call request resume =>
      .call request (fun reply => (resume reply).andThen second)

/-- The next call of a program. -/
def request? : CallProgram Call Reply Value → Option Call
  | .done _ => none
  | .call request _ => some request

/-- The result of a program that is done. -/
def value? : CallProgram Call Reply Value → Option Value
  | .done value => some value
  | .call _ _ => none

/-- Continue with a reply to the next call. -/
def answer (program : CallProgram Call Reply Value) (reply : Reply) :
    CallProgram Call Reply Value :=
  match program with
  | .done value => .done value
  | .call _ resume => resume reply

/-- Every result the program can have, when each call is answered as `Allowed`
says, satisfies `Post`. -/
def Ensures (Allowed : Call → Reply → Prop) :
    CallProgram Call Reply Value → (Value → Prop) → Prop
  | .done value, Post => Post value
  | .call request resume, Post =>
      ∀ reply, Allowed request reply →
        Ensures Allowed (resume reply) Post

variable {Allowed : Call → Reply → Prop}

theorem Ensures.andThen {first : CallProgram Call Reply Value}
    {second : Value → CallProgram Call Reply Other}
    {Middle : Value → Prop} {Post : Other → Prop}
    (ensured : Ensures Allowed first Middle)
    (continued : ∀ value, Middle value →
      Ensures Allowed (second value) Post) :
    Ensures Allowed (first.andThen second) Post := by
  induction first with
  | done value =>
      exact continued value ensured
  | call request resume inductionHypothesis =>
      intro reply allowed
      exact inductionHypothesis reply (ensured reply allowed)

/-- One call of the program preserves what it ensures. -/
theorem Ensures.answer {program : CallProgram Call Reply Value}
    {Post : Value → Prop} {request : Call} {reply : Reply}
    (ensured : Ensures Allowed program Post)
    (calls : program.request? = some request)
    (allowed : Allowed request reply) :
    Ensures Allowed (program.answer reply) Post := by
  cases program with
  | done value =>
      cases calls
  | call other resume =>
      cases calls
      exact ensured reply allowed

theorem Ensures.value {program : CallProgram Call Reply Value}
    {Post : Value → Prop} {value : Value}
    (ensured : Ensures Allowed program Post)
    (finished : program.value? = some value) : Post value := by
  cases program with
  | done result =>
      cases finished
      exact ensured
  | call request resume =>
      cases finished

/-- A program that has a result makes no call. -/
theorem noCall_of_value {program : CallProgram Call Reply Value}
    {value : Value} (finished : program.value? = some value) :
    program.request? = none := by
  cases program with
  | done result =>
      rfl
  | call request resume =>
      cases finished

/-- The calls and the result of a program whose calls, from `number` on, are
answered by `replies`. -/
def runFrom (replies : Nat → Call → Reply) :
    Nat → CallProgram Call Reply Value → List (Call × Reply) × Value
  | _, .done value => ([], value)
  | number, .call request resume =>
      let reply := replies number request
      let later := runFrom replies (number + 1) (resume reply)
      ((request, reply) :: later.1, later.2)

/-- A composition makes the calls of its parts one after the other. -/
theorem runFrom_andThen (replies : Nat → Call → Reply)
    (first : CallProgram Call Reply Value)
    (second : Value → CallProgram Call Reply Other) :
    ∀ number, (first.andThen second).runFrom replies number =
      let before := first.runFrom replies number
      let after :=
        (second before.2).runFrom replies (number + before.1.length)
      (before.1 ++ after.1, after.2) := by
  induction first with
  | done value =>
      intro number
      rfl
  | call request resume inductionHypothesis =>
      intro number
      have later :=
        inductionHypothesis (replies number request) (number + 1)
      rw [andThen, runFrom, later]
      simp [runFrom, Nat.add_assoc, Nat.add_comm 1]

/-- One program is what is left of another after one reply. -/
def Continues (next program : CallProgram Call Reply Value) : Prop :=
  ∃ request reply, program.request? = some request ∧
    next = program.answer reply

/-- A program makes finitely many calls, whatever the replies. -/
theorem continues_wellFounded :
    WellFounded (@Continues Call Reply Value) := by
  constructor
  intro program
  induction program with
  | done value =>
      constructor
      intro next continues
      obtain ⟨request, reply, calls, _⟩ := continues
      cases calls
  | call request resume inductionHypothesis =>
      constructor
      intro next continues
      obtain ⟨_, reply, _, same⟩ := continues
      rw [same]
      exact inductionHypothesis reply

/-! ## What a program spends on its calls -/

section Spending

open LabelledRuns

/-- One call of a program and its reply. -/
def Exchanges (before : CallProgram Call Reply Value)
    (exchange : Call × Reply) (after : CallProgram Call Reply Value) :
    Prop :=
  before.request? = some exchange.1 ∧ after = before.answer exchange.2

variable (weigh : Call → Nat)

/-- The calls of a program weigh `total` together, whatever the replies. -/
def Spends : CallProgram Call Reply Value → Nat → Prop
  | .done _, total => total = 0
  | .call request resume, total =>
      ∃ later, total = weigh request + later ∧
        ∀ reply, Spends (resume reply) later

/-- What the answered calls weigh. -/
def spent (calls : List (Call × Reply)) : Nat :=
  (calls.map (fun exchange => weigh exchange.1)).sum

/-- What the call under way weighs. -/
def underWay (program : CallProgram Call Reply Value) : Nat :=
  (program.request?.map weigh).getD 0

@[simp]
theorem spent_nil : spent weigh ([] : List (Call × Reply)) = 0 :=
  rfl

@[simp]
theorem spent_cons (exchange : Call × Reply) (calls : List (Call × Reply)) :
    spent weigh (exchange :: calls) =
      weigh exchange.1 + spent weigh calls := by
  simp [spent]

theorem spent_append (first second : List (Call × Reply)) :
    spent weigh (first ++ second) =
      spent weigh first + spent weigh second := by
  simp [spent]

variable {weigh} {program after : CallProgram Call Reply Value}
  {total : Nat}

/-- A composition spends what its parts do. -/
theorem Spends.andThen {first : CallProgram Call Reply Value}
    {second : Value → CallProgram Call Reply Other} {later : Nat}
    (spends : Spends weigh first total)
    (continued : ∀ value, Spends weigh (second value) later) :
    Spends weigh (first.andThen second) (total + later) := by
  induction first generalizing total with
  | done value =>
      have nothing : total = 0 := spends
      rw [nothing, Nat.zero_add]
      exact continued value
  | call request resume inductionHypothesis =>
      obtain ⟨rest, split, resumed⟩ := spends
      refine ⟨rest + later, ?_, fun reply =>
        inductionHypothesis reply (resumed reply)⟩
      rw [split, Nat.add_assoc]

/-- A call takes its weight off what is left to spend. -/
theorem Spends.exchange (spends : Spends weigh program total)
    {exchange : Call × Reply} (taken : Exchanges program exchange after) :
    ∃ later, total = weigh exchange.1 + later ∧
      Spends weigh after later := by
  obtain ⟨calls, same⟩ := taken
  cases program with
  | done value =>
      cases calls
  | call request resume =>
      cases calls
      obtain ⟨later, split, resumed⟩ := spends
      rw [same]
      exact ⟨later, split, resumed exchange.2⟩

/-- What was spent and what is left make up the total. -/
theorem Spends.run (spends : Spends weigh program total)
    {calls : List (Call × Reply)}
    (run : Run Exchanges program calls after) :
    ∃ left, Spends weigh after left ∧ spent weigh calls + left = total := by
  induction run with
  | nil =>
      exact ⟨total, spends, by simp⟩
  | snoc before taken inductionHypothesis =>
      obtain ⟨left, leftSpends, balance⟩ := inductionHypothesis
      obtain ⟨later, split, laterSpends⟩ := leftSpends.exchange taken
      refine ⟨later, laterSpends, ?_⟩
      rw [← balance, split, spent_append, spent_cons, spent_nil]
      omega

theorem Spends.underWay_le (spends : Spends weigh program total) :
    underWay weigh program ≤ total := by
  cases program with
  | done value =>
      exact Nat.zero_le total
  | call request resume =>
      obtain ⟨later, split, _⟩ := spends
      rw [split]
      exact Nat.le_add_right _ later

theorem Spends.of_noCall (spends : Spends weigh program total)
    (finished : program.request? = none) : total = 0 := by
  cases program with
  | done value =>
      exact spends
  | call request resume =>
      cases finished

end Spending

/-! ## What a program calls -/

section Calls

variable {Pre Weaker : Call → Prop}

/-- Every call that the program can make, whatever the replies, satisfies
`Pre`. -/
def CallsOnly (Pre : Call → Prop) :
    CallProgram Call Reply Value → Prop
  | .done _ => True
  | .call request resume =>
      Pre request ∧ ∀ reply, CallsOnly Pre (resume reply)

theorem CallsOnly.mono {program : CallProgram Call Reply Value}
    (only : CallsOnly Pre program)
    (weaker : ∀ request, Pre request → Weaker request) :
    CallsOnly Weaker program := by
  induction program with
  | done value =>
      trivial
  | call request resume inductionHypothesis =>
      exact ⟨weaker request only.1,
        fun reply => inductionHypothesis reply (only.2 reply)⟩

theorem CallsOnly.andThen {first : CallProgram Call Reply Value}
    {second : Value → CallProgram Call Reply Other}
    (only : CallsOnly Pre first)
    (continued : ∀ value, CallsOnly Pre (second value)) :
    CallsOnly Pre (first.andThen second) := by
  induction first with
  | done value =>
      exact continued value
  | call request resume inductionHypothesis =>
      exact ⟨only.1, fun reply => inductionHypothesis reply (only.2 reply)⟩

theorem CallsOnly.request {program : CallProgram Call Reply Value}
    {request : Call} (only : CallsOnly Pre program)
    (calls : program.request? = some request) : Pre request := by
  cases program with
  | done value =>
      cases calls
  | call other resume =>
      cases calls
      exact only.1

theorem CallsOnly.answer {program : CallProgram Call Reply Value}
    (only : CallsOnly Pre program) (reply : Reply) :
    CallsOnly Pre (program.answer reply) := by
  cases program with
  | done value =>
      trivial
  | call request resume =>
      exact only.2 reply

end Calls

end CallProgram
