import EmbeddingService.Library.Interleaving

/-!
# The level of the tokenizer's logger

`_detect_truncation` raises the level of a logger that the whole process
shares, and puts back the level it read before.  Calls run in the threads of
their encodes, so many at a time as encodes may run.
-/

namespace EmbeddingService

open LabelledRuns Interleaving

/-- `logging.ERROR`. -/
def errorLevel : Int := 40

/-- Where a call of `_detect_truncation` is: it has read the level, set it to
`ERROR` for the tokenizer, is about to put it back, or is over. -/
inductive DetectState where
  | called
  | read (previous : Int)
  | measuring (previous : Int)
  | restoring (previous : Int)
  | ended
  deriving DecidableEq, Repr

def DetectState.isEnded : DetectState → Bool
  | .ended => true
  | _ => false

/-- The steps of one call; whether the tokenizer returns or raises, the level
is put back. -/
inductive DetectMoves :
    Int → DetectState → Unit → Int → DetectState → Prop
  | read {level : Int} :
      DetectMoves level .called () level (.read level)
  | set {level previous : Int} :
      DetectMoves level (.read previous) () errorLevel (.measuring previous)
  | measure {level previous : Int} :
      DetectMoves level (.measuring previous) () level (.restoring previous)
  | restore {level previous : Int} :
      DetectMoves level (.restoring previous) () previous .ended

/-- A call counts while it is under way. -/
def DetectState.count : DetectState → Nat
  | .ended => 0
  | _ => 1

/-- How many calls are under way. -/
def underWayCalls (system : Threads Int DetectState) : Nat :=
  weight DetectState.count system

/-- Calls of threads of which at most `limit` run at a time. -/
def DetectStep (limit : Nat) (before : Threads Int DetectState)
    (action : Interleaving.Action DetectState Unit)
    (after : Threads Int DetectState) : Prop :=
  Interleaving.Step (· = .called) DetectMoves before action after ∧
    underWayCalls after ≤ limit

/-- What a call knows of the level when no other call is under way. -/
def LevelKnown (initial level : Int) : DetectState → Prop
  | .called => level = initial
  | .read previous => previous = initial ∧ level = initial
  | .measuring previous => previous = initial
  | .restoring previous => previous = initial
  | .ended => True

/-- No call is under way and the level is the first one, or every call knows
of it. -/
structure LevelKept (initial : Int) (system : Threads Int DetectState) :
    Prop where
  known : ∀ thread ∈ system.threads,
    LevelKnown initial system.shared thread
  restored : (∀ thread ∈ system.threads, thread.isEnded = true) →
    system.shared = initial

section Serial

variable {initial : Int} {system after : Threads Int DetectState}

theorem count_of_running {thread : DetectState}
    (running : thread.isEnded = false) : thread.count = 1 := by
  cases thread with
  | ended =>
      cases running
  | _ =>
      rfl

theorem ended_of_none_underWay (none : underWayCalls system = 0)
    {thread : DetectState} (member : thread ∈ system.threads) :
    thread.isEnded = true := by
  by_contra running
  have counted : thread.count = 1 :=
    count_of_running (by simpa using running)
  have positive : 0 < underWayCalls system :=
    weight_pos member (by omega)
  omega

/-- While one call at most is under way, all others are over when it moves. -/
theorem others_ended (single : underWayCalls system ≤ 1) {number : Nat}
    {thread : DetectState} (found : system.threads[number]? = some thread)
    (running : thread.isEnded = false) :
    ∀ other ∈ system.threads.set number .ended, other.isEnded = true := by
  have moving := weight_move DetectState.count found system.shared .ended
  rw [count_of_running running] at moving
  have none : underWayCalls
      { shared := system.shared
        threads := system.threads.set number .ended } = 0 := by
    unfold underWayCalls at single ⊢
    change _ + 1 = _ + 0 at moving
    omega
  intro other member
  exact ended_of_none_underWay none member

/-- With one call at most under way, the level is put back. -/
theorem LevelKept.step (kept : LevelKept initial system)
    (single : underWayCalls system ≤ 1)
    {action : Interleaving.Action DetectState Unit}
    (taken : DetectStep 1 system action after) :
    LevelKept initial after := by
  obtain ⟨moved, singleAfter⟩ := taken
  cases moved with
  | @start thread starts =>
      subst starts
      have idle : ∀ other ∈ system.threads, other.isEnded = true := by
        have added := weight_start DetectState.count system .called
        have none : underWayCalls system = 0 := by
          unfold underWayCalls at singleAfter ⊢
          change _ = _ + 1 at added
          omega
        exact fun other member => ended_of_none_underWay none member
      refine ⟨?_, ?_⟩
      · intro other member
        rcases List.mem_append.mp member with old | new
        · exact kept.known other old
        · rw [List.mem_singleton.mp new]
          exact kept.restored idle
      · intro allEnded
        have ended := allEnded .called (by simp)
        cases ended
  | @move number thread next label level found moves =>
      have running : thread.isEnded = false := by
        cases moves <;> rfl
      have others := others_ended single found running
      have known := kept.known thread (List.mem_of_getElem? found)
      have nextKnown : LevelKnown initial level next ∧
          (next.isEnded = true → level = initial) := by
        cases moves with
        | read =>
            exact ⟨⟨known, known⟩, by simp [DetectState.isEnded]⟩
        | set =>
            exact ⟨known.1, by simp [DetectState.isEnded]⟩
        | measure =>
            exact ⟨known, by simp [DetectState.isEnded]⟩
        | restore =>
            exact ⟨trivial, fun _ => known⟩
      refine ⟨?_, ?_⟩
      · intro other member
        rcases ListUpdate.mem_set_cases .ended member with same | gone
        · rw [same]
          exact nextKnown.1
        · have otherEnded := others other gone
          cases other with
          | ended =>
              trivial
          | _ =>
              cases otherEnded
      · intro allEnded
        have inside := (List.getElem?_eq_some_iff.mp found).1
        exact nextKnown.2 (allEnded next (List.mem_set inside next))

/-- One call after the other. -/
theorem levelKept_of_reachable
    (reached : Reachable (DetectStep 1) { shared := initial } system) :
    LevelKept initial system := by
  refine (reached.invariant (I := fun system =>
    LevelKept initial system ∧ underWayCalls system ≤ 1)
    ⟨{ known := by simp, restored := fun _ => rfl }, Nat.zero_le 1⟩
    ?_).1
  rintro before action after ⟨kept, single⟩ taken
  exact ⟨kept.step single taken, taken.2⟩

end Serial

/-- At the level `ERROR` every call reads that level. -/
theorem errorOutline :
    Outline (· = errorLevel)
      (fun _ thread => ∀ previous,
        thread = .read previous ∨ thread = .measuring previous ∨
          thread = .restoring previous → previous = errorLevel)
      (fun _ _ => True) (· = .called) DetectMoves where
  symmetric := fun _ _ _ => trivial
  starts := by
    rintro level _ _ rfl previous state
    simp at state
  startsApart := fun _ _ _ _ _ => trivial
  own := by
    intro level thread label after next quiet known moves
    cases moves with
    | read =>
        refine ⟨quiet, ?_⟩
        rintro previous (same | same | same) <;> cases same
        exact quiet
    | set =>
        refine ⟨rfl, ?_⟩
        rintro previous (same | same | same) <;> cases same
        exact known _ (Or.inl rfl)
    | measure =>
        refine ⟨quiet, ?_⟩
        rintro previous (same | same | same) <;> cases same
        exact known _ (Or.inr (Or.inl rfl))
    | restore =>
        refine ⟨known _ (Or.inr (Or.inr rfl)), ?_⟩
        rintro previous (same | same | same) <;> cases same
  others := fun _ _ _ _ _ _ _ known _ _ => ⟨known, trivial⟩

section Limits

variable {limit : Nat} {initial : Int}
  {system after : Threads Int DetectState}

theorem reachable_of_detect
    (reached : Reachable (DetectStep limit) { shared := initial } system) :
    Reachable (Interleaving.Step (· = .called) DetectMoves)
      { shared := initial } system :=
  reached.mono (fun _ _ _ taken => taken.1)

theorem reachable_of_limit_le {larger : Nat} (fewer : limit ≤ larger)
    (reached : Reachable (DetectStep limit) { shared := initial } system) :
    Reachable (DetectStep larger) { shared := initial } system :=
  reached.mono (fun _ _ _ taken => ⟨taken.1, taken.2.trans fewer⟩)

theorem detect_move {source : Threads Int DetectState}
    (reached : Reachable (DetectStep limit) source system) (number : Nat)
    {thread next : DetectState} {level : Int}
    (found : system.threads[number]? = some thread)
    (moves : DetectMoves system.shared thread () level next)
    (room : Nat.ble (underWayCalls
      { shared := level
        threads := system.threads.set number next }) limit = true) :
    Reachable (DetectStep limit) source
      { shared := level, threads := system.threads.set number next } :=
  reached.tail ⟨.move found moves, Nat.le_of_ble_eq_true room⟩

/-- Two calls that overlap: the second one reads the level that the first one
set, and puts it back last. -/
theorem overlap_reachable (initial : Int) :
    Reachable (DetectStep 2) { shared := initial }
      { shared := errorLevel, threads := [.ended, .ended] } := by
  have oneCall : Reachable (DetectStep 2) { shared := initial }
      { shared := initial, threads := [.called] } :=
    (Reachable.refl _).tail
      ⟨.start rfl, Nat.le_of_ble_eq_true rfl⟩
  have twoCalls : Reachable (DetectStep 2) { shared := initial }
      { shared := initial, threads := [.called, .called] } :=
    oneCall.tail ⟨.start rfl, Nat.le_of_ble_eq_true rfl⟩
  have overlapping := detect_move (detect_move (detect_move
    (detect_move twoCalls 0 rfl .read rfl) 0 rfl .set rfl)
    1 rfl .read rfl) 1 rfl .set rfl
  exact detect_move (detect_move (detect_move
    (detect_move overlapping 0 rfl .measure rfl) 0 rfl .restore rfl)
    1 rfl .measure rfl) 1 rfl .restore rfl

/-- Whenever no call is under way the logger has its own level again, in every
run, if and only if at most one call runs at a time, or the level was `ERROR`
all along. -/
theorem levelRestored_iff (limit : Nat) (initial : Int) :
    (∀ system, Reachable (DetectStep limit) { shared := initial } system →
      (∀ thread ∈ system.threads, thread.isEnded = true) →
        system.shared = initial) ↔
      limit ≤ 1 ∨ initial = errorLevel := by
  constructor
  · intro restored
    by_cases few : limit ≤ 1
    · exact Or.inl few
    · have overlap := restored _
        (reachable_of_limit_le (by omega) (overlap_reachable initial))
        (by decide)
      exact Or.inr overlap.symm
  · rintro (few | quiet) system reached allEnded
    · exact (levelKept_of_reachable
        (reachable_of_limit_le few reached)).restored allEnded
    · have annotated := errorOutline.reachable quiet
        (reachable_of_detect reached)
      exact annotated.shared.trans quiet.symm

end Limits

end EmbeddingService
