import Mathlib.Data.List.Perm.Basic

/-!
# Binary heaps on lists

The operations of Python's `heapq` on a list: position `i` has its children at
`2 * i + 1` and `2 * i + 2`.  The moving hole of the original is written here
with swaps.  Every operation only rearranges its items.
-/

namespace Heapq

universe u

variable {α : Type u}

/-- Exchange two positions of a list. -/
def swap (heap : List α) (i j : Nat) : List α :=
  match heap[i]?, heap[j]? with
  | some atI, some atJ => (heap.set i atJ).set j atI
  | _, _ => heap

theorem swap_perm (heap : List α) (i j : Nat) :
    (swap heap i j).Perm heap := by
  unfold swap
  split
  · next atI atJ foundI foundJ =>
      obtain ⟨iBound, rfl⟩ := List.getElem?_eq_some_iff.mp foundI
      obtain ⟨jBound, rfl⟩ := List.getElem?_eq_some_iff.mp foundJ
      exact List.set_set_perm iBound jBound
  · exact List.Perm.refl heap

@[simp]
theorem swap_length (heap : List α) (i j : Nat) :
    (swap heap i j).length = heap.length :=
  (swap_perm heap i j).length_eq

variable (before : α → α → Bool)

/-- `_siftdown`: move the item at `pos` towards the root, as far as
`startpos`, while it comes before its parent. -/
def siftdown (startpos : Nat) (heap : List α) (pos : Nat) : List α :=
  if startpos < pos then
    match heap[pos]?, heap[(pos - 1) / 2]? with
    | some newitem, some parent =>
        if before newitem parent then
          siftdown startpos (swap heap pos ((pos - 1) / 2)) ((pos - 1) / 2)
        else
          heap
    | _, _ => heap
  else
    heap
termination_by pos
decreasing_by omega

/-- The child of `pos` that `_siftup` follows: the smaller one, the left one
when neither comes before the other. -/
def smallerChild (heap : List α) (pos : Nat) : Nat :=
  match heap[2 * pos + 1]?, heap[2 * pos + 2]? with
  | some left, some right =>
      if before left right then 2 * pos + 1 else 2 * pos + 2
  | _, _ => 2 * pos + 1

/-- `_siftup`: bring the smaller children up along a path from `pos` to a
leaf, then let the moved item find its place on that path. -/
def siftup (startpos : Nat) (heap : List α) (pos : Nat) : List α :=
  if 2 * pos + 1 < heap.length then
    siftup startpos (swap heap pos (smallerChild before heap pos))
      (smallerChild before heap pos)
  else
    siftdown before startpos heap pos
termination_by heap.length - pos
decreasing_by
  rw [swap_length]
  unfold smallerChild
  split
  · split <;> omega
  · omega

def heappush (heap : List α) (item : α) : List α :=
  siftdown before 0 (heap ++ [item]) heap.length

/-- The smallest item and the rest; there is nothing to pop in an empty
heap. -/
def heappop (heap : List α) : Option (α × List α) :=
  match heap with
  | [] => none
  | [only] => some (only, [])
  | root :: second :: rest =>
      let lastelt := (second :: rest).getLast (List.cons_ne_nil second rest)
      some (root,
        siftup before 0 (lastelt :: (second :: rest).dropLast) 0)

/-- The loop of `heapify`, over the positions below the bound from the last
one down. -/
def heapifyBelow : Nat → List α → List α
  | 0, heap => heap
  | pos + 1, heap => heapifyBelow pos (siftup before pos heap pos)

def heapify (heap : List α) : List α :=
  heapifyBelow before (heap.length / 2) heap

theorem siftdown_perm (startpos : Nat) (heap : List α) (pos : Nat) :
    (siftdown before startpos heap pos).Perm heap := by
  induction heap, pos using siftdown.induct before startpos with
  | case1 heap pos above newitem parent foundParent foundItem smaller
      inductionHypothesis =>
      rw [siftdown, if_pos above, foundItem, foundParent]
      simp only [smaller, if_true]
      exact inductionHypothesis.trans (swap_perm heap _ _)
  | case2 heap pos above newitem parent foundParent foundItem notSmaller =>
      rw [siftdown, if_pos above, foundItem, foundParent]
      simp only [notSmaller]
      exact List.Perm.refl heap
  | case3 heap pos above missing =>
      rw [siftdown, if_pos above]
      split
      · next newitem parent foundItem foundParent =>
          exact False.elim (missing newitem parent foundItem foundParent)
      · exact List.Perm.refl heap
  | case4 heap pos notAbove =>
      rw [siftdown, if_neg notAbove]

theorem siftup_perm (startpos : Nat) (heap : List α) (pos : Nat) :
    (siftup before startpos heap pos).Perm heap := by
  induction heap, pos using siftup.induct before with
  | case1 heap pos inner inductionHypothesis =>
      rw [siftup, if_pos inner]
      exact inductionHypothesis.trans (swap_perm heap _ _)
  | case2 heap pos leaf =>
      rw [siftup, if_neg leaf]
      exact siftdown_perm before startpos heap pos

theorem heappush_perm (heap : List α) (item : α) :
    (heappush before heap item).Perm (item :: heap) :=
  (siftdown_perm before 0 _ _).trans (List.perm_append_singleton item heap)

theorem heappop_perm {heap rest : List α} {item : α}
    (popped : heappop before heap = some (item, rest)) :
    heap.Perm (item :: rest) := by
  unfold heappop at popped
  split at popped
  · cases popped
  · cases popped
    exact List.Perm.refl _
  · next root second tail =>
      cases popped
      refine List.Perm.cons _ ?_
      refine List.Perm.trans ?_ (siftup_perm before 0 _ 0).symm
      have whole :=
        List.dropLast_append_getLast (List.cons_ne_nil second tail)
      nth_rewrite 1 [← whole]
      exact List.perm_append_singleton _ _

theorem heappop_eq_none_iff (heap : List α) :
    heappop before heap = none ↔ heap = [] := by
  unfold heappop
  split <;> simp

theorem heapifyBelow_perm (bound : Nat) :
    ∀ heap : List α, (heapifyBelow before bound heap).Perm heap := by
  induction bound with
  | zero =>
      intro heap
      exact List.Perm.refl heap
  | succ pos inductionHypothesis =>
      intro heap
      rw [heapifyBelow]
      exact (inductionHypothesis _).trans (siftup_perm before pos heap pos)

theorem heapify_perm (heap : List α) :
    (heapify before heap).Perm heap :=
  heapifyBelow_perm before _ heap

end Heapq
