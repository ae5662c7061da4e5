import Mathlib.Logic.Equiv.Basic
import EmbeddingService.Library.Heapq

/-!
# The order of a heap

For a strict weak order the operations of `heapq` keep every parent in front
of its children, so that the root comes before everything else and popping the
whole heap sorts it.  Repairs move one hole: `Sinking` is what holds while the
hole goes down, `Rising` what holds while its item goes back up.
-/

namespace Heapq

universe u

variable {α : Type u}

/-- A strict order whose incomparability is transitive. -/
structure StrictWeak (before : α → α → Bool) : Prop where
  asymm : ∀ {first second},
    before first second = true → before second first = false
  trans : ∀ {first second third}, before second first = false →
    before third second = false → before third first = false

variable {before : α → α → Bool}

theorem StrictWeak.refl (order : StrictWeak before) (item : α) :
    before item item = false := by
  cases known : before item item with
  | false =>
      rfl
  | true =>
      rw [order.asymm known] at known
      cases known

variable (before) in
/-- What is at `i` may go before what is at `j`. -/
def NotAfter (heap : List α) (i j : Nat) : Prop :=
  ∀ atI atJ, heap[i]? = some atI → heap[j]? = some atJ →
    before atJ atI = false

/-- `child` has the parent `pos`. -/
def IsChild (pos child : Nat) : Prop :=
  child = 2 * pos + 1 ∨ child = 2 * pos + 2

variable (before) in
/-- Every parent from `start` on may go before its children. -/
def OrderedFrom (start : Nat) (heap : List α) : Prop :=
  ∀ pos child, start ≤ pos → IsChild pos child →
    NotAfter before heap pos child

variable (before) in
def Ordered (heap : List α) : Prop :=
  OrderedFrom before 0 heap

/-- The positions of the subtree under `root`. -/
inductive Under (root : Nat) : Nat → Prop
  | root : Under root root
  | child {pos child : Nat} :
      Under root pos → IsChild pos child → Under root child

theorem IsChild.parent {pos child : Nat} (isChild : IsChild pos child) :
    (child - 1) / 2 = pos := by
  unfold IsChild at isChild
  omega

theorem IsChild.lt {pos child : Nat} (isChild : IsChild pos child) :
    pos < child := by
  unfold IsChild at isChild
  omega

theorem isChild_parent {child : Nat} (positive : 0 < child) :
    IsChild ((child - 1) / 2) child := by
  unfold IsChild
  omega

theorem IsChild.unique {pos other child : Nat}
    (isChild : IsChild pos child) (otherChild : IsChild other child) :
    pos = other :=
  isChild.parent.symm.trans otherChild.parent

theorem Under.le {root pos : Nat} (under : Under root pos) :
    root ≤ pos := by
  induction under with
  | root =>
      exact Nat.le_refl root
  | child _ isChild inductionHypothesis =>
      exact Nat.le_trans inductionHypothesis (Nat.le_of_lt isChild.lt)

theorem under_zero (pos : Nat) : Under 0 pos := by
  induction pos using Nat.strongRecOn with
  | ind pos inductionHypothesis =>
      rcases Nat.eq_zero_or_pos pos with rfl | positive
      · exact Under.root
      · have link := isChild_parent positive
        exact (inductionHypothesis _ link.lt).child link

theorem Under.parent {root pos : Nat} (under : Under root pos)
    (different : root ≠ pos) : Under root ((pos - 1) / 2) := by
  cases under with
  | root =>
      exact False.elim (different rfl)
  | child above isChild =>
      rw [isChild.parent]
      exact above

theorem swap_getElem? (heap : List α) {i j : Nat}
    (iBound : i < heap.length) (jBound : j < heap.length) (k : Nat) :
    (swap heap i j)[k]? = heap[Equiv.swap i j k]? := by
  unfold swap
  rw [List.getElem?_eq_getElem iBound, List.getElem?_eq_getElem jBound]
  dsimp only
  rw [List.getElem?_set, List.getElem?_set, List.length_set]
  by_cases atJ : j = k
  · subst atJ
    rw [if_pos rfl, if_pos jBound, Equiv.swap_apply_right,
      List.getElem?_eq_getElem iBound]
  · rw [if_neg atJ]
    by_cases atI : i = k
    · subst atI
      rw [if_pos rfl, if_pos iBound, Equiv.swap_apply_left,
        List.getElem?_eq_getElem jBound]
    · rw [if_neg atI,
        Equiv.swap_apply_of_ne_of_ne (Ne.symm atI) (Ne.symm atJ)]

theorem notAfter_swap_iff {heap : List α} {i j : Nat}
    (iBound : i < heap.length) (jBound : j < heap.length) (k l : Nat) :
    NotAfter before (swap heap i j) k l ↔
      NotAfter before heap (Equiv.swap i j k) (Equiv.swap i j l) := by
  unfold NotAfter
  rw [swap_getElem? heap iBound jBound, swap_getElem? heap iBound jBound]

theorem NotAfter.trans (order : StrictWeak before) {heap : List α}
    {i j k : Nat} (first : NotAfter before heap i j)
    (second : NotAfter before heap j k) (jBound : j < heap.length) :
    NotAfter before heap i k := by
  intro atI atK foundI foundK
  have foundJ := List.getElem?_eq_getElem jBound
  exact order.trans (first _ _ foundI foundJ) (second _ _ foundJ foundK)

theorem notAfter_of_outside {heap : List α} {i j : Nat}
    (outside : heap.length ≤ j) : NotAfter before heap i j := by
  intro _ atJ _ found
  rw [List.getElem?_eq_none outside] at found
  cases found

theorem NotAfter.refl (order : StrictWeak before) (heap : List α)
    (i : Nat) : NotAfter before heap i i := by
  intro first second foundFirst foundSecond
  rw [foundFirst] at foundSecond
  cases foundSecond
  exact order.refl first

variable (before) in
/-- The moved item may belong further up: all pairs are in order but the one
of `pos` and its parent. -/
structure Rising (start : Nat) (heap : List α) (pos : Nat) : Prop where
  bound : pos < heap.length
  under : Under start pos
  pairs : ∀ parent child, start ≤ parent → child ≠ pos →
    IsChild parent child → NotAfter before heap parent child
  grand : ∀ parent child, start ≤ parent → IsChild parent pos →
    IsChild pos child → NotAfter before heap parent child

variable (before) in
/-- The moved item may belong further down: all pairs are in order but those
of `pos`. -/
structure Sinking (start : Nat) (heap : List α) (pos : Nat) : Prop where
  bound : pos < heap.length
  under : Under start pos
  pairs : ∀ parent child, start ≤ parent → parent ≠ pos → child ≠ pos →
    IsChild parent child → NotAfter before heap parent child
  grand : ∀ parent child, start ≤ parent → IsChild parent pos →
    IsChild pos child → NotAfter before heap parent child

/-- The moved item and its parent change places. -/
theorem Rising.swap (order : StrictWeak before) {start pos : Nat}
    {heap : List α} (rising : Rising before start heap pos)
    (different : start ≠ pos)
    (smaller : NotAfter before heap pos ((pos - 1) / 2)) :
    Rising before start (swap heap pos ((pos - 1) / 2))
      ((pos - 1) / 2) := by
  have positive : start < pos :=
    Nat.lt_of_le_of_ne rising.under.le different
  have isChild : IsChild ((pos - 1) / 2) pos :=
    isChild_parent (by omega)
  have under := rising.under.parent different
  generalize (pos - 1) / 2 = parent at isChild under smaller ⊢
  have parentBound : parent < heap.length :=
    Nat.lt_trans isChild.lt rising.bound
  exact
    { bound := by
        rw [swap_length]
        exact parentBound
      under := under
      pairs := by
        intro above child fromStart notParent link
        rw [notAfter_swap_iff rising.bound parentBound]
        by_cases atPos : child = pos
        · rw [atPos] at link ⊢
          rw [link.unique isChild, Equiv.swap_apply_left,
            Equiv.swap_apply_right]
          exact smaller
        · rw [Equiv.swap_apply_of_ne_of_ne atPos notParent]
          by_cases abovePos : above = pos
          · rw [abovePos, Equiv.swap_apply_left]
            rw [abovePos] at link
            exact rising.grand parent child under.le isChild link
          · by_cases aboveParent : above = parent
            · rw [aboveParent, Equiv.swap_apply_right]
              rw [aboveParent] at link
              exact smaller.trans order
                (rising.pairs parent child under.le atPos link)
                parentBound
            · rw [Equiv.swap_apply_of_ne_of_ne abovePos aboveParent]
              exact rising.pairs above child fromStart atPos link
      grand := by
        intro above child fromStart aboveLink link
        rw [notAfter_swap_iff rising.bound parentBound,
          Equiv.swap_apply_of_ne_of_ne
            (Nat.ne_of_lt (Nat.lt_trans aboveLink.lt isChild.lt))
            (Nat.ne_of_lt aboveLink.lt)]
        have upper := rising.pairs above parent fromStart
          (Nat.ne_of_lt isChild.lt) aboveLink
        by_cases atPos : child = pos
        · rw [atPos, Equiv.swap_apply_left]
          exact upper
        · rw [Equiv.swap_apply_of_ne_of_ne atPos (Nat.ne_of_gt link.lt)]
          exact upper.trans order
            (rising.pairs parent child under.le atPos link) parentBound }

theorem Rising.ordered {start pos : Nat} {heap : List α}
    (rising : Rising before start heap pos)
    (settled : ∀ parent, start ≤ parent → IsChild parent pos →
      NotAfter before heap parent pos) :
    OrderedFrom before start heap := by
  intro parent child fromStart link
  by_cases atPos : child = pos
  · rw [atPos] at link ⊢
    exact settled parent fromStart link
  · exact rising.pairs parent child fromStart atPos link

theorem siftdown_ordered (order : StrictWeak before) {start : Nat}
    (heap : List α) (pos : Nat) (rising : Rising before start heap pos) :
    OrderedFrom before start (siftdown before start heap pos) := by
  induction heap, pos using siftdown.induct before start with
  | case1 heap pos above newitem parent foundParent foundItem smaller
      inductionHypothesis =>
      rw [siftdown, if_pos above, foundItem, foundParent]
      simp only [smaller, if_true]
      apply inductionHypothesis
      apply rising.swap order (by omega)
      intro atPos atParent foundPos foundAbove
      rw [foundItem] at foundPos
      rw [foundParent] at foundAbove
      cases foundPos
      cases foundAbove
      exact order.asymm smaller
  | case2 heap pos above newitem parent foundParent foundItem notSmaller =>
      rw [siftdown, if_pos above, foundItem, foundParent]
      simp only [notSmaller]
      apply rising.ordered
      intro other _ link atOther atPos foundOther foundPos
      rw [← link.parent, foundParent] at foundOther
      rw [foundItem] at foundPos
      cases foundOther
      cases foundPos
      simpa using notSmaller
  | case3 heap pos above missing =>
      have parentBound : (pos - 1) / 2 < heap.length := by
        have bound := rising.bound
        omega
      exact False.elim (missing _ _
        (List.getElem?_eq_getElem rising.bound)
        (List.getElem?_eq_getElem parentBound))
  | case4 heap pos notAbove =>
      rw [siftdown, if_neg notAbove]
      apply rising.ordered
      intro parent fromStart link
      have lower := link.lt
      omega

/-- `_siftup` follows a child, and none of the two is before it. -/
theorem smallerChild_least (order : StrictWeak before) {heap : List α}
    {pos : Nat} (inner : 2 * pos + 1 < heap.length) :
    smallerChild before heap pos < heap.length ∧
      IsChild pos (smallerChild before heap pos) ∧
      ∀ child, IsChild pos child →
        NotAfter before heap (smallerChild before heap pos) child := by
  unfold smallerChild
  rw [List.getElem?_eq_getElem inner]
  by_cases two : 2 * pos + 2 < heap.length
  · rw [List.getElem?_eq_getElem two]
    dsimp only
    split
    · next leftFirst =>
        refine ⟨inner, Or.inl rfl, ?_⟩
        rintro child (rfl | rfl)
        · exact NotAfter.refl order heap _
        · intro left right foundLeft foundRight
          rw [List.getElem?_eq_getElem inner] at foundLeft
          rw [List.getElem?_eq_getElem two] at foundRight
          cases foundLeft
          cases foundRight
          exact order.asymm leftFirst
    · next notLeft =>
        refine ⟨two, Or.inr rfl, ?_⟩
        rintro child (rfl | rfl)
        · intro right left foundRight foundLeft
          rw [List.getElem?_eq_getElem inner] at foundLeft
          rw [List.getElem?_eq_getElem two] at foundRight
          cases foundLeft
          cases foundRight
          simpa using notLeft
        · exact NotAfter.refl order heap _
  · have outside : heap.length ≤ 2 * pos + 2 := Nat.not_lt.mp two
    rw [List.getElem?_eq_none outside]
    refine ⟨inner, Or.inl rfl, ?_⟩
    rintro child (rfl | rfl)
    · exact NotAfter.refl order heap _
    · exact notAfter_of_outside outside

/-- The smaller child comes up and the hole goes down in its place. -/
theorem Sinking.swap {start pos smaller : Nat} {heap : List α}
    (sinking : Sinking before start heap pos)
    (bound : smaller < heap.length) (isChild : IsChild pos smaller)
    (least : ∀ child, IsChild pos child →
      NotAfter before heap smaller child) :
    Sinking before start (Heapq.swap heap pos smaller) smaller where
  bound := by
    rw [swap_length]
    exact bound
  under := sinking.under.child isChild
  pairs := by
    intro parent child fromStart notSmaller different link
    rw [notAfter_swap_iff sinking.bound bound]
    by_cases atPos : child = pos
    · rw [atPos] at link ⊢
      rw [Equiv.swap_apply_left, Equiv.swap_apply_of_ne_of_ne
        (Nat.ne_of_lt link.lt) notSmaller]
      exact sinking.grand parent smaller fromStart link isChild
    · rw [Equiv.swap_apply_of_ne_of_ne atPos different]
      by_cases parentPos : parent = pos
      · rw [parentPos] at link ⊢
        rw [Equiv.swap_apply_left]
        exact least child link
      · rw [Equiv.swap_apply_of_ne_of_ne parentPos notSmaller]
        exact sinking.pairs parent child fromStart parentPos atPos link
  grand := by
    intro parent child _ parentLink link
    rw [parentLink.unique isChild, notAfter_swap_iff sinking.bound bound,
      Equiv.swap_apply_left, Equiv.swap_apply_of_ne_of_ne
        (Nat.ne_of_gt (Nat.lt_trans isChild.lt link.lt))
        (Nat.ne_of_gt link.lt)]
    exact sinking.pairs smaller child
      (sinking.under.child isChild).le (Nat.ne_of_gt isChild.lt)
      (Nat.ne_of_gt (Nat.lt_trans isChild.lt link.lt)) link

/-- At a leaf only the way up is left to repair. -/
theorem Sinking.rising {start pos : Nat} {heap : List α}
    (sinking : Sinking before start heap pos)
    (leaf : ¬ 2 * pos + 1 < heap.length) :
    Rising before start heap pos where
  bound := sinking.bound
  under := sinking.under
  pairs := by
    intro parent child fromStart different link
    by_cases atPos : parent = pos
    · apply notAfter_of_outside
      unfold IsChild at link
      omega
    · exact sinking.pairs parent child fromStart atPos different link
  grand := sinking.grand

theorem siftup_ordered (order : StrictWeak before) {start : Nat}
    (heap : List α) (pos : Nat)
    (sinking : Sinking before start heap pos) :
    OrderedFrom before start (siftup before start heap pos) := by
  induction heap, pos using siftup.induct before with
  | case1 heap pos inner inductionHypothesis =>
      rw [siftup, if_pos inner]
      obtain ⟨bound, isChild, least⟩ := smallerChild_least order inner
      exact inductionHypothesis (sinking.swap bound isChild least)
  | case2 heap pos leaf =>
      rw [siftup, if_neg leaf]
      exact siftdown_ordered order heap pos (sinking.rising leaf)

theorem heappush_ordered (order : StrictWeak before) {heap : List α}
    (ordered : Ordered before heap) (item : α) :
    Ordered before (heappush before heap item) := by
  apply siftdown_ordered order
  exact
    { bound := by simp
      under := under_zero heap.length
      pairs := by
        intro parent child _ different link
        by_cases inside : child < heap.length
        · intro atParent atChild foundParent foundChild
          rw [List.getElem?_append_left
            (Nat.lt_trans link.lt inside)] at foundParent
          rw [List.getElem?_append_left inside] at foundChild
          exact ordered parent child (Nat.zero_le _) link atParent atChild
            foundParent foundChild
        · apply notAfter_of_outside
          rw [List.length_append, List.length_singleton]
          omega
      grand := by
        intro parent child _ _ link
        apply notAfter_of_outside
        rw [List.length_append, List.length_singleton]
        exact link.lt }

/-- The root of an ordered heap goes before everything in it. -/
theorem Ordered.root (order : StrictWeak before) {heap : List α}
    (ordered : Ordered before heap) (pos : Nat) :
    NotAfter before heap 0 pos := by
  induction pos using Nat.strongRecOn with
  | ind pos inductionHypothesis =>
      rcases Nat.eq_zero_or_pos pos with rfl | positive
      · exact NotAfter.refl order heap 0
      · by_cases inside : pos < heap.length
        · have link := isChild_parent positive
          exact (inductionHypothesis _ link.lt).trans order
            (ordered _ pos (Nat.zero_le _) link)
            (Nat.lt_trans link.lt inside)
        · exact notAfter_of_outside (Nat.not_lt.mp inside)

theorem heappop_ordered (order : StrictWeak before)
    {heap rest : List α} {item : α} (ordered : Ordered before heap)
    (popped : heappop before heap = some (item, rest)) :
    Ordered before rest := by
  unfold heappop at popped
  split at popped
  · cases popped
  · cases popped
    intro pos child _ link
    exact notAfter_of_outside (Nat.zero_le child)
  · next first second tail =>
      cases popped
      apply siftup_ordered order
      exact
        { bound := by simp
          under := Under.root
          pairs := by
            intro parent child fromStart notRoot different link atParent
              atChild foundParent foundChild
            have kept : ∀ pos found, pos ≠ 0 →
                ((second :: tail).getLast (List.cons_ne_nil second tail) ::
                  (second :: tail).dropLast)[pos]? = some found →
                (item :: second :: tail)[pos]? = some found := by
              intro pos found notZero there
              obtain ⟨before, rfl⟩ := Nat.exists_eq_succ_of_ne_zero notZero
              rw [Nat.succ_eq_add_one, List.getElem?_cons_succ] at there ⊢
              rw [List.getElem?_dropLast] at there
              split at there
              · exact there
              · cases there
            exact ordered parent child fromStart link atParent atChild
              (kept parent atParent notRoot foundParent)
              (kept child atChild different foundChild)
          grand := by
            intro parent child _ parentLink _
            exact False.elim (Nat.not_lt_zero _ parentLink.lt) }

/-- What is popped goes before all that stays. -/
theorem heappop_least (order : StrictWeak before)
    {heap rest : List α} {item : α} (ordered : Ordered before heap)
    (popped : heappop before heap = some (item, rest)) :
    ∀ other ∈ rest, before other item = false := by
  intro other member
  have isRoot : heap[0]? = some item := by
    unfold heappop at popped
    split at popped
    · cases popped
    · cases popped
      rfl
    · cases popped
      rfl
  have inHeap : other ∈ heap :=
    (heappop_perm before popped).mem_iff.mpr
      (List.mem_cons_of_mem item member)
  obtain ⟨pos, found⟩ := List.getElem?_of_mem inHeap
  exact ordered.root order pos item other isRoot found

theorem heapifyBelow_ordered (order : StrictWeak before) (bound : Nat) :
    ∀ heap : List α, bound ≤ heap.length →
      OrderedFrom before bound heap →
        Ordered before (heapifyBelow before bound heap) := by
  induction bound with
  | zero =>
      intro heap _ ordered
      exact ordered
  | succ pos inductionHypothesis =>
      intro heap inside ordered
      rw [heapifyBelow]
      apply inductionHypothesis
      · rw [(siftup_perm before pos heap pos).length_eq]
        omega
      · apply siftup_ordered order
        exact
          { bound := inside
            under := Under.root
            pairs := by
              intro parent child fromStart notPos _ link
              exact ordered parent child
                (Nat.lt_of_le_of_ne fromStart (Ne.symm notPos)) link
            grand := by
              intro parent _ fromStart parentLink _
              have upper := parentLink.lt
              omega }

theorem heapify_ordered (order : StrictWeak before) (heap : List α) :
    Ordered before (heapify before heap) := by
  apply heapifyBelow_ordered order
  · exact Nat.div_le_self _ _
  · intro pos child fromStart link
    apply notAfter_of_outside
    unfold IsChild at link
    omega

variable (before) in
/-- Pop until nothing is left. -/
def popAll (heap : List α) : List α :=
  match _popped : heappop before heap with
  | none => []
  | some (item, rest) => item :: popAll rest
termination_by heap.length
decreasing_by
  have lengths := (heappop_perm before _popped).length_eq
  simp only [List.length_cons] at lengths
  omega

theorem popAll_of_none {heap : List α}
    (popped : heappop before heap = none) : popAll before heap = [] := by
  rw [popAll]
  split
  · rfl
  · simp_all

theorem popAll_of_some {heap rest : List α} {item : α}
    (popped : heappop before heap = some (item, rest)) :
    popAll before heap = item :: popAll before rest := by
  rw [popAll]
  split
  · simp_all
  · next same =>
      rw [popped] at same
      cases same
      rfl

variable (before) in
/-- Induction over the pops of a heap. -/
theorem popAll_induction {motive : List α → Prop}
    (empty : motive [])
    (popped : ∀ heap rest item,
      heappop before heap = some (item, rest) → motive rest →
        motive heap)
    (heap : List α) : motive heap := by
  generalize size : heap.length = bound
  induction bound generalizing heap with
  | zero =>
      rw [List.length_eq_zero_iff.mp size]
      exact empty
  | succ bound inductionHypothesis =>
      cases found : heappop before heap with
      | none =>
          rw [(heappop_eq_none_iff before heap).mp found] at size
          cases size
      | some result =>
          have lengths := (heappop_perm before found).length_eq
          rw [List.length_cons] at lengths
          exact popped heap result.2 result.1 found
            (inductionHypothesis result.2 (by omega))

variable (before) in
theorem popAll_perm (heap : List α) :
    (popAll before heap).Perm heap := by
  induction heap using popAll_induction before with
  | empty =>
      rw [popAll_of_none rfl]
  | popped heap rest item popped inductionHypothesis =>
      rw [popAll_of_some popped]
      exact (inductionHypothesis.cons item).trans
        (heappop_perm before popped).symm

/-- An ordered heap is popped in order. -/
theorem popAll_sorted (order : StrictWeak before) (heap : List α)
    (ordered : Ordered before heap) :
    (popAll before heap).Pairwise
      (fun first second => before second first = false) := by
  induction heap using popAll_induction before with
  | empty =>
      rw [popAll_of_none rfl]
      exact List.Pairwise.nil
  | popped heap rest item popped inductionHypothesis =>
      rw [popAll_of_some popped]
      refine List.Pairwise.cons ?_
        (inductionHypothesis (heappop_ordered order ordered popped))
      intro other member
      exact heappop_least order ordered popped other
        ((popAll_perm before rest).mem_iff.mp member)

/-- When no two items are tied, the order of the pops depends on the items
alone. -/
theorem popAll_eq_of_perm (order : StrictWeak before)
    {heap : List α} (ordered : Ordered before heap)
    {sorted : List α} (perm : sorted.Perm heap)
    (sortedOrder : sorted.Pairwise
      (fun first second => before second first = false))
    (untied : ∀ first ∈ heap, ∀ second ∈ heap,
      before first second = false → before second first = false →
        first = second) :
    popAll before heap = sorted := by
  have popped := popAll_perm before heap
  refine List.Perm.eq_of_pairwise ?_ (popAll_sorted order heap ordered)
    sortedOrder (popped.trans perm.symm)
  intro first second firstMember secondMember secondAfter firstAfter
  exact untied first (popped.mem_iff.mp firstMember) second
    (perm.mem_iff.mp secondMember) firstAfter secondAfter

end Heapq
