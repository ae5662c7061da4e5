import Mathlib.Algebra.Order.Group.Multiset
import EmbeddingService.Library.ListUpdate
import EmbeddingService.Worker.LedgerRuns
import EmbeddingService.Worker.Step

/-!
# The ledger a worker keeps

Every delivery a worker has taken is in one of its handlers, its batchers, the
batches of the drain, or its processes.  Reading them all off gives a ledger.
-/

namespace EmbeddingService

variable {Body : Type}

/-- A delivery that waits for its batch. -/
def heldCell (lane : LaneName) (delivery : Delivery Body) : Cell Body :=
  { lane := lane
    message := delivery.message
    phase := .held delivery.job }

def heldCells (lane : LaneName) (deliveries : List (Delivery Body)) :
    Multiset (Cell Body) :=
  (deliveries.map (heldCell lane) : List (Cell Body))

def batchCells
    (batches : List (LaneName × Batch (Delivery Body) BatchKey)) :
    Multiset (Cell Body) :=
  (batches.map (fun entry => heldCells entry.1 entry.2.items)).sum

def Item.phase (item : Item Body) : Phase Body :=
  match item.state with
  | .expiring state => .settling state
  | .finishing state => .settling state
  | _ => .held item.delivery.job

def Item.cell (lane : LaneName) (item : Item Body) : Cell Body :=
  { lane := lane, message := item.delivery.message, phase := item.phase }

def itemCells (lane : LaneName) (items : List (Item Body)) :
    Multiset (Cell Body) :=
  (items.map (fun item => ({item.cell lane} : Multiset (Cell Body)))).sum

def Process.cells (process : Process Body) : Multiset (Cell Body) :=
  itemCells process.lane process.items

/-- A handler that added its delivery to a batcher is done with it. -/
def Handler.cells (handler : Handler Body) : Multiset (Cell Body) :=
  match handler.state with
  | .settling state =>
      {{ lane := handler.lane
         message := handler.message
         phase := .settling state }}
  | _ => 0

def MainState.cells : MainState Body → Multiset (Cell Body)
  | .draining _ batches _ => batchCells batches
  | _ => 0

def laneCells (lanes : LaneName → Lane Body) : Multiset (Cell Body) :=
  heldCells .query (lanes .query).batcher.pending +
    heldCells .index (lanes .index).batcher.pending

namespace Worker

def cells (worker : Worker Body) : Multiset (Cell Body) :=
  (worker.handlers.map Handler.cells).sum + laneCells worker.lane +
    worker.main.cells + batchCells worker.abandoned +
    (worker.processes.map Process.cells).sum

def ledger (worker : Worker Body) : Ledger Body :=
  { draining := worker.draining
    received := worker.handlers.map
      (fun handler => (handler.lane, handler.message))
    cells := worker.cells
    log := worker.log }

end Worker

section Members

theorem mem_sum_map_iff {Value Element : Type} {values : List Value}
    {contents : Value → Multiset Element} {element : Element} :
    element ∈ (values.map contents).sum ↔
      ∃ value ∈ values, element ∈ contents value := by
  induction values with
  | nil =>
      simp
  | cons value rest inductionHypothesis =>
      simp [inductionHypothesis]

theorem mem_processCells_iff {process : Process Body} {cell : Cell Body} :
    cell ∈ process.cells ↔
      ∃ item ∈ process.items, cell = item.cell process.lane := by
  rw [Process.cells, itemCells, mem_sum_map_iff]
  simp only [Multiset.mem_singleton]

theorem mem_heldCells_iff {lane : LaneName}
    {deliveries : List (Delivery Body)} {cell : Cell Body} :
    cell ∈ heldCells lane deliveries ↔
      ∃ delivery ∈ deliveries, cell = heldCell lane delivery := by
  rw [heldCells, Multiset.mem_coe, List.mem_map]
  simp only [eq_comm]

end Members

section Held

theorem heldCells_perm {lane : LaneName}
    {first second : List (Delivery Body)} (reordered : first.Perm second) :
    heldCells lane first = heldCells lane second :=
  Multiset.coe_eq_coe.mpr (reordered.map _)

@[simp]
theorem heldCells_nil (lane : LaneName) :
    heldCells lane ([] : List (Delivery Body)) = 0 :=
  rfl

@[simp]
theorem heldCells_cons (lane : LaneName) (delivery : Delivery Body)
    (rest : List (Delivery Body)) :
    heldCells lane (delivery :: rest) =
      heldCell lane delivery ::ₘ heldCells lane rest :=
  rfl

@[simp]
theorem heldCells_append (lane : LaneName)
    (first second : List (Delivery Body)) :
    heldCells lane (first ++ second) =
      heldCells lane first + heldCells lane second := by
  simp [heldCells, ← Multiset.coe_add]

@[simp]
theorem batchCells_nil :
    batchCells ([] : List (LaneName × Batch (Delivery Body) BatchKey)) = 0 :=
  rfl

@[simp]
theorem batchCells_cons
    (entry : LaneName × Batch (Delivery Body) BatchKey)
    (rest : List (LaneName × Batch (Delivery Body) BatchKey)) :
    batchCells (entry :: rest) =
      heldCells entry.1 entry.2.items + batchCells rest := by
  simp [batchCells]

@[simp]
theorem batchCells_append
    (first second : List (LaneName × Batch (Delivery Body) BatchKey)) :
    batchCells (first ++ second) = batchCells first + batchCells second := by
  simp [batchCells]

/-- The batches of one lane hold what their items are. -/
theorem batchCells_map (lane : LaneName)
    (batches : List (Batch (Delivery Body) BatchKey)) :
    batchCells (batches.map (fun batch => (lane, batch))) =
      heldCells lane (batches.flatMap Batch.items) := by
  induction batches with
  | nil =>
      rfl
  | cons batch rest inductionHypothesis =>
      rw [List.map_cons, batchCells_cons, inductionHypothesis,
        List.flatMap_cons, heldCells_append]

@[simp]
theorem itemCells_nil (lane : LaneName) :
    itemCells lane ([] : List (Item Body)) = 0 :=
  rfl

@[simp]
theorem itemCells_cons (lane : LaneName) (item : Item Body)
    (rest : List (Item Body)) :
    itemCells lane (item :: rest) =
      item.cell lane ::ₘ itemCells lane rest := by
  simp [itemCells]

theorem newProcess_cells (lane : LaneName)
    (batch : Batch (Delivery Body) BatchKey) :
    (newProcess lane batch).cells = heldCells lane batch.items := by
  unfold newProcess Process.cells
  generalize batch.items = deliveries
  induction deliveries with
  | nil =>
      rfl
  | cons delivery rest inductionHypothesis =>
      simp only [List.map_cons, itemCells_cons, heldCells_cons] at *
      rw [inductionHypothesis]
      rfl

end Held

section Lanes

/-- Changing anything of a lane but its batcher moves no delivery. -/
theorem laneCells_update_of_pending {lanes : LaneName → Lane Body}
    {name : LaneName} {lane : Lane Body}
    (same : lane.batcher.pending = (lanes name).batcher.pending) :
    laneCells (Function.update lanes name lane) = laneCells lanes := by
  cases name <;> simp [laneCells, same]

/-- The pending deliveries of a lane and of the other one. -/
theorem exists_laneCells_update (lanes : LaneName → Lane Body)
    (name : LaneName) :
    ∃ rest,
      laneCells lanes =
        heldCells name (lanes name).batcher.pending + rest ∧
      ∀ lane : Lane Body, laneCells (Function.update lanes name lane) =
        heldCells name lane.batcher.pending + rest := by
  cases name with
  | query =>
      exact ⟨heldCells .index (lanes .index).batcher.pending, rfl,
        by simp [laneCells]⟩
  | index =>
      refine ⟨heldCells .query (lanes .query).batcher.pending,
        add_comm _ _, ?_⟩
      intro lane
      simp [laneCells, add_comm]

end Lanes

section Processes

variable {worker : Worker Body} {number position : Nat}
  {process : Process Body} {item : Item Body}

/-- The cells of a worker, seen from one process. -/
theorem exists_cells_setProcess
    (found : worker.processes[number]? = some process) :
    ∃ rest,
      worker.cells = process.cells + rest ∧
      ∀ other : Process Body,
        (worker.setProcess number other).cells = other.cells + rest := by
  obtain ⟨rest, before, after⟩ :=
    ListUpdate.exists_sum_set Process.cells found
  refine ⟨(worker.handlers.map Handler.cells).sum +
    laneCells worker.lane + worker.main.cells +
    batchCells worker.abandoned + rest, ?_, ?_⟩
  · rw [Worker.cells, before, add_left_comm]
  · intro other
    simp only [Worker.cells, Worker.setProcess, after other,
      add_left_comm]

/-- A process that keeps its lane and the cells of its items moves no
delivery. -/
theorem cells_setProcess_same
    (found : worker.processes[number]? = some process)
    {other : Process Body} (same : other.cells = process.cells) :
    (worker.setProcess number other).cells = worker.cells := by
  obtain ⟨rest, before, after⟩ := exists_cells_setProcess found
  rw [after, before, same]

theorem exists_itemCells_set (lane : LaneName) {items : List (Item Body)}
    (found : items[position]? = some item) :
    ∃ rest,
      itemCells lane items = item.cell lane ::ₘ rest ∧
      ∀ other : Item Body,
        itemCells lane (items.set position other) =
          other.cell lane ::ₘ rest := by
  obtain ⟨rest, before, after⟩ :=
    ListUpdate.exists_sum_set
      (fun item : Item Body =>
        ({item.cell lane} : Multiset (Cell Body))) found
  refine ⟨rest, ?_, ?_⟩
  · rw [itemCells, before, Multiset.singleton_add]
  · intro other
    rw [itemCells, after other, Multiset.singleton_add]

/-- The cells of a worker, seen from one item of one process. -/
theorem exists_cells_setItem
    (found : worker.processes[number]? = some process)
    (itemFound : process.items[position]? = some item) :
    ∃ rest,
      worker.cells = item.cell process.lane ::ₘ rest ∧
      ∀ (other : Item Body) (state : ProcessState),
        (worker.setProcess number
          { process with
            items := process.items.set position other
            state := state }).cells = other.cell process.lane ::ₘ rest := by
  obtain ⟨outside, before, after⟩ := exists_cells_setProcess found
  obtain ⟨inside, itemBefore, itemAfter⟩ :=
    exists_itemCells_set process.lane itemFound
  refine ⟨inside + outside, ?_, ?_⟩
  · rw [before, Process.cells, itemBefore, Multiset.cons_add]
  · intro other state
    rw [after, Process.cells, itemAfter other, Multiset.cons_add]

end Processes

section Handlers

variable {worker : Worker Body} {number : Nat} {handler : Handler Body}

/-- The cells of a worker, seen from one handler. -/
theorem exists_cells_setHandler
    (found : worker.handlers[number]? = some handler) :
    ∃ rest,
      worker.cells = handler.cells + rest ∧
      ∀ other : Handler Body,
        (worker.setHandler number other).cells = other.cells + rest := by
  obtain ⟨rest, before, after⟩ :=
    ListUpdate.exists_sum_set Handler.cells found
  refine ⟨rest + laneCells worker.lane + worker.main.cells +
    batchCells worker.abandoned +
    (worker.processes.map Process.cells).sum, ?_, ?_⟩
  · simp only [Worker.cells, before, add_assoc]
  · intro other
    simp only [Worker.cells, Worker.setHandler, after other, add_assoc]

theorem received_setHandler {other : Handler Body}
    (found : worker.handlers[number]? = some handler)
    (same : (other.lane, other.message) =
      (handler.lane, handler.message)) :
    (worker.setHandler number other).handlers.map
        (fun handler => (handler.lane, handler.message)) =
      worker.handlers.map
        (fun handler => (handler.lane, handler.message)) := by
  rw [Worker.setHandler, List.map_set, same]
  apply ListUpdate.set_self
  rw [List.getElem?_map, found]
  rfl

end Handlers

end EmbeddingService
