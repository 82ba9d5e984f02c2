import FulfillHub.Library.LockOrder
import FulfillHub.Postgres.Admission

/-!
# Concurrent reservations

`RecordInventoryReserved` as the sequence of its statements, interleaved with the same transaction on other orders. A
transaction locks the row of its order, which no other one asks for, reads the lines, and reserves them one after the
other. The statement of a line finds its candidates in what has been committed and in the transaction's own writes, and
goes through them in their order: it waits until no other transaction has the row locked, locks it, and takes the stock
if there is still enough. A row that has been used up meanwhile stays locked, and the next candidate is tried. All locks
are kept to the end of the transaction. Its writes to the stock are seen by others when it commits; those to rows that
belong to one order are left out, since no other transaction reads them.
-/

namespace FulfillHub

open Interaction Relational

variable {orderID : String} {at' : Time}

/-- A set of orders to be reserved, no two of them the same. -/
structure ReservationJobs (ι : Type) where
  source : ι → OutboxEvent
  distinct : Function.Injective fun i => (source i).orderID

/-- Where a transaction stands: before it has begun, between two lines, in the statement of a line that is about to lock
a row and has other candidates, or at its end. It remembers the rows it has taken stock from, each with its line. -/
inductive ReservationPhase
  | idle
  | between (taken : List (Nat × OrderItemRow)) (lines : List OrderItemRow)
  | reserving (taken : List (Nat × OrderItemRow)) (line : OrderItemRow) (item : InventoryItem)
      (others : List InventoryItem) (lines : List OrderItemRow)
  | ended

structure ReservationState (ι : Type) where
  db : Database
  phase : ι → ReservationPhase
  /-- The transaction that has an inventory row locked. -/
  locks : Nat → Option ι

inductive ReservationStep (ι : Type)
  | begin (i : ι)
  | choose (i : ι)
  | lock (i : ι)
  | commit (i : ι)
  | rollback (i : ι)

namespace Database

variable (db : Database)

/-- The lines of the order, with its row locked. -/
def linesToReserve (orderID : String) : Except Error (List OrderItemRow) := do
  let row ← db.lockOrderForUpdate orderID
  validateOrderTransition row.status .inventoryReserved
  orderItemsForReservation db row.orderID

def candidates (merchantID : String) (line : OrderItemRow) : List InventoryItem :=
  db.inventoryItems.rows.filter (db.isCandidate merchantID line.sku line.quantity)

/-- The stock of the rows a transaction has taken from. -/
def takeAll (taken : List (Nat × OrderItemRow)) : Database :=
  taken.foldl (fun db entry => { db with
    inventoryItems := db.inventoryItems.update (InventoryItem.take entry.1 entry.2.quantity)
      (InventoryItem.conflict_take entry.1 entry.2.quantity) }) db

end Database

/-- The statement of a line at the first of its candidates, if there is one. -/
def ReservationPhase.trying (taken : List (Nat × OrderItemRow)) (line : OrderItemRow) (candidates : List InventoryItem)
    (lines : List OrderItemRow) : Option ReservationPhase :=
  (Table.firstOf Database.candidateBefore candidates).map fun item =>
    .reserving taken line item (candidates.filter fun other => other.id ≠ item.id) lines

namespace ReservationState

variable {ι : Type} [DecidableEq ι] (jobs : ReservationJobs ι) (s : ReservationState ι)

def setPhase (i : ι) (phase : ReservationPhase) : ReservationState ι :=
  { s with phase := Function.update s.phase i phase }

def setLock (row : Nat) (i : ι) : ReservationState ι := { s with locks := Function.update s.locks row (some i) }

/-- The end of a transaction, which releases its locks. -/
def finish (i : ι) : ReservationState ι :=
  { s.setPhase i .ended with locks := fun row => (s.locks row).filter (· ≠ i) }

/-- What the statement of a line finds in stock. -/
def candidates (i : ι) (taken : List (Nat × OrderItemRow)) (line : OrderItemRow) : List InventoryItem :=
  (s.db.takeAll taken).candidates (jobs.source i).merchantID line

/-- The statement of a line up to its first candidate. -/
def chooseRow (i : ι) (taken : List (Nat × OrderItemRow)) (line : OrderItemRow) (lines : List OrderItemRow) :
    ReservationState ι :=
  match s.db.holding (jobs.source i).orderID line with
  | some existing => if existing.quantity ≠ line.quantity then s.finish i else s.setPhase i (.between taken lines)
  | none =>
    match ReservationPhase.trying taken line (s.candidates jobs i taken line) lines with
    | some phase => s.setPhase i phase
    | none => s.finish i

/-- The statement of a line once it has locked a row: it takes from the row as it is now, or goes on. -/
def lockRow (i : ι) (taken : List (Nat × OrderItemRow)) (line : OrderItemRow) (item : InventoryItem)
    (others : List InventoryItem) (lines : List OrderItemRow) : ReservationState ι :=
  match (s.candidates jobs i taken line).find? fun row => row.id = item.id with
  | some row =>
    if fitsInt4 (row.reservedQuantity + line.quantity) then
      (s.setPhase i (.between (taken ++ [(item.id, line)]) lines)).setLock item.id i
    else s.finish i
  | none =>
    match ReservationPhase.trying taken line others lines with
    | some phase => (s.setPhase i phase).setLock item.id i
    | none => s.finish i

def next (s : ReservationState ι) : ReservationStep ι → Option (ReservationState ι)
  | .begin i =>
    match s.phase i with
    | .idle =>
      match s.db.linesToReserve (jobs.source i).orderID with
      | .ok lines => some (s.setPhase i (.between [] lines))
      | .error _ => some (s.finish i)
    | _ => none
  | .choose i =>
    match s.phase i with
    | .between taken (line :: lines) => some (s.chooseRow jobs i taken line lines)
    | _ => none
  | .lock i =>
    match s.phase i with
    | .reserving taken line item others lines =>
      if (s.locks item.id).any (· ≠ i) then none else some (s.lockRow jobs i taken line item others lines)
    | _ => none
  | .commit i =>
    match s.phase i with
    | .between taken [] => some { s.finish i with db := s.db.takeAll taken }
    | _ => none
  | .rollback i =>
    match s.phase i with
    | .between _ _ => some (s.finish i)
    | .reserving _ _ _ _ _ => some (s.finish i)
    | _ => none

/-- The row a transaction locks in the step has been used up, and there are others to try. -/
def passesOver (s : ReservationState ι) : ReservationStep ι → Bool
  | .lock i =>
    match s.phase i with
    | .reserving taken line item others _ =>
      ((s.candidates jobs i taken line).find? fun row => row.id = item.id).isNone && !others.isEmpty
    | _ => false
  | _ => false

/-- The transaction asks for the lock of the row. -/
def Requests (s : ReservationState ι) (i : ι) (row : Nat) : Prop :=
  ∃ taken line item others lines, s.phase i = .reserving taken line item others lines ∧ item.id = row

def Holds (s : ReservationState ι) (i : ι) (row : Nat) : Prop := s.locks row = some i

/-- There is a cycle of transactions each of which waits for an inventory row that the next one holds. -/
def Deadlocked (s : ReservationState ι) : Prop := Locking.Deadlock s.Holds s.Requests

end ReservationState

/-- The reservations of the orders on a catalog. -/
def reservations {ι : Type} [DecidableEq ι] (jobs : ReservationJobs ι) (catalog : Database) :
    Lts (ReservationState ι) (ReservationStep ι) where
  init s := s = ⟨catalog, fun _ => .idle, fun _ => none⟩
  step s l t := s.next jobs l = some t

/-! ### What a step can do -/

namespace ReservationState

variable {ι : Type} (s : ReservationState ι) {i j : ι} {row row' : Nat}

@[simp] theorem phase_setLock (row : Nat) (i : ι) : (s.setLock row i).phase = s.phase := rfl

@[simp] theorem locks_setLock (row : Nat) (i : ι) : (s.setLock row i).locks row = some i := by
  simp [setLock]

@[simp] theorem locks_setLock_of_ne (hrow : row' ≠ row) (i : ι) : (s.setLock row i).locks row' = s.locks row' := by
  simp [setLock, hrow]

variable [DecidableEq ι]

@[simp] theorem phase_setPhase (i : ι) (phase : ReservationPhase) : (s.setPhase i phase).phase i = phase := by
  simp [setPhase]

@[simp] theorem phase_setPhase_of_ne (hj : j ≠ i) (phase : ReservationPhase) :
    (s.setPhase i phase).phase j = s.phase j := by
  simp [setPhase, hj]

@[simp] theorem phase_finish (i : ι) : (s.finish i).phase i = .ended := s.phase_setPhase i .ended

@[simp] theorem phase_finish_of_ne (hj : j ≠ i) : (s.finish i).phase j = s.phase j := s.phase_setPhase_of_ne hj .ended

theorem locks_finish (h : (s.finish i).locks row = some j) : s.locks row = some j ∧ j ≠ i := by
  obtain ⟨hlocked, hother⟩ := Option.filter_eq_some_iff.mp h
  exact ⟨hlocked, of_decide_eq_true hother⟩

end ReservationState

/-- The steps that pass over no row. -/
inductive ReservationEffect {ι : Type} [DecidableEq ι] (jobs : ReservationJobs ι) (s : ReservationState ι) :
    ReservationState ι → Prop
  | began (i : ι) (hphase : s.phase i = .idle) :
      ReservationEffect jobs s (s.setPhase i (.between [] (s.db.itemsOf (jobs.source i).orderID)))
  | finished (i : ι) : ReservationEffect jobs s (s.finish i)
  | skipped (i : ι) (taken : List (Nat × OrderItemRow)) (line : OrderItemRow) (lines : List OrderItemRow)
      (hphase : s.phase i = .between taken (line :: lines)) :
      ReservationEffect jobs s (s.setPhase i (.between taken lines))
  | chose (i : ι) (taken : List (Nat × OrderItemRow)) (line : OrderItemRow) (lines : List OrderItemRow)
      (item : InventoryItem) (others : List InventoryItem) (hphase : s.phase i = .between taken (line :: lines))
      (hcandidate : item ∈ s.candidates jobs i taken line) :
      ReservationEffect jobs s (s.setPhase i (.reserving taken line item others lines))
  | took (i : ι) (taken : List (Nat × OrderItemRow)) (line : OrderItemRow) (item : InventoryItem)
      (others : List InventoryItem) (lines : List OrderItemRow)
      (hphase : s.phase i = .reserving taken line item others lines) :
      ReservationEffect jobs s ((s.setPhase i (.between (taken ++ [(item.id, line)]) lines)).setLock item.id i)
  | committed (i : ι) (taken : List (Nat × OrderItemRow)) (hphase : s.phase i = .between taken []) :
      ReservationEffect jobs s { s.finish i with db := s.db.takeAll taken }

section Effect

variable {taken : List (Nat × OrderItemRow)} {line : OrderItemRow} {lines : List OrderItemRow}

theorem linesToReserve_eq_ok {db : Database} (h : db.linesToReserve orderID = .ok lines) :
    lines = db.itemsOf orderID := by
  obtain ⟨row, hrow, h⟩ := bind_eq_ok.mp h
  obtain ⟨_, _, h⟩ := bind_eq_ok.mp h
  rw [(Database.order?_eq_some (Database.lockOrderForUpdate_eq_ok.mp hrow)).2, orderItemsForReservation] at h
  split at h
  · cases h
  · exact (Except.ok.inj h).symm

theorem trying_eq_some {candidates : List InventoryItem} {phase : ReservationPhase}
    (h : ReservationPhase.trying taken line candidates lines = some phase) :
    ∃ item ∈ candidates, ∃ others, phase = .reserving taken line item others lines := by
  obtain ⟨item, hfirst, rfl⟩ := Option.map_eq_some_iff.mp h
  exact ⟨item, Table.mem_of_firstOf hfirst, _, rfl⟩

variable {ι : Type} [DecidableEq ι] {jobs : ReservationJobs ι} {s t : ReservationState ι} {i : ι}
  {l : ReservationStep ι}

theorem effect_of_chooseRow (hphase : s.phase i = .between taken (line :: lines)) :
    ReservationEffect jobs s (s.chooseRow jobs i taken line lines) := by
  unfold ReservationState.chooseRow
  cases s.db.holding (jobs.source i).orderID line with
  | some existing =>
    by_cases hquantity : existing.quantity ≠ line.quantity
    · simp only [if_pos hquantity]
      exact .finished i
    · simp only [if_neg hquantity]
      exact .skipped i taken line lines hphase
  | none =>
    cases htrying : ReservationPhase.trying taken line (s.candidates jobs i taken line) lines with
    | none => exact .finished i
    | some phase =>
      obtain ⟨item, hcandidate, others, rfl⟩ := trying_eq_some htrying
      exact .chose i taken line lines item others hphase hcandidate

theorem effect_of_lockRow {item : InventoryItem} {others : List InventoryItem}
    (hphase : s.phase i = .reserving taken line item others lines) (hstays : s.passesOver jobs (.lock i) = false) :
    ReservationEffect jobs s (s.lockRow jobs i taken line item others lines) := by
  unfold ReservationState.lockRow
  cases hfind : (s.candidates jobs i taken line).find? fun row => row.id = item.id with
  | some row =>
    by_cases hfits : fitsInt4 (row.reservedQuantity + line.quantity) = true
    · simp only [if_pos hfits]
      exact .took i taken line item others lines hphase
    · simp only [if_neg hfits]
      exact .finished i
  | none =>
    -- the last candidate has been used up
    have hothers : others = [] := by
      simpa [ReservationState.passesOver, hphase, hfind] using hstays
    subst hothers
    exact .finished i

theorem effect_of_next (h : s.next jobs l = some t) (hstays : s.passesOver jobs l = false) :
    ReservationEffect jobs s t := by
  cases l with
  | begin i =>
    cases hphase : s.phase i with
    | idle =>
      cases hlines : s.db.linesToReserve (jobs.source i).orderID with
      | ok lines =>
        simp only [ReservationState.next, hphase, hlines, Option.some.injEq] at h
        rw [linesToReserve_eq_ok hlines] at h
        exact h ▸ .began i hphase
      | error err =>
        simp only [ReservationState.next, hphase, hlines, Option.some.injEq] at h
        exact h ▸ .finished i
    | _ => simp [ReservationState.next, hphase] at h
  | choose i =>
    simp only [ReservationState.next] at h
    split at h
    · rename_i taken line lines hphase
      exact Option.some.inj h ▸ effect_of_chooseRow hphase
    · cases h
  | lock i =>
    simp only [ReservationState.next] at h
    split at h
    · rename_i taken line item others lines hphase
      by_cases hlocked : (s.locks item.id).any (· ≠ i) = true
      · simp only [if_pos hlocked] at h
        cases h
      · simp only [if_neg hlocked] at h
        exact Option.some.inj h ▸ effect_of_lockRow hphase hstays
    · cases h
  | commit i =>
    simp only [ReservationState.next] at h
    split at h
    · rename_i taken hphase
      exact Option.some.inj h ▸ .committed i taken hphase
    · cases h
  | rollback i =>
    simp only [ReservationState.next] at h
    split at h
    · exact Option.some.inj h ▸ .finished i
    · exact Option.some.inj h ▸ .finished i
    · cases h

end Effect

/-! ### A reservation alone -/

theorem find?_of_mem_candidates {db : Database} {merchantID : String} {line : OrderItemRow} {item : InventoryItem}
    (h : item ∈ db.candidates merchantID line) :
    (db.candidates merchantID line).find? (fun row => row.id = item.id) = some item := by
  cases hfind : (db.candidates merchantID line).find? fun row => row.id = item.id with
  | none =>
    have hnot := List.find?_eq_none.mp hfind item h
    simp at hnot
  | some row =>
    have hrow := (List.mem_filter.mp (List.mem_of_find?_eq_some hfind)).1
    have hid : row.id = item.id := by simpa using List.find?_some hfind
    rw [Table.eq_of_conflict InventoryItem.conflict_symm hrow (List.mem_filter.mp h).1 (decide_eq_true (.inl hid))]

theorem linesToReserve_of_transition {db : Database} {row : OrderRow} {items : List OrderItemRow}
    (hrow : db.order? orderID = some row) (hmove : canTransitionOrderStatus row.status .inventoryReserved = true)
    (hitems : orderItemsForReservation db row.orderID = .ok items) : db.linesToReserve orderID = .ok items :=
  bind_eq_ok.mpr ⟨row, Database.lockOrderForUpdate_eq_ok.mpr hrow,
    bind_eq_ok.mpr ⟨(), validateOrderTransition_eq_ok.mpr hmove, hitems⟩⟩

theorem holding_eq_none {db : Database} {line : OrderItemRow}
    (hfree : ∀ existing, db.reservationOf orderID line.sku = some existing → existing.status ≠ .reserved) :
    db.holding orderID line = none := by
  apply Option.filter_eq_none_iff.mpr
  intro existing hexisting hstatus
  exact hfree existing hexisting (of_decide_eq_true hstatus)

theorem takeAll_concat (db : Database) (taken : List (Nat × OrderItemRow)) (row : Nat) (line : OrderItemRow) :
    db.takeAll (taken ++ [(row, line)]) = { db.takeAll taken with
      inventoryItems := (db.takeAll taken).inventoryItems.update (InventoryItem.take row line.quantity)
        (InventoryItem.conflict_take row line.quantity) } := by
  rw [Database.takeAll, List.foldl_append]
  rfl

/-- A line that is reserved from stock fits the column that counts what is reserved. -/
theorem fits_of_reserveLine {db db' : Database} {source : OutboxEvent} {line : OrderItemRow} {entry : Value}
    {stock : InventoryItem} (hline : db.reserveLine source at' line = .ok (entry, db'))
    (hfree : db.holding source.orderID line = none) (hchoice : db.choice source.merchantID line = some stock) :
    fitsInt4 (stock.reservedQuantity + line.quantity) = true := by
  by_contra hfits
  have hverdict : db.verdict source.merchantID source.orderID line = .blocked := by
    simp [Database.verdict, hfree, Database.stockVerdict, hchoice, hfits]
  obtain ⟨err, herr, -⟩ := Database.reserveLine_refused at' hverdict (by decide)
  cases herr.symm.trans hline

section Alone

variable {ι : Type} [DecidableEq ι]

/-- A transaction that no other one runs beside, in front of lines, and the database the loop of the store has reached
there. -/
structure ReservingAlone (jobs : ReservationJobs ι) (i : ι) (taken : List (Nat × OrderItemRow))
    (lines : List OrderItemRow) (s : ReservationState ι) (db : Database) : Prop where
  phase : s.phase i = .between taken lines
  others : ∀ j, j ≠ i → s.phase j = .idle
  locks : ∀ row, (s.locks row).any (· ≠ i) = false
  inventory : (s.db.takeAll taken).inventoryItems = db.inventoryItems
  warehouses : (s.db.takeAll taken).warehouses = db.warehouses
  holdings : ∀ line ∈ lines, s.db.holding (jobs.source i).orderID line = db.holding (jobs.source i).orderID line

variable {jobs : ReservationJobs ι} {catalog db db' : Database} {s : ReservationState ι} {i : ι}
  {taken : List (Nat × OrderItemRow)} {line : OrderItemRow} {lines : List OrderItemRow} {stock : InventoryItem}

theorem ReservingAlone.candidates_eq (h : ReservingAlone jobs i taken lines s db) (line : OrderItemRow) :
    s.candidates jobs i taken line = db.candidates (jobs.source i).merchantID line := by
  have hcandidate : (s.db.takeAll taken).isCandidate (jobs.source i).merchantID line.sku line.quantity =
      db.isCandidate (jobs.source i).merchantID line.sku line.quantity := by
    funext item
    simp only [Database.isCandidate, h.warehouses]
  rw [ReservationState.candidates, Database.candidates, Database.candidates, h.inventory, hcandidate]

theorem next_choose_of_holding {held : StockReservation} (hphase : s.phase i = .between taken (line :: lines))
    (hheld : s.db.holding (jobs.source i).orderID line = some held) (hquantity : held.quantity = line.quantity) :
    s.next jobs (.choose i) = some (s.setPhase i (.between taken lines)) := by
  simp [ReservationState.next, hphase, ReservationState.chooseRow, hheld, hquantity]

theorem next_choose_of_first (hphase : s.phase i = .between taken (line :: lines))
    (hfree : s.db.holding (jobs.source i).orderID line = none)
    (hfirst : Table.firstOf Database.candidateBefore (s.candidates jobs i taken line) = some stock) :
    ∃ others, s.next jobs (.choose i) = some (s.setPhase i (.reserving taken line stock others lines)) := by
  simp only [ReservationState.next, hphase, ReservationState.chooseRow, hfree, ReservationPhase.trying, hfirst,
    Option.map_some]
  exact ⟨_, rfl⟩

theorem next_lock_of_find {others : List InventoryItem}
    (hphase : s.phase i = .reserving taken line stock others lines)
    (hunlocked : (s.locks stock.id).any (· ≠ i) = false)
    (hfind : (s.candidates jobs i taken line).find? (fun row => row.id = stock.id) = some stock)
    (hfits : fitsInt4 (stock.reservedQuantity + line.quantity) = true) :
    s.next jobs (.lock i) =
      some ((s.setPhase i (.between (taken ++ [(stock.id, line)]) lines)).setLock stock.id i) := by
  simp only [ReservationState.next, hphase, hunlocked, ReservationState.lockRow, hfind, hfits]
  rfl

theorem ReservingAlone.skip (h : ReservingAlone jobs i taken (line :: lines) s db) :
    ReservingAlone jobs i taken lines (s.setPhase i (.between taken lines)) db := by
  refine ⟨s.phase_setPhase i _, ?_, h.locks, h.inventory, h.warehouses, ?_⟩
  · intro j hj
    exact (s.phase_setPhase_of_ne hj _).trans (h.others j hj)
  · intro other hmem
    exact h.holdings other (List.mem_cons_of_mem _ hmem)

/-- The transaction has the row locked that the store has taken the stock of a line from. -/
theorem ReservingAlone.take (h : ReservingAlone jobs i taken (line :: lines) s db) (phase : ReservationPhase)
    (hinventory : db'.inventoryItems = db.inventoryItems.update (InventoryItem.take stock.id line.quantity)
      (InventoryItem.conflict_take stock.id line.quantity)) (hwarehouses : db'.warehouses = db.warehouses)
    (hholdings : ∀ other ∈ lines, s.db.holding (jobs.source i).orderID other =
      db'.holding (jobs.source i).orderID other) :
    ReservingAlone jobs i (taken ++ [(stock.id, line)]) lines
      (((s.setPhase i phase).setPhase i (.between (taken ++ [(stock.id, line)]) lines)).setLock stock.id i) db' := by
  refine ⟨?_, ?_, ?_, ?_, ?_, hholdings⟩
  · simp
  · intro j hj
    simpa [hj] using h.others j hj
  · intro row
    by_cases hrow : row = stock.id
    · simp [hrow]
    · rw [ReservationState.locks_setLock_of_ne _ hrow]
      exact h.locks row
  · rw [hinventory, ← h.inventory]
    exact congrArg Database.inventoryItems (takeAll_concat ..)
  · have hsame : (s.db.takeAll (taken ++ [(stock.id, line)])).warehouses = (s.db.takeAll taken).warehouses := by
      rw [takeAll_concat]
    rw [hwarehouses, ← h.warehouses]
    exact hsame

theorem ReservingAlone.reserve {entry : Value}
    (hs : (reservations jobs catalog).Reachable (fun s l => s.passesOver jobs l = false) s)
    (h : ReservingAlone jobs i taken (line :: lines) s db)
    (hline : db.reserveLine (jobs.source i) at' line = .ok (entry, db'))
    (hother : ∀ other ∈ lines, other.sku ≠ line.sku) : ∃ t taken',
      (reservations jobs catalog).Reachable (fun s l => s.passesOver jobs l = false) t ∧
        ReservingAlone jobs i taken' lines t db' := by
  have hholdings : ∀ other ∈ lines, s.db.holding (jobs.source i).orderID other =
      db'.holding (jobs.source i).orderID other := by
    intro other hmem
    rw [Database.holding_of_reserveLine hline (hother other hmem)]
    exact h.holdings other (List.mem_cons_of_mem _ hmem)
  have hholding := h.holdings line List.mem_cons_self
  obtain ⟨_, _, _, hreserves, -, rfl⟩ := Database.reserveLine_eq_ok hline
  cases hreserves with
  | held existing hexisting hstatus hquantity _ hdb =>
    subst hdb
    have hheld : s.db.holding (jobs.source i).orderID line = some existing := by
      rw [hholding, Database.holding, hexisting, Option.filter_some, if_pos (decide_eq_true hstatus)]
    have hskipped := h.skip
    exact ⟨_, taken, hs.step (next_choose_of_holding h.phase hheld hquantity) rfl,
      hskipped.phase, hskipped.others, hskipped.locks, hskipped.inventory, hskipped.warehouses, hholdings⟩
  | taken stock hfree hstock _ hdb =>
    subst hdb
    have hnone := holding_eq_none hfree
    have hfits := fits_of_reserveLine hline hnone hstock
    have hfirst : Table.firstOf Database.candidateBefore (s.candidates jobs i taken line) = some stock := by
      rw [h.candidates_eq]
      exact hstock
    obtain ⟨others, hchoose⟩ := next_choose_of_first h.phase (hholding.trans hnone) hfirst
    have hphase := s.phase_setPhase i (.reserving taken line stock others lines)
    -- nobody has taken from the row since it was chosen
    have hfind : ((s.setPhase i (.reserving taken line stock others lines)).candidates jobs i taken line).find?
        (fun row => row.id = stock.id) = some stock := by
      have hsame := h.candidates_eq line
      rw [ReservationState.candidates] at hsame ⊢
      exact hsame ▸ find?_of_mem_candidates (Table.mem_of_firstOf hstock)
    have hlock := next_lock_of_find hphase (h.locks stock.id) hfind hfits
    refine ⟨_, _, (hs.step hchoose rfl).step hlock ?_, h.take _ rfl rfl hholdings⟩
    simp only [ReservationState.passesOver, hphase, hfind]
    rfl

theorem ReservingAlone.reserveAll {entries : List Value}
    (hs : (reservations jobs catalog).Reachable (fun s l => s.passesOver jobs l = false) s)
    (h : ReservingAlone jobs i taken lines s db)
    (hlines : Database.reserveLines (jobs.source i) at' lines db = .ok (entries, db'))
    (hskus : (lines.map OrderItemRow.sku).Nodup) : ∃ t taken',
      (reservations jobs catalog).Reachable (fun s l => s.passesOver jobs l = false) t ∧
        ReservingAlone jobs i taken' [] t db' := by
  induction lines generalizing s taken db entries with
  | nil =>
    cases hlines
    exact ⟨s, taken, hs, h⟩
  | cons line lines ih =>
    obtain ⟨⟨_, mid⟩, hline, hrest⟩ := bind_eq_ok.mp hlines
    obtain ⟨⟨_, _⟩, hrest, hpair⟩ := bind_eq_ok.mp hrest
    cases hpair
    obtain ⟨hother, hskus⟩ := Database.skus_ne_of_nodup hskus
    obtain ⟨t, taken', ht, hreserved⟩ := h.reserve hs hline hother
    exact ih ht hreserved hrest hskus

/-- **A reservation that no other one runs beside is that of the store**: where the store reserves the stock of an
order, there is a run of its transaction alone which ends with its commit and leaves the same stock. -/
theorem exists_reachable_of_recordInventoryReserved {next : OutboxEvent} {audit : AuditLog}
    (h : catalog.recordInventoryReserved (jobs.source i) next audit = .ok db') :
    ∃ before s, (reservations jobs catalog).Reachable (fun s l => s.passesOver jobs l = false) before ∧
      (reservations jobs catalog).step before (.commit i) s ∧
      (reservations jobs catalog).Reachable (fun s l => s.passesOver jobs l = false) s ∧ s.phase i = .ended ∧
      (∀ j, j ≠ i → s.phase j = .idle) ∧ s.db.inventoryItems = db'.inventoryItems := by
  obtain ⟨row, event, written, inserted, hrow, hmove, hstatements, hinserted, rfl⟩ := Database.transact_eq_ok.mp h
  obtain ⟨items, hitems, hstatements⟩ := bind_eq_ok.mp hstatements
  obtain ⟨⟨entries, reserved⟩, hlines, hpair⟩ := bind_eq_ok.mp hstatements
  cases hpair
  obtain ⟨outboxEvents, rfl, -⟩ := Database.insertNext_eq_ok hinserted
  have hread := linesToReserve_of_transition hrow (hmove _ rfl) hitems
  have hskus : (items.map OrderItemRow.sku).Nodup := by
    rw [linesToReserve_eq_ok hread]
    exact Database.skus_itemsOf _ _
  have hbegin : ReservationState.next jobs ⟨catalog, fun _ => .idle, fun _ => none⟩ (.begin i) =
      some (ReservationState.setPhase ⟨catalog, fun _ => .idle, fun _ => none⟩ i (.between [] items)) := by
    simp only [ReservationState.next, hread]
  have halone : ReservingAlone jobs i [] items
      (ReservationState.setPhase ⟨catalog, fun _ => .idle, fun _ => none⟩ i (.between [] items)) catalog := by
    refine ⟨?_, ?_, fun _ => rfl, rfl, rfl, fun _ _ => rfl⟩
    · exact ReservationState.phase_setPhase ..
    · intro j hj
      exact ReservationState.phase_setPhase_of_ne _ hj _
  obtain ⟨t, taken, ht, hreserved⟩ := halone.reserveAll (.step (.start rfl) hbegin rfl) hlines hskus
  have hcommit : t.next jobs (.commit i) = some { t.finish i with db := t.db.takeAll taken } := by
    simp only [ReservationState.next, hreserved.phase]
  refine ⟨t, _, ht, hcommit, .step ht hcommit rfl, ?_, ?_, hreserved.inventory⟩
  · exact t.phase_finish i
  · intro j hj
    exact (t.phase_finish_of_ne hj).trans (hreserved.others j hj)

def shopJob : ReservationJobs Unit := ⟨fun _ => Database.shopCreated, Function.injective_of_subsingleton _⟩

/-- The shop reserves its order, and so does the transaction of the order alone. -/
theorem exists_reachable_of_recordInventoryReserved_shop : ∃ db' before s,
    (Database.shop "w1" 0 Database.twoLines).recordInventoryReserved Database.shopCreated Database.shopNext
      Database.shopAudit = .ok db' ∧
    (reservations shopJob (Database.shop "w1" 0 Database.twoLines)).Reachable
      (fun s l => s.passesOver shopJob l = false) before ∧
    before.next shopJob (.commit ()) = some s ∧ s.db.inventoryItems = db'.inventoryItems := by
  have hok : ∃ db', (Database.shop "w1" 0 Database.twoLines).recordInventoryReserved (shopJob.source ())
      Database.shopNext Database.shopAudit = .ok db' := ⟨_, rfl⟩
  obtain ⟨db', h⟩ := hok
  obtain ⟨before, s, hbefore, hcommit, _, _, _, hstock⟩ := exists_reachable_of_recordInventoryReserved h
  exact ⟨db', before, s, h, hbefore, hcommit, hstock⟩

end Alone

end FulfillHub
