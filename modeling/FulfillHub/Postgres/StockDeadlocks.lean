import FulfillHub.Library.Simulator
import FulfillHub.Postgres.StockLocks

/-!
# Deadlocks between reservations

A transaction locks inventory rows in the order of its lines. Where the orders of a merchant list their SKUs in one order
and no row is passed over, the rows are locked in that order by all of them, and the lock order rule excludes a deadlock.
Two orders that list two SKUs in opposite order can wait for each other. So can orders of a single line, by way of the
rows they have passed over.
-/

namespace FulfillHub

open Interaction Relational

variable {row row' : Nat}

/-! ### The order of the locks -/

namespace ReservationPhase

def taken : ReservationPhase → List (Nat × OrderItemRow)
  | .between taken _ => taken
  | .reserving taken _ _ _ _ => taken
  | .idle | .ended => []

def linesLeft : ReservationPhase → List OrderItemRow
  | .between _ lines => lines
  | .reserving _ line _ _ lines => line :: lines
  | .idle | .ended => []

/-- The row the statement is about to lock, with its line. -/
def requested : ReservationPhase → Option (Nat × OrderItemRow)
  | .reserving _ line item _ _ => some (item.id, line)
  | _ => none

end ReservationPhase

/-- The inventory row has the SKU, in a warehouse of the merchant. -/
def Database.Stocks (db : Database) (row : Nat) (merchantID sku : String) : Prop :=
  ∃ item ∈ db.inventoryItems.rows, item.id = row ∧ item.sku = sku ∧
    ∃ warehouse ∈ db.warehouses.rows, warehouse.id = item.warehouseID ∧ warehouse.merchantID = merchantID

section Order

variable {ι : Type} (jobs : ReservationJobs ι) (catalog : Database)

/-- Some order of the merchant lists one SKU before the other. -/
def ReservationJobs.ListedBefore (merchantID a b : String) : Prop :=
  ∃ i, (jobs.source i).merchantID = merchantID ∧
    [a, b].Sublist ((catalog.itemsOf (jobs.source i).orderID).map OrderItemRow.sku)

/-- The orders of a merchant do not list SKUs in a circle. -/
def ReservationJobs.ListedInOrder : Prop :=
  ∀ merchantID sku, ¬ Relation.TransGen (jobs.ListedBefore catalog merchantID) sku sku

/-- The lines of the order up to where the transaction stands, and the rows it has taken from for some of them. -/
structure ReservationPhase.Listed (i : ι) (phase : ReservationPhase) : Prop where
  lines : ∃ done, catalog.itemsOf (jobs.source i).orderID = done ++ phase.linesLeft ∧
    ∀ entry ∈ phase.taken, entry.2 ∈ done ∧ catalog.Stocks entry.1 (jobs.source i).merchantID entry.2.sku
  requested : ∀ entry, phase.requested = some entry → catalog.Stocks entry.1 (jobs.source i).merchantID entry.2.sku

/-- The catalog is the same but for quantities, and the locks are those of the rows that transactions have taken
from. -/
structure ReservationsListed (s : ReservationState ι) : Prop where
  orderItems : s.db.orderItems = catalog.orderItems
  stocks : ∀ row merchantID sku, s.db.Stocks row merchantID sku → catalog.Stocks row merchantID sku
  phases : ∀ i, (s.phase i).Listed jobs catalog i
  locks : ∀ row i, s.locks row = some i → ∃ line, (row, line) ∈ (s.phase i).taken

variable {jobs catalog}

variable {db : Database} {merchantID sku : String}

theorem Database.Stocks.unique {merchantID' sku' : String} (h : db.Stocks row merchantID sku)
    (h' : db.Stocks row merchantID' sku') :
    merchantID = merchantID' ∧ sku = sku' := by
  obtain ⟨item, hitem, hid, hsku, warehouse, hwarehouse, hof, hmerchant⟩ := h
  obtain ⟨item', hitem', hid', hsku', warehouse', hwarehouse', hof', hmerchant'⟩ := h'
  obtain rfl := Table.eq_of_conflict InventoryItem.conflict_symm hitem hitem'
    (decide_eq_true (.inl (hid.trans hid'.symm)))
  have hsame : warehouse = warehouse' := by
    apply Table.eq_of_conflict _ hwarehouse hwarehouse' (decide_eq_true (hof.trans hof'.symm))
    intro a b
    simp only [eq_comm]
  exact ⟨by rw [← hmerchant, ← hmerchant', hsame], hsku.symm.trans hsku'⟩

theorem stocks_of_candidate {line : OrderItemRow} {item : InventoryItem} (h : item ∈ db.candidates merchantID line) :
    db.Stocks item.id merchantID line.sku := by
  obtain ⟨hitem, hcandidate⟩ := List.mem_filter.mp h
  simp only [Database.isCandidate, Bool.and_eq_true, List.any_eq_true, decide_eq_true_eq] at hcandidate
  obtain ⟨⟨⟨warehouse, hwarehouse, ⟨hof, hmerchant⟩, -⟩, hsku⟩, -⟩ := hcandidate
  exact ⟨item, hitem, rfl, hsku, warehouse, hwarehouse, hof, hmerchant⟩

theorem Database.Stocks.of_take {id : Nat} {quantity : Int}
    (h : Database.Stocks { db with
      inventoryItems := db.inventoryItems.update (InventoryItem.take id quantity)
        (InventoryItem.conflict_take id quantity) } row merchantID sku) :
    db.Stocks row merchantID sku := by
  obtain ⟨_, hmem, hid, hsku, warehouse, hwarehouse, hof, hmerchant⟩ := h
  obtain ⟨item, hitem, rfl⟩ := List.mem_map.mp hmem
  have hsame : (item.take id quantity).id = item.id ∧ (item.take id quantity).sku = item.sku ∧
      (item.take id quantity).warehouseID = item.warehouseID := by
    unfold InventoryItem.take
    split_ifs
    · exact ⟨rfl, rfl, rfl⟩
    · exact ⟨rfl, rfl, rfl⟩
  rw [hsame.1] at hid
  rw [hsame.2.1] at hsku
  rw [hsame.2.2] at hof
  exact ⟨item, hitem, hid, hsku, warehouse, hwarehouse, hof, hmerchant⟩

theorem takeAll_orderItems (db : Database) (taken : List (Nat × OrderItemRow)) :
    (db.takeAll taken).orderItems = db.orderItems := by
  induction taken generalizing db with
  | nil => rfl
  | cons entry taken ih => exact ih _

theorem Database.Stocks.of_takeAll {taken : List (Nat × OrderItemRow)}
    (h : (db.takeAll taken).Stocks row merchantID sku) : db.Stocks row merchantID sku := by
  induction taken generalizing db with
  | nil => exact h
  | cons entry taken ih => exact (ih h).of_take

theorem ReservationPhase.listed_of_nil {i : ι} {phase : ReservationPhase} (hlines : phase.linesLeft = [])
    (htaken : phase.taken = []) (hrequested : phase.requested = none) : phase.Listed jobs catalog i := by
  constructor
  · refine ⟨catalog.itemsOf (jobs.source i).orderID, ?_, ?_⟩
    · rw [hlines, List.append_nil]
    · intro entry hentry
      rw [htaken] at hentry
      cases hentry
  · intro entry hentry
    cases hrequested.symm.trans hentry

variable {s : ReservationState ι} {i : ι}

theorem ReservationsListed.ordered (h : ReservationsListed jobs catalog s) (hholds : s.Holds i row)
    (hrequests : s.Requests i row') : ∃ merchantID a b, catalog.Stocks row merchantID a ∧
      catalog.Stocks row' merchantID b ∧ jobs.ListedBefore catalog merchantID a b := by
  obtain ⟨taken, line, item, others, lines, hphase, rfl⟩ := hrequests
  obtain ⟨held, hheld⟩ := h.locks row i hholds
  obtain ⟨⟨done, hdone, htaken⟩, hrequested⟩ := h.phases i
  rw [hphase] at hdone htaken hrequested hheld
  obtain ⟨hbefore, hstocks⟩ := htaken _ hheld
  refine ⟨_, _, _, hstocks, hrequested _ rfl, i, rfl, ?_⟩
  have hsublist : [held, line].Sublist (done ++ line :: lines) :=
    (List.singleton_sublist.mpr hbefore).append (List.singleton_sublist.mpr List.mem_cons_self)
  rw [hdone]
  exact hsublist.map OrderItemRow.sku

/-- Rows listed one before the other belong to one merchant, whose orders list their SKUs. -/
theorem listed_of_chain {a : String}
    (hchain : Relation.TransGen (fun row row' => ∃ merchantID a b, catalog.Stocks row merchantID a ∧
      catalog.Stocks row' merchantID b ∧ jobs.ListedBefore catalog merchantID a b) row row')
    (hrow : catalog.Stocks row merchantID a) : ∃ b, catalog.Stocks row' merchantID b ∧
      Relation.TransGen (jobs.ListedBefore catalog merchantID) a b := by
  induction hchain with
  | single hlisted =>
    obtain ⟨m, a', b, hfrom, hto, hlisted⟩ := hlisted
    obtain ⟨rfl, rfl⟩ := hfrom.unique hrow
    exact ⟨b, hto, .single hlisted⟩
  | tail _ hlisted ih =>
    obtain ⟨mid, hmid, hchain⟩ := ih
    obtain ⟨m, a', b, hfrom, hto, hlisted⟩ := hlisted
    obtain ⟨rfl, rfl⟩ := hfrom.unique hmid
    exact ⟨b, hto, hchain.tail hlisted⟩

theorem ReservationsListed.not_deadlocked (h : ReservationsListed jobs catalog s)
    (hlisted : jobs.ListedInOrder catalog) : ¬ s.Deadlocked := by
  apply Locking.not_deadlock
  · rintro i row row' ⟨_, _, item, _, _, hphase, rfl⟩ ⟨_, _, item', _, _, hphase', rfl⟩
    cases hphase.symm.trans hphase'
    rfl
  · intro i row row' hholds hrequests
    exact h.ordered hholds hrequests
  · intro row hcycle
    obtain ⟨_, ⟨m, a, _, hrow, -⟩, -⟩ := Relation.TransGen.head'_iff.mp hcycle
    obtain ⟨b, hrow', hchain⟩ := listed_of_chain hcycle hrow
    obtain ⟨-, rfl⟩ := hrow.unique hrow'
    exact hlisted m a hchain

variable [DecidableEq ι] {t : ReservationState ι} {phase : ReservationPhase}

theorem ReservationsListed.setPhase (h : ReservationsListed jobs catalog s) (hphase : phase.Listed jobs catalog i)
    (htaken : (s.phase i).taken <+: phase.taken) : ReservationsListed jobs catalog (s.setPhase i phase) := by
  refine ⟨h.orderItems, h.stocks, ?_, ?_⟩
  · intro j
    by_cases hj : j = i
    · subst hj
      rwa [s.phase_setPhase]
    · rw [s.phase_setPhase_of_ne hj]
      exact h.phases j
  · intro row j hlock
    obtain ⟨line, hline⟩ := h.locks row j hlock
    by_cases hj : j = i
    · subst hj
      rw [s.phase_setPhase]
      exact ⟨line, htaken.subset hline⟩
    · rw [s.phase_setPhase_of_ne hj]
      exact ⟨line, hline⟩

theorem ReservationsListed.finish (h : ReservationsListed jobs catalog s) (i : ι) :
    ReservationsListed jobs catalog (s.finish i) := by
  refine ⟨h.orderItems, h.stocks, ?_, ?_⟩
  · intro j
    by_cases hj : j = i
    · subst hj
      rw [s.phase_finish]
      exact ReservationPhase.listed_of_nil rfl rfl rfl
    · rw [s.phase_finish_of_ne hj]
      exact h.phases j
  · intro row j hlock
    obtain ⟨hlocked, hj⟩ := s.locks_finish hlock
    rw [s.phase_finish_of_ne hj]
    exact h.locks row j hlocked

theorem ReservationsListed.take (h : ReservationsListed jobs catalog s) {taken : List (Nat × OrderItemRow)}
    {line : OrderItemRow} {item : InventoryItem} {others : List InventoryItem} {lines : List OrderItemRow}
    (hphase : s.phase i = .reserving taken line item others lines) : ReservationsListed jobs catalog
      ((s.setPhase i (.between (taken ++ [(item.id, line)]) lines)).setLock item.id i) := by
  obtain ⟨⟨done, hdone, htaken⟩, hrequested⟩ := h.phases i
  rw [hphase] at hdone htaken hrequested
  have hlisted : (ReservationPhase.between (taken ++ [(item.id, line)]) lines).Listed jobs catalog i := by
    refine ⟨⟨done ++ [line], ?_, ?_⟩, fun _ => nofun⟩
    · simpa [ReservationPhase.linesLeft] using hdone
    · intro entry hentry
      obtain hold | hnew := List.mem_append.mp hentry
      · exact ⟨List.mem_append_left _ (htaken entry hold).1, (htaken entry hold).2⟩
      · obtain rfl := List.mem_singleton.mp hnew
        exact ⟨List.mem_append_right _ List.mem_cons_self, hrequested _ rfl⟩
  have htaken' : (s.phase i).taken <+: taken ++ [(item.id, line)] := by
    rw [hphase]
    exact List.prefix_append _ _
  have hset := h.setPhase hlisted htaken'
  refine ⟨hset.orderItems, hset.stocks, hset.phases, ?_⟩
  intro row j hlock
  by_cases hrow : row = item.id
  · subst hrow
    rw [ReservationState.locks_setLock] at hlock
    obtain rfl := Option.some.inj hlock
    exact ⟨line, by simp [ReservationPhase.taken]⟩
  · rw [ReservationState.locks_setLock_of_ne _ hrow] at hlock
    exact hset.locks row j hlock

theorem ReservationsListed.step (h : ReservationsListed jobs catalog s) (heffect : ReservationEffect jobs s t) :
    ReservationsListed jobs catalog t := by
  cases heffect with
  | began i hphase =>
    have hitems : s.db.itemsOf (jobs.source i).orderID = catalog.itemsOf (jobs.source i).orderID := by
      rw [Database.itemsOf, h.orderItems]
      rfl
    apply h.setPhase
    · rw [hitems]
      exact ⟨⟨[], rfl, fun _ => nofun⟩, fun _ => nofun⟩
    · simp [hphase, ReservationPhase.taken]
  | finished i => exact h.finish i
  | skipped i taken line lines hphase =>
    obtain ⟨done, hdone, htaken⟩ := (h.phases i).lines
    rw [hphase] at hdone htaken
    apply h.setPhase
    · refine ⟨⟨done ++ [line], ?_, fun entry hentry => ?_⟩, fun _ => nofun⟩
      · simpa [ReservationPhase.linesLeft] using hdone
      · exact ⟨List.mem_append_left _ (htaken entry hentry).1, (htaken entry hentry).2⟩
    · rw [hphase]
      exact List.prefix_refl _
  | chose i taken line lines item others hphase hcandidate =>
    obtain ⟨done, hdone, htaken⟩ := (h.phases i).lines
    rw [hphase] at hdone htaken
    apply h.setPhase
    · refine ⟨⟨done, hdone, htaken⟩, ?_⟩
      rintro _ ⟨⟩
      exact h.stocks _ _ _ (stocks_of_candidate hcandidate).of_takeAll
    · rw [hphase]
      exact List.prefix_refl _
  | took i taken line item others lines hphase => exact h.take hphase
  | committed i taken hphase =>
    have hended := h.finish i
    exact ⟨(takeAll_orderItems ..).trans h.orderItems, fun row m sku hstocks => h.stocks row m sku hstocks.of_takeAll,
      hended.phases, hended.locks⟩

end Order

section Sorted

variable {ι : Type} {jobs : ReservationJobs ι} {catalog : Database}

theorem listedInOrder_of_sorted
    (h : ∀ i, ((catalog.itemsOf (jobs.source i).orderID).map OrderItemRow.sku).Pairwise (· < ·)) :
    jobs.ListedInOrder catalog := by
  intro merchantID sku hcycle
  have hbefore : ∀ a b, jobs.ListedBefore catalog merchantID a b → a < b := by
    rintro a b ⟨i, -, hsublist⟩
    exact List.rel_of_pairwise_cons ((h i).sublist hsublist) List.mem_cons_self
  have hlt := Relation.TransGen.mono hbefore sku sku hcycle
  rw [Relation.transGen_eq_self] at hlt
  exact lt_irrefl sku hlt

end Sorted

section Runs

variable {ι : Type} [DecidableEq ι] {jobs : ReservationJobs ι} {catalog : Database} {s : ReservationState ι}

theorem reservationsListed_of_reachable
    (hs : (reservations jobs catalog).Reachable (fun s l => s.passesOver jobs l = false) s) :
    ReservationsListed jobs catalog s := by
  refine Lts.Reachable.invariant (P := ReservationsListed jobs catalog) ?_
    (fun _ _ _ _ h hstep hstays => h.step (effect_of_next hstep hstays)) hs
  rintro _ rfl
  exact ⟨rfl, fun _ _ _ => id, fun _ => ReservationPhase.listed_of_nil rfl rfl rfl, fun _ _ => nofun⟩

/-- **Reservations do not deadlock** when the orders of each merchant list their SKUs in one order: in a run in which no
line has to pass over a row that has been used up, no state has a cycle of transactions each waiting for an inventory
row held by the next. -/
theorem reservations_not_deadlocked (hlisted : jobs.ListedInOrder catalog)
    (hs : (reservations jobs catalog).Reachable (fun s l => s.passesOver jobs l = false) s) : ¬ s.Deadlocked :=
  (reservationsListed_of_reachable hs).not_deadlocked hlisted

end Runs

/-! ### Two orders for two SKUs -/

theorem requests_iff {ι : Type} {s : ReservationState ι} {i : ι} :
    s.Requests i row ↔ (s.phase i).requested.map Prod.fst = some row := by
  constructor
  · rintro ⟨_, _, _, _, _, hphase, rfl⟩
    rw [hphase]
    rfl
  · intro h
    cases hphase : s.phase i with
    | reserving taken line item others lines =>
      rw [hphase] at h
      exact ⟨taken, line, item, others, lines, hphase, Option.some.inj h⟩
    | _ => simp [hphase, ReservationPhase.requested] at h

theorem deadlocked_of_crossing {ι : Type} {s : ReservationState ι} {i j : ι}
    (hheld : s.locks row = some i ∧ s.locks row' = some j)
    (hrequested : (s.phase i).requested.map Prod.fst = some row' ∧ (s.phase j).requested.map Prod.fst = some row) :
    s.Deadlocked := by
  have hwaits : Locking.WaitsFor s.Holds s.Requests i j := ⟨row', requests_iff.mpr hrequested.1, hheld.2⟩
  have hwaits' : Locking.WaitsFor s.Holds s.Requests j i := ⟨row, requests_iff.mpr hrequested.2, hheld.1⟩
  exact ⟨i, .tail (.single hwaits) hwaits'⟩

def pairOrders : List OrderRow :=
  [Database.shopOrder, { Database.shopOrder with orderID := "ord_2", externalOrderID := "external-2" }]

theorem pairOrders_distinct : pairOrders.Pairwise fun a b => a.conflict b = false := by decide

def pairLines (first second : String) : List OrderItemRow :=
  [Database.shopLine "sku-a", Database.shopLine "sku-b", { Database.shopLine first with orderID := "ord_2" },
    { Database.shopLine second with orderID := "ord_2" }]

theorem pairLines_same : (pairLines "sku-a" "sku-b").Pairwise fun a b => a.conflict b = false := by decide

theorem pairLines_crossing : (pairLines "sku-b" "sku-a").Pairwise fun a b => a.conflict b = false := by decide

/-- The shop with two orders that wait for all it has. -/
def pairShop (orderItems : Table OrderItemRow OrderItemRow.conflict) : Database :=
  { Database.shop "w1" 0 orderItems with orders := ⟨pairOrders, pairOrders_distinct⟩ }

def pairSource (second : Bool) : OutboxEvent :=
  { Database.shopCreated with orderID := if second then "ord_2" else "ord_1" }

theorem pairSource_distinct : Function.Injective fun i => (pairSource i).orderID := by decide

def pairJobs : ReservationJobs Bool := ⟨pairSource, pairSource_distinct⟩

def sameShop : Database := pairShop ⟨pairLines "sku-a" "sku-b", pairLines_same⟩

def crossingShop : Database := pairShop ⟨pairLines "sku-b" "sku-a", pairLines_crossing⟩

def reservationSimulator {ι : Type} [DecidableEq ι] (jobs : ReservationJobs ι) (catalog : Database) :
    Simulator (reservations jobs catalog) (ReservationStep ι) :=
  .ofStep (fun s l => s.next jobs l) id

/-- Of two orders that list the SKUs alike the second one waits for the first. -/
theorem reservations_not_deadlocked_same : ∃ s,
    (reservations pairJobs sameShop).Reachable (fun s l => s.passesOver pairJobs l = false) s ∧
      (s.Holds false 1 ∧ s.Requests true 1) ∧ ¬ s.Deadlocked := by
  obtain ⟨s, hs, hheld, hrequested⟩ := (reservationSimulator pairJobs sameShop).exists_reachable
    (Q := fun s => s.locks 1 = some false ∧ (s.phase true).requested.map Prod.fst = some 1)
    (decides_decide fun s l => s.passesOver pairJobs l = false) (.start rfl)
    [.begin false, .begin true, .choose false, .lock false, .choose true] (by decide +kernel)
  exact ⟨s, hs, ⟨hheld, requests_iff.mpr hrequested⟩,
    reservations_not_deadlocked (listedInOrder_of_sorted (by decide)) hs⟩

/-- Two orders that list two SKUs in opposite order wait for each other. -/
theorem crossing_reservations_deadlock :
    (∀ i, ((crossingShop.itemsOf (pairJobs.source i).orderID).map OrderItemRow.sku).Nodup) ∧
      ∃ s, (reservations pairJobs crossingShop).Reachable Lts.anyStep s ∧ s.Deadlocked := by
  refine ⟨by decide, ?_⟩
  obtain ⟨s, hs, hheld, hrequested⟩ := (reservationSimulator pairJobs crossingShop).exists_reachable
    (Q := fun s => (s.locks 1 = some false ∧ s.locks 2 = some true) ∧
      (s.phase false).requested.map Prod.fst = some 2 ∧ (s.phase true).requested.map Prod.fst = some 1)
    decides_anyStep (.start rfl) [.begin false, .begin true, .choose false, .lock false, .choose true, .lock true,
      .choose false, .choose true] (by decide +kernel)
  exact ⟨s, hs, deadlocked_of_crossing hheld hrequested⟩

/-! ### One SKU in two warehouses -/

def queueID : Fin 4 → String := !["ord_1", "ord_2", "ord_3", "ord_4"]

def queueQuantity : Fin 4 → Int := ![7, 4, 4, 2]

def queueOrders : List OrderRow :=
  (List.finRange 4).map fun i => { Database.shopOrder with orderID := queueID i, externalOrderID := queueID i }

theorem queueOrders_distinct : queueOrders.Pairwise fun a b => a.conflict b = false := by decide

def queueLines : List OrderItemRow :=
  (List.finRange 4).map fun i => { Database.shopLine "sku-a" with orderID := queueID i, quantity := queueQuantity i }

theorem queueLines_distinct : queueLines.Pairwise fun a b => a.conflict b = false := by decide

def queueWarehouses : List Warehouse := [⟨"w1", "m1", .active⟩, ⟨"w2", "m1", .active⟩]

theorem queueWarehouses_distinct : queueWarehouses.Pairwise fun a b => decide (a.id = b.id) = false := by decide

def queueStock : List InventoryItem := [⟨1, "w1", "sku-a", 10, 0⟩, ⟨2, "w2", "sku-a", 5, 0⟩]

theorem queueStock_distinct : queueStock.Pairwise fun a b => a.conflict b = false := by decide

/-- Four orders of one line each, for an SKU that is in two warehouses. -/
def queueShop : Database :=
  { Database.shop "w1" 0 ⟨queueLines, queueLines_distinct⟩ with
    warehouses := ⟨queueWarehouses, queueWarehouses_distinct⟩
    inventoryItems := ⟨queueStock, queueStock_distinct⟩
    orders := ⟨queueOrders, queueOrders_distinct⟩ }

def queueSource (i : Fin 4) : OutboxEvent := { Database.shopCreated with orderID := queueID i }

theorem queueSource_distinct : Function.Injective fun i => (queueSource i).orderID := by decide

def queueJobs : ReservationJobs (Fin 4) := ⟨queueSource, queueSource_distinct⟩

/-- Rows that are passed over are another source of deadlocks. The first order uses up one row while the second waits
for it, and the third the other while the fourth does: each of those who waited keeps the row it could not use and waits
for the other one. -/
theorem passed_rows_deadlock : queueJobs.ListedInOrder queueShop ∧
    ∃ s, (reservations queueJobs queueShop).Reachable Lts.anyStep s ∧ s.Deadlocked := by
  refine ⟨listedInOrder_of_sorted (by decide), ?_⟩
  obtain ⟨s, hs, hheld, hrequested⟩ := (reservationSimulator queueJobs queueShop).exists_reachable
    (Q := fun s => (s.locks 1 = some 1 ∧ s.locks 2 = some 3) ∧
      (s.phase 1).requested.map Prod.fst = some 2 ∧ (s.phase 3).requested.map Prod.fst = some 1)
    decides_anyStep (.start rfl) [.begin 0, .choose 0, .lock 0, .begin 1, .choose 1, .commit 0, .begin 2, .choose 2,
      .lock 2, .begin 3, .choose 3, .lock 1, .commit 2, .lock 3] (by decide +kernel)
  exact ⟨s, hs, deadlocked_of_crossing hheld hrequested⟩

end FulfillHub
