import FulfillHub.Postgres.Success

/-!
# Reserving the stock of an order

`RecordInventoryReserved` reserves line after line, each against the inventory the lines before it have left. The lines
of an order have distinct SKUs, so no line can take what another one looks at: all of them choose as if they were the
first. `Moved` is this simultaneous reading of the loop, and the order of the lines no longer occurs in it.
-/

namespace FulfillHub

open Relational

/-- The stock of an inventory item after a quantity has been reserved from it. -/
def InventoryItem.move (item : InventoryItem) (quantity : Int) : InventoryItem :=
  { item with
    availableQuantity := item.availableQuantity - quantity
    reservedQuantity := item.reservedQuantity + quantity }

namespace Database

variable (db : Database) (merchantID : String)

/-- The inventory item a line is reserved from. -/
def choice (line : OrderItemRow) : Option InventoryItem :=
  db.inventoryItems.first? candidateBefore (db.isCandidate merchantID line.sku line.quantity)

/-- The inventory item has stock for the line in an active warehouse of the merchant, no other has more, and of those
with as much it has the smallest id. -/
structure Best (line : OrderItemRow) (stock : InventoryItem) : Prop where
  stored : stock ∈ db.inventoryItems.rows
  candidate : db.isCandidate merchantID line.sku line.quantity stock = true
  largest : ∀ other ∈ db.inventoryItems.rows, db.isCandidate merchantID line.sku line.quantity other = true →
    other.availableQuantity ≤ stock.availableQuantity
  earliest : ∀ other ∈ db.inventoryItems.rows, db.isCandidate merchantID line.sku line.quantity other = true →
    other.availableQuantity = stock.availableQuantity → stock.id ≤ other.id

/-- Some active warehouse of the merchant has enough for the line. -/
def InStock (line : OrderItemRow) : Prop :=
  ∃ stock ∈ db.inventoryItems.rows, db.isCandidate merchantID line.sku line.quantity stock = true

instance (line : OrderItemRow) : Decidable (db.InStock merchantID line) :=
  inferInstanceAs (Decidable (∃ stock ∈ db.inventoryItems.rows, _))

/-- What the lines take from an inventory item. -/
def movedQuantity (lines : List OrderItemRow) (item : InventoryItem) : Int :=
  (lines.map fun line => if (db.choice merchantID line).any (·.id = item.id) then line.quantity else 0).sum

variable {db merchantID} {db' : Database} {line : OrderItemRow} {stock : InventoryItem} {source : OutboxEvent}
  {at' : Time}

theorem candidateBefore_asymm (a b : InventoryItem) (h : candidateBefore a b = true) : candidateBefore b a = false := by
  simp only [candidateBefore, decide_eq_true_eq, decide_eq_false_iff_not] at h ⊢
  omega

theorem candidateBefore_trans (a b c : InventoryItem) (hab : candidateBefore a b = false)
    (hbc : candidateBefore b c = false) : candidateBefore a c = false := by
  simp only [candidateBefore, decide_eq_false_iff_not] at hab hbc ⊢
  omega

theorem choice_eq_none : db.choice merchantID line = none ↔ ¬ db.InStock merchantID line := by
  constructor
  · rintro hnone ⟨stock, hstock, hcandidate⟩
    obtain ⟨chosen, hchosen⟩ := Table.exists_first? candidateBefore hstock hcandidate
    cases hnone.symm.trans hchosen
  · intro hnone
    cases hchoice : db.choice merchantID line with
    | none => rfl
    | some stock =>
      obtain ⟨hstock, hcandidate⟩ := Table.mem_of_first? hchoice
      exact absurd ⟨stock, hstock, hcandidate⟩ hnone

theorem best_of_choice (h : db.choice merchantID line = some stock) : db.Best merchantID line stock := by
  obtain ⟨hstored, hcandidate⟩ := Table.mem_of_first? h
  have hfirst : ∀ other ∈ db.inventoryItems.rows, db.isCandidate merchantID line.sku line.quantity other = true →
      candidateBefore other stock = false := by
    intro other hother hcandidate
    exact Table.before_firstOf candidateBefore_asymm candidateBefore_trans h other
      (List.mem_filter.mpr ⟨hother, hcandidate⟩)
  simp only [candidateBefore, decide_eq_false_iff_not] at hfirst
  refine ⟨hstored, hcandidate, ?_, ?_⟩
  · intro other hother hcandidate
    have hnot := hfirst other hother hcandidate
    omega
  · intro other hother hcandidate heq
    have hnot := hfirst other hother hcandidate
    omega

theorem Best.choice (h : db.Best merchantID line stock) : db.choice merchantID line = some stock := by
  cases hchoice : db.choice merchantID line with
  | none => exact absurd ⟨stock, h.stored, h.candidate⟩ (choice_eq_none.mp hchoice)
  | some chosen =>
    have hchosen := best_of_choice hchoice
    have hle := h.largest chosen hchosen.stored hchosen.candidate
    have hge := hchosen.largest stock h.stored h.candidate
    have hid := h.earliest chosen hchosen.stored hchosen.candidate (by omega)
    have hid' := hchosen.earliest stock h.stored h.candidate (by omega)
    have hsame : chosen.conflict stock = true := decide_eq_true (.inl (by omega))
    rw [Table.eq_of_conflict InventoryItem.conflict_symm hchosen.stored h.stored hsame]

theorem Best.sku (h : db.Best merchantID line stock) : stock.sku = line.sku := by
  have hcandidate := h.candidate
  simp only [isCandidate, Bool.and_eq_true, decide_eq_true_eq] at hcandidate
  exact hcandidate.1.2

/-! ### One line -/

def reservationRow (source : OutboxEvent) (at' : Time) (line : OrderItemRow) (warehouseID : String) :
    StockReservation :=
  ⟨source.orderID, line.sku, nullableString warehouseID, line.quantity, .reserved, timestamptz at', none⟩

def reservationEntry (line : OrderItemRow) (warehouseID : String) : Value :=
  .obj [("sku", .str line.sku), ("quantity", .num line.quantity), ("warehouse_id", .str warehouseID)]

/-- The tables the loop reads after it has reserved a line from an inventory item. -/
structure LineReserved (source : OutboxEvent) (at' : Time) (line : OrderItemRow) (stock : InventoryItem)
    (db db' : Database) : Prop where
  warehouses : db'.warehouses = db.warehouses
  inventory : db'.inventoryItems.rows = db.inventoryItems.rows.map (InventoryItem.take stock.id line.quantity)
  reservations : db'.stockReservations.rows =
    db.stockReservations.rows ++ [reservationRow source at' line stock.warehouseID]

theorem reservationOf_eq_none {orderID sku : String} : db.reservationOf orderID sku = none ↔
    ∀ row ∈ db.stockReservations.rows, ¬ (row.orderID = orderID ∧ row.sku = sku) := by
  unfold reservationOf Table.find?
  simp

theorem reserveLine_of_choice (at' : Time) (hfree : db.reservationOf source.orderID line.sku = none)
    (hchoice : db.choice source.merchantID line = some stock)
    (hfits : fitsInt4 (stock.reservedQuantity + line.quantity) = true) :
    ∃ db', db.reserveLine source at' line = .ok (reservationEntry line stock.warehouseID, db') ∧
      LineReserved source at' line stock db db' := by
  have hnone := reservationOf_eq_none.mp hfree
  have htake : db.reserveInventoryItem source.merchantID source.orderID line = .ok (stock.warehouseID, { db with
      inventoryItems := db.inventoryItems.update (InventoryItem.take stock.id line.quantity)
        (InventoryItem.conflict_take stock.id line.quantity) }) := by
    unfold choice at hchoice
    simp [reserveInventoryItem, hfree, takeCandidate, hchoice, ensure, hfits, bind, Except.bind, pure, Except.pure]
  have htarget : (db.stockReservations.rows.any fun old => old.orderID = source.orderID && old.sku = line.sku) =
      false := by
    rw [List.any_eq_false]
    intro row hrow
    simpa using hnone row hrow
  obtain ⟨reservations, hinsert⟩ : ∃ reservations, db.stockReservations.insert
      (reservationRow source at' line stock.warehouseID) = some reservations := by
    apply Table.insert_eq_some
    intro row hrow
    exact decide_eq_false (hnone row hrow)
  refine ⟨_, bind_eq_ok.mpr ⟨_, htake, bind_eq_ok.mpr ⟨_, bind_eq_ok.mpr ⟨reservations, ?_, rfl⟩, rfl⟩⟩,
    rfl, rfl, Table.rows_insert hinsert⟩
  apply orViolation_eq_ok.mpr
  rw [Table.upsert, if_neg (by simpa using htarget)]
  exact hinsert

theorem reserveLine_of_none (at' : Time) (hfree : db.reservationOf source.orderID line.sku = none)
    (hchoice : db.choice source.merchantID line = none) : db.reserveLine source at' line =
      .error (.wrap .insufficientStock ("insufficient stock for sku " ++ line.sku)) := by
  unfold choice at hchoice
  simp [reserveLine, reserveInventoryItem, hfree, takeCandidate, hchoice, bind, Except.bind]

variable {other : OrderItemRow}

theorem choice_of_take (hwarehouses : db'.warehouses = db.warehouses)
    (hinventory : db'.inventoryItems.rows = db.inventoryItems.rows.map (InventoryItem.take stock.id line.quantity))
    (hbest : db.Best merchantID line stock) (hsku : other.sku ≠ line.sku) :
    db'.choice merchantID other = db.choice merchantID other := by
  have htake : ∀ item ∈ db.inventoryItems.rows, item.sku ≠ line.sku →
      item.take stock.id line.quantity = item := by
    intro item hitem hother
    rw [InventoryItem.take, if_neg]
    intro hid
    have hsame := Table.eq_of_conflict InventoryItem.conflict_symm hitem hbest.stored (decide_eq_true (.inl hid))
    exact hother (hsame ▸ hbest.sku)
  have hcandidate : db'.isCandidate merchantID other.sku other.quantity =
      db.isCandidate merchantID other.sku other.quantity := by
    funext item
    simp only [isCandidate, hwarehouses]
  rw [Database.choice, Database.choice, Table.first?, Table.first?, hinventory, hcandidate,
    Table.filter_map_of_fixed]
  · intro item hitem
    by_cases hline : item.sku = line.sku
    · have hof : (item.take stock.id line.quantity).sku = item.sku := by
        unfold InventoryItem.take
        split_ifs <;> rfl
      have hne : item.sku ≠ other.sku := by
        intro heq
        exact hsku (heq.symm.trans hline)
      simp [isCandidate, hof, hne]
    · rw [htake item hitem hline]
  · intro item hitem hcandidate
    apply htake item hitem
    intro hline
    simp only [isCandidate, Bool.and_eq_true, decide_eq_true_eq] at hcandidate
    exact hsku (hcandidate.1.2.symm.trans hline)

theorem LineReserved.choice_eq (h : LineReserved source at' line stock db db')
    (hbest : db.Best source.merchantID line stock) (hsku : other.sku ≠ line.sku) :
    db'.choice source.merchantID other = db.choice source.merchantID other :=
  choice_of_take h.warehouses h.inventory hbest hsku

/-! ### All lines -/

def chosenStock (db : Database) (merchantID : String) (line : OrderItemRow) : InventoryItem :=
  (db.choice merchantID line).getD ⟨0, "", "", 0, 0⟩

theorem chosenStock_of_choice (h : db.choice merchantID line = some stock) :
    db.chosenStock merchantID line = stock := by
  rw [chosenStock, h, Option.getD_some]

def chosenWarehouse (db : Database) (merchantID : String) (line : OrderItemRow) : String :=
  (db.chosenStock merchantID line).warehouseID

/-- What the loop over lines of distinct SKUs makes of the stock, read as one simultaneous change. -/
structure Moved (source : OutboxEvent) (at' : Time) (lines : List OrderItemRow) (db : Database) (entries : List Value)
    (db' : Database) : Prop where
  inventory : db'.inventoryItems.rows =
    db.inventoryItems.rows.map fun item => item.move (db.movedQuantity source.merchantID lines item)
  reservations : db'.stockReservations.rows = db.stockReservations.rows ++
    lines.map fun line => reservationRow source at' line (db.chosenWarehouse source.merchantID line)
  entries : entries = lines.map fun line => reservationEntry line (db.chosenWarehouse source.merchantID line)

/-- Lines that can be reserved one after the other: of distinct SKUs, without reservations, and within the range of the
column that counts what is reserved. -/
structure Reservable (source : OutboxEvent) (lines : List OrderItemRow) (db : Database) : Prop where
  skus : (lines.map OrderItemRow.sku).Nodup
  free : ∀ line ∈ lines, db.reservationOf source.orderID line.sku = none
  fits : ∀ line ∈ lines, ∀ stock, db.Best source.merchantID line stock →
    fitsInt4 (stock.reservedQuantity + line.quantity) = true

@[simp] theorem move_zero (item : InventoryItem) : item.move 0 = item := by
  simp [InventoryItem.move]

theorem move_move (item : InventoryItem) (a b : Int) : (item.move a).move b = item.move (a + b) := by
  simp only [InventoryItem.move]
  congr 1 <;> omega

theorem movedQuantity_cons (line : OrderItemRow) (lines : List OrderItemRow) (item : InventoryItem) :
    db.movedQuantity merchantID (line :: lines) item =
      (if (db.choice merchantID line).any (·.id = item.id) then line.quantity else 0) +
        db.movedQuantity merchantID lines item := by
  simp [movedQuantity]

theorem take_eq_move (id : Nat) (quantity : Int) (item : InventoryItem) :
    item.take id quantity = item.move (if item.id = id then quantity else 0) := by
  unfold InventoryItem.take
  split_ifs
  · rfl
  · exact (move_zero item).symm

variable {lines : List OrderItemRow}

variable {entries : List Value}

section Step

variable (h : LineReserved source at' line stock db db') (hbest : db.Best source.merchantID line stock)
  (hother : ∀ other ∈ lines, other.sku ≠ line.sku)

include h hbest hother

theorem LineReserved.movedQuantity_eq (item : InventoryItem) :
    db'.movedQuantity source.merchantID lines item = db.movedQuantity source.merchantID lines item := by
  unfold movedQuantity
  congr 1
  apply List.map_congr_left
  intro other hmem
  rw [h.choice_eq hbest (hother other hmem)]

theorem LineReserved.reservable (hlines : Reservable source (line :: lines) db) : Reservable source lines db' := by
  refine ⟨(List.nodup_cons.mp hlines.skus).2, ?_, ?_⟩
  · intro other hmem
    have hfree := reservationOf_eq_none.mp (hlines.free other (List.mem_cons_of_mem _ hmem))
    apply reservationOf_eq_none.mpr
    intro row hrow
    rw [h.reservations] at hrow
    rcases List.mem_append.mp hrow with hold | hnew
    · exact hfree row hold
    · rw [List.mem_singleton.mp hnew]
      rintro ⟨-, hsku⟩
      exact hother other hmem hsku.symm
  · intro other hmem chosen hchosen
    have hchoice := h.choice_eq hbest (hother other hmem)
    rw [hchosen.choice] at hchoice
    exact hlines.fits other (List.mem_cons_of_mem _ hmem) chosen (best_of_choice hchoice.symm)

theorem LineReserved.inStock_iff (hmem : other ∈ lines) :
    db'.InStock source.merchantID other ↔ db.InStock source.merchantID other := by
  rw [← not_iff_not, ← choice_eq_none, ← choice_eq_none, h.choice_eq hbest (hother other hmem)]

/-- The first line and then the others are all lines at once. -/
theorem LineReserved.moved {db'' : Database} (hrest : Moved source at' lines db' entries db'') :
    Moved source at' (line :: lines) db (reservationEntry line stock.warehouseID :: entries) db'' := by
  have hchoice := hbest.choice
  have hwarehouse : ∀ other ∈ lines, db'.chosenWarehouse source.merchantID other =
      db.chosenWarehouse source.merchantID other := by
    intro other hmem
    rw [chosenWarehouse, chosenWarehouse, chosenStock, chosenStock, h.choice_eq hbest (hother other hmem)]
  constructor
  · rw [hrest.inventory, h.inventory, List.map_map]
    apply List.map_congr_left
    intro item _
    have hid : (item.take stock.id line.quantity).id = item.id := by
      unfold InventoryItem.take
      split_ifs <;> rfl
    have hsame : db'.movedQuantity source.merchantID lines (item.take stock.id line.quantity) =
        db.movedQuantity source.merchantID lines item := by
      rw [h.movedQuantity_eq hbest hother]
      simp only [movedQuantity, hid]
    rw [Function.comp_apply, hsame, take_eq_move, move_move, movedQuantity_cons, hchoice]
    simp [eq_comm]
  · rw [hrest.reservations, h.reservations, List.append_assoc, List.singleton_append, List.map_cons, chosenWarehouse,
      chosenStock_of_choice hchoice]
    congr 2
    apply List.map_congr_left
    intro other hmem
    rw [hwarehouse other hmem]
  · rw [hrest.entries, List.map_cons, chosenWarehouse, chosenStock_of_choice hchoice]
    congr 1
    apply List.map_congr_left
    intro other hmem
    rw [hwarehouse other hmem]

end Step

theorem exists_choice (h : db.InStock merchantID line) : ∃ stock, db.choice merchantID line = some stock := by
  apply Option.ne_none_iff_exists'.mp
  intro hnone
  exact choice_eq_none.mp hnone h

theorem skus_ne_of_nodup (hskus : ((line :: lines).map OrderItemRow.sku).Nodup) :
    (∀ other ∈ lines, other.sku ≠ line.sku) ∧ (lines.map OrderItemRow.sku).Nodup := by
  obtain ⟨hnew, hrest⟩ := List.nodup_cons.mp hskus
  refine ⟨?_, hrest⟩
  intro other hmem heq
  exact hnew (heq ▸ List.mem_map_of_mem hmem)

/-- **Lines in stock are reserved, all at once.** -/
theorem reserveLines_of_inStock (hlines : Reservable source lines db)
    (hstock : ∀ line ∈ lines, db.InStock source.merchantID line) :
    ∃ entries db', reserveLines source at' lines db = .ok (entries, db') ∧ Moved source at' lines db entries db' := by
  induction lines generalizing db with
  | nil =>
    refine ⟨[], db, rfl, ?_, by simp, rfl⟩
    simp [movedQuantity]
  | cons line lines ih =>
    obtain ⟨hother, -⟩ := skus_ne_of_nodup hlines.skus
    obtain ⟨stock, hchoice⟩ := exists_choice (hstock line List.mem_cons_self)
    have hbest := best_of_choice hchoice
    obtain ⟨db₁, hline, hreserved⟩ := reserveLine_of_choice at' (hlines.free line List.mem_cons_self) hchoice
      (hlines.fits line List.mem_cons_self stock hbest)
    obtain ⟨entries, db₂, hrest, hmoved⟩ := ih (hreserved.reservable hbest hother hlines) (by
      intro other hmem
      rw [hreserved.inStock_iff hbest hother hmem]
      exact hstock other (List.mem_cons_of_mem _ hmem))
    exact ⟨_, db₂, bind_eq_ok.mpr ⟨_, hline, bind_eq_ok.mpr ⟨_, hrest, rfl⟩⟩, hreserved.moved hbest hother hmoved⟩

theorem reserveLines_of_not_inStock (hlines : Reservable source lines db)
    (hstock : ¬ ∀ line ∈ lines, db.InStock source.merchantID line) :
    ∃ err, reserveLines source at' lines db = .error err ∧ err.is .insufficientStock = true := by
  induction lines generalizing db with
  | nil => simp at hstock
  | cons line lines ih =>
    obtain ⟨hother, -⟩ := skus_ne_of_nodup hlines.skus
    cases hchoice : db.choice source.merchantID line with
    | none =>
      have hline := reserveLine_of_none at' (hlines.free line List.mem_cons_self) hchoice
      exact ⟨_, by simp only [reserveLines, hline]; rfl, rfl⟩
    | some stock =>
      have hbest := best_of_choice hchoice
      obtain ⟨db₁, hline, hreserved⟩ := reserveLine_of_choice at' (hlines.free line List.mem_cons_self) hchoice
        (hlines.fits line List.mem_cons_self stock hbest)
      obtain ⟨err, hrest, herr⟩ := ih (hreserved.reservable hbest hother hlines) (by
        intro hall
        apply hstock
        refine List.forall_mem_cons.mpr ⟨⟨stock, hbest.stored, hbest.candidate⟩, ?_⟩
        intro other hmem
        exact (hreserved.inStock_iff hbest hother hmem).mp (hall other hmem))
      exact ⟨err, by simp only [reserveLines, hline, hrest, bind, Except.bind], herr⟩

/-! ### The transaction -/

/-- The event of a reservation with the given entries. -/
def reservedEvent (next : OutboxEvent) (entries : List Value) : OutboxEvent :=
  { next with payload := [("order_status", .str OrderStatus.inventoryReserved.text), ("reservations", .arr entries)] }

variable {next : OutboxEvent} {audit : AuditLog}

/-- A reservation of an order that is waiting for it, with the event a worker brings: it names a stored order, has an
id that no event has and an instant that can be written. -/
structure Pending (source next : OutboxEvent) (db : Database) : Prop where
  waiting : ∃ row, db.order? source.orderID = some row ∧ row.status = .pendingFulfillment
  lines : db.itemsOf source.orderID ≠ []
  named : (db.order? next.orderID).isSome = true
  fresh : ∀ event ∈ db.outboxEvents.rows, event.messageID ≠ next.messageID
  encodable : next.occurredAt.encodable = true

/-- The result of the call and the database after it. -/
abbrev reservation (source next : OutboxEvent) (audit : AuditLog) (db : Database) : Except Error Unit × Database :=
  semantics db (.projector (.recordInventoryReserved source next audit))

/-- The order and its lines marked as reserved. -/
def markReserved (source next : OutboxEvent) (reserved : Database) : Database :=
  (reserved.markOrderItems source.orderID fun _ => .reserved).updateOrder source.orderID fun o =>
    { o with status := .inventoryReserved, updatedAt := timestamptz next.occurredAt }

theorem recordInventoryReserved_of_ok (h : Pending source next db) {reserved : Database}
    (hlines : reserveLines source next.occurredAt (db.itemsOf source.orderID) db = .ok (entries, reserved)) :
    ∃ outboxEvents, outboxEvents.rows = db.outboxEvents.rows ++ [(reservedEvent next entries).withEnvelopeDefaults] ∧
      reservation source next audit db =
        (.ok (), { reserved.markReserved source next with
          outboxEvents := outboxEvents, auditLogs := db.auditLogs ++ [audit] }) := by
  obtain ⟨row, hrow, hstatus⟩ := h.waiting
  obtain ⟨-, hid⟩ := order?_eq_some hrow
  have hstatements : (Transaction.inventoryReserved source next).statements db row =
      .ok (some (reservedEvent next entries), reserved.markReserved source next) := by
    simp only [Transaction.inventoryReserved, orderItemsForReservation, hid, if_neg h.lines, hlines, bind, Except.bind,
      pure, Except.pure]
    rfl
  obtain ⟨inventoryItems, stockReservations, hframe⟩ := reserveLines_frame hlines
  have hnamed : ((reserved.markReserved source next).order? next.orderID).isSome = true := by
    obtain ⟨f, horder⟩ : ∃ f, (reserved.markReserved source next).order? next.orderID =
        (db.order? next.orderID).map f := by
      rw [hframe]
      exact ⟨_, order?_of_setColumns next.orderID rfl⟩
    rw [horder, Option.isSome_map]
    exact h.named
  have hfresh : ∀ event ∈ (reserved.markReserved source next).outboxEvents.rows,
      event.messageID ≠ (reservedEvent next entries).messageID := by
    rw [hframe]
    exact h.fresh
  obtain ⟨outboxEvents, hinserted⟩ := insertOutboxEvent_succeeds _ (reservedEvent next entries) h.encodable
    hfresh hnamed
  obtain ⟨table, -, hinsert, -, htable⟩ := insertOutboxEvent_eq_ok hinserted
  obtain rfl : outboxEvents = table := congrArg Database.outboxEvents htable
  have htransact : db.transact source.orderID (.inventoryReserved source next) audit =
      .ok (insertAuditLog { reserved.markReserved source next with outboxEvents := outboxEvents } audit) := by
    refine transact_eq_ok.mpr ⟨row, _, _, _, hrow, ?_, hstatements, hinserted, rfl⟩
    rintro target htarget
    cases htarget
    rw [hstatus]
    rfl
  subst hframe
  refine ⟨outboxEvents, Table.rows_insert hinsert, ?_⟩
  simp only [reservation, semantics, projector, recordInventoryReserved, htransact, Except.map, commit]
  rfl

theorem recordInventoryReserved_of_error (h : Pending source next db) {err : Error}
    (hlines : reserveLines source next.occurredAt (db.itemsOf source.orderID) db = .error err) :
    reservation source next audit db = (.error err, db) := by
  obtain ⟨row, hrow, hstatus⟩ := h.waiting
  obtain ⟨-, hid⟩ := order?_eq_some hrow
  have htarget : MemoryStore.checkTarget row.status (some .inventoryReserved) = .ok () := by
    rw [hstatus]
    rfl
  simp [reservation, semantics, projector, recordInventoryReserved, transact, lockOrderForUpdate, hrow,
    Transaction.inventoryReserved, htarget, orderItemsForReservation, hid, h.lines, hlines, bind, Except.bind, commit,
    Except.map]

/-- Lines in stock are reserved in one transaction, which marks the order and its lines and adds the event. -/
theorem recordInventoryReserved_moved (audit : AuditLog) (h : Pending source next db)
    (hlines : Reservable source (db.itemsOf source.orderID) db)
    (hstock : ∀ line ∈ db.itemsOf source.orderID, db.InStock source.merchantID line) :
    ∃ entries db', reservation source next audit db = (.ok (), db') ∧
      Moved source next.occurredAt (db.itemsOf source.orderID) db entries db' ∧
      db'.outboxEvents.rows = db.outboxEvents.rows ++ [(reservedEvent next entries).withEnvelopeDefaults] ∧
      db' = { db.markReserved source next with
        inventoryItems := db'.inventoryItems
        stockReservations := db'.stockReservations
        outboxEvents := db'.outboxEvents
        auditLogs := db.auditLogs ++ [audit] } := by
  obtain ⟨entries, reserved, hreserved, hmoved⟩ := reserveLines_of_inStock hlines hstock
  obtain ⟨outboxEvents, hevents, hsemantics⟩ := recordInventoryReserved_of_ok h hreserved
  obtain ⟨inventoryItems, stockReservations, rfl⟩ := reserveLines_frame hreserved
  exact ⟨entries, _, hsemantics, ⟨hmoved.inventory, hmoved.reservations, hmoved.entries⟩, hevents, rfl⟩

theorem recordInventoryReserved_refused (audit : AuditLog) (h : Pending source next db)
    (hlines : Reservable source (db.itemsOf source.orderID) db)
    (hstock : ¬ ∀ line ∈ db.itemsOf source.orderID, db.InStock source.merchantID line) :
    ∃ err, reservation source next audit db = (.error err, db) ∧
      err.is .insufficientStock = true := by
  obtain ⟨err, hreserved, hinsufficient⟩ := reserveLines_of_not_inStock hlines hstock
  exact ⟨err, recordInventoryReserved_of_error h hreserved, hinsufficient⟩

/-! ### What the lines take -/

/-- Every line is reserved in full from the inventory item that is best for it, nothing else is taken, and the
reservation and the event name the warehouse. -/
structure FullyReserved (source next : OutboxEvent) (stockOf : OrderItemRow → InventoryItem)
    (moved : InventoryItem → InventoryItem) (db db' : Database) : Prop where
  best : ∀ line ∈ db.itemsOf source.orderID, db.Best source.merchantID line (stockOf line)
  inventory : db'.inventoryItems.rows = db.inventoryItems.rows.map moved
  taken : ∀ line ∈ db.itemsOf source.orderID, moved (stockOf line) = (stockOf line).move line.quantity
  kept : ∀ item ∈ db.inventoryItems.rows, (∀ line ∈ db.itemsOf source.orderID, stockOf line ≠ item) → moved item = item
  reservations : db'.stockReservations.rows = db.stockReservations.rows ++ (db.itemsOf source.orderID).map fun line =>
    ⟨source.orderID, line.sku, some (stockOf line).warehouseID, line.quantity, .reserved,
      timestamptz next.occurredAt, none⟩
  announced : db'.outboxEvents.rows = db.outboxEvents.rows ++ [(reservedEvent next
    ((db.itemsOf source.orderID).map fun line =>
      reservationEntry line (stockOf line).warehouseID)).withEnvelopeDefaults]

theorem any_choice_iff {item : InventoryItem} (hitem : item ∈ db.inventoryItems.rows) :
    (db.choice merchantID line).any (·.id = item.id) = true ↔ db.Best merchantID line item := by
  constructor
  · intro hany
    cases hchoice : db.choice merchantID line with
    | none => simp [hchoice] at hany
    | some chosen =>
      have hbest := best_of_choice hchoice
      have hid : chosen.id = item.id := by simpa [hchoice] using hany
      rwa [← Table.eq_of_conflict InventoryItem.conflict_symm hbest.stored hitem (decide_eq_true (.inl hid))]
  · intro hbest
    simp [hbest.choice]

theorem movedQuantity_eq_zero {item : InventoryItem} (hitem : item ∈ db.inventoryItems.rows)
    (h : ∀ line ∈ lines, ¬ db.Best merchantID line item) : db.movedQuantity merchantID lines item = 0 := by
  induction lines with
  | nil => rfl
  | cons line lines ih =>
    have hline := h line List.mem_cons_self
    rw [← any_choice_iff hitem] at hline
    rw [movedQuantity_cons, if_neg hline, ih fun other hmem => h other (List.mem_cons_of_mem _ hmem), Int.zero_add]

theorem Best.movedQuantity_eq (hskus : (lines.map OrderItemRow.sku).Nodup) (hline : line ∈ lines)
    (hbest : db.Best merchantID line stock) : db.movedQuantity merchantID lines stock = line.quantity := by
  induction lines with
  | nil => cases hline
  | cons first lines ih =>
    obtain ⟨hnew, hrest⟩ := List.nodup_cons.mp hskus
    rw [movedQuantity_cons]
    rcases List.mem_cons.mp hline with rfl | hmem
    · have hzero : db.movedQuantity merchantID lines stock = 0 := by
        apply movedQuantity_eq_zero hbest.stored
        intro other hother hsame
        exact hnew (List.mem_map.mpr ⟨other, hother, hsame.sku.symm.trans hbest.sku⟩)
      rw [if_pos ((any_choice_iff hbest.stored).mpr hbest), hzero, Int.add_zero]
    · have hfirst : ¬ db.Best merchantID first stock := by
        intro hsame
        exact hnew (List.mem_map.mpr ⟨line, hmem, hbest.sku.symm.trans hsame.sku⟩)
      rw [← any_choice_iff hbest.stored] at hfirst
      rw [if_neg hfirst, ih hrest hmem, Int.zero_add]

/-! ### The order of the lines -/

theorem movedQuantity_perm (db : Database) {lines' : List OrderItemRow} (h : lines'.Perm lines)
    (item : InventoryItem) : db.movedQuantity merchantID lines' item = db.movedQuantity merchantID lines item := by
  unfold movedQuantity
  exact (h.map _).sum_eq

/-- Databases that differ in the order of the rows of some tables, and of the entries of one event. -/
structure SameButForOrder (next : OutboxEvent) (db db₁ db₂ : Database) : Prop where
  tables : db₂ = { db₁ with
    orderItems := db₂.orderItems, stockReservations := db₂.stockReservations, outboxEvents := db₂.outboxEvents }
  orderItems : db₂.orderItems.rows.Perm db₁.orderItems.rows
  reservations : db₂.stockReservations.rows.Perm db₁.stockReservations.rows
  events : ∃ entries₁ entries₂ : List Value, entries₂.Perm entries₁ ∧
    db₁.outboxEvents.rows = db.outboxEvents.rows ++ [(reservedEvent next entries₁).withEnvelopeDefaults] ∧
    db₂.outboxEvents.rows = db.outboxEvents.rows ++ [(reservedEvent next entries₂).withEnvelopeDefaults]

section Reordered

variable {orderItems : Table OrderItemRow OrderItemRow.conflict} (horder : orderItems.rows.Perm db.orderItems.rows)

include horder

theorem itemsOf_perm (orderID : String) :
    (Database.itemsOf { db with orderItems := orderItems } orderID).Perm (db.itemsOf orderID) :=
  horder.filter _

theorem Pending.reordered (h : Pending source next db) : Pending source next { db with orderItems := orderItems } := by
  refine ⟨h.waiting, ?_, h.named, h.fresh, h.encodable⟩
  intro hnil
  have hperm := itemsOf_perm horder source.orderID
  rw [hnil] at hperm
  exact h.lines hperm.nil_eq.symm

theorem Reservable.reordered (h : Reservable source (db.itemsOf source.orderID) db) :
    Reservable source (Database.itemsOf { db with orderItems := orderItems } source.orderID)
      { db with orderItems := orderItems } := by
  have hperm := itemsOf_perm horder source.orderID
  refine ⟨(hperm.map _).nodup_iff.mpr h.skus, ?_, ?_⟩
  · intro line hline
    exact h.free line (hperm.mem_iff.mp hline)
  · intro line hline stock hbest
    exact h.fits line (hperm.mem_iff.mp hline) stock ⟨hbest.stored, hbest.candidate, hbest.largest, hbest.earliest⟩

/-- The order of the lines shows in nothing but the order of what is written for each of them. -/
theorem recordInventoryReserved_reordered (audit : AuditLog) (h : Pending source next db)
    (hlines : Reservable source (db.itemsOf source.orderID) db)
    (hstock : ∀ line ∈ db.itemsOf source.orderID, db.InStock source.merchantID line) :
    SameButForOrder next db (reservation source next audit db).2
      (reservation source next audit { db with orderItems := orderItems }).2 := by
  have hperm := itemsOf_perm horder source.orderID
  obtain ⟨entries₁, db₁, hsemantics₁, hmoved₁, hevents₁, hframe₁⟩ := recordInventoryReserved_moved audit h hlines hstock
  obtain ⟨entries₂, db₂, hsemantics₂, hmoved₂, hevents₂, hframe₂⟩ := recordInventoryReserved_moved audit
    (h.reordered horder) (hlines.reordered horder) (by
      intro line hline
      exact hstock line (hperm.mem_iff.mp hline))
  rw [hsemantics₁, hsemantics₂]
  have hinventory : db₂.inventoryItems = db₁.inventoryItems := by
    apply Table.ext
    rw [hmoved₂.inventory, hmoved₁.inventory]
    apply List.map_congr_left
    intro item _
    exact congrArg item.move (movedQuantity_perm db hperm item)
  refine ⟨?_, ?_, ?_, entries₁, entries₂, ?_, hevents₁, hevents₂⟩
  · rw [hframe₂, hframe₁, hinventory]
    rfl
  · rw [hframe₂, hframe₁]
    exact horder.map _
  · rw [hmoved₂.reservations, hmoved₁.reservations]
    exact (hperm.map _).append_left _
  · rw [hmoved₂.entries, hmoved₁.entries]
    exact hperm.map _

end Reordered

/-! ### The reservation of an order -/

theorem reservationRow_of_ne {warehouseID : String} (h : warehouseID ≠ "") :
    reservationRow source at' line warehouseID =
      ⟨source.orderID, line.sku, some warehouseID, line.quantity, .reserved, timestamptz at', none⟩ := by
  rw [reservationRow, nullableString, if_neg h]

theorem Moved.fullyReserved (hskus : ((db.itemsOf source.orderID).map OrderItemRow.sku).Nodup)
    (hstock : ∀ line ∈ db.itemsOf source.orderID, db.InStock source.merchantID line)
    (hwarehouse : ∀ line ∈ db.itemsOf source.orderID, ∀ stock, db.Best source.merchantID line stock →
      stock.warehouseID ≠ "")
    (hmoved : Moved source next.occurredAt (db.itemsOf source.orderID) db entries db')
    (hevents : db'.outboxEvents.rows = db.outboxEvents.rows ++ [(reservedEvent next entries).withEnvelopeDefaults]) :
    ∃ stockOf moved, FullyReserved source next stockOf moved db db' := by
  have hbest : ∀ line ∈ db.itemsOf source.orderID,
      db.Best source.merchantID line (db.chosenStock source.merchantID line) := by
    intro line hline
    obtain ⟨stock, hchoice⟩ := exists_choice (hstock line hline)
    rw [chosenStock_of_choice hchoice]
    exact best_of_choice hchoice
  refine ⟨db.chosenStock source.merchantID,
    fun item => item.move (db.movedQuantity source.merchantID (db.itemsOf source.orderID) item),
    hbest, hmoved.inventory, ?_, ?_, ?_, ?_⟩
  · intro line hline
    exact congrArg (InventoryItem.move _) ((hbest line hline).movedQuantity_eq hskus hline)
  · intro item hitem hnone
    have hzero := movedQuantity_eq_zero hitem (by
      intro line hline hsame
      apply hnone line hline
      exact Option.some.inj ((hbest line hline).choice.symm.trans hsame.choice))
    exact (congrArg item.move hzero).trans (move_zero item)
  · rw [hmoved.reservations]
    congr 1
    apply List.map_congr_left
    intro line hline
    exact reservationRow_of_ne (hwarehouse line hline _ (hbest line hline))
  · rw [hevents, hmoved.entries]
    rfl

/-- **Reservation is all-or-nothing, complete and independent of the order of the lines.** -/
theorem recordInventoryReserved_complete (audit : AuditLog) (h : Pending source next db)
    (hlines : Reservable source (db.itemsOf source.orderID) db)
    (hwarehouse : ∀ line ∈ db.itemsOf source.orderID, ∀ stock, db.Best source.merchantID line stock →
      stock.warehouseID ≠ "") :
    ((reservation source next audit db).1 = .ok () ↔
        ∀ line ∈ db.itemsOf source.orderID, db.InStock source.merchantID line) ∧
      ((reservation source next audit db).1 = .ok () →
        ∃ stockOf moved, FullyReserved source next stockOf moved db (reservation source next audit db).2) ∧
      (∀ err, (reservation source next audit db).1 = .error err →
        err.is .insufficientStock = true ∧ (reservation source next audit db).2 = db) ∧
      ∀ orderItems : Table OrderItemRow OrderItemRow.conflict, orderItems.rows.Perm db.orderItems.rows →
        ((reservation source next audit { db with orderItems := orderItems }).1 = .ok () ↔
          (reservation source next audit db).1 = .ok ()) ∧
        ((reservation source next audit db).1 = .ok () → SameButForOrder next db (reservation source next audit db).2
          (reservation source next audit { db with orderItems := orderItems }).2) := by
  have hreserves : ∀ db, Pending source next db → Reservable source (db.itemsOf source.orderID) db →
      ((reservation source next audit db).1 = .ok () ↔
        ∀ line ∈ db.itemsOf source.orderID, db.InStock source.merchantID line) := by
    intro db h hlines
    constructor
    · intro hok
      by_contra hstock
      obtain ⟨err, hsemantics, -⟩ := recordInventoryReserved_refused audit h hlines hstock
      rw [hsemantics] at hok
      cases hok
    · intro hstock
      obtain ⟨_, _, hsemantics, -⟩ := recordInventoryReserved_moved audit h hlines hstock
      rw [hsemantics]
  refine ⟨hreserves db h hlines, ?_, ?_, ?_⟩
  · intro hok
    have hstock := (hreserves db h hlines).mp hok
    obtain ⟨entries, db', hsemantics, hmoved, hevents, -⟩ := recordInventoryReserved_moved audit h hlines hstock
    rw [hsemantics]
    exact hmoved.fullyReserved hlines.skus hstock hwarehouse hevents
  · intro err herr
    have hstock : ¬ ∀ line ∈ db.itemsOf source.orderID, db.InStock source.merchantID line := by
      rw [← hreserves db h hlines]
      intro hok
      cases herr.symm.trans hok
    obtain ⟨err', hsemantics, hinsufficient⟩ := recordInventoryReserved_refused audit h hlines hstock
    rw [hsemantics] at herr ⊢
    cases herr
    exact ⟨hinsufficient, rfl⟩
  · intro orderItems horder
    constructor
    · rw [hreserves db h hlines, hreserves _ (h.reordered horder) (hlines.reordered horder)]
      have hperm := itemsOf_perm horder source.orderID
      constructor
      · intro hstock line hline
        exact hstock line (hperm.mem_iff.mpr hline)
      · intro hstock line hline
        exact hstock line (hperm.mem_iff.mp hline)
    · intro hok
      exact recordInventoryReserved_reordered horder audit h hlines ((hreserves db h hlines).mp hok)

/-! ### A shop -/

def shopOrder : OrderRow where
  orderID := "ord_1"
  merchantID := "m1"
  externalOrderID := "external-1"
  status := .pendingFulfillment
  currency := "EUR"
  subtotalAmount := 1000
  shippingAmount := 0
  totalAmount := 1000
  paymentProvider := none
  paymentStatus := none
  paymentAuthorizationID := none
  paymentCredentialRef := none
  shippingAddressRef := none
  createdAt := 1000
  updatedAt := 1000

def shopStock (warehouseID : String) (reserved : Int) : List InventoryItem :=
  [⟨1, warehouseID, "sku-a", 5, reserved⟩, ⟨2, warehouseID, "sku-b", 5, 0⟩]

theorem shopStock_distinct (warehouseID : String) (reserved : Int) :
    (shopStock warehouseID reserved).Pairwise fun a b => a.conflict b = false := by
  simp [shopStock, InventoryItem.conflict]

theorem shopWarehouse_distinct (warehouseID : String) :
    ([⟨warehouseID, "m1", .active⟩] : List Warehouse).Pairwise fun a b => decide (a.id = b.id) = false :=
  List.pairwise_singleton _ _

/-- A warehouse with five units each of two SKUs and an order that is waiting for its stock. -/
def shop (warehouseID : String) (reserved : Int) (orderItems : Table OrderItemRow OrderItemRow.conflict) :
    Database where
  merchants := ["m1"]
  warehouses := ⟨[⟨warehouseID, "m1", .active⟩], shopWarehouse_distinct warehouseID⟩
  inventoryItems := ⟨shopStock warehouseID reserved, shopStock_distinct warehouseID reserved⟩
  orders := ⟨[shopOrder], List.pairwise_singleton _ _⟩
  orderItems := orderItems
  idempotencyKeys := .empty
  stockReservations := .empty
  paymentAuthorizations := .empty
  shipments := .empty
  notificationEvents := .empty
  compensationEvents := .empty
  outboxEvents := .empty
  auditLogs := []

def shopLine (sku : String) : OrderItemRow := ⟨"ord_1", sku, 5, 100, "EUR", .pending⟩

def oneLine : Table OrderItemRow OrderItemRow.conflict := ⟨[shopLine "sku-a"], List.pairwise_singleton _ _⟩

def twoLines : Table OrderItemRow OrderItemRow.conflict := ⟨[shopLine "sku-a", shopLine "sku-b"], by decide⟩

def swappedLines : Table OrderItemRow OrderItemRow.conflict := ⟨[shopLine "sku-b", shopLine "sku-a"], by decide⟩

def shopCreated : OutboxEvent :=
  ⟨"msg_1", .orderCreated, 1, 1000, "api", "m1", "ord_1", "corr-1", "msg_1", []⟩

def shopNext : OutboxEvent :=
  ⟨"msg_2", .inventoryReserved, 1, 2000, "worker", "m1", "ord_1", "corr-1", "msg_1", []⟩

def shopAudit : AuditLog :=
  ⟨"m1", "ord_1", "worker", "inventory", "inventory.reserved", "corr-1", 2000, []⟩

/-- The reservation of the shop's order by the inventory worker. -/
abbrev shopReservation (db : Database) : Except Error Unit × Database :=
  reservation shopCreated shopNext shopAudit db

/-- The order of the shop is reserved, with its lines in either order. -/
theorem recordInventoryReserved_complete_shop :
    (shopReservation (shop "w1" 0 twoLines)).1 = .ok () ∧
      SameButForOrder shopNext (shop "w1" 0 twoLines) (shopReservation (shop "w1" 0 twoLines)).2
        (shopReservation (shop "w1" 0 swappedLines)).2 := by
  have hpending : Pending shopCreated shopNext (shop "w1" 0 twoLines) :=
    ⟨⟨shopOrder, rfl, rfl⟩, by decide, rfl, by decide, by decide⟩
  have hfits : ∀ line ∈ (shop "w1" 0 twoLines).itemsOf "ord_1", ∀ stock ∈ (shop "w1" 0 twoLines).inventoryItems.rows,
      fitsInt4 (stock.reservedQuantity + line.quantity) = true := by decide
  have hnamed : ∀ stock ∈ (shop "w1" 0 twoLines).inventoryItems.rows, stock.warehouseID ≠ "" := by decide
  have hreservable : Reservable shopCreated ((shop "w1" 0 twoLines).itemsOf "ord_1") (shop "w1" 0 twoLines) := by
    refine ⟨by decide, by decide, ?_⟩
    intro line hline stock hbest
    exact hfits line hline stock hbest.stored
  have hcomplete := recordInventoryReserved_complete shopAudit hpending hreservable (by
    intro _ _ stock hbest
    exact hnamed stock hbest.stored)
  have hok : (shopReservation (shop "w1" 0 twoLines)).1 = .ok () := rfl
  exact ⟨hok, (hcomplete.2.2.2 swappedLines (.swap _ _ _)).2 hok⟩

/-- An order without lines is not found, stock that would count more reserved units than the column holds is not
reserved, a warehouse without a name is not recorded, and the event lists the lines in their order. -/
theorem recordInventoryReserved_incomplete :
    (shopReservation (shop "w1" 0 .empty)).1 = .error errNotFound ∧
      ((∀ line ∈ oneLine.rows, (shop "w1" (2 ^ 31 - 1) oneLine).InStock "m1" line) ∧
        ∃ err, (shopReservation (shop "w1" (2 ^ 31 - 1) oneLine)).1 = .error err ∧ err.is .insufficientStock = false) ∧
      ((shopReservation (shop "" 0 oneLine)).1 = .ok () ∧
        (shopReservation (shop "" 0 oneLine)).2.stockReservations.rows.map StockReservation.warehouseID = [none]) ∧
      swappedLines.rows.Perm twoLines.rows ∧
      (shopReservation (shop "w1" 0 swappedLines)).2.outboxEvents.rows ≠
        (shopReservation (shop "w1" 0 twoLines)).2.outboxEvents.rows := by
  refine ⟨rfl, ⟨by decide, _, rfl, rfl⟩, ⟨rfl, by decide +kernel⟩, .swap _ _ _, ?_⟩
  intro heq
  have hentries := congrArg (List.map OutboxEvent.payload) heq
  change [[_, ("reservations", Value.arr [reservationEntry (shopLine "sku-b") "w1", _])]] =
    [[_, ("reservations", Value.arr [reservationEntry (shopLine "sku-a") "w1", _])]] at hentries
  simp [reservationEntry, shopLine] at hentries

end Database

end FulfillHub
