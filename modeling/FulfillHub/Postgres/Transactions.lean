import FulfillHub.Postgres.Store

/-!
# What a transaction does

Every call of the store fails and changes nothing, reads, inserts an order, or is a transaction on the
row it locks. `semantics_outcome` says so once; what the statements of a transaction write is said per
statement, as the database before with the tables that changed.
-/

namespace FulfillHub

open Relational

variable {orderID : String}

theorem ensure_eq_ok {ok : Bool} {err : Error} {u : Unit} : ensure ok err = .ok u ↔ ok = true := by
  unfold ensure
  split_ifs with h <;> simp [h]

theorem orViolation_eq_ok {α : Type} {context constraint : String} {o : Option α} {a : α} :
    orViolation context constraint o = .ok a ↔ o = some a := by
  cases o <;> simp [orViolation]

theorem mapError_eq_ok {ε ε' α : Type} {f : ε → ε'} {x : Except ε α} {a : α} : x.mapError f = .ok a ↔ x = .ok a := by
  cases x <;> simp [Except.mapError]

namespace Database

variable {db db' : Database}

theorem order?_eq_some {row : OrderRow} (h : db.order? orderID = some row) :
    row ∈ db.orders.rows ∧ row.orderID = orderID :=
  ⟨List.mem_of_find?_eq_some h, by simpa using List.find?_some h⟩

theorem lockOrderForUpdate_eq_ok {row : OrderRow} :
    db.lockOrderForUpdate orderID = .ok row ↔ db.order? orderID = some row := by
  unfold lockOrderForUpdate
  cases db.order? orderID <;> simp

theorem insertOutboxEvent_eq_ok {event : OutboxEvent} (h : db.insertOutboxEvent event = .ok db') :
    ∃ outboxEvents, event.occurredAt.encodable = true ∧
      db.outboxEvents.insert event.withEnvelopeDefaults = some outboxEvents ∧
      (db.order? event.orderID).isSome = true ∧ db' = { db with outboxEvents := outboxEvents } := by
  simp only [insertOutboxEvent, bind_eq_ok, orViolation_eq_ok, ensure_eq_ok, pure, Except.pure,
    Except.ok.injEq] at h
  obtain ⟨_, hencodable, outboxEvents, hinsert, _, horder, rfl⟩ := h
  exact ⟨outboxEvents, hencodable, hinsert, horder, rfl⟩

/-- The insertion of the next event touches the outbox alone. -/
theorem insertNext_eq_ok {event : Option OutboxEvent} (h : db.insertNext event = .ok db') :
    ∃ outboxEvents, db' = { db with outboxEvents := outboxEvents } ∧
      outboxEvents.rows = db.outboxEvents.rows ++ event.toList.map OutboxEvent.withEnvelopeDefaults := by
  cases event with
  | none =>
    cases h
    exact ⟨db.outboxEvents, rfl, by simp⟩
  | some event =>
    obtain ⟨outboxEvents, -, hinsert, -, rfl⟩ := insertOutboxEvent_eq_ok h
    exact ⟨outboxEvents, rfl, Table.rows_insert hinsert⟩

/-- A transaction succeeds when the order exists and may move, and its statements succeed. -/
theorem transact_eq_ok {tx : Transaction} {audit : AuditLog} :
    db.transact orderID tx audit = .ok db' ↔ ∃ row event written inserted, db.order? orderID = some row ∧
      (∀ next, tx.target = some next → canTransitionOrderStatus row.status next = true) ∧
      tx.statements db row = .ok (event, written) ∧ written.insertNext event = .ok inserted ∧
      db' = inserted.insertAuditLog audit := by
  simp only [transact, bind_eq_ok, lockOrderForUpdate_eq_ok, pure, Except.pure, Except.ok.injEq]
  constructor
  · rintro ⟨row, hrow, _, htarget, ⟨event, written⟩, hstatements, inserted, hinserted, rfl⟩
    exact ⟨row, event, written, inserted, hrow, MemoryStore.checkTarget_eq_ok.mp htarget, hstatements,
      hinserted, rfl⟩
  · rintro ⟨row, event, written, inserted, hrow, htarget, hstatements, hinserted, rfl⟩
    exact ⟨row, hrow, (), MemoryStore.checkTarget_eq_ok.mpr htarget, ⟨event, written⟩, hstatements,
      inserted, hinserted, rfl⟩

end Database

/-- The transaction a projector call executes. -/
def ProjectorCall.transaction : ProjectorCall → Transaction
  | .recordInventoryReserved source next _ => .inventoryReserved source next
  | .recordInventoryRejected _ next audit => .inventoryRejected next audit
  | .recordPaymentAuthorized source next payment _ => .paymentAuthorized source next payment
  | .recordPaymentFailed _ next audit => .paymentFailed next audit
  | .recordShipmentCreated source next shipment _ => .shipmentCreated source next shipment
  | .recordShipmentFailed _ next audit => .shipmentFailed next audit
  | .recordOrderCancelled _ next audit => .orderCancelled next audit
  | .recordNotificationQueued source audit => .notificationQueued source audit
  | .recordCompensation source status audit => .compensation source status audit

/-- The order a call locks, and its transaction. -/
def StoreCall.transaction : StoreCall → Option (String × Transaction)
  | .updateOrderStatus orderID status now event audit =>
    some (orderID, .updateOrderStatus status now event audit)
  | .projector c => some (c.source.orderID, c.transaction)
  | .insertOrder .. | .getOrder _ => none

namespace Database

/-- What a call can do to the database. -/
inductive Outcome (db : Database) : (c : StoreCall) → Except Error c.Result → Database → Prop
  | failed (c : StoreCall) (err : Error) : Outcome db c (.error err) db
  | idle (c : StoreCall) (r : c.Result) (hevent : c.emitted r = none) (htx : c.transaction = none) :
      Outcome db c (.ok r) db
  | inserted (merchantID idempotencyKey : String) (order : Order) (event : OutboxEvent) (audit : AuditLog)
      (db' : Database) (hlookup : db.orderByIdempotency merchantID idempotencyKey = none)
      (hinsert : db.insertNewOrder merchantID idempotencyKey order event audit = .ok db') :
      Outcome db (.insertOrder merchantID idempotencyKey order event audit) (.ok (some order, false)) db'
  | transacted (c : StoreCall) (r : c.Result) (orderID : String) (tx : Transaction) (audit : AuditLog)
      (row : OrderRow) (event : Option OutboxEvent) (written inserted : Database)
      (htx : c.transaction = some (orderID, tx)) (hrow : db.order? orderID = some row)
      (htarget : ∀ next, tx.target = some next → canTransitionOrderStatus row.status next = true)
      (hstatements : tx.statements db row = .ok (event, written))
      (hinserted : written.insertNext event = .ok inserted) :
      Outcome db c (.ok r) (inserted.insertAuditLog audit)

variable {db db' : Database}

theorem transact_outcome {c : ProjectorCall} (audit : AuditLog) {x : Except Error Database}
    (hx : db.transact c.source.orderID c.transaction audit = x) :
    Outcome db (.projector c) (db.commit (x.map fun db => ((), db))).1
      (db.commit (x.map fun db => ((), db))).2 := by
  cases x with
  | error err => exact .failed (.projector c) err
  | ok db' =>
    obtain ⟨row, event, written, inserted, hrow, htarget, hstatements, hinserted, rfl⟩ := transact_eq_ok.mp hx
    exact .transacted (.projector c) () _ _ audit row event written inserted rfl hrow htarget hstatements
      hinserted

theorem semantics_outcome (db : Database) (c : StoreCall) : Outcome db c (semantics db c).1 (semantics db c).2 := by
  cases c with
  | insertOrder merchantID idempotencyKey order event audit =>
    simp only [semantics, insertOrder]
    split
    · cases db.getOrderTx _ with
      | error err => exact .failed _ err
      | ok stored =>
        exact .idle (.insertOrder merchantID idempotencyKey order event audit) (some stored, true) rfl rfl
    · rename_i hlookup
      cases hinsert : db.insertNewOrder merchantID idempotencyKey order event audit with
      | error err => exact .failed _ err
      | ok db' => exact .inserted _ _ _ _ _ db' hlookup hinsert
  | getOrder orderID =>
    simp only [semantics]
    cases db.getOrderTx orderID with
    | error err => exact .failed _ err
    | ok order => exact .idle (.getOrder orderID) order rfl rfl
  | updateOrderStatus orderID status now event audit =>
    simp only [semantics, updateOrderStatus]
    cases htransact : db.transact orderID (.updateOrderStatus status now event audit) audit with
    | error err => exact .failed _ err
    | ok db' =>
      obtain ⟨row, event', written, inserted, hrow, htarget, hstatements, hinserted, rfl⟩ :=
        transact_eq_ok.mp htransact
      cases hread : (inserted.insertAuditLog audit).getOrderTx orderID with
      | error err =>
        simp only [bind, Except.bind, hread]
        exact .failed _ err
      | ok order =>
        simp only [bind, Except.bind, hread]
        exact .transacted (.updateOrderStatus orderID status now event audit) order orderID _ audit row
          event' written inserted rfl hrow htarget hstatements hinserted
  | projector c => cases c <;> exact transact_outcome _ rfl

/-! ### Statements -/

/-- The stock a line is given: what the order already holds, or that of a candidate. -/
inductive Reserves (db : Database) (merchantID orderID : String) (item : OrderItemRow) (warehouseID : String)
    (db' : Database) : Prop
  | held (existing : StockReservation) (hexisting : db.reservationOf orderID item.sku = some existing)
      (hstatus : existing.status = .reserved) (hquantity : existing.quantity = item.quantity)
      (hwarehouse : warehouseID = existing.warehouseID.getD "") (hdb : db' = db)
  | taken (stock : InventoryItem)
      (hfree : ∀ existing, db.reservationOf orderID item.sku = some existing → existing.status ≠ .reserved)
      (hstock : db.inventoryItems.first? candidateBefore
        (db.isCandidate merchantID item.sku item.quantity) = some stock)
      (hwarehouse : warehouseID = stock.warehouseID)
      (hdb : db' = { db with
        inventoryItems := db.inventoryItems.update (InventoryItem.take stock.id item.quantity)
          (InventoryItem.conflict_take stock.id item.quantity) })

variable {merchantID : String}

theorem takeCandidate_eq_ok {sku warehouseID : String} {quantity : Int}
    (h : db.takeCandidate merchantID sku quantity = .ok (warehouseID, db')) :
    ∃ stock, db.inventoryItems.first? candidateBefore (db.isCandidate merchantID sku quantity) = some stock ∧
      warehouseID = stock.warehouseID ∧ db' = { db with
        inventoryItems := db.inventoryItems.update (InventoryItem.take stock.id quantity)
          (InventoryItem.conflict_take stock.id quantity) } := by
  unfold takeCandidate at h
  split at h
  · cases h
  · rename_i stock hstock
    obtain ⟨_, _, hpair⟩ := bind_eq_ok.mp h
    cases hpair
    exact ⟨stock, hstock, rfl, rfl⟩

variable {item : OrderItemRow}

theorem reserveInventoryItem_eq_ok {warehouseID : String}
    (h : db.reserveInventoryItem merchantID orderID item = .ok (warehouseID, db')) :
    Reserves db merchantID orderID item warehouseID db' := by
  unfold reserveInventoryItem at h
  split at h
  · rename_i existing hexisting
    split_ifs at h with hstatus hquantity
    · cases h
      exact .held existing hexisting hstatus (not_not.mp hquantity) rfl rfl
    · obtain ⟨stock, hstock, hwarehouse, hdb⟩ := takeCandidate_eq_ok h
      refine .taken stock ?_ hstock hwarehouse hdb
      intro other hother
      cases hexisting.symm.trans hother
      exact hstatus
  · rename_i hnone
    obtain ⟨stock, hstock, hwarehouse, hdb⟩ := takeCandidate_eq_ok h
    refine .taken stock ?_ hstock hwarehouse hdb
    intro other hother
    cases hnone.symm.trans hother

variable {source : OutboxEvent} {at' : Time}

theorem reserveLine_eq_ok {entry : Value} (h : db.reserveLine source at' item = .ok (entry, db')) :
    ∃ warehouseID taken stockReservations,
      Reserves db source.merchantID source.orderID item warehouseID taken ∧
      taken.stockReservations.upsert (fun old => old.orderID = source.orderID && old.sku = item.sku)
        (fun old => ⟨source.orderID, item.sku, nullableString warehouseID <|> old.warehouseID, item.quantity,
          .reserved, timestamptz at', none⟩)
        ⟨source.orderID, item.sku, nullableString warehouseID, item.quantity, .reserved, timestamptz at', none⟩ =
          some stockReservations ∧
      db' = { taken with stockReservations := stockReservations } := by
  simp only [reserveLine, upsertStockReservation, bind_eq_ok, orViolation_eq_ok, pure, Except.pure,
    Except.ok.injEq, Prod.mk.injEq] at h
  obtain ⟨⟨warehouseID, taken⟩, hreserve, _, ⟨stockReservations, hupsert, rfl⟩, _, rfl⟩ := h
  exact ⟨warehouseID, taken, stockReservations, reserveInventoryItem_eq_ok hreserve, hupsert, rfl⟩

theorem reserveLines_frame {items : List OrderItemRow} {entries : List Value}
    (h : reserveLines source at' items db = .ok (entries, db')) :
    ∃ inventoryItems stockReservations,
      db' = { db with inventoryItems := inventoryItems, stockReservations := stockReservations } := by
  induction items generalizing db entries with
  | nil =>
    cases h
    exact ⟨_, _, rfl⟩
  | cons item rest ih =>
    obtain ⟨⟨entry, db₁⟩, hline, h⟩ := bind_eq_ok.mp h
    obtain ⟨⟨later, db₂⟩, hrest, h⟩ := bind_eq_ok.mp h
    cases h
    obtain ⟨_, taken, _, hreserves, _, rfl⟩ := reserveLine_eq_ok hline
    obtain ⟨inventoryItems, stockReservations, rfl⟩ := ih hrest
    cases hreserves with
    | held _ _ _ _ _ hdb =>
      subst hdb
      exact ⟨_, _, rfl⟩
    | taken _ _ _ _ hdb =>
      subst hdb
      exact ⟨_, _, rfl⟩

/-- The reservation is that of one of these lines of the order. -/
def Holds (orderID : String) (items : List OrderItemRow) (reservation : StockReservation) : Prop :=
  ∃ item ∈ items, reservation.orderID = orderID ∧ reservation.sku = item.sku

/-- What the loop over the lines of an order enters. -/
structure Entered (orderID : String) (items : List OrderItemRow) (db db' : Database) : Prop where
  entered : ∀ reservation ∈ db'.stockReservations.rows, Holds orderID items reservation →
    ∃ item ∈ items, reservation.sku = item.sku ∧ reservation.quantity = item.quantity ∧
      reservation.status = .reserved
  kept : ∀ reservation, ¬ Holds orderID items reservation →
    (reservation ∈ db'.stockReservations.rows ↔ reservation ∈ db.stockReservations.rows)
  complete : ∀ item ∈ items, ∃ reservation ∈ db'.stockReservations.rows,
    reservation.orderID = orderID ∧ reservation.sku = item.sku

theorem entered_of_reserveLine {entry : Value} (h : db.reserveLine source at' item = .ok (entry, db')) :
    Entered source.orderID [item] db db' := by
  obtain ⟨warehouseID, taken, reservations, hreserves, hupsert, rfl⟩ := reserveLine_eq_ok h
  have hsame : taken.stockReservations = db.stockReservations := by
    cases hreserves with
    | held _ _ _ _ _ hdb => rw [hdb]
    | taken _ _ _ _ hdb => rw [hdb]
  rw [hsame] at hupsert
  refine ⟨?_, ?_, ?_⟩
  · rintro reservation hmem ⟨_, hsingle, horder, hsku⟩
    rw [List.mem_singleton.mp hsingle] at hsku
    rcases Table.mem_upsert hupsert hmem with rfl | ⟨_, hmiss⟩ | ⟨_, _, _, rfl⟩
    · exact ⟨item, List.mem_cons_self, rfl, rfl, rfl⟩
    · simp [horder, hsku] at hmiss
    · exact ⟨item, List.mem_cons_self, rfl, rfl, rfl⟩
  · intro reservation hother
    have hmiss : (reservation.orderID = source.orderID && reservation.sku = item.sku) = false := by
      apply Bool.eq_false_iff.mpr
      intro hboth
      simp only [Bool.and_eq_true, decide_eq_true_eq] at hboth
      exact hother ⟨item, List.mem_cons_self, hboth⟩
    constructor
    · intro hmem
      rcases Table.mem_upsert hupsert hmem with rfl | ⟨hold, _⟩ | ⟨_, _, _, rfl⟩
      · exact absurd ⟨item, List.mem_cons_self, rfl, rfl⟩ hother
      · exact hold
      · exact absurd ⟨item, List.mem_cons_self, rfl, rfl⟩ hother
    · intro hold
      exact Table.mem_upsert_of_not_target hupsert hold hmiss
  · intro line hline
    rw [List.mem_singleton.mp hline]
    obtain ⟨reservation, hmem, rfl | ⟨_, _, _, rfl⟩⟩ := Table.exists_mem_upsert hupsert
    · exact ⟨_, hmem, rfl, rfl⟩
    · exact ⟨_, hmem, rfl, rfl⟩

theorem entered_of_reserveLines {items : List OrderItemRow} {entries : List Value}
    (h : reserveLines source at' items db = .ok (entries, db')) :
    Entered source.orderID items db db' := by
  induction items generalizing db entries with
  | nil =>
    cases h
    refine ⟨?_, fun _ _ => Iff.rfl, by simp⟩
    rintro _ _ ⟨_, hnil, _⟩
    cases hnil
  | cons item rest ih =>
    obtain ⟨⟨entry, db₁⟩, hline, h⟩ := bind_eq_ok.mp h
    obtain ⟨⟨later, db₂⟩, hrest, h⟩ := bind_eq_ok.mp h
    cases h
    have hfirst := entered_of_reserveLine hline
    have hlater := ih hrest
    -- A reservation of the order is that of a later line, or the first line's and not touched again.
    refine ⟨?_, ?_, ?_⟩
    · intro reservation hmem hholds
      by_cases hcase : Holds source.orderID rest reservation
      · obtain ⟨line, hline, hentered⟩ := hlater.entered reservation hmem hcase
        exact ⟨line, List.mem_cons_of_mem _ hline, hentered⟩
      · obtain ⟨line, hline, hkey⟩ := hholds
        rcases List.mem_cons.mp hline with rfl | hlast
        · obtain ⟨_, hsingle, hentered⟩ := hfirst.entered reservation ((hlater.kept reservation hcase).mp hmem)
            ⟨line, List.mem_cons_self, hkey⟩
          rw [List.mem_singleton.mp hsingle] at hentered
          exact ⟨line, List.mem_cons_self, hentered⟩
        · exact absurd ⟨line, hlast, hkey⟩ hcase
    · intro reservation hother
      rw [hlater.kept reservation, hfirst.kept reservation]
      · rintro ⟨line, hsingle, hkey⟩
        exact hother ⟨line, List.mem_singleton.mp hsingle ▸ List.mem_cons_self, hkey⟩
      · rintro ⟨line, hlast, hkey⟩
        exact hother ⟨line, List.mem_cons_of_mem _ hlast, hkey⟩
    · intro line hline
      rcases List.mem_cons.mp hline with rfl | hlast
      · obtain ⟨reservation, hmem, hkey⟩ := hfirst.complete line List.mem_cons_self
        by_cases hcase : Holds source.orderID rest reservation
        · obtain ⟨last, hlast, _, hsku⟩ := hcase
          obtain ⟨later, hmem', horder, hsku'⟩ := hlater.complete last hlast
          exact ⟨later, hmem', horder, hsku'.trans (hsku.symm.trans hkey.2)⟩
        · exact ⟨reservation, (hlater.kept reservation hcase).mpr hmem, hkey⟩
      · exact hlater.complete line hlast

theorem releaseReservedStock_eq_ok (h : db.releaseReservedStock orderID at' = .ok db') : db' = { db with
      inventoryItems := db.inventoryItems.update (fun item => item.restore (db.heldQuantity orderID item))
        (InventoryItem.conflict_restore (db.heldQuantity orderID))
      stockReservations := db.stockReservations.update (StockReservation.release orderID at')
        (StockReservation.conflict_release orderID at')
      orderItems := db.orderItems.update (OrderItemRow.setStatus orderID releasedStatus)
        (OrderItemRow.conflict_setStatus orderID releasedStatus) } := by
  obtain ⟨db₁, hitems, h⟩ := bind_eq_ok.mp h
  obtain ⟨_, _, hitems⟩ := bind_eq_ok.mp hitems
  cases hitems
  cases h
  rfl

theorem upsertPaymentAuthorization_eq_ok {new : PaymentAuthorization}
    (h : db.upsertPaymentAuthorization new = .ok db') : ∃ paymentAuthorizations,
      admitsAuthorizationStatus new.status = true ∧ 0 ≤ new.amount ∧
      db.paymentAuthorizations.upsert (fun old => old.orderID = new.orderID)
        (fun old => { new with merchantID := old.merchantID }) new = some paymentAuthorizations ∧
      db' = { db with paymentAuthorizations := paymentAuthorizations } := by
  simp only [upsertPaymentAuthorization, bind_eq_ok, orViolation_eq_ok, ensure_eq_ok, pure, Except.pure,
    Except.ok.injEq, decide_eq_true_eq] at h
  obtain ⟨_, hstatus, _, hamount, paymentAuthorizations, hupsert, rfl⟩ := h
  exact ⟨paymentAuthorizations, hstatus, hamount, hupsert, rfl⟩

theorem upsertShipment_eq_ok {new : ShipmentRow} (h : db.upsertShipment new = .ok db') : ∃ shipments,
    admitsShipmentStatus new.status = true ∧
    db.shipments.upsert (fun old => old.orderID = new.orderID)
      (fun old => { new with merchantID := old.merchantID, createdAt := old.createdAt }) new = some shipments ∧
    db' = { db with shipments := shipments } := by
  simp only [upsertShipment, bind_eq_ok, orViolation_eq_ok, ensure_eq_ok, pure, Except.pure,
    Except.ok.injEq] at h
  obtain ⟨_, hstatus, shipments, hupsert, rfl⟩ := h
  exact ⟨shipments, hstatus, hupsert, rfl⟩

theorem upsertNotification_frame {new : NotificationEvent} (h : db.upsertNotification new = .ok db') :
    ∃ notificationEvents, db' = { db with notificationEvents := notificationEvents } := by
  obtain ⟨notificationEvents, _, h⟩ := bind_eq_ok.mp h
  cases h
  exact ⟨notificationEvents, rfl⟩

theorem upsertCompensation_frame {new : CompensationEvent} (h : db.upsertCompensation new = .ok db') :
    ∃ compensationEvents, db' = { db with compensationEvents := compensationEvents } := by
  obtain ⟨compensationEvents, _, h⟩ := bind_eq_ok.mp h
  cases h
  exact ⟨compensationEvents, rfl⟩

/-! ### Insertion -/

/-- A line as it is stored. -/
def StoredLine (orderID : String) (item : OrderItem) (row : OrderItemRow) : Prop :=
  (∃ currency, row = orderItemRow orderID currency item) ∧ 0 < item.quantity

theorem insertOrderItem_eq_ok {item : OrderItem} (h : insertOrderItem orderID db item = .ok db') :
    ∃ row orderItems, StoredLine orderID item row ∧
      db.orderItems.insert row = some orderItems ∧ db' = { db with orderItems := orderItems } := by
  simp only [insertOrderItem, bind_eq_ok, orViolation_eq_ok, ensure_eq_ok, mapError_eq_ok, pure, Except.pure,
    Except.ok.injEq, decide_eq_true_eq] at h
  obtain ⟨_, _, currency, _, _, hquantity, _, _, orderItems, hinsert, rfl⟩ := h
  exact ⟨_, orderItems, ⟨⟨currency, rfl⟩, hquantity⟩, hinsert, rfl⟩

theorem insertOrderItems_eq_ok {items : List OrderItem} (h : items.foldlM (insertOrderItem orderID) db = .ok db') :
    ∃ orderItems rows,
      List.Forall₂ (StoredLine orderID) items rows ∧ orderItems.rows = db.orderItems.rows ++ rows ∧
      db' = { db with orderItems := orderItems } := by
  induction items generalizing db with
  | nil =>
    cases h
    exact ⟨_, [], .nil, (List.append_nil _).symm, rfl⟩
  | cons item rest ih =>
    rw [List.foldlM_cons] at h
    obtain ⟨db₁, hitem, hrest⟩ := bind_eq_ok.mp h
    obtain ⟨row, orderItems₁, hstored, hinsert, rfl⟩ := insertOrderItem_eq_ok hitem
    obtain ⟨orderItems, rows, hrows, happend, rfl⟩ := ih hrest
    refine ⟨orderItems, row :: rows, .cons hstored hrows, ?_, rfl⟩
    rw [happend, Table.rows_insert hinsert, List.append_assoc, List.singleton_append]

theorem storedLine_of_mem {items : List OrderItem} {rows : List OrderItemRow}
    (h : List.Forall₂ (StoredLine orderID) items rows) {row : OrderItemRow} (hrow : row ∈ rows) :
    ∃ item ∈ items, StoredLine orderID item row := by
  induction h with
  | nil => cases hrow
  | @cons item _ items _ hstored _ ih =>
    rcases List.mem_cons.mp hrow with rfl | hrest
    · exact ⟨item, List.mem_cons_self, hstored⟩
    · obtain ⟨other, hother, hstored'⟩ := ih hrest
      exact ⟨other, List.mem_cons_of_mem _ hother, hstored'⟩

/-- The rows a new order is stored in. -/
structure Inserted (db : Database) (merchantID idempotencyKey : String) (order : Order) (event : OutboxEvent)
    (audit : AuditLog) (db' : Database) where
  currency : String
  merchants : List String
  orders : Table OrderRow OrderRow.conflict
  lines : List OrderItemRow
  orderItems : Table OrderItemRow OrderItemRow.conflict
  idempotencyKeys : Table IdempotencyKey IdempotencyKey.conflict
  outboxEvents : Table OutboxEvent OutboxEvent.conflict
  currency_eq : char3 order.currency = .ok currency
  valid : isValidOrderStatus order.status = true
  orders_eq : db.orders.insert (orderRow merchantID currency order) = some orders
  stored : List.Forall₂ (StoredLine order.orderID) order.items lines
  orderItems_eq : orderItems.rows = db.orderItems.rows ++ lines
  keys_eq : db.idempotencyKeys.insert ⟨merchantID, idempotencyKey, order.orderID⟩ = some idempotencyKeys
  encodable : event.occurredAt.encodable = true
  outbox_eq : db.outboxEvents.insert event.withEnvelopeDefaults = some outboxEvents
  db_eq : db' = { db with
    merchants := merchants, orders := orders, orderItems := orderItems, idempotencyKeys := idempotencyKeys,
    outboxEvents := outboxEvents, auditLogs := db.auditLogs ++ [audit] }

theorem upsertMerchant_eq (db : Database) (merchantID : String) :
    ∃ merchants, db.upsertMerchant merchantID = { db with merchants := merchants } := by
  unfold upsertMerchant
  split_ifs
  · exact ⟨db.merchants, rfl⟩
  · exact ⟨_, rfl⟩

theorem insertOrderRow_eq_ok {order : Order} (h : db.insertOrderRow merchantID order = .ok db') : ∃ currency orders,
      char3 order.currency = .ok currency ∧ isValidOrderStatus order.status = true ∧
      db.orders.insert (orderRow merchantID currency order) = some orders ∧
      db' = { db with orders := orders } := by
  simp only [insertOrderRow, bind_eq_ok, ensure_eq_ok, mapError_eq_ok] at h
  obtain ⟨currency, hcurrency, _, hvalid, _, _, h⟩ := h
  split at h
  · rename_i orders horders
    cases h
    exact ⟨currency, orders, hcurrency, hvalid, horders, rfl⟩
  · cases h

theorem insertNewOrder_eq_ok {idempotencyKey : String} {order : Order} {event : OutboxEvent} {audit : AuditLog}
    (h : db.insertNewOrder merchantID idempotencyKey order event audit = .ok db') :
    Nonempty (Inserted db merchantID idempotencyKey order event audit db') := by
  obtain ⟨merchants, hmerchants⟩ := upsertMerchant_eq db merchantID
  rw [insertNewOrder, hmerchants] at h
  obtain ⟨-, -, h⟩ := bind_eq_ok.mp h
  obtain ⟨db₁, horder, h⟩ := bind_eq_ok.mp h
  obtain ⟨db₂, hitems, h⟩ := bind_eq_ok.mp h
  obtain ⟨db₃, hkey, h⟩ := bind_eq_ok.mp h
  obtain ⟨db₄, hevent, h⟩ := bind_eq_ok.mp h
  cases h
  obtain ⟨currency, orders, hcurrency, hvalid, horders, rfl⟩ := insertOrderRow_eq_ok horder
  obtain ⟨orderItems, lines, hstored, hlines, rfl⟩ := insertOrderItems_eq_ok hitems
  obtain ⟨idempotencyKeys, hkeys, hkey⟩ := bind_eq_ok.mp hkey
  cases hkey
  obtain ⟨outboxEvents, hencodable, houtbox, -, rfl⟩ := insertOutboxEvent_eq_ok hevent
  exact ⟨{
    currency, merchants, orders, lines, orderItems, idempotencyKeys, outboxEvents
    currency_eq := hcurrency
    valid := hvalid
    orders_eq := horders
    stored := hstored
    orderItems_eq := hlines
    keys_eq := orViolation_eq_ok.mp hkeys
    encodable := hencodable
    outbox_eq := houtbox
    db_eq := rfl }⟩

end Database

end FulfillHub
