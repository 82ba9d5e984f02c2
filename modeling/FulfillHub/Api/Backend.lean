import FulfillHub.Api.Server
import FulfillHub.Fulfillment.Terms
import FulfillHub.Postgres.Success

/-!
# The store behind the server

The server is handed a `commerce.Store`, which is the in-memory store or PostgreSQL. `Backend` is either of them.
Of a call this module says what it means for the merchants: the merchant of a stored order never changes, and an
insertion or a status update made for a merchant touches nothing of any other merchant.
-/

namespace FulfillHub

open Interaction Relational

inductive Backend
  | memory (s : MemoryStore)
  | postgres (db : Database)

def shipmentRecordFromOrder (order : Order) (shipment : Shipment) : ShipmentRecord where
  shipmentID := shipment.shipmentID
  orderID := order.orderID
  merchantID := order.merchantID
  carrier := shipment.carrier
  trackingNumber := shipment.trackingNumber
  status := shipment.status
  events := shipment.events

/-- The record `getShipmentTx` reads from a row. -/
def shipmentRecordOf (row : ShipmentRow) : ShipmentRecord where
  shipmentID := row.shipmentID
  orderID := row.orderID
  merchantID := row.merchantID
  carrier := row.carrier
  trackingNumber := row.trackingNumber
  status := row.status
  events := [⟨row.createdAt, row.status, "Shipment projection created."⟩]

namespace Backend

def semantics : StoreSemantics Backend
  | .memory s, c => ((MemoryStore.semantics s c).1, .memory (MemoryStore.semantics s c).2)
  | .postgres db, c => ((Database.semantics db c).1, .postgres (Database.semantics db c).2)

/-- The order `GetOrder` returns. -/
def order? : Backend → String → Option Order
  | .memory s, orderID => s.orders.lookup orderID
  | .postgres db, orderID => (db.order? orderID).map db.assemble

def outbox : Backend → List OutboxEvent
  | .memory s => s.outbox
  | .postgres db => db.outboxEvents.rows

def auditLogs : Backend → List AuditLog
  | .memory s => s.auditLogs
  | .postgres db => db.auditLogs

/-- `GetShipment` finds this record. The in-memory store searches its map of orders, in no particular order. -/
def HasShipment : Backend → String → ShipmentRecord → Prop
  | .memory s, shipmentID, record => ∃ key order shipment, s.orders.lookup key = some order ∧
      order.shipment = some shipment ∧ shipment.shipmentID = shipmentID ∧
      record = shipmentRecordFromOrder order shipment
  | .postgres db, shipmentID, record => ∃ row,
      db.shipments.find? (fun row => row.shipmentID = shipmentID) = some row ∧ record = shipmentRecordOf row

/-- The answers of `GetShipment`; it may also fail for a reason of its own. -/
def ShipmentAnswer (b : Backend) (shipmentID : String) : Except Error ShipmentRecord → Prop
  | .ok record => b.HasShipment shipmentID record
  | .error err => err = errNotFound → ∀ record, ¬ b.HasShipment shipmentID record

variable {b : Backend} {m : String}

theorem order?_of_getOrder {orderID : String} {order : Order}
    (h : (b.semantics (.getOrder orderID)).1 = .ok order) : b.order? orderID = some order := by
  cases b with
  | memory s =>
    simp only [semantics, MemoryStore.semantics, MemoryStore.getOrder] at h
    split at h
    · cases h
    · rename_i stored hstored
      cases h
      exact hstored
  | postgres db =>
    simp only [semantics, Database.semantics, Database.getOrderTx] at h
    split at h
    · rename_i row hrow
      cases h
      rw [order?, hrow]
      rfl
    · cases h

theorem semantics_getOrder (orderID : String) : (b.semantics (.getOrder orderID)).2 = b := by
  cases b <;> rfl

/-! ### The merchant of an order -/

/-- The order a call inserts. -/
def inserts : StoreCall → Option Order
  | .insertOrder _ _ order _ _ => some order
  | _ => none

/-- The merchant of a stored order. -/
def merchant? (b : Backend) (orderID : String) : Option String := (b.order? orderID).map Order.merchantID

theorem merchant?_eq_some {orderID : String} :
    b.merchant? orderID = some m ↔ ∃ order, b.order? orderID = some order ∧ order.merchantID = m :=
  Option.map_eq_some_iff

variable {db : Database}

theorem merchant?_postgres (orderID : String) :
    (Backend.postgres db).merchant? orderID = (db.order? orderID).map OrderRow.merchantID := by
  rw [merchant?, order?, Option.map_map]
  rfl

variable {s : MemoryStore} {c : StoreCall}

theorem merchant?_memory_semantics {orderID : String}
    (hfresh : ∀ order, inserts c = some order → s.orders.lookup order.orderID = none)
    (h : (Backend.memory s).merchant? orderID = some m) :
    (Backend.memory (MemoryStore.semantics s c).2).merchant? orderID = some m := by
  have houtcome := MemoryStore.semantics_outcome s c
  generalize (MemoryStore.semantics s c).2 = s', (MemoryStore.semantics s c).1 = r at houtcome
  cases houtcome with
  | failed => exact h
  | idle => exact h
  | inserted _ _ order _ _ _ horders _ =>
    have hne : orderID ≠ order.orderID := by
      rintro rfl
      simp [merchant?, order?, hfresh order rfl] at h
    rw [merchant?, order?, horders, Finmap.lookup_insert_of_ne _ hne]
    exact h
  | projected _ _ changedID p order _ heffect horder _ horders _ =>
    rw [merchant?, order?, horders]
    by_cases hid : orderID = changedID
    · subst hid
      rw [merchant?, order?, horder] at h
      rw [Finmap.lookup_insert, Option.map_some,
        show (p.update order).merchantID = order.merchantID from
          congrArg Terms.merchantID (StoreCall.terms_update heffect order)]
      exact h
    · rw [Finmap.lookup_insert_of_ne _ hid]
      exact h

theorem merchantID_setColumns (orderID : String) (f : OrderColumns → OrderColumns) (row : OrderRow) :
    (OrderRow.setColumns orderID f row).merchantID = row.merchantID := by
  unfold OrderRow.setColumns
  split_ifs <;> rfl

variable {row : OrderRow}

theorem order?_insert {orders : Table OrderRow OrderRow.conflict} {orderID : String}
    (h : db.orders.insert row = some orders) (hne : orderID ≠ row.orderID) :
    orders.find? (fun row => row.orderID = orderID) = db.order? orderID := by
  rw [Database.order?, Table.find?, Table.find?, Table.rows_insert h, List.find?_append]
  simp [Ne.symm hne]

theorem orderID_ne_of_insert {orders : Table OrderRow OrderRow.conflict} {old : OrderRow} {orderID : String}
    (h : db.orders.insert row = some orders) (hold : db.order? orderID = some old) :
    orderID ≠ row.orderID := by
  intro heq
  obtain ⟨hmem, hid⟩ := Database.order?_eq_some hold
  have hconflict := Table.conflict_of_insert h old hmem
  simp [OrderRow.conflict, hid, heq] at hconflict

theorem merchant?_postgres_semantics {orderID : String} (h : (Backend.postgres db).merchant? orderID = some m) :
    (Backend.postgres (Database.semantics db c).2).merchant? orderID = some m := by
  rw [merchant?_postgres] at h ⊢
  have houtcome := Database.semantics_outcome db c
  generalize (Database.semantics db c).2 = db', (Database.semantics db c).1 = r at houtcome
  cases houtcome with
  | failed => exact h
  | idle => exact h
  | inserted merchantID _ order _ _ _ _ hinsert =>
    obtain ⟨inserted⟩ := Database.insertNewOrder_eq_ok hinsert
    obtain ⟨old, hold, _⟩ := Option.map_eq_some_iff.mp h
    have hne := orderID_ne_of_insert inserted.orders_eq hold
    rw [Database.order?, show db'.orders = inserted.orders from congrArg Database.orders inserted.db_eq,
      order?_insert inserted.orders_eq hne]
    exact h
  | transacted _ _ lockedID tx audit row event written stored htx hrow _ hstatements hstored =>
    obtain ⟨_, rfl⟩ := Database.order?_eq_some hrow
    obtain ⟨outboxEvents, rfl, _⟩ := Database.insertNext_eq_ok hstored
    have hwritten := Database.written_of_statements htx hstatements
    change (written.order? orderID).map OrderRow.merchantID = some m
    rw [Database.order?_of_setColumns orderID hwritten.orders, Option.map_map]
    obtain ⟨old, hold, hm⟩ := Option.map_eq_some_iff.mp h
    rw [hold, Option.map_some, Function.comp_apply, merchantID_setColumns, hm]

/-- **The merchant of a stored order stays the same**, as long as new orders get ids of their own. -/
theorem merchant?_semantics {orderID : String}
    (hfresh : ∀ order, inserts c = some order → b.order? order.orderID = none) (h : b.merchant? orderID = some m) :
    (b.semantics c).2.merchant? orderID = some m := by
  cases b with
  | memory s => exact merchant?_memory_semantics hfresh h
  | postgres db => exact merchant?_postgres_semantics h

/-! ### What is done for one merchant -/

/-- Between the two states only orders of this merchant were changed or added, and only events and audit entries
of this merchant were appended. -/
structure Confined (m : String) (b b' : Backend) : Prop where
  kept : ∀ orderID order, b.order? orderID = some order → order.merchantID ≠ m → b'.order? orderID = some order
  own : ∀ orderID order, b'.order? orderID = some order → b.order? orderID ≠ some order → order.merchantID = m
  events : ∃ new, b'.outbox = b.outbox ++ new ∧ ∀ event ∈ new, event.merchantID = m
  audits : ∃ new, b'.auditLogs = b.auditLogs ++ new ∧ ∀ audit ∈ new, audit.merchantID = m

theorem Confined.refl (m : String) (b : Backend) : Confined m b b where
  kept := fun _ _ h _ => h
  own := fun _ _ h hnew => absurd h hnew
  events := ⟨[], (List.append_nil _).symm, List.forall_mem_nil _⟩
  audits := ⟨[], (List.append_nil _).symm, List.forall_mem_nil _⟩

/-- A change to one order of the merchant, with one event and one audit entry of the merchant. -/
theorem confined_of_change {b' : Backend} (orderID : String) (event : OutboxEvent) {audit : AuditLog}
    (hothers : ∀ id, id ≠ orderID → b'.order? id = b.order? id)
    (hbefore : ∀ order, b.order? orderID = some order → order.merchantID = m)
    (hafter : ∀ order, b'.order? orderID = some order → order.merchantID = m)
    (houtbox : b'.outbox = b.outbox ++ [event]) (hevent : event.merchantID = m)
    (haudits : b'.auditLogs = b.auditLogs ++ [audit]) (haudit : audit.merchantID = m) : Confined m b b' where
  kept := by
    intro id order horder hother
    by_cases hid : id = orderID
    · subst hid
      exact absurd (hbefore order horder) hother
    · rw [hothers id hid, horder]
  own := by
    intro id order horder hnew
    by_cases hid : id = orderID
    · subst hid
      exact hafter order horder
    · rw [hothers id hid] at horder
      exact absurd horder hnew
  events := ⟨[event], houtbox, by simpa using hevent⟩
  audits := ⟨[audit], haudits, by simpa using haudit⟩

variable {key orderID : String} {order : Order} {event : OutboxEvent} {audit : AuditLog} {status : OrderStatus}
  {now : Time}

theorem insertOrder_confined_memory (horder : order.merchantID = m) (hevent : event.merchantID = m)
    (haudit : audit.merchantID = m) (hfresh : s.orders.lookup order.orderID = none) :
    Confined m (.memory s) (.memory (s.insertOrder m key order event audit).2) := by
  unfold MemoryStore.insertOrder
  split
  · exact .refl m _
  split
  · exact .refl m _
  · refine confined_of_change order.orderID event.withEnvelopeDefaults ?_ ?_ ?_ rfl
      (by simpa using hevent) rfl haudit
    · intro id hid
      exact Finmap.lookup_insert_of_ne _ hid
    · intro old hold
      rw [order?, hfresh] at hold
      cases hold
    · intro new hnew
      have hlookup : (s.orders.insert order.orderID order).lookup order.orderID = some new := hnew
      rw [Finmap.lookup_insert] at hlookup
      cases hlookup
      exact horder

variable {db' : Database}

theorem assemble_congr (hitems : db'.itemsOf row.orderID = db.itemsOf row.orderID)
    (hshipments : db'.shipments = db.shipments) : db'.assemble row = db.assemble row := by
  unfold Database.assemble
  rw [hitems, hshipments]

theorem itemsOf_inserted (h : db.Inserted m key order event audit db') (hne : orderID ≠ order.orderID) :
    db'.itemsOf orderID = db.itemsOf orderID := by
  have hnone : h.lines.filter (fun row => row.orderID = orderID) = [] := by
    apply List.filter_eq_nil_iff.mpr
    intro row hrow
    obtain ⟨item, _, ⟨currency, rfl⟩, _⟩ := Database.storedLine_of_mem h.stored hrow
    simp [orderItemRow, Ne.symm hne]
  have hitems : db'.orderItems = h.orderItems := congrArg Database.orderItems h.db_eq
  rw [Database.itemsOf, hitems, h.orderItems_eq, List.filter_append, hnone, List.append_nil]
  rfl

theorem inserted_confined (h : db.Inserted m key order event audit db') (hevent : event.merchantID = m)
    (haudit : audit.merchantID = m) :
    Confined m (.postgres db) (.postgres db') := by
  have horders : db'.orders = h.orders := congrArg Database.orders h.db_eq
  refine confined_of_change order.orderID event.withEnvelopeDefaults ?_ ?_ ?_ ?_
    (by simpa using hevent) (congrArg Database.auditLogs h.db_eq) haudit
  · intro id hid
    have hrow : db'.order? id = db.order? id := by
      rw [Database.order?, horders, order?_insert h.orders_eq hid]
    rw [order?, order?, hrow]
    cases hfound : db.order? id with
    | none => rfl
    | some row =>
      obtain ⟨_, rfl⟩ := Database.order?_eq_some hfound
      have hshipments : db'.shipments = db.shipments := (congrArg Database.shipments h.db_eq).trans rfl
      rw [Option.map_some, Option.map_some, assemble_congr (itemsOf_inserted h hid) hshipments]
  · intro old hold
    obtain ⟨row, hrow, _⟩ := Option.map_eq_some_iff.mp hold
    exact absurd rfl (orderID_ne_of_insert h.orders_eq hrow)
  · intro new hnew
    obtain ⟨row, hrow, rfl⟩ := Option.map_eq_some_iff.mp hnew
    obtain ⟨hmem, hid⟩ := Database.order?_eq_some hrow
    rw [horders] at hmem
    rcases (Table.mem_insert h.orders_eq).mp hmem with hold | rfl
    · have hconflict := Table.conflict_of_insert h.orders_eq row hold
      simp [OrderRow.conflict, orderRow, hid] at hconflict
    · rfl
  · change db'.outboxEvents.rows = db.outboxEvents.rows ++ [event.withEnvelopeDefaults]
    rw [show db'.outboxEvents = h.outboxEvents from congrArg Database.outboxEvents h.db_eq,
      Table.rows_insert h.outbox_eq]

theorem insertOrder_confined (horder : order.merchantID = m) (hevent : event.merchantID = m)
    (haudit : audit.merchantID = m) (hfresh : b.order? order.orderID = none) :
    Confined m b (b.semantics (.insertOrder m key order event audit)).2 := by
  cases b with
  | memory s => exact insertOrder_confined_memory horder hevent haudit hfresh
  | postgres db =>
    have houtcome := Database.semantics_outcome db (.insertOrder m key order event audit)
    change Confined m _ (.postgres (Database.semantics db (.insertOrder m key order event audit)).2)
    generalize (Database.semantics db (.insertOrder m key order event audit)).2 = db',
      (Database.semantics db (.insertOrder m key order event audit)).1 = r at houtcome
    cases houtcome with
    | failed => exact .refl m _
    | idle => exact .refl m _
    | inserted _ _ _ _ _ _ _ hinsert =>
      obtain ⟨h⟩ := Database.insertNewOrder_eq_ok hinsert
      exact inserted_confined h hevent haudit
    | transacted _ _ _ _ _ _ _ _ _ htx => cases htx

theorem updateOrderStatus_confined_memory (hown : (Backend.memory s).merchant? orderID = some m)
    (hevent : event.merchantID = m) (haudit : audit.merchantID = m) :
    Confined m (.memory s) (.memory (s.updateOrderStatus orderID status now event audit).2) := by
  have hmerchant : ∀ order, s.orders.lookup orderID = some order → order.merchantID = m := by
    intro order horder
    simpa [merchant?, order?, horder] using hown
  rcases MemoryStore.project_cases s orderID (.updateOrderStatus status now event audit) audit with
    ⟨err, h⟩ | ⟨order, horder, _, h⟩
  · rw [MemoryStore.updateOrderStatus, h]
    exact .refl m _
  · rw [MemoryStore.updateOrderStatus, h]
    refine confined_of_change orderID (OutboxEvent.withEnvelopeDefaults
      { event with payload := orderStatusEventPayload status now audit event.payload }) ?_ hmerchant ?_
      (MemoryStore.commit_outbox ..) (by simpa using hevent) (MemoryStore.commit_auditLogs ..) haudit
    · intro id hid
      rw [order?, MemoryStore.commit_orders, Finmap.lookup_insert_of_ne _ hid]
      rfl
    · intro new hnew
      rw [order?, MemoryStore.commit_orders, Finmap.lookup_insert] at hnew
      cases hnew
      exact hmerchant order horder

theorem transact_confined (hown : (Backend.postgres db).merchant? orderID = some m) (hevent : event.merchantID = m)
    (haudit : audit.merchantID = m)
    (h : db.transact orderID (.updateOrderStatus status now event audit) audit = .ok db') :
    Confined m (.postgres db) (.postgres db') := by
  obtain ⟨row, _, _, inserted, hrow, _, hstatements, hinserted, rfl⟩ := Database.transact_eq_ok.mp h
  obtain ⟨_, rfl⟩ := Database.order?_eq_some hrow
  cases hstatements
  obtain ⟨outboxEvents, rfl, houtbox⟩ := Database.insertNext_eq_ok hinserted
  rw [merchant?_postgres, hrow, Option.map_some, Option.some.injEq] at hown
  have horder : ∀ id, (db.updateOrder row.orderID fun o =>
      { o with status := status, updatedAt := timestamptz now }).order? id = _ :=
    fun id => Database.order?_of_setColumns id rfl
  refine confined_of_change row.orderID (OutboxEvent.withEnvelopeDefaults
    { event with payload := orderStatusEventPayload status now audit event.payload }) ?_ ?_ ?_ houtbox
    (by simpa using hevent) rfl haudit
  · intro id hid
    change ((db.updateOrder row.orderID _).order? id).map _ = (db.order? id).map db.assemble
    rw [horder]
    cases hfound : db.order? id with
    | none => rfl
    | some other =>
      obtain ⟨_, rfl⟩ := Database.order?_eq_some hfound
      rw [Option.map_some, Option.map_some, Option.map_some, OrderRow.setColumns, if_neg hid]
      exact congrArg some (assemble_congr rfl rfl)
  · intro old hold
    rw [order?, hrow] at hold
    cases hold
    exact hown
  · intro new hnew
    change ((db.updateOrder row.orderID _).order? row.orderID).map _ = some new at hnew
    rw [horder, hrow] at hnew
    cases hnew
    exact (merchantID_setColumns _ _ _).trans hown

/-- A status update of an order of a merchant, with that merchant's event, touches nothing of the others. -/
theorem updateOrderStatus_confined (hown : b.merchant? orderID = some m) (hevent : event.merchantID = m)
    (haudit : audit.merchantID = m) :
    Confined m b (b.semantics (.updateOrderStatus orderID status now event audit)).2 := by
  cases b with
  | memory s => exact updateOrderStatus_confined_memory hown hevent haudit
  | postgres db =>
    change Confined m _ (.postgres (db.commit (db.updateOrderStatus orderID status now event audit)).2)
    cases h : db.updateOrderStatus orderID status now event audit with
    | error err => exact .refl m _
    | ok result =>
      obtain ⟨db', htransact, h⟩ := bind_eq_ok.mp h
      obtain ⟨_, _, h⟩ := bind_eq_ok.mp h
      cases h
      exact transact_confined hown hevent haudit htransact

end Backend

end FulfillHub
