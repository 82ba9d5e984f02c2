import FulfillHub.Fulfillment.Ledger
import FulfillHub.Postgres.Transactions

/-!
# What transactions write, table by table

The statements of a transaction rewrite columns of the order it has locked and the status of its lines,
and some of them move stock, payments or shipments. `Written` says which call does what, once; the results
about the tables are read off it. The outbox of the store is one in the sense of the saga, so the accounting
of events applies to PostgreSQL as it does to the in-memory store.
-/

namespace FulfillHub
open Interaction Relational

variable {c : StoreCall}

theorem OrderRow.setColumns_setColumns (orderID : String) (f g : OrderColumns → OrderColumns)
    (row : OrderRow) : setColumns orderID g (setColumns orderID f row) = setColumns orderID (fun o => g (f o)) row := by
  unfold setColumns
  split_ifs <;> rfl

theorem OrderItemRow.setStatus_id (orderID : String) (row : OrderItemRow) :
    setStatus orderID (fun status => status) row = row := by
  unfold setStatus
  split_ifs <;> rfl

def StoreCall.reserves : StoreCall → Bool
  | .projector (.recordInventoryReserved _ _ _) => true
  | _ => false

def StoreCall.authorizes : StoreCall → Bool
  | .projector (.recordPaymentAuthorized _ _ _ _) => true
  | _ => false

def StoreCall.ships : StoreCall → Bool
  | .projector (.recordShipmentCreated _ _ _ _) => true
  | _ => false

/-- The calls that give the stock of an order back. -/
def StoreCall.releases : StoreCall → Bool
  | .projector (.recordOrderCancelled _ _ _) => true
  | .projector (.recordCompensation source _ _) =>
    source.eventType = .paymentFailed || source.eventType = .shipmentFailed
  | _ => false

/-- The calls that void the payment of an order. -/
def StoreCall.voids : StoreCall → Bool
  | .projector (.recordOrderCancelled _ _ _) => true
  | .projector (.recordCompensation source _ _) => source.eventType = .shipmentFailed
  | _ => false

/-- What a call sets in the columns of the order it locks, before it voids a payment. -/
def StoreCall.sets (row : OrderRow) (c : StoreCall) (o : OrderColumns) : OrderColumns :=
  match c with
  | .updateOrderStatus _ status now _ _ => { o with status := status, updatedAt := timestamptz now }
  | .projector (.recordInventoryReserved _ next _) =>
    { o with status := .inventoryReserved, updatedAt := timestamptz next.occurredAt }
  | .projector (.recordInventoryRejected _ next _) => { o with updatedAt := timestamptz next.occurredAt }
  | .projector (.recordPaymentAuthorized _ next payment _) => { o with
      status := .paymentAuthorized
      paymentProvider := some (providerOf row payment)
      paymentStatus := some payment.status
      paymentAuthorizationID := some payment.authorizationID
      updatedAt := timestamptz next.occurredAt }
  | .projector (.recordPaymentFailed _ next _) => { o with
      paymentProvider := some (row.paymentProvider.getD "fake-payment")
      paymentStatus := some .failed
      paymentAuthorizationID := none
      updatedAt := timestamptz next.occurredAt }
  | .projector (.recordShipmentCreated _ next _ _) =>
    { o with status := .shipmentCreated, updatedAt := timestamptz next.occurredAt }
  | .projector (.recordShipmentFailed _ next _) => { o with updatedAt := timestamptz next.occurredAt }
  | .projector (.recordOrderCancelled _ next _) =>
    { o with status := .cancelled, updatedAt := timestamptz next.occurredAt }
  | .projector (.recordCompensation _ status audit) =>
    { o with status := status, updatedAt := timestamptz audit.createdAt }
  | .projector (.recordNotificationQueued _ _) | .insertOrder .. | .getOrder _ => o

/-- What a call makes of the columns of the order it locks. -/
def StoreCall.columns (row : OrderRow) (c : StoreCall) (o : OrderColumns) : OrderColumns :=
  if c.voids then Database.voidedColumns (c.sets row o) else c.sets row o

theorem StoreCall.columns_of_voids {row : OrderRow} (h : c.voids = true) :
    c.columns row = fun o => Database.voidedColumns (c.sets row o) := by
  funext o
  rw [columns, if_pos h]

theorem StoreCall.columns_of_not_voids {row : OrderRow} (h : c.voids = false) : c.columns row = c.sets row := by
  funext o
  rw [columns, if_neg (Bool.eq_false_iff.mp h)]

/-- What a call makes of the reservation status of a line. -/
def StoreCall.marks (c : StoreCall) (status : ReservationStatus) : ReservationStatus :=
  match c with
  | .projector (.recordInventoryReserved _ _ _) => .reserved
  | .projector (.recordInventoryRejected _ _ _) => .rejected
  | _ => if c.releases then Database.releasedStatus status else status

theorem StoreCall.marks_of_releases (h : c.releases = true) : c.marks = Database.releasedStatus := by
  funext status
  unfold marks
  split
  · cases h
  · cases h
  · rw [if_pos h]

namespace Database

inductive StockWritten (db : Database) (row : OrderRow) : StoreCall → Database → Prop
  | same (c : StoreCall) (db' : Database) (hreserves : c.reserves = false) (hreleases : c.releases = false)
      (hinventory : db'.inventoryItems = db.inventoryItems)
      (hreservations : db'.stockReservations = db.stockReservations) : StockWritten db row c db'
  | reserved (source next : OutboxEvent) (audit : AuditLog) (entries : List Value) (reserved db' : Database)
      (hitems : db.itemsOf row.orderID ≠ [])
      (hlines : reserveLines source next.occurredAt (db.itemsOf row.orderID) db = .ok (entries, reserved))
      (hinventory : db'.inventoryItems = reserved.inventoryItems)
      (hreservations : db'.stockReservations = reserved.stockReservations) :
      StockWritten db row (.projector (.recordInventoryReserved source next audit)) db'
  | released (c : StoreCall) (db' : Database) (at' : Time) (hreleases : c.releases = true)
      (hinventory : db'.inventoryItems.rows =
        db.inventoryItems.rows.map fun item => item.restore (db.heldQuantity row.orderID item))
      (hreservations : db'.stockReservations.rows =
        db.stockReservations.rows.map (StockReservation.release row.orderID at')) :
      StockWritten db row c db'

inductive PaymentsWritten (db : Database) (row : OrderRow) : StoreCall → Database → Prop
  | same (c : StoreCall) (db' : Database) (hauthorizes : c.authorizes = false) (hvoids : c.voids = false)
      (hpayments : db'.paymentAuthorizations = db.paymentAuthorizations) : PaymentsWritten db row c db'
  | authorized (source next : OutboxEvent) (payment : Payment) (audit : AuditLog) (db' : Database)
      (hstatus : admitsAuthorizationStatus payment.status = true)
      (hpayments : db.paymentAuthorizations.upsert (fun old => old.orderID = source.orderID)
        (fun old => { authorizationRow source next payment row with merchantID := old.merchantID })
        (authorizationRow source next payment row) = some db'.paymentAuthorizations) :
      PaymentsWritten db row (.projector (.recordPaymentAuthorized source next payment audit)) db'
  | voided (c : StoreCall) (db' : Database) (at' : Time) (hvoids : c.voids = true)
      (hpayments : db'.paymentAuthorizations.rows =
        db.paymentAuthorizations.rows.map (PaymentAuthorization.void row.orderID at')) :
      PaymentsWritten db row c db'

inductive ShipmentsWritten (db : Database) : StoreCall → Database → Prop
  | same (c : StoreCall) (db' : Database) (hships : c.ships = false)
      (hshipments : db'.shipments = db.shipments) : ShipmentsWritten db c db'
  | shipped (source next : OutboxEvent) (shipment : Shipment) (audit : AuditLog) (db' : Database)
      (hshipments : db.shipments.upsert (fun old => old.orderID = source.orderID)
        (fun old => { shipmentRow source next shipment with
          merchantID := old.merchantID, createdAt := old.createdAt })
        (shipmentRow source next shipment) = some db'.shipments) :
      ShipmentsWritten db (.projector (.recordShipmentCreated source next shipment audit)) db'

/-- The tables that no statement before the insertion of the event writes. -/
structure Kept (db db' : Database) : Prop where
  warehouses : db'.warehouses = db.warehouses
  idempotencyKeys : db'.idempotencyKeys = db.idempotencyKeys
  outboxEvents : db'.outboxEvents = db.outboxEvents
  auditLogs : db'.auditLogs = db.auditLogs

/-- What the statements of a transaction write, table by table. -/
structure Written (db : Database) (row : OrderRow) (c : StoreCall) (db' : Database) : Prop where
  orders : db'.orders.rows = db.orders.rows.map (OrderRow.setColumns row.orderID (c.columns row))
  orderItems : db'.orderItems.rows = db.orderItems.rows.map (OrderItemRow.setStatus row.orderID c.marks)
  stock : StockWritten db row c db'
  payments : PaymentsWritten db row c db'
  shipments : ShipmentsWritten db c db'
  kept : Kept db db'

variable {db db' : Database} {row : OrderRow} {event : Option OutboxEvent}

variable {orderID : String}

theorem orderItemsForReservation_eq_ok {items : List OrderItemRow}
    (h : orderItemsForReservation db orderID = .ok items) :
    db.itemsOf orderID ≠ [] ∧ items = db.itemsOf orderID := by
  unfold orderItemsForReservation at h
  split_ifs at h with hne
  cases h
  exact ⟨hne, rfl⟩

theorem marks_same (rows : List OrderItemRow) :
    rows.map (OrderItemRow.setStatus orderID fun status => status) = rows :=
  (List.map_congr_left fun item _ => OrderItemRow.setStatus_id orderID item).trans rows.map_id

theorem columns_same (rows : List OrderRow) : rows.map (OrderRow.setColumns orderID fun o => o) = rows := by
  have hid : ∀ row : OrderRow, OrderRow.setColumns orderID (fun o => o) row = row := by
    intro row
    unfold OrderRow.setColumns
    split_ifs <;> rfl
  exact (List.map_congr_left fun row _ => hid row).trans rows.map_id

theorem order?_of_setColumns {locked : String} (orderID : String) {f : OrderColumns → OrderColumns}
    (h : db'.orders.rows = db.orders.rows.map (OrderRow.setColumns locked f)) :
    db'.order? orderID = (db.order? orderID).map (OrderRow.setColumns locked f) := by
  have hkey : (fun row : OrderRow => decide (row.orderID = orderID)) ∘ OrderRow.setColumns locked f =
      fun row => decide (row.orderID = orderID) := by
    funext row
    simp only [Function.comp, OrderRow.setColumns]
    split_ifs <;> rfl
  rw [order?, order?, Table.find?, Table.find?, h, List.find?_map, hkey]

theorem setColumns_twice (orderID : String) (f g : OrderColumns → OrderColumns) (rows : List OrderRow) :
    (rows.map (OrderRow.setColumns orderID f)).map (OrderRow.setColumns orderID g) =
      rows.map (OrderRow.setColumns orderID fun o => g (f o)) := by
  rw [List.map_map]
  exact List.map_congr_left fun row _ => OrderRow.setColumns_setColumns orderID f g row

theorem written_of_compensation {source : OutboxEvent} {status : OrderStatus} {audit : AuditLog}
    (hsource : source.orderID = row.orderID)
    (h : (Transaction.compensation source status audit).statements db row = .ok (event, db')) :
    Written db row (.projector (.recordCompensation source status audit)) db' := by
  obtain ⟨affected, heffects, h⟩ := bind_eq_ok.mp h
  obtain ⟨recorded, hupsert, h⟩ := bind_eq_ok.mp h
  cases h
  obtain ⟨compensationEvents, rfl⟩ := upsertCompensation_frame hupsert
  unfold applyCompensationEffects at heffects
  rw [hsource] at heffects
  split at heffects
  · rename_i htype
    cases releaseReservedStock_eq_ok heffects
    have hvoids : (StoreCall.projector (.recordCompensation source status audit)).voids = false := by
      simp [StoreCall.voids, htype]
    have hreleases : (StoreCall.projector (.recordCompensation source status audit)).releases = true := by
      simp [StoreCall.releases, htype]
    refine ⟨?_, ?_, .released _ _ audit.createdAt hreleases rfl rfl, .same _ _ rfl hvoids rfl,
      .same _ _ rfl rfl, ⟨rfl, rfl, rfl, rfl⟩⟩
    · rw [StoreCall.columns_of_not_voids hvoids]
      rfl
    · rw [StoreCall.marks_of_releases hreleases]
      rfl
  · rename_i htype
    obtain ⟨released, hrelease, heffects⟩ := bind_eq_ok.mp heffects
    cases heffects
    cases releaseReservedStock_eq_ok hrelease
    have hvoids : (StoreCall.projector (.recordCompensation source status audit)).voids = true := by
      simp [StoreCall.voids, htype]
    have hreleases : (StoreCall.projector (.recordCompensation source status audit)).releases = true := by
      simp [StoreCall.releases, htype]
    refine ⟨?_, ?_, .released _ _ audit.createdAt hreleases rfl rfl, .voided _ _ audit.createdAt hvoids rfl,
      .same _ _ rfl rfl, ⟨rfl, rfl, rfl, rfl⟩⟩
    · rw [StoreCall.columns_of_voids hvoids]
      exact setColumns_twice _ _ _ _
    · rw [StoreCall.marks_of_releases hreleases]
      rfl
  · rename_i hpayment hshipment
    cases heffects
    have hvoids : (StoreCall.projector (.recordCompensation source status audit)).voids = false := by
      simpa [StoreCall.voids] using hshipment
    have hreleases : (StoreCall.projector (.recordCompensation source status audit)).releases = false := by
      simpa [StoreCall.releases] using ⟨hpayment, hshipment⟩
    refine ⟨?_, ?_, .same _ _ rfl hreleases rfl rfl, .same _ _ rfl hvoids rfl, .same _ _ rfl rfl,
      ⟨rfl, rfl, rfl, rfl⟩⟩
    · rw [StoreCall.columns_of_not_voids hvoids]
      rfl
    · rw [show StoreCall.marks (.projector (.recordCompensation source status audit)) = fun status => status
        from funext fun status => by simp [StoreCall.marks, hreleases]]
      exact (marks_same _).symm

theorem written_of_sets (hreserves : c.reserves = false) (hreleases : c.releases = false)
    (hauthorizes : c.authorizes = false) (hvoids : c.voids = false) (hships : c.ships = false)
    (hmarks : c.marks = fun status => status) : Written db row c (db.updateOrder row.orderID (c.sets row)) where
  orders := by
    rw [StoreCall.columns_of_not_voids hvoids]
    rfl
  orderItems := by
    rw [hmarks]
    exact (marks_same _).symm
  stock := .same _ _ hreserves hreleases rfl rfl
  payments := .same _ _ hauthorizes hvoids rfl
  shipments := .same _ _ hships rfl
  kept := ⟨rfl, rfl, rfl, rfl⟩

variable {tx : Transaction}

theorem written_of_statements (htx : c.transaction = some (row.orderID, tx))
    (h : tx.statements db row = .ok (event, db')) : Written db row c db' := by
  cases c with
  | insertOrder => cases htx
  | getOrder => cases htx
  | updateOrderStatus orderID status now event audit =>
    cases htx
    cases h
    exact written_of_sets (c := .updateOrderStatus row.orderID status now event audit) rfl rfl rfl rfl rfl rfl
  | projector c =>
    obtain ⟨hsource, rfl⟩ := Prod.mk.inj (Option.some.inj htx)
    cases c with
    | recordInventoryReserved source next audit =>
      obtain ⟨items, hitems, h⟩ := bind_eq_ok.mp h
      obtain ⟨⟨entries, reserved⟩, hlines, h⟩ := bind_eq_ok.mp h
      cases h
      obtain ⟨hne, rfl⟩ := orderItemsForReservation_eq_ok hitems
      obtain ⟨inventoryItems, stockReservations, rfl⟩ := reserveLines_frame hlines
      exact ⟨rfl, rfl, .reserved source next audit entries _ _ hne hlines rfl rfl, .same _ _ rfl rfl rfl,
        .same _ _ rfl rfl, ⟨rfl, rfl, rfl, rfl⟩⟩
    | recordInventoryRejected source next audit =>
      cases h
      exact ⟨rfl, rfl, .same _ _ rfl rfl rfl rfl, .same _ _ rfl rfl rfl, .same _ _ rfl rfl,
        ⟨rfl, rfl, rfl, rfl⟩⟩
    | recordPaymentAuthorized source next payment audit =>
      obtain ⟨authorized, hupsert, h⟩ := bind_eq_ok.mp h
      cases h
      obtain ⟨payments, hstatus, _, hpayments, rfl⟩ := upsertPaymentAuthorization_eq_ok hupsert
      exact ⟨rfl, (marks_same _).symm, .same _ _ rfl rfl rfl rfl,
        .authorized source next payment audit _ hstatus hpayments, .same _ _ rfl rfl, ⟨rfl, rfl, rfl, rfl⟩⟩
    | recordPaymentFailed source next audit =>
      cases h
      exact written_of_sets (c := .projector (.recordPaymentFailed source next audit)) rfl rfl rfl rfl rfl rfl
    | recordShipmentCreated source next shipment audit =>
      obtain ⟨shipped, hupsert, h⟩ := bind_eq_ok.mp h
      cases h
      obtain ⟨shipments, _, hshipments, rfl⟩ := upsertShipment_eq_ok hupsert
      exact ⟨rfl, (marks_same _).symm, .same _ _ rfl rfl rfl rfl, .same _ _ rfl rfl rfl,
        .shipped source next shipment audit _ hshipments, ⟨rfl, rfl, rfl, rfl⟩⟩
    | recordShipmentFailed source next audit =>
      cases h
      exact written_of_sets (c := .projector (.recordShipmentFailed source next audit)) rfl rfl rfl rfl rfl rfl
    | recordOrderCancelled source next audit =>
      obtain ⟨released, hrelease, h⟩ := bind_eq_ok.mp h
      cases h
      cases releaseReservedStock_eq_ok hrelease
      exact ⟨setColumns_twice _ _ _ _, rfl, .released _ _ next.occurredAt rfl rfl rfl,
        .voided _ _ next.occurredAt rfl rfl, .same _ _ rfl rfl, ⟨rfl, rfl, rfl, rfl⟩⟩
    | recordNotificationQueued source audit =>
      obtain ⟨queued, hupsert, h⟩ := bind_eq_ok.mp h
      cases h
      obtain ⟨notificationEvents, rfl⟩ := upsertNotification_frame hupsert
      exact ⟨(columns_same _).symm, (marks_same _).symm, .same _ _ rfl rfl rfl rfl, .same _ _ rfl rfl rfl,
        .same _ _ rfl rfl, ⟨rfl, rfl, rfl, rfl⟩⟩
    | recordCompensation source status audit => exact written_of_compensation hsource h

/-- The event a transaction inserts is the one it was handed, up to its payload. -/
theorem stamp_of_statements (r : c.Result) (htx : c.transaction = some (orderID, tx))
    (h : tx.statements db row = .ok (event, db')) :
    event.map (fun e => (e.envelope, e.occurredAt)) = (c.emitted r).map fun e => (e.envelope, e.occurredAt) := by
  cases c with
  | insertOrder => cases htx
  | getOrder => cases htx
  | updateOrderStatus orderID status now event audit =>
    cases htx
    cases h
    rfl
  | projector c =>
    obtain ⟨_, rfl⟩ := Prod.mk.inj (Option.some.inj htx)
    cases c with
    | recordInventoryReserved source next audit =>
      obtain ⟨_, _, h⟩ := bind_eq_ok.mp h
      obtain ⟨_, _, h⟩ := bind_eq_ok.mp h
      cases h
      rfl
    | recordCompensation source status audit =>
      obtain ⟨_, _, h⟩ := bind_eq_ok.mp h
      obtain ⟨_, _, h⟩ := bind_eq_ok.mp h
      cases h
      rfl
    | recordPaymentAuthorized | recordShipmentCreated | recordOrderCancelled | recordNotificationQueued =>
      obtain ⟨_, _, h⟩ := bind_eq_ok.mp h
      cases h
      rfl
    | recordInventoryRejected | recordPaymentFailed | recordShipmentFailed =>
      cases h
      rfl

theorem envelope_of_statements (r : c.Result) (htx : c.transaction = some (orderID, tx))
    (h : tx.statements db row = .ok (event, db')) :
    event.map OutboxEvent.envelope = (c.emitted r).map OutboxEvent.envelope := by
  have hstamp := congrArg (Option.map Prod.fst) (stamp_of_statements r htx h)
  rwa [Option.map_map, Option.map_map] at hstamp

end Database

end FulfillHub
