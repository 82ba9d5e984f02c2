import FulfillHub.Commerce.Envelope
import FulfillHub.Commerce.MemoryStore
import FulfillHub.Postgres.Schema

/-!
# The PostgreSQL store

The transactions of `internal/postgres/store.go`. A transaction is a sequence of statements, each of which
reads and writes the database or fails, and a failure rolls the transaction back. The operations that
move an order share one shape: lock its row, check the target status if there is one, execute their own
statements, insert the next event and an audit entry. `transact` is that shape, and each operation is
`transact` applied to its own statements.

A statement is checked against the constraints on the columns it writes. A constraint that can not fail
where the statement stands, because it was checked before, is not checked again. The row locks serialise
the transactions on one order, so a transaction is one step here.
-/

namespace FulfillHub

open Relational

/-- An instant as a `TIMESTAMPTZ` column keeps it, to the microsecond. -/
def timestamptz (t : Time) : Time := t / 1000 * 1000

/-- A table after a statement, or the constraint the statement breaks. -/
def orViolation {α : Type} (context constraint : String) : Option α → Except Error α
  | some a => .ok a
  | none => .error ((PgError.uniqueViolation constraint).within context)

/-! ### Rows under an update -/

/-- `UPDATE orders SET ... WHERE order_id = $1`. -/
def OrderRow.setColumns (orderID : String) (f : OrderColumns → OrderColumns) (row : OrderRow) : OrderRow :=
  if row.orderID = orderID then { row with toOrderColumns := f row.toOrderColumns } else row

/-- `UPDATE order_items SET reservation_status = ... WHERE order_id = $1`. -/
def OrderItemRow.setStatus (orderID : String) (f : ReservationStatus → ReservationStatus)
    (row : OrderItemRow) : OrderItemRow :=
  if row.orderID = orderID then { row with reservationStatus := f row.reservationStatus } else row

/-- The stock a reservation moves, from what is available to what is reserved. -/
def InventoryItem.take (id : Nat) (quantity : Int) (item : InventoryItem) : InventoryItem :=
  if item.id = id then
    { item with
      availableQuantity := item.availableQuantity - quantity
      reservedQuantity := item.reservedQuantity + quantity }
  else item

/-- The stock a release moves back. -/
def InventoryItem.restore (item : InventoryItem) : Option Int → InventoryItem
  | some quantity =>
    { item with
      availableQuantity := item.availableQuantity + quantity
      reservedQuantity := max (item.reservedQuantity - quantity) 0 }
  | none => item

def StockReservation.release (orderID : String) (at' : Time) (row : StockReservation) : StockReservation :=
  if row.orderID = orderID ∧ row.status ≠ .released then
    { row with status := .released, releasedAt := some (timestamptz at') }
  else row

def PaymentAuthorization.void (orderID : String) (at' : Time) (row : PaymentAuthorization) : PaymentAuthorization :=
  if row.orderID = orderID ∧ row.status = .authorized then
    { row with status := .voided, voidedAt := some (timestamptz at') }
  else row

theorem OrderRow.conflict_setColumns (orderID : String) (f : OrderColumns → OrderColumns) (a b : OrderRow) :
    conflict (setColumns orderID f a) (setColumns orderID f b) = conflict a b := by
  unfold setColumns
  split_ifs <;> rfl

theorem OrderItemRow.conflict_setStatus (orderID : String) (f : ReservationStatus → ReservationStatus)
    (a b : OrderItemRow) : conflict (setStatus orderID f a) (setStatus orderID f b) = conflict a b := by
  unfold setStatus
  split_ifs <;> rfl

theorem InventoryItem.conflict_take (id : Nat) (quantity : Int) (a b : InventoryItem) :
    conflict (take id quantity a) (take id quantity b) = conflict a b := by
  unfold take
  split_ifs <;> rfl

theorem InventoryItem.conflict_restore (held : InventoryItem → Option Int) (a b : InventoryItem) :
    conflict (a.restore (held a)) (b.restore (held b)) = conflict a b := by
  cases held a <;> cases held b <;> rfl

theorem StockReservation.conflict_release (orderID : String) (at' : Time) (a b : StockReservation) :
    conflict (release orderID at' a) (release orderID at' b) = conflict a b := by
  unfold release
  split_ifs <;> rfl

theorem PaymentAuthorization.conflict_void (orderID : String) (at' : Time) (a b : PaymentAuthorization) :
    conflict (void orderID at' a) (void orderID at' b) = conflict a b := by
  unfold void
  split_ifs <;> rfl

namespace Database

variable (db : Database)

/-! ### Reading -/

def order? (orderID : String) : Option OrderRow := db.orders.find? fun row => row.orderID = orderID

/-- `SELECT ... FROM order_items WHERE order_id = $1 ORDER BY id ASC`. -/
def itemsOf (orderID : String) : List OrderItemRow :=
  db.orderItems.rows.filter fun row => row.orderID = orderID

def lockOrderForUpdate (orderID : String) : Except Error OrderRow :=
  match db.order? orderID with
  | some row => .ok row
  | none => .error errNotFound

def shipmentOf (row : ShipmentRow) : Shipment where
  shipmentID := row.shipmentID
  status := row.status
  carrier := row.carrier
  trackingNumber := row.trackingNumber
  events := [⟨row.createdAt, row.status, "Shipment projection created."⟩]

def paymentOf (row : OrderRow) : Option Payment :=
  if row.paymentProvider.isSome || row.paymentStatus.isSome || row.paymentAuthorizationID.isSome then
    some {
      provider := row.paymentProvider.getD ""
      status := row.paymentStatus.getD .blank
      authorizationID := row.paymentAuthorizationID.getD ""
      credentialRef := row.paymentCredentialRef.getD "" }
  else none

/-- The order the rows of an order are read as. -/
def assemble (row : OrderRow) : Order where
  orderID := row.orderID
  merchantID := row.merchantID
  externalOrderID := row.externalOrderID
  status := row.status
  currency := row.currency
  totals := {
    subtotal := ⟨row.subtotalAmount, row.currency⟩
    shipping := ⟨row.shippingAmount, row.currency⟩
    total := ⟨row.totalAmount, row.currency⟩ }
  items := (db.itemsOf row.orderID).map fun item =>
    ⟨item.sku, item.quantity, ⟨item.unitPriceAmount, item.unitPriceCurrency⟩, item.reservationStatus⟩
  payment := paymentOf row
  shipment := (db.shipments.find? fun shipment => shipment.orderID = row.orderID).map shipmentOf
  shippingAddressRef := row.shippingAddressRef.getD ""
  createdAt := row.createdAt
  updatedAt := row.updatedAt

def getOrderTx (orderID : String) : Except Error Order :=
  match db.order? orderID with
  | some row => .ok (db.assemble row)
  | none => .error errNotFound

def orderByIdempotency (merchantID idempotencyKey : String) : Option String :=
  (db.idempotencyKeys.find? fun row => row.merchantID = merchantID && row.idempotencyKey = idempotencyKey).map
    IdempotencyKey.orderID

/-! ### Writing -/

def updateOrder (orderID : String) (f : OrderColumns → OrderColumns) : Database :=
  { db with orders := db.orders.update (OrderRow.setColumns orderID f) (OrderRow.conflict_setColumns orderID f) }

def markOrderItems (orderID : String) (f : ReservationStatus → ReservationStatus) : Database :=
  { db with
    orderItems := db.orderItems.update (OrderItemRow.setStatus orderID f)
      (OrderItemRow.conflict_setStatus orderID f) }

def upsertMerchant (merchantID : String) : Database :=
  if merchantID ∈ db.merchants then db else { db with merchants := db.merchants ++ [merchantID] }

def insertOutboxEvent (event : OutboxEvent) : Except Error Database := do
  ensure event.occurredAt.encodable (errYearRange.within "marshal outbox event")
  let outboxEvents ← orViolation "insert outbox event" "outbox_events_pkey"
    (db.outboxEvents.insert event.withEnvelopeDefaults)
  ensure (db.order? event.orderID).isSome ((PgError.foreignKeyViolation "outbox_events"
    "outbox_events_order_id_fkey").within "insert outbox event")
  pure { db with outboxEvents := outboxEvents }

/-- The next event of an operation, if it has one. -/
def insertNext : Option OutboxEvent → Except Error Database
  | some event => db.insertOutboxEvent event
  | none => .ok db

def insertAuditLog (audit : AuditLog) : Database := { db with auditLogs := db.auditLogs ++ [audit] }

/-! ### Stock -/

/-- What a reservation asks of an inventory item: it lies in an active warehouse of the merchant and has
enough available. -/
def isCandidate (merchantID sku : String) (quantity : Int) (item : InventoryItem) : Bool :=
  (db.warehouses.rows.any fun warehouse => warehouse.id = item.warehouseID &&
    warehouse.merchantID = merchantID && warehouse.status = .active) &&
    item.sku = sku && quantity ≤ item.availableQuantity

/-- `ORDER BY available_quantity DESC, id ASC`. -/
def candidateBefore (a b : InventoryItem) : Bool :=
  decide (b.availableQuantity < a.availableQuantity ∨ a.availableQuantity = b.availableQuantity ∧ a.id < b.id)

/-- The warehouse the stock of a line is taken from, and the database without it. -/
def takeCandidate (merchantID sku : String) (quantity : Int) : Except Error (String × Database) :=
  match db.inventoryItems.first? candidateBefore (db.isCandidate merchantID sku quantity) with
  | none => .error (.wrap .insufficientStock ("insufficient stock for sku " ++ sku))
  | some item => do
      ensure (fitsInt4 (item.reservedQuantity + quantity)) (PgError.outOfRange.within "reserve inventory item")
      pure (item.warehouseID, { db with
        inventoryItems := db.inventoryItems.update (InventoryItem.take item.id quantity)
          (InventoryItem.conflict_take item.id quantity) })

def reservationOf (orderID sku : String) : Option StockReservation :=
  db.stockReservations.find? fun row => row.orderID = orderID && row.sku = sku

def reserveInventoryItem (merchantID orderID : String) (item : OrderItemRow) : Except Error (String × Database) :=
  match db.reservationOf orderID item.sku with
  | some existing =>
    if existing.status = .reserved then
      if existing.quantity ≠ item.quantity then
        .error (.plain ("reservation quantity mismatch for sku " ++ item.sku))
      else .ok (existing.warehouseID.getD "", db)
    else db.takeCandidate merchantID item.sku item.quantity
  | none => db.takeCandidate merchantID item.sku item.quantity

def upsertStockReservation (row : StockReservation) : Except Error Database := do
  let stockReservations ← orViolation "upsert stock reservation" "stock_reservations_pkey"
    (db.stockReservations.upsert (fun old => old.orderID = row.orderID && old.sku = row.sku)
      (fun old => { row with warehouseID := row.warehouseID <|> old.warehouseID }) row)
  pure { db with stockReservations := stockReservations }

/-- One round of the loop over the lines of an order, with the entry it adds to the event. -/
def reserveLine (source : OutboxEvent) (at' : Time) (item : OrderItemRow) : Except Error (Value × Database) := do
  let (warehouseID, db) ← db.reserveInventoryItem source.merchantID source.orderID item
  let db ← db.upsertStockReservation
    ⟨source.orderID, item.sku, nullableString warehouseID, item.quantity, .reserved, timestamptz at', none⟩
  pure (.obj [("sku", .str item.sku), ("quantity", .num item.quantity), ("warehouse_id", .str warehouseID)], db)

def reserveLines (source : OutboxEvent) (at' : Time) :
    List OrderItemRow → Database → Except Error (List Value × Database)
  | [], db => .ok ([], db)
  | item :: rest, db => do
      let (reservation, db) ← db.reserveLine source at' item
      let (reservations, db) ← reserveLines source at' rest db
      pure (reservation :: reservations, db)

/-- What an order holds of an inventory item. -/
def heldQuantity (orderID : String) (item : InventoryItem) : Option Int :=
  (db.stockReservations.find? fun row => row.orderID = orderID && row.status = .reserved &&
    row.warehouseID = some item.warehouseID && row.sku = item.sku).map StockReservation.quantity

def releaseInventoryItems (orderID : String) : Except Error Database := do
  ensure (db.inventoryItems.rows.all fun item => (db.heldQuantity orderID item).all fun quantity =>
    fitsInt4 (item.availableQuantity + quantity)) (PgError.outOfRange.within "release inventory items")
  pure { db with
    inventoryItems := db.inventoryItems.update (fun item => item.restore (db.heldQuantity orderID item))
      (InventoryItem.conflict_restore (db.heldQuantity orderID)) }

def releaseReservations (orderID : String) (at' : Time) : Database :=
  { db with
    stockReservations := db.stockReservations.update (StockReservation.release orderID at')
      (StockReservation.conflict_release orderID at') }

def releasedStatus (status : ReservationStatus) : ReservationStatus :=
  if status = .reserved then .released else status

def releaseReservedStock (orderID : String) (at' : Time) : Except Error Database := do
  let db ← db.releaseInventoryItems orderID
  pure ((db.releaseReservations orderID at').markOrderItems orderID releasedStatus)

/-! ### Payments -/

def voidAuthorizations (orderID : String) (at' : Time) : Database :=
  { db with
    paymentAuthorizations := db.paymentAuthorizations.update (PaymentAuthorization.void orderID at')
      (PaymentAuthorization.conflict_void orderID at') }

def voidedColumns (columns : OrderColumns) : OrderColumns :=
  if columns.paymentStatus = some .authorized then { columns with paymentStatus := some .voided } else columns

def voidAuthorizedPayment (orderID : String) (at' : Time) : Database :=
  (db.voidAuthorizations orderID at').updateOrder orderID voidedColumns

def applyCompensationEffects (source : OutboxEvent) (at' : Time) : Except Error Database :=
  match source.eventType with
  | .paymentFailed => db.releaseReservedStock source.orderID at'
  | .shipmentFailed => do
      let db ← db.releaseReservedStock source.orderID at'
      pure (db.voidAuthorizedPayment source.orderID at')
  | _ => .ok db

end Database

/-! ### Transactions on one order -/

/-- What a transaction does with the row it has locked: the status it validates the move to, and its
statements, which end with the event to insert. -/
structure Transaction where
  target : Option OrderStatus
  statements : Database → OrderRow → Except Error (Option OutboxEvent × Database)

def orderItemsForReservation (db : Database) (orderID : String) : Except Error (List OrderItemRow) :=
  if db.itemsOf orderID = [] then .error errNotFound else .ok (db.itemsOf orderID)

def providerOf (row : OrderRow) (payment : Payment) : String :=
  if payment.provider = "" then row.paymentProvider.getD "fake-payment" else payment.provider

def authorizationRow (source next : OutboxEvent) (payment : Payment) (row : OrderRow) : PaymentAuthorization where
  authorizationID := payment.authorizationID
  orderID := source.orderID
  merchantID := source.merchantID
  provider := providerOf row payment
  status := payment.status
  amount := row.totalAmount
  currency := row.currency
  authorizedAt := timestamptz next.occurredAt
  voidedAt := none

def authorizationPayload (payment : Payment) (row : OrderRow) : Payload :=
  [("order_status", .str OrderStatus.paymentAuthorized.text),
    ("payment", .obj [("provider", .str (providerOf row payment)),
      ("authorization_id", .str payment.authorizationID),
      ("amount", .num row.totalAmount), ("currency", .str row.currency)])]

def shipmentRow (source next : OutboxEvent) (shipment : Shipment) : ShipmentRow where
  shipmentID := shipment.shipmentID
  orderID := source.orderID
  merchantID := source.merchantID
  carrier := shipment.carrier
  trackingNumber := shipment.trackingNumber
  status := shipment.status
  createdAt := timestamptz next.occurredAt
  updatedAt := timestamptz next.occurredAt

namespace Database

variable (db : Database)

def upsertPaymentAuthorization (new : PaymentAuthorization) : Except Error Database := do
  ensure (admitsAuthorizationStatus new.status) ((PgError.checkViolation "payment_authorizations"
    "chk_payment_authorizations_status").within "upsert payment authorization")
  ensure (decide (0 ≤ new.amount)) ((PgError.checkViolation "payment_authorizations"
    "payment_authorizations_amount_check").within "upsert payment authorization")
  let paymentAuthorizations ← orViolation "upsert payment authorization" "payment_authorizations_pkey"
    (db.paymentAuthorizations.upsert (fun old => old.orderID = new.orderID)
      (fun old => { new with merchantID := old.merchantID }) new)
  pure { db with paymentAuthorizations := paymentAuthorizations }

def upsertShipment (new : ShipmentRow) : Except Error Database := do
  ensure (admitsShipmentStatus new.status) ((PgError.checkViolation "shipments"
    "chk_shipments_status").within "upsert shipment")
  let shipments ← orViolation "upsert shipment" "shipments_pkey"
    (db.shipments.upsert (fun old => old.orderID = new.orderID)
      (fun old => { new with merchantID := old.merchantID, createdAt := old.createdAt }) new)
  pure { db with shipments := shipments }

def upsertNotification (new : NotificationEvent) : Except Error Database := do
  let notificationEvents ← orViolation "upsert notification event" "notification_events_source_message_id_key"
    (db.notificationEvents.upsert (fun old => old.sourceMessageID = new.sourceMessageID)
      (fun old => { old with
        status := new.status, correlationID := new.correlationID, createdAt := new.createdAt }) new)
  pure { db with notificationEvents := notificationEvents }

def upsertCompensation (new : CompensationEvent) : Except Error Database := do
  let compensationEvents ← orViolation "upsert compensation event" "compensation_events_source_message_id_key"
    (db.compensationEvents.upsert (fun old => old.sourceMessageID = new.sourceMessageID)
      (fun old => { old with
        targetOrderStatus := new.targetOrderStatus, status := new.status,
        correlationID := new.correlationID, createdAt := new.createdAt }) new)
  pure { db with compensationEvents := compensationEvents }

end Database

namespace Transaction

def updateOrderStatus (status : OrderStatus) (now : Time) (event : OutboxEvent) (audit : AuditLog) : Transaction where
  target := some status
  statements db row := .ok (
    some { event with payload := orderStatusEventPayload status now audit event.payload },
    db.updateOrder row.orderID fun o => { o with status := status, updatedAt := timestamptz now })

def inventoryReserved (source next : OutboxEvent) : Transaction where
  target := some .inventoryReserved
  statements db row := do
    let items ← orderItemsForReservation db row.orderID
    let (reservations, db) ← Database.reserveLines source next.occurredAt items db
    let db := db.markOrderItems row.orderID fun _ => .reserved
    let db := db.updateOrder row.orderID fun o =>
      { o with status := .inventoryReserved, updatedAt := timestamptz next.occurredAt }
    pure (some { next with payload := [("order_status", .str OrderStatus.inventoryReserved.text),
      ("reservations", .arr reservations)] }, db)

def inventoryRejected (next : OutboxEvent) (audit : AuditLog) : Transaction where
  target := none
  statements db row :=
    let db := db.markOrderItems row.orderID fun _ => .rejected
    let db := db.updateOrder row.orderID fun o => { o with updatedAt := timestamptz next.occurredAt }
    .ok (some { next with payload := failurePayload "inventory" (audit.details.get "error") }, db)

def paymentAuthorized (source next : OutboxEvent) (payment : Payment) : Transaction where
  target := some .paymentAuthorized
  statements db row := do
    let db ← db.upsertPaymentAuthorization (authorizationRow source next payment row)
    let db := db.updateOrder row.orderID fun o => { o with
      status := .paymentAuthorized
      paymentProvider := some (providerOf row payment)
      paymentStatus := some payment.status
      paymentAuthorizationID := some payment.authorizationID
      updatedAt := timestamptz next.occurredAt }
    pure (some { next with payload := authorizationPayload payment row }, db)

def paymentFailed (next : OutboxEvent) (audit : AuditLog) : Transaction where
  target := none
  statements db row :=
    let db := db.updateOrder row.orderID fun o => { o with
      paymentProvider := some (row.paymentProvider.getD "fake-payment")
      paymentStatus := some .failed
      paymentAuthorizationID := none
      updatedAt := timestamptz next.occurredAt }
    .ok (some { next with payload := failurePayload "payment" (audit.details.get "error") }, db)

def shipmentCreated (source next : OutboxEvent) (shipment : Shipment) : Transaction where
  target := some .shipmentCreated
  statements db row := do
    let db ← db.upsertShipment (shipmentRow source next shipment)
    let db := db.updateOrder row.orderID fun o =>
      { o with status := .shipmentCreated, updatedAt := timestamptz next.occurredAt }
    pure (some { next with payload := shipmentPayload shipment }, db)

def shipmentFailed (next : OutboxEvent) (audit : AuditLog) : Transaction where
  target := none
  statements db row :=
    let db := db.updateOrder row.orderID fun o => { o with updatedAt := timestamptz next.occurredAt }
    .ok (some { next with payload := failurePayload "shipment" (audit.details.get "error") }, db)

def orderCancelled (next : OutboxEvent) (audit : AuditLog) : Transaction where
  target := some .cancelled
  statements db row := do
    let db := db.updateOrder row.orderID fun o =>
      { o with status := .cancelled, updatedAt := timestamptz next.occurredAt }
    let db ← db.releaseReservedStock row.orderID next.occurredAt
    let db := db.voidAuthorizedPayment row.orderID next.occurredAt
    pure (some { next with
      payload := orderStatusEventPayload .cancelled next.occurredAt audit next.payload }, db)

def notificationQueued (source : OutboxEvent) (audit : AuditLog) : Transaction where
  target := none
  statements db _ := do
    let db ← db.upsertNotification ⟨source.orderID, source.merchantID, source.messageID, source.eventType,
      "email", "queued", source.correlationID, timestamptz audit.createdAt⟩
    pure (none, db)

def compensation (source : OutboxEvent) (status : OrderStatus) (audit : AuditLog) : Transaction where
  target := some status
  statements db row := do
    let db := db.updateOrder row.orderID fun o =>
      { o with status := status, updatedAt := timestamptz audit.createdAt }
    let db ← db.applyCompensationEffects source audit.createdAt
    let db ← db.upsertCompensation ⟨source.orderID, source.merchantID, source.messageID, source.eventType,
      audit.action, status, "recorded", source.correlationID, timestamptz audit.createdAt⟩
    pure (none, db)

end Transaction

namespace Database

variable (db : Database)

def transact (orderID : String) (tx : Transaction) (audit : AuditLog) : Except Error Database := do
  let row ← db.lockOrderForUpdate orderID
  MemoryStore.checkTarget row.status tx.target
  let (event, db) ← tx.statements db row
  let db ← db.insertNext event
  pure (db.insertAuditLog audit)

def updateOrderStatus (orderID : String) (status : OrderStatus) (now : Time) (event : OutboxEvent)
    (audit : AuditLog) : Except Error (Order × Database) := do
  let db ← db.transact orderID (.updateOrderStatus status now event audit) audit
  let order ← db.getOrderTx orderID
  pure (order, db)

def recordInventoryReserved (source next : OutboxEvent) (audit : AuditLog) :=
  db.transact source.orderID (.inventoryReserved source next) audit

def recordInventoryRejected (source next : OutboxEvent) (audit : AuditLog) :=
  db.transact source.orderID (.inventoryRejected next audit) audit

def recordPaymentAuthorized (source next : OutboxEvent) (payment : Payment) (audit : AuditLog) :=
  db.transact source.orderID (.paymentAuthorized source next payment) audit

def recordPaymentFailed (source next : OutboxEvent) (audit : AuditLog) :=
  db.transact source.orderID (.paymentFailed next audit) audit

def recordShipmentCreated (source next : OutboxEvent) (shipment : Shipment) (audit : AuditLog) :=
  db.transact source.orderID (.shipmentCreated source next shipment) audit

def recordShipmentFailed (source next : OutboxEvent) (audit : AuditLog) :=
  db.transact source.orderID (.shipmentFailed next audit) audit

def recordOrderCancelled (source next : OutboxEvent) (audit : AuditLog) :=
  db.transact source.orderID (.orderCancelled next audit) audit

def recordNotificationQueued (source : OutboxEvent) (audit : AuditLog) :=
  db.transact source.orderID (.notificationQueued source audit) audit

def recordCompensation (source : OutboxEvent) (status : OrderStatus) (audit : AuditLog) :=
  db.transact source.orderID (.compensation source status audit) audit

def projector : ProjectorCall → Except Error Database
  | .recordInventoryReserved source next audit => db.recordInventoryReserved source next audit
  | .recordInventoryRejected source next audit => db.recordInventoryRejected source next audit
  | .recordPaymentAuthorized source next payment audit => db.recordPaymentAuthorized source next payment audit
  | .recordPaymentFailed source next audit => db.recordPaymentFailed source next audit
  | .recordShipmentCreated source next shipment audit => db.recordShipmentCreated source next shipment audit
  | .recordShipmentFailed source next audit => db.recordShipmentFailed source next audit
  | .recordOrderCancelled source next audit => db.recordOrderCancelled source next audit
  | .recordNotificationQueued source audit => db.recordNotificationQueued source audit
  | .recordCompensation source status audit => db.recordCompensation source status audit

end Database

/-! ### Insertion -/

def nullablePaymentStatus (order : Order) : Option PaymentStatus :=
  order.payment.bind fun payment => if payment.status = .blank then none else some payment.status

def orderRow (merchantID currency : String) (order : Order) : OrderRow where
  status := order.status
  paymentProvider := order.payment.bind fun payment => nullableString payment.provider
  paymentStatus := nullablePaymentStatus order
  paymentAuthorizationID := order.payment.bind fun payment => nullableString payment.authorizationID
  updatedAt := timestamptz order.updatedAt
  orderID := order.orderID
  merchantID := merchantID
  externalOrderID := order.externalOrderID
  currency := currency
  subtotalAmount := order.totals.subtotal.amount
  shippingAmount := order.totals.shipping.amount
  totalAmount := order.totals.total.amount
  paymentCredentialRef := order.payment.bind fun payment => nullableString payment.credentialRef
  shippingAddressRef := nullableString order.shippingAddressRef
  createdAt := timestamptz order.createdAt

def orderItemRow (orderID currency : String) (item : OrderItem) : OrderItemRow :=
  ⟨orderID, item.sku, item.quantity, item.unitPrice.amount, currency, item.reservationStatus⟩

namespace Database

variable (db : Database)

def insertOrderRow (merchantID : String) (order : Order) : Except Error Database := do
  let currency ← (char3 order.currency).mapError (PgError.within "insert order")
  ensure (isValidOrderStatus order.status)
    ((PgError.checkViolation "orders" "chk_orders_status").within "insert order")
  ensure (admitsPaymentStatus (nullablePaymentStatus order))
    ((PgError.checkViolation "orders" "chk_orders_payment_status").within "insert order")
  match db.orders.insert (orderRow merchantID currency order) with
  | some orders => pure { db with orders := orders }
  | none => .error errDuplicateOrder

def insertOrderItem (orderID : String) (db : Database) (item : OrderItem) : Except Error Database := do
  ensure (fitsInt4 item.quantity) (PgError.outOfRange.within "insert order item")
  let currency ← (char3 item.unitPrice.currency).mapError (PgError.within "insert order item")
  ensure (decide (0 < item.quantity))
    ((PgError.checkViolation "order_items" "order_items_quantity_check").within "insert order item")
  ensure (decide (0 ≤ item.unitPrice.amount))
    ((PgError.checkViolation "order_items" "order_items_unit_price_amount_check").within "insert order item")
  let orderItems ← orViolation "insert order item" "order_items_order_id_sku_key"
    (db.orderItems.insert (orderItemRow orderID currency item))
  pure { db with orderItems := orderItems }

def insertIdempotencyKey (merchantID idempotencyKey orderID : String) : Except Error Database := do
  let idempotencyKeys ← orViolation "insert idempotency key" "idempotency_keys_pkey"
    (db.idempotencyKeys.insert ⟨merchantID, idempotencyKey, orderID⟩)
  pure { db with idempotencyKeys := idempotencyKeys }

/-- The texts that the statements of `InsertOrder` write, with what a statement answers to a NUL in them. -/
def insertionTexts (merchantID idempotencyKey : String) (order : Order) (event : OutboxEvent) (audit : AuditLog) :
    List (Error × List String) :=
  [(PgError.invalidByteSequence.within "upsert merchant", [merchantID]),
    (PgError.invalidByteSequence.within "insert order", [order.orderID, order.externalOrderID, order.currency,
      order.shippingAddressRef] ++ order.payment.toList.flatMap fun payment =>
        [payment.provider, payment.authorizationID, payment.credentialRef])] ++
  order.items.map (fun item =>
    (PgError.invalidByteSequence.within "insert order item", [item.sku, item.unitPrice.currency])) ++
  [(PgError.invalidByteSequence.within "insert idempotency key", [idempotencyKey]),
    (PgError.unsupportedEscape.within "insert outbox event", event.withEnvelopeDefaults.texts),
    (PgError.invalidByteSequence.within "insert audit log", [audit.merchantID, audit.orderID, audit.actorType,
      audit.actorID, audit.action, audit.correlationID]),
    (PgError.unsupportedEscape.within "insert audit log", audit.details.flatMap fun detail => [detail.1, detail.2])]

/-- The first statement with a NUL in a text fails. -/
def refuseNul : List (Error × List String) → Except Error Unit
  | [] => .ok ()
  | (err, texts) :: rest => do
      ensure (texts.all Text.nulFree) err
      refuseNul rest

/-- The insertions of `InsertOrder`, after the lookup has found no order. -/
def insertNewOrder (merchantID idempotencyKey : String) (order : Order) (event : OutboxEvent)
    (audit : AuditLog) : Except Error Database := do
  refuseNul (insertionTexts merchantID idempotencyKey order event audit)
  let db ← (db.upsertMerchant merchantID).insertOrderRow merchantID order
  let db ← order.items.foldlM (insertOrderItem order.orderID) db
  let db ← db.insertIdempotencyKey merchantID idempotencyKey order.orderID
  let db ← db.insertOutboxEvent event
  pure (db.insertAuditLog audit)

def insertOrder (merchantID idempotencyKey : String) (order : Order) (event : OutboxEvent)
    (audit : AuditLog) : Except Error ((Option Order × Bool) × Database) :=
  match db.orderByIdempotency merchantID idempotencyKey with
  | some existing => do
      let order ← db.getOrderTx existing
      pure ((some order, true), db)
  | none => do
      let db ← db.insertNewOrder merchantID idempotencyKey order event audit
      pure ((some order, false), db)

/-! ### Commit and rollback -/

/-- A transaction that succeeds is committed, one that fails is rolled back. -/
def commit {α : Type} : Except Error (α × Database) → Except Error α × Database
  | .ok (a, db') => (.ok a, db')
  | .error err => (.error err, db)

/-- The store's answer to each call. -/
def semantics : StoreSemantics Database
  | db, .insertOrder merchantID idempotencyKey order event audit =>
    db.commit (db.insertOrder merchantID idempotencyKey order event audit)
  | db, .getOrder orderID => (db.getOrderTx orderID, db)
  | db, .updateOrderStatus orderID status now event audit =>
    db.commit (db.updateOrderStatus orderID status now event audit)
  | db, .projector c => db.commit ((db.projector c).map fun db => ((), db))

end Database

end FulfillHub
