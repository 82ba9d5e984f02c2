import FulfillHub.Commerce.Ports
import FulfillHub.Commerce.StateMachine

/-!
# The in-memory store

`MemoryStore` of `internal/commerce/store.go`. Every operation runs under the store's mutex, so it is
one function from the store to an answer and the store afterwards. The operations that move an order
share one shape: find the order, check the target status if there is one, rewrite the order in place,
append the next event and an audit entry. `project` is that shape, and each operation is `project`
applied to its own rewriting and its own event.
-/

namespace FulfillHub

structure MemoryStore where
  orders : Finmap fun _ : String => Order
  ordersByExternal : Finmap fun _ : String => String
  ordersByIdempotency : Finmap fun _ : String => String
  outbox : List OutboxEvent
  auditLogs : List AuditLog

def newMemoryStore : MemoryStore := ⟨∅, ∅, ∅, [], []⟩

def scopedKey (merchantID value : String) : String := merchantID ++ ":" ++ value

/-- What an operation does to the order it loads: the status it validates the move to, the rewriting
of the order, and the event it appends. -/
structure Projection where
  target : Option OrderStatus
  update : Order → Order
  event : Order → Option OutboxEvent

namespace Order

def markItems (o : Order) (status : ReservationStatus) : Order :=
  { o with items := o.items.map fun item => { item with reservationStatus := status } }

def releaseItem (item : OrderItem) : OrderItem :=
  if item.reservationStatus = .reserved then { item with reservationStatus := .released } else item

def releaseItems (o : Order) : Order := { o with items := o.items.map releaseItem }

def voidedPayment (p : Payment) : Payment :=
  if p.status = .authorized then { p with status := .voided } else p

def voidPayment (o : Order) : Order := { o with payment := o.payment.map voidedPayment }

/-- The provider a payment is recorded under when the authorizer named none. -/
def paymentWithProvider (o : Order) (payment : Payment) : Payment :=
  if payment.provider = "" then
    match o.payment with
    | some current => { payment with provider := current.provider }
    | none => payment
  else payment

def failedPayment (o : Order) : Payment where
  provider :=
    match o.payment with
    | some current => if current.provider = "" then "fake-payment" else current.provider
    | none => "fake-payment"
  status := .failed
  authorizationID := ""
  credentialRef := ""

end Order

def failedShipment : Shipment := ⟨"", .failed, "", "", []⟩

def reservationPayload (items : List OrderItem) : Payload :=
  [("order_status", .str OrderStatus.inventoryReserved.text),
    ("reservations", .arr (items.map fun item => .obj [("sku", .str item.sku),
      ("quantity", .num item.quantity), ("warehouse_id", .str "memory")]))]

def paymentPayload (o : Order) (payment : Payment) : Payload :=
  [("order_status", .str OrderStatus.paymentAuthorized.text),
    ("payment", .obj [("provider", .str payment.provider),
      ("authorization_id", .str payment.authorizationID),
      ("amount", .num o.totals.total.amount), ("currency", .str o.currency)])]

def shipmentPayload (shipment : Shipment) : Payload :=
  [("order_status", .str OrderStatus.shipmentCreated.text),
    ("shipment", .obj [("shipment_id", .str shipment.shipmentID), ("carrier", .str shipment.carrier),
      ("tracking_number", .str shipment.trackingNumber)])]

namespace Projection

def updateOrderStatus (status : OrderStatus) (now : Time) (event : OutboxEvent) (audit : AuditLog) : Projection where
  target := some status
  update o := { o with status := status, updatedAt := now }
  event _ := some { event with payload := orderStatusEventPayload status now audit event.payload }

def inventoryReserved (next : OutboxEvent) : Projection where
  target := some .inventoryReserved
  update o := { o.markItems .reserved with status := .inventoryReserved, updatedAt := next.occurredAt }
  event o := some { next with payload := reservationPayload o.items }

def inventoryRejected (next : OutboxEvent) (audit : AuditLog) : Projection where
  target := none
  update o := { o.markItems .rejected with updatedAt := next.occurredAt }
  event _ := some { next with payload := failurePayload "inventory" (audit.details.get "error") }

def paymentAuthorized (next : OutboxEvent) (payment : Payment) : Projection where
  target := some .paymentAuthorized
  update o := { o with
    payment := some (o.paymentWithProvider payment), status := .paymentAuthorized,
    updatedAt := next.occurredAt }
  event o := some { next with payload := paymentPayload o (o.paymentWithProvider payment) }

def paymentFailed (next : OutboxEvent) (audit : AuditLog) : Projection where
  target := none
  update o := { o with payment := some o.failedPayment, updatedAt := next.occurredAt }
  event _ := some { next with payload := failurePayload "payment" (audit.details.get "error") }

def shipmentCreated (next : OutboxEvent) (shipment : Shipment) : Projection where
  target := some .shipmentCreated
  update o := { o with
    shipment := some shipment, status := .shipmentCreated, updatedAt := next.occurredAt }
  event _ := some { next with payload := shipmentPayload shipment }

def shipmentFailed (next : OutboxEvent) (audit : AuditLog) : Projection where
  target := none
  update o := { o with shipment := some failedShipment, updatedAt := next.occurredAt }
  event _ := some { next with payload := failurePayload "shipment" (audit.details.get "error") }

def orderCancelled (next : OutboxEvent) (audit : AuditLog) : Projection where
  target := some .cancelled
  update o := { o.releaseItems.voidPayment with status := .cancelled, updatedAt := next.occurredAt }
  event _ := some { next with
    payload := orderStatusEventPayload .cancelled next.occurredAt audit next.payload }

def notificationQueued : Projection where
  target := none
  update o := o
  event _ := none

/-- The side effects of a compensation: a failed payment or shipment releases the items, a failed
shipment also voids an authorized payment. -/
def compensate (eventType : EventType) (o : Order) : Order :=
  match eventType with
  | .paymentFailed => o.releaseItems
  | .shipmentFailed => o.releaseItems.voidPayment
  | _ => o

def compensation (source : OutboxEvent) (status : OrderStatus) (audit : AuditLog) : Projection where
  target := some status
  update o := { compensate source.eventType o with status := status, updatedAt := audit.createdAt }
  event _ := none

end Projection

namespace MemoryStore

def appendOutboxEvent (s : MemoryStore) (event : OutboxEvent) : MemoryStore :=
  { s with outbox := s.outbox ++ [event.withEnvelopeDefaults] }

def appendAudit (s : MemoryStore) (audit : AuditLog) : MemoryStore :=
  { s with auditLogs := s.auditLogs ++ [audit] }

/-- Rewrite one stored order, append its next event if there is one, and append the audit entry. -/
def commit (s : MemoryStore) (orderID : String) (order : Order) (event : Option OutboxEvent)
    (audit : AuditLog) : MemoryStore :=
  let s := { s with orders := s.orders.insert orderID order }
  let s := match event with
    | some event => s.appendOutboxEvent event
    | none => s
  s.appendAudit audit

/-- The check of an operation's target status; an operation without a target checks nothing. -/
def checkTarget (status : OrderStatus) : Option OrderStatus → Except Error Unit
  | some target => validateOrderTransition status target
  | none => .ok ()

def project (s : MemoryStore) (orderID : String) (p : Projection) (audit : AuditLog) :
    Except Error Order × MemoryStore :=
  match s.orders.lookup orderID with
  | none => (.error errNotFound, s)
  | some order =>
    match checkTarget order.status p.target with
    | .error err => (.error err, s)
    | .ok () => (.ok (p.update order), s.commit orderID (p.update order) (p.event order) audit)

/-- An operation that reports success without a result. -/
def projectUnit (s : MemoryStore) (orderID : String) (p : Projection) (audit : AuditLog) :
    Except Error Unit × MemoryStore :=
  ((s.project orderID p audit).1.map fun _ => (), (s.project orderID p audit).2)

def insertOrder (s : MemoryStore) (merchantID idempotencyKey : String) (order : Order)
    (event : OutboxEvent) (audit : AuditLog) : Except Error (Option Order × Bool) × MemoryStore :=
  match s.ordersByIdempotency.lookup (scopedKey merchantID idempotencyKey) with
  | some existingID => (.ok (s.orders.lookup existingID, true), s)
  | none =>
    match s.ordersByExternal.lookup (scopedKey merchantID order.externalOrderID) with
    | some _ => (.error errDuplicateOrder, s)
    | none =>
      let s := { s with
        orders := s.orders.insert order.orderID order
        ordersByExternal :=
          s.ordersByExternal.insert (scopedKey merchantID order.externalOrderID) order.orderID
        ordersByIdempotency :=
          s.ordersByIdempotency.insert (scopedKey merchantID idempotencyKey) order.orderID }
      (.ok (some order, false), (s.appendOutboxEvent event).appendAudit audit)

def getOrder (s : MemoryStore) (orderID : String) : Except Error Order :=
  match s.orders.lookup orderID with
  | none => .error errNotFound
  | some order => .ok order

def updateOrderStatus (s : MemoryStore) (orderID : String) (status : OrderStatus) (now : Time)
    (event : OutboxEvent) (audit : AuditLog) : Except Error Order × MemoryStore :=
  s.project orderID (.updateOrderStatus status now event audit) audit

def recordInventoryReserved (s : MemoryStore) (source next : OutboxEvent) (audit : AuditLog) :=
  s.projectUnit source.orderID (.inventoryReserved next) audit

def recordInventoryRejected (s : MemoryStore) (source next : OutboxEvent) (audit : AuditLog) :=
  s.projectUnit source.orderID (.inventoryRejected next audit) audit

def recordPaymentAuthorized (s : MemoryStore) (source next : OutboxEvent) (payment : Payment) (audit : AuditLog) :=
  s.projectUnit source.orderID (.paymentAuthorized next payment) audit

def recordPaymentFailed (s : MemoryStore) (source next : OutboxEvent) (audit : AuditLog) :=
  s.projectUnit source.orderID (.paymentFailed next audit) audit

def recordShipmentCreated (s : MemoryStore) (source next : OutboxEvent) (shipment : Shipment) (audit : AuditLog) :=
  s.projectUnit source.orderID (.shipmentCreated next shipment) audit

def recordShipmentFailed (s : MemoryStore) (source next : OutboxEvent) (audit : AuditLog) :=
  s.projectUnit source.orderID (.shipmentFailed next audit) audit

def recordOrderCancelled (s : MemoryStore) (source next : OutboxEvent) (audit : AuditLog) :=
  s.projectUnit source.orderID (.orderCancelled next audit) audit

def recordNotificationQueued (s : MemoryStore) (source : OutboxEvent) (audit : AuditLog) :=
  s.projectUnit source.orderID .notificationQueued audit

def recordCompensation (s : MemoryStore) (source : OutboxEvent) (status : OrderStatus) (audit : AuditLog) :=
  s.projectUnit source.orderID (.compensation source status audit) audit

def projector (s : MemoryStore) : ProjectorCall → Except Error Unit × MemoryStore
  | .recordInventoryReserved source next audit => s.recordInventoryReserved source next audit
  | .recordInventoryRejected source next audit => s.recordInventoryRejected source next audit
  | .recordPaymentAuthorized source next payment audit =>
    s.recordPaymentAuthorized source next payment audit
  | .recordPaymentFailed source next audit => s.recordPaymentFailed source next audit
  | .recordShipmentCreated source next shipment audit =>
    s.recordShipmentCreated source next shipment audit
  | .recordShipmentFailed source next audit => s.recordShipmentFailed source next audit
  | .recordOrderCancelled source next audit => s.recordOrderCancelled source next audit
  | .recordNotificationQueued source audit => s.recordNotificationQueued source audit
  | .recordCompensation source status audit => s.recordCompensation source status audit

/-- The store's answer to each call. -/
def semantics : StoreSemantics MemoryStore
  | s, .insertOrder merchantID idempotencyKey order event audit =>
    s.insertOrder merchantID idempotencyKey order event audit
  | s, .getOrder orderID => (s.getOrder orderID, s)
  | s, .updateOrderStatus orderID status now event audit =>
    s.updateOrderStatus orderID status now event audit
  | s, .projector c => s.projector c

/-! ### What an operation does to the store -/

variable {s : MemoryStore}

theorem checkTarget_eq_ok {status : OrderStatus} {target : Option OrderStatus} :
    checkTarget status target = .ok () ↔
      ∀ next, target = some next → canTransitionOrderStatus status next = true := by
  cases target with
  | none => simp [checkTarget]
  | some next => simp [checkTarget, validateOrderTransition_eq_ok]

/-- A projection succeeds exactly on an existing order whose status may move to the target. -/
theorem project_eq_ok {orderID : String} {p : Projection} {audit : AuditLog} {order : Order}
    (horder : s.orders.lookup orderID = some order)
    (htarget : ∀ next, p.target = some next → canTransitionOrderStatus order.status next = true) :
    s.project orderID p audit =
      (.ok (p.update order), s.commit orderID (p.update order) (p.event order) audit) := by
  simp [project, horder, checkTarget_eq_ok.mpr htarget]

theorem project_cases (s : MemoryStore) (orderID : String) (p : Projection) (audit : AuditLog) :
    (∃ err, s.project orderID p audit = (.error err, s)) ∨
      ∃ order, s.orders.lookup orderID = some order ∧
        (∀ next, p.target = some next → canTransitionOrderStatus order.status next = true) ∧
        s.project orderID p audit =
          (.ok (p.update order), s.commit orderID (p.update order) (p.event order) audit) := by
  cases horder : s.orders.lookup orderID with
  | none => exact .inl ⟨errNotFound, by simp [project, horder]⟩
  | some order =>
    cases hcheck : checkTarget order.status p.target with
    | error err => exact .inl ⟨err, by simp [project, horder, hcheck]⟩
    | ok =>
      have htarget := checkTarget_eq_ok.mp hcheck
      exact .inr ⟨order, rfl, htarget, project_eq_ok horder htarget⟩

@[simp] theorem commit_orders (orderID : String) (order : Order) (event : Option OutboxEvent)
    (audit : AuditLog) : (s.commit orderID order event audit).orders = s.orders.insert orderID order := by
  cases event <;> rfl

@[simp] theorem commit_outbox (orderID : String) (order : Order) (event : Option OutboxEvent)
    (audit : AuditLog) : (s.commit orderID order event audit).outbox =
      s.outbox ++ (event.toList.map OutboxEvent.withEnvelopeDefaults) := by
  cases event <;> simp [commit, appendAudit, appendOutboxEvent]

theorem commit_auditLogs (orderID : String) (order : Order) (event : Option OutboxEvent) (audit : AuditLog) :
    (s.commit orderID order event audit).auditLogs = s.auditLogs ++ [audit] := by
  cases event <;> rfl

end MemoryStore

/-- The projection by which a projector call rewrites its order. -/
def ProjectorCall.projection : ProjectorCall → Projection
  | .recordInventoryReserved _ next _ => .inventoryReserved next
  | .recordInventoryRejected _ next audit => .inventoryRejected next audit
  | .recordPaymentAuthorized _ next payment _ => .paymentAuthorized next payment
  | .recordPaymentFailed _ next audit => .paymentFailed next audit
  | .recordShipmentCreated _ next shipment _ => .shipmentCreated next shipment
  | .recordShipmentFailed _ next audit => .shipmentFailed next audit
  | .recordOrderCancelled _ next audit => .orderCancelled next audit
  | .recordNotificationQueued _ _ => .notificationQueued
  | .recordCompensation source status audit => .compensation source status audit

theorem MemoryStore.projector_eq_ok {s : MemoryStore} {c : ProjectorCall} {order : Order}
    (horder : s.orders.lookup c.source.orderID = some order)
    (htarget : ∀ next, c.projection.target = some next → canTransitionOrderStatus order.status next = true) :
    (s.projector c).1 = .ok () := by
  have hunit : ∀ audit, (s.projectUnit c.source.orderID c.projection audit).1 = .ok () := fun audit => by
    rw [projectUnit, project_eq_ok horder htarget]
    rfl
  cases c <;> exact hunit _

/-- The order a call rewrites, and how. -/
def StoreCall.effect : StoreCall → Option (String × Projection)
  | .updateOrderStatus orderID status now event audit =>
    some (orderID, .updateOrderStatus status now event audit)
  | .projector c => some (c.source.orderID, c.projection)
  | .insertOrder .. | .getOrder _ => none

end FulfillHub
