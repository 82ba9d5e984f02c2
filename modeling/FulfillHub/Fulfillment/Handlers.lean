import FulfillHub.Commerce.Ports
import FulfillHub.Commerce.StateMachine
import FulfillHub.Messaging.Topology

/-!
# The queue handlers

`internal/fulfillment/handlers.go`. Each handler is a program over the ports: it validates the event,
asks the clock, the id source and its provider, and makes its store calls, in the order of the source.
A provider that is configured is a call to the outside world; one that is absent is skipped.
-/

namespace FulfillHub

open Interaction

/-- Which of a worker's dependencies are configured. -/
structure Dependencies where
  projector : Bool
  orders : Bool
  inventoryReserver : Bool
  paymentAuthorizer : Bool
  shipmentCreator : Bool
  deriving DecidableEq

abbrev Handler := OutboxEvent → Saga (Except Error Unit)

/-! ### Validation -/

def validateEventIdentity (event : OutboxEvent) : Except Error Unit :=
  if event.messageID = "" then .error (.plain "message id is required")
  else if event.correlationID = "" then .error (.plain "correlation id is required")
  else if event.causationID = "" then .error (.plain "causation id is required")
  else if event.orderID = "" then .error (.plain "order id is required")
  else if event.merchantID = "" then .error (.plain "merchant id is required")
  else .ok ()

def validateEvent (event : OutboxEvent) (expectedType : EventType) : Except Error Unit :=
  if event.eventType ≠ expectedType then
    .error (.plain ("expected " ++ expectedType.text ++ " event, got " ++ event.eventType.text))
  else validateEventIdentity event

def isNotificationEvent : EventType → Bool
  | .orderCompleted | .orderCancelled | .orderManualReviewRequired | .inventoryRejected
  | .paymentFailed | .shipmentFailed => true
  | _ => false

def compensationPlan (eventType : EventType) : Except Error (OrderStatus × String) :=
  match eventType with
  | .inventoryRejected => .ok (.failed, "compensation.inventory_rejected")
  | .paymentFailed => .ok (.cancelled, "compensation.payment_failed")
  | .shipmentFailed => .ok (.cancellationPending, "compensation.shipment_failed")
  | eventType => .error (.plain ("unsupported compensation event " ++ eventType.text))

/-! ### Next events and audit entries -/

def nextEventAt (messageID : String) (previous : OutboxEvent) (eventType : EventType) (now : Time) : OutboxEvent where
  messageID := messageID
  eventType := eventType
  schemaVersion := 0
  occurredAt := now
  producer := ""
  merchantID := previous.merchantID
  orderID := previous.orderID
  correlationID := previous.correlationID
  causationID := previous.messageID
  payload := []

def systemAudit (event : OutboxEvent) (action : String) (now : Time) : AuditLog where
  merchantID := event.merchantID
  orderID := event.orderID
  actorType := "system"
  actorID := "fulfillment-worker"
  action := action
  correlationID := event.correlationID
  createdAt := now
  details := [("source_message_id", event.messageID), ("source_event_type", event.eventType.text)]

def AuditLog.withDetail (audit : AuditLog) (key value : String) : AuditLog :=
  { audit with details := setKey audit.details key value }

def projectorRequired : Error := .plain "fulfillment projector is required"

def ordersRequired : Error := .plain "order status updater is required"

/-! ### Inventory -/

def recordInventoryRejected (event : OutboxEvent) (now : Time) (cause : Error) : Saga (Except Error Unit) := do
  let messageID ← Saga.newID "msg"
  let rejected := nextEventAt messageID event .inventoryRejected now
  let audit := (systemAudit event "inventory.rejected" now).withDetail "error" cause.text
  Saga.record (.recordInventoryRejected event rejected audit)

def recordInventoryReserved (event : OutboxEvent) (now : Time) : Saga (Except Error Unit) := do
  let messageID ← Saga.newID "msg"
  let next := nextEventAt messageID event .inventoryReserved now
  match ← Saga.record (.recordInventoryReserved event next (systemAudit event "inventory.reserved" now)) with
  | .error err =>
    if err.is .insufficientStock then recordInventoryRejected event now err
    else pure (.error err)
  | .ok () => pure (.ok ())

def reserveInventory (deps : Dependencies) : Handler := fun event => do
  if !deps.projector then pure (.error projectorRequired)
  else
    match validateEvent event .orderCreated with
    | .error err => pure (.error err)
    | .ok () =>
      let now ← Saga.clock
      if deps.inventoryReserver then
        match ← Saga.reserveInventory event with
        | .error err => recordInventoryRejected event now err
        | .ok () => recordInventoryReserved event now
      else recordInventoryReserved event now

/-! ### Payment -/

def normalizedPayment (payment : Payment) : Payment :=
  { payment with
    provider := if payment.provider = "" then "fake-payment" else payment.provider
    status := if payment.status = .blank then .authorized else payment.status }

def paymentWithAuthorization (payment : Payment) : Saga Payment :=
  if payment.authorizationID = "" then do
    let authorizationID ← Saga.newID "pay"
    pure { payment with authorizationID := authorizationID }
  else pure payment

def authorizePayment (deps : Dependencies) : Handler := fun event => do
  if !deps.projector then pure (.error projectorRequired)
  else
    match validateEvent event .inventoryReserved with
    | .error err => pure (.error err)
    | .ok () =>
      let now ← Saga.clock
      if deps.paymentAuthorizer then
        match ← Saga.authorizePayment event with
        | .error err =>
          let messageID ← Saga.newID "msg"
          let failed := nextEventAt messageID event .paymentFailed now
          let audit := (systemAudit event "payment.failed" now).withDetail "error" err.text
          Saga.record (.recordPaymentFailed event failed audit)
        | .ok authorized =>
          let payment ← paymentWithAuthorization (normalizedPayment authorized)
          let messageID ← Saga.newID "msg"
          let next := nextEventAt messageID event .paymentAuthorized now
          Saga.record (.recordPaymentAuthorized event next payment
            (systemAudit event "payment.authorized" now))
      else
        let messageID ← Saga.newID "msg"
        let next := nextEventAt messageID event .paymentAuthorized now
        let authorizationID ← Saga.newID "pay"
        let payment := normalizedPayment ⟨"fake-payment", .authorized, authorizationID, ""⟩
        Saga.record (.recordPaymentAuthorized event next payment
          (systemAudit event "payment.authorized" now))

/-! ### Shipment -/

def shipmentWithID (shipment : Shipment) : Saga Shipment :=
  if shipment.shipmentID = "" then do
    let shipmentID ← Saga.newID "shp"
    pure { shipment with shipmentID := shipmentID }
  else pure shipment

def bookingEvent (status : ShipmentStatus) (now : Time) : ShipmentEvent :=
  ⟨now, status, "Shipment booking created by fulfillment worker."⟩

def withShipmentDefaults (shipment : Shipment) (now : Time) : Shipment :=
  let status := if shipment.status = .blank then .created else shipment.status
  { shipment with
    status := status
    carrier := if shipment.carrier = "" then "fake-carrier" else shipment.carrier
    trackingNumber :=
      if shipment.trackingNumber = "" then "TRACK-" ++ shipment.shipmentID else shipment.trackingNumber
    events := if shipment.events.length = 0 then [bookingEvent status now] else shipment.events }

def normalizedShipment (shipment : Shipment) (now : Time) : Saga Shipment := do
  let shipment ← shipmentWithID shipment
  pure (withShipmentDefaults shipment now)

def createShipment (deps : Dependencies) : Handler := fun event => do
  if !deps.projector then pure (.error projectorRequired)
  else
    match validateEvent event .paymentAuthorized with
    | .error err => pure (.error err)
    | .ok () =>
      let now ← Saga.clock
      if deps.shipmentCreator then
        match ← Saga.createShipment event with
        | .error err =>
          let messageID ← Saga.newID "msg"
          let failed := nextEventAt messageID event .shipmentFailed now
          let audit := (systemAudit event "shipment.failed" now).withDetail "error" err.text
          Saga.record (.recordShipmentFailed event failed audit)
        | .ok booked =>
          let messageID ← Saga.newID "msg"
          let next := nextEventAt messageID event .shipmentCreated now
          let shipment ← normalizedShipment booked now
          Saga.record (.recordShipmentCreated event next shipment
            (systemAudit event "shipment.created" now))
      else
        let messageID ← Saga.newID "msg"
        let next := nextEventAt messageID event .shipmentCreated now
        let shipmentID ← Saga.newID "shp"
        let shipment ← normalizedShipment
          ⟨shipmentID, .created, "fake-carrier", "TRACK-" ++ shipmentID, [bookingEvent .created now]⟩ now
        Saga.record (.recordShipmentCreated event next shipment
          (systemAudit event "shipment.created" now))

/-! ### Completion -/

/-- The answer of a status update, without the updated order. -/
def discardOrder (answer : Except Error Order) : Except Error Unit := answer.map fun _ => ()

def completeOrder (deps : Dependencies) : Handler := fun event => do
  if !deps.orders then pure (.error ordersRequired)
  else
    match validateEvent event .shipmentCreated with
    | .error err => pure (.error err)
    | .ok () =>
      match ← Saga.getOrder event.orderID with
      | .error err => pure (.error err)
      | .ok order =>
        match order.status with
        | .shipmentCreated =>
          let now ← Saga.clock
          let messageID ← Saga.newID "msg"
          let completed := nextEventAt messageID event .orderCompleted now
          let answer ← Saga.updateOrderStatus event.orderID .completed now completed
            (systemAudit event "order.completed" now)
          pure (discardOrder answer)
        | .completed => pure (.ok ())
        | .cancellationPending | .manualReview | .cancelled => pure (.ok ())
        | status => pure (.error (.plain ("cannot complete order from status " ++ status.text)))

/-! ### Cancellation -/

def requiresManualReview (order : Order) : Bool :=
  order.status = .completed ||
    match order.shipment with
    | some shipment => shipment.status != .blank && shipment.status != .failed
    | none => false

def hasReservedInventory (order : Order) : Bool :=
  order.items.any fun item => item.reservationStatus = .reserved

def hasAuthorizedPayment (order : Order) : Bool :=
  match order.payment with
  | some payment => payment.status = .authorized
  | none => false

def reviewAudit (event : OutboxEvent) (order : Order) (now : Time) : AuditLog :=
  let audit := (systemAudit event "order.manual_review_required" now).withDetail "review_reason"
    "shipment_already_created"
  match order.shipment with
  | some shipment =>
    if shipment.shipmentID = "" then audit else audit.withDetail "shipment_id" shipment.shipmentID
  | none => audit

def cancelledAudit (event : OutboxEvent) (order : Order) (now : Time) : AuditLog :=
  let audit := systemAudit event "order.cancelled" now
  let audit := if hasReservedInventory order then audit.withDetail "stock_release" "requested" else audit
  if hasAuthorizedPayment order then audit.withDetail "payment_void" "requested" else audit

def cancelOrder (deps : Dependencies) : Handler := fun event => do
  if !deps.orders then pure (.error ordersRequired)
  else
    match validateEvent event .orderCancelRequested with
    | .error err => pure (.error err)
    | .ok () =>
      match ← Saga.getOrder event.orderID with
      | .error err => pure (.error err)
      | .ok order =>
        if order.status = .cancelled ∨ order.status = .manualReview then pure (.ok ())
        else
          let now ← Saga.clock
          if requiresManualReview order then
            let messageID ← Saga.newID "msg"
            let review := nextEventAt messageID event .orderManualReviewRequired now
            let answer ← Saga.updateOrderStatus event.orderID .manualReview now review
              (reviewAudit event order now)
            pure (discardOrder answer)
          else if !deps.projector then pure (.error projectorRequired)
          else
            let messageID ← Saga.newID "msg"
            let cancelled := nextEventAt messageID event .orderCancelled now
            Saga.record (.recordOrderCancelled event cancelled (cancelledAudit event order now))

/-! ### Notification and compensation -/

def queueNotification (deps : Dependencies) : Handler := fun event => do
  if !deps.projector then pure (.error projectorRequired)
  else if !isNotificationEvent event.eventType then
    pure (.error (.plain ("expected notifiable event, got " ++ event.eventType.text)))
  else
    match validateEventIdentity event with
    | .error err => pure (.error err)
    | .ok () =>
      let now ← Saga.clock
      Saga.record (.recordNotificationQueued event (systemAudit event "notification.email_queued" now))

def compensationAudit (event : OutboxEvent) (status : OrderStatus) (action : String) (now : Time) : AuditLog :=
  let audit := (systemAudit event action now).withDetail "target_order_status" status.text
  match event.eventType with
  | .paymentFailed => audit.withDetail "stock_release" "requested"
  | .shipmentFailed => (audit.withDetail "stock_release" "requested").withDetail "payment_void" "requested"
  | _ => audit

def recordCompensation (deps : Dependencies) : Handler := fun event => do
  if !deps.projector then pure (.error projectorRequired)
  else
    match compensationPlan event.eventType with
    | .error err => pure (.error err)
    | .ok (status, action) =>
      match validateEventIdentity event with
      | .error err => pure (.error err)
      | .ok () =>
        let now ← Saga.clock
        Saga.record (.recordCompensation event status (compensationAudit event status action now))

/-! ### The handler of a queue -/

def handlerFor (queue : Queue) (deps : Dependencies) : Handler :=
  match queue with
  | .inventoryReserve => reserveInventory deps
  | .paymentsAuthorize => authorizePayment deps
  | .shipmentsCreate => createShipment deps
  | .ordersFinalize => completeOrder deps
  | .ordersCancel => cancelOrder deps
  | .notificationsEmail => queueNotification deps
  | .ordersCompensate => recordCompensation deps

def handlerForQueue (queue : String) (deps : Dependencies) : Except Error Handler :=
  match Queue.ofName queue with
  | some queue => .ok (handlerFor queue deps)
  | none => .error (.plain ("unsupported worker queue " ++ Text.quote queue))

end FulfillHub
