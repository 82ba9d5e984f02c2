import FulfillHub.Commerce.Text

/-!
# The commerce data model

The records of `internal/commerce/model.go` with the errors and audit records of `service.go` and
`store.go`. Texts the code compares with fixed constants are enumerations whose last constructor
holds any text that is none of the constants, so every Go value has exactly one reading here.

Maps with text keys and arbitrary values (`Payload`, `Details`) are association lists without
repeated keys; no modelled function depends on the order of their entries.
-/

namespace FulfillHub

/-! ### Statuses and event types -/

inductive OrderStatus
  | pendingFulfillment
  | inventoryReserved
  | paymentAuthorized
  | shipmentCreated
  | cancellationPending
  | manualReview
  | cancelled
  | completed
  | failed
  | other (raw : String) (unlisted : raw ∉ ["pending_fulfillment", "inventory_reserved",
      "payment_authorized", "shipment_created", "cancellation_pending", "manual_review", "cancelled",
      "completed", "failed"])
  deriving DecidableEq

def OrderStatus.text : OrderStatus → String
  | .pendingFulfillment => "pending_fulfillment"
  | .inventoryReserved => "inventory_reserved"
  | .paymentAuthorized => "payment_authorized"
  | .shipmentCreated => "shipment_created"
  | .cancellationPending => "cancellation_pending"
  | .manualReview => "manual_review"
  | .cancelled => "cancelled"
  | .completed => "completed"
  | .failed => "failed"
  | .other raw _ => raw

inductive EventType
  | orderCreated
  | orderCancelRequested
  | inventoryReserved
  | inventoryRejected
  | paymentAuthorized
  | paymentFailed
  | shipmentCreated
  | shipmentFailed
  | orderCompleted
  | orderCancelled
  | orderManualReviewRequired
  | other (raw : String) (unlisted : raw ∉ ["order.created", "order.cancel_requested",
      "inventory.reserved", "inventory.rejected", "payment.authorized", "payment.failed",
      "shipment.created", "shipment.failed", "order.completed", "order.cancelled",
      "order.manual_review_required"])
  deriving DecidableEq

def EventType.text : EventType → String
  | .orderCreated => "order.created"
  | .orderCancelRequested => "order.cancel_requested"
  | .inventoryReserved => "inventory.reserved"
  | .inventoryRejected => "inventory.rejected"
  | .paymentAuthorized => "payment.authorized"
  | .paymentFailed => "payment.failed"
  | .shipmentCreated => "shipment.created"
  | .shipmentFailed => "shipment.failed"
  | .orderCompleted => "order.completed"
  | .orderCancelled => "order.cancelled"
  | .orderManualReviewRequired => "order.manual_review_required"
  | .other raw _ => raw

/-- The reservation statuses the stores write and `chk_order_items_reservation_status` admits. -/
inductive ReservationStatus
  | pending
  | reserved
  | rejected
  | released
  deriving DecidableEq

inductive PaymentStatus
  | blank
  | pendingAuthorization
  | authorized
  | failed
  | voided
  | other (raw : String)
      (unlisted : raw ∉ ["", "pending_authorization", "authorized", "failed", "voided"])
  deriving DecidableEq

inductive ShipmentStatus
  | blank
  | created
  | failed
  | other (raw : String) (unlisted : raw ∉ ["", "created", "failed"])
  deriving DecidableEq

/-! ### Payloads -/

/-- A value of a `map[string]any` payload. A number is an integer where the program puts it there, and a `float64` where
JSON is decoded. -/
inductive Value
  | null
  | bool (b : Bool)
  | str (s : String)
  | num (n : Int)
  | float (q : ℚ)
  | arr (values : List Value)
  | obj (fields : List (String × Value))

abbrev Payload := List (String × Value)

abbrev Details := List (String × String)

section Maps

variable {α : Type}

/-- `m[key] = value` on a map held as an association list. -/
def setKey (m : List (String × α)) (key : String) (value : α) : List (String × α) :=
  m.filter (·.1 ≠ key) ++ [(key, value)]

/-- `if _, ok := m[key]; !ok { m[key] = value }`. -/
def setKeyIfAbsent (m : List (String × α)) (key : String) (value : α) : List (String × α) :=
  if (m.lookup key).isSome then m else setKey m key value

theorem lookup_setKey_self (m : List (String × α)) (key : String) (value : α) :
    (setKey m key value).lookup key = some value := by
  have hnone : (m.filter (·.1 ≠ key)).lookup key = none := by
    rw [List.lookup_eq_none_iff]
    intro x hx
    have hne : x.1 ≠ key := of_decide_eq_true (List.mem_filter.mp hx).2
    exact bne_iff_ne.mpr hne.symm
  rw [setKey, List.lookup_append, hnone]
  simp

theorem lookup_setKey_of_ne (m : List (String × α)) {key other : String} (value : α) (h : other ≠ key) :
    (setKey m key value).lookup other = m.lookup other := by
  have hsame : (m.filter (·.1 ≠ key)).lookup other = m.lookup other := by
    induction m with
    | nil => rfl
    | cons x rest ih =>
      obtain ⟨k, v⟩ := x
      by_cases hk : k = key
      · subst hk
        simpa [List.lookup_cons, beq_false_of_ne h] using ih
      · simp only [ne_eq, hk, not_false_eq_true, decide_true, List.filter_cons_of_pos, List.lookup_cons]
        simp only [ne_eq] at ih
        rw [ih]
  rw [setKey, List.lookup_append, hsame]
  simp [List.lookup_cons, beq_false_of_ne h]

theorem lookup_setKeyIfAbsent_of_ne (m : List (String × α)) {key other : String} (value : α)
    (h : other ≠ key) : (setKeyIfAbsent m key value).lookup other = m.lookup other := by
  unfold setKeyIfAbsent
  split
  · rfl
  · exact lookup_setKey_of_ne m value h

end Maps

/-- `details[key]`, the empty text when the key is absent. -/
def Details.get (details : Details) (key : String) : String := (details.lookup key).getD ""

/-! ### Orders -/

structure Money where
  amount : Int
  currency : String
  deriving DecidableEq

structure OrderItem where
  sku : String
  quantity : Int
  unitPrice : Money
  reservationStatus : ReservationStatus
  deriving DecidableEq

structure OrderTotals where
  subtotal : Money
  shipping : Money
  total : Money
  deriving DecidableEq

structure Payment where
  provider : String
  status : PaymentStatus
  authorizationID : String
  credentialRef : String
  deriving DecidableEq

structure ShipmentEvent where
  occurredAt : Time
  status : ShipmentStatus
  description : String
  deriving DecidableEq

structure Shipment where
  shipmentID : String
  status : ShipmentStatus
  carrier : String
  trackingNumber : String
  events : List ShipmentEvent
  deriving DecidableEq

structure Order where
  orderID : String
  merchantID : String
  externalOrderID : String
  status : OrderStatus
  currency : String
  totals : OrderTotals
  items : List OrderItem
  payment : Option Payment
  shipment : Option Shipment
  shippingAddressRef : String
  createdAt : Time
  updatedAt : Time
  deriving DecidableEq

/-! ### Events and audit entries -/

structure OutboxEvent where
  messageID : String
  eventType : EventType
  schemaVersion : Int
  occurredAt : Time
  producer : String
  merchantID : String
  orderID : String
  correlationID : String
  causationID : String
  payload : Payload

structure AuditActor where
  type : String
  id : String
  reason : String
  deriving DecidableEq

structure AuditLog where
  merchantID : String
  orderID : String
  actorType : String
  actorID : String
  action : String
  correlationID : String
  createdAt : Time
  details : Details
  deriving DecidableEq

def eventSchemaVersion : Int := 1

def producerForEventType : EventType → String
  | .orderCreated | .orderCancelRequested => "orders-api"
  | .inventoryReserved | .inventoryRejected => "inventory-worker"
  | .paymentAuthorized | .paymentFailed => "payment-worker"
  | .shipmentCreated | .shipmentFailed => "shipment-worker"
  | .orderCompleted | .orderCancelled | .orderManualReviewRequired => "orders-worker"
  | .other _ _ => "fulfillhub"

/-- The failure payload of `failurePayload`. -/
def failurePayload (stage reason : String) : Payload :=
  [("failure", .obj [("stage", .str stage),
    ("reason", .str (if reason = "" then "unspecified" else reason))])]

def defaultEventPayload (event : OutboxEvent) : Payload :=
  match event.eventType with
  | .orderCreated => [("order_status", .str OrderStatus.pendingFulfillment.text)]
  | .inventoryReserved => [("order_status", .str OrderStatus.inventoryReserved.text)]
  | .paymentAuthorized => [("order_status", .str OrderStatus.paymentAuthorized.text)]
  | .shipmentCreated => [("order_status", .str OrderStatus.shipmentCreated.text)]
  | .orderCancelRequested => [("order_status", .str OrderStatus.cancellationPending.text)]
  | .orderCompleted =>
    ("order_status", .str OrderStatus.completed.text) ::
      if Time.isZero event.occurredAt then []
      else [("completed_at", .str (Time.formatRFC3339Nano event.occurredAt))]
  | .orderCancelled =>
    ("order_status", .str OrderStatus.cancelled.text) ::
      if Time.isZero event.occurredAt then []
      else [("cancelled_at", .str (Time.formatRFC3339Nano event.occurredAt))]
  | .orderManualReviewRequired => [("order_status", .str OrderStatus.manualReview.text)]
  | .inventoryRejected => failurePayload "inventory" "unspecified"
  | .paymentFailed => failurePayload "payment" "unspecified"
  | .shipmentFailed => failurePayload "shipment" "unspecified"
  | .other _ _ => []

namespace OutboxEvent

def withDefaultCausation (e : OutboxEvent) : OutboxEvent :=
  if e.causationID = "" then { e with causationID := e.messageID } else e

def withEnvelopeDefaults (e : OutboxEvent) : OutboxEvent :=
  let e := e.withDefaultCausation
  let e := if e.schemaVersion = 0 then { e with schemaVersion := eventSchemaVersion } else e
  let e := if e.producer = "" then { e with producer := producerForEventType e.eventType } else e
  if e.payload.length = 0 then { e with payload := defaultEventPayload e } else e

variable (e : OutboxEvent)

@[simp] theorem withEnvelopeDefaults_messageID : e.withEnvelopeDefaults.messageID = e.messageID := by
  simp only [withEnvelopeDefaults, withDefaultCausation]
  split_ifs <;> rfl

@[simp] theorem withEnvelopeDefaults_eventType : e.withEnvelopeDefaults.eventType = e.eventType := by
  simp only [withEnvelopeDefaults, withDefaultCausation]
  split_ifs <;> rfl

@[simp] theorem withEnvelopeDefaults_orderID : e.withEnvelopeDefaults.orderID = e.orderID := by
  simp only [withEnvelopeDefaults, withDefaultCausation]
  split_ifs <;> rfl

@[simp] theorem withEnvelopeDefaults_merchantID : e.withEnvelopeDefaults.merchantID = e.merchantID := by
  simp only [withEnvelopeDefaults, withDefaultCausation]
  split_ifs <;> rfl

@[simp] theorem withEnvelopeDefaults_correlationID : e.withEnvelopeDefaults.correlationID = e.correlationID := by
  simp only [withEnvelopeDefaults, withDefaultCausation]
  split_ifs <;> rfl

@[simp] theorem withEnvelopeDefaults_causationID :
    e.withEnvelopeDefaults.causationID = if e.causationID = "" then e.messageID else e.causationID := by
  simp only [withEnvelopeDefaults, withDefaultCausation]
  split_ifs <;> rfl

theorem withEnvelopeDefaults_payload {e : OutboxEvent} (h : e.payload ≠ []) :
    e.withEnvelopeDefaults.payload = e.payload := by
  simp only [withEnvelopeDefaults, withDefaultCausation]
  split_ifs <;> simp_all

end OutboxEvent

/-- The payload of an event that announces a status change, over the payload the caller supplied. -/
def orderStatusEventPayload (status : OrderStatus) (at' : Time) (audit : AuditLog) (existing : Payload) : Payload :=
  let payload := setKey existing "order_status" (.str status.text)
  match status with
  | .cancellationPending =>
    let payload := setKeyIfAbsent payload "reason" (.str (Text.trimSpace (audit.details.get "reason")))
    setKeyIfAbsent payload "requested_by" (.obj [("type", .str (Text.trimSpace audit.actorType)),
      ("id", .str (Text.trimSpace audit.actorID))])
  | .completed => setKeyIfAbsent payload "completed_at" (.str (Time.formatRFC3339Nano at'))
  | .cancelled => setKeyIfAbsent payload "cancelled_at" (.str (Time.formatRFC3339Nano at'))
  | .manualReview =>
    let reason := Text.trimSpace (audit.details.get "review_reason")
    if reason = "" then payload else setKeyIfAbsent payload "review_reason" (.str reason)
  | _ => payload

theorem lookup_orderStatusEventPayload (status : OrderStatus) (at' : Time) (audit : AuditLog) (existing : Payload) :
    (orderStatusEventPayload status at' audit existing).lookup "order_status" = some (.str status.text) := by
  cases status <;> simp [orderStatusEventPayload, lookup_setKey_self, lookup_setKeyIfAbsent_of_ne]
  split <;> simp [lookup_setKey_self, lookup_setKeyIfAbsent_of_ne]

/-! ### Commands -/

structure CustomerInput where
  id : String
  email : String
  fullName : String

structure AddressInput where
  line1 : String
  line2 : String
  city : String
  state : String
  postalCode : String
  country : String

structure OrderItemInput where
  sku : String
  quantity : Int
  unitPrice : Money

structure PaymentMethodInput where
  provider : String
  paymentToken : String

structure CreateOrderCommand where
  externalOrderID : String
  currency : String
  customer : CustomerInput
  shippingAddress : AddressInput
  items : List OrderItemInput
  paymentMethod : PaymentMethodInput

/-! ### Errors -/

inductive Sentinel
  | duplicateOrder
  | invalidStateTransition
  | notFound
  | insufficientStock
  deriving DecidableEq

structure FieldError where
  field : String
  issue : String
  deriving DecidableEq

/-- A Go error: a plain message, a message wrapping one of the package's sentinels, or the field
errors of a rejected command. -/
inductive Error
  | plain (text : String)
  | wrap (sentinel : Sentinel) (text : String)
  | validation (fields : List FieldError)
  deriving DecidableEq

namespace Error

def text : Error → String
  | .plain text | .wrap _ text => text
  | .validation _ => "validation failed"

/-- `errors.Is(err, sentinel)`. -/
def is : Error → Sentinel → Bool
  | .wrap s _, sentinel => s == sentinel
  | _, _ => false

/-- `fmt.Errorf("context: %w", err)`. -/
def within (context : String) : Error → Error
  | .wrap sentinel text => .wrap sentinel (context ++ ": " ++ text)
  | err => .plain (context ++ ": " ++ err.text)

end Error

def errDuplicateOrder : Error := .wrap .duplicateOrder "duplicate order"
def errInvalidStateTransition : Error := .wrap .invalidStateTransition "invalid state transition"
def errNotFound : Error := .wrap .notFound "not found"

end FulfillHub
