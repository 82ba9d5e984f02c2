import FulfillHub.Commerce.Ports
import FulfillHub.Commerce.StateMachine

/-!
# The order service

`internal/commerce/service.go`: validation of the commands and the two operations merchants drive,
`CreateOrder` and `CancelOrder`. SHA-256 and the Unicode lower-case table enter only through the
opaque references of an order, so they are parameters of the service.
-/

namespace FulfillHub

open Interaction

/-- A signed 64-bit integer after an operation that may wrap. -/
def wrapInt64 (n : Int) : Int := n.bmod (2 ^ 64)

structure Service where
  /-- The hexadecimal SHA-256 of a text. -/
  sha256Hex : String → String
  /-- `unicode.ToLower`. -/
  toLower : Char → Char

namespace Service

variable (svc : Service)

def opaqueReference (kind value : String) : String :=
  kind ++ "_" ++ String.ofList ((svc.sha256Hex (Text.trimSpace value)).toList.take 24)

def addressFingerprint (address : AddressInput) : String :=
  (String.intercalate "|" [address.line1, address.line2, address.city, address.state,
    address.postalCode, address.country]).map svc.toLower

end Service

/-! ### Validation -/

/-- A field error when the check fails, nothing otherwise. -/
def requireField (ok : Bool) (field issue : String) : List FieldError :=
  if ok then [] else [⟨field, issue⟩]

def notBlank (s : String) : Bool := Text.trimSpace s != ""

def itemField (idx : Nat) (name : String) : String := "items[" ++ toString idx ++ "]." ++ name

/-- The errors of one line's SKU against the SKUs seen before it, each with its first index. -/
def skuErrors (seen : List (String × Nat)) (idx : Nat) (sku : String) : List FieldError :=
  if sku = "" then [⟨itemField idx "sku", "is required"⟩]
  else
    match seen.lookup sku with
    | some first => [⟨itemField idx "sku", "duplicates " ++ itemField first "sku"⟩]
    | none => []

def seeSku (seen : List (String × Nat)) (idx : Nat) (sku : String) : List (String × Nat) :=
  if sku = "" ∨ (seen.lookup sku).isSome then seen else (sku, idx) :: seen

def itemErrors (currency : String) : List (String × Nat) → Nat → List OrderItemInput → List FieldError
  | _, _, [] => []
  | seen, idx, item :: rest =>
    let sku := Text.trimSpace item.sku
    skuErrors seen idx sku ++
      requireField (1 ≤ item.quantity) (itemField idx "quantity") "must be greater than zero" ++
      requireField (0 ≤ item.unitPrice.amount) (itemField idx "unit_price.amount")
        "must not be negative" ++
      requireField (item.unitPrice.currency = currency) (itemField idx "unit_price.currency")
        "must match order currency" ++
      itemErrors currency (seeSku seen idx sku) (idx + 1) rest

def createOrderErrors (merchantID idempotencyKey : String) (req : CreateOrderCommand) : List FieldError :=
  requireField (notBlank merchantID) "merchant_id" "is required from authentication context" ++
    requireField (12 ≤ Text.len (Text.trimSpace idempotencyKey)) "Idempotency-Key"
      "must contain at least 12 characters" ++
    requireField (notBlank req.externalOrderID) "external_order_id" "is required" ++
    requireField (Text.len req.currency = 3) "currency" "must be a three-letter ISO currency code" ++
    requireField (notBlank req.customer.email) "customer.email" "is required" ++
    requireField (notBlank req.shippingAddress.country) "shipping_address.country" "is required" ++
    requireField (req.items.length ≠ 0) "items" "must contain at least one item" ++
    itemErrors req.currency [] 0 req.items ++
    requireField (notBlank req.paymentMethod.provider) "payment_method.provider" "is required" ++
    requireField (notBlank req.paymentMethod.paymentToken) "payment_method.payment_token" "is required"

def cancelActorErrors (actor : AuditActor) : List FieldError :=
  requireField (notBlank actor.reason) "reason" "is required" ++
    requireField (notBlank actor.type) "requested_by.type" "is required" ++
    requireField (notBlank actor.id) "requested_by.id" "is required"

/-- A command with field errors is rejected with all of them. -/
def validationResult (fields : List FieldError) : Except Error Unit :=
  if fields.length > 0 then .error (.validation fields) else .ok ()

def validateCreateOrder (merchantID idempotencyKey : String) (req : CreateOrderCommand) : Except Error Unit :=
  validationResult (createOrderErrors merchantID idempotencyKey req)

def validateCancelActor (actor : AuditActor) : Except Error Unit :=
  validationResult (cancelActorErrors actor)

/-! ### Operations -/

def subtotalAmount (items : List OrderItemInput) : Int :=
  items.foldl (fun amount item => wrapInt64 (amount + wrapInt64 (item.quantity * item.unitPrice.amount))) 0

namespace Service

variable (svc : Service)

/-- The order an accepted command creates. -/
def newOrder (merchantID : String) (req : CreateOrderCommand) (orderID : String) (now : Time) : Order where
  orderID := orderID
  merchantID := merchantID
  externalOrderID := req.externalOrderID
  status := .pendingFulfillment
  currency := req.currency
  totals := {
    subtotal := ⟨subtotalAmount req.items, req.currency⟩
    shipping := ⟨1200, req.currency⟩
    total := ⟨wrapInt64 (subtotalAmount req.items + 1200), req.currency⟩ }
  items := req.items.map fun item => ⟨item.sku, item.quantity, item.unitPrice, .pending⟩
  payment := some {
    provider := req.paymentMethod.provider
    status := .pendingAuthorization
    authorizationID := ""
    credentialRef := svc.opaqueReference "paycred" req.paymentMethod.paymentToken }
  shipment := none
  shippingAddressRef := svc.opaqueReference "addr" (svc.addressFingerprint req.shippingAddress)
  createdAt := now
  updatedAt := now

def createdEvent (order : Order) (messageID correlationID : String) (now : Time) : OutboxEvent where
  messageID := messageID
  eventType := .orderCreated
  schemaVersion := eventSchemaVersion
  occurredAt := now
  producer := producerForEventType .orderCreated
  merchantID := order.merchantID
  orderID := order.orderID
  correlationID := correlationID
  causationID := messageID
  payload := [("external_order_id", .str order.externalOrderID), ("order_status", .str order.status.text),
    ("currency", .str order.currency), ("total_amount", .num order.totals.total.amount),
    ("item_count", .num order.items.length)]

def createOrder (merchantID idempotencyKey correlationID : String) (req : CreateOrderCommand) :
    Saga (Except Error (Option Order × Bool)) := do
  match validateCreateOrder merchantID idempotencyKey req with
  | .error err => pure (.error err)
  | .ok () =>
    let now ← Saga.clock
    let orderID ← Saga.newID "ord"
    let order := svc.newOrder merchantID req orderID now
    let messageID ← Saga.newID "msg"
    let event := createdEvent order messageID correlationID now
    let audit : AuditLog := ⟨merchantID, orderID, "merchant", merchantID, "order.create",
      correlationID, now, []⟩
    Saga.insertOrder merchantID idempotencyKey order event audit

end Service

def cancelRequestedEvent (order : Order) (orderID messageID correlationID : String)
    (actor : AuditActor) (now : Time) : OutboxEvent where
  messageID := messageID
  eventType := .orderCancelRequested
  schemaVersion := eventSchemaVersion
  occurredAt := now
  producer := producerForEventType .orderCancelRequested
  merchantID := order.merchantID
  orderID := orderID
  correlationID := correlationID
  causationID := messageID
  payload := [("order_status", .str OrderStatus.cancellationPending.text),
    ("reason", .str (Text.trimSpace actor.reason)),
    ("requested_by", .obj [("type", .str (Text.trimSpace actor.type)),
      ("id", .str (Text.trimSpace actor.id))])]

def cancelRequestedAudit (order : Order) (orderID correlationID : String) (actor : AuditActor)
    (now : Time) : AuditLog where
  merchantID := order.merchantID
  orderID := orderID
  actorType := Text.trimSpace actor.type
  actorID := Text.trimSpace actor.id
  action := "order.cancel_requested"
  correlationID := correlationID
  createdAt := now
  details := [("reason", Text.trimSpace actor.reason)]

def Service.cancelOrder (orderID correlationID : String) (actor : AuditActor) : Saga (Except Error Order) := do
  match validateCancelActor actor with
  | .error err => pure (.error err)
  | .ok () =>
    match ← Saga.getOrder orderID with
    | .error err => pure (.error err)
    | .ok order =>
      if order.status = .completed ∨ order.status = .cancelled then
        pure (.error errInvalidStateTransition)
      else
        match validateOrderTransition order.status .cancellationPending with
        | .error err => pure (.error err)
        | .ok () =>
          let now ← Saga.clock
          let messageID ← Saga.newID "msg"
          Saga.updateOrderStatus orderID .cancellationPending now
            (cancelRequestedEvent order orderID messageID correlationID actor now)
            (cancelRequestedAudit order orderID correlationID actor now)

end FulfillHub
