import FulfillHub.Commerce.Model
import FulfillHub.Commerce.StateMachine
import FulfillHub.Library.Table

/-!
# The PostgreSQL schema

The tables of `internal/postgres/migrations` with the columns the store reads, their unique
constraints, and the checks a written row has to pass. A column with a `NOT NULL` constraint is a value,
any other an `Option`. Serial ids give the order of the rows; only `inventory_items` has one that
statements refer to.
-/

namespace FulfillHub

open Relational

/-! ### Errors of the database -/

/-- `pgconn.PgError`. -/
structure PgError where
  code : String
  message : String

namespace PgError

def text (err : PgError) : String := "ERROR: " ++ err.message ++ " (SQLSTATE " ++ err.code ++ ")"

/-- `fmt.Errorf("context: %w", err)`. -/
def within (context : String) (err : PgError) : Error := .plain (context ++ ": " ++ err.text)

def uniqueViolation (constraint : String) : PgError :=
  ⟨"23505", "duplicate key value violates unique constraint " ++ Text.quote constraint⟩

def checkViolation (table constraint : String) : PgError :=
  ⟨"23514", "new row for relation " ++ Text.quote table ++ " violates check constraint " ++
    Text.quote constraint⟩

def foreignKeyViolation (table constraint : String) : PgError :=
  ⟨"23503", "insert or update on table " ++ Text.quote table ++ " violates foreign key constraint " ++
    Text.quote constraint⟩

def outOfRange : PgError := ⟨"22003", "integer out of range"⟩

def valueTooLong : PgError := ⟨"22001", "value too long for type character(3)"⟩

/-- The answer to a NUL in the text of a `TEXT` column. -/
def invalidByteSequence : PgError := ⟨"22021", "invalid byte sequence for encoding " ++ Text.quote "UTF8" ++ ": 0x00"⟩

/-- The answer to a NUL in a text of a `JSONB` document. -/
def unsupportedEscape : PgError := ⟨"22P05", "unsupported Unicode escape sequence"⟩

end PgError

/-- A statement that fails when a check does not hold. -/
def ensure (ok : Bool) (err : Error) : Except Error Unit := if ok then .ok () else .error err

/-- The values of an `INTEGER` column. -/
def fitsInt4 (n : Int) : Bool := decide (-2 ^ 31 ≤ n ∧ n < 2 ^ 31)

/-- A text as a `CHAR(3)` column stores it: padded with blanks, and without surplus ones. -/
def char3 (s : String) : Except PgError String :=
  let chars := s.toList
  if (chars.drop 3).all (· = ' ') then
    .ok (String.ofList ((chars.take 3) ++ List.replicate (3 - chars.length) ' '))
  else .error .valueTooLong

def nullableString (value : String) : Option String := if value = "" then none else some value

/-! ### Catalog -/

inductive WarehouseStatus
  | active
  | inactive
  | disabled
  deriving DecidableEq

structure Warehouse where
  id : String
  merchantID : String
  status : WarehouseStatus

structure InventoryItem where
  id : Nat
  warehouseID : String
  sku : String
  availableQuantity : Int
  reservedQuantity : Int

/-- `PRIMARY KEY (id)` and `UNIQUE (warehouse_id, sku)`. -/
def InventoryItem.conflict (a b : InventoryItem) : Bool :=
  decide (a.id = b.id ∨ a.warehouseID = b.warehouseID ∧ a.sku = b.sku)

theorem InventoryItem.conflict_symm (a b : InventoryItem) : a.conflict b = b.conflict a := by
  unfold conflict
  congr 1
  simp only [eq_comm]

/-! ### Orders -/

/-- The columns of an order that statements update. -/
structure OrderColumns where
  status : OrderStatus
  paymentProvider : Option String
  paymentStatus : Option PaymentStatus
  paymentAuthorizationID : Option String
  updatedAt : Time

structure OrderRow extends OrderColumns where
  orderID : String
  merchantID : String
  externalOrderID : String
  currency : String
  subtotalAmount : Int
  shippingAmount : Int
  totalAmount : Int
  paymentCredentialRef : Option String
  shippingAddressRef : Option String
  createdAt : Time

/-- `PRIMARY KEY (order_id)` and `UNIQUE (merchant_id, external_order_id)`. -/
def OrderRow.conflict (a b : OrderRow) : Bool :=
  decide (a.orderID = b.orderID ∨ a.merchantID = b.merchantID ∧ a.externalOrderID = b.externalOrderID)

theorem OrderRow.conflict_symm (a b : OrderRow) : a.conflict b = b.conflict a := by
  unfold conflict
  congr 1
  simp only [eq_comm]

/-- `chk_orders_payment_status`. -/
def admitsPaymentStatus : Option PaymentStatus → Bool
  | none | some .pendingAuthorization | some .authorized | some .failed | some .voided => true
  | some .blank | some (.other _ _) => false

structure OrderItemRow where
  orderID : String
  sku : String
  quantity : Int
  unitPriceAmount : Int
  unitPriceCurrency : String
  reservationStatus : ReservationStatus

/-- `UNIQUE (order_id, sku)`. -/
def OrderItemRow.conflict (a b : OrderItemRow) : Bool := decide (a.orderID = b.orderID ∧ a.sku = b.sku)

theorem OrderItemRow.conflict_symm (a b : OrderItemRow) : a.conflict b = b.conflict a := by
  unfold conflict
  congr 1
  simp only [eq_comm]

structure IdempotencyKey where
  merchantID : String
  idempotencyKey : String
  orderID : String

def IdempotencyKey.conflict (a b : IdempotencyKey) : Bool :=
  decide (a.merchantID = b.merchantID ∧ a.idempotencyKey = b.idempotencyKey)

/-! ### Projections -/

/-- `chk_stock_reservations_status`. -/
inductive StockStatus
  | reserved
  | released
  deriving DecidableEq

structure StockReservation where
  orderID : String
  sku : String
  warehouseID : Option String
  quantity : Int
  status : StockStatus
  reservedAt : Time
  releasedAt : Option Time

/-- `PRIMARY KEY (order_id, sku)`. -/
def StockReservation.conflict (a b : StockReservation) : Bool :=
  decide (a.orderID = b.orderID ∧ a.sku = b.sku)

theorem StockReservation.conflict_symm (a b : StockReservation) : a.conflict b = b.conflict a := by
  unfold conflict
  congr 1
  simp only [eq_comm]

structure PaymentAuthorization where
  authorizationID : String
  orderID : String
  merchantID : String
  provider : String
  status : PaymentStatus
  amount : Int
  currency : String
  authorizedAt : Time
  voidedAt : Option Time

/-- `PRIMARY KEY (authorization_id)` and `UNIQUE (order_id)`. -/
def PaymentAuthorization.conflict (a b : PaymentAuthorization) : Bool :=
  decide (a.authorizationID = b.authorizationID ∨ a.orderID = b.orderID)

theorem PaymentAuthorization.conflict_symm (a b : PaymentAuthorization) : a.conflict b = b.conflict a := by
  unfold conflict
  congr 1
  simp only [eq_comm]

/-- `chk_payment_authorizations_status`. -/
def admitsAuthorizationStatus : PaymentStatus → Bool
  | .authorized | .voided => true
  | _ => false

structure ShipmentRow where
  shipmentID : String
  orderID : String
  merchantID : String
  carrier : String
  trackingNumber : String
  status : ShipmentStatus
  createdAt : Time
  updatedAt : Time

/-- `PRIMARY KEY (shipment_id)`, `UNIQUE (order_id)` and `UNIQUE (tracking_number)`. -/
def ShipmentRow.conflict (a b : ShipmentRow) : Bool :=
  decide (a.shipmentID = b.shipmentID ∨ a.orderID = b.orderID ∨ a.trackingNumber = b.trackingNumber)

theorem ShipmentRow.conflict_symm (a b : ShipmentRow) : a.conflict b = b.conflict a := by
  unfold conflict
  congr 1
  simp only [eq_comm]

/-- `chk_shipments_status`. -/
def admitsShipmentStatus : ShipmentStatus → Bool
  | .created | .failed => true
  | _ => false

structure NotificationEvent where
  orderID : String
  merchantID : String
  sourceMessageID : String
  sourceEventType : EventType
  channel : String
  status : String
  correlationID : String
  createdAt : Time

def NotificationEvent.conflict (a b : NotificationEvent) : Bool :=
  decide (a.sourceMessageID = b.sourceMessageID)

theorem NotificationEvent.conflict_symm (a b : NotificationEvent) : a.conflict b = b.conflict a := by
  unfold conflict
  congr 1
  simp only [eq_comm]

structure CompensationEvent where
  orderID : String
  merchantID : String
  sourceMessageID : String
  sourceEventType : EventType
  action : String
  targetOrderStatus : OrderStatus
  status : String
  correlationID : String
  createdAt : Time

def CompensationEvent.conflict (a b : CompensationEvent) : Bool :=
  decide (a.sourceMessageID = b.sourceMessageID)

theorem CompensationEvent.conflict_symm (a b : CompensationEvent) : a.conflict b = b.conflict a := by
  unfold conflict
  congr 1
  simp only [eq_comm]

/-- `PRIMARY KEY (message_id)` of `outbox_events`. -/
def OutboxEvent.conflict (a b : OutboxEvent) : Bool := decide (a.messageID = b.messageID)

/-! ### The database -/

structure Database where
  merchants : List String
  warehouses : Table Warehouse fun a b => decide (a.id = b.id)
  inventoryItems : Table InventoryItem InventoryItem.conflict
  orders : Table OrderRow OrderRow.conflict
  orderItems : Table OrderItemRow OrderItemRow.conflict
  idempotencyKeys : Table IdempotencyKey IdempotencyKey.conflict
  stockReservations : Table StockReservation StockReservation.conflict
  paymentAuthorizations : Table PaymentAuthorization PaymentAuthorization.conflict
  shipments : Table ShipmentRow ShipmentRow.conflict
  notificationEvents : Table NotificationEvent NotificationEvent.conflict
  compensationEvents : Table CompensationEvent CompensationEvent.conflict
  outboxEvents : Table OutboxEvent OutboxEvent.conflict
  auditLogs : List AuditLog

end FulfillHub
