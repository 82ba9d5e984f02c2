import FulfillHub.Commerce.Model
import FulfillHub.Library.Prog

/-!
# What the services and workers call

The `Store`, `OrderStatusUpdater` and `Projector` interfaces, the provider interfaces, the clock and
the id source, as one signature of calls. The order service and the queue handlers are programs over
this signature; a store gives meaning to its store calls, and everything else is answered by the
outside world.
-/

namespace FulfillHub

open Interaction

/-- The calls of the `Projector` interface. -/
inductive ProjectorCall
  | recordInventoryReserved (source next : OutboxEvent) (audit : AuditLog)
  | recordInventoryRejected (source next : OutboxEvent) (audit : AuditLog)
  | recordPaymentAuthorized (source next : OutboxEvent) (payment : Payment) (audit : AuditLog)
  | recordPaymentFailed (source next : OutboxEvent) (audit : AuditLog)
  | recordShipmentCreated (source next : OutboxEvent) (shipment : Shipment) (audit : AuditLog)
  | recordShipmentFailed (source next : OutboxEvent) (audit : AuditLog)
  | recordOrderCancelled (source next : OutboxEvent) (audit : AuditLog)
  | recordNotificationQueued (source : OutboxEvent) (audit : AuditLog)
  | recordCompensation (source : OutboxEvent) (status : OrderStatus) (audit : AuditLog)

inductive StoreCall
  | insertOrder (merchantID idempotencyKey : String) (order : Order) (event : OutboxEvent)
      (audit : AuditLog)
  | getOrder (orderID : String)
  | updateOrderStatus (orderID : String) (status : OrderStatus) (now : Time) (event : OutboxEvent)
      (audit : AuditLog)
  | projector (c : ProjectorCall)

/-- The successful result of a store call. An insertion returns the stored order, which a replay looks
up and may not find, and whether it was a replay. -/
abbrev StoreCall.Result : StoreCall → Type
  | .insertOrder .. => Option Order × Bool
  | .getOrder .. | .updateOrderStatus .. => Order
  | .projector _ => Unit

/-- The first argument of a projector call, the event being handled. -/
def ProjectorCall.source : ProjectorCall → OutboxEvent
  | .recordInventoryReserved source _ _ | .recordInventoryRejected source _ _
  | .recordPaymentAuthorized source _ _ _ | .recordPaymentFailed source _ _
  | .recordShipmentCreated source _ _ _ | .recordShipmentFailed source _ _
  | .recordOrderCancelled source _ _ | .recordNotificationQueued source _
  | .recordCompensation source _ _ => source

/-- The event a projector call hands over for the outbox. -/
def ProjectorCall.next : ProjectorCall → Option OutboxEvent
  | .recordInventoryReserved _ next _ | .recordInventoryRejected _ next _
  | .recordPaymentAuthorized _ next _ _ | .recordPaymentFailed _ next _
  | .recordShipmentCreated _ next _ _ | .recordShipmentFailed _ next _
  | .recordOrderCancelled _ next _ => some next
  | .recordNotificationQueued _ _ | .recordCompensation _ _ _ => none

/-- The event a successful call hands over for the outbox. -/
def StoreCall.emitted : (c : StoreCall) → c.Result → Option OutboxEvent
  | .insertOrder _ _ _ event _, (_, replayed) => if replayed then none else some event
  | .getOrder _, _ => none
  | .updateOrderStatus _ _ _ event _, _ => some event
  | .projector c, _ => c.next

def StoreCall.isRead : StoreCall → Bool
  | .getOrder _ => true
  | _ => false

/-- A call to the outside world: a provider, the clock, or the id source. -/
inductive PortCall
  | clock
  | newID (kind : String)
  | reserveInventory (event : OutboxEvent)
  | authorizePayment (event : OutboxEvent)
  | createShipment (event : OutboxEvent)

abbrev PortCall.Answer : PortCall → Type
  | .clock => Time
  | .newID _ => String
  | .reserveInventory _ => Except Error Unit
  | .authorizePayment _ => Except Error Payment
  | .createShipment _ => Except Error Shipment

inductive Call
  | store (c : StoreCall)
  | port (c : PortCall)

abbrev Call.Answer : Call → Type
  | .store c => Except Error c.Result
  | .port c => c.Answer

/-- A program of the order service or of a queue handler. -/
abbrev Saga (α : Type) := Prog Call Call.Answer α

namespace Saga

def store (c : StoreCall) : Saga (Except Error c.Result) := Prog.perform (Call.store c)

def port (c : PortCall) : Saga c.Answer := Prog.perform (Call.port c)

def clock : Saga Time := port .clock

def newID (kind : String) : Saga String := port (.newID kind)

def insertOrder (merchantID idempotencyKey : String) (order : Order) (event : OutboxEvent)
    (audit : AuditLog) : Saga (Except Error (Option Order × Bool)) :=
  store (.insertOrder merchantID idempotencyKey order event audit)

def getOrder (orderID : String) : Saga (Except Error Order) := store (.getOrder orderID)

def updateOrderStatus (orderID : String) (status : OrderStatus) (now : Time) (event : OutboxEvent)
    (audit : AuditLog) : Saga (Except Error Order) :=
  store (.updateOrderStatus orderID status now event audit)

def record (c : ProjectorCall) : Saga (Except Error Unit) := store (.projector c)

def reserveInventory (event : OutboxEvent) : Saga (Except Error Unit) := port (.reserveInventory event)

def authorizePayment (event : OutboxEvent) : Saga (Except Error Payment) :=
  port (.authorizePayment event)

def createShipment (event : OutboxEvent) : Saga (Except Error Shipment) := port (.createShipment event)

end Saga

/-- What a store makes of a call: the answer, and the store afterwards. -/
abbrev StoreSemantics (S : Type) := S → (c : StoreCall) → Except Error c.Result × S

end FulfillHub
