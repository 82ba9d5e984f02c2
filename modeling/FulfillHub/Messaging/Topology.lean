import FulfillHub.Commerce.Model

/-!
# The queue topology

`internal/messaging/topology.go`: the worker queues, the routing keys they are bound with, and the
retry and dead-letter queues beside them. `DeclareTopology` binds a queue, its retry queue and its
dead-letter queue with the same keys, on the domain, retry and dead-letter exchange respectively.
-/

namespace FulfillHub

inductive Queue
  | inventoryReserve
  | paymentsAuthorize
  | shipmentsCreate
  | ordersFinalize
  | ordersCancel
  | ordersCompensate
  | notificationsEmail
  deriving DecidableEq

def Queue.name : Queue → String
  | .inventoryReserve => "inventory.reserve"
  | .paymentsAuthorize => "payments.authorize"
  | .shipmentsCreate => "shipments.create"
  | .ordersFinalize => "orders.finalize"
  | .ordersCancel => "orders.cancel"
  | .ordersCompensate => "orders.compensate"
  | .notificationsEmail => "notifications.email"

/-- The queue of a name, if it is one of the worker queues. -/
def Queue.ofName (name : String) : Option Queue :=
  [Queue.inventoryReserve, .paymentsAuthorize, .shipmentsCreate, .ordersFinalize, .ordersCancel,
    .ordersCompensate, .notificationsEmail].find? (·.name = name)

structure QueueTopology where
  queue : Queue
  routingKeys : List String
  retryQueue : String
  retryTTL : Time
  dlq : String

def routingKey (eventType : EventType) : String := Text.trimSpace eventType.text

def queueTopologies : List QueueTopology :=
  [⟨.inventoryReserve, ["order.created"], "inventory.reserve.retry.5s", 5 * Time.second,
      "inventory.reserve.dlq"⟩,
    ⟨.paymentsAuthorize, ["inventory.reserved"], "payments.authorize.retry.15s", 15 * Time.second,
      "payments.authorize.dlq"⟩,
    ⟨.shipmentsCreate, ["payment.authorized"], "shipments.create.retry.30s", 30 * Time.second,
      "shipments.create.dlq"⟩,
    ⟨.ordersFinalize, ["shipment.created"], "orders.finalize.retry.15s", 15 * Time.second,
      "orders.finalize.dlq"⟩,
    ⟨.ordersCancel, ["order.cancel_requested"], "orders.cancel.retry.15s", 15 * Time.second,
      "orders.cancel.dlq"⟩,
    ⟨.ordersCompensate, ["inventory.rejected", "payment.failed", "shipment.failed"],
      "orders.compensate.retry.15s", 15 * Time.second, "orders.compensate.dlq"⟩,
    ⟨.notificationsEmail, ["order.completed", "order.cancelled", "order.manual_review_required",
        "inventory.rejected", "payment.failed", "shipment.failed"],
      "notifications.email.retry.60s", 60 * Time.second, "notifications.email.dlq"⟩]

/-- The queues bound with a routing key. The retry exchange and the dead-letter exchange route a key
to the retry queues and dead-letter queues of the same list. -/
def boundQueues (key : String) : List Queue :=
  (queueTopologies.filter fun topology => topology.routingKeys.contains key).map (·.queue)

/-- Whether events of a type are routed to a queue. -/
def Queue.consumes (queue : Queue) (eventType : EventType) : Bool :=
  (boundQueues (routingKey eventType)).contains queue

end FulfillHub
