import FulfillHub.Commerce.MemoryStore
import FulfillHub.Fulfillment.Handlers

/-!
# Handlers run to their end

A handler that is run on the in-memory store without interruption, with the outside world answering in
any way it likes. For each queue: from which status of the order the run takes the order further,
whether the provider accepts or refuses.
-/

namespace FulfillHub

open Interaction

/-- The store answers store calls, and `ports` all others. -/
def alone (ports : (c : PortCall) → c.Answer) (s : MemoryStore) : (c : Call) → c.Answer × MemoryStore
  | .store c => s.semantics c
  | .port c => (ports c, s)

/-- The store after a handler has been run on it. -/
def afterHandling (ports : (c : PortCall) → c.Answer) (s : MemoryStore) (queue : Queue)
    (deps : Dependencies) (event : OutboxEvent) : MemoryStore :=
  ((handlerFor queue deps event).run (alone ports) s).2

/-- The order has moved to another status, or an event was appended for it. -/
def Advanced (s s' : MemoryStore) (orderID : String) : Prop :=
  (s'.orders.lookup orderID).map Order.status ≠ (s.orders.lookup orderID).map Order.status ∨
    ∃ event, s'.outbox = s.outbox ++ [event] ∧ event.orderID = orderID

/-- A worker has the store it needs. -/
def Dependencies.HasStore (deps : Dependencies) : Prop := deps.projector = true ∧ deps.orders = true

/-- However the providers answer, the handler takes the order of its event further. -/
def Advances (s : MemoryStore) (queue : Queue) (event : OutboxEvent) : Prop :=
  ∀ deps : Dependencies, deps.HasStore → ∀ ports,
    Advanced s (afterHandling ports s queue deps event) event.orderID

variable {s : MemoryStore} {event : OutboxEvent} {order : Order}

/-! ### Single calls -/

section Calls

variable {α : Type} {ports : (c : PortCall) → c.Answer}

@[simp] theorem run_clock_bind {f : Time → Saga α} :
    (Saga.clock >>= f).run (alone ports) s = (f (ports .clock)).run (alone ports) s := rfl

@[simp] theorem run_newID_bind {kind : String} {f : String → Saga α} :
    (Saga.newID kind >>= f).run (alone ports) s = (f (ports (.newID kind))).run (alone ports) s := rfl

@[simp] theorem run_reserveInventory_bind {f : Except Error Unit → Saga α} :
    (Saga.reserveInventory event >>= f).run (alone ports) s =
      (f (ports (.reserveInventory event))).run (alone ports) s := rfl

@[simp] theorem run_authorizePayment_bind {f : Except Error Payment → Saga α} :
    (Saga.authorizePayment event >>= f).run (alone ports) s =
      (f (ports (.authorizePayment event))).run (alone ports) s := rfl

@[simp] theorem run_createShipment_bind {f : Except Error Shipment → Saga α} :
    (Saga.createShipment event >>= f).run (alone ports) s =
      (f (ports (.createShipment event))).run (alone ports) s := rfl

@[simp] theorem run_getOrder_bind {orderID : String} {f : Except Error Order → Saga α} :
    (Saga.getOrder orderID >>= f).run (alone ports) s = (f (s.getOrder orderID)).run (alone ports) s := rfl

@[simp] theorem run_record_bind {c : ProjectorCall} {f : Except Error Unit → Saga α} :
    (Saga.record c >>= f).run (alone ports) s =
      (f (s.projector c).1).run (alone ports) (s.projector c).2 := rfl

@[simp] theorem run_record {c : ProjectorCall} : (Saga.record c).run (alone ports) s = s.projector c := rfl

end Calls

theorem project_advanced {orderID : String} {p : Projection} {audit : AuditLog}
    (horder : s.orders.lookup orderID = some order)
    (htarget : ∀ next, p.target = some next → canTransitionOrderStatus order.status next = true)
    (hmoves : (p.update order).status ≠ order.status ∨
      ∃ event, p.event order = some event ∧ event.orderID = orderID) :
    Advanced s (s.project orderID p audit).2 orderID := by
  rw [MemoryStore.project_eq_ok horder htarget]
  rcases hmoves with hstatus | ⟨event, hevent, hid⟩
  · refine .inl ?_
    rw [MemoryStore.commit_orders, Finmap.lookup_insert, horder]
    simpa using hstatus
  · refine .inr ⟨event.withEnvelopeDefaults, ?_, by simpa using hid⟩
    rw [MemoryStore.commit_outbox, hevent]
    rfl

theorem projector_advanced {c : ProjectorCall} (horder : s.orders.lookup c.source.orderID = some order)
    (htarget : ∀ next, c.projection.target = some next → canTransitionOrderStatus order.status next = true)
    (hmoves : (c.projection.update order).status ≠ order.status ∨
      ∃ event, c.projection.event order = some event ∧ event.orderID = c.source.orderID) :
    Advanced s (s.projector c).2 c.source.orderID := by
  cases c <;> exact project_advanced horder htarget hmoves

/-! ### Handlers -/

section Handlers

variable {ports : (c : PortCall) → c.Answer} {now : Time}

theorem recordInventoryRejected_advanced {cause : Error} (horder : s.orders.lookup event.orderID = some order) :
    Advanced s ((recordInventoryRejected event now cause).run (alone ports) s).2 event.orderID :=
  projector_advanced (c := .recordInventoryRejected event _ _) horder (by rintro _ ⟨⟩)
    (.inr ⟨_, rfl, rfl⟩)

theorem recordInventoryReserved_advanced (horder : s.orders.lookup event.orderID = some order)
    (htarget : canTransitionOrderStatus order.status .inventoryReserved = true) :
    Advanced s ((recordInventoryReserved event now).run (alone ports) s).2 event.orderID := by
  have hok := fun next audit => MemoryStore.projector_eq_ok (c := .recordInventoryReserved event next audit) horder
    (by rintro _ ⟨⟩; exact htarget)
  simp only [recordInventoryReserved, run_newID_bind, run_record_bind, hok]
  exact projector_advanced (c := .recordInventoryReserved event _ _) horder
    (by rintro _ ⟨⟩; exact htarget) (.inr ⟨_, rfl, rfl⟩)

theorem reserveInventory_advances (hevent : validateEvent event .orderCreated = .ok ())
    (horder : s.orders.lookup event.orderID = some order) (hstatus : order.status = .pendingFulfillment) :
    Advances s .inventoryReserve event := by
  rintro deps ⟨hprojector, _⟩ ports
  have htarget : canTransitionOrderStatus order.status .inventoryReserved = true := by rw [hstatus]; rfl
  simp only [afterHandling, handlerFor, reserveInventory, hprojector, hevent, run_clock_bind,
    Bool.not_true, Bool.false_eq_true, if_false]
  split_ifs
  · rw [run_reserveInventory_bind]
    cases ports (.reserveInventory event) with
    | error err => exact recordInventoryRejected_advanced horder
    | ok _ => exact recordInventoryReserved_advanced horder htarget
  · exact recordInventoryReserved_advanced horder htarget

theorem authorizePayment_advances (hevent : validateEvent event .inventoryReserved = .ok ())
    (horder : s.orders.lookup event.orderID = some order) (hstatus : order.status = .inventoryReserved) :
    Advances s .paymentsAuthorize event := by
  rintro deps ⟨hprojector, _⟩ ports
  have hauthorized : ∀ next payment audit, next.orderID = event.orderID → Advanced s
      (s.projector (.recordPaymentAuthorized event next payment audit)).2 event.orderID :=
    fun next payment audit hid => projector_advanced (c := .recordPaymentAuthorized event next payment audit)
      horder (by rintro _ ⟨⟩; rw [hstatus]; rfl) (.inr ⟨_, rfl, hid⟩)
  simp only [afterHandling, handlerFor, authorizePayment, hprojector, hevent, run_clock_bind,
    Bool.not_true, Bool.false_eq_true, if_false]
  split_ifs
  · rw [run_authorizePayment_bind]
    cases ports (.authorizePayment event) with
    | error err =>
      exact projector_advanced (c := .recordPaymentFailed event _ _) horder (by rintro _ ⟨⟩)
        (.inr ⟨_, rfl, rfl⟩)
    | ok answer =>
      simp only [paymentWithAuthorization]
      split_ifs
      · exact hauthorized _ _ _ rfl
      · exact hauthorized _ _ _ rfl
  · exact hauthorized _ _ _ rfl

theorem createShipment_advances (hevent : validateEvent event .paymentAuthorized = .ok ())
    (horder : s.orders.lookup event.orderID = some order) (hstatus : order.status = .paymentAuthorized) :
    Advances s .shipmentsCreate event := by
  rintro deps ⟨hprojector, _⟩ ports
  have hcreated : ∀ next shipment audit, next.orderID = event.orderID → Advanced s
      (s.projector (.recordShipmentCreated event next shipment audit)).2 event.orderID :=
    fun next shipment audit hid => projector_advanced (c := .recordShipmentCreated event next shipment audit)
      horder (by rintro _ ⟨⟩; rw [hstatus]; rfl) (.inr ⟨_, rfl, hid⟩)
  simp only [afterHandling, handlerFor, createShipment, hprojector, hevent, run_clock_bind,
    Bool.not_true, Bool.false_eq_true, if_false]
  split_ifs
  · rw [run_createShipment_bind]
    cases ports (.createShipment event) with
    | error err =>
      exact projector_advanced (c := .recordShipmentFailed event _ _) horder (by rintro _ ⟨⟩)
        (.inr ⟨_, rfl, rfl⟩)
    | ok answer =>
      simp only [normalizedShipment, shipmentWithID]
      split_ifs
      · exact hcreated _ _ _ rfl
      · exact hcreated _ _ _ rfl
  · simp only [normalizedShipment, shipmentWithID, run_newID_bind]
    split_ifs
    · exact hcreated _ _ _ rfl
    · exact hcreated _ _ _ rfl

theorem updateOrderStatus_advanced {status : OrderStatus} {next : OutboxEvent} {audit : AuditLog}
    (horder : s.orders.lookup event.orderID = some order) (hnext : next.orderID = event.orderID)
    (htarget : canTransitionOrderStatus order.status status = true) :
    Advanced s (s.updateOrderStatus event.orderID status now next audit).2 event.orderID :=
  project_advanced horder (by rintro _ ⟨⟩; exact htarget) (.inr ⟨_, rfl, hnext⟩)

theorem completeOrder_advances (hevent : validateEvent event .shipmentCreated = .ok ())
    (horder : s.orders.lookup event.orderID = some order) (hstatus : order.status = .shipmentCreated) :
    Advances s .ordersFinalize event := by
  rintro deps ⟨_, horders⟩ ports
  have hread : s.getOrder event.orderID = .ok order := by rw [MemoryStore.getOrder, horder]
  simp only [afterHandling, handlerFor, completeOrder, horders, hevent, run_getOrder_bind, hread, hstatus,
    Bool.not_true, Bool.false_eq_true, if_false]
  exact updateOrderStatus_advanced horder rfl (by rw [hstatus]; rfl)

theorem cancelOrder_advances (hevent : validateEvent event .orderCancelRequested = .ok ())
    (horder : s.orders.lookup event.orderID = some order) (hstatus : order.status = .cancellationPending) :
    Advances s .ordersCancel event := by
  rintro deps ⟨hprojector, horders⟩ ports
  have hread : s.getOrder event.orderID = .ok order := by rw [MemoryStore.getOrder, horder]
  have hopen : ¬ (order.status = .cancelled ∨ order.status = .manualReview) := by simp [hstatus]
  simp only [afterHandling, handlerFor, cancelOrder, horders, hevent, run_getOrder_bind, hread, hopen,
    hprojector, run_clock_bind, Bool.not_true, Bool.false_eq_true, if_false]
  split_ifs
  · exact updateOrderStatus_advanced horder rfl (by rw [hstatus]; rfl)
  · exact projector_advanced (c := .recordOrderCancelled event _ _) horder
      (by rintro _ ⟨⟩; rw [hstatus]; rfl) (.inr ⟨_, rfl, rfl⟩)

theorem recordCompensation_advances {status : OrderStatus} {action : String}
    (hplan : compensationPlan event.eventType = .ok (status, action))
    (hevent : validateEventIdentity event = .ok ()) (horder : s.orders.lookup event.orderID = some order)
    (htarget : canTransitionOrderStatus order.status status = true) (hmoves : status ≠ order.status) :
    Advances s .ordersCompensate event := by
  rintro deps ⟨hprojector, _⟩ ports
  simp only [afterHandling, handlerFor, recordCompensation, hprojector, hplan, hevent, run_clock_bind,
    Bool.not_true, Bool.false_eq_true, if_false]
  exact projector_advanced (c := .recordCompensation event status _) horder
    (by rintro _ ⟨⟩; exact htarget) (.inl hmoves)

/-- Providers that refuse every request. -/
def refusingPorts : (p : PortCall) → p.Answer
  | .clock => 0
  | .newID _ => ""
  | .reserveInventory _ => .ok ()
  | .authorizePayment _ => .error errNotFound
  | .createShipment _ => .error errNotFound

/-- Queueing a notification takes no order further. -/
theorem queueNotification_not_advances : ¬ Advances s .notificationsEmail event := by
  have hsame : ∀ s' : MemoryStore, s'.outbox = s.outbox →
      (s'.orders.lookup event.orderID).map Order.status = (s.orders.lookup event.orderID).map Order.status →
      ¬ Advanced s s' event.orderID := by
    rintro s' houtbox hstatus (hmoved | ⟨new, hnew, _⟩)
    · exact hmoved hstatus
    · simpa [houtbox] using congrArg List.length hnew
  have hrecord : ∀ audit, ¬ Advanced s (s.projector (.recordNotificationQueued event audit)).2 event.orderID := by
    intro audit
    change ¬ Advanced s (s.project event.orderID .notificationQueued audit).2 event.orderID
    rcases MemoryStore.project_cases s event.orderID .notificationQueued audit with
      ⟨err, h⟩ | ⟨order, horder, _, h⟩
    · rw [h]
      exact hsame s rfl rfl
    · rw [h]
      refine hsame _ (by simp [Projection.notificationQueued]) ?_
      rw [MemoryStore.commit_orders, Finmap.lookup_insert, horder]
      rfl
  intro hadvances
  have hadvanced := hadvances ⟨true, true, true, true, true⟩ ⟨rfl, rfl⟩ refusingPorts
  simp only [afterHandling, handlerFor, queueNotification, Bool.not_true, Bool.false_eq_true, if_false]
    at hadvanced
  split at hadvanced
  · exact hsame s rfl rfl hadvanced
  split at hadvanced
  · exact hsame s rfl rfl hadvanced
  · rw [run_clock_bind, run_record] at hadvanced
    exact hrecord _ hadvanced

end Handlers

end FulfillHub
