import FulfillHub.Commerce.Service
import FulfillHub.Fulfillment.Handlers

/-!
# What the service operations and the handlers may do

A job is one run of an order service operation or of a queue handler. Its contract lists the store
calls it may make and when it may return: no handler acts on an event that fails its validation, every
write names the job's own order and carries an id the run has just been given, nothing happens after
a successful write, and a run reports success only after one or on an order it has seen to be past
the point of acting. The programs themselves are not looked at again after this module.
-/

namespace FulfillHub

open Interaction

variable {c : StoreCall}

abbrev SagaTrace := Trace Call.Answer

/-- A successful store call other than a read. -/
def committed : Exchange Call.Answer → Bool
  | ⟨.store c, .ok _⟩ => !c.isRead
  | _ => false

/-- A provider that has accepted to authorize or to book. -/
def accepted : Exchange Call.Answer → Bool
  | ⟨.port (.authorizePayment _), .ok _⟩ | ⟨.port (.createShipment _), .ok _⟩ => true
  | _ => false

def Never (p : Exchange Call.Answer → Bool) (trace : SagaTrace) : Prop := ∀ x ∈ trace, p x = false

/-- The run was given this id. -/
def Given (trace : SagaTrace) (kind id : String) : Prop := ⟨.port (.newID kind), id⟩ ∈ trace

/-- The run has read this order. -/
def Saw (trace : SagaTrace) (orderID : String) (order : Order) : Prop :=
  ⟨.store (.getOrder orderID), .ok order⟩ ∈ trace

/-! ### Handlers -/

/-- The event types a queue's handler acts on. -/
def Queue.expects : Queue → EventType → Bool
  | .inventoryReserve, eventType => eventType = .orderCreated
  | .paymentsAuthorize, eventType => eventType = .inventoryReserved
  | .shipmentsCreate, eventType => eventType = .paymentAuthorized
  | .ordersFinalize, eventType => eventType = .shipmentCreated
  | .ordersCancel, eventType => eventType = .orderCancelRequested
  | .ordersCompensate, eventType => (compensationPlan eventType).isOk
  | .notificationsEmail, eventType => isNotificationEvent eventType

/-- The status a compensated event moves its order to. -/
def compensationTarget : EventType → OrderStatus
  | .inventoryRejected => .failed
  | .paymentFailed => .cancelled
  | _ => .cancellationPending

/-- The payment a run records: the provider's answer, normalised and given an id, or the one made up
when no provider is configured. -/
def PaymentToRecord (trace : SagaTrace) (event : OutboxEvent) (payment : Payment) : Prop :=
  (∃ answer, ⟨.port (.authorizePayment event), .ok answer⟩ ∈ trace ∧
      payment.status = (normalizedPayment answer).status ∧
      (answer.authorizationID ≠ "" → payment.authorizationID = answer.authorizationID)) ∨
    Never accepted trace ∧ payment.status = .authorized

def ShipmentToRecord (trace : SagaTrace) (event : OutboxEvent) (shipment : Shipment) : Prop :=
  (∃ answer, ⟨.port (.createShipment event), .ok answer⟩ ∈ trace ∧
      shipment.status = (if answer.status = .blank then .created else answer.status) ∧
      (answer.shipmentID ≠ "" → shipment.shipmentID = answer.shipmentID)) ∨
    Never accepted trace ∧ shipment.status = .created

/-- The store calls by which a handler acts on its event, given the exchanges of the run before. -/
inductive HandlerWrites (event : OutboxEvent) (trace : SagaTrace) : Queue → StoreCall → Prop
  | inventoryReserved {id : String} {now : Time} {audit : AuditLog} (hid : Given trace "msg" id) :
      HandlerWrites event trace .inventoryReserve
        (.projector (.recordInventoryReserved event (nextEventAt id event .inventoryReserved now) audit))
  | inventoryRejected {id : String} {now : Time} {audit : AuditLog} (hid : Given trace "msg" id) :
      HandlerWrites event trace .inventoryReserve
        (.projector (.recordInventoryRejected event (nextEventAt id event .inventoryRejected now) audit))
  | paymentAuthorized {id : String} {now : Time} {audit : AuditLog} {payment : Payment}
      (hid : Given trace "msg" id) (hpayment : PaymentToRecord trace event payment) :
      HandlerWrites event trace .paymentsAuthorize (.projector
        (.recordPaymentAuthorized event (nextEventAt id event .paymentAuthorized now) payment audit))
  | paymentFailed {id : String} {now : Time} {audit : AuditLog} (hid : Given trace "msg" id)
      (hrefused : Never accepted trace) :
      HandlerWrites event trace .paymentsAuthorize
        (.projector (.recordPaymentFailed event (nextEventAt id event .paymentFailed now) audit))
  | shipmentCreated {id : String} {now : Time} {audit : AuditLog} {shipment : Shipment}
      (hid : Given trace "msg" id) (hshipment : ShipmentToRecord trace event shipment) :
      HandlerWrites event trace .shipmentsCreate (.projector
        (.recordShipmentCreated event (nextEventAt id event .shipmentCreated now) shipment audit))
  | shipmentFailed {id : String} {now : Time} {audit : AuditLog} (hid : Given trace "msg" id)
      (hrefused : Never accepted trace) :
      HandlerWrites event trace .shipmentsCreate
        (.projector (.recordShipmentFailed event (nextEventAt id event .shipmentFailed now) audit))
  | orderCompleted {id : String} {now : Time} {audit : AuditLog} {order : Order}
      (hid : Given trace "msg" id) (hsaw : Saw trace event.orderID order)
      (hstatus : order.status = .shipmentCreated) :
      HandlerWrites event trace .ordersFinalize
        (.updateOrderStatus event.orderID .completed now (nextEventAt id event .orderCompleted now) audit)
  | manualReview {id : String} {now : Time} {audit : AuditLog} {order : Order}
      (hid : Given trace "msg" id) (hsaw : Saw trace event.orderID order)
      (hreview : requiresManualReview order = true) :
      HandlerWrites event trace .ordersCancel (.updateOrderStatus event.orderID .manualReview now
        (nextEventAt id event .orderManualReviewRequired now) audit)
  | orderCancelled {id : String} {now : Time} {audit : AuditLog} {order : Order}
      (hid : Given trace "msg" id) (hsaw : Saw trace event.orderID order)
      (hreview : requiresManualReview order = false) :
      HandlerWrites event trace .ordersCancel
        (.projector (.recordOrderCancelled event (nextEventAt id event .orderCancelled now) audit))
  | notificationQueued {audit : AuditLog} :
      HandlerWrites event trace .notificationsEmail (.projector (.recordNotificationQueued event audit))
  | compensation {audit : AuditLog} :
      HandlerWrites event trace .ordersCompensate
        (.projector (.recordCompensation event (compensationTarget event.eventType) audit))

/-- The handlers that return success without acting have read an order past the point of acting. -/
inductive NothingToDo (event : OutboxEvent) (trace : SagaTrace) : Queue → Prop
  | finalize {order : Order} (hsaw : Saw trace event.orderID order)
      (hstatus : order.status ∈ [.completed, .cancellationPending, .manualReview, .cancelled]) :
      NothingToDo event trace .ordersFinalize
  | cancel {order : Order} (hsaw : Saw trace event.orderID order)
      (hstatus : order.status ∈ [.cancelled, .manualReview]) : NothingToDo event trace .ordersCancel

structure Validated (queue : Queue) (event : OutboxEvent) : Prop where
  expected : queue.expects event.eventType = true
  identity : validateEventIdentity event = .ok ()

/-- The providers a handler may ask, about its own event; a payment or a shipment is asked for right
after the clock. -/
def MayAsk (queue : Queue) (event : OutboxEvent) (trace : SagaTrace) : PortCall → Prop
  | .clock | .newID _ => True
  | .reserveInventory source => queue = .inventoryReserve ∧ source = event
  | .authorizePayment source =>
    queue = .paymentsAuthorize ∧ source = event ∧ ∃ now, trace = [⟨.port .clock, now⟩]
  | .createShipment source =>
    queue = .shipmentsCreate ∧ source = event ∧ ∃ now, trace = [⟨.port .clock, now⟩]

def handlerContract (queue : Queue) (event : OutboxEvent) : Contract Call.Answer (Except Error Unit) where
  allowed trace c := Validated queue event ∧ Never committed trace ∧
    match c with
    | .port c => MayAsk queue event trace c
    | .store c => c = .getOrder event.orderID ∨ HandlerWrites event trace queue c
  returns trace
    | .ok () => Validated queue event ∧ ((∃ x ∈ trace, committed x = true) ∨ NothingToDo event trace queue)
    | .error _ => Never committed trace ∧ (Never accepted trace ∨ Validated queue event ∧
        ∃ c err, HandlerWrites event trace queue c ∧ ⟨.store c, .error err⟩ ∈ trace)

/-! ### Facts about traces -/

section Traces

variable {queue : Queue} {event : OutboxEvent} {trace : SagaTrace} {x : Exchange Call.Answer}

theorem Never.nil {p : Exchange Call.Answer → Bool} : Never p [] := by simp [Never]

theorem Never.snoc {p : Exchange Call.Answer → Bool} (h : Never p trace) (hx : p x = false) :
    Never p (trace ++ [x]) := by
  intro y hy
  rcases List.mem_append.mp hy with hy | hy
  · exact h y hy
  · rw [List.mem_singleton.mp hy]
    exact hx

theorem mem_last : x ∈ trace ++ [x] := List.mem_append_right _ (List.mem_singleton_self _)

theorem Given.snoc {kind id : String} (h : Given trace kind id) : Given (trace ++ [x]) kind id :=
  List.mem_append_left _ h

theorem Saw.snoc {orderID : String} {order : Order} (h : Saw trace orderID order) :
    Saw (trace ++ [x]) orderID order :=
  List.mem_append_left _ h

theorem PaymentToRecord.snoc {payment : Payment} (h : PaymentToRecord trace event payment)
    (hx : accepted x = false) : PaymentToRecord (trace ++ [x]) event payment := by
  rcases h with ⟨answer, hpaid, h⟩ | ⟨hnone, h⟩
  · exact .inl ⟨answer, List.mem_append_left _ hpaid, h⟩
  · exact .inr ⟨hnone.snoc hx, h⟩

theorem ShipmentToRecord.snoc {shipment : Shipment} (h : ShipmentToRecord trace event shipment)
    (hx : accepted x = false) : ShipmentToRecord (trace ++ [x]) event shipment := by
  rcases h with ⟨answer, hbooked, h⟩ | ⟨hnone, h⟩
  · exact .inl ⟨answer, List.mem_append_left _ hbooked, h⟩
  · exact .inr ⟨hnone.snoc hx, h⟩

theorem HandlerWrites.snoc (h : HandlerWrites event trace queue c) (hx : accepted x = false) :
    HandlerWrites event (trace ++ [x]) queue c := by
  cases h with
  | inventoryReserved hid => exact .inventoryReserved hid.snoc
  | inventoryRejected hid => exact .inventoryRejected hid.snoc
  | paymentAuthorized hid hpayment => exact .paymentAuthorized hid.snoc (hpayment.snoc hx)
  | paymentFailed hid hrefused => exact .paymentFailed hid.snoc (hrefused.snoc hx)
  | shipmentCreated hid hshipment => exact .shipmentCreated hid.snoc (hshipment.snoc hx)
  | shipmentFailed hid hrefused => exact .shipmentFailed hid.snoc (hrefused.snoc hx)
  | orderCompleted hid hsaw hstatus => exact .orderCompleted hid.snoc hsaw.snoc hstatus
  | manualReview hid hsaw hreview => exact .manualReview hid.snoc hsaw.snoc hreview
  | orderCancelled hid hsaw hreview => exact .orderCancelled hid.snoc hsaw.snoc hreview
  | notificationQueued => exact .notificationQueued
  | compensation => exact .compensation

theorem HandlerWrites.not_read (h : HandlerWrites event trace queue c) : c.isRead = false := by
  cases h <;> rfl

end Traces

/-! ### The handlers follow their contracts -/

theorem validated_of_validateEvent {queue : Queue} {event : OutboxEvent} {expected : EventType}
    (hexpects : queue.expects expected = true) (h : validateEvent event expected = .ok ()) :
    Validated queue event := by
  unfold validateEvent at h
  split_ifs at h with htype
  rw [not_not] at htype
  exact ⟨htype ▸ hexpects, h⟩

section Handlers

variable {queue : Queue} {event : OutboxEvent} {trace : SagaTrace} {deps : Dependencies}

theorem follows_error {err : Error} (hquiet : Never committed trace) (hnone : Never accepted trace) :
    (handlerContract queue event).Follows trace (.ret (.error err)) :=
  .ret ⟨hquiet, .inl hnone⟩

/-- An allowed write may be a handler's last act. -/
theorem follows_write {f : Except Error c.Result → Except Error Unit} (hok : ∀ r, f (.ok r) = .ok ())
    (herr : ∀ err, f (.error err) = .error err) (hvalid : Validated queue event) (hquiet : Never committed trace)
    (hwrite : HandlerWrites event trace queue c) :
    (handlerContract queue event).Follows trace (Saga.store c >>= fun r => pure (f r)) := by
  refine .perform ⟨hvalid, hquiet, .inr hwrite⟩ fun r => ?_
  cases r with
  | ok result =>
    rw [hok]
    refine .ret ⟨hvalid, .inl ⟨⟨.store c, .ok result⟩, mem_last, ?_⟩⟩
    simp [committed, hwrite.not_read]
  | error err =>
    rw [herr]
    exact .ret ⟨hquiet.snoc rfl, .inr ⟨hvalid, c, err, hwrite.snoc rfl, mem_last⟩⟩

theorem follows_record {c : ProjectorCall} (hvalid : Validated queue event)
    (hquiet : Never committed trace) (hwrite : HandlerWrites event trace queue (.projector c)) :
    (handlerContract queue event).Follows trace (Saga.record c) := by
  change (handlerContract queue event).Follows trace (Saga.store (.projector c) >>= fun r => pure (id r))
  exact follows_write (fun _ => rfl) (fun _ => rfl) hvalid hquiet hwrite

variable {now : Time}

theorem recordInventoryRejected_follows {cause : Error} (hvalid : Validated .inventoryReserve event)
    (hquiet : Never committed trace) :
    (handlerContract .inventoryReserve event).Follows trace (recordInventoryRejected event now cause) := by
  refine .perform ⟨hvalid, hquiet, trivial⟩ fun id => ?_
  exact follows_record hvalid (hquiet.snoc rfl) (.inventoryRejected mem_last)

theorem recordInventoryReserved_follows (hvalid : Validated .inventoryReserve event) (hquiet : Never committed trace)
    (hnone : Never accepted trace) :
    (handlerContract .inventoryReserve event).Follows trace (recordInventoryReserved event now) := by
  refine .perform ⟨hvalid, hquiet, trivial⟩ fun id => ?_
  have hquiet := hquiet.snoc (x := ⟨.port (.newID "msg"), id⟩) rfl
  refine .perform ⟨hvalid, hquiet, .inr (.inventoryReserved mem_last)⟩ fun r => ?_
  cases r with
  | ok => exact .ret ⟨hvalid, .inl ⟨_, mem_last, rfl⟩⟩
  | error err =>
    dsimp only
    split_ifs
    · exact recordInventoryRejected_follows hvalid (hquiet.snoc rfl)
    · exact follows_error (hquiet.snoc rfl) ((hnone.snoc rfl).snoc rfl)

theorem reserveInventory_follows :
    (handlerContract .inventoryReserve event).Follows [] (reserveInventory deps event) := by
  unfold reserveInventory
  split
  · exact follows_error .nil .nil
  split
  · exact follows_error .nil .nil
  rename_i hevent
  have hvalid : Validated .inventoryReserve event := validated_of_validateEvent rfl hevent
  refine .perform ⟨hvalid, .nil, trivial⟩ fun now => ?_
  have hquiet := Never.nil.snoc (p := committed) (x := ⟨.port .clock, now⟩) rfl
  have hnone := Never.nil.snoc (p := accepted) (x := ⟨.port .clock, now⟩) rfl
  split_ifs
  · refine .perform ⟨hvalid, hquiet, rfl, rfl⟩ fun r => ?_
    cases r with
    | error err => exact recordInventoryRejected_follows hvalid (hquiet.snoc rfl)
    | ok _ => exact recordInventoryReserved_follows hvalid (hquiet.snoc rfl) (hnone.snoc rfl)
  · exact recordInventoryReserved_follows hvalid hquiet hnone

theorem authorizePayment_follows :
    (handlerContract .paymentsAuthorize event).Follows [] (authorizePayment deps event) := by
  unfold authorizePayment
  split
  · exact follows_error .nil .nil
  split
  · exact follows_error .nil .nil
  rename_i hevent
  have hvalid : Validated .paymentsAuthorize event := validated_of_validateEvent rfl hevent
  refine .perform ⟨hvalid, .nil, trivial⟩ fun now => ?_
  have hquiet := Never.nil.snoc (p := committed) (x := ⟨.port .clock, now⟩) rfl
  have hnone := Never.nil.snoc (p := accepted) (x := ⟨.port .clock, now⟩) rfl
  split
  · refine .perform ⟨hvalid, hquiet, rfl, rfl, now, rfl⟩ fun r => ?_
    cases r with
    | error err =>
      refine .perform ⟨hvalid, hquiet.snoc rfl, trivial⟩ fun id => ?_
      exact follows_record hvalid ((hquiet.snoc rfl).snoc rfl)
        (.paymentFailed mem_last ((hnone.snoc rfl).snoc rfl))
    | ok answer =>
      have hquiet := hquiet.snoc (x := ⟨.port (.authorizePayment event), .ok answer⟩) rfl
      have hrecord : ∀ (trace : SagaTrace) (payment : Payment), Never committed trace →
          PaymentToRecord trace event payment →
          (handlerContract .paymentsAuthorize event).Follows trace (Saga.newID "msg" >>= fun id =>
            Saga.record (.recordPaymentAuthorized event (nextEventAt id event .paymentAuthorized now)
              payment (systemAudit event "payment.authorized" now))) := by
        intro trace payment hquiet hpayment
        refine .perform ⟨hvalid, hquiet, trivial⟩ fun id => ?_
        exact follows_record hvalid (hquiet.snoc rfl) (.paymentAuthorized mem_last (hpayment.snoc rfl))
      refine .bind ?_
      unfold paymentWithAuthorization
      split
      · rename_i hblank
        refine .perform ⟨hvalid, hquiet, trivial⟩ fun pay => ?_
        refine .ret (hrecord _ _ (hquiet.snoc rfl) (.inl ⟨answer, List.mem_append_left _ mem_last, rfl, ?_⟩))
        exact fun hid => absurd hblank hid
      · exact .ret (hrecord _ _ hquiet (.inl ⟨answer, mem_last, rfl, fun _ => rfl⟩))
  · refine .perform ⟨hvalid, hquiet, trivial⟩ fun id => ?_
    refine .perform ⟨hvalid, hquiet.snoc rfl, trivial⟩ fun pay => ?_
    refine follows_record hvalid ((hquiet.snoc rfl).snoc rfl)
      (.paymentAuthorized (List.mem_append_left _ mem_last) (.inr ⟨?_, rfl⟩))
    exact (hnone.snoc rfl).snoc rfl

theorem createShipment_follows : (handlerContract .shipmentsCreate event).Follows [] (createShipment deps event) := by
  unfold createShipment
  split
  · exact follows_error .nil .nil
  split
  · exact follows_error .nil .nil
  rename_i hevent
  have hvalid : Validated .shipmentsCreate event := validated_of_validateEvent rfl hevent
  refine .perform ⟨hvalid, .nil, trivial⟩ fun now => ?_
  have hquiet := Never.nil.snoc (p := committed) (x := ⟨.port .clock, now⟩) rfl
  have hnone := Never.nil.snoc (p := accepted) (x := ⟨.port .clock, now⟩) rfl
  split
  · refine .perform ⟨hvalid, hquiet, rfl, rfl, now, rfl⟩ fun r => ?_
    cases r with
    | error err =>
      refine .perform ⟨hvalid, hquiet.snoc rfl, trivial⟩ fun id => ?_
      exact follows_record hvalid ((hquiet.snoc rfl).snoc rfl)
        (.shipmentFailed mem_last ((hnone.snoc rfl).snoc rfl))
    | ok answer =>
      have hquiet := hquiet.snoc (x := ⟨.port (.createShipment event), .ok answer⟩) rfl
      refine .perform ⟨hvalid, hquiet, trivial⟩ fun id => ?_
      have hquiet := hquiet.snoc (x := ⟨.port (.newID "msg"), id⟩) rfl
      refine .bind (.bind ?_)
      unfold shipmentWithID
      split
      · rename_i hblank
        refine .perform ⟨hvalid, hquiet, trivial⟩ fun shp => ?_
        refine .ret (.ret (follows_record hvalid (hquiet.snoc rfl) (.shipmentCreated
          (List.mem_append_left _ mem_last) (.inl ⟨answer, ?_, rfl, fun hid => absurd hblank hid⟩))))
        exact List.mem_append_left _ (List.mem_append_left _ mem_last)
      · exact .ret (.ret (follows_record hvalid hquiet (.shipmentCreated mem_last
          (.inl ⟨answer, List.mem_append_left _ mem_last, rfl, fun _ => rfl⟩))))
  · refine .perform ⟨hvalid, hquiet, trivial⟩ fun id => ?_
    refine .perform ⟨hvalid, hquiet.snoc rfl, trivial⟩ fun shp => ?_
    have hquiet := (hquiet.snoc (x := ⟨.port (.newID "msg"), id⟩) rfl).snoc
      (x := ⟨.port (.newID "shp"), shp⟩) rfl
    have hnone := (hnone.snoc (x := ⟨.port (.newID "msg"), id⟩) rfl).snoc
      (x := ⟨.port (.newID "shp"), shp⟩) rfl
    refine .bind (.bind ?_)
    unfold shipmentWithID
    split
    · refine .perform ⟨hvalid, hquiet, trivial⟩ fun shp' => ?_
      exact .ret (.ret (follows_record hvalid (hquiet.snoc rfl) (.shipmentCreated
        (List.mem_append_left _ (List.mem_append_left _ mem_last)) (.inr ⟨hnone.snoc rfl, rfl⟩))))
    · exact .ret (.ret (follows_record hvalid hquiet (.shipmentCreated
        (List.mem_append_left _ mem_last) (.inr ⟨hnone, rfl⟩))))

theorem follows_updateOrderStatus {status : OrderStatus} {next : OutboxEvent} {audit : AuditLog}
    (hvalid : Validated queue event) (hquiet : Never committed trace)
    (hwrite : HandlerWrites event trace queue (.updateOrderStatus event.orderID status now next audit)) :
    (handlerContract queue event).Follows trace
      (Saga.updateOrderStatus event.orderID status now next audit >>= fun r => pure (discardOrder r)) :=
  follows_write (fun _ => rfl) (fun _ => rfl) hvalid hquiet hwrite

theorem completeOrder_follows : (handlerContract .ordersFinalize event).Follows [] (completeOrder deps event) := by
  unfold completeOrder
  split
  · exact follows_error .nil .nil
  split
  · exact follows_error .nil .nil
  rename_i hevent
  have hvalid : Validated .ordersFinalize event := validated_of_validateEvent rfl hevent
  refine .perform ⟨hvalid, .nil, .inl rfl⟩ fun r => ?_
  cases r with
  | error err => exact follows_error (Never.nil.snoc rfl) (Never.nil.snoc rfl)
  | ok order =>
    have hquiet := Never.nil.snoc (p := committed)
      (x := ⟨.store (.getOrder event.orderID), .ok order⟩) rfl
    have hdone : order.status ∈ [.completed, .cancellationPending, .manualReview, .cancelled] →
        (handlerContract .ordersFinalize event).Follows
          ([] ++ [⟨.store (.getOrder event.orderID), .ok order⟩]) (pure (.ok ())) :=
      fun hstatus => .ret ⟨hvalid, .inr (.finalize mem_last hstatus)⟩
    dsimp only
    split
    · rename_i hstatus
      refine .perform ⟨hvalid, hquiet, trivial⟩ fun now => ?_
      refine .perform ⟨hvalid, hquiet.snoc rfl, trivial⟩ fun id => ?_
      exact follows_updateOrderStatus hvalid ((hquiet.snoc rfl).snoc rfl)
        (.orderCompleted mem_last (List.mem_append_left _ (List.mem_append_left _ mem_last)) hstatus)
    · exact hdone (by simp [*])
    · exact hdone (by simp [*])
    · exact hdone (by simp [*])
    · exact hdone (by simp [*])
    · exact follows_error hquiet (Never.nil.snoc rfl)

theorem cancelOrder_follows : (handlerContract .ordersCancel event).Follows [] (cancelOrder deps event) := by
  unfold cancelOrder
  split
  · exact follows_error .nil .nil
  split
  · exact follows_error .nil .nil
  rename_i hevent
  have hvalid : Validated .ordersCancel event := validated_of_validateEvent rfl hevent
  refine .perform ⟨hvalid, .nil, .inl rfl⟩ fun r => ?_
  cases r with
  | error err => exact follows_error (Never.nil.snoc rfl) (Never.nil.snoc rfl)
  | ok order =>
    have hquiet := Never.nil.snoc (p := committed)
      (x := ⟨.store (.getOrder event.orderID), .ok order⟩) rfl
    have hnone := Never.nil.snoc (p := accepted)
      (x := ⟨.store (.getOrder event.orderID), .ok order⟩) rfl
    dsimp only
    split
    · rename_i hstatus
      exact .ret ⟨hvalid, .inr (.cancel mem_last (by simpa using hstatus))⟩
    refine .perform ⟨hvalid, hquiet, trivial⟩ fun now => ?_
    split
    · rename_i hreview
      refine .perform ⟨hvalid, hquiet.snoc rfl, trivial⟩ fun id => ?_
      exact follows_updateOrderStatus hvalid ((hquiet.snoc rfl).snoc rfl)
        (.manualReview mem_last (List.mem_append_left _ (List.mem_append_left _ mem_last)) hreview)
    rename_i hreview
    split
    · exact follows_error (hquiet.snoc rfl) (hnone.snoc rfl)
    · refine .perform ⟨hvalid, hquiet.snoc rfl, trivial⟩ fun id => ?_
      exact follows_record hvalid ((hquiet.snoc rfl).snoc rfl) (.orderCancelled mem_last
        (List.mem_append_left _ (List.mem_append_left _ mem_last)) (by simpa using hreview))

theorem queueNotification_follows :
    (handlerContract .notificationsEmail event).Follows [] (queueNotification deps event) := by
  unfold queueNotification
  split
  · exact follows_error .nil .nil
  split
  · exact follows_error .nil .nil
  rename_i hexpected
  split
  · exact follows_error .nil .nil
  rename_i hidentity
  have hvalid : Validated .notificationsEmail event := ⟨by simpa [Queue.expects] using hexpected, hidentity⟩
  refine .perform ⟨hvalid, .nil, trivial⟩ fun now => ?_
  exact follows_record hvalid (Never.nil.snoc rfl) .notificationQueued

theorem compensationPlan_target {eventType : EventType} {status : OrderStatus} {action : String}
    (h : compensationPlan eventType = .ok (status, action)) : status = compensationTarget eventType := by
  cases eventType <;> simp_all [compensationPlan, compensationTarget]

theorem recordCompensation_follows :
    (handlerContract .ordersCompensate event).Follows [] (recordCompensation deps event) := by
  unfold recordCompensation
  split
  · exact follows_error .nil .nil
  split
  · exact follows_error .nil .nil
  rename_i status action hplan
  split
  · exact follows_error .nil .nil
  rename_i hidentity
  have hvalid : Validated .ordersCompensate event := ⟨by rw [Queue.expects, hplan]; rfl, hidentity⟩
  refine .perform ⟨hvalid, .nil, trivial⟩ fun now => ?_
  rw [compensationPlan_target hplan]
  exact follows_record hvalid (Never.nil.snoc rfl) .compensation

/-- **Every handler follows its contract**, whatever its dependencies and its event. -/
theorem handlerFor_follows (queue : Queue) (deps : Dependencies) (event : OutboxEvent) :
    (handlerContract queue event).Follows [] (handlerFor queue deps event) := by
  cases queue with
  | inventoryReserve => exact reserveInventory_follows
  | paymentsAuthorize => exact authorizePayment_follows
  | shipmentsCreate => exact createShipment_follows
  | ordersFinalize => exact completeOrder_follows
  | ordersCancel => exact cancelOrder_follows
  | ordersCompensate => exact recordCompensation_follows
  | notificationsEmail => exact queueNotification_follows

end Handlers

/-! ### Jobs -/

/-- One run of a service operation or of a queue handler. -/
inductive Job
  | createOrder (merchantID idempotencyKey correlationID : String) (req : CreateOrderCommand)
  | cancelOrder (orderID correlationID : String) (actor : AuditActor)
  | handle (queue : Queue) (deps : Dependencies) (event : OutboxEvent)

/-- The program of a job; what a service operation returns beside its error is dropped. -/
def Job.program (svc : Service) : Job → Saga (Except Error Unit)
  | .createOrder merchantID idempotencyKey correlationID req => do
      let answer ← svc.createOrder merchantID idempotencyKey correlationID req
      pure (answer.map fun _ => ())
  | .cancelOrder orderID correlationID actor => do
      let answer ← Service.cancelOrder orderID correlationID actor
      pure (discardOrder answer)
  | .handle queue deps event => handlerFor queue deps event

/-- The store calls by which a job acts, given the exchanges of the run before. -/
inductive Job.Writes (svc : Service) (trace : SagaTrace) : Job → StoreCall → Prop
  | create {merchantID idempotencyKey correlationID orderID id : String} {req : CreateOrderCommand}
      {now : Time} {audit : AuditLog} (horder : Given trace "ord" orderID) (hid : Given trace "msg" id)
      (hvalid : validateCreateOrder merchantID idempotencyKey req = .ok ()) :
      Writes svc trace (.createOrder merchantID idempotencyKey correlationID req)
        (.insertOrder merchantID idempotencyKey (svc.newOrder merchantID req orderID now)
          (Service.createdEvent (svc.newOrder merchantID req orderID now) id correlationID now) audit)
  | cancel {orderID correlationID id : String} {actor : AuditActor} {order : Order} {now : Time}
      {audit : AuditLog} (hsaw : Saw trace orderID order) (hid : Given trace "msg" id) :
      Writes svc trace (.cancelOrder orderID correlationID actor)
        (.updateOrderStatus orderID .cancellationPending now
          (cancelRequestedEvent order orderID id correlationID actor now) audit)
  | handle {queue : Queue} {deps : Dependencies} {event : OutboxEvent} {c : StoreCall}
      (hvalid : Validated queue event) (hwrite : HandlerWrites event trace queue c) :
      Writes svc trace (.handle queue deps event) c

/-- What a job may read, besides the calls by which it acts. -/
def Job.mayRead : Job → StoreCall → Prop
  | .createOrder .., _ => False
  | .cancelOrder orderID _ _, c => c = .getOrder orderID
  | .handle queue _ event, c => Validated queue event ∧ c = .getOrder event.orderID

def Job.mayAsk (trace : SagaTrace) : Job → PortCall → Prop
  | .handle queue _ event, c => MayAsk queue event trace c
  | _, c => c = .clock ∨ ∃ kind, c = .newID kind

/-- When a job may return: with success after acting or with nothing to do, with an error before. -/
def Job.mayReturn (svc : Service) (trace : SagaTrace) (job : Job) : Except Error Unit → Prop
  | .ok () => (∃ x ∈ trace, committed x = true) ∨
      ∃ queue deps event, job = .handle queue deps event ∧ Validated queue event ∧
        NothingToDo event trace queue
  | .error _ => Never committed trace ∧ (Never accepted trace ∨
      ∃ c err, job.Writes svc trace c ∧ ⟨.store c, .error err⟩ ∈ trace)

def Job.contract (svc : Service) (job : Job) : Contract Call.Answer (Except Error Unit) where
  allowed trace c := Never committed trace ∧
    match c with
    | .port c => job.mayAsk trace c
    | .store c => job.mayRead c ∨ job.Writes svc trace c
  returns trace r := job.mayReturn svc trace r

section Jobs

variable {svc : Service} {trace : SagaTrace}

theorem Job.Writes.not_read {job : Job} (h : job.Writes svc trace c) : c.isRead = false := by
  cases h with
  | create => rfl
  | cancel => rfl
  | handle _ hwrite => exact hwrite.not_read

theorem createOrder_follows {merchantID idempotencyKey correlationID : String} {req : CreateOrderCommand} :
    (Job.contract svc (.createOrder merchantID idempotencyKey correlationID req)).Follows []
      (Job.program svc (.createOrder merchantID idempotencyKey correlationID req)) := by
  rw [Job.program, Service.createOrder]
  refine .bind ?_
  split
  · exact .ret (.ret ⟨.nil, .inl .nil⟩)
  rename_i hvalid
  refine .perform ⟨.nil, .inl rfl⟩ fun now => ?_
  refine .perform ⟨Never.nil.snoc rfl, .inr ⟨_, rfl⟩⟩ fun orderID => ?_
  refine .perform ⟨(Never.nil.snoc rfl).snoc rfl, .inr ⟨_, rfl⟩⟩ fun id => ?_
  refine .call ⟨((Never.nil.snoc rfl).snoc rfl).snoc rfl,
    .inr (.create (List.mem_append_left _ mem_last) mem_last hvalid)⟩ fun r => .ret ?_
  cases r with
  | ok result => exact .ret (.inl ⟨_, mem_last, rfl⟩)
  | error err =>
    exact .ret ⟨(((Never.nil.snoc rfl).snoc rfl).snoc rfl).snoc rfl,
      .inl ((((Never.nil.snoc rfl).snoc rfl).snoc rfl).snoc rfl)⟩

theorem service_cancelOrder_follows {orderID correlationID : String} {actor : AuditActor} :
    (Job.contract svc (.cancelOrder orderID correlationID actor)).Follows []
      (Job.program svc (.cancelOrder orderID correlationID actor)) := by
  rw [Job.program, Service.cancelOrder]
  refine .bind ?_
  split
  · exact .ret (.ret ⟨.nil, .inl .nil⟩)
  refine .perform ⟨.nil, .inl rfl⟩ fun r => ?_
  cases r with
  | error err => exact .ret (.ret ⟨Never.nil.snoc rfl, .inl (Never.nil.snoc rfl)⟩)
  | ok order =>
    have hquiet := Never.nil.snoc (p := committed) (x := ⟨.store (.getOrder orderID), .ok order⟩) rfl
    have hnone := Never.nil.snoc (p := accepted) (x := ⟨.store (.getOrder orderID), .ok order⟩) rfl
    dsimp only
    split
    · exact .ret (.ret ⟨hquiet, .inl hnone⟩)
    split
    · exact .ret (.ret ⟨hquiet, .inl hnone⟩)
    refine .perform ⟨hquiet, .inl rfl⟩ fun now => ?_
    refine .perform ⟨hquiet.snoc rfl, .inr ⟨_, rfl⟩⟩ fun id => ?_
    refine .call ⟨(hquiet.snoc rfl).snoc rfl,
      .inr (.cancel (List.mem_append_left _ (List.mem_append_left _ mem_last)) mem_last)⟩
      fun r => .ret ?_
    cases r with
    | ok result => exact .ret (.inl ⟨_, mem_last, rfl⟩)
    | error err =>
      exact .ret ⟨((hquiet.snoc rfl).snoc rfl).snoc rfl,
        .inl (((hnone.snoc rfl).snoc rfl).snoc rfl)⟩

/-- A handler that follows its own contract follows the contract of its job. -/
theorem handle_follows {queue : Queue} {deps : Dependencies} {event : OutboxEvent}
    {p : Saga (Except Error Unit)} (hp : (handlerContract queue event).Follows trace p) :
    (Job.contract svc (.handle queue deps event)).Follows trace p := by
  refine hp.mono ?_ ?_
  · rintro trace (c | c) ⟨hvalid, hquiet, hcall⟩
    · exact ⟨hquiet, hcall.imp (⟨hvalid, ·⟩) (.handle hvalid)⟩
    · exact ⟨hquiet, hcall⟩
  · rintro trace (err | _) hreturns
    · obtain ⟨hquiet, hnone | ⟨hvalid, c, err, hwrite, hmem⟩⟩ := hreturns
      · exact ⟨hquiet, .inl hnone⟩
      · exact ⟨hquiet, .inr ⟨c, err, .handle hvalid hwrite, hmem⟩⟩
    · obtain ⟨hvalid, hacted | hnothing⟩ := hreturns
      · exact .inl hacted
      · exact .inr ⟨queue, deps, event, rfl, hvalid, hnothing⟩

theorem Job.program_follows (job : Job) : (job.contract svc).Follows [] (job.program svc) := by
  cases job with
  | createOrder merchantID idempotencyKey correlationID req => exact createOrder_follows
  | cancelOrder orderID correlationID actor => exact service_cancelOrder_follows
  | handle queue deps event => exact handle_follows (handlerFor_follows queue deps event)

end Jobs

end FulfillHub
