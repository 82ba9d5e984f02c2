import FulfillHub.Fulfillment.MemorySaga

/-!
# The actions of the audit trail

Every write carries an audit entry. Only the creation of an order is recorded as `order.create`, under the
id of the order it creates, so the audit trail names the creation of an order exactly when the outbox does.
-/

namespace FulfillHub

open Interaction

/-- The call's audit entry is recorded under the action of the call: a creation is one of the created order,
and nothing else is a creation. -/
def StoreCall.AuditNamed : StoreCall → Prop
  | .insertOrder _ _ order _ audit => audit.orderID = order.orderID ∧ audit.action = "order.create"
  | .getOrder _ => True
  | .updateOrderStatus _ _ _ _ audit => audit.action ≠ "order.create"
  | .projector c => c.audit.action ≠ "order.create"

def Call.AuditNamed : Call → Prop
  | .store c => c.AuditNamed
  | .port _ => True

section Handlers

variable {event : OutboxEvent} {deps : Dependencies}

theorem recordInventoryRejected_audit (now : Time) (cause : Error) :
    (recordInventoryRejected event now cause).Calls Call.AuditNamed := by
  refine .bind (.perform trivial) fun id => .perform ?_
  simp [Call.AuditNamed, StoreCall.AuditNamed, ProjectorCall.audit, systemAudit, AuditLog.withDetail]

theorem recordInventoryReserved_audit (now : Time) : (recordInventoryReserved event now).Calls Call.AuditNamed := by
  refine .bind (.perform trivial) fun id => .bind (.perform ?_) fun r => ?_
  · simp [Call.AuditNamed, StoreCall.AuditNamed, ProjectorCall.audit, systemAudit]
  · cases r with
    | ok => exact .ret _
    | error err =>
      dsimp only
      split_ifs
      · exact recordInventoryRejected_audit now err
      · exact .ret _

theorem reserveInventory_audit : (reserveInventory deps event).Calls Call.AuditNamed := by
  unfold reserveInventory
  split
  · exact .ret _
  split
  · exact .ret _
  refine .bind (.perform trivial) fun now => ?_
  split
  · refine .bind (.perform trivial) fun r => ?_
    cases r with
    | error err => exact recordInventoryRejected_audit now err
    | ok => exact recordInventoryReserved_audit now
  · exact recordInventoryReserved_audit now

theorem paymentWithAuthorization_audit (payment : Payment) :
    (paymentWithAuthorization payment).Calls Call.AuditNamed := by
  unfold paymentWithAuthorization
  split
  · exact .bind (.perform trivial) fun _ => .ret _
  · exact .ret _

theorem authorizePayment_audit : (authorizePayment deps event).Calls Call.AuditNamed := by
  unfold authorizePayment
  split
  · exact .ret _
  split
  · exact .ret _
  refine .bind (.perform trivial) fun now => ?_
  split
  · refine .bind (.perform trivial) fun r => ?_
    cases r with
    | error err =>
      refine .bind (.perform trivial) fun id => .perform ?_
      simp [Call.AuditNamed, StoreCall.AuditNamed, ProjectorCall.audit, systemAudit, AuditLog.withDetail]
    | ok answer =>
      refine .bind (paymentWithAuthorization_audit _) fun payment => .bind (.perform trivial) fun id => .perform ?_
      simp [Call.AuditNamed, StoreCall.AuditNamed, ProjectorCall.audit, systemAudit]
  · refine .bind (.perform trivial) fun id => .bind (.perform trivial) fun pay => .perform ?_
    simp [Call.AuditNamed, StoreCall.AuditNamed, ProjectorCall.audit, systemAudit]

theorem normalizedShipment_audit (shipment : Shipment) (now : Time) :
    (normalizedShipment shipment now).Calls Call.AuditNamed := by
  refine .bind ?_ fun _ => .ret _
  unfold shipmentWithID
  split
  · exact .bind (.perform trivial) fun _ => .ret _
  · exact .ret _

theorem createShipment_audit : (createShipment deps event).Calls Call.AuditNamed := by
  unfold createShipment
  split
  · exact .ret _
  split
  · exact .ret _
  refine .bind (.perform trivial) fun now => ?_
  split
  · refine .bind (.perform trivial) fun r => ?_
    cases r with
    | error err =>
      refine .bind (.perform trivial) fun id => .perform ?_
      simp [Call.AuditNamed, StoreCall.AuditNamed, ProjectorCall.audit, systemAudit, AuditLog.withDetail]
    | ok answer =>
      refine .bind (.perform trivial) fun id => .bind (normalizedShipment_audit _ _) fun shipment => .perform ?_
      simp [Call.AuditNamed, StoreCall.AuditNamed, ProjectorCall.audit, systemAudit]
  · refine .bind (.perform trivial) fun id => .bind (.perform trivial) fun shp =>
      .bind (normalizedShipment_audit _ _) fun shipment => .perform ?_
    simp [Call.AuditNamed, StoreCall.AuditNamed, ProjectorCall.audit, systemAudit]

theorem completeOrder_audit : (completeOrder deps event).Calls Call.AuditNamed := by
  unfold completeOrder
  split
  · exact .ret _
  split
  · exact .ret _
  refine .bind (.perform trivial) fun r => ?_
  cases r with
  | error err => exact .ret _
  | ok order =>
    dsimp only
    split
    · refine .bind (.perform trivial) fun now => .bind (.perform trivial) fun id =>
        .bind (.perform ?_) fun _ => .ret _
      simp [Call.AuditNamed, StoreCall.AuditNamed, systemAudit]
    all_goals exact .ret _

theorem action_reviewAudit (order : Order) (now : Time) :
    (reviewAudit event order now).action = "order.manual_review_required" := by
  unfold reviewAudit
  dsimp only
  split
  · split <;> rfl
  · rfl

theorem action_cancelledAudit (order : Order) (now : Time) :
    (cancelledAudit event order now).action = "order.cancelled" := by
  unfold cancelledAudit
  dsimp only
  split <;> split <;> rfl

theorem cancelOrder_audit : (cancelOrder deps event).Calls Call.AuditNamed := by
  unfold cancelOrder
  split
  · exact .ret _
  split
  · exact .ret _
  refine .bind (.perform trivial) fun r => ?_
  cases r with
  | error err => exact .ret _
  | ok order =>
    dsimp only
    split
    · exact .ret _
    refine .bind (.perform trivial) fun now => ?_
    split
    · refine .bind (.perform trivial) fun id => .bind (.perform ?_) fun _ => .ret _
      simp [Call.AuditNamed, StoreCall.AuditNamed, action_reviewAudit]
    split
    · exact .ret _
    · refine .bind (.perform trivial) fun id => .perform ?_
      simp [Call.AuditNamed, StoreCall.AuditNamed, ProjectorCall.audit, action_cancelledAudit]

theorem queueNotification_audit : (queueNotification deps event).Calls Call.AuditNamed := by
  unfold queueNotification
  split
  · exact .ret _
  split
  · exact .ret _
  split
  · exact .ret _
  · refine .bind (.perform trivial) fun now => .perform ?_
    simp [Call.AuditNamed, StoreCall.AuditNamed, ProjectorCall.audit, systemAudit]

theorem action_compensationAudit (status : OrderStatus) (action : String) (now : Time) :
    (compensationAudit event status action now).action = action := by
  unfold compensationAudit
  dsimp only
  split <;> rfl

theorem compensationPlan_action {eventType : EventType} {status : OrderStatus} {action : String}
    (h : compensationPlan eventType = .ok (status, action)) : action ≠ "order.create" := by
  unfold compensationPlan at h
  split at h <;> cases h <;> decide

theorem recordCompensation_audit : (recordCompensation deps event).Calls Call.AuditNamed := by
  unfold recordCompensation
  split
  · exact .ret _
  split
  · exact .ret _
  rename_i status action hplan
  split
  · exact .ret _
  · refine .bind (.perform trivial) fun now => .perform ?_
    simpa [Call.AuditNamed, StoreCall.AuditNamed, ProjectorCall.audit, action_compensationAudit] using
      compensationPlan_action hplan

end Handlers

theorem createOrder_audit (svc : Service) (merchantID idempotencyKey correlationID : String)
    (req : CreateOrderCommand) :
    (svc.createOrder merchantID idempotencyKey correlationID req).Calls Call.AuditNamed := by
  unfold Service.createOrder
  split
  · exact .ret _
  · exact .bind (.perform trivial) fun now => .bind (.perform trivial) fun orderID =>
      .bind (.perform trivial) fun id => .perform ⟨rfl, rfl⟩

theorem service_cancelOrder_audit (orderID correlationID : String) (actor : AuditActor) :
    (Service.cancelOrder orderID correlationID actor).Calls Call.AuditNamed := by
  unfold Service.cancelOrder
  split
  · exact .ret _
  refine .bind (.perform trivial) fun r => ?_
  cases r with
  | error err => exact .ret _
  | ok order =>
    dsimp only
    split
    · exact .ret _
    split
    · exact .ret _
    · refine .bind (.perform trivial) fun now => .bind (.perform trivial) fun id => .perform ?_
      simp [Call.AuditNamed, StoreCall.AuditNamed, cancelRequestedAudit]

/-- **Only creations are recorded as creations.** -/
theorem Job.program_audit (svc : Service) (job : Job) : (job.program svc).Calls Call.AuditNamed := by
  cases job with
  | createOrder merchantID idempotencyKey correlationID req =>
    rw [Job.program]
    exact (createOrder_audit svc merchantID idempotencyKey correlationID req).bind fun _ => .ret _
  | cancelOrder orderID correlationID actor =>
    rw [Job.program]
    exact (service_cancelOrder_audit orderID correlationID actor).bind fun _ => .ret _
  | handle queue deps event =>
    cases queue with
    | inventoryReserve => exact reserveInventory_audit
    | paymentsAuthorize => exact authorizePayment_audit
    | shipmentsCreate => exact createShipment_audit
    | ordersFinalize => exact completeOrder_audit
    | ordersCancel => exact cancelOrder_audit
    | ordersCompensate => exact recordCompensation_audit
    | notificationsEmail => exact queueNotification_audit

end FulfillHub
