import FulfillHub.Fulfillment.Lifecycle
import FulfillHub.Fulfillment.MemorySaga

/-!
# The saga refines the lifecycle of each order

When handlers run on outbox events and each event succeeds at most once per queue, every step of the
saga over the in-memory store leaves an order alone or takes it through one move of its lifecycle.
`Represents` ties an order and its outbox events to a phase; `order_step` is the simulation and
`exists_phase` its consequence for reachable states.
-/

namespace FulfillHub

open Interaction

variable {eventType : EventType} {event : OutboxEvent} {m : Move} {job : Job} {trace : SagaTrace} {c : StoreCall}
  {proj : Projection} {stage : Stage}

/-! ### Calls as moves -/

/-- The move a store call makes on its order. -/
def StoreCall.move : StoreCall → Option Move
  | .updateOrderStatus _ .completed _ _ _ => some .complete
  | .updateOrderStatus _ .manualReview _ _ _ => some .review
  | .updateOrderStatus _ .cancellationPending _ _ _ => some .request
  | .projector (.recordInventoryReserved ..) => some .reserve
  | .projector (.recordInventoryRejected ..) => some .reject
  | .projector (.recordPaymentAuthorized ..) => some .authorize
  | .projector (.recordPaymentFailed ..) => some .failPayment
  | .projector (.recordShipmentCreated ..) => some .ship
  | .projector (.recordShipmentFailed ..) => some .failShipment
  | .projector (.recordOrderCancelled ..) => some .cancel
  | .projector (.recordCompensation source _ _) =>
    match source.eventType with
    | .inventoryRejected => some .compensateStock
    | .paymentFailed => some .compensatePayment
    | .shipmentFailed => some .compensateShipment
    | _ => none
  | _ => none

/-- The type of the event a move writes. -/
def Move.emits : Move → Option EventType
  | .reserve => some .inventoryReserved
  | .reject => some .inventoryRejected
  | .authorize => some .paymentAuthorized
  | .failPayment => some .paymentFailed
  | .ship => some .shipmentCreated
  | .failShipment => some .shipmentFailed
  | .complete => some .orderCompleted
  | .request => some .orderCancelRequested
  | .review => some .orderManualReviewRequired
  | .cancel => some .orderCancelled
  | .compensateStock | .compensatePayment | .compensateShipment => none

/-- A call makes a move: it checks the move's target, sets its status and writes its event. -/
structure MakesMove (c : StoreCall) (proj : Projection) (m : Move) : Prop where
  move : c.move = some m
  target : proj.target = m.target
  status : ∀ order, (proj.update order).status = m.target.getD order.status
  emits : ∀ r, (c.emitted r).map OutboxEvent.eventType = m.emits
  shipment : ∀ order, m ≠ .ship → m ≠ .failShipment → (proj.update order).shipment = order.shipment
  failedShipment : ∀ order, m = .failShipment → (proj.update order).shipment = some failedShipment
  authorization : ∀ order, m ≠ .authorize → m ≠ .failPayment →
    (proj.update order).payment.map Payment.authorizationID = order.payment.map Payment.authorizationID

theorem voidPayment_authorization (order : Order) :
    order.voidPayment.payment.map Payment.authorizationID = order.payment.map Payment.authorizationID := by
  cases hpayment : order.payment with
  | none => simp [Order.voidPayment, hpayment]
  | some payment =>
    simp only [Order.voidPayment, hpayment, Option.map_some, Order.voidedPayment]
    split_ifs <;> rfl

theorem compensate_authorization (eventType : EventType) (order : Order) :
    (Projection.compensate eventType order).payment.map Payment.authorizationID =
      order.payment.map Payment.authorizationID := by
  cases eventType <;> first | rfl | exact voidPayment_authorization order.releaseItems

theorem compensate_shipment (eventType : EventType) (order : Order) :
    (Projection.compensate eventType order).shipment = order.shipment := by
  cases eventType <;> rfl

theorem expects_compensate (h : Queue.ordersCompensate.expects eventType = true) :
    eventType = .inventoryRejected ∨ eventType = .paymentFailed ∨ eventType = .shipmentFailed := by
  cases eventType <;> simp_all [Queue.expects, compensationPlan, Except.isOk, Except.toBool]

theorem makesMove_compensation {status : OrderStatus} {audit : AuditLog}
    (hmove : (StoreCall.projector (.recordCompensation event status audit)).move = some m)
    (htarget : m.target = some status) (hemits : m.emits = none) :
    MakesMove (.projector (.recordCompensation event status audit)) (.compensation event status audit) m where
  move := hmove
  target := htarget.symm
  status order := by rw [htarget]; rfl
  emits _ := hemits.symm
  shipment order _ _ := compensate_shipment _ order
  failedShipment := by rintro order rfl; cases hemits
  authorization order _ _ := compensate_authorization _ order

theorem makesMove_of_writes {svc : Service} {orderID : String} (hwrites : job.Writes svc trace c)
    (heffect : c.effect = some (orderID, proj)) :
    proj = .notificationQueued ∧ c.move = none ∧ (∀ r, c.emitted r = none) ∨
      ∃ m, MakesMove c proj m := by
  cases hwrites with
  | create => cases heffect
  | cancel =>
    cases heffect
    exact .inr ⟨.request, rfl, rfl, fun _ => rfl, fun _ => rfl, fun _ _ _ => rfl, by simp,
      fun _ _ _ => rfl⟩
  | handle hvalid hwrite =>
    cases hwrite with
    | inventoryReserved =>
      cases heffect
      exact .inr ⟨.reserve, rfl, rfl, fun _ => rfl, fun _ => rfl, fun _ _ _ => rfl, by simp,
        fun _ _ _ => rfl⟩
    | inventoryRejected =>
      cases heffect
      exact .inr ⟨.reject, rfl, rfl, fun _ => rfl, fun _ => rfl, fun _ _ _ => rfl, by simp,
        fun _ _ _ => rfl⟩
    | paymentAuthorized =>
      cases heffect
      exact .inr ⟨.authorize, rfl, rfl, fun _ => rfl, fun _ => rfl, fun _ _ _ => rfl, by simp,
        by simp⟩
    | paymentFailed =>
      cases heffect
      exact .inr ⟨.failPayment, rfl, rfl, fun _ => rfl, fun _ => rfl, fun _ _ _ => rfl, by simp,
        by simp⟩
    | shipmentCreated =>
      cases heffect
      exact .inr ⟨.ship, rfl, rfl, fun _ => rfl, fun _ => rfl, by simp, by simp, fun _ _ _ => rfl⟩
    | shipmentFailed =>
      cases heffect
      exact .inr ⟨.failShipment, rfl, rfl, fun _ => rfl, fun _ => rfl, by simp, fun _ _ => rfl,
        fun _ _ _ => rfl⟩
    | orderCompleted =>
      cases heffect
      exact .inr ⟨.complete, rfl, rfl, fun _ => rfl, fun _ => rfl, fun _ _ _ => rfl, by simp,
        fun _ _ _ => rfl⟩
    | manualReview =>
      cases heffect
      exact .inr ⟨.review, rfl, rfl, fun _ => rfl, fun _ => rfl, fun _ _ _ => rfl, by simp,
        fun _ _ _ => rfl⟩
    | orderCancelled =>
      cases heffect
      exact .inr ⟨.cancel, rfl, rfl, fun _ => rfl, fun _ => rfl, fun _ _ _ => rfl, by simp,
        fun order _ _ => voidPayment_authorization order.releaseItems⟩
    | notificationQueued =>
      cases heffect
      exact .inl ⟨rfl, rfl, fun _ => rfl⟩
    | compensation =>
      cases heffect
      refine .inr ?_
      rcases expects_compensate hvalid.expected with htype | htype | htype
      · exact ⟨.compensateStock, makesMove_compensation (by simp [StoreCall.move, htype])
          (by simp [Move.target, htype, compensationTarget]) rfl⟩
      · exact ⟨.compensatePayment, makesMove_compensation (by simp [StoreCall.move, htype])
          (by simp [Move.target, htype, compensationTarget]) rfl⟩
      · exact ⟨.compensateShipment, makesMove_compensation (by simp [StoreCall.move, htype])
          (by simp [Move.target, htype, compensationTarget]) rfl⟩

/-! ### Orders and phases -/

/-- The events that tell the stage of an order. -/
def stageEventTypes : List EventType :=
  [.inventoryReserved, .inventoryRejected, .paymentAuthorized, .paymentFailed, .shipmentCreated,
    .shipmentFailed]

/-- An order and its events are in a phase. -/
structure Represents (s : MemorySaga) (orderID : String) (order : Order) (p : Phase) : Prop where
  status : order.status = p.status
  events : ∀ eventType ∈ stageEventTypes, HasEvent s orderID eventType ↔ eventType ∈ p.stage.events
  requested : HasEvent s orderID .orderCancelRequested ↔ p.requested = true
  shipment : order.shipment = none ∨ p.stage = .shipped ∨
    p.stage = .shipFailed ∧ order.shipment = some failedShipment
  completed : order.status = .completed → HasEvent s orderID .orderCompleted
  failed : order.status = .failed → ∃ u ∈ s.threads, ∃ deps event,
    u.job = .handle .ordersCompensate deps event ∧ event.orderID = orderID ∧
      event.eventType = .inventoryRejected ∧ Succeeded u

/-- The runs considered: handlers take events from the outbox, and each event is handled successfully
at most once per queue. -/
structure Disciplined (cond : MemorySaga → SagaLabel → Prop) : Prop where
  fromOutbox : ∀ s l, cond s l → FromOutbox memoryOutboxStore s l
  atMostOnce : ∀ s l, cond s l → AtMostOnce s l

/-- Every read order that asks for a review has its shipment announced. -/
def ReviewsShipped (s : MemorySaga) : Prop :=
  ∀ orderID order, PoolSpec.Exchanged s ⟨.store (.getOrder orderID), .ok order⟩ →
    requiresManualReview order = true → HasEvent s orderID .shipmentCreated

variable {svc : Service} {cond : MemorySaga → SagaLabel → Prop} {s t : MemorySaga} {l : SagaLabel}
  {orderID : String} {order : Order} {p : Phase}

theorem hasEvent_append {new : List Envelope} (h : eventsOf t = eventsOf s ++ new) :
    HasEvent t orderID eventType ↔ HasEvent s orderID eventType ∨
      ∃ env ∈ new, env.orderID = orderID ∧ env.eventType = eventType := by
  simp only [HasEvent, h, List.mem_append, or_and_right, exists_or]

/-- What a phase says about an order stays true while the order and its events stay the same. -/
theorem Represents.of_same (hstep : (sagaSpec memoryOutboxStore svc).Step s l t)
    (hrep : Represents s orderID order p)
    (hevents : ∀ eventType, HasEvent t orderID eventType ↔ HasEvent s orderID eventType) :
    Represents t orderID order p where
  status := hrep.status
  events eventType hmem := (hevents eventType).trans (hrep.events eventType hmem)
  requested := (hevents _).trans hrep.requested
  shipment := hrep.shipment
  completed h := (hevents _).mpr (hrep.completed h)
  failed h := by
    obtain ⟨u, hu, deps, event, hjob, horder, htype, hsucceeded⟩ := hrep.failed h
    exact ⟨u, hstep.mem_of_returned hu hsucceeded, deps, event, hjob, horder, htype, hsucceeded⟩

theorem Move.stage_events (hguard : m.Guard p) : ∀ eventType ∈ stageEventTypes,
    (eventType ∈ (m.stage p.stage).events ↔ eventType ∈ p.stage.events ∨ m.emits = some eventType) := by
  cases m with
  | reserve => rw [show p.stage = .placed from hguard]; decide
  | reject => rw [show p.stage = .placed from hguard]; decide
  | authorize => rw [show p.stage = .reserved from hguard]; decide
  | failPayment => rw [show p.stage = .reserved from hguard]; decide
  | ship => rw [show p.stage = .authorized from hguard]; decide
  | failShipment => rw [show p.stage = .authorized from hguard]; decide
  | _ => generalize p.stage = stage; cases stage <;> decide

/-! ### The stage told by the events -/

theorem Stage.eq_placed (h : .inventoryReserved ∉ stage.events) (h' : .inventoryRejected ∉ stage.events) :
    stage = .placed := by
  cases stage <;> simp_all [Stage.events]

theorem Stage.eq_reserved (h : .inventoryReserved ∈ stage.events) (ha : .paymentAuthorized ∉ stage.events)
    (hf : .paymentFailed ∉ stage.events) : stage = .reserved := by
  cases stage <;> simp_all [Stage.events]

theorem Stage.eq_authorized (h : .paymentAuthorized ∈ stage.events) (hc : .shipmentCreated ∉ stage.events)
    (hf : .shipmentFailed ∉ stage.events) :
    stage = .authorized := by
  cases stage <;> simp_all [Stage.events]

theorem Stage.eq_shipped (h : .shipmentCreated ∈ stage.events) : stage = .shipped := by
  cases stage <;> simp_all [Stage.events]

theorem Stage.eq_rejected (h : .inventoryRejected ∈ stage.events) : stage = .rejected := by
  cases stage <;> simp_all [Stage.events]

theorem Stage.eq_payFailed (h : .paymentFailed ∈ stage.events) : stage = .payFailed := by
  cases stage <;> simp_all [Stage.events]

theorem Stage.eq_shipFailed (h : .shipmentFailed ∈ stage.events) : stage = .shipFailed := by
  cases stage <;> simp_all [Stage.events]

/-! ### Acts are guarded -/

theorem not_mem_stage_events (hcond : Disciplined cond) (ht : (memorySaga svc).Reachable cond t)
    {queue : Queue} (hqueue : queue ∈ forwardQueues) {event : OutboxEvent}
    (hevents : eventsOf t = eventsOf s ++ [event.envelope]) (htype : event.eventType ∈ queue.outcomes)
    (hrep : Represents s event.orderID order p) {eventType : EventType}
    (hmem : eventType ∈ queue.outcomes) (hstage : eventType ∈ stageEventTypes) :
    eventType ∉ p.stage.events := by
  rw [← hrep.events eventType hstage]
  rintro ⟨old, hold, horder, rfl⟩
  exact no_outcome_before hcond.fromOutbox hcond.atMostOnce ht hqueue hevents htype old hold horder hmem

theorem placed_of_act (hcond : Disciplined cond) (ht : (memorySaga svc).Reachable cond t)
    (hevents : eventsOf t = eventsOf s ++ [event.envelope])
    (htype : event.eventType ∈ Queue.inventoryReserve.outcomes) (hrep : Represents s event.orderID order p) :
    p.stage = .placed := by
  have hnone := @not_mem_stage_events _ _ _ _ _ _ hcond ht .inventoryReserve (by decide) _ hevents htype hrep
  exact Stage.eq_placed (hnone (by decide) (by decide)) (hnone (by decide) (by decide))

theorem reserved_of_act (hcond : Disciplined cond) (ht : (memorySaga svc).Reachable cond t)
    (hevents : eventsOf t = eventsOf s ++ [event.envelope])
    (htype : event.eventType ∈ Queue.paymentsAuthorize.outcomes)
    (hcause : HasEvent s event.orderID .inventoryReserved) (hrep : Represents s event.orderID order p) :
    p.stage = .reserved := by
  have hnone := @not_mem_stage_events _ _ _ _ _ _ hcond ht .paymentsAuthorize (by decide) _ hevents htype hrep
  exact Stage.eq_reserved ((hrep.events _ (by decide)).mp hcause) (hnone (by decide) (by decide))
    (hnone (by decide) (by decide))

theorem authorized_of_act (hcond : Disciplined cond) (ht : (memorySaga svc).Reachable cond t)
    (hevents : eventsOf t = eventsOf s ++ [event.envelope]) (htype : event.eventType ∈ Queue.shipmentsCreate.outcomes)
    (hcause : HasEvent s event.orderID .paymentAuthorized) (hrep : Represents s event.orderID order p) :
    p.stage = .authorized := by
  have hnone := @not_mem_stage_events _ _ _ _ _ _ hcond ht .shipmentsCreate (by decide) _ hevents htype hrep
  exact Stage.eq_authorized ((hrep.events _ (by decide)).mp hcause) (hnone (by decide) (by decide))
    (hnone (by decide) (by decide))

/-- A rejected order that already failed is not failed again: its one rejection was compensated. -/
theorem not_failed_of_act (hcond : Disciplined cond) (hs : (memorySaga svc).Reachable cond s) {deps : Dependencies}
    (htype : event.eventType = .inventoryRejected) (hcause : event.envelope ∈ eventsOf s)
    (honce : ∀ u ∈ s.threads, (Job.handle .ordersCompensate deps event).sameDelivery u.job → ¬ Succeeded u)
    (hrep : Represents s event.orderID order p) : p.status ≠ .failed := by
  intro hfailed
  obtain ⟨u, hu, deps', event', hjob, horder, htype', hsucceeded⟩ :=
    hrep.failed (hrep.status.trans hfailed)
  have hsame : event.envelope = event'.envelope := by
    have hreserve : Queue.inventoryReserve ∈ forwardQueues := by decide
    refine oneOutcome hcond.fromOutbox hcond.atMostOnce hs hreserve _ hcause _
      (cause_mem hcond.fromOutbox hs hu hjob) horder.symm ?_ ?_
    · simp [OutboxEvent.envelope, htype, Queue.outcomes]
    · simp [OutboxEvent.envelope, htype', Queue.outcomes]
  refine honce u hu ?_ hsucceeded
  rw [hjob]
  exact ⟨rfl, congrArg Envelope.messageID hsame⟩

theorem not_completed_of_act (hcond : Disciplined cond) (ht : (memorySaga svc).Reachable cond t)
    (hevents : eventsOf t = eventsOf s ++ [event.envelope]) (htype : event.eventType ∈ Queue.ordersFinalize.outcomes)
    (hrep : Represents s event.orderID order p) : p.status ≠ .completed := by
  intro hcompleted
  obtain ⟨old, hold, horder, hold'⟩ := hrep.completed (hrep.status.trans hcompleted)
  have hfinalize : Queue.ordersFinalize ∈ forwardQueues := by decide
  exact no_outcome_before hcond.fromOutbox hcond.atMostOnce ht hfinalize hevents htype old hold horder
    (by simp [hold', Queue.outcomes])

theorem guard_of_compensation (hcond : Disciplined cond) (hs : (memorySaga svc).Reachable cond s)
    {deps : Dependencies} {status : OrderStatus} {audit : AuditLog}
    (hexpected : Queue.ordersCompensate.expects event.eventType = true) (hmem : event.envelope ∈ eventsOf s)
    (honce : ∀ u ∈ s.threads, (Job.handle .ordersCompensate deps event).sameDelivery u.job → ¬ Succeeded u)
    (hmove : StoreCall.move (.projector (.recordCompensation event status audit)) = some m)
    (hrep : Represents s event.orderID order p) : m.Guard p := by
  have hcause : HasEvent s event.orderID event.eventType := ⟨_, hmem, rfl, rfl⟩
  rcases expects_compensate hexpected with htype | htype | htype
  · simp only [StoreCall.move, htype] at hmove
    cases hmove
    refine ⟨Stage.eq_rejected ((hrep.events _ (by decide)).mp (htype ▸ hcause)), ?_⟩
    exact not_failed_of_act hcond hs htype hmem honce hrep
  · simp only [StoreCall.move, htype] at hmove
    cases hmove
    exact Stage.eq_payFailed ((hrep.events _ (by decide)).mp (htype ▸ hcause))
  · simp only [StoreCall.move, htype] at hmove
    cases hmove
    exact Stage.eq_shipFailed ((hrep.events _ (by decide)).mp (htype ▸ hcause))

/-- **Acts are guarded.** An act that succeeds finds its order in a phase its move starts from. -/
theorem guard_of_writes (hcond : Disciplined cond) (hs : (memorySaga svc).Reachable cond s)
    (ht : (memorySaga svc).Reachable cond t) {i : Nat} {r : c.Result}
    {next : Except Error c.Result → Saga (Except Error Unit)}
    (hstep : (sagaSpec memoryOutboxStore svc).Step s (.answer i (.store c) (.ok r)) t)
    (hl : cond s (.answer i (.store c) (.ok r))) (hthread : s.threads[i]? = some ⟨job, trace, .call (.store c) next⟩)
    (hwrites : job.Writes svc trace c) (heffect : c.effect = some (orderID, proj))
    (hevents : eventsOf t = eventsOf s ++ (c.emitted r).toList.map OutboxEvent.envelope) (hmove : c.move = some m)
    (hreviews : ReviewsShipped s) (hrep : Represents s orderID order p) : m.Guard p := by
  cases hwrites with
  | create => cases heffect
  | cancel => cases hmove; trivial
  | @handle queue deps event c hvalid hwrite =>
    have hmem : event.envelope ∈ eventsOf s :=
      cause_mem hcond.fromOutbox hs (PoolSpec.mem_threads.mpr ⟨i, hthread⟩) rfl
    have hcause : HasEvent s event.orderID event.eventType := ⟨_, hmem, rfl, rfl⟩
    have hsucceeds := succeedsWith_of_step hs ht hstep hwrite.not_read hthread
    have honce := hcond.atMostOnce _ _ hl _ hthread hsucceeds
    have hexpected := hvalid.expected
    cases hwrite with
    | inventoryReserved =>
      cases hmove; cases heffect
      exact placed_of_act hcond ht hevents (by simp [Queue.outcomes, nextEventAt]) hrep
    | inventoryRejected =>
      cases hmove; cases heffect
      exact placed_of_act hcond ht hevents (by simp [Queue.outcomes, nextEventAt]) hrep
    | paymentAuthorized =>
      cases hmove; cases heffect
      rw [show event.eventType = .inventoryReserved by simpa [Queue.expects] using hexpected] at hcause
      exact reserved_of_act hcond ht hevents (by simp [Queue.outcomes, nextEventAt]) hcause hrep
    | paymentFailed =>
      cases hmove; cases heffect
      rw [show event.eventType = .inventoryReserved by simpa [Queue.expects] using hexpected] at hcause
      exact reserved_of_act hcond ht hevents (by simp [Queue.outcomes, nextEventAt]) hcause hrep
    | shipmentCreated =>
      cases hmove; cases heffect
      rw [show event.eventType = .paymentAuthorized by simpa [Queue.expects] using hexpected] at hcause
      exact authorized_of_act hcond ht hevents (by simp [Queue.outcomes, nextEventAt]) hcause hrep
    | shipmentFailed =>
      cases hmove; cases heffect
      rw [show event.eventType = .paymentAuthorized by simpa [Queue.expects] using hexpected] at hcause
      exact authorized_of_act hcond ht hevents (by simp [Queue.outcomes, nextEventAt]) hcause hrep
    | orderCompleted =>
      cases hmove; cases heffect
      rw [show event.eventType = .shipmentCreated by simpa [Queue.expects] using hexpected] at hcause
      refine ⟨Stage.eq_shipped ((hrep.events _ (by decide)).mp hcause), ?_⟩
      exact not_completed_of_act hcond ht hevents (by simp [Queue.outcomes, nextEventAt]) hrep
    | manualReview hid hsaw hreview =>
      cases hmove; cases heffect
      rw [show event.eventType = .orderCancelRequested by simpa [Queue.expects] using hexpected] at hcause
      have hshipped := hreviews _ _ ⟨_, PoolSpec.mem_threads.mpr ⟨i, hthread⟩, hsaw⟩ hreview
      exact ⟨Stage.eq_shipped ((hrep.events _ (by decide)).mp hshipped), hrep.requested.mp hcause⟩
    | orderCancelled =>
      cases hmove; cases heffect
      rw [show event.eventType = .orderCancelRequested by simpa [Queue.expects] using hexpected] at hcause
      exact hrep.requested.mp hcause
    | notificationQueued => cases hmove
    | compensation =>
      cases heffect
      exact guard_of_compensation hcond hs hexpected hmem honce hmove hrep

/-! ### The simulation -/

/-- The events of an order after an act are those before and the one the move writes. -/
theorem hasEvent_of_move {r : c.Result} (hwrites : job.Writes svc trace c) (heffect : c.effect = some (orderID, proj))
    (hevents : eventsOf t = eventsOf s ++ (c.emitted r).toList.map OutboxEvent.envelope) (hmake : MakesMove c proj m) :
    HasEvent t orderID eventType ↔ HasEvent s orderID eventType ∨ m.emits = some eventType := by
  rw [hasEvent_append hevents, ← hmake.emits r]
  refine or_congr_right ?_
  cases hemitted : c.emitted r with
  | none => simp
  | some event =>
    have horder := (hwrites.emitted_of_effect heffect hemitted).1
    simp [OutboxEvent.envelope, horder]

theorem hasEvent_of_exchanged (hs : (memorySaga svc).Reachable cond s) {r : c.Result}
    (hx : PoolSpec.Exchanged s ⟨.store c, .ok r⟩) (heffect : c.effect = some (orderID, proj))
    (hmove : c.move = some m) (hemits : m.emits = some eventType) : HasEvent s orderID eventType := by
  obtain ⟨u, hu, hmem⟩ := id hx
  obtain ⟨trace, c', r', hacted, heq⟩ := acted_of_mem hs hu hmem
    (committed_iff.mpr ⟨c, r, rfl, StoreCall.not_read_of_effect heffect⟩)
  cases heq
  rcases makesMove_of_writes hacted.writes heffect with ⟨_, hnone, _⟩ | ⟨m', hmake⟩
  · cases hmove.symm.trans hnone
  · cases hmove.symm.trans hmake.move
    obtain ⟨event, hevent, htype⟩ := Option.map_eq_some_iff.mp ((hmake.emits r).trans hemits)
    exact ⟨event.envelope, (mem_envelopes_iff hs).mpr ⟨_, hx, by simp [emittedBy, hevent]⟩,
      (hacted.writes.emitted_of_effect heffect hevent).1, htype⟩

theorem compensated_of_act (hs : (memorySaga svc).Reachable cond s) (ht : (memorySaga svc).Reachable cond t) {i : Nat}
    {r : c.Result} (hstep : (sagaSpec memoryOutboxStore svc).Step s (.answer i (.store c) (.ok r)) t)
    (heffect : c.effect = some (orderID, proj)) (hmove : c.move = some .compensateStock) :
    ∃ u ∈ t.threads, ∃ deps event, u.job = .handle .ordersCompensate deps event ∧
      event.orderID = orderID ∧ event.eventType = .inventoryRejected ∧ Succeeded u := by
  have hread := StoreCall.not_read_of_effect heffect
  obtain ⟨job, trace, next, hthread, hwrites, -, -, rfl⟩ := writes_of_step hs hstep hread
  obtain ⟨next', hprog, hsucceeded⟩ := succeedsWith_of_step hs ht hstep hread hthread
  cases hprog
  refine ⟨_, List.mem_iff_getElem?.mpr ⟨i, (PoolSpec.getElem?_answer hthread).mpr (.inl ⟨rfl, rfl⟩)⟩, ?_⟩
  cases hwrites with
  | create => cases heffect
  | cancel => cases hmove
  | @handle queue deps event c hvalid hwrite =>
    cases hwrite <;> first
      | cases hmove
      | skip
    cases heffect
    refine ⟨deps, event, rfl, rfl, ?_, hsucceeded⟩
    rcases expects_compensate hvalid.expected with htype | htype | htype
    · exact htype
    · simp [StoreCall.move, htype] at hmove
    · simp [StoreCall.move, htype] at hmove

theorem Move.shipment_of_guard (hguard : m.Guard p) (hmake : MakesMove c proj m) (hrep : Represents s orderID order p) :
    (proj.update order).shipment = none ∨ m.stage p.stage = .shipped ∨
      m.stage p.stage = .shipFailed ∧ (proj.update order).shipment = some failedShipment := by
  have hsame := hmake.shipment order
  have hold := hrep.shipment
  cases m with
  | ship => exact .inr (.inl rfl)
  | failShipment => exact .inr (.inr ⟨rfl, hmake.failedShipment order rfl⟩)
  | reserve => rw [hsame (by simp) (by simp)]; simp_all [Move.Guard, Move.stage]
  | reject => rw [hsame (by simp) (by simp)]; simp_all [Move.Guard, Move.stage]
  | authorize => rw [hsame (by simp) (by simp)]; simp_all [Move.Guard, Move.stage]
  | failPayment => rw [hsame (by simp) (by simp)]; simp_all [Move.Guard, Move.stage]
  | _ => rw [hsame (by simp) (by simp)]; exact hold

theorem represents_of_move (hs : (memorySaga svc).Reachable cond s) (ht : (memorySaga svc).Reachable cond t) {i : Nat}
    {r : c.Result} (hstep : (sagaSpec memoryOutboxStore svc).Step s (.answer i (.store c) (.ok r)) t)
    (hwrites : job.Writes svc trace c) (heffect : c.effect = some (orderID, proj))
    (hevents : eventsOf t = eventsOf s ++ (c.emitted r).toList.map OutboxEvent.envelope) (hmake : MakesMove c proj m)
    (hguard : m.Guard p) (hrep : Represents s orderID order p) :
    Represents t orderID (proj.update order) (m.apply p) := by
  have hhas : ∀ eventType, HasEvent t orderID eventType ↔ HasEvent s orderID eventType ∨
      m.emits = some eventType := fun _ => hasEvent_of_move hwrites heffect hevents hmake
  have hstatus : (proj.update order).status = m.target.getD order.status := hmake.status order
  refine ⟨?_, ?_, ?_, ?_, ?_, ?_⟩
  · rw [hstatus, hrep.status]
    rfl
  · intro eventType hmem
    rw [hhas, hrep.events eventType hmem, show (m.apply p).stage = m.stage p.stage from rfl,
      Move.stage_events hguard eventType hmem]
  · rw [hhas, hrep.requested]
    cases m <;> simp [Move.apply, Move.emits]
  · exact Move.shipment_of_guard hguard hmake hrep
  · intro hcompleted
    rw [hstatus] at hcompleted
    rw [hhas]
    cases m <;> simp [Move.target] at hcompleted <;>
      first | exact .inl (hrep.completed hcompleted) | exact .inr rfl
  · intro hfailed
    rw [hstatus] at hfailed
    by_cases hm : m = .compensateStock
    · exact compensated_of_act hs ht hstep heffect (hm ▸ hmake.move)
    · have hold : order.status = .failed := by
        cases m <;> simp_all [Move.target]
      obtain ⟨u, hu, deps, event, hjob, horder, htype, hsucceeded⟩ := hrep.failed hold
      exact ⟨u, hstep.mem_of_returned hu hsucceeded, deps, event, hjob, horder, htype, hsucceeded⟩

/-- What a step does to an order in a phase: nothing, or one move. -/
inductive OrderStep (svc : Service) (s : MemorySaga) (l : SagaLabel) (t : MemorySaga) (orderID : String)
    (order : Order) (p : Phase) : Prop
  | same (horder : orderOf t orderID = some order)
      (hevents : eventsFor t orderID = eventsFor s orderID) (hrep : Represents t orderID order p)
  | moved (i : Nat) (c : StoreCall) (r : c.Result) (job : Job) (trace : SagaTrace) (proj : Projection)
      (m : Move) (hlabel : l = .answer i (.store c) (.ok r))
      (hthread : ∃ next, s.threads[i]? = some ⟨job, trace, .call (.store c) next⟩)
      (hwrites : job.Writes svc trace c) (heffect : c.effect = some (orderID, proj))
      (hmake : MakesMove c proj m) (hmove : p.Step m (m.apply p))
      (horder : orderOf t orderID = some (proj.update order))
      (hrep : Represents t orderID (proj.update order) (m.apply p))

theorem hasEvent_other {new : List Envelope} (hevents : eventsOf t = eventsOf s ++ new)
    (hother : ∀ env ∈ new, env.orderID ≠ orderID) (eventType : EventType) :
    HasEvent t orderID eventType ↔ HasEvent s orderID eventType := by
  rw [hasEvent_append hevents, or_iff_left]
  rintro ⟨env, henv, horder, _⟩
  exact hother env henv horder

/-- **The simulation.** -/
theorem order_step (hcond : Disciplined cond) (hs : (memorySaga svc).Reachable cond s)
    (hstep : (sagaSpec memoryOutboxStore svc).Step s l t) (hl : cond s l) (hreviews : ReviewsShipped s)
    (horder : orderOf s orderID = some order) (hrep : Represents s orderID order p) :
    OrderStep svc s l t orderID order p := by
  have ht : (memorySaga svc).Reachable cond t := .step hs hstep hl
  have hsame : ∀ new : List Envelope, eventsOf t = eventsOf s ++ new →
      (∀ env ∈ new, env.orderID ≠ orderID) → orderOf t orderID = some order →
      OrderStep svc s l t orderID order p := by
    intro new hevents hother horder'
    refine .same horder' ?_ (hrep.of_same hstep (hasEvent_other hevents hother))
    have hnone : new.filter (fun env => decide (env.orderID = orderID)) = [] := by
      rw [List.filter_eq_nil_iff]
      simpa using hother
    rw [eventsFor, hevents, List.filter_append, hnone, List.append_nil]
    rfl
  rcases memory_step hs hstep with ⟨horders, hevents⟩ |
    ⟨i, trace, merchantID, key, corr, newID, id, req, now, audit, next, _, hthread, hgiven, _, horders, hevents⟩ |
    ⟨i, c, r, job, trace, next, changedID, proj, order', rfl, hthread, hwrites, heffect, horder', htarget,
      horders, hevents⟩
  · exact hsame [] (by simpa using hevents) (by simp) (by rw [orderOf_congr horders, horder])
  · have hne : orderID ≠ newID := by
      rintro rfl
      rw [orderOf_eq_none_of_given hs hthread hgiven] at horder
      cases horder
    refine hsame _ hevents ?_ (by rw [orderOf_insert horders, if_neg hne, horder])
    intro env henv
    rw [List.mem_singleton.mp henv]
    exact hne.symm
  · by_cases hid : orderID = changedID
    · subst hid
      rw [horder] at horder'
      cases horder'
      have hupdated : orderOf t orderID = some (proj.update order) := by
        rw [orderOf_insert horders, if_pos rfl]
      rcases makesMove_of_writes hwrites heffect with ⟨rfl, _, hnone⟩ | ⟨m, hmake⟩
      · exact hsame [] (by simpa [hnone] using hevents) (by simp) hupdated
      · have hguard := guard_of_writes hcond hs ht hstep hl hthread hwrites heffect hevents hmake.move
          hreviews hrep
        refine .moved i c r job trace proj m rfl ⟨next, hthread⟩ hwrites heffect hmake
          ⟨hguard, ?_, rfl⟩ hupdated
          (represents_of_move hs ht hstep hwrites heffect hevents hmake hguard hrep)
        intro status hstatus
        rw [← hrep.status]
        exact htarget status (hmake.target.trans hstatus)
    · refine hsame _ hevents ?_ (by rw [orderOf_insert horders, if_neg hid, horder])
      intro env henv
      obtain ⟨event, hevent, rfl⟩ := List.mem_map.mp henv
      rw [show event.envelope.orderID = changedID from
        (hwrites.emitted_of_effect heffect (Option.mem_toList.mp hevent)).1]
      exact Ne.symm hid

theorem shipped_of_review (hp : p.Consistent) (hrep : Represents s orderID order p)
    (hreview : requiresManualReview order = true) : p.stage = .shipped := by
  rw [requiresManualReview, Bool.or_eq_true, decide_eq_true_eq] at hreview
  rcases hreview with hcompleted | hshipment
  · have hstatus := hp.status
    rw [← hrep.status, hcompleted] at hstatus
    revert hstatus
    generalize p.stage = stage
    cases stage <;> decide
  · rcases hrep.shipment with hnone | hshipped | ⟨_, hfailed⟩
    · simp [hnone] at hshipment
    · exact hshipped
    · simp [hfailed, failedShipment] at hshipment

theorem represents_created (hs : (memorySaga svc).Reachable cond s) {env : Envelope} (hnew : orderOf s orderID = none)
    (hstatus : order.status = .pendingFulfillment) (hshipment : order.shipment = none)
    (hevents : eventsOf t = eventsOf s ++ [env]) (htype : env.eventType = .orderCreated) :
    Represents t orderID order .start := by
  have hnone : ∀ eventType ≠ .orderCreated, ¬ HasEvent t orderID eventType := by
    intro eventType hne hhas
    rw [hasEvent_append hevents] at hhas
    rcases hhas with ⟨old, hold, rfl, _⟩ | ⟨env', henv, _, rfl⟩
    · obtain ⟨order', horder'⟩ := order_of_event hs hold
      rw [hnew] at horder'
      cases horder'
    · rw [List.mem_singleton.mp henv, htype] at hne
      exact hne rfl
  refine ⟨hstatus, fun eventType hmem => ?_, ?_, .inl hshipment, ?_, ?_⟩
  · have hne : eventType ≠ .orderCreated := by
      rintro rfl
      simp [stageEventTypes] at hmem
    simp [hnone eventType hne, Phase.start, Stage.events]
  · simp [hnone _ (show EventType.orderCancelRequested ≠ .orderCreated by simp), Phase.start]
  · simp [hstatus]
  · simp [hstatus]

structure Simulated (s : MemorySaga) : Prop where
  phases : ∀ orderID order, orderOf s orderID = some order → ∃ p : Phase, p.Consistent ∧
    Represents s orderID order p
  reviews : ReviewsShipped s

/-- **Every stored order is in a phase of its lifecycle**, in every reachable state. -/
theorem simulated_of_reachable (hcond : Disciplined cond) (hs : (memorySaga svc).Reachable cond s) : Simulated s := by
  refine Lts.Reachable.invariant (P := Simulated) ?_ ?_ hs
  · rintro s ⟨⟨hstart, _⟩, hnil⟩
    have hstore : s.shared.store = newMemoryStore := hstart
    refine ⟨fun orderID order horder => ?_, fun orderID order hread => ?_⟩
    · simp [orderOf, hstore, newMemoryStore] at horder
    · obtain ⟨u, hu, _⟩ := hread
      simp [hnil] at hu
  · intro s l t hreach ih hstep hl
    refine ⟨fun orderID order horder => ?_, fun orderID order hread hreview => ?_⟩
    · cases hold : orderOf s orderID with
      | some old =>
        obtain ⟨p, hp, hrep⟩ := ih.phases orderID old hold
        cases order_step hcond hreach hstep hl ih.reviews hold hrep with
        | same horder' _ hrep' =>
          rw [horder] at horder'
          cases horder'
          exact ⟨p, hp, hrep'⟩
        | moved i c r job trace proj m _ _ _ _ _ hmove horder' hrep' =>
          rw [horder] at horder'
          cases horder'
          exact ⟨m.apply p, hmove.consistent hp, hrep'⟩
      | none =>
        obtain ⟨merchantID, req, now, env, rfl, hevents, htype⟩ := created_of_step hreach hstep hold horder
        exact ⟨.start, Phase.start_consistent,
          represents_created hreach hold rfl rfl hevents htype⟩
    · rcases hstep.exchanged_iff.mp hread with hread | ⟨i, rfl⟩
      · exact hasEvent_mono hstep (ih.reviews orderID order hread hreview)
      · obtain ⟨p, hp, hrep⟩ := ih.phases orderID order (orderOf_of_read hstep)
        refine hasEvent_mono hstep ((hrep.events _ (by decide)).mpr ?_)
        rw [shipped_of_review hp hrep hreview]
        decide

end FulfillHub
