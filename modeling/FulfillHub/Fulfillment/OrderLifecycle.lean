import FulfillHub.Fulfillment.Script
import FulfillHub.Fulfillment.Shipments

/-!
# Stock, payment and shipment along the lifecycle

The projections of an order are a function of its phase, as long as the providers report success with
the statuses they are meant to. With the simulation this gives the lifecycle invariant: what an order
holds in each of its statuses, in every reachable state of the saga.
-/

namespace FulfillHub

open Interaction

/-- What an order holds is what its phase says. -/
structure Holds (order : Order) (p : Phase) : Prop where
  items : ∀ item ∈ order.items, item.reservationStatus = p.itemStatus
  payment : ∃ payment, order.payment = some payment ∧ payment.status = p.paymentStatus
  shipment : order.shipment.map Shipment.status = p.shipmentStatus

/-- The runs of the lifecycle invariant. -/
def SagaRun (s : MemorySaga) (l : SagaLabel) : Prop :=
  FromOutbox memoryOutboxStore s l ∧ AtMostOnce s l ∧ ProvidersKeepContract l

theorem sagaRun_disciplined : Disciplined SagaRun := ⟨fun _ _ h => h.1, fun _ _ h => h.2.1⟩

theorem ProvidersKeepContract.shipments : {l : SagaLabel} → ProvidersKeepContract l → ShipmentsKeepContract l
  | .spawn _, _ => trivial
  | .answer _ (.store _) _, _ => trivial
  | .answer _ (.port (.createShipment _)) (.ok _), h => h
  | .answer _ (.port (.createShipment _)) (.error _), _ => trivial
  | .answer _ (.port .clock) _, _ | .answer _ (.port (.newID _)) _, _ => trivial
  | .answer _ (.port (.reserveInventory _)) _, _ | .answer _ (.port (.authorizePayment _)) _, _ => trivial

theorem sagaRun_shipping : Shipping SagaRun where
  toDisciplined := sagaRun_disciplined
  shipments _ _ h := h.2.2.shipments

variable {svc : Service} {s t : MemorySaga} {l : SagaLabel} {orderID : String} {order : Order} {p : Phase}

/-! ### What the providers answered -/

theorem provider_answer (hs : (memorySaga svc).Reachable SagaRun s) {x : Exchange Call.Answer}
    (hx : PoolSpec.Exchanged s x) : ProvidersKeepContract (.answer 0 x.1 x.2) := by
  refine PoolSpec.exchange_invariant (P := sagaSpec memoryOutboxStore svc)
    (Ψ := fun _ x => ProvidersKeepContract (.answer 0 x.1 x.2)) ?_ ?_ hs hx
  · exact fun _ _ _ _ _ _ _ _ _ h => h
  · intro s i c r t _ _ hcond
    have hkeep : ProvidersKeepContract (.answer i c r) := hcond.2.2
    cases c with
    | store c => trivial
    | port c => cases c <;> cases r <;> exact hkeep

theorem paymentToRecord_status (hs : (memorySaga svc).Reachable SagaRun s) {i : Nat} {u : SagaThread}
    (hu : s.threads[i]? = some u) {event : OutboxEvent} {payment : Payment}
    (h : PaymentToRecord u.trace event payment) : payment.status = .authorized := by
  rcases h with ⟨answer, hmem, hstatus, _⟩ | ⟨_, hstatus⟩
  · rw [hstatus]
    rcases provider_answer hs ⟨u, PoolSpec.mem_threads.mpr ⟨i, hu⟩, hmem⟩ with hblank | hauthorized
    · simp [normalizedPayment, hblank]
    · simp [normalizedPayment, hauthorized]
  · exact hstatus

/-! ### What a move does to the holdings -/

theorem releaseItem_status (item : OrderItem) : (Order.releaseItem item).reservationStatus =
    if item.reservationStatus = .reserved then .released else item.reservationStatus := by
  unfold Order.releaseItem
  split_ifs with h
  · rfl
  · rfl

theorem voidedPayment_status (payment : Payment) : (Order.voidedPayment payment).status =
    if payment.status = .authorized then .voided else payment.status := by
  unfold Order.voidedPayment
  split_ifs with h
  · rfl
  · rfl

theorem paymentWithProvider_status (order : Order) (payment : Payment) :
    (order.paymentWithProvider payment).status = payment.status := by
  unfold Order.paymentWithProvider
  split_ifs
  · cases order.payment <;> rfl
  · rfl

theorem Holds.released_items (h : Holds order p) : ∀ item ∈ order.releaseItems.items,
    item.reservationStatus = Phase.itemStatus { p with released := true } := by
  intro item hitem
  obtain ⟨old, hold, rfl⟩ := List.mem_map.mp hitem
  rw [releaseItem_status, h.items old hold]
  cases hstage : p.stage <;> cases hreleased : p.released <;> simp [Phase.itemStatus, hstage, hreleased]

/-- Giving back what is held takes a phase to the same phase, released. -/
theorem Holds.release (h : Holds order p) {status : OrderStatus} {requested : Bool} {now : Time} :
    Holds { order.releaseItems.voidPayment with status := status, updatedAt := now }
      { p with status := status, requested := requested, released := true } := by
  obtain ⟨payment, hpayment, hstatus⟩ := h.payment
  refine ⟨h.released_items, ⟨Order.voidedPayment payment, ?_, ?_⟩, h.shipment⟩
  · simp [Order.voidPayment, Order.releaseItems, hpayment]
  · rw [voidedPayment_status, hstatus]
    cases hstage : p.stage <;> cases hreleased : p.released <;> simp [Phase.paymentStatus, hstage, hreleased]

theorem not_released_of_forward (hp : p.Consistent) {status : OrderStatus}
    (hstatus : status = .inventoryReserved ∨ status = .paymentAuthorized)
    (hmove : canTransitionOrderStatus p.status status = true) : p.released = false := by
  cases hreleased : p.released with
  | false => rfl
  | true =>
    rcases hp.released hreleased with h | ⟨h, _⟩ <;> rw [h] at hmove <;>
      rcases hstatus with rfl | rfl <;> cases hmove

theorem Holds.compensate (h : Holds order p) {event : OutboxEvent} {audit : AuditLog} {m : Move}
    (hexpected : Queue.ordersCompensate.expects event.eventType = true)
    (hmove : StoreCall.move (.projector (.recordCompensation event (compensationTarget event.eventType) audit)) =
      some m) (hguard : m.Guard p) :
    Holds ((ProjectorCall.recordCompensation event (compensationTarget event.eventType) audit).projection.update order)
      (m.apply p) := by
  obtain ⟨stage, status, requested, released⟩ := p
  obtain ⟨hitems, ⟨payment, hpayment, hpaid⟩, hshipment⟩ := id h
  rcases expects_compensate hexpected with htype | htype | htype
  · simp only [StoreCall.move, htype] at hmove
    cases hmove
    simp only [ProjectorCall.projection, Projection.compensation, htype, Projection.compensate]
    exact ⟨hitems, ⟨payment, hpayment, hpaid⟩, hshipment⟩
  · simp only [StoreCall.move, htype] at hmove
    cases hmove
    subst hguard
    simp only [ProjectorCall.projection, Projection.compensation, htype, Projection.compensate]
    exact ⟨h.released_items, ⟨payment, hpayment, hpaid⟩, hshipment⟩
  · simp only [StoreCall.move, htype] at hmove
    cases hmove
    simp only [ProjectorCall.projection, Projection.compensation, htype, Projection.compensate]
    exact h.release

theorem holds_of_move (hs : (memorySaga svc).Reachable SagaRun s) {i : Nat} {c : StoreCall} {job : Job}
    {trace : SagaTrace} {prog : Saga (Except Error Unit)} {proj : Projection} {m : Move}
    (hthread : s.threads[i]? = some ⟨job, trace, prog⟩) (hwrites : job.Writes svc trace c)
    (heffect : c.effect = some (orderID, proj)) (hmake : MakesMove c proj m)
    (hmove : p.Step m (m.apply p)) (hp : p.Consistent) (hholds : Holds order p) :
    Holds (proj.update order) (m.apply p) := by
  have hcall := hmake.move
  have hguard := hmove.guarded
  obtain ⟨stage, status, requested, released⟩ := p
  obtain ⟨hitems, ⟨payment, hpayment, hpaid⟩, hshipment⟩ := id hholds
  cases hwrites with
  | create => cases heffect
  | cancel => cases hcall; cases heffect; exact ⟨hitems, ⟨payment, hpayment, hpaid⟩, hshipment⟩
  | @handle queue deps event c hvalid hwrite =>
    cases hwrite with
    | inventoryReserved =>
      cases hcall; cases heffect
      have hreleased : released = false :=
        not_released_of_forward hp (.inl rfl) (hmove.target _ rfl)
      subst hguard hreleased
      refine ⟨?_, ⟨payment, hpayment, hpaid⟩, hshipment⟩
      intro item hitem
      obtain ⟨old, _, rfl⟩ := List.mem_map.mp hitem
      rfl
    | inventoryRejected =>
      cases hcall; cases heffect
      subst hguard
      refine ⟨?_, ⟨payment, hpayment, hpaid⟩, hshipment⟩
      intro item hitem
      obtain ⟨old, _, rfl⟩ := List.mem_map.mp hitem
      rfl
    | paymentAuthorized hid hrecord =>
      cases hcall; cases heffect
      have hreleased : released = false :=
        not_released_of_forward hp (.inr rfl) (hmove.target _ rfl)
      have hauthorized := paymentToRecord_status hs hthread hrecord
      subst hguard hreleased
      refine ⟨hitems, ⟨_, rfl, ?_⟩, hshipment⟩
      exact (paymentWithProvider_status _ _).trans hauthorized
    | paymentFailed =>
      cases hcall; cases heffect
      subst hguard
      exact ⟨hitems, ⟨_, rfl, rfl⟩, hshipment⟩
    | shipmentCreated hid hrecord =>
      cases hcall; cases heffect
      have hcreated := shipmentToRecord_status sagaRun_shipping hs hthread hrecord
      subst hguard
      exact ⟨hitems, ⟨payment, hpayment, hpaid⟩, congrArg some hcreated⟩
    | shipmentFailed =>
      cases hcall; cases heffect
      subst hguard
      exact ⟨hitems, ⟨payment, hpayment, hpaid⟩, rfl⟩
    | orderCompleted =>
      cases hcall; cases heffect
      exact ⟨hitems, ⟨payment, hpayment, hpaid⟩, hshipment⟩
    | manualReview =>
      cases hcall; cases heffect
      exact ⟨hitems, ⟨payment, hpayment, hpaid⟩, hshipment⟩
    | orderCancelled =>
      cases hcall; cases heffect
      exact hholds.release
    | notificationQueued => cases hcall
    | compensation =>
      cases heffect
      exact hholds.compensate hvalid.expected hcall hguard

/-! ### Lawful states -/

structure Kept (s : MemorySaga) (orderID : String) (order : Order) (p : Phase) : Prop where
  consistent : p.Consistent
  represents : Represents s orderID order p
  holds : Holds order p
  unshipped : p.status = .cancelled → p.stage ≠ .shipped

theorem unshipped_of_represents (hlawful : ShipsLawfully s) (horder : orderOf s orderID = some order)
    (hrep : Represents s orderID order p) (hstatus : p.status = .cancelled) : p.stage ≠ .shipped := by
  have hnone := hlawful.cancelled orderID order horder (hrep.status.trans hstatus)
  rwa [hrep.events _ (by decide), mem_events_shipped] at hnone

structure Lawful (s : MemorySaga) : Prop where
  kept : ∀ orderID order, orderOf s orderID = some order → ∃ p, Kept s orderID order p
  cancels : CancelsUnshipped s

theorem start_holds (merchantID : String) (req : CreateOrderCommand) (now : Time) :
    Holds (svc.newOrder merchantID req orderID now) .start := by
  refine ⟨?_, ⟨_, rfl, rfl⟩, rfl⟩
  intro item hitem
  obtain ⟨input, _, rfl⟩ := List.mem_map.mp hitem
  rfl

theorem kept_of_step (hs : (memorySaga svc).Reachable SagaRun s)
    (hstep : (sagaSpec memoryOutboxStore svc).Step s l t) (hl : SagaRun s l) (hlawful : Lawful s)
    (horder : orderOf t orderID = some order) : ∃ p, Kept t orderID order p := by
  have hships := shipsLawfully_of_reachable sagaRun_shipping (.step hs hstep hl)
  cases hold : orderOf s orderID with
  | none =>
    obtain ⟨merchantID, req, now, env, rfl, hevents, htype⟩ := created_of_step hs hstep hold horder
    exact ⟨.start, Phase.start_consistent, represents_created hs hold rfl rfl hevents htype,
      start_holds merchantID req now, by simp [Phase.start]⟩
  | some old =>
    obtain ⟨p, hkept⟩ := hlawful.kept orderID old hold
    have hreviews := (simulated_of_reachable sagaRun_disciplined hs).reviews
    cases order_step sagaRun_disciplined hs hstep hl hreviews hold hkept.represents with
    | same horder' _ hrep =>
      cases horder.symm.trans horder'
      exact ⟨p, hkept.consistent, hrep, hkept.holds, hkept.unshipped⟩
    | moved i c r job trace proj m _ hthread hwrites heffect hmake hmove horder' hrep =>
      cases horder.symm.trans horder'
      obtain ⟨next, hthread⟩ := hthread
      exact ⟨m.apply p, hmove.consistent hkept.consistent, hrep,
        holds_of_move hs hthread hwrites heffect hmake hmove hkept.consistent hkept.holds,
        unshipped_of_represents hships horder hrep⟩

theorem lawful_of_reachable (hs : (memorySaga svc).Reachable SagaRun s) : Lawful s := by
  refine Lts.Reachable.invariant (P := Lawful) ?_ ?_ hs
  · rintro s ⟨⟨hstart, _⟩, hnil⟩
    have hstore : s.shared.store = newMemoryStore := hstart
    refine ⟨fun orderID order horder => ?_, fun u hu => ?_⟩
    · simp [orderOf, hstore, newMemoryStore] at horder
    · simp [hnil] at hu
  · intro s l t hreach ih hstep hl
    exact ⟨fun orderID order horder => kept_of_step hreach hstep hl ih horder,
      (shipsLawfully_of_reachable sagaRun_shipping (.step hreach hstep hl)).cancels⟩

/-! ### The lifecycle invariant -/

def Order.AllItems (order : Order) (status : ReservationStatus) : Prop :=
  ∀ item ∈ order.items, item.reservationStatus = status

def Order.PaymentIs (order : Order) (status : PaymentStatus) : Prop :=
  order.payment.map Payment.status = some status

def Order.ShipmentIs (order : Order) (status : ShipmentStatus) : Prop :=
  order.shipment.map Shipment.status = some status

/-- What an order holds in each of its statuses. -/
def LifecycleClause (s : MemorySaga) (orderID : String) (order : Order) : Prop :=
  match order.status with
  | .pendingFulfillment => (order.AllItems .pending ∨ order.AllItems .rejected) ∧
      order.PaymentIs .pendingAuthorization ∧ order.shipment = none
  | .inventoryReserved => order.AllItems .reserved ∧
      (order.PaymentIs .pendingAuthorization ∨ order.PaymentIs .failed) ∧ order.shipment = none
  | .paymentAuthorized => order.AllItems .reserved ∧ order.PaymentIs .authorized ∧
      (order.shipment = none ∨ order.ShipmentIs .failed)
  | .shipmentCreated | .completed | .manualReview => order.AllItems .reserved ∧
      order.PaymentIs .authorized ∧ order.ShipmentIs .created
  | .failed => order.AllItems .rejected ∧ order.PaymentIs .pendingAuthorization ∧
      ¬ HasEvent s orderID .paymentAuthorized
  | .cancelled => (∀ item ∈ order.items, item.reservationStatus ≠ .reserved) ∧
      ¬ order.PaymentIs .authorized ∧ (order.shipment = none ∨ order.ShipmentIs .failed)
  | .cancellationPending => order.ShipmentIs .created → order.AllItems .reserved ∧
      order.PaymentIs .authorized
  | .other _ _ => False

theorem lifecycleClause_of_kept (h : Kept s orderID order p) : LifecycleClause s orderID order := by
  obtain ⟨hp, hrep, ⟨hitems, ⟨payment, hpayment, hpaid⟩, hshipment⟩, hunshipped⟩ := h
  have hevent := hrep.events .paymentAuthorized (by decide)
  have hstatus := hrep.status
  have hmem := hp.status
  have hreleased : p.status ≠ .cancelled → p.status ≠ .cancellationPending → p.released = false := by
    intro hcancelled hpending
    cases hr : p.released with
    | false => rfl
    | true => rcases hp.released hr with h | h <;> simp_all
  have hcancelled := hp.cancelled
  have hpending := hp.released
  clear hrep hp
  obtain ⟨stage, status, requested, released⟩ := p
  dsimp only at *
  unfold LifecycleClause Order.AllItems Order.PaymentIs Order.ShipmentIs
  rw [hstatus]
  cases stage <;> simp only [Stage.statuses, List.mem_cons, List.not_mem_nil, or_false] at hmem <;>
    rcases hmem with rfl | rfl | rfl | rfl | rfl <;>
    simp_all [-Option.map_eq_some_iff, Phase.itemStatus, Phase.paymentStatus, Phase.shipmentStatus,
      Stage.events]

theorem valid_of_consistent (hp : p.Consistent) : isValidOrderStatus p.status = true := by
  have hmem := hp.status
  revert hmem
  generalize p.status = status
  generalize p.stage = stage
  intro hmem
  cases stage <;> simp only [Stage.statuses, List.mem_cons, List.not_mem_nil, or_false] at hmem <;>
    rcases hmem with rfl | rfl | rfl | rfl | rfl <;> rfl

/-- A step takes an order from its status to one the state machine allows. -/
theorem canTransition_of_step (hs : (memorySaga svc).Reachable SagaRun s)
    (hstep : (memorySaga svc).step s l t) (hl : SagaRun s l) (horder : orderOf s orderID = some order) :
    ∃ order', orderOf t orderID = some order' ∧
      canTransitionOrderStatus order.status order'.status = true := by
  have hsim := simulated_of_reachable sagaRun_disciplined hs
  obtain ⟨p, hp, hrep⟩ := hsim.phases orderID order horder
  have hself : canTransitionOrderStatus order.status order.status = true := by
    rw [canTransitionOrderStatus_self, hrep.status]
    exact valid_of_consistent hp
  cases order_step sagaRun_disciplined hs hstep hl hsim.reviews horder hrep with
  | same horder' _ _ => exact ⟨order, horder', hself⟩
  | moved i c r job trace proj m _ _ _ _ hmake hmove horder' _ =>
    refine ⟨_, horder', ?_⟩
    rw [hmake.status order]
    cases htarget : m.target with
    | none => exact hself
    | some status =>
      rw [hrep.status]
      exact hmove.target status htarget

/-- **The lifecycle invariant.** Over the in-memory store, with handlers run on outbox events, each
event handled successfully at most once per queue and providers keeping their contract, every stored
order satisfies the clause of its status, and every step takes it along the state machine. -/
theorem order_lifecycle (svc : Service) {s : MemorySaga} (hs : (memorySaga svc).Reachable SagaRun s) :
    (∀ orderID order, orderOf s orderID = some order → LifecycleClause s orderID order) ∧
      ∀ l t, (memorySaga svc).step s l t → SagaRun s l →
        ∀ orderID order, orderOf s orderID = some order → ∃ order', orderOf t orderID = some order' ∧
          canTransitionOrderStatus order.status order'.status = true := by
  refine ⟨fun orderID order horder => ?_, fun l t hstep hl orderID order horder => ?_⟩
  · obtain ⟨p, hkept⟩ := (lawful_of_reachable hs).kept orderID order horder
    exact lifecycleClause_of_kept hkept
  · exact canTransition_of_step hs hstep hl horder

def sagaCheck (s : MemorySaga) (l : SagaLabel) (t : MemorySaga) : Bool :=
  decide (FromOutbox memoryOutboxStore s l ∧ Unrepeated t ∧ ProvidersKeepContract l)

theorem sagaCheck_decides (svc : Service) : Decides (memorySaga svc) sagaCheck SagaRun := by
  intro s l t hstep h
  obtain ⟨hfrom, honce, hproviders⟩ := of_decide_eq_true h
  exact ⟨hfrom, atMostOnce_of_unrepeated hstep honce, hproviders⟩

/-- The acts that reserve stock for `ord_1` as thread 1. -/
def reserveActs : List Act :=
  [.handle .inventoryReserve allProviders 0, .reply 1 (.time 2), .reply 1 (.reservation (.ok ())),
    .reply 1 (.id "2"), .store 1]

/-- The acts that authorize its payment as thread 2. -/
def authorizeActs : List Act :=
  [.handle .paymentsAuthorize allProviders 1, .reply 2 (.time 3),
    .reply 2 (.payment (.ok ⟨"acme", .blank, "auth-1", ""⟩)), .reply 2 (.id "3"), .store 2]

/-- The invariant at a run that reaches `payment_authorized`. -/
theorem order_lifecycle_authorized : ∃ s, (memorySaga sampleService).Reachable SagaRun s ∧
    (orderOf s "ord_1").map Order.status = some .paymentAuthorized ∧
    ∀ order, orderOf s "ord_1" = some order → order.AllItems .reserved ∧ order.PaymentIs .authorized := by
  obtain ⟨s, hs, hstatus⟩ := (memorySimulator sampleService).exists_reachable
    (Q := fun s => (orderOf s "ord_1").map Order.status = some .paymentAuthorized)
    (sagaCheck_decides sampleService) reachable_emptySaga (createActs ++ reserveActs ++ authorizeActs) (by decide)
  refine ⟨s, hs, hstatus, fun order horder => ?_⟩
  have hclause := (order_lifecycle sampleService hs).1 "ord_1" order horder
  rw [horder, Option.map_some, Option.some.injEq] at hstatus
  rw [LifecycleClause, hstatus] at hclause
  exact ⟨hclause.1, hclause.2.1⟩

end FulfillHub
