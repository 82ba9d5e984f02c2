import FulfillHub.Fulfillment.Advance
import FulfillHub.Fulfillment.Identity
import FulfillHub.Fulfillment.OrderLifecycle

/-!
# Open orders make progress

An order in a status that is not terminal should have an event waiting whose handler takes it further.
Statuses only ever move up a rank, so what a run has seen of an order or written to it bounds the
order's status from below for good. Every open status but one is announced by an event of its own, and
the handler of that event cannot have succeeded without leaving a trace: the order has moved on, or a
failure was announced that the compensation has not treated yet. The exception is the compensation of a
failed shipment, which asks for a cancellation without announcing it.
-/

namespace FulfillHub

open Interaction

variable {svc : Service} {cond : MemorySaga → SagaLabel → Prop} {s t : MemorySaga} {l : SagaLabel}
  {orderID : String} {order : Order} {c : StoreCall} {status : OrderStatus} {eventType : EventType}

/-! ### Statuses move up -/

def OrderStatus.rank : OrderStatus → Nat
  | .pendingFulfillment | .other _ _ => 0
  | .inventoryReserved => 1
  | .paymentAuthorized => 2
  | .shipmentCreated => 3
  | .completed | .cancellationPending => 4
  | .cancelled | .manualReview | .failed => 5

theorem rank_le_of_canTransition {a b : OrderStatus} (h : canTransitionOrderStatus a b = true) : a.rank ≤ b.rank := by
  by_cases hab : a = b
  · rw [hab]
  · cases a <;> cases b <;> simp_all [canTransitionOrderStatus, OrderStatus.rank]

theorem rank_le_of_step (hs : (memorySaga svc).Reachable cond s)
    (hstep : (sagaSpec memoryOutboxStore svc).Step s l t) (horder : orderOf s orderID = some order) :
    ∃ order', orderOf t orderID = some order' ∧ order.status.rank ≤ order'.status.rank := by
  rcases memory_step hs hstep with ⟨horders, _⟩ |
    ⟨i, trace, merchantID, key, corr, newID, id, req, now, audit, next, _, hthread, hgiven, _, horders, _⟩ |
    ⟨i, c, r, job, trace, next, changedID, proj, old, rfl, _, hwrites, heffect, hold, htarget, horders, _⟩
  · exact ⟨order, by rw [orderOf_congr horders, horder], le_rfl⟩
  · have hne : orderID ≠ newID := by
      rintro rfl
      rw [orderOf_eq_none_of_given hs hthread hgiven] at horder
      cases horder
    exact ⟨order, by rw [orderOf_insert horders, if_neg hne, horder], le_rfl⟩
  · by_cases hid : orderID = changedID
    · subst hid
      rw [horder] at hold
      cases hold
      refine ⟨_, by rw [orderOf_insert horders, if_pos rfl], ?_⟩
      rcases makesMove_of_writes hwrites heffect with ⟨rfl, _⟩ | ⟨m, hmake⟩
      · exact le_rfl
      · rw [hmake.status order]
        cases hm : m.target with
        | none => exact le_rfl
        | some status => exact rank_le_of_canTransition (htarget status (hmake.target.trans hm))
    · exact ⟨order, by rw [orderOf_insert horders, if_neg hid, horder], le_rfl⟩

/-- The status an exchange has shown an order to have, or has given it. -/
def shown : Exchange Call.Answer → Option (String × OrderStatus)
  | ⟨.store (.getOrder orderID), .ok order⟩ => some (orderID, order.status)
  | ⟨.store c, .ok _⟩ => c.effect.bind fun x => x.2.target.map fun status => (x.1, status)
  | _ => none

theorem shown_of_effect {r : c.Result} {proj : Projection} (heffect : c.effect = some (orderID, proj)) :
    shown ⟨.store c, .ok r⟩ = proj.target.map fun status => (orderID, status) := by
  cases c with
  | insertOrder => cases heffect
  | getOrder => cases heffect
  | updateOrderStatus => cases heffect; rfl
  | projector => cases heffect; rfl

theorem written_of_shown (hs : (memorySaga svc).Reachable cond s) {i : Nat} {r : c.Result}
    (hstep : (sagaSpec memoryOutboxStore svc).Step s (.answer i (.store c) (.ok r)) t)
    (hread : ¬ ∃ readID, c = .getOrder readID) (hshown : shown ⟨.store c, .ok r⟩ = some (orderID, status)) :
    ∃ order, orderOf t orderID = some order ∧ order.status = status := by
  cases heffect : c.effect with
  | none => cases c <;> simp_all [shown, StoreCall.effect]
  | some x =>
    obtain ⟨changedID, proj⟩ := x
    rw [shown_of_effect heffect, Option.map_eq_some_iff] at hshown
    obtain ⟨_, htarget, heq⟩ := hshown
    cases heq
    obtain ⟨_, _, _, _, hwrites, _⟩ := writes_of_step hs hstep (StoreCall.not_read_of_effect heffect)
    obtain ⟨order, _, horder⟩ := orderOf_of_success hstep heffect
    refine ⟨_, horder, ?_⟩
    rcases makesMove_of_writes hwrites heffect with ⟨rfl, _⟩ | ⟨m, hmake⟩
    · cases htarget
    · rw [hmake.status order, ← hmake.target, htarget]
      rfl

/-- **What was shown bounds the status from below**, in every later state. -/
theorem rank_le_of_shown (hs : (memorySaga svc).Reachable cond s) {x : Exchange Call.Answer}
    (hx : PoolSpec.Exchanged s x) (hshown : shown x = some (orderID, status))
    (horder : orderOf s orderID = some order) : status.rank ≤ order.status.rank := by
  obtain ⟨order', horder', hle⟩ : ∃ order', orderOf s orderID = some order' ∧
      status.rank ≤ order'.status.rank := by
    refine Lts.Reachable.invariant (P := fun s => PoolSpec.Exchanged s x →
      ∃ order, orderOf s orderID = some order ∧ status.rank ≤ order.status.rank) ?_ ?_ hs hx
    · rintro s ⟨_, hnil⟩ ⟨u, hu, _⟩
      simp [hnil] at hu
    · intro s l t hreach ih hstep _ hx
      have hlater : ∀ order, orderOf s orderID = some order → status.rank ≤ order.status.rank →
          ∃ order, orderOf t orderID = some order ∧ status.rank ≤ order.status.rank := by
        intro order horder hle
        obtain ⟨order', horder', hle'⟩ := rank_le_of_step hreach hstep horder
        exact ⟨order', horder', hle.trans hle'⟩
      rcases hstep.exchanged_iff.mp hx with hx | ⟨i, rfl⟩
      · obtain ⟨order, horder, hle⟩ := ih hx
        exact hlater order horder hle
      · obtain ⟨c | c, r⟩ := x
        · cases r with
          | error err => simp [shown] at hshown
          | ok r =>
            by_cases hread : ∃ readID, c = .getOrder readID
            · obtain ⟨readID, rfl⟩ := hread
              cases hshown
              exact hlater _ (orderOf_of_read hstep) le_rfl
            · obtain ⟨order, horder, rfl⟩ := written_of_shown hreach hstep hread hshown
              exact ⟨order, horder, le_rfl⟩
        · simp [shown] at hshown
  rw [horder] at horder'
  cases horder'
  exact hle

/-! ### The runs considered -/

/-- Handlers are started on events of the types bound to their queue. -/
def Consumes : SagaLabel → Prop
  | .spawn (.handle queue _ event) => queue.consumes event.eventType = true
  | _ => True

def ConsumingRun (s : MemorySaga) (l : SagaLabel) : Prop := FromOutbox memoryOutboxStore s l ∧ Consumes l

/-- The step records the compensation of a failed shipment for an order whose cancellation nobody has requested. -/
def unannounced (s : MemorySaga) : SagaLabel → Bool
  | .answer _ (.store c) (.ok _) => c.move == some .compensateShipment && c.effect.any fun x =>
    (orderOf s x.1).any fun order => order.status ≠ .cancellationPending
  | _ => false

def FlowingRun (s : MemorySaga) (l : SagaLabel) : Prop :=
  ConsumingRun s l ∧ Correlated l ∧ unannounced s l = false

/-! ### Open statuses are announced -/

def OrderStatus.announcement : OrderStatus → Option EventType
  | .pendingFulfillment => some .orderCreated
  | .inventoryReserved => some .inventoryReserved
  | .paymentAuthorized => some .paymentAuthorized
  | .shipmentCreated => some .shipmentCreated
  | .cancellationPending => some .orderCancelRequested
  | _ => none

theorem Move.announces {m : Move} (htarget : m.target = some status)
    (hannounce : status.announcement = some eventType) (hm : m ≠ .compensateShipment) : m.emits = some eventType := by
  cases m <;> cases htarget <;> cases hannounce <;> first | rfl | exact absurd rfl hm

/-- **An open status is announced by its event.** -/
theorem announced (hs : (memorySaga svc).Reachable FlowingRun s) (horder : orderOf s orderID = some order)
    (hannounce : order.status.announcement = some eventType) :
    HasEvent s orderID eventType := by
  refine Lts.Reachable.invariant (P := fun s => ∀ orderID order eventType, orderOf s orderID = some order →
    order.status.announcement = some eventType → HasEvent s orderID eventType) ?_ ?_ hs _ _ _ horder hannounce
  · rintro s ⟨⟨hstart, _⟩, _⟩ orderID order eventType horder
    simp [orderOf, show s.shared.store = newMemoryStore from hstart, newMemoryStore] at horder
  · intro s l t hreach ih hstep hl orderID order eventType horder hannounce
    rcases memory_step hreach hstep with ⟨horders, _⟩ |
      ⟨i, trace, merchantID, key, corr, newID, id, req, now, audit, next, _, _, _, _, horders, hevents⟩ |
      ⟨i, c, r, job, trace, next, changedID, proj, old, rfl, _, hwrites, heffect, hold, _, horders, hevents⟩
    · rw [orderOf_congr horders] at horder
      exact hasEvent_mono hstep (ih _ _ _ horder hannounce)
    · rw [orderOf_insert horders] at horder
      split_ifs at horder with hid
      · cases horder
        cases hannounce
        exact (hasEvent_append hevents).mpr (.inr ⟨_, List.mem_singleton_self _, hid.symm, rfl⟩)
      · exact hasEvent_mono hstep (ih _ _ _ horder hannounce)
    · rw [orderOf_insert horders] at horder
      split_ifs at horder with hid
      · subst hid
        cases horder
        rcases makesMove_of_writes hwrites heffect with ⟨rfl, _⟩ | ⟨m, hmake⟩
        · exact hasEvent_mono hstep (ih _ _ _ hold hannounce)
        · rw [hmake.status old] at hannounce
          cases htarget : m.target with
          | none =>
            rw [htarget] at hannounce
            exact hasEvent_mono hstep (ih _ _ _ hold hannounce)
          | some status =>
            rw [htarget] at hannounce
            by_cases hm : m = .compensateShipment
            · -- the order was waiting for its cancellation already
              subst hm
              cases htarget
              have hrequested := hl.2.2
              simp only [unannounced, hmake.move, heffect, hold, BEq.rfl, Bool.true_and, Option.any_some,
                decide_eq_false_iff_not, not_not] at hrequested
              exact hasEvent_mono hstep (ih _ _ _ hold (hrequested ▸ hannounce))
            · exact (hasEvent_of_move hwrites heffect hevents hmake).mpr
                (.inr (Move.announces htarget hannounce hm))
      · exact hasEvent_mono hstep (ih _ _ _ horder hannounce)

/-! ### Waiting events -/

/-- No run of the queue on this message has succeeded. -/
def Unhandled (s : MemorySaga) (queue : Queue) (event : OutboxEvent) : Prop :=
  ∀ u ∈ s.threads, ∀ deps e, u.job = .handle queue deps e → e.messageID = event.messageID → ¬ Succeeded u

/-- An event of the order waits for a queue whose handler takes the order further. -/
structure Waiting (s : MemorySaga) (orderID : String) (queue : Queue) (event : OutboxEvent) : Prop where
  mem : event ∈ s.shared.store.outbox
  order : event.orderID = orderID
  bound : queue.consumes event.eventType = true
  unhandled : Unhandled s queue event
  advances : Advances s.shared.store queue event

theorem unhandled_or (hs : (memorySaga svc).Reachable FlowingRun s) {event : OutboxEvent}
    (hevent : event ∈ s.shared.store.outbox) (queue : Queue) :
    Unhandled s queue event ∨ ∃ e trace, e.envelope = event.envelope ∧ (∀ x ∈ trace, PoolSpec.Exchanged s x) ∧
      ((∃ c r, HandlerWrites e trace queue c ∧ PoolSpec.Exchanged s ⟨.store c, .ok r⟩) ∨
        NothingToDo e trace queue) := by
  by_cases hunhandled : Unhandled s queue event
  · exact .inl hunhandled
  refine .inr ?_
  simp only [Unhandled, not_forall, not_not] at hunhandled
  obtain ⟨u, hu, deps, e, hjob, hmessage, hsucceeded⟩ := hunhandled
  have hsame : e.envelope = event.envelope := envelope_eq_of_messageID_eq hs
    (cause_mem (fun _ _ h => h.1.1) hs hu hjob) (List.mem_map_of_mem hevent) hmessage
  have hfollows := PoolSpec.follows_of_reachable (P := sagaSpec memoryOutboxStore svc)
    (K := Job.contract svc) Job.program_follows hs hu
  rw [show u.prog = .ret (.ok ()) from hsucceeded] at hfollows
  rcases hfollows.returns with ⟨x, hx, hcommitted⟩ | ⟨_, _, _, hjob', _, hnothing⟩
  · obtain ⟨trace, c, r, hacted, rfl⟩ := acted_of_mem hs hu hx hcommitted
    have hwrites := hacted.writes
    rw [hjob] at hwrites
    cases hwrites with
    | handle _ hwrite =>
      exact ⟨e, trace, hsame, fun y hy => ⟨u, hu, hacted.subset hy⟩, .inl ⟨c, r, hwrite, u, hu, hx⟩⟩
  · rw [hjob] at hjob'
    cases hjob'
    exact ⟨e, u.trace, hsame, fun y hy => ⟨u, hu, hy⟩, .inr hnothing⟩

theorem exists_event (h : HasEvent s orderID eventType) : ∃ event ∈ s.shared.store.outbox,
    event.orderID = orderID ∧ event.eventType = eventType := by
  obtain ⟨env, henv, horder, htype⟩ := h
  obtain ⟨event, hevent, rfl⟩ := List.mem_map.mp henv
  exact ⟨event, hevent, horder, htype⟩

theorem not_exchanged_of_lt (hs : (memorySaga svc).Reachable cond s) (horder : orderOf s orderID = some order)
    {r : c.Result} {proj : Projection} (heffect : c.effect = some (orderID, proj))
    (htarget : proj.target = some status) (hlt : order.status.rank < status.rank) :
    ¬ PoolSpec.Exchanged s ⟨.store c, .ok r⟩ := by
  intro hx
  have hle := rank_le_of_shown hs hx (by rw [shown_of_effect heffect, htarget]; rfl) horder
  omega

/-- A failure that was announced waits for its compensation while the order can still be moved. -/
theorem waiting_compensation (hs : (memorySaga svc).Reachable FlowingRun s) (horder : orderOf s orderID = some order)
    {action : String} (hplan : compensationPlan eventType = .ok (status, action))
    (hhas : HasEvent s orderID eventType) (htarget : canTransitionOrderStatus order.status status = true)
    (hlt : order.status.rank < status.rank) : ∃ queue event, Waiting s orderID queue event := by
  obtain ⟨event, hevent, rfl, rfl⟩ := exists_event hhas
  have hmoves : status ≠ order.status := by
    rintro rfl
    exact absurd hlt (lt_irrefl _)
  have hbound : Queue.ordersCompensate.consumes event.eventType = true := by
    rcases expects_compensate (by rw [Queue.expects, hplan]; rfl) with h | h | h <;> rw [h] <;> decide
  refine ⟨.ordersCompensate, event, hevent, rfl, hbound, ?_,
    recordCompensation_advances hplan (identity_of_mem (fun _ _ h => h.2.1) hs hevent) horder htarget hmoves⟩
  rcases unhandled_or hs hevent .ordersCompensate with hunhandled | ⟨e, trace, hsame, _, hdone⟩
  · exact hunhandled
  · exfalso
    have horder' : orderOf s e.orderID = some order := by
      rw [show e.orderID = event.orderID from congrArg Envelope.orderID hsame, horder]
    have htype : e.eventType = event.eventType := congrArg Envelope.eventType hsame
    rcases hdone with ⟨c, r, hwrite, hx⟩ | hnothing
    · cases hwrite
      refine not_exchanged_of_lt hs horder' rfl rfl ?_ hx
      rwa [htype, ← compensationPlan_target hplan]
    · cases hnothing

theorem validateEvent_of_mem (hs : (memorySaga svc).Reachable FlowingRun s) {event : OutboxEvent}
    (hevent : event ∈ s.shared.store.outbox) : validateEvent event event.eventType = .ok () := by
  simp [validateEvent, identity_of_mem (fun _ _ h => h.2.1) hs hevent]

/-- An open order waits for the queue its status announces, unless that queue has acted already or has
found nothing to do. -/
theorem waiting_or (hs : (memorySaga svc).Reachable FlowingRun s) (horder : orderOf s orderID = some order)
    (hannounce : order.status.announcement = some eventType) (queue : Queue)
    (hbound : queue.consumes eventType = true)
    (hadvances : ∀ event, validateEvent event eventType = .ok () → event.orderID = orderID →
      Advances s.shared.store queue event) :
    (∃ queue event, Waiting s orderID queue event) ∨ ∃ e trace, e.orderID = orderID ∧
      (∀ x ∈ trace, PoolSpec.Exchanged s x) ∧
      ((∃ c r, HandlerWrites e trace queue c ∧ PoolSpec.Exchanged s ⟨.store c, .ok r⟩) ∨
        NothingToDo e trace queue) := by
  obtain ⟨event, hevent, rfl, rfl⟩ := exists_event (announced hs horder hannounce)
  rcases unhandled_or hs hevent queue with hunhandled | ⟨e, trace, hsame, hmade, hdone⟩
  · exact .inl ⟨queue, event, hevent, rfl, hbound, hunhandled,
      hadvances event (validateEvent_of_mem hs hevent) rfl⟩
  · exact .inr ⟨e, trace, congrArg Envelope.orderID hsame, hmade, hdone⟩

theorem pending_waits (hs : (memorySaga svc).Reachable FlowingRun s)
    (horder : orderOf s orderID = some order) (hstatus : order.status = .pendingFulfillment) :
    ∃ queue event, Waiting s orderID queue event := by
  rcases waiting_or hs horder (by rw [hstatus]; rfl) .inventoryReserve (by decide)
      (fun event hvalid hid => reserveInventory_advances hvalid (hid ▸ horder) hstatus) with
    hwaiting | ⟨e, trace, rfl, _, ⟨c, r, hwrite, hx⟩ | hnothing⟩
  · exact hwaiting
  · cases hwrite with
    | inventoryReserved =>
      exact absurd hx (not_exchanged_of_lt hs horder rfl rfl (by rw [hstatus]; decide))
    | inventoryRejected =>
      exact waiting_compensation hs horder rfl (hasEvent_of_exchanged hs hx rfl rfl rfl)
        (by rw [hstatus]; rfl) (by rw [hstatus]; decide)
  · cases hnothing

theorem reserved_waits (hs : (memorySaga svc).Reachable FlowingRun s)
    (horder : orderOf s orderID = some order) (hstatus : order.status = .inventoryReserved) :
    ∃ queue event, Waiting s orderID queue event := by
  rcases waiting_or hs horder (by rw [hstatus]; rfl) .paymentsAuthorize (by decide)
      (fun event hvalid hid => authorizePayment_advances hvalid (hid ▸ horder) hstatus) with
    hwaiting | ⟨e, trace, rfl, _, ⟨c, r, hwrite, hx⟩ | hnothing⟩
  · exact hwaiting
  · cases hwrite with
    | paymentAuthorized =>
      exact absurd hx (not_exchanged_of_lt hs horder rfl rfl (by rw [hstatus]; decide))
    | paymentFailed =>
      exact waiting_compensation hs horder rfl (hasEvent_of_exchanged hs hx rfl rfl rfl)
        (by rw [hstatus]; rfl) (by rw [hstatus]; decide)
  · cases hnothing

theorem authorized_waits (hs : (memorySaga svc).Reachable FlowingRun s)
    (horder : orderOf s orderID = some order) (hstatus : order.status = .paymentAuthorized) :
    ∃ queue event, Waiting s orderID queue event := by
  rcases waiting_or hs horder (by rw [hstatus]; rfl) .shipmentsCreate (by decide)
      (fun event hvalid hid => createShipment_advances hvalid (hid ▸ horder) hstatus) with
    hwaiting | ⟨e, trace, rfl, _, ⟨c, r, hwrite, hx⟩ | hnothing⟩
  · exact hwaiting
  · cases hwrite with
    | shipmentCreated =>
      exact absurd hx (not_exchanged_of_lt hs horder rfl rfl (by rw [hstatus]; decide))
    | shipmentFailed =>
      exact waiting_compensation hs horder rfl (hasEvent_of_exchanged hs hx rfl rfl rfl)
        (by rw [hstatus]; rfl) (by rw [hstatus]; decide)
  · cases hnothing

theorem not_saw_of_lt (hs : (memorySaga svc).Reachable cond s) (horder : orderOf s orderID = some order)
    {trace : SagaTrace} (hmade : ∀ x ∈ trace, PoolSpec.Exchanged s x) {seen : Order}
    (hlt : order.status.rank < seen.status.rank) : ¬ Saw trace orderID seen := by
  intro hsaw
  have hle := rank_le_of_shown hs (hmade _ hsaw) rfl horder
  omega

theorem shipped_waits (hs : (memorySaga svc).Reachable FlowingRun s)
    (horder : orderOf s orderID = some order) (hstatus : order.status = .shipmentCreated) :
    ∃ queue event, Waiting s orderID queue event := by
  rcases waiting_or hs horder (by rw [hstatus]; rfl) .ordersFinalize (by decide)
      (fun event hvalid hid => completeOrder_advances hvalid (hid ▸ horder) hstatus) with
    hwaiting | ⟨e, trace, rfl, hmade, ⟨c, r, hwrite, hx⟩ | hnothing⟩
  · exact hwaiting
  · cases hwrite with
    | orderCompleted =>
      exact absurd hx (not_exchanged_of_lt hs horder rfl rfl (by rw [hstatus]; decide))
  · cases hnothing with
    | @finalize seen hsaw hseen =>
      refine absurd hsaw (not_saw_of_lt hs horder hmade ?_)
      simp only [List.mem_cons, List.not_mem_nil, or_false] at hseen
      rcases hseen with h | h | h | h <;> rw [hstatus, h] <;> decide

theorem cancelling_waits (hs : (memorySaga svc).Reachable FlowingRun s)
    (horder : orderOf s orderID = some order) (hstatus : order.status = .cancellationPending) :
    ∃ queue event, Waiting s orderID queue event := by
  rcases waiting_or hs horder (by rw [hstatus]; rfl) .ordersCancel (by decide)
      (fun event hvalid hid => cancelOrder_advances hvalid (hid ▸ horder) hstatus) with
    hwaiting | ⟨e, trace, rfl, hmade, ⟨c, r, hwrite, hx⟩ | hnothing⟩
  · exact hwaiting
  · cases hwrite with
    | manualReview =>
      exact absurd hx (not_exchanged_of_lt hs horder rfl rfl (by rw [hstatus]; decide))
    | orderCancelled =>
      exact absurd hx (not_exchanged_of_lt hs horder rfl rfl (by rw [hstatus]; decide))
  · cases hnothing with
    | @cancel seen hsaw hseen =>
      refine absurd hsaw (not_saw_of_lt hs horder hmade ?_)
      simp only [List.mem_cons, List.not_mem_nil, or_false] at hseen
      rcases hseen with h | h <;> rw [hstatus, h] <;> decide

/-! ### No order gets stuck -/

def openStatuses : List OrderStatus :=
  [.pendingFulfillment, .inventoryReserved, .paymentAuthorized, .shipmentCreated, .cancellationPending]

/-- **No order gets stuck.** In every run whose requests carry a correlation id and in which no failed
shipment is compensated before a cancellation is requested, every open order has an unhandled event
whose handler takes it further, however the providers answer. -/
theorem order_not_stuck (svc : Service) {s : MemorySaga} (hs : (memorySaga svc).Reachable FlowingRun s)
    {orderID : String} {order : Order} (horder : orderOf s orderID = some order)
    (hopen : order.status ∈ openStatuses) : ∃ queue event, Waiting s orderID queue event := by
  simp only [openStatuses, List.mem_cons, List.not_mem_nil, or_false] at hopen
  rcases hopen with hstatus | hstatus | hstatus | hstatus | hstatus
  · exact pending_waits hs horder hstatus
  · exact reserved_waits hs horder hstatus
  · exact authorized_waits hs horder hstatus
  · exact shipped_waits hs horder hstatus
  · exact cancelling_waits hs horder hstatus

instance : (l : SagaLabel) → Decidable (Consumes l)
  | .spawn (.handle queue _ event) => inferInstanceAs (Decidable (queue.consumes event.eventType = true))
  | .spawn (.createOrder ..) | .spawn (.cancelOrder ..) | .answer .. => isTrue trivial

def consumingCheck (s : MemorySaga) (l : SagaLabel) (_ : MemorySaga) : Bool :=
  decide (FromOutbox memoryOutboxStore s l ∧ Consumes l)

theorem consumingCheck_decides (svc : Service) : Decides (memorySaga svc) consumingCheck ConsumingRun := by
  intro s l t _ h
  obtain ⟨hfrom, hconsumes⟩ := of_decide_eq_true h
  exact ⟨hfrom, hconsumes⟩

def flowingCheck (s : MemorySaga) (l : SagaLabel) (t : MemorySaga) : Bool :=
  consumingCheck s l t && decide (Correlated l) && !unannounced s l

theorem flowingCheck_decides (svc : Service) : Decides (memorySaga svc) flowingCheck FlowingRun := by
  intro s l t hstep h
  rw [flowingCheck, Bool.and_eq_true, Bool.and_eq_true, Bool.not_eq_true'] at h
  exact ⟨consumingCheck_decides svc s l t hstep h.1.1, of_decide_eq_true h.1.2, h.2⟩

/-- An order whose stock is reserved waits for its payment. -/
theorem order_not_stuck_reserved : ∃ s, (memorySaga sampleService).Reachable FlowingRun s ∧
    (orderOf s "ord_1").map Order.status = some .inventoryReserved ∧
    ∃ queue event, Waiting s "ord_1" queue event := by
  obtain ⟨s, hs, hstatus⟩ := (memorySimulator sampleService).exists_reachable
    (Q := fun s => (orderOf s "ord_1").map Order.status = some .inventoryReserved)
    (flowingCheck_decides sampleService) reachable_emptySaga (createActs ++ reserveActs) (by decide)
  obtain ⟨order, horder, hreserved⟩ := Option.map_eq_some_iff.mp hstatus
  exact ⟨s, hs, hstatus, order_not_stuck sampleService hs horder (by rw [hreserved]; decide)⟩

/-- Every queue bound to an event of the order has handled it, notifications apart. -/
def settled (s : MemorySaga) (orderID : String) : Bool :=
  s.shared.store.outbox.all fun event => event.orderID != orderID ||
    (boundQueues (routingKey event.eventType)).all fun queue => queue == .notificationsEmail ||
      s.threads.any fun u => decide (Succeeded u) &&
        match u.job with
        | .handle queue' _ e => queue' = queue && e.messageID = event.messageID
        | _ => false

theorem not_waiting_of_settled (h : settled s orderID = true) (queue : Queue) (event : OutboxEvent) :
    ¬ Waiting s orderID queue event := by
  intro hwaiting
  have hbound : queue ∈ boundQueues (routingKey event.eventType) := by
    simpa [Queue.consumes] using hwaiting.bound
  simp only [settled, List.all_eq_true, Bool.or_eq_true, bne_iff_ne, beq_iff_eq, List.any_eq_true,
    Bool.and_eq_true, decide_eq_true_eq] at h
  rcases h event hwaiting.mem with hother | hqueues
  · exact hother hwaiting.order
  rcases hqueues queue hbound with rfl | ⟨u, hu, hsucceeded, hjob⟩
  · exact queueNotification_not_advances hwaiting.advances
  · cases hu' : u.job with
    | handle queue' deps e =>
      rw [hu'] at hjob
      simp only [Bool.and_eq_true, decide_eq_true_eq] at hjob
      exact hwaiting.unhandled u hu deps e (hjob.1 ▸ hu') hjob.2 hsucceeded
    | _ => simp [hu'] at hjob

/-- The shipment provider refuses and the failure is compensated: the order waits for a cancellation
that no event asks for. -/
theorem compensated_shipment_is_stuck : ∃ s, (memorySaga sampleService).Reachable ConsumingRun s ∧
    (orderOf s "ord_1").map Order.status = some .cancellationPending ∧
    ∀ queue event, ¬ Waiting s "ord_1" queue event := by
  obtain ⟨s, hs, hstatus, hsettled⟩ := (memorySimulator sampleService).exists_reachable
    (Q := fun s => (orderOf s "ord_1").map Order.status = some .cancellationPending ∧
      settled s "ord_1" = true)
    (consumingCheck_decides sampleService) reachable_emptySaga
    (createActs ++ reserveActs ++ authorizeActs ++ [.handle .shipmentsCreate allProviders 2,
      .reply 3 (.time 4), .reply 3 (.shipment (.error (.plain "carrier offline"))), .reply 3 (.id "4"),
      .store 3, .handle .ordersCompensate allProviders 3, .reply 4 (.time 5), .store 4]) (by decide)
  exact ⟨s, hs, hstatus, not_waiting_of_settled hsettled⟩

end FulfillHub
