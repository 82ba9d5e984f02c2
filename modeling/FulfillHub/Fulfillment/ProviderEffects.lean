import FulfillHub.Fulfillment.OrderLifecycle

/-!
# Side effects at the providers

A payment or shipment worker asks its provider before the store validates the move. When runs of one
message exclude each other, the store can only refuse a run that its provider has accepted because the
order is being cancelled: the order is in the stage the worker acts on, and no other run of that stage
can have acted. So whatever a provider has accepted is recorded, unless a cancellation has overtaken
the worker.
-/

namespace FulfillHub

open Interaction

variable {svc : Service} {cond : MemorySaga → SagaLabel → Prop} {s t : MemorySaga} {l : SagaLabel}
  {orderID : String} {order : Order} {p : Phase} {x : Exchange Call.Answer} {trace : SagaTrace} {u : SagaThread}
  {c : StoreCall} {proj : Projection}

/-! ### What a provider has accepted -/

/-- The exchange is this queue's provider accepting this event. -/
def Accepts (queue : Queue) (event : OutboxEvent) (x : Exchange Call.Answer) : Prop :=
  queue = .paymentsAuthorize ∧ (∃ answer, x = ⟨.port (.authorizePayment event), .ok answer⟩) ∨
    queue = .shipmentsCreate ∧ ∃ answer, x = ⟨.port (.createShipment event), .ok answer⟩

theorem accepted_cases (h : accepted x = true) :
    (∃ event answer, x = ⟨.port (.authorizePayment event), .ok answer⟩) ∨
      ∃ event answer, x = ⟨.port (.createShipment event), .ok answer⟩ := by
  obtain ⟨c | c, r⟩ := x
  · simp [accepted] at h
  · cases c with
    | authorizePayment event =>
      cases r with
      | ok answer => exact .inl ⟨event, answer, rfl⟩
      | error err => simp [accepted] at h
    | createShipment event =>
      cases r with
      | ok answer => exact .inr ⟨event, answer, rfl⟩
      | error err => simp [accepted] at h
    | clock => simp [accepted] at h
    | newID => simp [accepted] at h
    | reserveInventory => simp [accepted] at h

theorem handle_of_mayAsk {job : Job} {c : PortCall} (h : job.mayAsk trace c) (hclock : c ≠ .clock)
    (hid : ∀ kind, c ≠ .newID kind) :
    ∃ queue deps event, job = .handle queue deps event ∧ MayAsk queue event trace c := by
  have hneither : ¬ (c = .clock ∨ ∃ kind, c = .newID kind) := by
    rintro (hc | ⟨kind, hc⟩)
    · exact hclock hc
    · exact hid kind hc
  cases job with
  | createOrder => exact absurd h hneither
  | cancelOrder => exact absurd h hneither
  | handle queue deps event => exact ⟨queue, deps, event, rfl, h⟩

/-- A run whose provider has accepted is a payment or shipment worker's, and asked right after the
clock. -/
theorem trace_of_accepted (hs : (memorySaga svc).Reachable cond s) (hu : u ∈ s.threads) (hx : x ∈ u.trace)
    (haccepted : accepted x = true) :
    ∃ queue deps event now rest, u.job = .handle queue deps event ∧ Accepts queue event x ∧
      u.trace = ⟨.port .clock, now⟩ :: x :: rest := by
  obtain ⟨before, after, heq, _, hallowed⟩ := PoolSpec.allowed_of_reachable
    (P := sagaSpec memoryOutboxStore svc) (K := Job.contract svc) Job.program_follows hs hu hx
  have hasked : ∀ c : PortCall, x.1 = .port c → u.job.mayAsk before c := by
    intro c hc
    rw [hc] at hallowed
    exact hallowed
  rcases accepted_cases haccepted with ⟨event, answer, rfl⟩ | ⟨event, answer, rfl⟩
  · obtain ⟨queue, deps, event', hjob, hask⟩ := handle_of_mayAsk (hasked _ rfl) (by simp) (by simp)
    obtain ⟨rfl, rfl, now, rfl⟩ := hask
    exact ⟨_, deps, _, now, after, hjob, .inl ⟨rfl, answer, rfl⟩, heq⟩
  · obtain ⟨queue, deps, event', hjob, hask⟩ := handle_of_mayAsk (hasked _ rfl) (by simp) (by simp)
    obtain ⟨rfl, rfl, now, rfl⟩ := hask
    exact ⟨_, deps, _, now, after, hjob, .inr ⟨rfl, answer, rfl⟩, heq⟩

theorem accepted_unique (hs : (memorySaga svc).Reachable cond s) (hu : u ∈ s.threads) {y : Exchange Call.Answer}
    (hx : x ∈ u.trace) (hy : y ∈ u.trace) (hax : accepted x = true) (hay : accepted y = true) : x = y := by
  obtain ⟨_, _, _, now, rest, _, _, heq⟩ := trace_of_accepted hs hu hx hax
  obtain ⟨_, _, _, now', rest', _, _, heq'⟩ := trace_of_accepted hs hu hy hay
  rw [heq] at heq'
  exact (List.cons.inj (List.cons.inj heq').2).1

/-! ### Runs that no cancellation overtakes -/

/-- A run that its provider has accepted acts on an order that is being cancelled. -/
def overtaken (s : MemorySaga) : SagaLabel → Bool
  | .answer i (.store c) _ => (s.threads[i]?).any fun u => u.trace.any accepted && c.effect.any fun x =>
    (orderOf s x.1).any fun order => order.status = .cancellationPending || order.status = .cancelled
  | _ => false

/-- Handlers take events from the outbox, one run per event and queue at a time. -/
def ExclusiveRun (s : MemorySaga) (l : SagaLabel) : Prop := FromOutbox memoryOutboxStore s l ∧ Exclusive s l

def UnhinderedRun (s : MemorySaga) (l : SagaLabel) : Prop := ExclusiveRun s l ∧ overtaken s l = false

/-- The same runs, with what follows from their exclusion. -/
def UnhinderedOnce (s : MemorySaga) (l : SagaLabel) : Prop := UnhinderedRun s l ∧ AtMostOnce s l

theorem unhinderedOnce (hs : (memorySaga svc).Reachable UnhinderedRun s) :
    (memorySaga svc).Reachable UnhinderedOnce s :=
  hs.strengthen fun _ _ _ hs _ _ => atMostOnce_of_exclusive (fun _ _ h => h.1.2) hs

theorem unhindered_disciplined : Disciplined UnhinderedOnce := ⟨fun _ _ h => h.1.1.1, fun _ _ h => h.2⟩

/-- While a worker of a forward stage has not returned, its order has no outcome of the stage. -/
theorem no_outcome_of_pending (hs : (memorySaga svc).Reachable UnhinderedOnce s) {queue : Queue}
    (hqueue : queue ∈ forwardQueues) {i : Nat} {deps : Dependencies} {event : OutboxEvent} {c : Call}
    {next : c.Answer → Saga (Except Error Unit)}
    (hthread : s.threads[i]? = some ⟨.handle queue deps event, trace, .call c next⟩) (hvalid : Validated queue event)
    {eventType : EventType} (htype : eventType ∈ queue.outcomes) :
    ¬ HasEvent s event.orderID eventType := by
  rintro ⟨env, henv, horder, rfl⟩
  obtain ⟨j, v, _, _, _, _, deps', event', hv, hjob, hacted, hvalid', _, _, _, horder', _⟩ :=
    writer_of_outcome hs henv htype
  have hfrom := unhindered_disciplined.fromOutbox
  have hcause : event.envelope = event'.envelope :=
    oneCause hfrom unhindered_disciplined.atMostOnce hs hqueue _
      (cause_mem hfrom hs (PoolSpec.mem_threads.mpr ⟨i, hthread⟩) rfl) _
      (cause_mem hfrom hs (PoolSpec.mem_threads.mpr ⟨j, hv⟩) hjob) (horder.symm.trans horder')
      hvalid.expected hvalid'.expected
  have hij := unfailed_unique (fun _ _ h => h.1.1.2) hs hthread hv
    (by rw [hjob]; exact ⟨rfl, congrArg Envelope.messageID hcause⟩)
    (by rintro ⟨err, herr⟩; cases herr) (not_failed_of_succeeded hacted.succeeded)
  subst hij
  rw [hthread] at hv
  cases hv
  cases hacted.succeeded

theorem status_of_accepted (hs : (memorySaga svc).Reachable UnhinderedOnce s) {queue : Queue} {i : Nat}
    {deps : Dependencies} {event : OutboxEvent} {c : Call} {next : c.Answer → Saga (Except Error Unit)}
    (hthread : s.threads[i]? = some ⟨.handle queue deps event, trace, .call c next⟩) (hvalid : Validated queue event)
    (horder : orderOf s event.orderID = some order)
    (hcancel : ¬ (order.status = .cancellationPending ∨ order.status = .cancelled)) :
    (queue = .paymentsAuthorize → order.status = .inventoryReserved) ∧
      (queue = .shipmentsCreate → order.status = .paymentAuthorized) := by
  obtain ⟨p, hp, hrep⟩ := (simulated_of_reachable unhindered_disciplined hs).phases _ _ horder
  have hmem := cause_mem unhindered_disciplined.fromOutbox hs (PoolSpec.mem_threads.mpr ⟨i, hthread⟩) rfl
  have hcause : HasEvent s event.orderID event.eventType := ⟨_, hmem, rfl, rfl⟩
  have hnone : queue ∈ forwardQueues → ∀ eventType ∈ stageEventTypes, eventType ∈ queue.outcomes →
      eventType ∉ p.stage.events := fun hqueue eventType hstage htype => by
    rw [← hrep.events eventType hstage]
    exact no_outcome_of_pending hs hqueue hthread hvalid htype
  have hstatus := hp.status
  have hexpected := hvalid.expected
  constructor
  · rintro rfl
    rw [show event.eventType = .inventoryReserved by simpa [Queue.expects] using hexpected] at hcause
    rw [Stage.eq_reserved ((hrep.events _ (by decide)).mp hcause)
      (hnone (by decide) _ (by decide) (by decide)) (hnone (by decide) _ (by decide) (by decide)),
      ← hrep.status] at hstatus
    simp only [Stage.statuses, List.mem_cons, List.not_mem_nil, or_false] at hstatus
    exact hstatus.resolve_right hcancel
  · rintro rfl
    rw [show event.eventType = .paymentAuthorized by simpa [Queue.expects] using hexpected] at hcause
    rw [Stage.eq_authorized ((hrep.events _ (by decide)).mp hcause)
      (hnone (by decide) _ (by decide) (by decide)) (hnone (by decide) _ (by decide) (by decide)),
      ← hrep.status] at hstatus
    simp only [Stage.statuses, List.mem_cons, List.not_mem_nil, or_false] at hstatus
    exact hstatus.resolve_right hcancel

/-- **The store does not refuse what a provider has accepted.** -/
theorem not_refused (hs : (memorySaga svc).Reachable UnhinderedOnce s) {i : Nat} {err : Error}
    (hstep : (sagaSpec memoryOutboxStore svc).Step s (.answer i (.store c) (.error err)) t)
    (hl : UnhinderedOnce s (.answer i (.store c) (.error err))) (hread : c.isRead = false)
    (hu : s.threads[i]? = some u) (hx : x ∈ u.trace) (haccepted : accepted x = true) : False := by
  obtain ⟨job, trace, next, hthread, hwrites, _, hanswer, _⟩ := writes_of_step hs hstep hread
  rw [hthread] at hu
  cases hu
  have hmem := PoolSpec.mem_threads.mpr ⟨i, hthread⟩
  obtain ⟨queue, deps, event, _, _, hjob, haccepts, _⟩ := trace_of_accepted hs hmem hx haccepted
  subst hjob
  obtain ⟨order, horder⟩ := order_of_event hs (cause_mem unhindered_disciplined.fromOutbox hs hmem rfl)
  have hloud : ¬ Never accepted trace := fun h => by simp [h x hx] at haccepted
  have hfree : ∀ proj, c.effect = some (event.orderID, proj) →
      ¬ (order.status = .cancellationPending ∨ order.status = .cancelled) := by
    intro proj heffect hcancel
    have hovertaken := hl.1.2
    have hany : trace.any accepted = true := List.any_eq_true.mpr ⟨x, hx, haccepted⟩
    rw [overtaken, hthread, heffect] at hovertaken
    simp [hany, show orderOf s event.orderID = some order from horder] at hovertaken
    tauto
  have hok : ∀ proj, c.effect = some (event.orderID, proj) →
      ¬ ∀ status, proj.target = some status → canTransitionOrderStatus order.status status = true := by
    intro proj heffect htarget
    obtain ⟨r, hr⟩ := MemoryStore.semantics_eq_ok heffect horder htarget
    cases hr.symm.trans hanswer
  cases hwrites with
  | handle hvalid hwrite =>
    have hstatus := status_of_accepted hs hthread hvalid horder
    rcases haccepts with ⟨rfl, _⟩ | ⟨rfl, _⟩
    · cases hwrite with
      | paymentFailed _ hrefused => exact hloud hrefused
      | paymentAuthorized =>
        refine hok _ rfl fun status htarget => ?_
        cases htarget
        rw [(hstatus (hfree _ rfl)).1 rfl]
        rfl
    · cases hwrite with
      | shipmentFailed _ hrefused => exact hloud hrefused
      | shipmentCreated =>
        refine hok _ rfl fun status htarget => ?_
        cases htarget
        rw [(hstatus (hfree _ rfl)).2 rfl]
        rfl

theorem unrefused (hs : (memorySaga svc).Reachable UnhinderedOnce s) (hu : u ∈ s.threads) (hx : x ∈ u.trace)
    (haccepted : accepted x = true) {err : Error} (hread : c.isRead = false) :
    (⟨.store c, .error err⟩ : Exchange Call.Answer) ∉ u.trace := by
  refine Lts.Reachable.invariant (P := fun s => ∀ u ∈ s.threads, ∀ x ∈ u.trace, accepted x = true →
    (⟨.store c, .error err⟩ : Exchange Call.Answer) ∉ u.trace) ?_ ?_ hs u hu x hx haccepted
  · rintro s ⟨_, hnil⟩ u hu
    simp [hnil] at hu
  · intro s l t hreach ih hstep hl u hu x hx haccepted hrefused
    obtain ⟨_, _, _, now, rest, _, _, htrace⟩ := trace_of_accepted (.step hreach hstep hl) hu hx haccepted
    obtain ⟨j, hj⟩ := PoolSpec.mem_threads.mp hu
    rcases hstep.thread_cases hj with hold | ⟨job, _, _, rfl⟩ | ⟨job, trace, c', next, r, rfl, hold, _, rfl⟩
    · exact ih u (PoolSpec.mem_threads.mpr ⟨j, hold⟩) x hx haccepted hrefused
    · simp [PoolSpec.fresh] at hx
    · have hmem := PoolSpec.mem_threads.mpr ⟨j, hold⟩
      rcases List.mem_append.mp hrefused with hrefused | hrefused
      · -- the refusal is old, so the provider's answer, second in the trace, is old as well
        cases trace with
        | nil => simp at hrefused
        | cons first others =>
          cases others with
          | nil =>
            have hfirst : first = ⟨.port .clock, now⟩ := (List.cons.inj htrace).1
            simp [hfirst] at hrefused
          | cons second others =>
            have hsecond : second = x := (List.cons.inj (List.cons.inj htrace).2).1
            exact ih _ hmem x (by simp [hsecond]) haccepted hrefused
      · cases List.mem_singleton.mp hrefused
        rcases List.mem_append.mp hx with hx | hx
        · exact not_refused hreach hstep hl hread hold hx haccepted
        · rw [List.mem_singleton.mp hx] at haccepted
          simp [accepted] at haccepted

/-! ### What is recorded stays recorded -/

/-- What recording a provider's answer leaves on the order. -/
def StoreCall.leaves : StoreCall → Order → Prop
  | .projector (.recordPaymentAuthorized _ _ payment _), order =>
    order.payment.map Payment.authorizationID = some payment.authorizationID
  | .projector (.recordShipmentCreated _ _ shipment _), order => order.shipment = some shipment
  | _, _ => True

theorem paymentWithProvider_authorization (order : Order) (payment : Payment) :
    (order.paymentWithProvider payment).authorizationID = payment.authorizationID := by
  unfold Order.paymentWithProvider
  split_ifs
  · cases order.payment <;> rfl
  · rfl

theorem StoreCall.leaves_update (heffect : c.effect = some (orderID, proj)) (order : Order) :
    c.leaves (proj.update order) := by
  cases c with
  | projector c =>
    cases heffect
    cases c with
    | recordPaymentAuthorized source next payment audit =>
      exact congrArg some (paymentWithProvider_authorization order payment)
    | recordShipmentCreated => rfl
    | _ => trivial
  | _ => trivial

theorem StoreCall.leaves_of_move {c' : StoreCall} {m : Move}
    (hauthorized : c.move = some .authorize → .paymentAuthorized ∈ p.stage.events)
    (hshipped : c.move = some .ship → .shipmentCreated ∈ p.stage.events) (hguard : m.Guard p)
    (hmake : MakesMove c' proj m) (h : c.leaves order) : c.leaves (proj.update order) := by
  cases c with
  | projector c =>
    cases c with
    | recordPaymentAuthorized =>
      refine (hmake.authorization order ?_ ?_).trans h <;> rintro rfl <;>
        simp [show p.stage = .reserved from hguard, Stage.events, StoreCall.move] at hauthorized
    | recordShipmentCreated =>
      refine (hmake.shipment order ?_ ?_).trans h <;> rintro rfl <;>
        simp [show p.stage = .authorized from hguard, Stage.events, StoreCall.move] at hshipped
    | _ => trivial
  | _ => trivial

/-- **What was recorded is on the order**, in every later state. -/
theorem recorded_of_exchanged (hcond : Disciplined cond) (hs : (memorySaga svc).Reachable cond s) {r : c.Result}
    (hx : PoolSpec.Exchanged s ⟨.store c, .ok r⟩) (heffect : c.effect = some (orderID, proj)) :
    ∃ order, orderOf s orderID = some order ∧ c.leaves order := by
  refine Lts.Reachable.invariant (P := fun s => PoolSpec.Exchanged s ⟨.store c, .ok r⟩ →
    ∃ order, orderOf s orderID = some order ∧ c.leaves order) ?_ ?_ hs hx
  · rintro s ⟨_, hnil⟩ ⟨u, hu, _⟩
    simp [hnil] at hu
  · intro s l t hreach ih hstep hl hx
    rcases hstep.exchanged_iff.mp hx with hx | ⟨i, rfl⟩
    · obtain ⟨order, horder, hleaves⟩ := ih hx
      have hsim := simulated_of_reachable hcond hreach
      obtain ⟨p, hp, hrep⟩ := hsim.phases orderID order horder
      cases order_step hcond hreach hstep hl hsim.reviews horder hrep with
      | same horder' _ _ => exact ⟨order, horder', hleaves⟩
      | moved i c' r' job trace proj' m _ _ _ _ hmake hmove horder' _ =>
        refine ⟨_, horder', StoreCall.leaves_of_move (fun hc => ?_) (fun hc => ?_) hmove.guarded hmake hleaves⟩
        · exact (hrep.events _ (by decide)).mp (hasEvent_of_exchanged hreach hx heffect hc rfl)
        · exact (hrep.events _ (by decide)).mp (hasEvent_of_exchanged hreach hx heffect hc rfl)
    · obtain ⟨order, _, horder'⟩ := orderOf_of_success hstep heffect
      exact ⟨_, horder', StoreCall.leaves_update heffect order⟩

/-! ### No orphans -/

/-- A provider's acceptance ends up on the order: a finished run in whose course a payment was
authorized or a shipment booked has reported success, and the order carries the authorization or the
booking. -/
structure NoOrphans (s : MemorySaga) : Prop where
  payment : ∀ u ∈ s.threads, ∀ event answer result,
    ⟨.port (.authorizePayment event), .ok answer⟩ ∈ u.trace → u.prog = .ret result → result = .ok () ∧
      HasEvent s event.orderID .paymentAuthorized ∧ ∃ order payment, orderOf s event.orderID = some order ∧
        order.payment = some payment ∧
        (answer.authorizationID ≠ "" → payment.authorizationID = answer.authorizationID)
  shipment : ∀ u ∈ s.threads, ∀ event answer result,
    ⟨.port (.createShipment event), .ok answer⟩ ∈ u.trace → u.prog = .ret result → result = .ok () ∧
      HasEvent s event.orderID .shipmentCreated ∧ ∃ order shipment, orderOf s event.orderID = some order ∧
        order.shipment = some shipment ∧
        (answer.shipmentID ≠ "" → shipment.shipmentID = answer.shipmentID)

theorem acted_of_accepted (hs : (memorySaga svc).Reachable UnhinderedOnce s) (hu : u ∈ s.threads) (hx : x ∈ u.trace)
    (haccepted : accepted x = true) {result : Except Error Unit} (hret : u.prog = .ret result) :
    result = .ok () ∧ ∃ trace c r, Acted svc u trace c r ∧ x ∈ trace := by
  have hfollows := PoolSpec.follows_of_reachable (P := sagaSpec memoryOutboxStore svc)
    (K := Job.contract svc) Job.program_follows hs hu
  rw [hret] at hfollows
  have hreturns := hfollows.returns
  obtain ⟨queue, deps, event, _, _, hjob, haccepts, _⟩ := trace_of_accepted hs hu hx haccepted
  cases result with
  | error err =>
    obtain ⟨_, hnone | ⟨c, err, hwrites, hrefused⟩⟩ := hreturns
    · simp [hnone x hx] at haccepted
    · exact absurd hrefused (unrefused hs hu hx haccepted hwrites.not_read)
  | ok =>
    refine ⟨rfl, ?_⟩
    rcases hreturns with ⟨y, hy, hcommitted⟩ | ⟨_, _, _, hjob', _, hnothing⟩
    · obtain ⟨trace, c, r, hacted, rfl⟩ := acted_of_mem hs hu hy hcommitted
      refine ⟨trace, c, r, hacted, ?_⟩
      rw [hacted.trace_eq, List.mem_append, List.mem_singleton] at hx
      rcases hx with hx | rfl
      · exact hx
      · simp [accepted] at haccepted
    · rw [hjob] at hjob'
      cases hjob'
      rcases haccepts with ⟨rfl, _⟩ | ⟨rfl, _⟩ <;> cases hnothing

/-- **No orphan side effects.** When handlers take events from the outbox, one run per event and queue
at a time, and no cancellation overtakes a run that its provider has accepted, everything the providers
accept is recorded. -/
theorem no_orphan_side_effects (svc : Service) {s : MemorySaga}
    (hs : (memorySaga svc).Reachable UnhinderedRun s) : NoOrphans s := by
  have hs := unhinderedOnce hs
  constructor
  · intro u hu event answer result hx hret
    obtain ⟨hresult, trace, c, r, hacted, hbefore⟩ := acted_of_accepted hs hu hx rfl hret
    obtain ⟨queue, deps, event', _, _, hjob, haccepts, _⟩ := trace_of_accepted hs hu hx rfl
    obtain ⟨rfl, rfl⟩ : queue = .paymentsAuthorize ∧ event' = event := by
      rcases haccepts with ⟨hqueue, _, heq⟩ | ⟨_, _, heq⟩ <;> cases heq
      exact ⟨hqueue, rfl⟩
    have hwrites := hacted.writes
    have hmade : PoolSpec.Exchanged s ⟨.store c, .ok r⟩ := ⟨u, hu, hacted.mem⟩
    rw [hjob] at hwrites
    cases hwrites with
    | handle _ hwrite =>
      cases hwrite with
      | paymentFailed _ hrefused => cases hrefused _ hbefore
      | paymentAuthorized _ hrecord =>
        obtain ⟨order, horder, hleaves⟩ := recorded_of_exchanged unhindered_disciplined hs hmade rfl
        obtain ⟨payment, hpayment, hid⟩ := Option.map_eq_some_iff.mp hleaves
        refine ⟨hresult, hasEvent_of_exchanged hs hmade rfl rfl rfl, order, payment, horder, hpayment, ?_⟩
        rcases hrecord with ⟨answer', hmem, _, hauthorization⟩ | ⟨hrefused, _⟩
        · cases accepted_unique hs hu hx (hacted.subset hmem) rfl rfl
          exact fun hne => hid.trans (hauthorization hne)
        · cases hrefused _ hbefore
  · intro u hu event answer result hx hret
    obtain ⟨hresult, trace, c, r, hacted, hbefore⟩ := acted_of_accepted hs hu hx rfl hret
    obtain ⟨queue, deps, event', _, _, hjob, haccepts, _⟩ := trace_of_accepted hs hu hx rfl
    obtain ⟨rfl, rfl⟩ : queue = .shipmentsCreate ∧ event' = event := by
      rcases haccepts with ⟨_, _, heq⟩ | ⟨hqueue, _, heq⟩ <;> cases heq
      exact ⟨hqueue, rfl⟩
    have hwrites := hacted.writes
    have hmade : PoolSpec.Exchanged s ⟨.store c, .ok r⟩ := ⟨u, hu, hacted.mem⟩
    rw [hjob] at hwrites
    cases hwrites with
    | handle _ hwrite =>
      cases hwrite with
      | shipmentFailed _ hrefused => cases hrefused _ hbefore
      | @shipmentCreated _ _ _ shipment _ hrecord =>
        obtain ⟨order, horder, hleaves⟩ := recorded_of_exchanged unhindered_disciplined hs hmade rfl
        refine ⟨hresult, hasEvent_of_exchanged hs hmade rfl rfl rfl, order, shipment, horder, hleaves, ?_⟩
        rcases hrecord with ⟨answer', hmem, _, hbooking⟩ | ⟨hrefused, _⟩
        · cases accepted_unique hs hu hx (hacted.subset hmem) rfl rfl
          exact hbooking
        · cases hrefused _ hbefore

instance (u : SagaThread) : Decidable (Failed u) :=
  match h : u.prog with
  | .ret (.error err) => isTrue ⟨err, h⟩
  | .ret (.ok ()) => isFalse fun ⟨_, h'⟩ => by cases h.symm.trans h'
  | .call _ _ => isFalse fun ⟨_, h'⟩ => by cases h.symm.trans h'

instance (s : MemorySaga) : (l : SagaLabel) → Decidable (Exclusive s l)
  | .spawn job => inferInstanceAs (Decidable (∀ u ∈ s.threads, job.sameDelivery u.job → Failed u))
  | .answer .. => isTrue trivial

def exclusiveCheck (s : MemorySaga) (l : SagaLabel) (_ : MemorySaga) : Bool :=
  decide (FromOutbox memoryOutboxStore s l ∧ Exclusive s l)

theorem exclusiveCheck_decides (svc : Service) : Decides (memorySaga svc) exclusiveCheck ExclusiveRun := by
  intro s l t _ h
  obtain ⟨hfrom, hexclusive⟩ := of_decide_eq_true h
  exact ⟨hfrom, hexclusive⟩

def unhinderedCheck (s : MemorySaga) (l : SagaLabel) (t : MemorySaga) : Bool :=
  exclusiveCheck s l t && !overtaken s l

theorem unhinderedCheck_decides (svc : Service) : Decides (memorySaga svc) unhinderedCheck UnhinderedRun := by
  intro s l t hstep h
  rw [unhinderedCheck, Bool.and_eq_true, Bool.not_eq_true'] at h
  exact ⟨exclusiveCheck_decides svc s l t hstep h.1, h.2⟩

/-- The authorization `auth-1` given to the worker of thread 2 is on the order. -/
theorem no_orphan_side_effects_authorized : ∃ s, (memorySaga sampleService).Reachable UnhinderedRun s ∧
    (∃ u ∈ s.threads, u.trace.any accepted = true ∧ Succeeded u) ∧ NoOrphans s := by
  obtain ⟨s, hs, hfinished⟩ := (memorySimulator sampleService).exists_reachable
    (Q := fun s => ∃ u ∈ s.threads, u.trace.any accepted = true ∧ Succeeded u)
    (unhinderedCheck_decides sampleService) reachable_emptySaga (createActs ++ reserveActs ++ authorizeActs) (by decide)
  exact ⟨s, hs, hfinished, no_orphan_side_effects sampleService hs⟩

/-- The payment provider accepts, the merchant cancels, and the store refuses to record the
authorization: the run fails and the order knows nothing of `auth-1`. -/
theorem authorization_lost_to_cancellation : ∃ s, (memorySaga sampleService).Reachable ExclusiveRun s ∧
    (∃ u ∈ s.threads, u.trace.any accepted = true ∧ Failed u) ∧
    ((orderOf s "ord_1").bind Order.payment).map Payment.authorizationID = some "" :=
  (memorySimulator sampleService).exists_reachable
    (Q := fun s => (∃ u ∈ s.threads, u.trace.any accepted = true ∧ Failed u) ∧
      ((orderOf s "ord_1").bind Order.payment).map Payment.authorizationID = some "")
    (exclusiveCheck_decides sampleService) reachable_emptySaga
    (createActs ++ reserveActs ++ [.handle .paymentsAuthorize allProviders 1, .reply 2 (.time 3),
      .reply 2 (.payment (.ok ⟨"acme", .blank, "auth-1", ""⟩)),
      .start (.cancelOrder "ord_1" "corr-2" sampleActor), .store 3, .reply 3 (.time 4), .reply 3 (.id "3"),
      .store 3, .reply 2 (.id "4"), .store 2]) (by decide)

end FulfillHub
