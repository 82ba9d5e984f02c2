import FulfillHub.Fulfillment.Refinement

/-!
# Shipments and cancellations

What the shipment creator has to keep to so that a cancellation can rely on the shipment it reads: success
comes with the status of a created shipment. Then an order has a created shipment exactly when
`shipment.created` is in the outbox, none is created once a cancellation is requested, and no shipped order
is cancelled.
-/

namespace FulfillHub

open Interaction

/-- A shipment creator reports success with the status `""` or `"created"`. -/
def ShipmentsKeepContract : SagaLabel → Prop
  | .answer _ (.port (.createShipment _)) (.ok shipment) =>
    shipment.status = .blank ∨ shipment.status = .created
  | _ => True

/-- The runs considered: disciplined ones with shipment creators that keep their contract. -/
structure Shipping (cond : MemorySaga → SagaLabel → Prop) : Prop extends Disciplined cond where
  shipments : ∀ s l, cond s l → ShipmentsKeepContract l

variable {svc : Service} {cond : MemorySaga → SagaLabel → Prop} {s t : MemorySaga} {l : SagaLabel}
  {orderID : String} {order : Order} {p : Phase}

theorem shipment_answer (hcond : Shipping cond) (hs : (memorySaga svc).Reachable cond s)
    {event : OutboxEvent} {shipment : Shipment}
    (hx : PoolSpec.Exchanged s ⟨.port (.createShipment event), .ok shipment⟩) :
    shipment.status = .blank ∨ shipment.status = .created := by
  refine PoolSpec.exchange_invariant (P := sagaSpec memoryOutboxStore svc)
    (Ψ := fun _ x => ShipmentsKeepContract (.answer 0 x.1 x.2)) ?_ ?_ hs hx
  · exact fun _ _ _ _ _ _ _ _ _ h => h
  · intro s i c r t _ _ hl
    have hkeep := hcond.shipments _ _ hl
    cases c with
    | store c => trivial
    | port c => cases c <;> cases r <;> exact hkeep

theorem shipmentToRecord_status (hcond : Shipping cond) (hs : (memorySaga svc).Reachable cond s) {i : Nat}
    {u : SagaThread} (hu : s.threads[i]? = some u) {event : OutboxEvent} {shipment : Shipment}
    (h : ShipmentToRecord u.trace event shipment) : shipment.status = .created := by
  rcases h with ⟨answer, hmem, hstatus, _⟩ | ⟨_, hstatus⟩
  · rw [hstatus]
    rcases shipment_answer hcond hs ⟨u, PoolSpec.mem_threads.mpr ⟨i, hu⟩, hmem⟩ with hblank | hcreated
    · simp [hblank]
    · simp [hcreated]
  · exact hstatus

theorem no_shipment_after_request (hcond : Disciplined cond) (hs : (memorySaga svc).Reachable cond s)
    (hstep : (sagaSpec memoryOutboxStore svc).Step s l t) (hl : cond s l)
    (hrequested : HasEvent s orderID .orderCancelRequested)
    (hnone : ¬ HasEvent s orderID .shipmentCreated) : ¬ HasEvent t orderID .shipmentCreated := by
  have hsim := simulated_of_reachable hcond hs
  obtain ⟨order, horder⟩ : ∃ order, orderOf s orderID = some order := by
    obtain ⟨env, henv, rfl, _⟩ := hrequested
    exact order_of_event hs henv
  obtain ⟨p, hp, hrep⟩ := hsim.phases orderID order horder
  cases order_step hcond hs hstep hl hsim.reviews horder hrep with
  | same _ _ hrep' =>
    rw [hrep'.events _ (by decide), ← hrep.events _ (by decide)]
    exact hnone
  | moved i c r job trace proj m _ _ _ _ _ hmove _ hrep' =>
    rw [hrep.events _ (by decide)] at hnone
    rw [hrep'.events _ (by decide), show (m.apply p).stage = m.stage p.stage from rfl,
      Move.stage_events hmove.guarded _ (by decide)]
    rintro (hshipped | hemits)
    · exact hnone hshipped
    · have hship : m = .ship := by cases m <;> simp_all [Move.emits]
      subst hship
      have hstatus := hp.requested (hrep.requested.mp hrequested)
      have htarget := hmove.target _ rfl
      simp only [List.mem_cons, List.not_mem_nil, or_false] at hstatus
      rcases hstatus with h | h | h <;> rw [h] at htarget <;> cases htarget

/-- A cancellation worker that has seen no shipment to review acts on an order that has none. -/
def CancelsUnshipped (s : MemorySaga) : Prop :=
  ∀ u ∈ s.threads, ∀ deps event order, u.job = .handle .ordersCancel deps event →
    Saw u.trace event.orderID order → requiresManualReview order = false →
    ¬ HasEvent s event.orderID .shipmentCreated

/-- Announced shipments are there, and what is cancelled has none. -/
structure ShipsLawfully (s : MemorySaga) : Prop where
  held : ∀ orderID order, orderOf s orderID = some order → HasEvent s orderID .shipmentCreated →
    order.shipment.map Shipment.status = some .created
  cancels : CancelsUnshipped s
  cancelled : ∀ orderID order, orderOf s orderID = some order → order.status = .cancelled →
    ¬ HasEvent s orderID .shipmentCreated

theorem unshipped_of_review (hlawful : ShipsLawfully s) (horder : orderOf s orderID = some order)
    (hreview : requiresManualReview order = false) : ¬ HasEvent s orderID .shipmentCreated := by
  intro hshipped
  obtain ⟨shipment, hsome, hcreated⟩ := Option.map_eq_some_iff.mp (hlawful.held orderID order horder hshipped)
  simp [requiresManualReview, hsome, hcreated] at hreview

theorem held_of_move (hcond : Shipping cond) (hs : (memorySaga svc).Reachable cond s) {i : Nat} {c : StoreCall}
    {job : Job} {trace : SagaTrace} {prog : Saga (Except Error Unit)} {proj : Projection} {m : Move}
    (hthread : s.threads[i]? = some ⟨job, trace, prog⟩) (hwrites : job.Writes svc trace c)
    (heffect : c.effect = some (orderID, proj)) (hmake : MakesMove c proj m) (hguard : m.Guard p)
    (hold : .shipmentCreated ∈ p.stage.events → order.shipment.map Shipment.status = some .created)
    (hshipped : .shipmentCreated ∈ (m.stage p.stage).events) :
    (proj.update order).shipment.map Shipment.status = some .created := by
  by_cases hm : m = .ship
  · subst hm
    have hcall := hmake.move
    cases hwrites with
    | create => cases heffect
    | cancel => cases hcall
    | handle hvalid hwrite =>
      cases hwrite with
      | shipmentCreated hid hrecord =>
        cases heffect
        exact congrArg some (shipmentToRecord_status hcond hs hthread hrecord)
      | compensation =>
        rcases expects_compensate hvalid.expected with h | h | h <;> simp [StoreCall.move, h] at hcall
      | _ => cases hcall
  · have hbefore : .shipmentCreated ∈ p.stage.events := by
      rcases (Move.stage_events hguard _ (by decide)).mp hshipped with hbefore | hemits
      · exact hbefore
      · cases m <;> simp_all [Move.emits]
    have hfail : m ≠ .failShipment := by
      rintro rfl
      rw [show p.stage = .authorized from hguard] at hbefore
      revert hbefore
      decide
    rw [hmake.shipment order hm hfail]
    exact hold hbefore

theorem held_of_step (hcond : Shipping cond) (hs : (memorySaga svc).Reachable cond s)
    (hstep : (sagaSpec memoryOutboxStore svc).Step s l t) (hl : cond s l) (hlawful : ShipsLawfully s)
    (horder : orderOf t orderID = some order) (hshipped : HasEvent t orderID .shipmentCreated) :
    order.shipment.map Shipment.status = some .created := by
  have hsim := simulated_of_reachable hcond.toDisciplined hs
  cases hold : orderOf s orderID with
  | none =>
    obtain ⟨merchantID, req, now, env, rfl, hevents, htype⟩ := created_of_step hs hstep hold horder
    have hrep : Represents t orderID (svc.newOrder merchantID req orderID now) .start :=
      represents_created hs hold rfl rfl hevents htype
    simpa [Phase.start, Stage.events] using (hrep.events .shipmentCreated (by decide)).mp hshipped
  | some old =>
    obtain ⟨p, hp, hrep⟩ := hsim.phases orderID old hold
    cases order_step hcond.toDisciplined hs hstep hl hsim.reviews hold hrep with
    | same horder' _ hrep' =>
      cases horder.symm.trans horder'
      exact hlawful.held orderID _ hold
        ((hrep.events _ (by decide)).mpr ((hrep'.events _ (by decide)).mp hshipped))
    | moved i c r job trace proj m _ hthread hwrites heffect hmake hmove horder' hrep' =>
      cases horder.symm.trans horder'
      obtain ⟨next, hthread⟩ := hthread
      refine held_of_move hcond hs hthread hwrites heffect hmake hmove.guarded ?_
        ((hrep'.events _ (by decide)).mp hshipped)
      exact fun hbefore => hlawful.held orderID old hold ((hrep.events _ (by decide)).mpr hbefore)

theorem cancels_of_step (hcond : Shipping cond) (hs : (memorySaga svc).Reachable cond s)
    (hstep : (sagaSpec memoryOutboxStore svc).Step s l t) (hl : cond s l) (hlawful : ShipsLawfully s) :
    CancelsUnshipped t := by
  intro u hu deps event order hjob hsaw hreview
  have ht : (memorySaga svc).Reachable cond t := .step hs hstep hl
  have hvalid := validated_of_saw ht hu hjob hsaw
  have htype : event.eventType = .orderCancelRequested := by simpa [Queue.expects] using hvalid.expected
  have hrequest : ∀ v ∈ s.threads, v.job = .handle .ordersCancel deps event →
      HasEvent s event.orderID .orderCancelRequested := fun v hv hjob =>
    ⟨_, cause_mem hcond.fromOutbox hs hv hjob, rfl, htype⟩
  obtain ⟨j, hj⟩ := PoolSpec.mem_threads.mp hu
  rcases hstep.thread_cases hj with hold | ⟨job, _, _, rfl⟩ | ⟨job, trace, c, next, r, rfl, hold, _, rfl⟩
  · have hv := PoolSpec.mem_threads.mpr ⟨j, hold⟩
    exact no_shipment_after_request hcond.toDisciplined hs hstep hl (hrequest u hv hjob)
      (hlawful.cancels u hv deps event order hjob hsaw hreview)
  · simp [PoolSpec.fresh, Saw] at hsaw
  · have hv := PoolSpec.mem_threads.mpr ⟨j, hold⟩
    refine no_shipment_after_request hcond.toDisciplined hs hstep hl (hrequest _ hv hjob) ?_
    rcases List.mem_append.mp hsaw with hsaw | hsaw
    · exact hlawful.cancels _ hv deps event order hjob hsaw hreview
    · cases List.mem_singleton.mp hsaw
      exact unshipped_of_review hlawful (orderOf_of_read hstep) hreview

/-- A move that ends in `cancelled` starts from an order that is not shipped, if those of the cancellation
workers do. -/
theorem unshipped_of_move {m : Move} (hguard : m.Guard p) (hcancel : m = .cancel → p.stage ≠ .shipped) :
    (m.apply p).status = .cancelled → (m.apply p).stage ≠ .shipped := by
  intro hstatus
  cases m with
  | cancel => exact hcancel rfl
  | compensatePayment => simp [Move.apply, Move.stage, show p.stage = .payFailed from hguard]
  | reject => simp [Move.apply, Move.stage]
  | failPayment => simp [Move.apply, Move.stage]
  | failShipment => simp [Move.apply, Move.stage]
  | _ => simp [Move.apply, Move.target] at hstatus

theorem mem_events_shipped {stage : Stage} : .shipmentCreated ∈ stage.events ↔ stage = .shipped := by
  cases stage <;> simp [Stage.events]

theorem unshipped_of_step (hcond : Shipping cond) (hs : (memorySaga svc).Reachable cond s)
    (hstep : (sagaSpec memoryOutboxStore svc).Step s l t) (hl : cond s l) (hlawful : ShipsLawfully s)
    (horder : orderOf t orderID = some order) (hstatus : order.status = .cancelled) :
    ¬ HasEvent t orderID .shipmentCreated := by
  have hsim := simulated_of_reachable hcond.toDisciplined hs
  cases hold : orderOf s orderID with
  | none =>
    obtain ⟨merchantID, req, now, env, rfl, _⟩ := created_of_step hs hstep hold horder
    cases hstatus
  | some old =>
    obtain ⟨p, hp, hrep⟩ := hsim.phases orderID old hold
    cases order_step hcond.toDisciplined hs hstep hl hsim.reviews hold hrep with
    | same horder' _ hrep' =>
      cases horder.symm.trans horder'
      rw [hrep'.events _ (by decide), ← hrep.events _ (by decide)]
      exact hlawful.cancelled orderID _ hold hstatus
    | moved i c r job trace proj m _ hthread hwrites heffect hmake hmove horder' hrep' =>
      cases horder.symm.trans horder'
      obtain ⟨next, hthread⟩ := hthread
      rw [hrep'.events _ (by decide), mem_events_shipped]
      refine unshipped_of_move hmove.guarded ?_ (hrep'.status.symm.trans hstatus)
      rintro rfl hshipped
      have hcall := hmake.move
      cases hwrites with
      | create => cases heffect
      | cancel => cases hcall
      | @handle queue deps event c hvalid hwrite =>
        cases hwrite with
        | orderCancelled hid hsaw hreview =>
          cases heffect
          exact hlawful.cancels _ (PoolSpec.mem_threads.mpr ⟨i, hthread⟩) deps event _ rfl hsaw hreview
            ((hrep.events .shipmentCreated (by decide)).mpr (mem_events_shipped.mpr hshipped))
        | compensation =>
          rcases expects_compensate hvalid.expected with h | h | h <;>
            simp [StoreCall.move, h] at hcall
        | _ => cases hcall

/-- **Shipments and cancellations agree** in every reachable state. -/
theorem shipsLawfully_of_reachable (hcond : Shipping cond) (hs : (memorySaga svc).Reachable cond s) :
    ShipsLawfully s := by
  refine Lts.Reachable.invariant (P := ShipsLawfully) ?_ ?_ hs
  · rintro s ⟨⟨hstart, _⟩, hnil⟩
    have hstore : s.shared.store = newMemoryStore := hstart
    have hnone : ∀ orderID order, orderOf s orderID ≠ some order := by
      simp [orderOf, hstore, newMemoryStore]
    refine ⟨fun _ _ horder => absurd horder (hnone _ _), fun u hu => ?_,
      fun _ _ horder => absurd horder (hnone _ _)⟩
    simp [hnil] at hu
  · intro s l t hreach ih hstep hl
    exact ⟨fun _ _ => held_of_step hcond hreach hstep hl ih, cancels_of_step hcond hreach hstep hl ih,
      fun _ _ => unshipped_of_step hcond hreach hstep hl ih⟩

end FulfillHub
