import FulfillHub.Fulfillment.Terms

/-!
# Events carry their identity

Handlers refuse an event without a message, correlation, causation, order or merchant id. When merchants'
requests come with a correlation id, no event of the outbox lacks any of these: ids are handed out
non-empty, the merchant is validated when the order is created, and handlers copy the rest from an event
they have validated.
-/

namespace FulfillHub

open Interaction

variable {svc : Service} {cond : MemorySaga → SagaLabel → Prop} {s t : MemorySaga} {l : SagaLabel}
  {orderID : String} {order : Order} {event : OutboxEvent}

/-- A merchant's request comes with a correlation id. -/
def Job.Correlated : Job → Prop
  | .createOrder _ _ correlationID _ | .cancelOrder _ correlationID _ => correlationID ≠ ""
  | .handle .. => True

def Correlated : SagaLabel → Prop
  | .spawn job => job.Correlated
  | .answer _ _ _ => True

instance : (l : SagaLabel) → Decidable (Correlated l)
  | .spawn (.createOrder _ _ correlationID _) | .spawn (.cancelOrder _ correlationID _) =>
    inferInstanceAs (Decidable (correlationID ≠ ""))
  | .spawn (.handle ..) | .answer .. => isTrue trivial

theorem merchantID_ne_empty {merchantID idempotencyKey : String} {req : CreateOrderCommand}
    (h : validateCreateOrder merchantID idempotencyKey req = .ok ()) : merchantID ≠ "" := by
  rintro rfl
  have hblank : notBlank "" = false := by decide
  simp [validateCreateOrder, validationResult, createOrderErrors, requireField, hblank] at h

theorem order_merchantID_ne_empty (hs : (memorySaga svc).Reachable cond s)
    (horder : orderOf s orderID = some order) : order.merchantID ≠ "" := by
  refine Lts.Reachable.invariant (P := fun s => ∀ orderID order, orderOf s orderID = some order →
    order.merchantID ≠ "") ?_ ?_ hs orderID order horder
  · rintro s ⟨⟨hstart, _⟩, _⟩ orderID order horder
    simp [orderOf, show s.shared.store = newMemoryStore from hstart, newMemoryStore] at horder
  · intro s l t hreach ih hstep _ orderID order horder
    rcases memory_step hreach hstep with ⟨horders, _⟩ |
      ⟨i, trace, merchantID, key, corr, newID, id, req, now, audit, next, _, _, _, hvalid, horders, _⟩ |
      ⟨i, c, r, job, trace, next, changedID, proj, old, _, _, _, heffect, hold, _, horders, _⟩
    · rw [orderOf_congr horders] at horder
      exact ih _ _ horder
    · rw [orderOf_insert horders] at horder
      split_ifs at horder with hid
      · cases horder
        exact merchantID_ne_empty hvalid
      · exact ih _ _ horder
    · rw [orderOf_insert horders] at horder
      split_ifs at horder with hid
      · cases horder
        rw [show (proj.update old).merchantID = old.merchantID from
          congrArg Terms.merchantID (StoreCall.terms_update heffect old)]
        exact ih _ _ hold
      · exact ih _ _ horder

theorem saw_merchantID_ne_empty (hs : (memorySaga svc).Reachable cond s) {u : SagaThread} (hu : u ∈ s.threads)
    (hsaw : Saw u.trace orderID order) : order.merchantID ≠ "" := by
  obtain ⟨stored, hstored, hterms⟩ := Option.map_eq_some_iff.mp (terms_of_saw hs hu hsaw)
  rw [← show stored.merchantID = order.merchantID from congrArg Terms.merchantID hterms]
  exact order_merchantID_ne_empty hs hstored

theorem orderID_ne_empty (hs : (memorySaga svc).Reachable cond s) (horder : orderOf s orderID = some order) :
    orderID ≠ "" := by
  obtain ⟨env, henv, rfl, htype⟩ := (order_iff_created hs).mp ⟨order, horder⟩
  obtain ⟨i, u, trace, _, _, _, hi, hacted, _, _, hgiven⟩ := writer_of_created hs henv htype
  exact ne_empty_of_given hs (PoolSpec.mem_threads.mpr ⟨i, hi⟩) (hacted.given hgiven)

/-- Every field that a handler validates is there. -/
structure Envelope.Complete (env : Envelope) : Prop where
  messageID : env.messageID ≠ ""
  correlationID : env.correlationID ≠ ""
  causationID : env.causationID ≠ ""
  orderID : env.orderID ≠ ""
  merchantID : env.merchantID ≠ ""

theorem identity_eq_ok : validateEventIdentity event = .ok () ↔
    event.messageID ≠ "" ∧ event.correlationID ≠ "" ∧ event.causationID ≠ "" ∧ event.orderID ≠ "" ∧
      event.merchantID ≠ "" := by
  unfold validateEventIdentity
  split_ifs <;> simp_all

theorem envelope_causationID_ne_empty (h : event.messageID ≠ "") : event.envelope.causationID ≠ "" := by
  unfold OutboxEvent.envelope
  split_ifs with hcausation
  · exact h
  · exact hcausation

/-- **The events of the outbox are complete.** -/
theorem complete_of_mem (hcorrelated : ∀ s l, cond s l → Correlated l)
    (hs : (memorySaga svc).Reachable cond s) {env : Envelope} (henv : env ∈ eventsOf s) : env.Complete := by
  obtain ⟨order, horder⟩ := order_of_event hs henv
  obtain ⟨i, u, trace, c, r, event, hi, hacted, hevent, rfl⟩ := exists_writer hs henv
  have hu := PoolSpec.mem_threads.mpr ⟨i, hi⟩
  have hjob : u.job.Correlated :=
    PoolSpec.job_of_reachable (P := sagaSpec memoryOutboxStore svc) (fun s job => hcorrelated s (.spawn job)) hs hu
  have hmessage := ne_empty_of_given hs hu (hacted.given (hacted.writes.given hevent))
  suffices h : event.correlationID ≠ "" ∧ event.merchantID ≠ "" from
    ⟨hmessage, h.1, envelope_causationID_ne_empty hmessage, orderID_ne_empty hs horder, h.2⟩
  have hwrites := hacted.writes
  obtain ⟨job, utrace, prog⟩ := u
  cases hwrites with
  | create _ _ hvalid =>
    simp only [StoreCall.emitted] at hevent
    split_ifs at hevent
    cases hevent
    exact ⟨hjob, merchantID_ne_empty hvalid⟩
  | cancel hsaw _ =>
    cases hevent
    exact ⟨hjob, saw_merchantID_ne_empty hs hu (hacted.subset hsaw)⟩
  | handle hvalid hwrite =>
    obtain ⟨_, id, now, heq⟩ := hwrite.next_spec hevent
    obtain ⟨_, hcorrelation, _, _, hmerchant⟩ := identity_eq_ok.mp hvalid.identity
    rw [heq]
    exact ⟨hcorrelation, hmerchant⟩

/-- Stored events have their envelope's defaults. -/
theorem causationID_of_mem (hs : (memorySaga svc).Reachable cond s) (hevent : event ∈ s.shared.store.outbox) :
    event.causationID = event.envelope.causationID := by
  obtain ⟨raw, rfl⟩ : ∃ raw : OutboxEvent, event = raw.withEnvelopeDefaults := by
    refine Lts.Reachable.invariant (P := fun s : MemorySaga => ∀ event ∈ s.shared.store.outbox,
      ∃ raw : OutboxEvent, event = raw.withEnvelopeDefaults) ?_ ?_ hs event hevent
    · rintro s ⟨⟨hstart, _⟩, _⟩ event hevent
      simp [show s.shared.store = newMemoryStore from hstart, newMemoryStore] at hevent
    · intro s l t _ ih hstep _ event hevent
      obtain ⟨new, hnew⟩ := outbox_of_step hstep
      rw [hnew, List.mem_append] at hevent
      rcases hevent with hevent | hevent
      · exact ih event hevent
      · obtain ⟨raw, _, rfl⟩ := List.mem_map.mp hevent
        exact ⟨raw, rfl⟩
  rw [OutboxEvent.envelope_withEnvelopeDefaults, OutboxEvent.withEnvelopeDefaults_causationID]
  rfl

/-- **Every event of the outbox passes the handlers' validation.** -/
theorem identity_of_mem (hcorrelated : ∀ s l, cond s l → Correlated l) (hs : (memorySaga svc).Reachable cond s)
    (hevent : event ∈ s.shared.store.outbox) : validateEventIdentity event = .ok () := by
  obtain ⟨hmessage, hcorrelation, hcausation, horder, hmerchant⟩ :=
    complete_of_mem hcorrelated hs (List.mem_map_of_mem hevent)
  rw [← causationID_of_mem hs hevent] at hcausation
  exact identity_eq_ok.mpr ⟨hmessage, hcorrelation, hcausation, horder, hmerchant⟩

end FulfillHub
