import FulfillHub.Fulfillment.StatusEvents

/-!
# The outcome of a cancellation

A run of the cancellation handler reads the order, and does nothing when it finds the outcome already
recorded. Two runs that both read before either writes both write, because the store accepts a move to
the status an order already has. Without such repeated writes an order has at most one outcome.
-/

namespace FulfillHub

open Interaction

variable {svc : Service} {cond : MemorySaga → SagaLabel → Prop} {s t : MemorySaga} {l : SagaLabel}
  {orderID : String}

/-! ### Terminal statuses stay -/

theorem eq_of_canTransition_terminal {source target : OrderStatus} (hterminal : source.isTerminal = true)
    (h : canTransitionOrderStatus source target = true) : target = source := by
  by_contra hne
  cases source <;> simp_all [canTransitionOrderStatus, OrderStatus.isTerminal, eq_comm]

theorem StoreCall.status_update {c : StoreCall} {p : Projection} (heffect : c.effect = some (orderID, p))
    (order : Order) : (p.update order).status = p.target.getD order.status := by
  cases c with
  | insertOrder => cases heffect
  | getOrder => cases heffect
  | updateOrderStatus => cases heffect; rfl
  | projector c => cases c <;> cases heffect <;> rfl

theorem terminal_kept (hs : (memorySaga svc).Reachable cond s)
    (hstep : (sagaSpec memoryOutboxStore svc).Step s l t) {status : OrderStatus}
    (hstatus : statusOf s orderID = some status) (hterminal : status.isTerminal = true) :
    statusOf t orderID = some status := by
  rcases memory_step hs hstep with ⟨horders, _⟩ |
    ⟨i, trace, merchantID, key, corr, newID, id, req, now, audit, next, _, hthread, hgiven, _, horders, _⟩ |
    ⟨i, c, r, job, trace, next, changedID, p, order, _, _, _, heffect, horder, htarget, horders, _⟩
  · rwa [statusOf, orderOf_congr horders]
  · rw [statusOf_insert horders]
    split_ifs with hid
    · rw [hid, statusOf, orderOf_eq_none_of_given hs hthread hgiven] at hstatus
      cases hstatus
    · exact hstatus
  · rw [statusOf_insert horders]
    split_ifs with hid
    · rw [hid, statusOf, horder] at hstatus
      cases hstatus
      rw [StoreCall.status_update heffect]
      cases hp : p.target with
      | none => rfl
      | some target => rw [Option.getD_some, eq_of_canTransition_terminal hterminal (htarget target hp)]
    · exact hstatus

/-! ### One outcome -/

/-- The cancellation outcomes the outbox announces for an order. -/
def cancelOutcomes (s : MemorySaga) (orderID : String) : List Envelope :=
  (eventsFor s orderID).filter fun env => env.eventType ∈ Queue.ordersCancel.outcomes

/-- The order whose cancellation a store call settles, and how. -/
def StoreCall.settles : StoreCall → Option (String × OrderStatus)
  | .projector (.recordOrderCancelled source _ _) => some (source.orderID, .cancelled)
  | .updateOrderStatus orderID .manualReview _ _ _ => some (orderID, .manualReview)
  | _ => none

/-- The cancellation of an order is not settled once more in the same way. -/
def FirstOutcome (s : MemorySaga) : SagaLabel → Bool
  | .answer _ (.store c) _ =>
    match c.settles with
    | some (orderID, status) => decide (statusOf s orderID ≠ some status)
    | none => true
  | _ => true

theorem Job.Writes.settles {job : Job} {trace : SagaTrace} {c : StoreCall} {r : c.Result}
    {p : Projection} {event : OutboxEvent} (hwrites : job.Writes svc trace c)
    (heffect : c.effect = some (orderID, p)) (hevent : c.emitted r = some event)
    (htype : event.eventType ∈ Queue.ordersCancel.outcomes) :
    ∃ status, c.settles = some (orderID, status) ∧ p.target = some status ∧ status.isTerminal = true := by
  cases hwrites with
  | create => cases heffect
  | cancel =>
    cases heffect
    cases hevent
    simp [cancelRequestedEvent, Queue.outcomes] at htype
  | handle _ hwrite =>
    cases hwrite <;> cases heffect <;> cases hevent <;>
      first
      | exact ⟨_, rfl, rfl, rfl⟩
      | simp [nextEventAt, Queue.outcomes] at htype

/-- An order has at most one outcome, and with it a terminal status. -/
structure Settled (s : MemorySaga) (orderID : String) : Prop where
  one : (cancelOutcomes s orderID).length ≤ 1
  terminal : cancelOutcomes s orderID ≠ [] → ∃ status, statusOf s orderID = some status ∧ status.isTerminal = true

theorem cancelOutcomes_append {new : List Envelope} (h : eventsOf t = eventsOf s ++ new) :
    cancelOutcomes t orderID = cancelOutcomes s orderID ++ (new.filter fun env => env.orderID = orderID).filter
      fun env => env.eventType ∈ Queue.ordersCancel.outcomes := by
  simp only [cancelOutcomes, eventsFor, h, List.filter_append]

/-- A step adds an outcome only by a write that settles the order's cancellation. -/
theorem settles_of_step (hs : (memorySaga svc).Reachable cond s)
    (hstep : (sagaSpec memoryOutboxStore svc).Step s l t) (hnew : cancelOutcomes t orderID ≠ cancelOutcomes s orderID) :
    ∃ i c r env old status, l = .answer i (.store c) r ∧ c.settles = some (orderID, status) ∧
      cancelOutcomes t orderID = cancelOutcomes s orderID ++ [env] ∧ statusOf s orderID = some old ∧
      canTransitionOrderStatus old status = true ∧ statusOf t orderID = some status ∧
      status.isTerminal = true := by
  rcases memory_step hs hstep with ⟨_, hevents⟩ |
    ⟨i, trace, merchantID, key, corr, newID, id, req, now, audit, next, _, _, _, _, _, hevents⟩ |
    ⟨i, c, r, job, trace, next, changedID, p, order, hlabel, _, hwrites, heffect, horder, htarget, horders, hevents⟩
  · exact absurd (by simp [cancelOutcomes, eventsFor, hevents]) hnew
  · rw [cancelOutcomes_append hevents] at hnew
    simp [List.filter_filter, OutboxEvent.envelope, Service.createdEvent, Queue.outcomes] at hnew
  · rw [cancelOutcomes_append hevents] at hnew
    cases hevent : c.emitted r with
    | none => simp [hevent] at hnew
    | some event =>
      by_cases hadds : event.orderID = orderID ∧ event.eventType ∈ Queue.ordersCancel.outcomes
      · obtain ⟨hid, htype⟩ := hadds
        have hchanged := (hwrites.emitted_of_effect heffect hevent).1
        rw [hid] at hchanged
        subst hchanged
        obtain ⟨status, hsettles, hp, hterminal⟩ := hwrites.settles heffect hevent htype
        refine ⟨i, c, .ok r, event.envelope, order.status, status, hlabel, hsettles, ?_, ?_, htarget status hp,
          ?_, hterminal⟩
        · rw [cancelOutcomes_append hevents, hevent]
          simp [OutboxEvent.envelope, hid, htype]
        · rw [statusOf, horder]
          rfl
        · rw [statusOf_insert horders, if_pos rfl, StoreCall.status_update heffect, hp]
          rfl
      · refine absurd ?_ hnew
        simpa [hevent, List.filter_filter, OutboxEvent.envelope, and_comm] using hadds

theorem Settled.step (hs : (memorySaga svc).Reachable cond s)
    (hstep : (sagaSpec memoryOutboxStore svc).Step s l t) (hfirst : FirstOutcome s l = true)
    (h : Settled s orderID) : Settled t orderID := by
  by_cases hsame : cancelOutcomes t orderID = cancelOutcomes s orderID
  · refine ⟨hsame ▸ h.one, fun hne => ?_⟩
    obtain ⟨status, hstatus, hterminal⟩ := h.terminal (hsame ▸ hne)
    exact ⟨status, terminal_kept hs hstep hstatus hterminal, hterminal⟩
  · obtain ⟨i, c, r, env, old, status, rfl, hsettles, hnew, hold, hmove, hstatus, hterminal⟩ :=
      settles_of_step hs hstep hsame
    have hnone : cancelOutcomes s orderID = [] := by
      by_contra hne
      obtain ⟨old', hold', hterminal'⟩ := h.terminal hne
      cases hold.symm.trans hold'
      rw [eq_of_canTransition_terminal hterminal' hmove] at hsettles
      simp [FirstOutcome, hsettles, hold] at hfirst
    exact ⟨by simp [hnew, hnone], fun _ => ⟨status, hstatus, hterminal⟩⟩

def FirstOutcomeRun (s : MemorySaga) (l : SagaLabel) : Prop := FirstOutcome s l = true

instance (s : MemorySaga) (l : SagaLabel) : Decidable (FirstOutcomeRun s l) :=
  inferInstanceAs (Decidable (FirstOutcome s l = true))

/-- **At most one cancellation outcome is announced** for an order, in every run in which no cancellation
is settled a second time in the same way. -/
theorem one_cancellation_outcome (svc : Service) {s : MemorySaga}
    (hs : (memorySaga svc).Reachable FirstOutcomeRun s) (orderID : String) :
    (cancelOutcomes s orderID).length ≤ 1 := by
  refine (Lts.Reachable.invariant (P := fun s => Settled s orderID) ?_ ?_ hs).one
  · rintro s ⟨⟨hstart, _⟩, _⟩
    have hnil : cancelOutcomes s orderID = [] := by
      simp [cancelOutcomes, eventsFor, eventsOf, OutboxStore.envelopes, memoryOutboxStore.outbox_start _ hstart]
    exact ⟨by simp [hnil], fun hne => absurd hnil hne⟩
  · exact fun s l t hreach ih hstep hfirst => ih.step hreach hstep hfirst

/-- The acts by which the order `ord_1` is cancelled twice, as threads 1 and 2, before a worker starts on
either request. -/
def cancelTwiceActs : List Act :=
  createActs ++ [.start (.cancelOrder "ord_1" "corr-2" sampleActor), .store 1, .reply 1 (.time 2),
    .reply 1 (.id "2"), .store 1, .start (.cancelOrder "ord_1" "corr-3" sampleActor), .store 2,
    .reply 2 (.time 3), .reply 2 (.id "3"), .store 2]

/-- Two workers handle the two requests one after the other: the second finds nothing to do. -/
theorem one_cancellation_outcome_in_turn : ∃ s,
    (memorySaga sampleService).Reachable FirstOutcomeRun s ∧ (cancelOutcomes s "ord_1").length = 1 := by
  obtain ⟨s, hs, hsome⟩ := (memorySimulator sampleService).exists_reachable
    (Q := fun s => 1 ≤ (cancelOutcomes s "ord_1").length ∧ s.threads.all fun u => decide (Succeeded u))
    (decides_decide FirstOutcomeRun) reachable_emptySaga
    (cancelTwiceActs ++ [.handle .ordersCancel allProviders 1, .handle .ordersCancel allProviders 2,
      .store 3, .reply 3 (.time 4), .reply 3 (.id "4"), .store 3, .store 4]) (by decide)
  exact ⟨s, hs, Nat.le_antisymm (one_cancellation_outcome sampleService hs "ord_1") hsome.1⟩

/-- Both workers read the order before either writes: the cancellation is announced twice. -/
theorem two_cancellation_outcomes : ∃ s, (memorySaga sampleService).Reachable Lts.anyStep s ∧
    (cancelOutcomes s "ord_1").length = 2 :=
  (memorySimulator sampleService).exists_reachable (Q := fun s => (cancelOutcomes s "ord_1").length = 2)
    decides_anyStep reachable_emptySaga
    (cancelTwiceActs ++ [.handle .ordersCancel allProviders 1, .handle .ordersCancel allProviders 2,
      .store 3, .store 4, .reply 3 (.time 4), .reply 3 (.id "4"), .store 3, .reply 4 (.time 5),
      .reply 4 (.id "5"), .store 4]) (by decide)

end FulfillHub
