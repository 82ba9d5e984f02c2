import FulfillHub.Fulfillment.EndToEnd
import FulfillHub.Library.Counting

/-!
# The saga does not run in circles

Every event of an order has a place of its own: it is the one that created the order, the outcome of one of the
forward stages, a request to cancel, or the outcome of such a request. So the events of an order are bounded by its
cancellations, however often messages are delivered, retried and replayed.
-/

namespace FulfillHub

open Interaction

variable {S M : Type} {store : OutboxStore S} {svc : Service} {cond : SagaState S → SagaLabel → Prop}
  {s : SagaState S} {env a b : Envelope}

/-- What an event of an order stands for. -/
inductive EventSlot
  | created
  | stage (queue : Queue)
  | request (messageID : String)
  | outcome (messageID : String)

/-- A run of the queue's handler on the message has written the event. -/
def WrittenFor (svc : Service) (s : SagaState S) (queue : Queue) (messageID : String) (env : Envelope) : Prop :=
  ∃ (i : Nat) (u : SagaThread) (trace : SagaTrace) (c : StoreCall) (r : c.Result) (next : OutboxEvent)
    (deps : Dependencies) (cause : OutboxEvent), s.threads[i]? = some u ∧ u.job = .handle queue deps cause ∧
    cause.messageID = messageID ∧ Acted svc u trace c r ∧ c.emitted r = some next ∧ next.envelope = env

inductive Fills (svc : Service) (s : SagaState S) (env : Envelope) : EventSlot → Prop
  | created (htype : env.eventType = .orderCreated) : Fills svc s env .created
  | stage {queue : Queue} (hqueue : queue ∈ forwardQueues) (htype : env.eventType ∈ queue.outcomes) :
      Fills svc s env (.stage queue)
  | request : Fills svc s env (.request env.messageID)
  | outcome {messageID : String} (hwritten : WrittenFor svc s .ordersCancel messageID env) :
      Fills svc s env (.outcome messageID)

theorem WrittenFor.unique (honce : ∀ s l, cond s l → AtMostOnce s l) (hs : (saga store svc).Reachable cond s)
    {queue : Queue} {messageID : String} (ha : WrittenFor svc s queue messageID a)
    (hb : WrittenFor svc s queue messageID b) : a = b := by
  obtain ⟨i, u, _, c, r, next, deps, cause, hu, hjob, hid, hacted, hnext, rfl⟩ := ha
  obtain ⟨j, v, _, c', r', next', deps', cause', hv, hjob', hid', hacted', hnext', rfl⟩ := hb
  have hsame : u.job.sameDelivery v.job := by
    rw [hjob, hjob']
    exact ⟨rfl, hid.trans hid'.symm⟩
  have hij := success_unique honce hs hu hv hsame hacted.succeeded hacted'.succeeded
  subst hij
  cases hu.symm.trans hv
  rw [emitted_unique hacted hacted' hnext hnext']

theorem Fills.unique (hfrom : ∀ s l, cond s l → FromOutbox store s l) (honce : ∀ s l, cond s l → AtMostOnce s l)
    (hs : (saga store svc).Reachable cond s) (ha : a ∈ store.envelopes s) (hb : b ∈ store.envelopes s)
    (horder : a.orderID = b.orderID) {slot : EventSlot} (hfa : Fills svc s a slot) (hfb : Fills svc s b slot) :
    a = b := by
  cases hfa with
  | created htype =>
    cases hfb with
    | created htype' => exact created_unique hs ha hb horder htype htype'
  | stage hqueue htype =>
    cases hfb with
    | stage _ htype' => exact oneOutcome hfrom honce hs hqueue a ha b hb horder htype htype'
  | request =>
    generalize hslot : EventSlot.request a.messageID = slot at hfb
    cases hfb with
    | request => exact envelope_eq_of_messageID_eq hs ha hb (EventSlot.request.inj hslot)
    | _ => cases hslot
  | outcome hwritten =>
    cases hfb with
    | outcome hwritten' => exact hwritten.unique honce hs hwritten'

/-- The requests to cancel an order. -/
def cancelRequests (store : OutboxStore S) (s : SagaState S) (orderID : String) : List Envelope :=
  (store.envelopes s).filter fun env => decide (env.orderID = orderID ∧ env.eventType = .orderCancelRequested)

def eventSlots (store : OutboxStore S) (s : SagaState S) (orderID : String) : List EventSlot :=
  .created :: forwardQueues.map .stage ++ (cancelRequests store s orderID).map (fun env => .request env.messageID) ++
    (cancelRequests store s orderID).map fun env => .outcome env.messageID

/-- The service creates and requests, and handlers write the outcomes of their queues. -/
theorem type_of_mem (hs : (saga store svc).Reachable cond s) (henv : env ∈ store.envelopes s) :
    env.eventType = .orderCreated ∨ env.eventType = .orderCancelRequested ∨
      ∃ queue : Queue, env.eventType ∈ queue.outcomes := by
  obtain ⟨i, ⟨job, made, prog⟩, trace, c, r, event, _, hacted, hevent, rfl⟩ := exists_writer hs henv
  have hwrites : job.Writes svc trace c := hacted.writes
  cases hwrites with
  | create =>
    simp only [StoreCall.emitted] at hevent
    split_ifs at hevent
    cases hevent
    exact .inl rfl
  | cancel =>
    cases hevent
    exact .inr (.inl rfl)
  | handle _ hwrite => exact .inr (.inr ⟨_, (hwrite.next_spec hevent).1⟩)

theorem exists_slot (hfrom : ∀ s l, cond s l → FromOutbox store s l) (hs : (saga store svc).Reachable cond s)
    (henv : env ∈ store.envelopes s) : ∃ slot ∈ eventSlots store s env.orderID, Fills svc s env slot := by
  rcases type_of_mem hs henv with htype | htype | ⟨queue, htype⟩
  · exact ⟨.created, by simp [eventSlots], .created htype⟩
  · refine ⟨.request env.messageID, ?_, .request⟩
    simp only [eventSlots, List.mem_append, List.mem_map]
    exact .inl (.inr ⟨env, List.mem_filter.mpr ⟨henv, decide_eq_true ⟨rfl, htype⟩⟩, rfl⟩)
  · by_cases hqueue : queue ∈ forwardQueues
    · exact ⟨.stage queue, by simp [eventSlots, hqueue], .stage hqueue htype⟩
    · have hcancel : queue = .ordersCancel := by
        cases queue <;> simp_all [forwardQueues, Queue.outcomes]
      subst hcancel
      obtain ⟨i, u, trace, c, r, next, deps, cause, hu, hjob, hacted, hvalid, _, hnext, hsame, horder, _⟩ :=
        writer_of_outcome hs henv htype
      refine ⟨.outcome cause.messageID, ?_, .outcome ⟨i, u, trace, c, r, next, deps, cause, hu, hjob, rfl, hacted,
        hnext, hsame⟩⟩
      have hrequest : cause.eventType = .orderCancelRequested := by simpa [Queue.expects] using hvalid.expected
      simp only [eventSlots, List.mem_append, List.mem_map]
      refine .inr ⟨cause.envelope, List.mem_filter.mpr ⟨?_, decide_eq_true ⟨horder.symm, hrequest⟩⟩, rfl⟩
      exact cause_mem hfrom hs (PoolSpec.mem_threads.mpr ⟨i, hu⟩) hjob

theorem length_eventSlots (store : OutboxStore S) (s : SagaState S) (orderID : String) :
    (eventSlots store s orderID).length = 5 + 2 * (cancelRequests store s orderID).length := by
  simp only [eventSlots, forwardQueues, List.length_append, List.length_cons, List.length_map, List.length_nil]
  omega

theorem events_le_slots (hfrom : ∀ s l, cond s l → FromOutbox store s l) (honce : ∀ s l, cond s l → AtMostOnce s l)
    (hs : (saga store svc).Reachable cond s) (orderID : String) :
    ((store.envelopes s).filter fun env => decide (env.orderID = orderID)).length ≤
      (eventSlots store s orderID).length := by
  refine length_le_of_slots (R := Fills svc s) ((nodup_messageIDs hs).of_map.filter _) ?_ ?_
  · intro env henv
    obtain ⟨henv, horder⟩ := List.mem_filter.mp henv
    rw [← of_decide_eq_true horder]
    exact exists_slot hfrom hs henv
  · intro a ha b hb slot hfa hfb
    obtain ⟨ha, horder⟩ := List.mem_filter.mp ha
    obtain ⟨hb, horder'⟩ := List.mem_filter.mp hb
    have hsame := (of_decide_eq_true horder).trans (of_decide_eq_true horder').symm
    exact hfa.unique hfrom honce hs ha hb hsame hfb

/-- **The saga does not run in circles.** In every run of the pipeline, over any store with an outbox, an order has
at most five events and two more for each request to cancel it. -/
theorem order_events_bounded (store : RelayedStore S M) (svc : Service) (names : Queue → String) {p : Pipeline S M}
    (hp : (pipeline store svc names).Reachable Lts.anyStep p) (orderID : String) :
    (store.outbox p.stages.saga.shared.store).countP (fun e => decide (e.orderID = orderID)) ≤
      5 + 2 * (store.outbox p.stages.saga.shared.store).countP
        (fun e => decide (e.orderID = orderID ∧ e.eventType = .orderCancelRequested)) := by
  have hsaga := saga_of_pipeline (fun _ _ _ => trivial) (onStages_of_anyStep hp)
  have hbound := events_le_slots (fun _ _ h => h.1) (fun _ _ h => h.2.1) hsaga orderID
  rw [length_eventSlots, cancelRequests, ← List.countP_eq_length_filter, ← List.countP_eq_length_filter,
    OutboxStore.envelopes, List.countP_map, List.countP_map] at hbound
  exact hbound

/-- A reserved order has two events, and none of them asks to cancel it. -/
theorem order_events_bounded_reserved : ∃ p,
    (pipeline memoryRelayed sampleService Queue.name).Reachable Lts.anyStep p ∧
    p.stages.saga.shared.store.outbox.length = 2 ∧
    p.stages.saga.shared.store.outbox.countP (fun e => decide (e.orderID = "ord_1")) ≤
      5 + 2 * p.stages.saga.shared.store.outbox.countP
        (fun e => decide (e.orderID = "ord_1" ∧ e.eventType = .orderCancelRequested)) := by
  obtain ⟨p, hp, hlength⟩ := (pipelineSimulator memoryScript sampleService).exists_reachable
    (Q := fun p => p.stages.saga.shared.store.outbox.length = 2) decides_anyStep
    reachable_emptyMemory memoryTwice (by decide +kernel)
  exact ⟨p, hp, hlength, order_events_bounded memoryRelayed sampleService Queue.name hp "ord_1"⟩

end FulfillHub
