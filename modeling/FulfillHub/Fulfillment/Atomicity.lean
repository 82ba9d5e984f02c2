import FulfillHub.Commerce.MemoryStore
import FulfillHub.Fulfillment.Contracts
import FulfillHub.Fulfillment.Script
import FulfillHub.Library.Completion

/-!
# Handlers are atomic and local

A handler run to its end over the in-memory store, with the clock, the ids and the providers answering as they like.
Every store call either fails and changes nothing, or rewrites the one order it names; the contract of a handler says
that nothing follows a successful write and that an error is only returned without one. So a failed handler leaves
the store as it was, and a handler that succeeds has made one local change, or has recognised a late duplicate.
-/

namespace FulfillHub

open Interaction

variable {c : StoreCall} {trace before : SagaTrace}

namespace MemoryStore

/-- A store call is answered by the store, everything else by the outside world. -/
def Answers (s : MemoryStore) : (c : Call) → c.Answer → MemoryStore → Prop
  | .store c, r, t => semantics s c = (r, t)
  | .port _, _, t => t = s

theorem exists_answers (s : MemoryStore) (c : Call) : ∃ r t, s.Answers c r t := by
  cases c with
  | store c => exact ⟨_, _, rfl⟩
  | port c =>
    cases c with
    | clock => exact ⟨(0 : Time), s, rfl⟩
    | newID kind => exact ⟨"", s, rfl⟩
    | reserveInventory event => exact ⟨.ok (), s, rfl⟩
    | authorizePayment event => exact ⟨.error errNotFound, s, rfl⟩
    | createShipment event => exact ⟨.error errNotFound, s, rfl⟩

/-- One order may have been rewritten, at most one event naming it was appended to the outbox, and exactly one entry
to the audit log. -/
structure ChangedAt (orderID : String) (s t : MemoryStore) : Prop where
  orders : ∀ id, id ≠ orderID → t.orders.lookup id = s.orders.lookup id
  ordersByExternal : t.ordersByExternal = s.ordersByExternal
  ordersByIdempotency : t.ordersByIdempotency = s.ordersByIdempotency
  outbox : ∃ event : Option OutboxEvent, t.outbox = s.outbox ++ event.toList ∧ ∀ e ∈ event, e.orderID = orderID
  auditLogs : ∃ audit, t.auditLogs = s.auditLogs ++ [audit]

theorem commit_changedAt (s : MemoryStore) {orderID : String} (order : Order) {event : Option OutboxEvent}
    (audit : AuditLog) (hevent : ∀ e ∈ event, e.orderID = orderID) :
    ChangedAt orderID s (s.commit orderID order event audit) where
  orders id hid := by
    rw [commit_orders]
    exact Finmap.lookup_insert_of_ne _ hid
  ordersByExternal := by cases event <;> rfl
  ordersByIdempotency := by cases event <;> rfl
  outbox := by
    refine ⟨event.map OutboxEvent.withEnvelopeDefaults, ?_, ?_⟩
    · rw [commit_outbox]
      cases event <;> rfl
    · intro e he
      obtain ⟨e', he', rfl⟩ := Option.mem_map.mp he
      rw [OutboxEvent.withEnvelopeDefaults_orderID]
      exact hevent e' he'
  auditLogs := ⟨audit, commit_auditLogs ..⟩

/-- A call that rewrites an order fails and changes nothing, or commits the rewritten order. -/
theorem semantics_of_effect (s : MemoryStore) {orderID : String} {p : Projection}
    (heffect : c.effect = some (orderID, p)) :
    (∃ err, semantics s c = (.error err, s)) ∨ ∃ order r audit,
      semantics s c = (.ok r, s.commit orderID (p.update order) (p.event order) audit) := by
  have hunit : ∀ audit, (∃ err, s.projectUnit orderID p audit = (.error err, s)) ∨ ∃ order,
      s.projectUnit orderID p audit = (.ok (), s.commit orderID (p.update order) (p.event order) audit) := by
    intro audit
    rcases project_cases s orderID p audit with ⟨err, h⟩ | ⟨order, -, -, h⟩
    · exact .inl ⟨err, by rw [projectUnit, h]; rfl⟩
    · exact .inr ⟨order, by rw [projectUnit, h]; rfl⟩
  have hprojector : ∀ c' : ProjectorCall, c = .projector c' → ∃ audit,
      s.projector c' = s.projectUnit orderID p audit := by
    rintro c' rfl
    cases c' <;> cases heffect <;> exact ⟨_, rfl⟩
  cases c with
  | insertOrder => cases heffect
  | getOrder => cases heffect
  | updateOrderStatus id status now event audit =>
    cases heffect
    rcases project_cases s orderID (.updateOrderStatus status now event audit) audit with ⟨err, h⟩ | ⟨order, -, -, h⟩
    · exact .inl ⟨err, h⟩
    · exact .inr ⟨order, _, audit, h⟩
  | projector c' =>
    obtain ⟨audit, haudit⟩ := hprojector c' rfl
    rcases hunit audit with ⟨err, h⟩ | ⟨order, h⟩
    · exact .inl ⟨err, haudit.trans h⟩
    · exact .inr ⟨order, (), audit, haudit.trans h⟩

end MemoryStore

/-! ### One call of a handler -/

variable {queue : Queue} {event : OutboxEvent} {deps : Dependencies} {s s' : MemoryStore}

theorem HandlerWrites.effect (h : HandlerWrites event trace queue c) :
    ∃ p, c.effect = some (event.orderID, p) ∧ ∀ order, ∀ e ∈ p.event order, e.orderID = event.orderID := by
  cases h <;> refine ⟨_, rfl, ?_⟩ <;> intro order e he <;> cases he <;> rfl

theorem HandlerWrites.changedAt (h : HandlerWrites event trace queue c) {r : Except Error c.Result}
    (hanswer : s.Answers (.store c) r s') :
    (∃ err, r = .error err) ∧ s' = s ∨ (∃ a, r = .ok a) ∧ MemoryStore.ChangedAt event.orderID s s' := by
  obtain ⟨p, heffect, hevent⟩ := h.effect
  rcases MemoryStore.semantics_of_effect s heffect with ⟨err, hsemantics⟩ | ⟨order, a, audit, hsemantics⟩
  · obtain ⟨rfl, rfl⟩ := Prod.mk.inj (hanswer.symm.trans hsemantics)
    exact .inl ⟨⟨err, rfl⟩, rfl⟩
  · obtain ⟨rfl, rfl⟩ := Prod.mk.inj (hanswer.symm.trans hsemantics)
    exact .inr ⟨⟨a, rfl⟩, s.commit_changedAt _ audit (hevent order)⟩

/-! ### A whole run -/

theorem returned_of_committed {rest : SagaTrace} {x : Exchange Call.Answer} {p : Saga (Except Error Unit)}
    {result : Except Error Unit} (hfollows : (handlerContract queue event).Follows (before ++ [x]) p)
    (hx : committed x = true) (hreturns : p.Returns rest result) : rest = [] ∧ result = .ok () := by
  have hcommitted : ¬ Never committed (before ++ [x]) := fun hnever =>
    Bool.noConfusion (hx.symm.trans (hnever x mem_last))
  cases hreturns with
  | call r _ => exact absurd hfollows.allowed.2.1 hcommitted
  | ret a =>
    cases result with
    | ok _ => exact ⟨rfl, rfl⟩
    | error err => exact absurd hfollows.returns.1 hcommitted

/-- The order is past the point where its finalizer, or its cancellation worker, acts on the event. -/
inductive LateDuplicate (event : OutboxEvent) (s : MemoryStore) : Queue → Prop
  | finalize {order : Order} (htype : event.eventType = .shipmentCreated)
      (horder : s.orders.lookup event.orderID = some order)
      (hstatus : order.status ∈ [.completed, .cancellationPending, .manualReview, .cancelled]) :
      LateDuplicate event s .ordersFinalize
  | cancel {order : Order} (htype : event.eventType = .orderCancelRequested)
      (horder : s.orders.lookup event.orderID = some order)
      (hstatus : order.status ∈ [.cancelled, .manualReview]) : LateDuplicate event s .ordersCancel

theorem lateDuplicate_of_nothingToDo (hvalid : Validated queue event)
    (hsaw : ∀ order, Saw trace event.orderID order → s.orders.lookup event.orderID = some order)
    (h : NothingToDo event trace queue) : LateDuplicate event s queue := by
  have hexpected := hvalid.expected
  cases h with
  | finalize hread hstatus => exact .finalize (by simpa [Queue.expects] using hexpected) (hsaw _ hread) hstatus
  | cancel hread hstatus => exact .cancel (by simpa [Queue.expects] using hexpected) (hsaw _ hread) hstatus

/-- What is read of the order of the event is what the store holds. -/
theorem saw_of_answers {c : Call} {r : c.Answer} {t : MemoryStore} (hanswer : s.Answers c r t)
    (hsaw : ∀ order, Saw before event.orderID order → s.orders.lookup event.orderID = some order) {order : Order}
    (h : Saw (before ++ [⟨c, r⟩]) event.orderID order) : s.orders.lookup event.orderID = some order := by
  rcases List.mem_append.mp h with hold | hnew
  · exact hsaw order hold
  · obtain ⟨rfl, hr⟩ := Sigma.mk.inj (List.mem_singleton.mp hnew)
    cases eq_of_heq hr
    have hread : s.getOrder event.orderID = .ok order := congrArg Prod.fst hanswer
    unfold MemoryStore.getOrder at hread
    cases hstored : s.orders.lookup event.orderID with
    | none =>
      rw [hstored] at hread
      cases hread
    | some stored =>
      rw [hstored] at hread
      cases hread
      rfl

theorem changedAt_of_run {rest : SagaTrace} {p : Saga (Except Error Unit)} {result : Except Error Unit}
    (hfollows : (handlerContract queue event).Follows before p) (hreturns : p.Returns rest result)
    (hthrough : Trace.Through MemoryStore.Answers s rest s') (hquiet : Never committed before)
    (hsaw : ∀ order, Saw before event.orderID order → s.orders.lookup event.orderID = some order) :
    s' = s ∧ (result = .ok () → LateDuplicate event s queue) ∨
      result = .ok () ∧ MemoryStore.ChangedAt event.orderID s s' := by
  induction hreturns generalizing before s with
  | ret a =>
    refine .inl ⟨hthrough.of_nil, ?_⟩
    rintro rfl
    obtain ⟨hvalid, ⟨x, hx, hcommitted⟩ | hnothing⟩ := hfollows.returns
    · exact absurd hcommitted (by rw [hquiet x hx]; decide)
    · exact lateDuplicate_of_nothingToDo hvalid hsaw hnothing
  | call r hnext ih =>
    rename_i c next rest a
    obtain ⟨t, hanswer, hrest⟩ := hthrough.of_cons
    -- a call that leaves the store alone is followed by the rest of the run
    have hstays : t = s → committed ⟨c, r⟩ = false → s' = s ∧ (a = .ok () → LateDuplicate event s queue) ∨
        a = .ok () ∧ MemoryStore.ChangedAt event.orderID s s' := fun ht hx =>
      ih (hfollows.next r) (ht ▸ hrest) (hquiet.snoc hx) fun order h => saw_of_answers hanswer hsaw h
    cases c with
    | port c => exact hstays hanswer rfl
    | store c =>
      rcases hfollows.allowed.2.2 with rfl | hwrite
      · exact hstays (congrArg Prod.snd hanswer).symm (by cases r <;> rfl)
      · rcases hwrite.changedAt hanswer with ⟨⟨err, rfl⟩, ht⟩ | ⟨⟨result, rfl⟩, hchanged⟩
        · exact hstays ht rfl
        · have hcommitted : committed ⟨.store c, .ok result⟩ = true := by
            simp [committed, hwrite.not_read]
          obtain ⟨rfl, rfl⟩ := returned_of_committed (hfollows.next _) hcommitted hnext
          exact .inr ⟨rfl, hrest.of_nil ▸ hchanged⟩

theorem exists_queue_of_handlerForQueue {queue : String} {deps : Dependencies} {handler : Handler}
    (h : handlerForQueue queue deps = .ok handler) :
    ∃ name : Queue, name.name = queue ∧ handler = handlerFor name deps := by
  unfold handlerForQueue at h
  split at h
  case h_1 name hfound => exact ⟨name, by simpa using List.find?_some hfound, (Except.ok.inj h).symm⟩
  case h_2 => cases h

/-- The handler of a queue comes to its end whatever the providers answer. When it returns an error the store is as
before. When it succeeds, the store is as before and the event is a late duplicate, or at most the order of the event
differs, with at most one new event naming this order and exactly one new audit entry. -/
theorem handler_atomic {queue : String} {deps : Dependencies} {handler : Handler}
    (hhandler : handlerForQueue queue deps = .ok handler) (event : OutboxEvent) (s : MemoryStore) :
    (∃ trace result s', (handler event).Returns trace result ∧ Trace.Through MemoryStore.Answers s trace s') ∧
    ∀ trace result s', (handler event).Returns trace result → Trace.Through MemoryStore.Answers s trace s' →
      (∀ err, result = .error err → s' = s) ∧
      (result = .ok () → (s' = s ∧ ∃ name, name.name = queue ∧ LateDuplicate event s name) ∨
        MemoryStore.ChangedAt event.orderID s s') := by
  obtain ⟨name, hname, rfl⟩ := exists_queue_of_handlerForQueue hhandler
  refine ⟨Prog.exists_returns MemoryStore.exists_answers _ s, ?_⟩
  intro trace result s' hreturns hthrough
  rcases changedAt_of_run (handlerFor_follows name deps event) hreturns hthrough .nil (by simp [Saw]) with
    ⟨hsame, hlate⟩ | ⟨hok, hchanged⟩
  · exact ⟨fun _ _ => hsame, fun hok => .inl ⟨hsame, name, hname, hlate hok⟩⟩
  · refine ⟨fun err herr => ?_, fun _ => .inr hchanged⟩
    rw [hok] at herr
    cases herr

/-- The order `ord_1` as it is created. -/
def placedOrder : Order := sampleService.newOrder "m1" sampleCommand "ord_1" 1

def placedEvent : OutboxEvent := Service.createdEvent placedOrder "msg_1" "corr-1" 1

/-- The store after the creation of the order. -/
def placedStore : MemoryStore :=
  (MemoryStore.semantics newMemoryStore (.insertOrder "m1" "idempotency-key-1" placedOrder placedEvent
    ⟨"m1", "ord_1", "merchant", "m1", "order.create", "corr-1", 1, []⟩)).2

/-- Answers of the outside world for a run on a store. -/
def reservingAnswer (s : MemoryStore) : (c : Call) → c.Answer × MemoryStore
  | .store c => MemoryStore.semantics s c
  | .port .clock => ((2 : Time), s)
  | .port (.newID kind) => (kind ++ "_2", s)
  | .port (.reserveInventory _) => (.ok (), s)
  | .port (.authorizePayment _) => (.error errNotFound, s)
  | .port (.createShipment _) => (.error errNotFound, s)

theorem answers_reservingAnswer (s : MemoryStore) (c : Call) :
    s.Answers c (reservingAnswer s c).1 (reservingAnswer s c).2 := by
  cases c with
  | store c => rfl
  | port c => cases c <;> rfl

/-- A reservation changes its order, and no other. -/
theorem handler_atomic_reserved : ∃ handler trace s',
    handlerForQueue "inventory.reserve" allProviders = .ok handler ∧
    (handler placedEvent).Returns trace (.ok ()) ∧
    Trace.Through MemoryStore.Answers placedStore trace s' ∧
    (placedStore.orders.lookup "ord_1").map Order.status = some .pendingFulfillment ∧
    (s'.orders.lookup "ord_1").map Order.status = some .inventoryReserved ∧
    MemoryStore.ChangedAt "ord_1" placedStore s' := by
  have hhandler : handlerForQueue "inventory.reserve" allProviders =
      .ok (handlerFor .inventoryReserve allProviders) := rfl
  have hreturns := (handlerFor .inventoryReserve allProviders placedEvent).returns_trace reservingAnswer placedStore
  have hthrough := (handlerFor .inventoryReserve allProviders placedEvent).through_trace answers_reservingAnswer
    placedStore
  have hbefore : (placedStore.orders.lookup "ord_1").map Order.status = some .pendingFulfillment := by decide +kernel
  have hafter : (((handlerFor .inventoryReserve allProviders placedEvent).run reservingAnswer
      placedStore).2.orders.lookup "ord_1").map Order.status = some .inventoryReserved := by decide +kernel
  refine ⟨_, _, _, hhandler, hreturns, hthrough, hbefore, hafter, ?_⟩
  obtain ⟨hsame, -⟩ | hchanged := ((handler_atomic hhandler _ placedStore).2 _ _ _ hreturns hthrough).2 rfl
  · rw [hsame, hbefore] at hafter
    cases hafter
  · exact hchanged

end FulfillHub
