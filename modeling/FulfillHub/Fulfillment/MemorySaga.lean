import FulfillHub.Commerce.MemoryStore
import FulfillHub.Fulfillment.Ledger

/-!
# The saga over the in-memory store

The in-memory store appends what it is handed, so the ledger applies to it. `memory_step` says what
one step of the saga can do to its orders and its outbox; it is the only place where the store's
operations are opened up for the system-wide results.
-/

namespace FulfillHub

open Interaction

variable {c : StoreCall} {orderID : String} {p : Projection} {order : Order} {i : Nat}

namespace MemoryStore

/-- What a call can do to the store. -/
inductive Outcome (s : MemoryStore) : (c : StoreCall) → Except Error c.Result → MemoryStore → Prop
  | failed (c : StoreCall) (err : Error) : Outcome s c (.error err) s
  | idle (c : StoreCall) (r : c.Result) (hevent : c.emitted r = none) (heffect : c.effect = none) :
      Outcome s c (.ok r) s
  | inserted (merchantID idempotencyKey : String) (order : Order) (event : OutboxEvent)
      (audit : AuditLog) (s' : MemoryStore) (horders : s'.orders = s.orders.insert order.orderID order)
      (houtbox : s'.outbox = s.outbox ++ [event.withEnvelopeDefaults]) :
      Outcome s (.insertOrder merchantID idempotencyKey order event audit) (.ok (some order, false)) s'
  | projected (c : StoreCall) (r : c.Result) (orderID : String) (p : Projection) (order : Order)
      (s' : MemoryStore) (heffect : c.effect = some (orderID, p))
      (horder : s.orders.lookup orderID = some order)
      (htarget : ∀ next, p.target = some next → canTransitionOrderStatus order.status next = true)
      (horders : s'.orders = s.orders.insert orderID (p.update order))
      (houtbox : s'.outbox = s.outbox ++ (p.event order).toList.map OutboxEvent.withEnvelopeDefaults) :
      Outcome s c (.ok r) s'

theorem projectUnit_outcome (s : MemoryStore) (c : ProjectorCall) (audit : AuditLog) :
    Outcome s (.projector c) (s.projectUnit c.source.orderID c.projection audit).1
      (s.projectUnit c.source.orderID c.projection audit).2 := by
  rcases project_cases s c.source.orderID c.projection audit with ⟨err, h⟩ | ⟨order, horder, htarget, h⟩
  · rw [projectUnit, h]
    exact .failed (.projector c) err
  · rw [projectUnit, h]
    exact .projected (.projector c) () _ _ order _ rfl horder htarget (commit_orders ..) (commit_outbox ..)

theorem semantics_outcome (s : MemoryStore) (c : StoreCall) : Outcome s c (semantics s c).1 (semantics s c).2 := by
  cases c with
  | insertOrder merchantID idempotencyKey order event audit =>
    simp only [semantics, insertOrder]
    split
    · exact .idle _ _ rfl rfl
    split
    · exact .failed _ _
    · exact .inserted _ _ _ _ _ _ rfl rfl
  | getOrder orderID =>
    simp only [semantics, getOrder]
    split
    · exact .failed _ _
    · exact .idle _ _ rfl rfl
  | updateOrderStatus orderID status now event audit =>
    rcases project_cases s orderID (.updateOrderStatus status now event audit) audit with
      ⟨err, h⟩ | ⟨order, horder, htarget, h⟩
    · rw [semantics, updateOrderStatus, h]
      exact .failed _ err
    · rw [semantics, updateOrderStatus, h]
      exact .projected _ _ _ _ order _ rfl horder htarget (commit_orders ..) (commit_outbox ..)
  | projector c => cases c <;> exact projectUnit_outcome s _ _

theorem Outcome.outbox {s s' : MemoryStore} {r : Except Error c.Result} (h : Outcome s c r s') :
    ∃ new : List OutboxEvent, s'.outbox = s.outbox ++ new.map OutboxEvent.withEnvelopeDefaults := by
  cases h with
  | failed => exact ⟨[], by simp⟩
  | idle => exact ⟨[], by simp⟩
  | inserted _ _ _ event _ _ _ houtbox => exact ⟨[event], houtbox⟩
  | projected _ _ _ _ _ _ _ _ _ _ houtbox => exact ⟨_, houtbox⟩

/-- A call that rewrites an order succeeds when the order is stored and may move to the target. -/
theorem semantics_eq_ok {s : MemoryStore} (heffect : c.effect = some (orderID, p))
    (horder : s.orders.lookup orderID = some order)
    (htarget : ∀ next, p.target = some next → canTransitionOrderStatus order.status next = true) :
    ∃ r, (semantics s c).1 = .ok r := by
  cases c with
  | insertOrder => cases heffect
  | getOrder => cases heffect
  | updateOrderStatus =>
    cases heffect
    exact ⟨_, congrArg Prod.fst (project_eq_ok horder htarget)⟩
  | projector c =>
    cases heffect
    exact ⟨(), projector_eq_ok horder htarget⟩

theorem event_envelope {r : c.Result} (order : Order) (h : c.effect = some (orderID, p)) :
    (p.event order).map OutboxEvent.envelope = (c.emitted r).map OutboxEvent.envelope := by
  cases c with
  | insertOrder => cases h
  | getOrder => cases h
  | updateOrderStatus => cases h; rfl
  | projector c => cases c <;> cases h <;> rfl

end MemoryStore

def memoryOutboxStore : OutboxStore MemoryStore where
  semantics := MemoryStore.semantics
  start s := s = newMemoryStore
  outbox := MemoryStore.outbox
  outbox_start := by rintro s rfl; rfl
  failed s c err h := by
    have houtcome := MemoryStore.semantics_outcome s c
    rw [h] at houtcome
    cases hs' : (MemoryStore.semantics s c).2
    rw [hs'] at houtcome
    cases houtcome
    rfl
  appended s c r h := by
    have houtcome := MemoryStore.semantics_outcome s c
    rw [h] at houtcome
    generalize (MemoryStore.semantics s c).2 = s' at houtcome
    cases houtcome with
    | idle _ _ hevent _ => simp [hevent]
    | inserted _ _ _ _ _ _ _ houtbox => simp [houtbox, StoreCall.emitted]
    | projected _ _ orderID p order _ heffect _ _ _ houtbox =>
      have henvelope := MemoryStore.event_envelope (r := r) order heffect
      rw [houtbox, List.map_append, List.map_map]
      congr 1
      cases hp : p.event order <;> cases hc : c.emitted r <;> simp_all

/-! ### One step -/

abbrev MemorySaga := SagaState MemoryStore

abbrev memorySaga (svc : Service) : Lts MemorySaga SagaLabel := saga memoryOutboxStore svc

/-- The stored order of an id. -/
def orderOf (s : MemorySaga) (orderID : String) : Option Order := s.shared.store.orders.lookup orderID

/-- The envelopes of the outbox, oldest first. -/
abbrev eventsOf (s : MemorySaga) : List Envelope := memoryOutboxStore.envelopes s

/-- What a step does to the orders and the outbox: nothing, or one run's one act. -/
inductive MemoryChange (svc : Service) (s : MemorySaga) (l : SagaLabel) (t : MemorySaga) : Prop
  | idle (horders : t.shared.store.orders = s.shared.store.orders) (hevents : eventsOf t = eventsOf s)
  | created (i : Nat) (trace : SagaTrace) (merchantID idempotencyKey correlationID orderID id : String)
      (req : CreateOrderCommand) (now : Time) (audit : AuditLog)
      (next : Except Error (Option Order × Bool) → Saga (Except Error Unit))
      (hlabel : l = .answer i (.store (.insertOrder merchantID idempotencyKey
        (svc.newOrder merchantID req orderID now)
        (Service.createdEvent (svc.newOrder merchantID req orderID now) id correlationID now) audit))
        (.ok (some (svc.newOrder merchantID req orderID now), false)))
      (hthread : s.threads[i]? = some ⟨.createOrder merchantID idempotencyKey correlationID req, trace,
        .call (.store (.insertOrder merchantID idempotencyKey (svc.newOrder merchantID req orderID now)
          (Service.createdEvent (svc.newOrder merchantID req orderID now) id correlationID now) audit)) next⟩)
      (hgiven : Given trace "ord" orderID)
      (hvalid : validateCreateOrder merchantID idempotencyKey req = .ok ())
      (horders : t.shared.store.orders =
        s.shared.store.orders.insert orderID (svc.newOrder merchantID req orderID now))
      (hevents : eventsOf t = eventsOf s ++
        [(Service.createdEvent (svc.newOrder merchantID req orderID now) id correlationID now).envelope])
  | projected (i : Nat) (c : StoreCall) (r : c.Result) (job : Job) (trace : SagaTrace)
      (next : Except Error c.Result → Saga (Except Error Unit)) (orderID : String) (p : Projection)
      (order : Order) (hlabel : l = .answer i (.store c) (.ok r))
      (hthread : s.threads[i]? = some ⟨job, trace, .call (.store c) next⟩)
      (hwrites : job.Writes svc trace c) (heffect : c.effect = some (orderID, p))
      (horder : orderOf s orderID = some order)
      (htarget : ∀ status, p.target = some status → canTransitionOrderStatus order.status status = true)
      (horders : t.shared.store.orders = s.shared.store.orders.insert orderID (p.update order))
      (hevents : eventsOf t = eventsOf s ++ (c.emitted r).toList.map OutboxEvent.envelope)

variable {svc : Service} {cond : MemorySaga → SagaLabel → Prop} {s t : MemorySaga} {l : SagaLabel}

theorem StoreCall.not_read_of_effect {x : String × Projection} (h : c.effect = some x) : c.isRead = false := by
  cases c <;> first | rfl | cases h

theorem outbox_of_step (hstep : (sagaSpec memoryOutboxStore svc).Step s l t) : ∃ new : List OutboxEvent,
    t.shared.store.outbox = s.shared.store.outbox ++ new.map OutboxEvent.withEnvelopeDefaults := by
  cases hstep with
  | spawn job => exact ⟨[], by simp⟩
  | @answer i job trace c next r shared hthread hanswer =>
    cases c with
    | port c => exact ⟨[], by simp [Answers.store_eq hanswer]⟩
    | store c =>
      obtain ⟨_, rfl⟩ := hanswer
      exact (MemoryStore.semantics_outcome s.shared.store c).outbox

/-- **One step of the saga.** -/
theorem memory_step (hs : (memorySaga svc).Reachable cond s)
    (hstep : (sagaSpec memoryOutboxStore svc).Step s l t) : MemoryChange svc s l t := by
  rcases envelopes_of_step hstep with ⟨job, rfl, hevents⟩ | ⟨i, c, r, rfl, hevents⟩
  · cases hstep
    exact .idle rfl hevents
  cases c with
  | port c =>
    refine .idle ?_ (by simpa [emittedBy] using hevents)
    cases hstep with
    | answer _ hanswer => rw [Answers.store_eq hanswer]
  | store c =>
    have houtcome := MemoryStore.semantics_outcome s.shared.store c
    have hanswer : (MemoryStore.semantics s.shared.store c).1 = r ∧
        t.shared.store = (MemoryStore.semantics s.shared.store c).2 := by
      cases hstep with
      | answer _ hanswer => exact ⟨hanswer.1, by rw [hanswer.2]; rfl⟩
    rw [hanswer.1, ← hanswer.2] at houtcome
    generalize hstore : t.shared.store = store at houtcome
    cases houtcome with
    | failed _ err => exact .idle (by rw [hstore]) (by simpa [emittedBy] using hevents)
    | idle _ r hevent _ => exact .idle (by rw [hstore]) (by simpa [emittedBy, hevent] using hevents)
    | inserted merchantID idempotencyKey order event audit _ horders _ =>
      obtain ⟨job, trace, next, hthread, hwrites, -, -, -⟩ := writes_of_step hs hstep rfl
      cases hwrites with
      | create hgiven _ hvalid =>
        exact .created i trace _ _ _ _ _ _ _ _ next rfl hthread hgiven hvalid
          (by rw [hstore, horders]; rfl) hevents
      | handle _ hwrite => cases hwrite
    | projected _ r orderID p order _ heffect horder htarget horders _ =>
      obtain ⟨job, trace, next, hthread, hwrites, -, -, -⟩ :=
        writes_of_step hs hstep (StoreCall.not_read_of_effect heffect)
      refine .projected i c r job trace next orderID p order rfl hthread hwrites heffect horder
        htarget (by rw [hstore, horders]) ?_
      refine hevents.trans ?_
      simp only [emittedBy]
      cases c.emitted r <;> rfl

/-! ### Orders and their events -/

/-- The events of one order, oldest first. -/
def eventsFor (s : MemorySaga) (orderID : String) : List Envelope :=
  (eventsOf s).filter fun env => env.orderID = orderID

/-- The order has an event of this type in the outbox. -/
def HasEvent (s : MemorySaga) (orderID : String) (eventType : EventType) : Prop :=
  ∃ env ∈ eventsOf s, env.orderID = orderID ∧ env.eventType = eventType

/-- An act on an order writes an event of that order, and no second `order.created`. -/
theorem Job.Writes.emitted_of_effect {job : Job} {trace : SagaTrace} {r : c.Result} {event : OutboxEvent}
    (hwrites : job.Writes svc trace c) (heffect : c.effect = some (orderID, p)) (hevent : c.emitted r = some event) :
    event.orderID = orderID ∧ event.eventType ≠ .orderCreated := by
  cases hwrites with
  | create => cases heffect
  | cancel => cases heffect; cases hevent; exact ⟨rfl, by simp [cancelRequestedEvent]⟩
  | handle _ hwrite =>
    cases hwrite <;> cases heffect <;> cases hevent <;> exact ⟨rfl, by simp [nextEventAt]⟩

theorem orderOf_insert (h : t.shared.store.orders = s.shared.store.orders.insert orderID order) (id : String) :
    orderOf t id = if id = orderID then some order else orderOf s id := by
  rw [orderOf, h]
  split_ifs with hid
  · rw [hid, Finmap.lookup_insert]
  · rw [Finmap.lookup_insert_of_ne _ hid]
    rfl

theorem orderOf_congr (h : t.shared.store.orders = s.shared.store.orders) (id : String) :
    orderOf t id = orderOf s id := by
  rw [orderOf, h]
  rfl

/-- **An order is stored exactly when its `order.created` event is in the outbox.** -/
theorem order_iff_created (hs : (memorySaga svc).Reachable cond s) :
    (∃ order, orderOf s orderID = some order) ↔ HasEvent s orderID .orderCreated := by
  refine Lts.Reachable.invariant (P := fun s =>
    (∃ order, orderOf s orderID = some order) ↔ HasEvent s orderID .orderCreated) ?_ ?_ hs
  · rintro s ⟨⟨hstart, _⟩, _⟩
    have hstore : s.shared.store = newMemoryStore := hstart
    simp [orderOf, HasEvent, eventsOf, OutboxStore.envelopes, memoryOutboxStore, hstore, newMemoryStore]
  · intro s l t hreach ih hstep _
    rcases memory_step hreach hstep with ⟨horders, hevents⟩ |
      ⟨i, trace, merchantID, key, corr, newID, id, req, now, audit, next, _, _, _, _, horders, hevents⟩ |
      ⟨i, c, r, job, trace, next, changedID, p, order, _, _, hwrites, heffect, horder, _, horders, hevents⟩
    · rw [orderOf_congr horders, HasEvent, hevents]
      exact ih
    · rw [orderOf_insert horders, HasEvent, hevents]
      by_cases hid : orderID = newID
      · subst hid
        simp [OutboxEvent.envelope, Service.createdEvent, Service.newOrder]
      · simp only [hid, if_false, List.mem_append, List.mem_singleton]
        rw [ih]
        constructor
        · rintro ⟨env, henv, h⟩
          exact ⟨env, .inl henv, h⟩
        · rintro ⟨env, henv | rfl, h⟩
          · exact ⟨env, henv, h⟩
          · exact absurd h.1.symm hid
    · have hnew : ∀ env ∈ (c.emitted r).toList.map OutboxEvent.envelope, env.eventType ≠ .orderCreated := by
        intro env henv
        obtain ⟨event, hevent, rfl⟩ := List.mem_map.mp henv
        exact (hwrites.emitted_of_effect heffect (Option.mem_toList.mp hevent)).2
      have hsame : (∃ order, orderOf t orderID = some order) ↔ ∃ order, orderOf s orderID = some order := by
        rw [orderOf_insert horders]
        split_ifs with hid
        · subst hid
          simp [horder]
        · rfl
      rw [hsame, ih, HasEvent, HasEvent, hevents]
      constructor
      · rintro ⟨env, henv, h⟩
        exact ⟨env, List.mem_append_left _ henv, h⟩
      · rintro ⟨env, henv, h⟩
        rcases List.mem_append.mp henv with henv | henv
        · exact ⟨env, henv, h⟩
        · exact absurd h.2 (hnew env henv)

theorem orderOf_eq_none_of_given (hs : (memorySaga svc).Reachable cond s) {job : Job} {trace : SagaTrace} {c : Call}
    {next : c.Answer → Saga (Except Error Unit)} (hthread : s.threads[i]? = some ⟨job, trace, .call c next⟩)
    (hgiven : Given trace "ord" orderID) : orderOf s orderID = none := by
  by_contra hsome
  obtain ⟨env, henv, rfl, htype⟩ := (order_iff_created hs).mp (Option.ne_none_iff_exists'.mp hsome)
  obtain ⟨j, u, trace', c', r, event, hu, hacted, _, rfl, hgiven'⟩ := writer_of_created hs henv htype
  have hij := (idsApart_of_reachable hs).apart i j _ u hthread hu _ _ _ hgiven (hacted.given hgiven')
  subst hij
  rw [hthread] at hu
  cases hu
  cases hacted.succeeded

theorem order_of_event (hs : (memorySaga svc).Reachable cond s) {env : Envelope} (henv : env ∈ eventsOf s) :
    ∃ order, orderOf s env.orderID = some order := by
  refine Lts.Reachable.invariant (P := fun s => ∀ env ∈ eventsOf s, ∃ order,
    orderOf s env.orderID = some order) ?_ ?_ hs env henv
  · rintro s ⟨⟨hstart, _⟩, _⟩ env henv
    simp [eventsOf, OutboxStore.envelopes, memoryOutboxStore.outbox_start _ hstart] at henv
  · intro s l t hreach ih hstep _ env henv
    rcases memory_step hreach hstep with ⟨horders, hevents⟩ |
      ⟨i, trace, merchantID, key, corr, newID, id, req, now, audit, next, _, _, _, _, horders, hevents⟩ |
      ⟨i, c, r, job, trace, next, changedID, p, order, _, _, hwrites, heffect, horder, _, horders, hevents⟩
    · rw [orderOf_congr horders]
      exact ih env (hevents ▸ henv)
    · rw [orderOf_insert horders]
      split_ifs with hid
      · exact ⟨_, rfl⟩
      · rw [hevents, List.mem_append, List.mem_singleton] at henv
        rcases henv with henv | rfl
        · exact ih env henv
        · exact absurd rfl hid
    · rw [orderOf_insert horders]
      split_ifs with hid
      · exact ⟨_, rfl⟩
      · rw [hevents, List.mem_append] at henv
        rcases henv with henv | henv
        · exact ih env henv
        · obtain ⟨event, hevent, rfl⟩ := List.mem_map.mp henv
          exact absurd (hwrites.emitted_of_effect heffect (Option.mem_toList.mp hevent)).1 hid

theorem created_of_step (hs : (memorySaga svc).Reachable cond s) (hstep : (sagaSpec memoryOutboxStore svc).Step s l t)
    (hold : orderOf s orderID = none) (hnew : orderOf t orderID = some order) :
    ∃ merchantID req now env, order = svc.newOrder merchantID req orderID now ∧
      eventsOf t = eventsOf s ++ [env] ∧ env.eventType = .orderCreated := by
  rcases memory_step hs hstep with ⟨horders, _⟩ |
    ⟨i, trace, merchantID, key, corr, newID, id, req, now, audit, next, _, _, _, _, horders, hevents⟩ |
    ⟨i, c, r, job, trace, next, changedID, p, order', _, _, _, _, horder', _, horders, _⟩
  · rw [orderOf_congr horders, hold] at hnew
    cases hnew
  · rw [orderOf_insert horders] at hnew
    split_ifs at hnew with hid
    · subst hid
      cases hnew
      exact ⟨merchantID, req, now, _, rfl, hevents, rfl⟩
    · rw [hold] at hnew
      cases hnew
  · rw [orderOf_insert horders] at hnew
    split_ifs at hnew with hid
    · subst hid
      rw [hold] at horder'
      cases horder'
    · rw [hold] at hnew
      cases hnew

theorem hasEvent_mono (hstep : (sagaSpec memoryOutboxStore svc).Step s l t) {eventType : EventType}
    (h : HasEvent s orderID eventType) : HasEvent t orderID eventType := by
  obtain ⟨env, henv, h⟩ := h
  exact ⟨env, envelopes_subset_of_step hstep henv, h⟩

theorem orderOf_of_read
    (hstep : (sagaSpec memoryOutboxStore svc).Step s (.answer i (.store (.getOrder orderID)) (.ok order)) t) :
    orderOf s orderID = some order := by
  cases hstep with
  | answer _ hanswer =>
    have hread : s.shared.store.getOrder orderID = .ok order := hanswer.1
    unfold MemoryStore.getOrder at hread
    split at hread
    · cases hread
    · rename_i order' horder
      cases hread
      exact horder

theorem orderOf_of_success {r : c.Result}
    (hstep : (sagaSpec memoryOutboxStore svc).Step s (.answer i (.store c) (.ok r)) t)
    (heffect : c.effect = some (orderID, p)) :
    ∃ order, orderOf s orderID = some order ∧ orderOf t orderID = some (p.update order) := by
  cases hstep with
  | answer _ hanswer =>
    obtain ⟨hr, rfl⟩ := hanswer
    have houtcome := MemoryStore.semantics_outcome s.shared.store c
    rw [show (MemoryStore.semantics s.shared.store c).1 = .ok r from hr] at houtcome
    generalize hstore : (MemoryStore.semantics s.shared.store c).2 = store at houtcome
    cases houtcome with
    | idle _ _ _ hnone => cases heffect.symm.trans hnone
    | inserted => cases heffect
    | projected _ _ orderID' p' order _ heffect' horder _ horders _ =>
      cases heffect.symm.trans heffect'
      refine ⟨order, horder, ?_⟩
      rw [orderOf, show (memoryOutboxStore.semantics s.shared.store c).2 = store from hstore, horders,
        Finmap.lookup_insert]

theorem transition_of_success {r : c.Result}
    (hstep : (sagaSpec memoryOutboxStore svc).Step s (.answer i (.store c) (.ok r)) t)
    (heffect : c.effect = some (orderID, p)) : ∃ order, orderOf s orderID = some order ∧
      ∀ next, p.target = some next → canTransitionOrderStatus order.status next = true := by
  cases hstep with
  | answer _ hanswer =>
    have houtcome := MemoryStore.semantics_outcome s.shared.store c
    rw [show (MemoryStore.semantics s.shared.store c).1 = .ok r from hanswer.1] at houtcome
    generalize (MemoryStore.semantics s.shared.store c).2 = store at houtcome
    cases houtcome with
    | idle _ _ _ hnone => cases heffect.symm.trans hnone
    | inserted => cases heffect
    | projected _ _ orderID' p' order _ heffect' horder htarget =>
      cases heffect.symm.trans heffect'
      exact ⟨order, horder, htarget⟩

/-! ### The whole store -/

/-- The audit entry a projector call hands over. -/
def ProjectorCall.audit : ProjectorCall → AuditLog
  | .recordInventoryReserved _ _ audit | .recordInventoryRejected _ _ audit
  | .recordPaymentAuthorized _ _ _ audit | .recordPaymentFailed _ _ audit
  | .recordShipmentCreated _ _ _ audit | .recordShipmentFailed _ _ audit
  | .recordOrderCancelled _ _ audit | .recordNotificationQueued _ audit
  | .recordCompensation _ _ audit => audit

/-- The audit entry a call hands over. -/
def StoreCall.audit : StoreCall → Option AuditLog
  | .insertOrder _ _ _ _ audit | .updateOrderStatus _ _ _ _ audit => some audit
  | .getOrder _ => none
  | .projector c => some c.audit

namespace MemoryStore

/-- The store after an order has been inserted. -/
def withOrder (s : MemoryStore) (merchantID idempotencyKey : String) (order : Order) (event : OutboxEvent)
    (audit : AuditLog) : MemoryStore where
  orders := s.orders.insert order.orderID order
  ordersByExternal := s.ordersByExternal.insert (scopedKey merchantID order.externalOrderID) order.orderID
  ordersByIdempotency := s.ordersByIdempotency.insert (scopedKey merchantID idempotencyKey) order.orderID
  outbox := s.outbox ++ [event.withEnvelopeDefaults]
  auditLogs := s.auditLogs ++ [audit]

/-- A call that has written to the store. -/
inductive Written (s : MemoryStore) : (c : StoreCall) → c.Result → MemoryStore → Prop
  | inserted (merchantID idempotencyKey : String) (order : Order) (event : OutboxEvent) (audit : AuditLog)
      (hkey : s.ordersByIdempotency.lookup (scopedKey merchantID idempotencyKey) = none)
      (hexternal : s.ordersByExternal.lookup (scopedKey merchantID order.externalOrderID) = none) :
      Written s (.insertOrder merchantID idempotencyKey order event audit) (some order, false)
        (s.withOrder merchantID idempotencyKey order event audit)
  | projected (c : StoreCall) (r : c.Result) (orderID : String) (p : Projection) (order : Order)
      (audit : AuditLog) (heffect : c.effect = some (orderID, p)) (haudit : c.audit = some audit)
      (horder : s.orders.lookup orderID = some order)
      (htarget : ∀ next, p.target = some next → canTransitionOrderStatus order.status next = true) :
      Written s c r (s.commit orderID (p.update order) (p.event order) audit)

theorem projectUnit_written (s : MemoryStore) (c : ProjectorCall) :
    (s.projectUnit c.source.orderID c.projection c.audit).2 = s ∨
      Written s (.projector c) () (s.projectUnit c.source.orderID c.projection c.audit).2 ∧
        (s.projectUnit c.source.orderID c.projection c.audit).1 = .ok () := by
  rcases project_cases s c.source.orderID c.projection c.audit with ⟨err, h⟩ | ⟨order, horder, htarget, h⟩
  · exact .inl (by rw [projectUnit, h])
  · refine .inr ?_
    rw [projectUnit, h]
    exact ⟨.projected (.projector c) () _ _ order _ rfl rfl horder htarget, rfl⟩

theorem semantics_written (s : MemoryStore) (c : StoreCall) :
    (semantics s c).2 = s ∨ ∃ r, (semantics s c).1 = .ok r ∧ Written s c r (semantics s c).2 := by
  cases c with
  | insertOrder merchantID idempotencyKey order event audit =>
    simp only [semantics, insertOrder]
    split
    · exact .inl rfl
    rename_i hkey
    split
    · exact .inl rfl
    rename_i hexternal
    exact .inr ⟨_, rfl, .inserted _ _ _ _ _ hkey hexternal⟩
  | getOrder orderID => exact .inl rfl
  | updateOrderStatus orderID status now event audit =>
    rcases project_cases s orderID (.updateOrderStatus status now event audit) audit with
      ⟨err, h⟩ | ⟨order, horder, htarget, h⟩
    · exact .inl (by rw [semantics, updateOrderStatus, h])
    · refine .inr ⟨(Projection.updateOrderStatus status now event audit).update order, ?_⟩
      rw [semantics, updateOrderStatus, h]
      exact ⟨rfl, .projected _ _ _ _ order _ rfl rfl horder htarget⟩
  | projector c =>
    have hunit : (s.projector c) = s.projectUnit c.source.orderID c.projection c.audit := by
      cases c <;> rfl
    rcases projectUnit_written s c with h | ⟨h, hok⟩
    · exact .inl (by rw [semantics, hunit]; exact h)
    · exact .inr ⟨(), by rw [semantics, hunit]; exact ⟨hok, h⟩⟩

end MemoryStore

/-- What a step does to the store: nothing, or one run's one act. -/
inductive StoreChange (svc : Service) (s : MemorySaga) (l : SagaLabel) (t : MemorySaga) : Prop
  | unchanged (hstore : t.shared.store = s.shared.store)
  | written (i : Nat) (c : StoreCall) (r : c.Result) (job : Job) (trace : SagaTrace)
      (next : Except Error c.Result → Saga (Except Error Unit)) (hlabel : l = .answer i (.store c) (.ok r))
      (hthread : s.threads[i]? = some ⟨job, trace, .call (.store c) next⟩)
      (hwrites : job.Writes svc trace c) (hwritten : s.shared.store.Written c r t.shared.store)

theorem MemoryStore.Written.not_read {s s' : MemoryStore} {r : c.Result} (h : s.Written c r s') : c.isRead = false := by
  cases h with
  | inserted => rfl
  | projected _ _ _ _ _ _ heffect => exact StoreCall.not_read_of_effect heffect

theorem store_step (hs : (memorySaga svc).Reachable cond s)
    (hstep : (sagaSpec memoryOutboxStore svc).Step s l t) : StoreChange svc s l t := by
  cases hstep with
  | spawn job => exact .unchanged rfl
  | @answer i job trace c next r shared hthread hanswer =>
    cases c with
    | port c => exact .unchanged (Answers.store_eq hanswer)
    | store c =>
      have hstep' := PoolSpec.Step.answer (P := sagaSpec memoryOutboxStore svc) hthread hanswer
      obtain ⟨hr, rfl⟩ := hanswer
      rcases MemoryStore.semantics_written s.shared.store c with hsame | ⟨r', hr', hwritten⟩
      · exact .unchanged hsame
      · cases hr.symm.trans hr'
        obtain ⟨job', trace', next', hthread', hwrites, -⟩ := writes_of_step hs hstep' hwritten.not_read
        exact .written i c r' job' trace' next' rfl hthread' hwrites hwritten

end FulfillHub
