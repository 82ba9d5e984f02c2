import FulfillHub.Fulfillment.Script

/-!
# The statuses the outbox announces

Consumers outside the store see an order only through its events. Each event that moves an order
carries the new status in its payload, so the last status announced for an order is its stored one,
with one exception: a compensation moves the order and appends nothing.
-/

namespace FulfillHub

open Interaction

variable {svc : Service} {cond : MemorySaga → SagaLabel → Prop} {s t : MemorySaga} {l : SagaLabel}
  {orderID : String} {order : Order} {event : OutboxEvent}

/-- The payload field `order_status` of an event, if it carries one. -/
def OutboxEvent.announcedStatus (e : OutboxEvent) : Option Value := e.payload.lookup "order_status"

/-- The statuses announced for an order in a list of events, oldest first. -/
def announcedIn (orderID : String) (events : List OutboxEvent) : List Value :=
  (events.filter fun e => e.orderID = orderID).filterMap OutboxEvent.announcedStatus

theorem announcedIn_append (events new : List OutboxEvent) :
    announcedIn orderID (events ++ new) = announcedIn orderID events ++ announcedIn orderID new := by
  simp [announcedIn]

/-- The statuses the outbox announces for an order, oldest first. -/
def announcements (s : MemorySaga) (orderID : String) : List Value := announcedIn orderID s.shared.store.outbox

def statusOf (s : MemorySaga) (orderID : String) : Option OrderStatus := (orderOf s orderID).map Order.status

/-! ### What an operation announces -/

/-- What an operation does to the status of its order: it announces the new one, or it leaves the
status alone and announces nothing, or it is a compensation, which moves the order without an event. -/
inductive StoreCall.Announces (c : StoreCall) (p : Projection) (order : Order) : Prop
  | announced (event : OutboxEvent) (hevent : p.event order = some event)
      (hstatus : event.withEnvelopeDefaults.announcedStatus = some (.str (p.update order).status.text))
  | quiet (hstatus : (p.update order).status = order.status)
      (hevent : ∀ event, p.event order = some event → event.withEnvelopeDefaults.announcedStatus = none)
  | compensated (source : OutboxEvent) (status : OrderStatus) (audit : AuditLog)
      (hcall : c = .projector (.recordCompensation source status audit))

theorem announcedStatus_of_lookup {e : OutboxEvent} {key : String} {value : Value}
    (h : e.payload.lookup key = some value) :
    e.withEnvelopeDefaults.announcedStatus = e.payload.lookup "order_status" := by
  rw [OutboxEvent.announcedStatus, OutboxEvent.withEnvelopeDefaults_payload]
  rintro hnil
  rw [hnil] at h
  cases h

theorem announcedStatus_failurePayload {e : OutboxEvent} {stage reason : String}
    (h : e.payload = failurePayload stage reason) : e.withEnvelopeDefaults.announcedStatus = none := by
  have hlookup : e.payload.lookup "failure" = some (.obj [("stage", .str stage),
      ("reason", .str (if reason = "" then "unspecified" else reason))]) := by rw [h]; rfl
  rw [announcedStatus_of_lookup hlookup, h]
  rfl

theorem StoreCall.announces {c : StoreCall} {p : Projection} (heffect : c.effect = some (orderID, p))
    (order : Order) : c.Announces p order := by
  have hannounced : ∀ {event : OutboxEvent} {status : OrderStatus}, p.event order = some event →
      (p.update order).status = status → event.payload.lookup "order_status" = some (.str status.text) →
      c.Announces p order := by
    intro event status hevent hstatus hlookup
    refine .announced event hevent ?_
    rw [announcedStatus_of_lookup hlookup, hlookup, hstatus]
  have hquiet : ∀ {event : OutboxEvent} {stage reason : String}, p.event order = some event →
      (p.update order).status = order.status → event.payload = failurePayload stage reason →
      c.Announces p order := by
    intro event stage reason hevent hstatus hpayload
    refine .quiet hstatus fun event' hevent' => ?_
    cases hevent.symm.trans hevent'
    exact announcedStatus_failurePayload hpayload
  cases c with
  | insertOrder => cases heffect
  | getOrder => cases heffect
  | updateOrderStatus => cases heffect; exact hannounced rfl rfl (lookup_orderStatusEventPayload ..)
  | projector c =>
    cases c with
    | recordInventoryReserved => cases heffect; exact hannounced rfl rfl rfl
    | recordInventoryRejected => cases heffect; exact hquiet rfl rfl rfl
    | recordPaymentAuthorized => cases heffect; exact hannounced rfl rfl rfl
    | recordPaymentFailed => cases heffect; exact hquiet rfl rfl rfl
    | recordShipmentCreated => cases heffect; exact hannounced rfl rfl rfl
    | recordShipmentFailed => cases heffect; exact hquiet rfl rfl rfl
    | recordOrderCancelled source next audit =>
      cases heffect
      exact hannounced rfl rfl
        (lookup_orderStatusEventPayload .cancelled next.occurredAt audit next.payload)
    | recordNotificationQueued => cases heffect; exact .quiet rfl nofun
    | recordCompensation source status audit => exact .compensated source status audit rfl

/-! ### One step -/

/-- A compensation of the order that succeeds, with its target. -/
def CompensatesTo (orderID : String) (status : OrderStatus) (l : SagaLabel) : Prop :=
  ∃ i source audit, source.orderID = orderID ∧
    l = .answer i (.store (.projector (.recordCompensation source status audit))) (.ok ())

/-- What a step does to the status of an order and to what the outbox announces for it. -/
inductive StatusStep (s : MemorySaga) (l : SagaLabel) (t : MemorySaga) (orderID : String) : Prop
  | kept (hstatus : statusOf t orderID = statusOf s orderID)
      (hannounced : announcements t orderID = announcements s orderID)
  | announced (status : OrderStatus) (hstatus : statusOf t orderID = some status)
      (hannounced : announcements t orderID = announcements s orderID ++ [.str status.text])
  | compensated (status : OrderStatus) (hlabel : CompensatesTo orderID status l)
      (hstatus : statusOf t orderID = some status)
      (hannounced : announcements t orderID = announcements s orderID)

theorem statusOf_insert {changedID : String}
    (h : t.shared.store.orders = s.shared.store.orders.insert changedID order) (orderID : String) :
    statusOf t orderID = if orderID = changedID then some order.status else statusOf s orderID := by
  rw [statusOf, orderOf_insert h]
  split_ifs <;> rfl

theorem announcements_of_outbox {new : List OutboxEvent} (h : t.shared.store.outbox = s.shared.store.outbox ++ new) :
    announcements t orderID = announcements s orderID ++ announcedIn orderID new := by
  rw [announcements, h, announcedIn_append]
  rfl

theorem announcedIn_other (h : event.orderID ≠ orderID) : announcedIn orderID [event.withEnvelopeDefaults] = [] := by
  simp [announcedIn, h]

theorem announcedIn_own (h : event.orderID = orderID) :
    announcedIn orderID [event.withEnvelopeDefaults] =
      event.withEnvelopeDefaults.announcedStatus.toList := by
  rw [announcedIn, List.filter_cons_of_pos (by simp [h])]
  cases hstatus : event.withEnvelopeDefaults.announcedStatus <;> simp [hstatus]

theorem status_of_event {changedID : String}
    (horders : t.shared.store.orders = s.shared.store.orders.insert changedID order)
    (houtbox : t.shared.store.outbox = s.shared.store.outbox ++ [event.withEnvelopeDefaults])
    (hevent : event.orderID = changedID)
    (hstatus : event.withEnvelopeDefaults.announcedStatus = some (.str order.status.text)) (orderID : String) :
    StatusStep s l t orderID := by
  by_cases hid : orderID = changedID
  · refine .announced order.status (by rw [statusOf_insert horders, if_pos hid]) ?_
    rw [announcements_of_outbox houtbox, announcedIn_own (hevent.trans hid.symm), hstatus]
    rfl
  · refine .kept (by rw [statusOf_insert horders, if_neg hid]) ?_
    rw [announcements_of_outbox houtbox, announcedIn_other (hevent ▸ Ne.symm hid), List.append_nil]

/-- The event a write appends is one of the order it rewrites. -/
theorem Job.Writes.event_orderID {job : Job} {trace : SagaTrace} {c : StoreCall} (r : c.Result) {p : Projection}
    (hwrites : job.Writes svc trace c) (heffect : c.effect = some (orderID, p)) (hevent : p.event order = some event) :
    event.orderID = orderID := by
  have hsame := MemoryStore.event_envelope (r := r) order heffect
  rw [hevent] at hsame
  obtain ⟨emitted, hemitted, henvelope⟩ := Option.map_eq_some_iff.mp hsame.symm
  rw [← (hwrites.emitted_of_effect heffect hemitted).1]
  exact (congrArg Envelope.orderID henvelope).symm

theorem status_step (hs : (memorySaga svc).Reachable cond s)
    (hstep : (sagaSpec memoryOutboxStore svc).Step s l t) (orderID : String) :
    StatusStep s l t orderID := by
  cases store_step hs hstep with
  | unchanged hstore => exact .kept (by simp [statusOf, orderOf, hstore]) (by simp [announcements, hstore])
  | written i c r job trace next hlabel hthread hwrites hwritten =>
    generalize hstore : t.shared.store = store at hwritten
    cases hwritten with
    | inserted merchantID key order event audit =>
      have hevent : event.orderID = order.orderID ∧
          event.payload.lookup "order_status" = some (.str order.status.text) := by
        cases hwrites with
        | create => exact ⟨rfl, rfl⟩
        | handle _ hwrite => cases hwrite
      exact status_of_event (by rw [hstore]; rfl) (by rw [hstore]; rfl) hevent.1
        (by rw [announcedStatus_of_lookup hevent.2, hevent.2]) orderID
    | projected _ _ changedID p order audit heffect haudit horder =>
      have horders : t.shared.store.orders = s.shared.store.orders.insert changedID (p.update order) := by
        rw [hstore, MemoryStore.commit_orders]
      have houtbox := MemoryStore.commit_outbox (s := s.shared.store) changedID (p.update order)
        (p.event order) audit
      rw [← hstore] at houtbox
      cases c.announces heffect order with
      | announced event hevent hstatus =>
        rw [hevent] at houtbox
        exact status_of_event horders houtbox (hwrites.event_orderID r heffect hevent) hstatus orderID
      | quiet hstatus hevent =>
        refine .kept ?_ ?_
        · rw [statusOf_insert horders, hstatus]
          split_ifs with hid
          · rw [hid, statusOf, show orderOf s changedID = _ from horder]
            rfl
          · rfl
        · rw [announcements_of_outbox houtbox]
          cases hp : p.event order with
          | none => simp [announcedIn]
          | some event =>
            by_cases hid : event.orderID = orderID
            · simp [announcedIn_own hid, hevent event hp]
            · simp [announcedIn_other hid]
      | compensated source status audit hcall =>
        subst hcall
        have hsame : announcements t orderID = announcements s orderID := by
          cases heffect
          rw [announcements_of_outbox houtbox]
          exact List.append_nil _
        by_cases hid : orderID = changedID
        · refine .compensated status ⟨i, source, audit, ?_, hlabel⟩ ?_ hsame
          · cases heffect
            exact hid.symm
          · rw [statusOf_insert horders, if_pos hid]
            cases heffect
            rfl
        · exact .kept (by rw [statusOf_insert horders, if_neg hid]) hsame

/-! ### Whole runs -/

/-- The last status the outbox announces for the order. -/
def Announced (s : MemorySaga) (orderID : String) (status : OrderStatus) : Prop :=
  (announcements s orderID).getLast? = some (.str status.text)

/-- A compensation has moved the order to this status, and nothing has been announced for it since. -/
def CompensatedSince (svc : Service) (s : MemorySaga) (orderID : String) (status : OrderStatus) : Prop :=
  ∃ u l v ls, (memorySaga svc).Reachable Lts.anyStep u ∧ (memorySaga svc).step u l v ∧
    CompensatesTo orderID status l ∧ (memorySaga svc).Path Lts.anyStep v ls s ∧
    announcements s orderID = announcements u orderID

theorem CompensatedSince.step {status : OrderStatus} (h : CompensatedSince svc s orderID status)
    (hstep : (memorySaga svc).step s l t) (hsame : announcements t orderID = announcements s orderID) :
    CompensatedSince svc t orderID status := by
  obtain ⟨u, l', v, ls, hu, hfirst, hcompensates, hpath, hannounced⟩ := h
  exact ⟨u, l', v, ls ++ [l], hu, hfirst, hcompensates, hpath.snoc hstep trivial, hsame.trans hannounced⟩

/-- **The outbox tells the status of an order, compensations apart.** In every reachable state the last
status announced for an order is its stored status, unless a compensation has moved the order there since;
and a step that changes the status of an order announces the new one, or is a compensation. -/
theorem status_announced_or_compensated (svc : Service) {s : MemorySaga}
    (hs : (memorySaga svc).Reachable Lts.anyStep s) :
    (∀ orderID status, statusOf s orderID = some status →
      Announced s orderID status ∨ CompensatedSince svc s orderID status) ∧
    ∀ l t, (memorySaga svc).step s l t → ∀ orderID, statusOf t orderID ≠ statusOf s orderID →
      ∃ status, statusOf t orderID = some status ∧
        (announcements t orderID = announcements s orderID ++ [.str status.text] ∨
          CompensatesTo orderID status l) := by
  constructor
  · refine Lts.Reachable.invariant (P := fun s => ∀ orderID status, statusOf s orderID = some status →
      Announced s orderID status ∨ CompensatedSince svc s orderID status) ?_ ?_ hs
    · rintro s ⟨⟨hstart, _⟩, _⟩ orderID status hstatus
      have hstore : s.shared.store = newMemoryStore := hstart
      simp [statusOf, orderOf, hstore, newMemoryStore] at hstatus
    · intro s l t hreach ih hstep _ orderID status hstatus
      cases status_step hreach hstep orderID with
      | kept hkept hannounced =>
        rcases ih orderID status (hkept ▸ hstatus) with hlast | hcompensated
        · exact .inl (by rw [Announced, hannounced]; exact hlast)
        · exact .inr (hcompensated.step hstep hannounced)
      | announced status' hstatus' hannounced =>
        cases hstatus.symm.trans hstatus'
        exact .inl (by simp [Announced, hannounced])
      | compensated status' hlabel hstatus' hannounced =>
        cases hstatus.symm.trans hstatus'
        exact .inr ⟨s, l, t, [], hreach, hstep, hlabel, .nil t, hannounced⟩
  · intro l t hstep orderID hchanged
    cases status_step hs hstep orderID with
    | kept hkept => exact absurd hkept hchanged
    | announced status hstatus hannounced => exact ⟨status, hstatus, .inl hannounced⟩
    | compensated status hlabel hstatus => exact ⟨status, hstatus, .inr hlabel⟩

def Value.text : Value → Option String
  | .str s => some s
  | _ => none

def lastAnnounced (s : MemorySaga) (orderID : String) : Option String :=
  (announcements s orderID).getLast?.bind Value.text

theorem announced_iff {status : OrderStatus} : Announced s orderID status ↔
    lastAnnounced s orderID = some status.text := by
  rw [Announced, lastAnnounced]
  cases (announcements s orderID).getLast? with
  | none => simp
  | some value => cases value <;> simp [Value.text]

def reservationActs : List Act :=
  createActs ++ [.handle .inventoryReserve allProviders 0, .reply 1 (.time 2), .reply 1 (.reservation (.ok ())),
    .reply 1 (.id "2"), .store 1]

/-- The payment of a reserved order fails, and its compensation cancels the order. -/
theorem exists_declined : ∃ s, (memorySaga sampleService).Reachable Lts.anyStep s ∧
    statusOf s "ord_1" = some .cancelled ∧ ¬ Announced s "ord_1" .cancelled := by
  obtain ⟨s, hs, hstatus, hlast⟩ := (memorySimulator sampleService).exists_reachable
    (Q := fun s => statusOf s "ord_1" = some .cancelled ∧ lastAnnounced s "ord_1" = some "inventory_reserved")
    decides_anyStep reachable_emptySaga (reservationActs ++
      [.handle .paymentsAuthorize allProviders 1, .reply 2 (.time 3), .reply 2 (.payment (.error (.plain "declined"))),
        .reply 2 (.id "3"), .store 2, .handle .ordersCompensate allProviders 2, .reply 3 (.time 4), .store 3])
    (by decide)
  refine ⟨s, hs, hstatus, ?_⟩
  rw [announced_iff, hlast]
  decide

/-- A reservation is announced, and a declined payment is compensated. -/
theorem status_announced_until_declined :
    (∃ s, (memorySaga sampleService).Reachable Lts.anyStep s ∧ statusOf s "ord_1" = some .inventoryReserved ∧
      Announced s "ord_1" .inventoryReserved) ∧
    ∃ s, (memorySaga sampleService).Reachable Lts.anyStep s ∧ statusOf s "ord_1" = some .cancelled ∧
      CompensatedSince sampleService s "ord_1" .cancelled := by
  constructor
  · obtain ⟨s, hs, hstatus, hlast⟩ := (memorySimulator sampleService).exists_reachable
      (Q := fun s => statusOf s "ord_1" = some .inventoryReserved ∧
        lastAnnounced s "ord_1" = some "inventory_reserved")
      decides_anyStep reachable_emptySaga reservationActs (by decide)
    exact ⟨s, hs, hstatus, announced_iff.mpr hlast⟩
  · obtain ⟨s, hs, hstatus, hannounced⟩ := exists_declined
    have hcompensated := (status_announced_or_compensated sampleService hs).1 _ _ hstatus
    exact ⟨s, hs, hstatus, hcompensated.resolve_left hannounced⟩

/-- The last event of a compensated order still announces the status before. -/
theorem compensation_is_not_announced : ∃ s, (memorySaga sampleService).Reachable Lts.anyStep s ∧
    ∃ order, orderOf s "ord_1" = some order ∧ ¬ Announced s "ord_1" order.status := by
  obtain ⟨s, hs, hstatus, hannounced⟩ := exists_declined
  obtain ⟨order, horder, hcancelled⟩ := Option.map_eq_some_iff.mp hstatus
  refine ⟨s, hs, order, horder, ?_⟩
  rwa [hcancelled]

end FulfillHub
