import FulfillHub.Fulfillment.MemorySaga
import FulfillHub.Library.Transition
import FulfillHub.Postgres.OrderViews
import FulfillHub.Postgres.ReadBack
import FulfillHub.Postgres.Reservation
import FulfillHub.Postgres.Saga

/-!
# The stores are equivalent

Both stores insert the same order and are then given the same calls. In every state reached they show the same view of
the order, and each further call gets the same answer from both and appends events of the same types. The calls are
those the database has no reason of its own to refuse. Only an order without lines is told apart: PostgreSQL does not
find it when it is to be reserved.
-/

namespace FulfillHub

open Interaction Relational

structure Twins where
  memory : MemoryStore
  postgres : Database

namespace Twins

/-- Both stores after a call. -/
def after (s : Twins) (c : StoreCall) : Twins :=
  ⟨(MemoryStore.semantics s.memory c).2, (Database.semantics s.postgres c).2⟩

/-- Both stores have just inserted the order. No line or reservation can have named it before. -/
def Started (order : Order) (s : Twins) : Prop :=
  ∃ (old : Twins) (merchantID idempotencyKey : String) (event : OutboxEvent) (audit : AuditLog),
    MemoryStore.semantics old.memory (.insertOrder merchantID idempotencyKey order event audit) =
      (.ok (some order, false), s.memory) ∧
    Database.semantics old.postgres (.insertOrder merchantID idempotencyKey order event audit) =
      (.ok (some order, false), s.postgres) ∧
    (∀ line ∈ old.postgres.orderItems.rows, line.orderID ≠ order.orderID) ∧
    ∀ reservation ∈ old.postgres.stockReservations.rows, reservation.orderID ≠ order.orderID

/-- The call is on the order, and the database has no reason of its own to refuse it, or it is on an order that
neither store has. -/
inductive Promised (orderID : String) (s : Twins) (c : StoreCall) : Prop
  | known (tx : Transaction) (htx : c.transaction = some (orderID, tx))
      (hpromises : s.postgres.Promises orderID c)
      (hfresh : ∀ event, c.handed = some event → s.postgres.Fresh orderID event)
  | unknown (other : String) (tx : Transaction) (htx : c.transaction = some (other, tx))
      (hmemory : s.memory.orders.lookup other = none) (hpostgres : s.postgres.order? other = none)

/-- The stores have the order, and their views of it are the same. -/
def Agree (orderID : String) (s : Twins) : Prop :=
  ∃ order row, s.memory.orders.lookup orderID = some order ∧ s.postgres.Consistent orderID row ∧
    order.view = (s.postgres.assemble row).view

end Twins

/-- Two stores given the same calls. -/
def twins (order : Order) : Lts Twins StoreCall where
  init s := s.Started order
  step s c t := t = s.after c

/-- Both answers are successes, or both are the same error, of one of the two classes callers tell apart. -/
def SameAnswer {α : Type} (a b : Except Error α) : Prop :=
  (∃ x y, a = .ok x ∧ b = .ok y) ∨ ∃ err, a = .error err ∧ b = .error err ∧
    (err.is .notFound = true ∨ err.is .invalidStateTransition = true)

/-- Events of the same types are appended to both outboxes. -/
def SameEvents (s t : Twins) : Prop :=
  ∃ types : List EventType,
    t.memory.outbox.map OutboxEvent.eventType = s.memory.outbox.map OutboxEvent.eventType ++ types ∧
    t.postgres.outboxEvents.rows.map OutboxEvent.eventType =
      s.postgres.outboxEvents.rows.map OutboxEvent.eventType ++ types

namespace Twins

variable {order : Order} {orderID : String} {s : Twins} {c : StoreCall}

/-! ### The start -/

variable {merchantID idempotencyKey : String} {event : OutboxEvent} {audit : AuditLog}

theorem lookup_of_inserted {memory memory' : MemoryStore}
    (h : MemoryStore.semantics memory (.insertOrder merchantID idempotencyKey order event audit) =
      (.ok (some order, false), memory')) :
    memory'.orders.lookup order.orderID = some order := by
  simp only [MemoryStore.semantics, MemoryStore.insertOrder] at h
  split at h
  · simp at h
  · split at h
    · simp at h
    · rw [← (Prod.mk.inj h).2]
      exact Finmap.lookup_insert _

variable {db db' : Database}

theorem inserted_of_semantics
    (h : Database.semantics db (.insertOrder merchantID idempotencyKey order event audit) =
      (.ok (some order, false), db')) :
    Nonempty (db.Inserted merchantID idempotencyKey order event audit db') := by
  cases hkey : db.orderByIdempotency merchantID idempotencyKey with
  | some existing =>
    simp only [Database.semantics, Database.insertOrder, hkey] at h
    cases hread : db.getOrderTx existing with
    | error err => simp [hread, bind, Except.bind, Database.commit] at h
    | ok found => simp [hread, bind, Except.bind, pure, Except.pure, Database.commit] at h
  | none =>
    apply Database.insertNewOrder_eq_ok
    exact (insertOrder_eq_ok hkey).mp h

theorem itemsOf_inserted (h : db.Inserted merchantID idempotencyKey order event audit db')
    (hlines : ∀ line ∈ db.orderItems.rows, line.orderID ≠ order.orderID) :
    db'.itemsOf order.orderID = h.lines := by
  have hrows : db'.orderItems.rows = db.orderItems.rows ++ h.lines := by
    rw [← h.orderItems_eq]
    exact congrArg (fun db => db.orderItems.rows) h.db_eq
  rw [Database.itemsOf, hrows, List.filter_append, List.filter_eq_nil_iff.mpr, List.nil_append, List.filter_eq_self]
  · intro line hline
    obtain ⟨item, _, ⟨currency, rfl⟩, -⟩ := Database.storedLine_of_mem h.stored hline
    exact decide_eq_true rfl
  · intro line hline
    simpa using hlines line hline

theorem lines_of_stored {items : List OrderItem} {lines : List OrderItemRow}
    (h : List.Forall₂ (Database.StoredLine orderID) items lines) :
    items.map (fun item => (⟨item.sku, item.quantity, item.reservationStatus⟩ : LineView)) =
      lines.map OrderItemRow.view := by
  induction h with
  | nil => rfl
  | cons hline _ ih =>
    obtain ⟨⟨currency, rfl⟩, -⟩ := hline
    rw [List.map_cons, List.map_cons, ih]
    rfl

theorem order?_inserted (h : db.Inserted merchantID idempotencyKey order event audit db') :
    db'.order? order.orderID = some (orderRow merchantID h.currency order) := by
  have horders : db'.orders = h.orders := congrArg Database.orders h.db_eq
  rw [Database.order?, horders]
  apply Table.find?_eq_some OrderRow.conflict_symm
  · intro a b ha hb
    exact decide_eq_true (.inl ((of_decide_eq_true ha).trans (of_decide_eq_true hb).symm))
  · exact (Table.mem_insert h.orders_eq).mpr (.inr rfl)
  · exact decide_eq_true rfl

theorem view_inserted (h : db.Inserted merchantID idempotencyKey order event audit db')
    (hlines : ∀ line ∈ db.orderItems.rows, line.orderID ≠ order.orderID) :
    order.view = (db'.assemble (orderRow merchantID h.currency order)).view := by
  rw [Database.view_assemble]
  apply OrderView.ext
  · rfl
  · change order.items.map _ = (db'.itemsOf order.orderID).map OrderItemRow.view
    rw [itemsOf_inserted h hlines]
    exact lines_of_stored h.stored
  · cases hpayment : order.payment with
    | none => simp [Order.view, orderRow, nullablePaymentStatus, hpayment]
    | some payment =>
      by_cases hblank : payment.status = .blank
      · simp [Order.view, orderRow, nullablePaymentStatus, hpayment, hblank]
      · simp [Order.view, orderRow, nullablePaymentStatus, hpayment, hblank]
  · cases hpayment : order.payment with
    | none => simp [Order.view, orderRow, hpayment]
    | some payment =>
      by_cases hempty : payment.authorizationID = ""
      · simp [Order.view, orderRow, nullableString, hpayment, hempty]
      · simp [Order.view, orderRow, nullableString, hpayment, hempty]

theorem agree_of_started (htotal : 0 ≤ order.totals.total.amount) (hlines : order.items ≠ [])
    (h : s.Started order) : s.Agree order.orderID := by
  obtain ⟨old, merchantID, idempotencyKey, event, audit, hmemory, hpostgres, hunlisted, hunreserved⟩ := h
  obtain ⟨inserted⟩ := inserted_of_semantics hpostgres
  refine ⟨order, orderRow merchantID inserted.currency order, lookup_of_inserted hmemory, ?_,
    view_inserted inserted hunlisted⟩
  refine ⟨order?_inserted inserted, htotal, ?_, ?_⟩
  · rw [itemsOf_inserted inserted hunlisted]
    intro hnil
    apply hlines
    have hstored := inserted.stored
    rw [hnil] at hstored
    exact List.forall₂_nil_right_iff.mp hstored
  · intro line _ reservation hreservation hnames
    rw [inserted.db_eq] at hreservation
    exact absurd hnames (hunreserved reservation hreservation)

/-! ### One call -/

variable {tx : Transaction}

/-- An order that neither store has is found by neither. -/
theorem answers_of_unknown {other : String} (htx : c.transaction = some (other, tx))
    (hmemory : s.memory.orders.lookup other = none) (hpostgres : s.postgres.order? other = none) :
    MemoryStore.semantics s.memory c = (.error errNotFound, s.memory) ∧
      Database.semantics s.postgres c = (.error errNotFound, s.postgres) := by
  obtain ⟨-, p, heffect, -⟩ := StoreCall.effect_of_transaction htx
  obtain ⟨audit, hrefused, -⟩ := MemoryStore.semantics_of_project s.memory heffect
  obtain ⟨audit', hrefused', -⟩ := Database.semantics_of_transact s.postgres htx
  constructor
  · apply hrefused
    simp [MemoryStore.project, hmemory]
  · apply hrefused'
    simp [Database.transact, Database.lockOrderForUpdate, hpostgres, bind, Except.bind]

theorem answers_of_known (hagree : s.Agree orderID) (htx : c.transaction = some (orderID, tx))
    (hpromises : s.postgres.Promises orderID c)
    (hfresh : ∀ event, c.handed = some event → s.postgres.Fresh orderID event) :
    SameAnswer (MemoryStore.semantics s.memory c).1 (Database.semantics s.postgres c).1 ∧
      (s.after c).Agree orderID := by
  obtain ⟨order, row, horder, hconsistent, hview⟩ := hagree
  obtain ⟨htarget, p, heffect, htarget'⟩ := StoreCall.effect_of_transaction htx
  obtain ⟨audit, hrefused, haccepted⟩ := MemoryStore.semantics_of_project s.memory heffect
  obtain ⟨audit', hrefused', haccepted'⟩ := Database.semantics_of_transact s.postgres htx
  have hstatus : order.status = row.status := congrArg OrderView.status hview
  have hsame : p.target = tx.target := htarget'.trans htarget.symm
  cases hcheck : MemoryStore.checkTarget order.status p.target with
  | error err =>
    have hmemory := hrefused err (by simp [MemoryStore.project, horder, hcheck])
    have hpostgres := hrefused' err (by
      rw [hstatus, hsame] at hcheck
      simp [Database.transact, Database.lockOrderForUpdate, hconsistent.found, hcheck, bind, Except.bind])
    rw [after, hmemory, hpostgres]
    obtain ⟨text, rfl⟩ := Database.checkTarget_eq_error hcheck
    exact ⟨.inr ⟨_, rfl, rfl, .inr rfl⟩, ⟨order, row, horder, hconsistent, hview⟩⟩
  | ok =>
    have htarget := MemoryStore.checkTarget_eq_ok.mp hcheck
    obtain ⟨r, hmemory⟩ := haccepted _ _ (MemoryStore.project_eq_ok horder htarget)
    obtain ⟨db', htransact, hconsistent', hview'⟩ := hconsistent.transact htx hpromises hfresh
      (by rwa [hstatus, hsame] at htarget) audit'
    obtain ⟨r', hpostgres⟩ := haccepted' db' _ htransact hconsistent'.found
    rw [after, hmemory, hpostgres]
    refine ⟨.inl ⟨r, r', rfl, rfl⟩, ⟨p.update order, _, ?_, hconsistent', ?_⟩⟩
    · rw [MemoryStore.commit_orders]
      exact Finmap.lookup_insert _
    · rw [view_update heffect, hview, hview']

theorem answers_of_promised (hagree : s.Agree orderID) (h : s.Promised orderID c) :
    SameAnswer (MemoryStore.semantics s.memory c).1 (Database.semantics s.postgres c).1 ∧
      (s.after c).Agree orderID := by
  cases h with
  | known tx htx hpromises hfresh => exact answers_of_known hagree htx hpromises hfresh
  | unknown other tx htx hmemory hpostgres =>
    obtain ⟨hrefused, hrefused'⟩ := answers_of_unknown htx hmemory hpostgres
    rw [after, hrefused, hrefused']
    exact ⟨.inr ⟨errNotFound, rfl, rfl, .inl rfl⟩, hagree⟩

/-! ### Events -/

theorem emitted_eq_handed (r : c.Result) (htx : c.transaction = some (orderID, tx)) : c.emitted r = c.handed := by
  cases c with
  | insertOrder => cases htx
  | getOrder => cases htx
  | updateOrderStatus => rfl
  | projector => rfl

theorem eventTypes_of_envelopes {outbox outbox' : List OutboxEvent} {event : Option OutboxEvent}
    (h : outbox'.map OutboxEvent.envelope =
      outbox.map OutboxEvent.envelope ++ event.toList.map OutboxEvent.envelope) :
    outbox'.map OutboxEvent.eventType =
      outbox.map OutboxEvent.eventType ++ event.toList.map OutboxEvent.eventType := by
  have htypes := congrArg (List.map Envelope.eventType) h
  simp only [List.map_append, List.map_map] at htypes
  exact htypes

/-- Stores that give the same answer append the event the call hands over, or nothing. -/
theorem sameEvents_of_sameAnswer (htx : c.transaction = some (orderID, tx))
    (h : SameAnswer (MemoryStore.semantics s.memory c).1 (Database.semantics s.postgres c).1) :
    SameEvents s (s.after c) := by
  cases h with
  | inl haccepted =>
    obtain ⟨r, r', hmemory, hpostgres⟩ := haccepted
    have houtbox := memoryOutboxStore.appended s.memory c r hmemory
    have houtbox' := postgresStore.appended s.postgres c r' hpostgres
    rw [emitted_eq_handed r htx] at houtbox
    rw [emitted_eq_handed r' htx] at houtbox'
    exact ⟨c.handed.toList.map OutboxEvent.eventType, eventTypes_of_envelopes houtbox,
      eventTypes_of_envelopes houtbox'⟩
  | inr hrefused =>
    obtain ⟨err, hmemory, hpostgres, -⟩ := hrefused
    have hkept : (s.after c).memory = s.memory := memoryOutboxStore.failed s.memory c err hmemory
    have hkept' : (s.after c).postgres = s.postgres := postgresStore.failed s.postgres c err hpostgres
    refine ⟨[], ?_, ?_⟩
    · rw [hkept, List.append_nil]
    · rw [hkept', List.append_nil]

/-! ### Runs -/

theorem agree_of_reachable (htotal : 0 ≤ order.totals.total.amount) (hlines : order.items ≠ [])
    (hs : (twins order).Reachable (Promised order.orderID) s) : s.Agree order.orderID := by
  apply Lts.Reachable.invariant (P := fun s => s.Agree order.orderID) _ _ hs
  · intro s hstarted
    exact agree_of_started htotal hlines hstarted
  · intro s c t _ hagree hstep hpromised
    obtain rfl : t = s.after c := hstep
    exact (answers_of_promised hagree hpromised).2

end Twins

/-- **Both stores implement the same order.** After any sequence of promised calls the two stores show the same
status, lines and payment of the order, and the next call gets the same answer from both and appends events of the
same types. -/
theorem stores_agree (order : Order) (htotal : 0 ≤ order.totals.total.amount) (hlines : order.items ≠ []) {s : Twins}
    (hs : (twins order).Reachable (Twins.Promised order.orderID) s) :
    (∃ found read, s.memory.getOrder order.orderID = .ok found ∧ s.postgres.getOrderTx order.orderID = .ok read ∧
      found.view = read.view) ∧
    ∀ c, s.Promised order.orderID c →
      SameAnswer (MemoryStore.semantics s.memory c).1 (Database.semantics s.postgres c).1 ∧
      SameEvents s (s.after c) := by
  have hagree := Twins.agree_of_reachable htotal hlines hs
  constructor
  · obtain ⟨found, row, hfound, hconsistent, hview⟩ := hagree
    refine ⟨found, s.postgres.assemble row, ?_, ?_, hview⟩
    · rw [MemoryStore.getOrder, hfound]
    · rw [Database.getOrderTx, hconsistent.found]
  · intro c hpromised
    have hanswer := (Twins.answers_of_promised hagree hpromised).1
    cases hpromised with
    | known tx htx => exact ⟨hanswer, Twins.sameEvents_of_sameAnswer htx hanswer⟩
    | unknown other tx htx => exact ⟨hanswer, Twins.sameEvents_of_sameAnswer htx hanswer⟩

/-! ### Two shops -/

def twinOrder (items : List OrderItem) : Order :=
  { sampleService.newOrder "m1" sampleCommand "ord_1" 1000 with items := items }

def twinLine : OrderItem := ⟨"sku-1", 2, ⟨500, "USD"⟩, .pending⟩

/-- An empty in-memory store and a stocked database, both with the order. -/
def twinShops (items : List OrderItem) : Twins :=
  (⟨newMemoryStore, sampleCatalog "w1"⟩ : Twins).after
    (.insertOrder "m1" "idempotency-key-1" (twinOrder items) Database.shopCreated Database.shopAudit)

def twinReservation : StoreCall :=
  .projector (.recordInventoryReserved Database.shopCreated Database.shopNext Database.shopAudit)

theorem started_twinShops (items : List OrderItem)
    (hpostgres : (Database.semantics (sampleCatalog "w1")
      (.insertOrder "m1" "idempotency-key-1" (twinOrder items) Database.shopCreated Database.shopAudit)).1 =
        .ok (some (twinOrder items), false)) : (twinShops items).Started (twinOrder items) := by
  refine ⟨⟨newMemoryStore, sampleCatalog "w1"⟩, "m1", "idempotency-key-1", Database.shopCreated, Database.shopAudit,
    ?_, ?_, ?_, ?_⟩
  · rfl
  · exact Prod.ext hpostgres rfl
  · simp [sampleCatalog, Table.empty]
  · simp [sampleCatalog, Table.empty]

theorem stores_agree_reserved :
    ∃ s, (twins (twinOrder [twinLine])).Reachable (Twins.Promised "ord_1") s ∧
      ∃ found read, s.memory.getOrder "ord_1" = .ok found ∧ s.postgres.getOrderTx "ord_1" = .ok read ∧
        found.status = .inventoryReserved ∧ found.view = read.view := by
  have hstart : (twins (twinOrder [twinLine])).Reachable (Twins.Promised "ord_1") (twinShops [twinLine]) :=
    .start (started_twinShops [twinLine] rfl)
  have hstocked : (twinShops [twinLine]).postgres.Stocked "m1" "ord_1" := by
    have hlines : ∀ line ∈ (twinShops [twinLine]).postgres.itemsOf "ord_1",
        (twinShops [twinLine]).postgres.InStock "m1" line ∧
          ∀ stock ∈ (twinShops [twinLine]).postgres.inventoryItems.rows,
            fitsInt4 (stock.reservedQuantity + line.quantity) = true := by decide +kernel
    intro line hline _
    exact hlines line hline
  have hpromised : (twinShops [twinLine]).Promised "ord_1" twinReservation := by
    refine .known _ rfl hstocked ?_
    intro event hevent
    obtain rfl : Database.shopNext = event := Option.some.inj hevent
    refine ⟨rfl, ?_⟩
    decide +kernel
  have hreserved := hstart.step (t := (twinShops [twinLine]).after twinReservation) rfl hpromised
  obtain ⟨⟨found, read, hfound, hread, hview⟩, -⟩ := stores_agree (twinOrder [twinLine]) (by decide) (by decide) hreserved
  refine ⟨_, hreserved, found, read, hfound, hread, ?_, hview⟩
  have hstatus : (((twinShops [twinLine]).after twinReservation).memory.getOrder "ord_1").map Order.status =
    .ok .inventoryReserved := rfl
  change (((twinShops [twinLine]).after twinReservation).memory.getOrder "ord_1") = _ at hfound
  rw [hfound] at hstatus
  exact Except.ok.inj hstatus

/-- An order without lines is reserved by the in-memory store and not found by PostgreSQL. -/
theorem stores_disagree_empty :
    (twinShops []).Started (twinOrder []) ∧ 0 ≤ (twinOrder []).totals.total.amount ∧
      (twinShops []).Promised "ord_1" twinReservation ∧
      (MemoryStore.semantics (twinShops []).memory twinReservation).1 = .ok () ∧
      (Database.semantics (twinShops []).postgres twinReservation).1 = .error errNotFound := by
  refine ⟨started_twinShops [] rfl, by decide, .known _ rfl ?_ ?_, rfl, rfl⟩
  · have hlines : (twinShops []).postgres.itemsOf "ord_1" = [] := rfl
    intro line hline
    change line ∈ (twinShops []).postgres.itemsOf "ord_1" at hline
    rw [hlines] at hline
    cases hline
  · intro event hevent
    obtain rfl : Database.shopNext = event := Option.some.inj hevent
    refine ⟨rfl, ?_⟩
    decide +kernel

end FulfillHub
