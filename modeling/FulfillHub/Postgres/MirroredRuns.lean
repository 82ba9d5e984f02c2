import FulfillHub.Postgres.Mirrors

/-!
# Projections along runs

Every act of a run keeps the projections of every order in step. The two acts that write one side alone find
nothing on the other: a payment or a reservation is only ever entered together with the event that announces it,
an order has one such event per stage, and a failed payment and a rejected reservation are announced as the
other outcome of the same stage.

Shipments are compared with the statuses the order has had in the states the run has visited.
-/

namespace FulfillHub

open Interaction Relational

variable {trace : SagaTrace} {job : Job} {c : StoreCall} {orderID : String} {tx : Transaction} {db db' : Database}
  {row : OrderRow}

/-! ### Every step -/

variable {svc : Service} {cond : PostgresSaga → SagaLabel → Prop} {s t : PostgresSaga} {l : SagaLabel}

theorem outcome_of_step (hs : (postgresSaga svc).Reachable cond s) (hstep : (postgresSaga svc).step s l t) :
    (databaseOf t = databaseOf s ∧ postgresStore.envelopes t = postgresStore.envelopes s) ∨
      ∃ (job : Job) (trace : SagaTrace) (c : StoreCall) (r : c.Result), job.Writes svc trace c ∧
        (databaseOf s).Outcome c (.ok r) (databaseOf t) ∧ postgresStore.envelopes t =
          postgresStore.envelopes s ++ ((c.emitted r).map OutboxEvent.envelope).toList := by
  have henvelopes : ∀ s t : PostgresSaga, databaseOf t = databaseOf s →
      postgresStore.envelopes t = postgresStore.envelopes s := by
    intro s t hsame
    unfold OutboxStore.envelopes
    rw [show t.shared.store = s.shared.store from hsame]
  rcases database_of_step hstep with hsame | ⟨i, c, r, rfl, hr, hdb⟩
  · exact .inl ⟨hsame, henvelopes s t hsame⟩
  · have houtcome := Database.semantics_outcome (databaseOf s) c
    rw [hr, ← hdb] at houtcome
    cases r with
    | error err =>
      have hsame : databaseOf t = databaseOf s := hdb.trans (postgresStore.failed _ _ _ hr)
      exact .inl ⟨hsame, henvelopes s t hsame⟩
    | ok r =>
      cases hread : c.isRead with
      | true =>
        have hsame : databaseOf t = databaseOf s := by
          cases c with
          | getOrder orderID => exact hdb
          | _ => cases hread
        exact .inl ⟨hsame, henvelopes s t hsame⟩
      | false =>
        obtain ⟨job, trace, _, _, hwrites, _⟩ := writes_of_step hs hstep hread
        rcases envelopes_of_step hstep with ⟨_, hl, _⟩ | ⟨_, _, _, hl, henv⟩
        · cases hl
        · cases hl
          exact .inr ⟨job, trace, c, r, hwrites, houtcome, henv⟩

theorem Job.Writes.orderID_emitted {r : c.Result} {event : OutboxEvent} (h : job.Writes svc trace c)
    (htx : c.transaction = some (orderID, tx)) (hevent : c.emitted r = some event) : event.orderID = orderID := by
  cases h with
  | create => cases htx
  | cancel =>
    cases htx
    cases hevent
    rfl
  | handle _ hwrite => cases hwrite <;> cases htx <;> cases hevent <;> rfl

/-- The outcome a run announces when it enters one. -/
def StoreCall.stage : StoreCall → Option EventType
  | .projector (.recordInventoryReserved _ _ _) => some .inventoryReserved
  | .projector (.recordInventoryRejected _ _ _) => some .inventoryRejected
  | .projector (.recordPaymentAuthorized _ _ _ _) => some .paymentAuthorized
  | .projector (.recordPaymentFailed _ _ _) => some .paymentFailed
  | _ => none

theorem Job.Writes.emitted_stage {eventType : EventType} (h : job.Writes svc trace c)
    (hstage : c.stage = some eventType) (r : c.Result) :
    ∃ event, c.emitted r = some event ∧ event.eventType = eventType := by
  cases h with
  | create => cases hstage
  | cancel => cases hstage
  | handle _ hwrite => cases hwrite <;> cases hstage <;> exact ⟨_, rfl, rfl⟩

/-- The outbox has an event of this type about the order. -/
def StageAnnounced (s : PostgresSaga) (orderID : String) (eventType : EventType) : Prop :=
  ∃ env ∈ postgresStore.envelopes s, env.orderID = orderID ∧ env.eventType = eventType

structure MirrorInvariant (s : PostgresSaga) : Prop where
  payments : (databaseOf s).PaymentsMirrored
  stock : (databaseOf s).StockMirrored
  paid : ∀ payment ∈ (databaseOf s).paymentAuthorizations.rows, StageAnnounced s payment.orderID .paymentAuthorized
  held : ∀ reservation ∈ (databaseOf s).stockReservations.rows, StageAnnounced s reservation.orderID .inventoryReserved
  known : ∀ env ∈ postgresStore.envelopes s, ∃ order ∈ (databaseOf s).orders.rows, order.orderID = env.orderID

theorem StageAnnounced.mono {eventType : EventType} (h : StageAnnounced s orderID eventType)
    (hsubset : postgresStore.envelopes s ⊆ postgresStore.envelopes t) :
    StageAnnounced t orderID eventType := by
  obtain ⟨env, henv, hkey⟩ := h
  exact ⟨env, hsubset henv, hkey⟩

theorem MirrorInvariant.inserted (h : MirrorInvariant s) {merchantID idempotencyKey : String}
    {req : CreateOrderCommand} {now : Time} {event : OutboxEvent} {audit : AuditLog}
    (hinserted : (databaseOf s).Inserted merchantID idempotencyKey (svc.newOrder merchantID req orderID now) event
      audit (databaseOf t))
    (hevent : event.orderID = orderID)
    (henv : postgresStore.envelopes t = postgresStore.envelopes s ++ [event.envelope]) : MirrorInvariant t := by
  have hfresh : ∀ order ∈ (databaseOf s).orders.rows, order.orderID ≠ orderID := by
    intro order horder heq
    exact of_decide_eq_false (Table.conflict_of_insert hinserted.orders_eq order horder) (.inl heq)
  have hunannounced : ∀ {id : String} {eventType : EventType}, StageAnnounced s id eventType → id ≠ orderID := by
    rintro id eventType ⟨env, hmem, hid, _⟩ heq
    obtain ⟨order, horder, hsame⟩ := h.known env hmem
    exact hfresh order horder (hsame.trans (hid.trans heq))
  have hsubset : postgresStore.envelopes s ⊆ postgresStore.envelopes t := by
    rw [henv]
    exact List.subset_append_left _ _
  have horders : (databaseOf t).orders.rows = (databaseOf s).orders.rows ++
      [orderRow merchantID hinserted.currency (svc.newOrder merchantID req orderID now)] := by
    exact (congrArg (fun db => db.orders.rows) hinserted.db_eq).trans (Table.rows_insert hinserted.orders_eq)
  have hitems : (databaseOf t).orderItems.rows = (databaseOf s).orderItems.rows ++ hinserted.lines := by
    exact (congrArg (fun db => db.orderItems.rows) hinserted.db_eq).trans hinserted.orderItems_eq
  have hpayments : (databaseOf t).paymentAuthorizations = (databaseOf s).paymentAuthorizations := by
    rw [hinserted.db_eq]
  have hreservations : (databaseOf t).stockReservations = (databaseOf s).stockReservations := by
    rw [hinserted.db_eq]
  have hlines : ∀ line ∈ hinserted.lines, line.orderID = orderID ∧ line.reservationStatus = .pending := by
    intro line hline
    obtain ⟨item, hitem, ⟨_, rfl⟩, _⟩ := Database.storedLine_of_mem hinserted.stored hline
    obtain ⟨_, _, rfl⟩ := List.mem_map.mp hitem
    exact ⟨rfl, rfl⟩
  refine ⟨?_, ?_, ?_, ?_, ?_⟩
  · unfold Database.PaymentsMirrored
    rw [horders, hpayments]
    apply h.payments.append
    intro order horder
    rw [List.mem_singleton.mp horder]
    refine ⟨?_, fun payment hpayment hpaid => hunannounced (h.paid payment hpayment) hpaid⟩
    rintro (hclaims | hclaims) <;> cases hclaims
  · unfold Database.StockMirrored
    rw [hitems, hreservations]
    apply h.stock.append
    intro line hline
    obtain ⟨horder, hstatus⟩ := hlines line hline
    refine ⟨?_, fun reservation hreservation hheld =>
      hunannounced (h.held reservation hreservation) (hheld.1.trans horder)⟩
    rintro (hclaims | hclaims) <;> cases hstatus.symm.trans hclaims
  · intro payment hpayment
    rw [hpayments] at hpayment
    exact (h.paid payment hpayment).mono hsubset
  · intro reservation hreservation
    rw [hreservations] at hreservation
    exact (h.held reservation hreservation).mono hsubset
  · intro env hmem
    rw [horders]
    rw [henv] at hmem
    rcases List.mem_append.mp hmem with hold | hnew
    · obtain ⟨order, horder, hsame⟩ := h.known env hold
      exact ⟨order, List.mem_append_left _ horder, hsame⟩
    · rw [List.mem_singleton.mp hnew]
      exact ⟨_, List.mem_append_right _ List.mem_cons_self, hevent.symm⟩

theorem MirrorInvariant.congr (h : MirrorInvariant s) (hdb : databaseOf t = databaseOf s)
    (henv : postgresStore.envelopes t = postgresStore.envelopes s) : MirrorInvariant t := by
  have hsubset : postgresStore.envelopes s ⊆ postgresStore.envelopes t := by
    rw [henv]
    exact List.Subset.refl _
  refine ⟨hdb ▸ h.payments, hdb ▸ h.stock, ?_, ?_, ?_⟩
  · rw [hdb]
    exact fun payment hpayment => (h.paid payment hpayment).mono hsubset
  · rw [hdb]
    exact fun reservation hreservation => (h.held reservation hreservation).mono hsubset
  · rw [hdb, henv]
    exact h.known

/-- An authorization after a call is that of the call's order, or one of before on the same order. -/
theorem payment_of_written (htx : c.transaction = some (row.orderID, tx)) (hwritten : db.Written row c db')
    {payment : PaymentAuthorization} (hpayment : payment ∈ db'.paymentAuthorizations.rows) :
    c.stage = some .paymentAuthorized ∧ payment.orderID = row.orderID ∨
      ∃ old ∈ db.paymentAuthorizations.rows, payment.orderID = old.orderID := by
  cases hwritten.payments with
  | same _ _ _ _ hsame =>
    rw [hsame] at hpayment
    exact .inr ⟨payment, hpayment, rfl⟩
  | authorized source next authorized audit _ _ hupsert =>
    have hsource : source.orderID = row.orderID := (Prod.mk.inj (Option.some.inj htx)).1
    rcases Table.mem_upsert hupsert hpayment with rfl | ⟨hold, _⟩ | ⟨_, _, _, rfl⟩
    · exact .inl ⟨rfl, hsource⟩
    · exact .inr ⟨payment, hold, rfl⟩
    · exact .inl ⟨rfl, hsource⟩
  | voided _ _ at' _ hvoided =>
    rw [hvoided] at hpayment
    obtain ⟨old, hold, rfl⟩ := List.mem_map.mp hpayment
    refine .inr ⟨old, hold, ?_⟩
    unfold PaymentAuthorization.void
    split_ifs <;> rfl

theorem reservation_of_written (htx : c.transaction = some (row.orderID, tx)) (hwritten : db.Written row c db')
    {reservation : StockReservation} (hreservation : reservation ∈ db'.stockReservations.rows) :
    c.stage = some .inventoryReserved ∧ reservation.orderID = row.orderID ∨
      ∃ old ∈ db.stockReservations.rows, reservation.orderID = old.orderID := by
  cases hwritten.stock with
  | same _ _ _ _ _ hsame =>
    rw [hsame] at hreservation
    exact .inr ⟨reservation, hreservation, rfl⟩
  | reserved source next audit entries reserved _ _ hlines _ hsame =>
    rw [hsame] at hreservation
    have hsource : source.orderID = row.orderID := (Prod.mk.inj (Option.some.inj htx)).1
    by_cases hcase : Database.Holds source.orderID (db.itemsOf row.orderID) reservation
    · obtain ⟨_, _, horder, _⟩ := hcase
      exact .inl ⟨rfl, horder.trans hsource⟩
    · have hold := ((Database.entered_of_reserveLines hlines).kept reservation hcase).mp hreservation
      exact .inr ⟨reservation, hold, rfl⟩
  | released _ _ at' _ _ hreleased =>
    rw [hreleased] at hreservation
    obtain ⟨old, hold, rfl⟩ := List.mem_map.mp hreservation
    refine .inr ⟨old, hold, ?_⟩
    unfold StockReservation.release
    split_ifs <;> rfl

theorem stage_of_fails (hfails : c.fails = true) : c.stage = some .paymentFailed := by
  cases c with
  | projector c => cases c <;> first | rfl | cases hfails
  | _ => cases hfails

theorem stage_of_rejects (hrejects : c.rejects = true) : c.stage = some .inventoryRejected := by
  cases c with
  | projector c => cases c <;> first | rfl | cases hrejects
  | _ => cases hrejects

theorem MirrorInvariant.known_of_written (h : MirrorInvariant s) {r : c.Result} (hwrites : job.Writes svc trace c)
    (htx : c.transaction = some (row.orderID, tx)) (hrow : row ∈ (databaseOf s).orders.rows)
    (hkept : ∀ order ∈ (databaseOf s).orders.rows, ∃ order' ∈ (databaseOf t).orders.rows,
      order'.orderID = order.orderID)
    (henv : postgresStore.envelopes t = postgresStore.envelopes s ++ ((c.emitted r).map OutboxEvent.envelope).toList) :
    ∀ env ∈ postgresStore.envelopes t, ∃ order ∈ (databaseOf t).orders.rows, order.orderID = env.orderID := by
  intro env hmem
  rw [henv] at hmem
  rcases List.mem_append.mp hmem with hold | hnew
  · obtain ⟨order, horder, hsame⟩ := h.known env hold
    obtain ⟨order', horder', hsame'⟩ := hkept order horder
    exact ⟨order', horder', hsame'.trans hsame⟩
  · obtain ⟨event, hevent, rfl⟩ := Option.map_eq_some_iff.mp (Option.mem_toList.mp hnew)
    obtain ⟨order', horder', hsame'⟩ := hkept row hrow
    exact ⟨order', horder', hsame'.trans (hwrites.orderID_emitted htx hevent).symm⟩

section Stages

variable (hfrom : ∀ s l, cond s l → FromOutbox postgresStore s l) (honce : ∀ s l, cond s l → AtMostOnce s l)
include hfrom honce

theorem StageAnnounced.ne_of_stage (ht : (postgresSaga svc).Reachable cond t) {r : c.Result} {id : String}
    {queue : Queue} {new old : EventType} (hwrites : job.Writes svc trace c)
    (htx : c.transaction = some (orderID, tx))
    (henv : postgresStore.envelopes t = postgresStore.envelopes s ++ ((c.emitted r).map OutboxEvent.envelope).toList)
    (hqueue : queue ∈ forwardQueues) (hstage : c.stage = some new) (hnew : new ∈ queue.outcomes)
    (hold : old ∈ queue.outcomes) (h : StageAnnounced s id old) : id ≠ orderID := by
  obtain ⟨event, hevent, htype⟩ := hwrites.emitted_stage hstage r
  rw [hevent] at henv
  obtain ⟨env, hmem, hid, hof⟩ := h
  have houtcome : event.envelope.eventType ∈ queue.outcomes := by
    rw [← htype] at hnew
    exact hnew
  intro heq
  refine no_outcome_before hfrom honce ht hqueue henv houtcome env hmem ?_ (hof ▸ hold)
  rw [hid, heq]
  exact (hwrites.orderID_emitted htx hevent).symm

theorem MirrorInvariant.transacted (h : MirrorInvariant s) (ht : (postgresSaga svc).Reachable cond t) {r : c.Result}
    (hwrites : job.Writes svc trace c) (htx : c.transaction = some (row.orderID, tx))
    (hrow : row ∈ (databaseOf s).orders.rows) {written : Database} (hwritten : (databaseOf s).Written row c written)
    {outboxEvents : Table OutboxEvent OutboxEvent.conflict} {auditLogs : List AuditLog}
    (hdb : databaseOf t = { written with outboxEvents := outboxEvents, auditLogs := auditLogs })
    (henv : postgresStore.envelopes t = postgresStore.envelopes s ++ ((c.emitted r).map OutboxEvent.envelope).toList) :
    MirrorInvariant t := by
  have hsubset : postgresStore.envelopes s ⊆ postgresStore.envelopes t := by
    rw [henv]
    exact List.subset_append_left _ _
  have hstaged : ∀ eventType, c.stage = some eventType → StageAnnounced t row.orderID eventType := by
    intro eventType hstage
    obtain ⟨event, hevent, htype⟩ := hwrites.emitted_stage hstage r
    refine ⟨event.envelope, ?_, hwrites.orderID_emitted htx hevent, htype⟩
    rw [henv, hevent]
    exact List.mem_append_right _ List.mem_cons_self
  refine ⟨?_, ?_, ?_, ?_, ?_⟩
  · rw [hdb]
    change written.PaymentsMirrored
    refine h.payments.written htx hrow ?_ hwritten
    intro hfails payment hpayment
    exact (h.paid payment hpayment).ne_of_stage hfrom honce ht hwrites htx henv
      (by decide : Queue.paymentsAuthorize ∈ forwardQueues) (stage_of_fails hfails) (by decide) (by decide)
  · rw [hdb]
    change written.StockMirrored
    refine h.stock.written htx ?_ hwritten
    intro hrejects reservation hreservation
    exact (h.held reservation hreservation).ne_of_stage hfrom honce ht hwrites htx henv
      (by decide : Queue.inventoryReserve ∈ forwardQueues) (stage_of_rejects hrejects) (by decide) (by decide)
  · intro payment hpayment
    rw [hdb] at hpayment
    rcases payment_of_written htx hwritten hpayment with ⟨hstage, horder⟩ | ⟨old, hold, horder⟩
    · rw [horder]
      exact hstaged _ hstage
    · rw [horder]
      exact (h.paid old hold).mono hsubset
  · intro reservation hreservation
    rw [hdb] at hreservation
    rcases reservation_of_written htx hwritten hreservation with ⟨hstage, horder⟩ | ⟨old, hold, horder⟩
    · rw [horder]
      exact hstaged _ hstage
    · rw [horder]
      exact (h.held old hold).mono hsubset
  · apply h.known_of_written hwrites htx hrow _ henv
    intro order horder
    rw [hdb]
    change ∃ order' ∈ written.orders.rows, _
    rw [hwritten.orders]
    exact ⟨_, List.mem_map_of_mem horder, OrderRow.orderID_setColumns _ _ order⟩

theorem mirrorInvariant_of_step (h : MirrorInvariant s) (hs : (postgresSaga svc).Reachable cond s)
    (hstep : (postgresSaga svc).step s l t) (hcond : cond s l) : MirrorInvariant t := by
  rcases outcome_of_step hs hstep with ⟨hdb, henv⟩ | ⟨job, trace, c, r, hwrites, houtcome, henv⟩
  · exact h.congr hdb henv
  · generalize hdb : databaseOf t = db' at houtcome
    cases houtcome with
    | idle _ _ hevent _ =>
      rw [hevent] at henv
      exact h.congr hdb (henv.trans (List.append_nil _))
    | inserted merchantID idempotencyKey order event audit _ _ hinsert =>
      obtain ⟨hinserted⟩ := Database.insertNewOrder_eq_ok hinsert
      cases hwrites with
      | create => exact h.inserted (hdb ▸ hinserted) rfl henv
      | handle _ hwrite => cases hwrite
    | transacted _ _ orderID tx audit row event written inserted htx hrow _ hstatements hinserted =>
      obtain ⟨hmem, rfl⟩ := Database.order?_eq_some hrow
      have hwritten := Database.written_of_statements htx hstatements
      obtain ⟨outboxEvents, rfl, _⟩ := Database.insertNext_eq_ok hinserted
      exact h.transacted hfrom honce (.step hs hstep hcond) hwrites htx hmem hwritten hdb henv

end Stages

/-! ### Shipments -/

namespace Database

/-- The order has a shipment. -/
def Shipped (db : Database) (orderID : String) : Prop := ∃ shipment ∈ db.shipments.rows, shipment.orderID = orderID

/-- The order has this status. -/
def HasStatus (db : Database) (orderID : String) (status : OrderStatus) : Prop :=
  ∃ order ∈ db.orders.rows, order.orderID = orderID ∧ order.status = status

/-- Between two databases, what is shipped stays shipped, and an order becomes shipped when it enters the status
`shipment_created`. -/
structure ShipsOnEntry (db db' : Database) (orderID : String) : Prop where
  stays : db.Shipped orderID → db'.Shipped orderID
  entered : db'.Shipped orderID → db.Shipped orderID ∨ db'.HasStatus orderID .shipmentCreated
  shipped : db'.HasStatus orderID .shipmentCreated → db.HasStatus orderID .shipmentCreated ∨ db'.Shipped orderID

theorem ShipsOnEntry.refl (db : Database) (orderID : String) : db.ShipsOnEntry db orderID := ⟨id, .inl, .inl⟩

end Database

theorem Job.Writes.sets_status (h : job.Writes svc trace c) (hships : c.ships = false) {o : OrderColumns}
    (hset : (c.sets row o).status = .shipmentCreated) :
    o.status = .shipmentCreated := by
  cases h with
  | create => exact hset
  | cancel => cases hset
  | @handle _ _ event _ _ hwrite =>
    cases hwrite with
    | compensation =>
      change compensationTarget event.eventType = .shipmentCreated at hset
      unfold compensationTarget at hset
      split at hset <;> cases hset
    | shipmentCreated => cases hships
    | _ => first | exact hset | cases hset

theorem shipsOnEntry_of_written (hwrites : job.Writes svc trace c) (htx : c.transaction = some (row.orderID, tx))
    (hrow : row ∈ db.orders.rows) (hwritten : db.Written row c db') (orderID : String) :
    db.ShipsOnEntry db' orderID := by
  have hstatus : ∀ o : OrderColumns, (c.columns row o).status = (c.sets row o).status := by
    intro o
    unfold StoreCall.columns Database.voidedColumns
    split_ifs <;> rfl
  cases hwritten.shipments with
  | same _ _ hships hshipments =>
    refine ⟨?_, ?_, ?_⟩
    · unfold Database.Shipped
      rw [hshipments]
      exact id
    · unfold Database.Shipped
      rw [hshipments]
      exact .inl
    · rintro ⟨order', horder', hid, hentered⟩
      rw [hwritten.orders] at horder'
      obtain ⟨order, horder, rfl⟩ := List.mem_map.mp horder'
      rw [OrderRow.orderID_setColumns] at hid
      refine .inl ⟨order, horder, hid, ?_⟩
      by_cases hlocked : order.orderID = row.orderID
      · rw [OrderRow.setColumns_of_eq hlocked] at hentered
        exact hwrites.sets_status hships ((hstatus _).symm.trans hentered)
      · rwa [OrderRow.setColumns_of_ne hlocked] at hentered
  | shipped source next shipment audit _ hupsert =>
    have hsource : source.orderID = row.orderID := (Prod.mk.inj (Option.some.inj htx)).1
    have hlocked : db'.HasStatus source.orderID .shipmentCreated := by
      rw [hsource]
      refine ⟨_, hwritten.orders ▸ List.mem_map_of_mem hrow, OrderRow.orderID_setColumns _ _ _, ?_⟩
      rw [OrderRow.setColumns_of_eq rfl]
      exact hstatus _
    refine ⟨?_, ?_, ?_⟩
    · rintro ⟨old, hold, rfl⟩
      by_cases htarget : old.orderID = source.orderID
      · obtain ⟨new, hnew, rfl | ⟨_, _, _, rfl⟩⟩ := Table.exists_mem_upsert hupsert
        · exact ⟨_, hnew, htarget.symm⟩
        · exact ⟨_, hnew, htarget.symm⟩
      · exact ⟨old, Table.mem_upsert_of_not_target hupsert hold (decide_eq_false htarget), rfl⟩
    · rintro ⟨new, hnew, rfl⟩
      rcases Table.mem_upsert hupsert hnew with rfl | ⟨hold, _⟩ | ⟨_, _, _, rfl⟩
      · exact .inr hlocked
      · exact .inl ⟨new, hold, rfl⟩
      · exact .inr hlocked
    · rintro ⟨order', horder', hid, hentered⟩
      rw [hwritten.orders] at horder'
      obtain ⟨order, horder, rfl⟩ := List.mem_map.mp horder'
      rw [OrderRow.orderID_setColumns] at hid
      by_cases hsame : order.orderID = row.orderID
      · obtain ⟨new, hnew, rfl | ⟨_, _, _, rfl⟩⟩ := Table.exists_mem_upsert hupsert
        · exact .inr ⟨_, hnew, hsource.trans (hsame.symm.trans hid)⟩
        · exact .inr ⟨_, hnew, hsource.trans (hsame.symm.trans hid)⟩
      · rw [OrderRow.setColumns_of_ne hsame] at hentered
        exact .inl ⟨order, horder, hid, hentered⟩

theorem shipsOnEntry_of_step (hs : (postgresSaga svc).Reachable cond s) (hstep : (postgresSaga svc).step s l t)
    (orderID : String) : (databaseOf s).ShipsOnEntry (databaseOf t) orderID := by
  rcases outcome_of_step hs hstep with ⟨hdb, _⟩ | ⟨job, trace, c, r, hwrites, houtcome, _⟩
  · rw [hdb]
    exact .refl _ _
  · generalize databaseOf t = db' at houtcome
    cases houtcome with
    | idle => exact .refl _ _
    | inserted merchantID idempotencyKey order event audit _ _ hinsert =>
      obtain ⟨hinserted⟩ := Database.insertNewOrder_eq_ok hinsert
      cases hwrites with
      | create =>
        have horders := Table.rows_insert hinserted.orders_eq
        rw [hinserted.db_eq]
        refine ⟨id, .inl, ?_⟩
        rintro ⟨order, horder, hid, hstatus⟩
        change order ∈ hinserted.orders.rows at horder
        rw [horders] at horder
        rcases List.mem_append.mp horder with hold | hnew
        · exact .inl ⟨order, hold, hid, hstatus⟩
        · rw [List.mem_singleton.mp hnew] at hstatus
          cases hstatus
      | handle _ hwrite => cases hwrite
    | transacted _ _ orderID tx audit row event written inserted htx hrow _ hstatements hinserted =>
      obtain ⟨hmem, rfl⟩ := Database.order?_eq_some hrow
      have hwritten := Database.written_of_statements htx hstatements
      obtain ⟨outboxEvents, rfl, _⟩ := Database.insertNext_eq_ok hinserted
      have hships := shipsOnEntry_of_written hwrites htx hmem hwritten orderID
      exact ⟨hships.stays, hships.entered, hships.shipped⟩

/-! ### Runs -/

/-- An order has a shipment if and only if it has been in the status `shipment_created`. -/
theorem shipped_iff_history {history : List PostgresSaga} (hrun : (postgresSaga svc).Run cond history s)
    (orderID : String) : (databaseOf s).Shipped orderID ↔
      ∃ u ∈ history, (databaseOf u).HasStatus orderID .shipmentCreated := by
  induction hrun with
  | @start s hinit =>
    have hunused : (databaseOf s).Unused := hinit.1.1
    constructor
    · rintro ⟨_, hmem, _⟩
      rw [hunused.shipments] at hmem
      cases hmem
    · rintro ⟨u, hu, _, hmem, _⟩
      rw [List.mem_singleton.mp hu, hunused.orders] at hmem
      cases hmem
  | @step history s t l hrun hstep _ ih =>
    have hships := shipsOnEntry_of_step hrun.reachable hstep orderID
    constructor
    · intro hshipped
      rcases hships.entered hshipped with hold | hstatus
      · obtain ⟨u, hu, hstatus⟩ := ih.mp hold
        exact ⟨u, List.mem_cons_of_mem _ hu, hstatus⟩
      · exact ⟨t, List.mem_cons_self, hstatus⟩
    · rintro ⟨u, hu, hstatus⟩
      rcases List.mem_cons.mp hu with rfl | hvisited
      · rcases hships.shipped hstatus with hold | hshipped
        · exact hships.stays (ih.mpr ⟨s, hrun.mem, hold⟩)
        · exact hshipped
      · exact hships.stays (ih.mpr ⟨u, hvisited, hstatus⟩)

/-- Handlers are started on events of the outbox, and each event is handled successfully at most once per
queue. -/
def DeliveredOnce (s : PostgresSaga) (l : SagaLabel) : Prop := FromOutbox postgresStore s l ∧ AtMostOnce s l

theorem mirrorInvariant_of_reachable (hs : (postgresSaga svc).Reachable DeliveredOnce s) : MirrorInvariant s := by
  refine Lts.Reachable.invariant ?_ ?_ hs
  · rintro s ⟨⟨hunused, _⟩, _⟩
    change (databaseOf s).Unused at hunused
    refine ⟨?_, ?_, ?_, ?_, ?_⟩
    · unfold Database.PaymentsMirrored
      rw [hunused.orders]
      exact .nil
    · unfold Database.StockMirrored
      rw [hunused.orderItems]
      exact .nil
    · rw [hunused.paymentAuthorizations]
      exact fun _ hmem => absurd hmem List.not_mem_nil
    · rw [hunused.stockReservations]
      exact fun _ hmem => absurd hmem List.not_mem_nil
    · intro env hmem
      rw [OutboxStore.envelopes, postgresStore.outbox_start _ hunused] at hmem
      cases hmem
  · intro s l t hs h hstep hcond
    exact mirrorInvariant_of_step (fun _ _ h => h.1) (fun _ _ h => h.2) h hs hstep hcond

/-- The two copies of every payment and of every reservation agree. -/
structure Mirrored (db : Database) : Prop where
  authorized : ∀ order ∈ db.orders.rows, order.paymentStatus = some .authorized ↔
    ∃ payment ∈ db.paymentAuthorizations.rows, payment.orderID = order.orderID ∧ payment.status = .authorized
  agreed : ∀ order ∈ db.orders.rows, order.paymentStatus = some .authorized →
    ∀ payment ∈ db.paymentAuthorizations.rows, payment.orderID = order.orderID →
      order.paymentAuthorizationID = some payment.authorizationID ∧ payment.amount = order.totalAmount ∧
      payment.currency = order.currency
  voided : ∀ order ∈ db.orders.rows, order.paymentStatus = some .voided ↔
    ∃ payment ∈ db.paymentAuthorizations.rows, payment.orderID = order.orderID ∧ payment.status = .voided
  reserved : ∀ item ∈ db.orderItems.rows, item.reservationStatus = .reserved ↔
    ∃ reservation ∈ db.stockReservations.rows, reservation.orderID = item.orderID ∧
      reservation.sku = item.sku ∧ reservation.status = .reserved
  quantity : ∀ item ∈ db.orderItems.rows, ∀ reservation ∈ db.stockReservations.rows,
    reservation.orderID = item.orderID → reservation.sku = item.sku → reservation.quantity = item.quantity
  released : ∀ item ∈ db.orderItems.rows, item.reservationStatus = .released ↔
    ∃ reservation ∈ db.stockReservations.rows, reservation.orderID = item.orderID ∧
      reservation.sku = item.sku ∧ reservation.status = .released

/-- **Mirrored projections agree.** In every run in which each event is handled successfully at most once per
queue, whatever the workers are configured with and the providers answer. -/
theorem projections_mirrored {history : List PostgresSaga}
    (hrun : (postgresSaga svc).Run DeliveredOnce history s) : Mirrored (databaseOf s) ∧
      ∀ orderID, (databaseOf s).Shipped orderID ↔
        ∃ u ∈ history, (databaseOf u).HasStatus orderID .shipmentCreated := by
  have h := mirrorInvariant_of_reachable hrun.reachable
  refine ⟨?_, shipped_iff_history hrun⟩
  refine ⟨?_, ?_, ?_, ?_, ?_, ?_⟩
  · intro order horder
    exact h.payments.status_iff horder (.inl rfl)
  · intro order horder _ payment hpayment hpaid
    have hrepeats := h.payments.agree order horder payment hpayment hpaid
    exact ⟨hrepeats.authorizationID, hrepeats.amount, hrepeats.currency⟩
  · intro order horder
    exact h.payments.status_iff horder (.inr rfl)
  · intro item hitem
    exact h.stock.status_iff hitem .reserved
  · intro item hitem reservation hreservation horder hsku
    exact (h.stock.agree item hitem reservation hreservation ⟨horder, hsku⟩).quantity
  · intro item hitem
    exact h.stock.status_iff hitem .released

/-! ### A run to the shipment -/

def deliveredOnceCheck (s : PostgresSaga) (l : SagaLabel) (t : PostgresSaga) : Bool :=
  decide (FromOutbox postgresStore s l ∧ Unrepeated t)

theorem deliveredOnceCheck_decides (svc : Service) : Decides (postgresSaga svc) deliveredOnceCheck DeliveredOnce := by
  intro s l t hstep h
  obtain ⟨hfrom, honce⟩ := of_decide_eq_true h
  exact ⟨hfrom, atMostOnce_of_unrepeated hstep honce⟩

/-- After the stock, the payment is authorized and the shipment created. -/
def shipmentActs : List Act :=
  [.handle .paymentsAuthorize postgresWorker 1, .reply 2 (.time 3),
    .reply 2 (.payment (.ok ⟨"acme", .authorized, "auth-1", ""⟩)), .reply 2 (.id "3"), .store 2,
    .handle .shipmentsCreate postgresWorker 2, .reply 3 (.time 4),
    .reply 3 (.shipment (.ok ⟨"shp-1", .created, "acme", "track-1", []⟩)), .reply 3 (.id "4"), .store 3]

/-- The projections at a run whose order is reserved, paid and shipped. -/
theorem projections_mirrored_shipped : ∃ (history : List PostgresSaga) (s : PostgresSaga),
    (postgresSaga sampleService).Run DeliveredOnce history s ∧
      (databaseOf s).orders.rows.map (·.paymentStatus) = [some .authorized] ∧
      (databaseOf s).orderItems.rows.map (·.reservationStatus) = [.reserved] ∧
      (databaseOf s).shipments.rows.map (·.orderID) = ["ord_1"] ∧ Mirrored (databaseOf s) ∧
      ∀ orderID, (databaseOf s).Shipped orderID ↔
        ∃ u ∈ history, (databaseOf u).HasStatus orderID .shipmentCreated := by
  obtain ⟨s, hs, hpayment, hitem, hshipment⟩ := (postgresSimulator sampleService).exists_reachable
    (Q := fun s => (databaseOf s).orders.rows.map (·.paymentStatus) = [some .authorized] ∧
      (databaseOf s).orderItems.rows.map (·.reservationStatus) = [.reserved] ∧
      (databaseOf s).shipments.rows.map (·.orderID) = ["ord_1"])
    (deliveredOnceCheck_decides sampleService) (.start (init_catalogSaga (unused_sampleCatalog "w1")))
    (stockActs ++ shipmentActs) (by decide +kernel)
  obtain ⟨history, hrun⟩ := hs.run
  exact ⟨history, s, hrun, hpayment, hitem, hshipment, projections_mirrored hrun⟩

end FulfillHub
