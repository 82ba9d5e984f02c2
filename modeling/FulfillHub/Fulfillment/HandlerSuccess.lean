import FulfillHub.Api.Backend
import FulfillHub.Fulfillment.MemorySaga
import FulfillHub.Library.Completion
import FulfillHub.Postgres.OrderViews
import FulfillHub.Postgres.Saga

/-!
# When handlers succeed

A handler is run over either store, with the clock, the ids and the providers answering as they like. `Succeeds` says
that it may return success. For each of the seven handlers this can be read off the worker's dependencies, the type of
the event, the status of the order and the constraints of the database before the run.
-/

namespace FulfillHub

open Interaction Relational

namespace Backend

/-! ### Runs over a store -/

/-- A store call is answered by the store and an id begins with its kind. Everything else is open. -/
def Answers (b : Backend) : (c : Call) → c.Answer → Backend → Prop
  | .store c, r, t => b.semantics c = (r, t)
  | .port (.newID kind), id, t => (∃ suffix, id = kind ++ "_" ++ suffix) ∧ t = b
  | .port _, _, t => t = b

/-- The program may return success. -/
def Succeeds (b : Backend) (p : Saga (Except Error Unit)) : Prop :=
  p.May Answers b fun result _ => result = .ok ()

section Calls

variable {b : Backend}

theorem may_store {c : StoreCall} {Q : Except Error c.Result → Backend → Prop} :
    (Saga.store c).May Answers b Q ↔ Q (b.semantics c).1 (b.semantics c).2 := by
  rw [Saga.store, Prog.may_perform]
  constructor
  · rintro ⟨r, t, hanswer, hQ⟩
    obtain ⟨rfl, rfl⟩ := Prod.mk.inj (show ((b.semantics c).1, (b.semantics c).2) = (r, t) from hanswer)
    exact hQ
  · exact fun hQ => ⟨_, _, rfl, hQ⟩

@[simp] theorem may_record {c : ProjectorCall} {Q : Except Error Unit → Backend → Prop} :
    (Saga.record c).May Answers b Q ↔ Q (b.semantics (.projector c)).1 (b.semantics (.projector c)).2 := may_store

@[simp] theorem may_getOrder {orderID : String} {Q : Except Error Order → Backend → Prop} :
    (Saga.getOrder orderID).May Answers b Q ↔ Q (b.semantics (.getOrder orderID)).1 b := by
  rw [Saga.getOrder, may_store, semantics_getOrder]

@[simp] theorem may_updateOrderStatus {orderID : String} {status : OrderStatus} {now : Time} {event : OutboxEvent}
    {audit : AuditLog} {Q : Except Error Order → Backend → Prop} :
    (Saga.updateOrderStatus orderID status now event audit).May Answers b Q ↔
      Q (b.semantics (.updateOrderStatus orderID status now event audit)).1
        (b.semantics (.updateOrderStatus orderID status now event audit)).2 := may_store

@[simp] theorem may_clock {Q : Time → Backend → Prop} : Saga.clock.May Answers b Q ↔ ∃ now, Q now b := by
  rw [Saga.clock, Saga.port, Prog.may_perform]
  simp [Answers]

@[simp] theorem may_newID {kind : String} {Q : String → Backend → Prop} :
    (Saga.newID kind).May Answers b Q ↔ ∃ suffix, Q (kind ++ "_" ++ suffix) b := by
  rw [Saga.newID, Saga.port, Prog.may_perform]
  simp [Answers]

@[simp] theorem may_reserveInventory {event : OutboxEvent} {Q : Except Error Unit → Backend → Prop} :
    (Saga.reserveInventory event).May Answers b Q ↔ ∃ answer, Q answer b := by
  rw [Saga.reserveInventory, Saga.port, Prog.may_perform]
  simp [Answers]

@[simp] theorem may_authorizePayment {event : OutboxEvent} {Q : Except Error Payment → Backend → Prop} :
    (Saga.authorizePayment event).May Answers b Q ↔ ∃ answer, Q answer b := by
  rw [Saga.authorizePayment, Saga.port, Prog.may_perform]
  simp [Answers]

@[simp] theorem may_createShipment {event : OutboxEvent} {Q : Except Error Shipment → Backend → Prop} :
    (Saga.createShipment event).May Answers b Q ↔ ∃ answer, Q answer b := by
  rw [Saga.createShipment, Saga.port, Prog.may_perform]
  simp [Answers]

end Calls

/-! ### Store calls -/

/-- The database has no reason of its own to refuse the call; the in-memory store never has one. -/
def Admits : Backend → String → StoreCall → Prop
  | .memory _, _, _ => True
  | .postgres db, orderID, c => ∃ row, db.order? orderID = some row ∧ db.Admits row c

section Stores

variable {b : Backend} {c : StoreCall} {orderID : String} {tx : Transaction} {order : Order}

theorem order?_postgres {db : Database} (h : (Backend.postgres db).order? orderID = some order) :
    ∃ row, db.order? orderID = some row ∧ order = db.assemble row := by
  obtain ⟨row, hrow, rfl⟩ := Option.map_eq_some_iff.mp h
  exact ⟨row, hrow, rfl⟩

/-- A call on a stored order that is accepted was allowed by the order's status and by the database. -/
theorem admits_of_ok (htx : c.transaction = some (orderID, tx)) (hstored : b.order? orderID = some order)
    {r : c.Result} (h : (b.semantics c).1 = .ok r) :
    (∀ next, c.target = some next → canTransitionOrderStatus order.status next = true) ∧ b.Admits orderID c := by
  cases b with
  | memory s =>
    obtain ⟨-, p, heffect, htarget⟩ := StoreCall.effect_of_transaction htx
    obtain ⟨audit, hrefused, -⟩ := MemoryStore.semantics_of_project s heffect
    refine ⟨?_, trivial⟩
    rw [← htarget]
    apply MemoryStore.checkTarget_eq_ok.mp
    cases hcheck : MemoryStore.checkTarget order.status p.target with
    | ok => rfl
    | error err =>
      have hlookup : s.orders.lookup orderID = some order := hstored
      change (MemoryStore.semantics s c).1 = .ok r at h
      rw [hrefused err (by simp [MemoryStore.project, hlookup, hcheck])] at h
      cases h
  | postgres db =>
    obtain ⟨row, hrow, rfl⟩ := order?_postgres hstored
    obtain ⟨audit, hrefused, -⟩ := Database.semantics_of_transact db htx
    cases htransact : db.transact orderID tx audit with
    | error err =>
      change (Database.semantics db c).1 = .ok r at h
      rw [hrefused err htransact] at h
      cases h
    | ok db' =>
      obtain ⟨row', event, written, inserted, hrow', htarget, hstatements, -, -⟩ :=
        Database.transact_eq_ok.mp htransact
      obtain rfl := Option.some.inj (hrow.symm.trans hrow')
      have hid := (Database.order?_eq_some hrow).2
      rw [← (StoreCall.effect_of_transaction htx).1]
      exact ⟨htarget, row, hrow, Database.admits_of_statements (hid.symm ▸ htx) hstatements⟩

/-- A call that is allowed is accepted, if its next event has a new id and an instant that can be written. -/
theorem ok_of_admits (htx : c.transaction = some (orderID, tx)) (hstored : b.order? orderID = some order)
    (htarget : ∀ next, c.target = some next → canTransitionOrderStatus order.status next = true)
    (hadmits : b.Admits orderID c)
    (hfresh : ∀ event, c.handed = some event → event.orderID = orderID ∧
      (∀ old ∈ b.outbox, old.messageID ≠ event.messageID) ∧ event.occurredAt.encodable = true) :
    ∃ r, (b.semantics c).1 = .ok r := by
  cases b with
  | memory s =>
    obtain ⟨-, p, heffect, hsame⟩ := StoreCall.effect_of_transaction htx
    obtain ⟨audit, -, haccepted⟩ := MemoryStore.semantics_of_project s heffect
    rw [← hsame] at htarget
    obtain ⟨r, hr⟩ := haccepted _ _ (MemoryStore.project_eq_ok hstored htarget)
    exact ⟨r, congrArg Prod.fst hr⟩
  | postgres db =>
    obtain ⟨row, hrow, hadmits⟩ := hadmits
    obtain ⟨row', hrow', rfl⟩ := order?_postgres hstored
    obtain rfl := Option.some.inj (hrow.symm.trans hrow')
    obtain ⟨audit, -, haccepted⟩ := Database.semantics_of_transact db htx
    rw [← (StoreCall.effect_of_transaction htx).1] at htarget
    obtain ⟨written, outboxEvents, hwritten, htransact⟩ :=
      Database.transact_of_admits hrow htx hadmits hfresh htarget audit
    obtain ⟨r, hr⟩ := haccepted _ (row.setColumns row.orderID (c.columns row)) htransact (by
      change written.order? orderID = _
      rw [Database.order?_of_setColumns orderID hwritten.orders, hrow]
      rfl)
    exact ⟨r, congrArg Prod.fst hr⟩

theorem semantics_failed {err : Error} (h : (b.semantics c).1 = .error err) : (b.semantics c).2 = b := by
  cases b with
  | memory s => exact congrArg Backend.memory (memoryOutboxStore.failed s c err h)
  | postgres db => exact congrArg Backend.postgres (postgresStore.failed db c err h)

end Stores

/-! ### New ids -/

theorem exists_unused (used : List String) : ∃ suffix : String, ∀ start : String, start ++ suffix ∉ used := by
  refine ⟨String.ofList (List.replicate ((used.map String.length).sum + 1) 'a'), ?_⟩
  intro start hmem
  have hle := List.le_sum_of_mem (List.mem_map_of_mem (f := String.length) hmem)
  simp at hle
  omega

theorem exists_unusedIn (b : Backend) (used : Database → List String) :
    ∃ suffix : String, ∀ db, b = .postgres db → ∀ start : String, start ++ suffix ∉ used db := by
  cases b with
  | memory s => exact ⟨"", by rintro _ ⟨⟩⟩
  | postgres db =>
    obtain ⟨suffix, hunused⟩ := exists_unused (used db)
    exact ⟨suffix, by rintro _ ⟨⟩; exact hunused⟩

section Recorded

variable {b : Backend} {event : OutboxEvent} {order : Order}

theorem admits_of_rows {c : StoreCall} {orderID : String} (hstored : b.order? orderID = some order)
    (h : ∀ db row, b = .postgres db → row.orderID = orderID → order = db.assemble row → db.Admits row c) :
    b.Admits orderID c := by
  cases b with
  | memory s => trivial
  | postgres db =>
    obtain ⟨row, hrow, hassemble⟩ := order?_postgres hstored
    exact ⟨row, hrow, h db row rfl (Database.order?_eq_some hrow).2 hassemble⟩

theorem row_of_admits {db : Database} {c : StoreCall} {orderID : String}
    (hstored : (Backend.postgres db).order? orderID = some order) (h : (Backend.postgres db).Admits orderID c) :
    ∃ row, row.orderID = orderID ∧ order = db.assemble row ∧ db.Admits row c := by
  obtain ⟨row, hrow, hadmits⟩ := h
  obtain ⟨row', hrow', rfl⟩ := order?_postgres hstored
  obtain rfl := Option.some.inj (hrow.symm.trans hrow')
  exact ⟨row, (Database.order?_eq_some hrow).2, rfl, hadmits⟩

/-- A call on the order of an event that announces a next event at the zero time is accepted with some id for it. -/
theorem exists_accepted (c : String → StoreCall) (hstored : b.order? event.orderID = some order)
    (htx : ∀ id, ∃ tx, (c id).transaction = some (event.orderID, tx))
    (hnext : ∀ id, ∃ eventType, (c id).handed = some (nextEventAt id event eventType 0))
    (htarget : ∀ id next, (c id).target = some next → canTransitionOrderStatus order.status next = true)
    (hadmits : ∀ id, b.Admits event.orderID (c id)) :
    ∃ suffix r, (b.semantics (c ("msg" ++ "_" ++ suffix))).1 = .ok r := by
  obtain ⟨suffix, hunused⟩ := exists_unused (b.outbox.map OutboxEvent.messageID)
  obtain ⟨tx, htx⟩ := htx ("msg" ++ "_" ++ suffix)
  obtain ⟨eventType, hnext⟩ := hnext ("msg" ++ "_" ++ suffix)
  obtain ⟨r, hr⟩ := ok_of_admits htx hstored (htarget _) (hadmits _) (by
    intro next hhanded
    obtain rfl := Option.some.inj (hnext.symm.trans hhanded)
    have hzero : Time.encodable 0 = true := by decide
    refine ⟨rfl, ?_, hzero⟩
    intro old hold hsame
    have hused : "msg" ++ "_" ++ suffix ∈ b.outbox.map OutboxEvent.messageID := List.mem_map.mpr ⟨old, hold, hsame⟩
    exact hunused ("msg" ++ "_") hused)
  exact ⟨suffix, r, hr⟩

theorem exists_recorded (c : String → ProjectorCall) (hstored : b.order? event.orderID = some order)
    (hsource : ∀ id, (c id).source = event)
    (hnext : ∀ id, ∃ eventType, (c id).next = some (nextEventAt id event eventType 0))
    (htarget : ∀ id next, StoreCall.target (.projector (c id)) = some next →
      canTransitionOrderStatus order.status next = true)
    (hadmits : ∀ db row, b = .postgres db → row.orderID = event.orderID → order = db.assemble row →
      ∀ id, db.Admits row (.projector (c id))) :
    ∃ suffix, (b.semantics (.projector (c ("msg" ++ "_" ++ suffix)))).1 = .ok () := by
  have htx : ∀ id, StoreCall.transaction (.projector (c id)) = some (event.orderID, (c id).transaction) := by
    intro id
    rw [← hsource id]
    rfl
  obtain ⟨suffix, r, hr⟩ := exists_accepted (fun id => .projector (c id)) hstored (fun id => ⟨_, htx id⟩) hnext htarget
    fun id => admits_of_rows hstored fun db row hb hid horder => hadmits db row hb hid horder id
  exact ⟨suffix, hr⟩

theorem exists_recorded_always (c : String → ProjectorCall) (hstored : b.order? event.orderID = some order)
    (hsource : ∀ id, (c id).source = event)
    (hnext : ∀ id, ∃ eventType, (c id).next = some (nextEventAt id event eventType 0))
    (htarget : ∀ id, StoreCall.target (.projector (c id)) = none)
    (hadmits : ∀ (db : Database) row id, db.Admits row (.projector (c id))) :
    ∃ suffix, (b.semantics (.projector (c ("msg" ++ "_" ++ suffix)))).1 = .ok () := by
  apply exists_recorded c hstored hsource hnext
  · intro id next hnext
    rw [htarget] at hnext
    cases hnext
  · exact fun db row _ _ _ id => hadmits db row id

end Recorded

/-! ### The handlers -/

section Handlers

variable {b : Backend} {event : OutboxEvent} {order : Order} {deps : Dependencies}

/-- The lines of the order can be reserved, or there is no stock for one of them. -/
def ReservesLines : Backend → OutboxEvent → Prop
  | .memory _, _ => True
  | .postgres db, event => db.itemsOf event.orderID ≠ [] ∧
      db.refusal event.merchantID event.orderID (db.itemsOf event.orderID) ≠ some .blocked

/-- The column of the authorized amount takes the total of the order. -/
def HoldsTotal : Backend → Order → Prop
  | .memory _, _ => True
  | .postgres _, order => 0 ≤ order.totals.total.amount

/-- The stock the order holds can be given back. -/
def Releases : Backend → String → Prop
  | .memory _, _ => True
  | .postgres db, orderID => db.Releasable orderID

theorem validateEvent_eq_ok (hidentity : validateEventIdentity event = .ok ()) {expected : EventType}
    (htype : event.eventType = expected) : validateEvent event expected = .ok () := by
  simp [validateEvent, htype, hidentity]

theorem validateEvent_eq_error {expected : EventType} (htype : event.eventType ≠ expected) :
    ∃ err, validateEvent event expected = .error err := by
  simp [validateEvent, htype]

theorem not_succeeds_error {err : Error} : ¬ b.Succeeds (pure (.error err)) := by
  simp [Succeeds]

theorem succeeds_recordInventoryRejected (hstored : b.order? event.orderID = some order) (cause : Error) :
    b.Succeeds (recordInventoryRejected event 0 cause) := by
  simp only [Succeeds, recordInventoryRejected, Prog.may_bind, may_newID, may_record]
  apply exists_recorded_always (fun id => .recordInventoryRejected event (nextEventAt id event .inventoryRejected 0)
    ((systemAudit event "inventory.rejected" 0).withDetail "error" cause.text)) hstored
  · exact fun _ => rfl
  · exact fun _ => ⟨_, rfl⟩
  · exact fun _ => rfl
  · exact fun _ _ _ => trivial

theorem short_iff (hstored : b.order? event.orderID = some order) (next : OutboxEvent) (audit : AuditLog) :
    (∃ err, (b.semantics (.projector (.recordInventoryReserved event next audit))).1 = .error err ∧
        err.is .insufficientStock = true) ↔
      canTransitionOrderStatus order.status .inventoryReserved = true ∧ ∃ db, b = .postgres db ∧
        db.itemsOf event.orderID ≠ [] ∧
        db.refusal event.merchantID event.orderID (db.itemsOf event.orderID) = some .short := by
  cases b with
  | memory s =>
    have hlookup : s.orders.lookup event.orderID = some order := hstored
    constructor
    · rintro ⟨err, h, hshort⟩
      change ((s.project event.orderID (.inventoryReserved next) audit).1.map fun _ => ()) = .error err at h
      cases hcheck : MemoryStore.checkTarget order.status (some .inventoryReserved) with
      | ok => simp [MemoryStore.project, hlookup, Projection.inventoryReserved, hcheck, Except.map] at h
      | error refused =>
        obtain ⟨text, rfl⟩ := Database.checkTarget_eq_error hcheck
        simp only [MemoryStore.project, hlookup, Projection.inventoryReserved, hcheck, Except.map,
          Except.error.injEq] at h
        rw [← h] at hshort
        cases hshort
    · rintro ⟨-, db, ⟨⟩, -⟩
  | postgres db =>
    obtain ⟨row, hrow, rfl⟩ := order?_postgres hstored
    have hsemantics : ((Backend.postgres db).semantics
        (.projector (.recordInventoryReserved event next audit))).1 =
          (db.transact event.orderID (.inventoryReserved event next) audit).map fun _ => () := by
      change (db.commit ((db.transact event.orderID (.inventoryReserved event next) audit).map _)).1 = _
      cases db.transact event.orderID (.inventoryReserved event next) audit <;> rfl
    rw [hsemantics]
    constructor
    · rintro ⟨err, h, hshort⟩
      cases htransact : db.transact event.orderID (.inventoryReserved event next) audit with
      | ok db' =>
        rw [htransact] at h
        cases h
      | error refused =>
        rw [htransact] at h
        obtain ⟨htarget, hlines⟩ := (Database.shortage_iff audit hrow).mp
          ⟨refused, htransact, Except.error.inj h ▸ hshort⟩
        exact ⟨htarget, db, rfl, hlines⟩
    · rintro ⟨htarget, _, ⟨⟩, hlines⟩
      obtain ⟨err, h, hshort⟩ := (Database.shortage_iff audit hrow).mpr ⟨htarget, hlines⟩
      exact ⟨err, by rw [h]; rfl, hshort⟩

theorem refusal_eq_none {db : Database} {merchantID orderID : String} {lines : List OrderItemRow}
    (hshort : db.refusal merchantID orderID lines ≠ some .short)
    (hblocked : db.refusal merchantID orderID lines ≠ some .blocked) : db.refusal merchantID orderID lines = none := by
  cases hrefusal : db.refusal merchantID orderID lines with
  | none => rfl
  | some verdict =>
    cases verdict with
    | granted => exact absurd (List.find?_some hrefusal) (by decide)
    | short => exact absurd hrefusal hshort
    | blocked => exact absurd hrefusal hblocked

theorem succeeds_recordInventoryReserved (hstored : b.order? event.orderID = some order) :
    (∃ now, b.Succeeds (recordInventoryReserved event now)) ↔
      canTransitionOrderStatus order.status .inventoryReserved = true ∧ b.ReservesLines event := by
  simp only [Succeeds, recordInventoryReserved, Prog.may_bind, may_newID, may_record]
  constructor
  · rintro ⟨now, suffix, h⟩
    split at h
    · rename_i err hrefused
      split_ifs at h with hshort
      · obtain ⟨htarget, db, rfl, hlines, hrefusal⟩ := (short_iff hstored _ _).mp ⟨err, hrefused, hshort⟩
        refine ⟨htarget, hlines, ?_⟩
        rw [hrefusal]
        decide
      · exact absurd h not_succeeds_error
    · rename_i haccepted
      obtain ⟨htarget, hadmits⟩ := admits_of_ok rfl hstored haccepted
      refine ⟨htarget _ rfl, ?_⟩
      cases b with
      | memory s => trivial
      | postgres db =>
        obtain ⟨row, hid, -, hlines, hrefusal⟩ := row_of_admits hstored hadmits
        rw [hid] at hlines hrefusal
        refine ⟨hlines, ?_⟩
        rw [hrefusal]
        decide
  · rintro ⟨htarget, hlines⟩
    refine ⟨0, ?_⟩
    by_cases hshort : ∃ db, b = .postgres db ∧
        db.refusal event.merchantID event.orderID (db.itemsOf event.orderID) = some .short
    · obtain ⟨db, rfl, hrefusal⟩ := hshort
      obtain ⟨err, hrefused, hshort⟩ := (short_iff hstored (nextEventAt ("msg" ++ "_" ++ "") event .inventoryReserved 0)
        (systemAudit event "inventory.reserved" 0)).mpr ⟨htarget, db, rfl, hlines.1, hrefusal⟩
      refine ⟨"", ?_⟩
      rw [hrefused, semantics_failed hrefused]
      simp only [hshort, if_true]
      exact succeeds_recordInventoryRejected hstored err
    · obtain ⟨suffix, haccepted⟩ : ∃ suffix, (b.semantics (.projector (.recordInventoryReserved event
          (nextEventAt ("msg" ++ "_" ++ suffix) event .inventoryReserved 0)
          (systemAudit event "inventory.reserved" 0)))).1 = .ok () := by
        apply exists_recorded (fun id => .recordInventoryReserved event
          (nextEventAt id event .inventoryReserved 0) (systemAudit event "inventory.reserved" 0)) hstored
        · exact fun _ => rfl
        · exact fun _ => ⟨_, rfl⟩
        · rintro _ _ ⟨⟩
          exact htarget
        · rintro db row rfl hid - id
          change db.itemsOf row.orderID ≠ [] ∧ db.refusal _ _ (db.itemsOf row.orderID) = none
          rw [hid]
          exact ⟨hlines.1, refusal_eq_none (fun hrefusal => hshort ⟨db, rfl, hrefusal⟩) hlines.2⟩
      refine ⟨suffix, ?_⟩
      rw [haccepted]
      exact Prog.may_pure.mpr rfl

theorem succeeds_reserveInventory (hidentity : validateEventIdentity event = .ok ())
    (hstored : b.order? event.orderID = some order) : b.Succeeds (reserveInventory deps event) ↔
      deps.projector = true ∧ event.eventType = .orderCreated ∧ (deps.inventoryReserver = true ∨
        canTransitionOrderStatus order.status .inventoryReserved = true ∧ b.ReservesLines event) := by
  cases hprojector : deps.projector with
  | false => simp [reserveInventory, hprojector, Succeeds]
  | true =>
    by_cases htype : event.eventType = .orderCreated
    · have hvalid := validateEvent_eq_ok hidentity htype
      cases hreserver : deps.inventoryReserver with
      | false =>
        simp only [reserveInventory, hprojector, hvalid, hreserver, htype, Succeeds]
        have hreserved := succeeds_recordInventoryReserved hstored
        simp only [Succeeds] at hreserved
        simp [hreserved]
      | true =>
        simp only [reserveInventory, hprojector, hvalid, hreserver, htype, Succeeds]
        simp only [Bool.not_true, Bool.false_eq_true, ↓reduceIte, Prog.may_bind, may_reserveInventory, may_clock, true_or,
          and_self, iff_true]
        exact ⟨0, .error errNotFound, succeeds_recordInventoryRejected hstored errNotFound⟩
    · obtain ⟨err, herr⟩ := validateEvent_eq_error htype
      simp [reserveInventory, hprojector, herr, htype, Succeeds]

theorem exists_paymentFailed (hstored : b.order? event.orderID = some order) (audit : AuditLog) :
    ∃ suffix, (b.semantics (.projector (.recordPaymentFailed event
      (nextEventAt ("msg" ++ "_" ++ suffix) event .paymentFailed 0) audit))).1 = .ok () := by
  apply exists_recorded_always (fun id => .recordPaymentFailed event (nextEventAt id event .paymentFailed 0) audit) hstored
  · exact fun _ => rfl
  · exact fun _ => ⟨_, rfl⟩
  · exact fun _ => rfl
  · exact fun _ _ _ => trivial

theorem exists_paymentAuthorized (hstored : b.order? event.orderID = some order)
    (htarget : canTransitionOrderStatus order.status .paymentAuthorized = true) (htotal : b.HoldsTotal order)
    (audit : AuditLog) : ∃ suffix suffix', (b.semantics (.projector (.recordPaymentAuthorized event
      (nextEventAt ("msg" ++ "_" ++ suffix) event .paymentAuthorized 0)
      (normalizedPayment ⟨"fake-payment", .authorized, "pay" ++ "_" ++ suffix', ""⟩) audit))).1 = .ok () := by
  obtain ⟨suffix', hunused⟩ := b.exists_unusedIn fun db =>
    db.paymentAuthorizations.rows.map PaymentAuthorization.authorizationID
  rw [exists_comm]
  refine ⟨suffix', ?_⟩
  apply exists_recorded (fun id => .recordPaymentAuthorized event (nextEventAt id event .paymentAuthorized 0)
    (normalizedPayment ⟨"fake-payment", .authorized, "pay" ++ "_" ++ suffix', ""⟩) audit) hstored
  · exact fun _ => rfl
  · exact fun _ => ⟨_, rfl⟩
  · rintro _ _ ⟨⟩
    exact htarget
  · rintro db row rfl hid rfl id
    refine ⟨rfl, htotal, ?_⟩
    intro old hold hsame
    exact absurd (List.mem_map.mpr ⟨old, hold, hsame⟩) (hunused db rfl ("pay" ++ "_"))

theorem succeeds_authorizePayment (hidentity : validateEventIdentity event = .ok ())
    (hstored : b.order? event.orderID = some order) : b.Succeeds (authorizePayment deps event) ↔
      deps.projector = true ∧ event.eventType = .inventoryReserved ∧ (deps.paymentAuthorizer = true ∨
        canTransitionOrderStatus order.status .paymentAuthorized = true ∧ b.HoldsTotal order) := by
  cases hprojector : deps.projector with
  | false => simp [authorizePayment, hprojector, Succeeds]
  | true =>
    by_cases htype : event.eventType = .inventoryReserved
    · have hvalid := validateEvent_eq_ok hidentity htype
      simp only [authorizePayment, hprojector, hvalid, htype, Succeeds]
      cases hauthorizer : deps.paymentAuthorizer with
      | false =>
        simp only [Bool.not_true, Bool.false_eq_true, ↓reduceIte, Prog.may_bind, may_record, may_newID, may_clock, false_or,
          true_and]
        constructor
        · rintro ⟨now, suffix, suffix', haccepted⟩
          obtain ⟨htarget, hadmits⟩ := admits_of_ok rfl hstored haccepted
          refine ⟨htarget _ rfl, ?_⟩
          cases b with
          | memory s => trivial
          | postgres db =>
            obtain ⟨row, -, rfl, -, htotal, -⟩ := row_of_admits hstored hadmits
            exact htotal
        · rintro ⟨htarget, htotal⟩
          exact ⟨0, exists_paymentAuthorized hstored htarget htotal _⟩
      | true =>
        simp only [Bool.not_true, Bool.false_eq_true, ↓reduceIte, Prog.may_bind, may_authorizePayment, may_clock, true_or,
          and_self, iff_true]
        refine ⟨0, .error errNotFound, ?_⟩
        simp only [Prog.may_bind, may_record, may_newID]
        exact exists_paymentFailed hstored _
    · obtain ⟨err, herr⟩ := validateEvent_eq_error htype
      simp [authorizePayment, hprojector, herr, htype, Succeeds]

theorem exists_shipmentFailed (hstored : b.order? event.orderID = some order) (audit : AuditLog) :
    ∃ suffix, (b.semantics (.projector (.recordShipmentFailed event
      (nextEventAt ("msg" ++ "_" ++ suffix) event .shipmentFailed 0) audit))).1 = .ok () := by
  apply exists_recorded_always (fun id => .recordShipmentFailed event (nextEventAt id event .shipmentFailed 0) audit) hstored
  · exact fun _ => rfl
  · exact fun _ => ⟨_, rfl⟩
  · exact fun _ => rfl
  · exact fun _ _ _ => trivial

/-- The shipment made up when no provider is configured. -/
def madeUpShipment (shipmentID : String) (now : Time) : Shipment :=
  withShipmentDefaults ⟨shipmentID, .created, "fake-carrier", "TRACK-" ++ shipmentID, [bookingEvent .created now]⟩ now

theorem exists_shipmentCreated (hstored : b.order? event.orderID = some order)
    (htarget : canTransitionOrderStatus order.status .shipmentCreated = true)
    (audit : AuditLog) : ∃ suffix suffix', (b.semantics (.projector (.recordShipmentCreated event
      (nextEventAt ("msg" ++ "_" ++ suffix) event .shipmentCreated 0)
      (madeUpShipment ("shp" ++ "_" ++ suffix') 0) audit))).1 = .ok () := by
  obtain ⟨suffix', hunused⟩ := b.exists_unusedIn fun db =>
    db.shipments.rows.map ShipmentRow.shipmentID ++ db.shipments.rows.map ShipmentRow.trackingNumber
  have htracking : (madeUpShipment ("shp" ++ "_" ++ suffix') 0).trackingNumber =
      "TRACK-" ++ ("shp" ++ "_") ++ suffix' := by
    simp only [madeUpShipment, withShipmentDefaults, ite_self]
    exact (String.append_assoc ..).symm
  rw [exists_comm]
  refine ⟨suffix', ?_⟩
  apply exists_recorded (fun id => .recordShipmentCreated event (nextEventAt id event .shipmentCreated 0)
    (madeUpShipment ("shp" ++ "_" ++ suffix') 0) audit) hstored
  · exact fun _ => rfl
  · exact fun _ => ⟨_, rfl⟩
  · rintro _ _ ⟨⟩
    exact htarget
  · rintro db row rfl hid rfl id
    refine ⟨rfl, ?_⟩
    intro old hold hsame
    rcases hsame with hid | hnumber
    · apply absurd _ (hunused db rfl ("shp" ++ "_"))
      exact List.mem_append_left _ (List.mem_map.mpr ⟨old, hold, hid⟩)
    · apply absurd _ (hunused db rfl ("TRACK-" ++ ("shp" ++ "_")))
      exact List.mem_append_right _ (List.mem_map.mpr ⟨old, hold, hnumber.trans htracking⟩)

theorem succeeds_createShipment (hidentity : validateEventIdentity event = .ok ())
    (hstored : b.order? event.orderID = some order) : b.Succeeds (createShipment deps event) ↔
      deps.projector = true ∧ event.eventType = .paymentAuthorized ∧ (deps.shipmentCreator = true ∨
        canTransitionOrderStatus order.status .shipmentCreated = true) := by
  cases hprojector : deps.projector with
  | false => simp [createShipment, hprojector, Succeeds]
  | true =>
    by_cases htype : event.eventType = .paymentAuthorized
    · have hvalid := validateEvent_eq_ok hidentity htype
      simp only [createShipment, hprojector, hvalid, htype, Succeeds]
      cases hcreator : deps.shipmentCreator with
      | false =>
        have hid : ∀ suffix, "shp" ++ "_" ++ suffix ≠ "" := by simp
        simp only [Bool.not_true, Bool.false_eq_true, ↓reduceIte, normalizedShipment, shipmentWithID, hid, Prog.may_bind,
          may_record, Prog.may_pure, may_newID, may_clock, false_or, true_and]
        constructor
        · rintro ⟨now, suffix, suffix', haccepted⟩
          obtain ⟨htarget, hadmits⟩ := admits_of_ok rfl hstored haccepted
          exact htarget _ rfl
        · intro htarget
          exact ⟨0, exists_shipmentCreated hstored htarget _⟩
      | true =>
        simp only [Bool.not_true, Bool.false_eq_true, ↓reduceIte, Prog.may_bind, may_createShipment, may_clock, true_or,
          and_self, iff_true]
        refine ⟨0, .error errNotFound, ?_⟩
        simp only [Prog.may_bind, may_record, may_newID]
        exact exists_shipmentFailed hstored _
    · obtain ⟨err, herr⟩ := validateEvent_eq_error htype
      simp [createShipment, hprojector, herr, htype, Succeeds]

theorem getOrder_of_stored {orderID : String} (hstored : b.order? orderID = some order) :
    (b.semantics (.getOrder orderID)).1 = .ok order := by
  cases b with
  | memory s =>
    change s.getOrder orderID = _
    rw [MemoryStore.getOrder, show s.orders.lookup orderID = some order from hstored]
  | postgres db =>
    obtain ⟨row, hrow, rfl⟩ := order?_postgres hstored
    change db.getOrderTx orderID = _
    rw [Database.getOrderTx, hrow]

theorem succeeds_updateOrderStatus (hstored : b.order? event.orderID = some order) (status : OrderStatus)
    (eventType : EventType) (audit : Time → AuditLog) :
    (∃ now suffix, discardOrder (b.semantics (.updateOrderStatus event.orderID status now
        (nextEventAt ("msg" ++ "_" ++ suffix) event eventType now) (audit now))).1 = .ok ()) ↔
      canTransitionOrderStatus order.status status = true := by
  constructor
  · rintro ⟨now, suffix, h⟩
    cases hanswer : (b.semantics (.updateOrderStatus event.orderID status now
        (nextEventAt ("msg" ++ "_" ++ suffix) event eventType now) (audit now))).1 with
    | error err =>
      rw [hanswer] at h
      cases h
    | ok updated =>
      obtain ⟨htarget, -⟩ := admits_of_ok rfl hstored hanswer
      exact htarget status rfl
  · intro htarget
    obtain ⟨suffix, updated, hanswer⟩ := exists_accepted (fun id => .updateOrderStatus event.orderID status 0
      (nextEventAt id event eventType 0) (audit 0)) hstored (fun _ => ⟨_, rfl⟩) (fun _ => ⟨_, rfl⟩)
      (by rintro _ _ ⟨⟩; exact htarget) fun _ => admits_of_rows hstored fun _ _ _ _ _ => trivial
    refine ⟨0, suffix, ?_⟩
    rw [hanswer]
    rfl

theorem succeeds_completeOrder (hidentity : validateEventIdentity event = .ok ())
    (hstored : b.order? event.orderID = some order) : b.Succeeds (completeOrder deps event) ↔
      deps.orders = true ∧ event.eventType = .shipmentCreated ∧
        order.status ∈ [.shipmentCreated, .completed, .cancellationPending, .manualReview, .cancelled] := by
  cases horders : deps.orders with
  | false => simp [completeOrder, horders, Succeeds]
  | true =>
    by_cases htype : event.eventType = .shipmentCreated
    · have hvalid := validateEvent_eq_ok hidentity htype
      have hread := getOrder_of_stored hstored
      cases hstatus : order.status with
      | shipmentCreated =>
        have hupdated := (succeeds_updateOrderStatus hstored .completed .orderCompleted
          (systemAudit event "order.completed")).mpr (by rw [hstatus]; decide)
        simp only [Succeeds, completeOrder, horders, Bool.not_true, Bool.false_eq_true, ↓reduceIte, hvalid, Prog.may_bind,
          may_getOrder, hread, hstatus, Prog.may_pure, may_updateOrderStatus, may_newID, may_clock, htype, List.mem_cons,
          true_or, and_self, iff_true]
        exact hupdated
      | _ => simp [completeOrder, horders, hvalid, htype, Succeeds, hread, hstatus]
    · obtain ⟨err, herr⟩ := validateEvent_eq_error htype
      simp [completeOrder, horders, herr, htype, Succeeds]

theorem exists_orderCancelled (hstored : b.order? event.orderID = some order) (audit : Time → AuditLog) :
    (∃ now suffix, (b.semantics (.projector (.recordOrderCancelled event
        (nextEventAt ("msg" ++ "_" ++ suffix) event .orderCancelled now) (audit now)))).1 = .ok ()) ↔
      canTransitionOrderStatus order.status .cancelled = true ∧ b.Releases event.orderID := by
  constructor
  · rintro ⟨now, suffix, haccepted⟩
    obtain ⟨htarget, hadmits⟩ := admits_of_ok rfl hstored haccepted
    refine ⟨htarget _ rfl, ?_⟩
    cases b with
    | memory s => trivial
    | postgres db =>
      obtain ⟨row, hid, -, hreleasable⟩ := row_of_admits hstored hadmits
      exact hid ▸ hreleasable
  · rintro ⟨htarget, hreleases⟩
    refine ⟨0, ?_⟩
    apply exists_recorded (fun id => .recordOrderCancelled event (nextEventAt id event .orderCancelled 0) (audit 0))
      hstored
    · exact fun _ => rfl
    · exact fun _ => ⟨_, rfl⟩
    · rintro _ _ ⟨⟩
      exact htarget
    · rintro db row rfl hid - id
      change db.Releasable row.orderID
      rw [hid]
      exact hreleases

theorem succeeds_cancelOrder (hidentity : validateEventIdentity event = .ok ())
    (hstored : b.order? event.orderID = some order) : b.Succeeds (cancelOrder deps event) ↔
      deps.orders = true ∧ event.eventType = .orderCancelRequested ∧ (order.status ∈ [.cancelled, .manualReview] ∨
        if requiresManualReview order then canTransitionOrderStatus order.status .manualReview = true
        else deps.projector = true ∧ canTransitionOrderStatus order.status .cancelled = true ∧
          b.Releases event.orderID) := by
  cases horders : deps.orders with
  | false => simp [cancelOrder, horders, Succeeds]
  | true =>
    by_cases htype : event.eventType = .orderCancelRequested
    · have hvalid := validateEvent_eq_ok hidentity htype
      have hread := getOrder_of_stored hstored
      by_cases hdone : order.status = .cancelled ∨ order.status = .manualReview
      · simp [cancelOrder, horders, hvalid, htype, Succeeds, hread, hdone]
      · cases hreview : requiresManualReview order with
        | true =>
          have hupdated := succeeds_updateOrderStatus hstored .manualReview .orderManualReviewRequired
            (reviewAudit event order)
          simp only [Succeeds, cancelOrder, horders, hvalid, htype, hread, hdone, hreview, Bool.not_true,
            Bool.false_eq_true, if_true, if_false, Prog.may_bind, Prog.may_pure, may_clock, may_newID, may_getOrder,
            may_updateOrderStatus, hupdated]
          simp [hdone]
        | false =>
          have hcancelled := exists_orderCancelled hstored (cancelledAudit event order)
          cases hprojector : deps.projector with
          | false =>
            simp [cancelOrder, horders, hvalid, htype, Succeeds, hread, hdone, hreview, hprojector]
          | true =>
            simp only [Succeeds, cancelOrder, horders, hvalid, htype, hread, hdone, hreview, hprojector,
              Bool.not_true, Bool.false_eq_true, if_false, Prog.may_bind, may_clock, may_newID, may_getOrder,
              may_record, hcancelled]
            simp [hdone]
    · obtain ⟨err, herr⟩ := validateEvent_eq_error htype
      simp [cancelOrder, horders, herr, htype, Succeeds]

theorem succeeds_queueNotification (hidentity : validateEventIdentity event = .ok ())
    (hstored : b.order? event.orderID = some order) : b.Succeeds (queueNotification deps event) ↔
      deps.projector = true ∧ isNotificationEvent event.eventType = true := by
  have hqueued : ∀ audit, (b.semantics (.projector (.recordNotificationQueued event audit))).1 = .ok () := by
    intro audit
    obtain ⟨r, hr⟩ : ∃ r, (b.semantics (.projector (.recordNotificationQueued event audit))).1 = .ok r := by
      apply ok_of_admits rfl hstored
      · rintro _ ⟨⟩
      · exact admits_of_rows hstored fun _ _ _ _ _ => trivial
      · rintro _ ⟨⟩
    exact hr
  cases hprojector : deps.projector with
  | false => simp [queueNotification, hprojector, Succeeds]
  | true =>
    cases hnotifiable : isNotificationEvent event.eventType with
    | false => simp [queueNotification, hprojector, hnotifiable, Succeeds]
    | true => simp [queueNotification, hprojector, hnotifiable, hidentity, Succeeds, hqueued]

theorem recordCompensation_accepted_iff (hstored : b.order? event.orderID = some order) (status : OrderStatus)
    (audit : AuditLog) : (b.semantics (.projector (.recordCompensation event status audit))).1 = .ok () ↔
      canTransitionOrderStatus order.status status = true ∧
        (event.eventType = .paymentFailed ∨ event.eventType = .shipmentFailed → b.Releases event.orderID) := by
  constructor
  · intro haccepted
    obtain ⟨htarget, hadmits⟩ := admits_of_ok rfl hstored haccepted
    refine ⟨htarget _ rfl, ?_⟩
    cases b with
    | memory s => exact fun _ => trivial
    | postgres db =>
      obtain ⟨row, -, -, hreleasable⟩ := row_of_admits hstored hadmits
      exact hreleasable
  · rintro ⟨htarget, hreleases⟩
    obtain ⟨r, hr⟩ : ∃ r, (b.semantics (.projector (.recordCompensation event status audit))).1 = .ok r := by
      apply ok_of_admits rfl hstored
      · rintro _ ⟨⟩
        exact htarget
      · apply admits_of_rows hstored
        rintro db row rfl - -
        exact hreleases
      · rintro _ ⟨⟩
    exact hr

theorem succeeds_recordCompensation (hidentity : validateEventIdentity event = .ok ())
    (hstored : b.order? event.orderID = some order) : b.Succeeds (recordCompensation deps event) ↔
      deps.projector = true ∧ ∃ status action, compensationPlan event.eventType = .ok (status, action) ∧
        canTransitionOrderStatus order.status status = true ∧
        (event.eventType = .paymentFailed ∨ event.eventType = .shipmentFailed → b.Releases event.orderID) := by
  cases hprojector : deps.projector with
  | false => simp [recordCompensation, hprojector, Succeeds]
  | true =>
    cases hplan : compensationPlan event.eventType with
    | error err => simp [recordCompensation, hprojector, hplan, Succeeds]
    | ok plan =>
      obtain ⟨status, action⟩ := plan
      simp [recordCompensation, hprojector, hplan, hidentity, Succeeds, recordCompensation_accepted_iff hstored]

end Handlers

end Backend

end FulfillHub
