import FulfillHub.Library.Pool
import FulfillHub.Library.Simulator
import FulfillHub.Postgres.Saga
import FulfillHub.Postgres.Success

/-!
# Concurrent creation of one order

`InsertOrder` under READ COMMITTED. Its transaction looks the idempotency key up among the committed rows and,
if the key is not there, inserts; between the two, other transactions commit. An insertion that meets a row
committed meanwhile breaks a unique constraint and is rolled back. So a call is a program of two steps, and any
number of calls of one merchant with one key and one command run interleaved.

A call whose lookup came before the commit of another and whose insertion comes after it fails on the external
order id and reports a duplicate order, where a later lookup would have replayed the stored one.
-/

namespace FulfillHub

open Interaction Relational

/-! ### The two steps -/

/-- What one attempt brings along; the order itself comes from the command. -/
structure Attempt where
  orderID : String
  messageID : String
  correlationID : String
  now : Time

inductive InsertStep
  | lookup
  | insert (order : Order) (event : OutboxEvent) (audit : AuditLog)

abbrev InsertStep.Answer : InsertStep → Type
  | .lookup => Except Error (Option Order)
  | .insert _ _ _ => Except Error Unit

abbrev Insertion := Prog InsertStep InsertStep.Answer (Except Error (Order × Bool))

/-- The insertions of a transaction whose lookup has found no order. -/
def insertPending (order : Order) (event : OutboxEvent) (audit : AuditLog) : Insertion := do
  match ← Prog.perform (InsertStep.insert order event audit) with
  | .error err => pure (.error err)
  | .ok () => pure (.ok (order, false))

def insertOrderSteps (order : Order) (event : OutboxEvent) (audit : AuditLog) : Insertion := do
  match ← Prog.perform InsertStep.lookup with
  | .error err => pure (.error err)
  | .ok (some existing) => pure (.ok (existing, true))
  | .ok none => insertPending order event audit

/-- The lookup of a key, with the order it leads to. -/
def Database.lookupOrder (db : Database) (merchantID idempotencyKey : String) : Except Error (Option Order) :=
  match db.orderByIdempotency merchantID idempotencyKey with
  | some existing => (db.getOrderTx existing).map some
  | none => .ok none

/-- The answer of the committed rows to a step, and the rows afterwards. -/
def Database.insertStep (merchantID idempotencyKey : String) (db : Database) :
    (c : InsertStep) → c.Answer × Database
  | .lookup => (db.lookupOrder merchantID idempotencyKey, db)
  | .insert order event audit =>
    db.commit ((db.insertNewOrder merchantID idempotencyKey order event audit).map fun db => ((), db))

theorem run_insertOrderSteps (db : Database) (merchantID idempotencyKey : String) (order : Order)
    (event : OutboxEvent) (audit : AuditLog) :
    (insertOrderSteps order event audit).run (Database.insertStep merchantID idempotencyKey) db =
      (((db.commit (db.insertOrder merchantID idempotencyKey order event audit)).1.map fun r =>
        (r.1.getD order, r.2)), (db.commit (db.insertOrder merchantID idempotencyKey order event audit)).2) := by
  rw [insertOrderSteps, Prog.run_perform_bind]
  simp only [Database.insertStep, Database.lookupOrder, Database.insertOrder]
  cases db.orderByIdempotency merchantID idempotencyKey with
  | some existing =>
    cases hread : db.getOrderTx existing <;> simp [hread] <;> rfl
  | none =>
    cases hinsert : db.insertNewOrder merchantID idempotencyKey order event audit <;>
      simp [insertPending, Database.insertStep, hinsert] <;> rfl

/-! ### Calls with one key and one command -/

section Calls

variable (svc : Service) (merchantID idempotencyKey : String) (req : CreateOrderCommand)

def Attempt.order (a : Attempt) : Order := svc.newOrder merchantID req a.orderID a.now

def Attempt.event (a : Attempt) : OutboxEvent :=
  Service.createdEvent (a.order svc merchantID req) a.messageID a.correlationID a.now

def Attempt.audit (a : Attempt) : AuditLog :=
  ⟨merchantID, a.orderID, "merchant", merchantID, "order.create", a.correlationID, a.now, []⟩

/-- Neither the key nor the external order id has been used, and every line belongs to an order. -/
structure Unclaimed (db : Database) : Prop where
  key : db.orderByIdempotency merchantID idempotencyKey = none
  external : ∀ row ∈ db.orders.rows, ¬ (row.merchantID = merchantID ∧ row.externalOrderID = req.externalOrderID)
  lines : ∀ row ∈ db.orderItems.rows, (db.order? row.orderID).isSome = true

def insertionSpec : PoolSpec Database Attempt InsertStep.Answer (Except Error (Order × Bool)) where
  program a := insertOrderSteps (a.order svc merchantID req) (a.event svc merchantID req) (a.audit merchantID)
  start := Unclaimed merchantID idempotencyKey req
  answers db c r db' := db.insertStep merchantID idempotencyKey c = (r, db')

abbrev InsertionState := Pool Database Attempt InsertStep.Answer (Except Error (Order × Bool))

abbrev InsertionLabel := Pool.Label Attempt InsertStep.Answer

abbrev insertions : Lts InsertionState InsertionLabel := (insertionSpec svc merchantID idempotencyKey req).lts

/-- The ids of an attempt are in no row. -/
def Attempt.Fresh (db : Database) (a : Attempt) : Prop :=
  db.order? a.orderID = none ∧ ∀ event ∈ db.outboxEvents.rows, event.messageID ≠ a.messageID

/-- No text that the attempt writes holds a NUL. -/
def Attempt.Plain (a : Attempt) : Prop :=
  ∀ statement ∈ Database.insertionTexts merchantID idempotencyKey (a.order svc merchantID req)
    (a.event svc merchantID req) (a.audit merchantID), statement.2.all Text.nulFree = true

/-- What an attempt brings can be written: its ids are in no row, its instant has a year of four digits, and its texts
hold no NUL. -/
structure Attempt.Admissible (db : Database) (a : Attempt) : Prop where
  fresh : a.Fresh db
  encodable : a.now.encodable = true
  plain : a.Plain svc merchantID idempotencyKey req

/-- No insertion starts when another call has committed the key. What attempts bring can be written. -/
def Undisturbed (s : InsertionState) : InsertionLabel → Prop
  | .spawn a => a.Admissible svc merchantID idempotencyKey req s.shared
  | .answer _ .lookup _ => True
  | .answer _ (.insert _ _ _) _ => s.shared.orderByIdempotency merchantID idempotencyKey = none

/-- The columns of the rows admit the command. -/
structure Storable : Prop where
  currency : ∃ currency, char3 req.currency = .ok currency
  items : ∀ item ∈ req.items, fitsInt4 item.quantity = true ∧ 0 < item.quantity ∧ 0 ≤ item.unitPrice.amount ∧
    ∃ currency, char3 item.unitPrice.currency = .ok currency
  skus : (req.items.map OrderItemInput.sku).Nodup

end Calls

/-! ### An insertion that meets no row -/

variable {svc : Service} {merchantID idempotencyKey : String} {req : CreateOrderCommand}

namespace Database

variable (db : Database)

theorem orderByIdempotency_eq_none : db.orderByIdempotency merchantID idempotencyKey = none ↔
    ∀ row ∈ db.idempotencyKeys.rows, ¬ (row.merchantID = merchantID ∧ row.idempotencyKey = idempotencyKey) := by
  unfold orderByIdempotency Table.find?
  simp

theorem insertOrderRow_succeeds (merchantID : String) (order : Order) {currency : String}
    (hcurrency : char3 order.currency = .ok currency) (hvalid : isValidOrderStatus order.status = true)
    (hpayment : admitsPaymentStatus (nullablePaymentStatus order) = true)
    (hfree : ∀ row ∈ db.orders.rows, row.conflict (orderRow merchantID currency order) = false) :
    ∃ orders, db.orders.insert (orderRow merchantID currency order) = some orders ∧
      db.insertOrderRow merchantID order = .ok { db with orders := orders } := by
  obtain ⟨orders, horders⟩ := Table.insert_eq_some hfree
  refine ⟨orders, horders, ?_⟩
  simp [insertOrderRow, hcurrency, Except.mapError, ensure, hvalid, hpayment, horders, bind, Except.bind, pure,
    Except.pure]

theorem insertOrderItem_succeeds {orderID : String} {item : OrderItem} (hfits : fitsInt4 item.quantity = true)
    (hpos : 0 < item.quantity) (hprice : 0 ≤ item.unitPrice.amount) {currency : String}
    (hcurrency : char3 item.unitPrice.currency = .ok currency)
    (hfree : ∀ row ∈ db.orderItems.rows, ¬ (row.orderID = orderID ∧ row.sku = item.sku)) :
    ∃ orderItems, db.orderItems.insert (orderItemRow orderID currency item) = some orderItems ∧
      insertOrderItem orderID db item = .ok { db with orderItems := orderItems } := by
  have hinsert : ∀ row ∈ db.orderItems.rows, row.conflict (orderItemRow orderID currency item) = false := by
    intro row hrow
    exact decide_eq_false (hfree row hrow)
  obtain ⟨orderItems, horderItems⟩ := Table.insert_eq_some hinsert
  refine ⟨orderItems, horderItems, ?_⟩
  simp [insertOrderItem, ensure, hfits, hpos, hprice, hcurrency, Except.mapError, horderItems, orViolation, bind,
    Except.bind, pure, Except.pure]

theorem insertOrderItems_succeeds {orderID : String} {items : List OrderItem}
    (hitems : ∀ item ∈ items, fitsInt4 item.quantity = true ∧ 0 < item.quantity ∧ 0 ≤ item.unitPrice.amount ∧
      ∃ currency, char3 item.unitPrice.currency = .ok currency)
    (hskus : (items.map OrderItem.sku).Nodup)
    (hfree : ∀ row ∈ db.orderItems.rows, row.orderID = orderID → row.sku ∉ items.map OrderItem.sku) :
    ∃ orderItems, items.foldlM (insertOrderItem orderID) db = .ok { db with orderItems := orderItems } := by
  induction items generalizing db with
  | nil => exact ⟨db.orderItems, rfl⟩
  | cons item rest ih =>
    obtain ⟨hfits, hpos, hprice, currency, hcurrency⟩ := hitems item List.mem_cons_self
    obtain ⟨hnew, hrest⟩ := List.nodup_cons.mp hskus
    obtain ⟨orderItems, hinsert, hstep⟩ := db.insertOrderItem_succeeds hfits hpos hprice hcurrency
      fun row hrow hboth => hfree row hrow hboth.1 (by simp [hboth.2])
    obtain ⟨all, hall⟩ := ih { db with orderItems := orderItems }
      (fun item hitem => hitems item (List.mem_cons_of_mem _ hitem)) hrest (by
        intro row hrow horder hsku
        rcases (Table.mem_insert hinsert).mp hrow with hold | rfl
        · exact hfree row hold horder (List.mem_cons_of_mem _ hsku)
        · exact hnew hsku)
    rw [List.foldlM_cons]
    exact ⟨all, bind_eq_ok.mpr ⟨_, hstep, hall⟩⟩

theorem insertIdempotencyKey_succeeds {orderID : String}
    (hfree : db.orderByIdempotency merchantID idempotencyKey = none) : ∃ idempotencyKeys,
      db.insertIdempotencyKey merchantID idempotencyKey orderID =
        .ok { db with idempotencyKeys := idempotencyKeys } := by
  have hinsert : ∀ row ∈ db.idempotencyKeys.rows, row.conflict ⟨merchantID, idempotencyKey, orderID⟩ = false := by
    intro row hrow
    exact decide_eq_false (db.orderByIdempotency_eq_none.mp hfree row hrow)
  obtain ⟨idempotencyKeys, hkeys⟩ := Table.insert_eq_some hinsert
  refine ⟨idempotencyKeys, ?_⟩
  rw [insertIdempotencyKey, hkeys]
  rfl

end Database

theorem refuseNul_eq_ok {statements : List (Error × List String)}
    (h : ∀ statement ∈ statements, statement.2.all Text.nulFree = true) : Database.refuseNul statements = .ok () := by
  induction statements with
  | nil => rfl
  | cons statement rest ih =>
    obtain ⟨hfirst, hrest⟩ := List.forall_mem_cons.mp h
    exact bind_eq_ok.mpr ⟨(), ensure_eq_ok.mpr hfirst, ih hrest⟩

/-- Where nothing is in its way, the insertion of an attempt is committed. -/
theorem insertNewOrder_succeeds {db : Database} {a : Attempt} (hstorable : Storable req)
    (hunclaimed : Unclaimed merchantID idempotencyKey req db)
    (hadmissible : a.Admissible svc merchantID idempotencyKey req db) :
    ∃ db', db.insertNewOrder merchantID idempotencyKey (a.order svc merchantID req)
      (a.event svc merchantID req) (a.audit merchantID) = .ok db' := by
  have hfresh := hadmissible.fresh
  obtain ⟨currency, hcurrency⟩ := hstorable.currency
  obtain ⟨merchants, hmerchants⟩ := Database.upsertMerchant_eq db merchantID
  obtain ⟨orders, horders, hrow⟩ := Database.insertOrderRow_succeeds { db with merchants := merchants }
    merchantID (a.order svc merchantID req) hcurrency rfl rfl (by
      intro row hrow
      apply decide_eq_false
      rintro (hid | hexternal)
      · exact db.order?_eq_none.mp hfresh.1 row hrow hid
      · exact hunclaimed.external row hrow hexternal)
  have hlines : ∀ row ∈ db.orderItems.rows, row.orderID ≠ a.orderID := by
    intro row hrow heq
    have hsome := hunclaimed.lines row hrow
    rw [heq, hfresh.1] at hsome
    cases hsome
  have hskus : (a.order svc merchantID req).items.map OrderItem.sku = req.items.map OrderItemInput.sku := by
    simp [Attempt.order, Service.newOrder]
  obtain ⟨orderItems, hitems⟩ := Database.insertOrderItems_succeeds
    { db with merchants := merchants, orders := orders }
    (by
      intro item hitem
      obtain ⟨input, hinput, rfl⟩ := List.mem_map.mp hitem
      exact hstorable.items input hinput)
    (hskus ▸ hstorable.skus) (fun row hrow heq => absurd heq (hlines row hrow))
  obtain ⟨idempotencyKeys, hkey⟩ := Database.insertIdempotencyKey_succeeds
    { db with merchants := merchants, orders := orders, orderItems := orderItems } hunclaimed.key
  obtain ⟨outboxEvents, houtbox⟩ := Database.insertOutboxEvent_succeeds
    { db with
      merchants := merchants, orders := orders, orderItems := orderItems, idempotencyKeys := idempotencyKeys }
    (a.event svc merchantID req) hadmissible.encodable hfresh.2 (by
      refine Option.isSome_iff_ne_none.mpr fun hnone => ?_
      exact (Database.order?_eq_none _).mp hnone _ ((Table.mem_insert horders).mpr (.inr rfl)) rfl)
  rw [Database.insertNewOrder, hmerchants]
  exact ⟨_, bind_eq_ok.mpr ⟨_, refuseNul_eq_ok hadmissible.plain, bind_eq_ok.mpr ⟨_, hrow, bind_eq_ok.mpr ⟨_, hitems,
    bind_eq_ok.mpr ⟨_, hkey, bind_eq_ok.mpr ⟨_, houtbox, rfl⟩⟩⟩⟩⟩⟩

/-! ### Runs -/

section Runs

variable (svc merchantID idempotencyKey req)

/-- What a committed attempt has added to a database. -/
structure Committed (db : Database) (a : Attempt) (db' : Database) : Prop where
  orders : ∃ currency, char3 req.currency = .ok currency ∧
    db'.orders.rows = db.orders.rows ++ [orderRow merchantID currency (a.order svc merchantID req)]
  keys : db'.idempotencyKeys.rows = db.idempotencyKeys.rows ++ [⟨merchantID, idempotencyKey, a.orderID⟩]
  outbox : db'.outboxEvents.rows = db.outboxEvents.rows ++ [(a.event svc merchantID req).withEnvelopeDefaults]
  audit : db'.auditLogs = db.auditLogs ++ [a.audit merchantID]

/-- The call has not come to its insertion. -/
def BeforeInsert (t : Thread Attempt InsertStep.Answer (Except Error (Order × Bool))) : Prop :=
  t.prog = insertOrderSteps (t.job.order svc merchantID req) (t.job.event svc merchantID req)
      (t.job.audit merchantID) ∨
    t.prog = insertPending (t.job.order svc merchantID req) (t.job.event svc merchantID req)
      (t.job.audit merchantID)

/-- One call has created the order, and what the others have returned is that order, replayed. -/
structure CreatedBy (db : Database) (s : InsertionState) (i : Nat)
    (creator : Thread Attempt InsertStep.Answer (Except Error (Order × Bool))) : Prop where
  thread : s.threads[i]? = some creator
  created : creator.prog.returned? = some (.ok (creator.job.order svc merchantID req, false))
  committed : Committed svc merchantID idempotencyKey req db creator.job s.shared
  replayed : ∀ (j : Nat) t r, s.threads[j]? = some t → j ≠ i → t.prog.returned? = some r →
    ∃ order, s.shared.getOrderTx creator.job.orderID = .ok order ∧ r = .ok (order, true)

end Runs

theorem committed_of_insertNewOrder {db db' : Database} {a : Attempt}
    (h : db.insertNewOrder merchantID idempotencyKey (a.order svc merchantID req) (a.event svc merchantID req)
      (a.audit merchantID) = .ok db') : Committed svc merchantID idempotencyKey req db a db' := by
  obtain ⟨inserted⟩ := Database.insertNewOrder_eq_ok h
  rw [inserted.db_eq]
  exact {
    orders := ⟨inserted.currency, inserted.currency_eq, Table.rows_insert inserted.orders_eq⟩
    keys := Table.rows_insert inserted.keys_eq
    outbox := Table.rows_insert inserted.outbox_eq
    audit := rfl }

theorem Committed.lookupOrder {db db' : Database} {a : Attempt}
    (h : Committed svc merchantID idempotencyKey req db a db')
    (hkey : db.orderByIdempotency merchantID idempotencyKey = none) :
    db'.orderByIdempotency merchantID idempotencyKey = some a.orderID ∧
      ∃ order, db'.getOrderTx a.orderID = .ok order := by
  constructor
  · have hnone := db.orderByIdempotency_eq_none.mp hkey
    have hfind : db.idempotencyKeys.rows.find? (fun row =>
        row.merchantID = merchantID && row.idempotencyKey = idempotencyKey) = none := by
      apply List.find?_eq_none.mpr
      intro row hrow
      simpa using hnone row hrow
    rw [Database.orderByIdempotency, Table.find?, h.keys, List.find?_append, hfind]
    simp
  · obtain ⟨currency, _, horders⟩ := h.orders
    have hsome : db'.order? a.orderID ≠ none := by
      intro hnone
      refine db'.order?_eq_none.mp hnone (orderRow merchantID currency (a.order svc merchantID req)) ?_ rfl
      rw [horders]
      exact List.mem_append_right _ List.mem_cons_self
    obtain ⟨row, hrow⟩ := Option.ne_none_iff_exists'.mp hsome
    exact ⟨db'.assemble row, by rw [Database.getOrderTx, hrow]⟩

theorem insertOrderSteps_call (order : Order) (event : OutboxEvent) (audit : AuditLog) :
    ∃ next, insertOrderSteps order event audit = .call .lookup next ∧
      next (.ok none) = insertPending order event audit ∧
      ∀ existing, next (.ok (some existing)) = .ret (.ok (existing, true)) :=
  ⟨_, rfl, rfl, fun _ => rfl⟩

theorem insertPending_call (order : Order) (event : OutboxEvent) (audit : AuditLog) :
    ∃ next, insertPending order event audit = .call (.insert order event audit) next ∧
      next (.ok ()) = .ret (.ok (order, false)) :=
  ⟨_, rfl, rfl⟩

/-- The answer to a waiting call: the lookup, or the insertion. -/
theorem BeforeInsert.answered {db db' : Database} {a : Attempt} {trace : Trace InsertStep.Answer} {c : InsertStep}
    {next : c.Answer → Insertion} {r : c.Answer} (h : BeforeInsert svc merchantID req ⟨a, trace, .call c next⟩)
    (hanswer : db.insertStep merchantID idempotencyKey c = (r, db')) :
    (c = .lookup ∧ db' = db ∧
      (db.lookupOrder merchantID idempotencyKey = .ok none → next r =
        insertPending (a.order svc merchantID req) (a.event svc merchantID req) (a.audit merchantID)) ∧
      ∀ existing, db.lookupOrder merchantID idempotencyKey = .ok (some existing) →
        next r = .ret (.ok (existing, true))) ∨
    (c = .insert (a.order svc merchantID req) (a.event svc merchantID req) (a.audit merchantID) ∧
      ∀ committed, db.insertNewOrder merchantID idempotencyKey (a.order svc merchantID req)
        (a.event svc merchantID req) (a.audit merchantID) = .ok committed →
        db' = committed ∧ next r = .ret (.ok (a.order svc merchantID req, false))) := by
  rcases h with hlooking | hpending
  · obtain ⟨steps, hcall, hnone, hsome⟩ := insertOrderSteps_call (a.order svc merchantID req)
      (a.event svc merchantID req) (a.audit merchantID)
    cases hlooking.trans hcall
    cases hanswer
    refine .inl ⟨rfl, rfl, fun hlookup => ?_, fun existing hlookup => ?_⟩
    · rw [hlookup, hnone]
    · rw [hlookup, hsome]
  · obtain ⟨steps, hcall, hdone⟩ := insertPending_call (a.order svc merchantID req)
      (a.event svc merchantID req) (a.audit merchantID)
    cases hpending.trans hcall
    refine .inr ⟨rfl, fun committed hcommitted => ?_⟩
    simp only [Database.insertStep, hcommitted, Except.map, Database.commit] at hanswer
    cases hanswer
    exact ⟨rfl, hdone⟩

/-- Before the first commit nothing has been written, and afterwards nothing else is. -/
inductive Creation (svc : Service) (merchantID idempotencyKey : String) (req : CreateOrderCommand) (db : Database)
    (s : InsertionState) : Prop
  | before (hshared : s.shared = db)
      (hwaiting : ∀ t ∈ s.threads, t.job.Admissible svc merchantID idempotencyKey req db ∧
        BeforeInsert svc merchantID req t)
  | after {i : Nat} {creator : Thread Attempt InsertStep.Answer (Except Error (Order × Bool))}
      (hcreated : CreatedBy svc merchantID idempotencyKey req db s i creator)
      (hothers : ∀ (j : Nat) t, s.threads[j]? = some t → j ≠ i →
        BeforeInsert svc merchantID req t ∨ ∃ r, t.prog.returned? = some r)

theorem BeforeInsert.not_returned {t : Thread Attempt InsertStep.Answer (Except Error (Order × Bool))}
    (h : BeforeInsert svc merchantID req t) {r : Except Error (Order × Bool)} : t.prog.returned? ≠ some r := by
  intro hret
  rcases h with h | h
  · rw [h] at hret
    cases hret
  · rw [h] at hret
    cases hret

theorem creation_of_before {db : Database} {s s' : InsertionState} {l : InsertionLabel} (hstorable : Storable req)
    (hunclaimed : Unclaimed merchantID idempotencyKey req db) (hshared : s.shared = db)
    (hwaiting : ∀ t ∈ s.threads, t.job.Admissible svc merchantID idempotencyKey req db ∧
      BeforeInsert svc merchantID req t)
    (hstep : (insertions svc merchantID idempotencyKey req).step s l s')
    (hcond : Undisturbed svc merchantID idempotencyKey req s l) :
    Creation svc merchantID idempotencyKey req db s' := by
  cases hstep with
  | spawn a =>
    refine .before hshared fun t ht => ?_
    rcases List.mem_append.mp ht with hold | hnew
    · exact hwaiting t hold
    · rw [List.mem_singleton.mp hnew]
      exact ⟨hshared ▸ hcond, .inl rfl⟩
  | @answer i a trace c next r shared hthread hanswer =>
    obtain ⟨hadmissible, hwait⟩ := hwaiting _ (PoolSpec.mem_threads.mpr ⟨i, hthread⟩)
    rw [hshared] at hanswer
    rcases hwait.answered hanswer with ⟨rfl, hsame, hpending, _⟩ | ⟨rfl, hcommit⟩
    · have hlookup : db.lookupOrder merchantID idempotencyKey = .ok none := by
        rw [Database.lookupOrder, hunclaimed.key]
      refine .before hsame fun t ht => ?_
      obtain ⟨j, hj⟩ := PoolSpec.mem_threads.mp ht
      rcases (PoolSpec.getElem?_answer hthread).mp hj with ⟨_, rfl⟩ | ⟨_, hold⟩
      · exact ⟨hadmissible, .inr (hpending hlookup)⟩
      · exact hwaiting t (PoolSpec.mem_threads.mpr ⟨j, hold⟩)
    · obtain ⟨committed, hcommitted⟩ := insertNewOrder_succeeds hstorable hunclaimed hadmissible
      obtain ⟨rfl, hnext⟩ := hcommit committed hcommitted
      have hothers : ∀ (j : Nat) t, j ≠ i → (s.threads.set i ⟨a, trace ++ [⟨_, r⟩], next r⟩)[j]? = some t →
          BeforeInsert svc merchantID req t := by
        intro j t hj ht
        rcases (PoolSpec.getElem?_answer hthread).mp ht with ⟨heq, _⟩ | ⟨_, hold⟩
        · exact absurd heq hj
        · exact (hwaiting t (PoolSpec.mem_threads.mpr ⟨j, hold⟩)).2
      have hcreated : CreatedBy svc merchantID idempotencyKey req db
          ⟨shared, s.threads.set i ⟨a, trace ++ [⟨_, r⟩], next r⟩⟩ i ⟨a, trace ++ [⟨_, r⟩], next r⟩ := by
        refine ⟨(PoolSpec.getElem?_answer hthread).mpr (.inl ⟨rfl, rfl⟩), ?_,
          committed_of_insertNewOrder hcommitted, ?_⟩
        · rw [hnext]
          rfl
        · intro j t r' ht hj hret
          exact absurd hret (hothers j t hj ht).not_returned
      exact .after hcreated fun j t ht hj => .inl (hothers j t hj ht)

theorem creation_of_after {db : Database} {s s' : InsertionState} {l : InsertionLabel} {i : Nat}
    {creator : Thread Attempt InsertStep.Answer (Except Error (Order × Bool))}
    (hunclaimed : Unclaimed merchantID idempotencyKey req db)
    (hcreated : CreatedBy svc merchantID idempotencyKey req db s i creator)
    (hothers : ∀ (j : Nat) t, s.threads[j]? = some t → j ≠ i →
      BeforeInsert svc merchantID req t ∨ ∃ r, t.prog.returned? = some r)
    (hstep : (insertions svc merchantID idempotencyKey req).step s l s')
    (hcond : Undisturbed svc merchantID idempotencyKey req s l) :
    Creation svc merchantID idempotencyKey req db s' := by
  obtain ⟨hkey, order, horder⟩ := hcreated.committed.lookupOrder hunclaimed.key
  have hlookup : s.shared.lookupOrder merchantID idempotencyKey = .ok (some order) := by
    rw [Database.lookupOrder, hkey]
    simp only [horder]
    rfl
  cases hstep with
  | spawn a =>
    have hcreated' : CreatedBy svc merchantID idempotencyKey req db
        ⟨s.shared, s.threads ++ [(insertionSpec svc merchantID idempotencyKey req).fresh a]⟩ i creator := by
      refine ⟨PoolSpec.getElem?_spawn.mpr (.inl hcreated.thread), hcreated.created, hcreated.committed, ?_⟩
      intro j t r ht hj hret
      rcases PoolSpec.getElem?_spawn.mp ht with hold | ⟨_, rfl⟩
      · exact hcreated.replayed j t r hold hj hret
      · cases hret
    refine .after hcreated' fun j t ht hj => ?_
    rcases PoolSpec.getElem?_spawn.mp ht with hold | ⟨_, rfl⟩
    · exact hothers j t hold hj
    · exact .inl (.inl rfl)
  | @answer k a trace c next r shared hthread hanswer =>
    have hki : k ≠ i := by
      rintro rfl
      have hsame := Option.some.inj (hthread.symm.trans hcreated.thread)
      have hret := hcreated.created
      rw [← hsame] at hret
      cases hret
    have hwait : BeforeInsert svc merchantID req ⟨a, trace, .call c next⟩ := by
      rcases hothers k _ hthread hki with hwait | ⟨_, hret⟩
      · exact hwait
      · cases hret
    rcases hwait.answered hanswer with ⟨rfl, hsame, _, hreplay⟩ | ⟨rfl, _⟩
    · have hnext := hreplay order hlookup
      have hcreated' : CreatedBy svc merchantID idempotencyKey req db
          ⟨shared, s.threads.set k ⟨a, trace ++ [⟨.lookup, r⟩], next r⟩⟩ i creator := by
        rw [hsame]
        refine ⟨(PoolSpec.getElem?_answer hthread).mpr (.inr ⟨hki.symm, hcreated.thread⟩), hcreated.created,
          hcreated.committed, ?_⟩
        intro j t r' ht hj hret
        rcases (PoolSpec.getElem?_answer hthread).mp ht with ⟨_, rfl⟩ | ⟨_, hold⟩
        · rw [hnext] at hret
          cases hret
          exact ⟨order, horder, rfl⟩
        · exact hcreated.replayed j t r' hold hj hret
      refine .after hcreated' fun j t ht hj => ?_
      rcases (PoolSpec.getElem?_answer hthread).mp ht with ⟨_, rfl⟩ | ⟨_, hold⟩
      · exact .inr ⟨_, by rw [hnext]; rfl⟩
      · exact hothers j t hold hj
    · cases hkey.symm.trans hcond

theorem creation_of_path {s₀ s : InsertionState} {ls : List InsertionLabel} (hstorable : Storable req)
    (hinit : (insertions svc merchantID idempotencyKey req).init s₀)
    (hpath : (insertions svc merchantID idempotencyKey req).Path (Undisturbed svc merchantID idempotencyKey req)
      s₀ ls s) :
    Creation svc merchantID idempotencyKey req s₀.shared s := by
  obtain ⟨hunclaimed, hnil⟩ := hinit
  refine hpath.invariant (P := Creation svc merchantID idempotencyKey req s₀.shared) ?_
    (.before rfl (by simp [hnil]))
  intro s l t h hstep hcond
  cases h with
  | before hshared hwaiting => exact creation_of_before hstorable hunclaimed hshared hwaiting hstep hcond
  | after hcreated hothers => exact creation_of_after hunclaimed hcreated hothers hstep hcond

/-- **Creation is idempotent where no insertion meets a commit.** As soon as a call has returned, one call has
created the order, its rows are the only ones committed, and the other calls that have returned have replayed
it. -/
theorem insertOrder_idempotent (hstorable : Storable req) {s₀ s : InsertionState} {ls : List InsertionLabel}
    (hinit : (insertions svc merchantID idempotencyKey req).init s₀)
    (hpath : (insertions svc merchantID idempotencyKey req).Path (Undisturbed svc merchantID idempotencyKey req)
      s₀ ls s) :
    (s.shared = s₀.shared ∧ ∀ t ∈ s.threads, t.prog.returned? = none) ∨
      ∃ i creator, CreatedBy svc merchantID idempotencyKey req s₀.shared s i creator := by
  cases creation_of_path hstorable hinit hpath with
  | before hshared hwaiting =>
    refine .inl ⟨hshared, fun t ht => ?_⟩
    apply Option.eq_none_iff_forall_ne_some.mpr
    intro r
    exact (hwaiting t ht).2.not_returned
  | after hcreated _ => exact .inr ⟨_, _, hcreated⟩

/-! ### Two calls -/

/-- What attempts bring can be written. -/
def AdmissibleAttempts (svc : Service) (merchantID idempotencyKey : String) (req : CreateOrderCommand)
    (s : InsertionState) : InsertionLabel → Prop
  | .spawn a => a.Admissible svc merchantID idempotencyKey req s.shared
  | .answer _ _ _ => True

section Checks

variable (svc : Service) (merchantID idempotencyKey : String) (req : CreateOrderCommand)

instance (db : Database) : DecidablePred (Attempt.Fresh db) := fun a =>
  decidable_of_iff ((db.order? a.orderID).isNone = true ∧ ∀ event ∈ db.outboxEvents.rows,
    event.messageID ≠ a.messageID) (by rw [Option.isNone_iff_eq_none]; rfl)

instance (a : Attempt) : Decidable (a.Plain svc merchantID idempotencyKey req) := by
  unfold Attempt.Plain; infer_instance

instance (db : Database) : DecidablePred (Attempt.Admissible svc merchantID idempotencyKey req db) := fun a =>
  decidable_of_iff (a.Fresh db ∧ a.now.encodable = true ∧ a.Plain svc merchantID idempotencyKey req)
    ⟨fun h => ⟨h.1, h.2.1, h.2.2⟩, fun h => ⟨h.fresh, h.encodable, h.plain⟩⟩

instance (s : InsertionState) : DecidablePred (AdmissibleAttempts svc merchantID idempotencyKey req s) := fun l =>
  match l with
  | .spawn a => inferInstanceAs (Decidable (a.Admissible svc merchantID idempotencyKey req s.shared))
  | .answer _ _ _ => isTrue trivial

instance (s : InsertionState) : DecidablePred (Undisturbed svc merchantID idempotencyKey req s) := fun l =>
  match l with
  | .spawn a => inferInstanceAs (Decidable (a.Admissible svc merchantID idempotencyKey req s.shared))
  | .answer _ .lookup _ => isTrue trivial
  | .answer _ (.insert _ _ _) _ =>
    inferInstanceAs (Decidable (s.shared.orderByIdempotency merchantID idempotencyKey = none))

end Checks

def insertionSimulator (svc : Service) (merchantID idempotencyKey : String) (req : CreateOrderCommand) :
    Simulator (insertions svc merchantID idempotencyKey req) (Attempt ⊕ Nat) :=
  (insertionSpec svc merchantID idempotencyKey req).simulator (Database.insertStep merchantID idempotencyKey)
    fun _ _ => rfl

def attempt (suffix : String) (now : Time) : Attempt := ⟨"ord_" ++ suffix, "msg_" ++ suffix, "corr-1", now⟩

/-- What a call has returned. -/
def returnedBy (s : InsertionState) (i : Nat) : Option (Except Error (Order × Bool)) :=
  s.threads[i]?.bind fun t => t.prog.returned?

theorem storable_sampleCommand : Storable sampleCommand where
  currency := ⟨"USD", rfl⟩
  items := by
    intro item hitem
    rw [List.mem_singleton.mp hitem]
    exact ⟨rfl, by decide, by decide, "USD", rfl⟩
  skus := List.nodup_singleton _

theorem unclaimed_sampleCatalog : Unclaimed "m1" "idempotency-key-1" sampleCommand (sampleCatalog "w1") where
  key := rfl
  external := by simp [sampleCatalog, Table.empty]
  lines := by simp [sampleCatalog, Table.empty]

theorem init_insertions :
    (insertions sampleService "m1" "idempotency-key-1" sampleCommand).init ⟨sampleCatalog "w1", []⟩ :=
  ⟨unclaimed_sampleCatalog, rfl⟩

/-- Two calls look the key up before either commits, and the second is refused. -/
theorem insertOrder_not_idempotent : Storable sampleCommand ∧ ∃ (s₀ s : InsertionState) (ls : List InsertionLabel),
    (insertions sampleService "m1" "idempotency-key-1" sampleCommand).init s₀ ∧
      (insertions sampleService "m1" "idempotency-key-1" sampleCommand).Path
        (AdmissibleAttempts sampleService "m1" "idempotency-key-1" sampleCommand) s₀ ls s ∧
      returnedBy s 0 = some (.ok ((attempt "1" 1).order sampleService "m1" sampleCommand, false)) ∧
      returnedBy s 1 = some (.error errDuplicateOrder) := by
  obtain ⟨ls, s, hpath, hreturned⟩ := (insertionSimulator sampleService "m1" "idempotency-key-1"
    sampleCommand).exists_path_from
    (Q := fun s => returnedBy s 0 = some (.ok ((attempt "1" 1).order sampleService "m1" sampleCommand, false)) ∧
      returnedBy s 1 = some (.error errDuplicateOrder))
    (decides_decide (AdmissibleAttempts sampleService "m1" "idempotency-key-1" sampleCommand)) ⟨sampleCatalog "w1", []⟩
    [.inl (attempt "1" 1), .inl (attempt "2" 2), .inr 0, .inr 1, .inr 0, .inr 1] (by decide +kernel)
  exact ⟨storable_sampleCommand, _, s, ls, init_insertions, hpath, hreturned⟩

/-- The second of two calls replays the order of the first. -/
theorem insertOrder_idempotent_twice : ∃ (s : InsertionState) (ls : List InsertionLabel),
    (insertions sampleService "m1" "idempotency-key-1" sampleCommand).Path
      (Undisturbed sampleService "m1" "idempotency-key-1" sampleCommand) ⟨sampleCatalog "w1", []⟩ ls s ∧
      (returnedBy s 0).isSome = true ∧ (returnedBy s 1).isSome = true ∧
      ∃ i creator, CreatedBy sampleService "m1" "idempotency-key-1" sampleCommand (sampleCatalog "w1") s i
        creator := by
  obtain ⟨ls, s, hpath, hfirst, hsecond⟩ := (insertionSimulator sampleService "m1" "idempotency-key-1"
    sampleCommand).exists_path_from
    (Q := fun s => (returnedBy s 0).isSome = true ∧ (returnedBy s 1).isSome = true)
    (decides_decide (Undisturbed sampleService "m1" "idempotency-key-1" sampleCommand)) ⟨sampleCatalog "w1", []⟩
    [.inl (attempt "1" 1), .inl (attempt "2" 2), .inr 0, .inr 0, .inr 1] (by decide +kernel)
  refine ⟨s, ls, hpath, hfirst, hsecond, ?_⟩
  rcases insertOrder_idempotent storable_sampleCommand init_insertions hpath with
    ⟨_, hnone⟩ | hcreated
  · obtain ⟨r, hr⟩ := Option.isSome_iff_exists.mp hfirst
    obtain ⟨t, ht, hret⟩ := Option.bind_eq_some_iff.mp hr
    rw [hnone t (PoolSpec.mem_threads.mpr ⟨0, ht⟩)] at hret
    cases hret
  · exact hcreated

end FulfillHub
