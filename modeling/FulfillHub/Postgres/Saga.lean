import FulfillHub.Fulfillment.Script
import FulfillHub.Postgres.Written

/-!
# The saga over PostgreSQL

Runs start on a database that holds a catalog and nothing else: stock in warehouses, none of it reserved.
The store appends what it is handed, so the ledger applies to it.
-/

namespace FulfillHub

open Interaction Relational

/-- A database with a catalog and no orders. -/
structure Database.Unused (db : Database) : Prop where
  orders : db.orders = .empty
  orderItems : db.orderItems = .empty
  idempotencyKeys : db.idempotencyKeys = .empty
  stockReservations : db.stockReservations = .empty
  paymentAuthorizations : db.paymentAuthorizations = .empty
  shipments : db.shipments = .empty
  notificationEvents : db.notificationEvents = .empty
  compensationEvents : db.compensationEvents = .empty
  outboxEvents : db.outboxEvents = .empty
  auditLogs : db.auditLogs = []
  available : ∀ item ∈ db.inventoryItems.rows, 0 ≤ item.availableQuantity
  unreserved : ∀ item ∈ db.inventoryItems.rows, item.reservedQuantity = 0

theorem Database.appended (db : Database) (c : StoreCall) (r : c.Result) (h : (semantics db c).1 = .ok r) :
    (semantics db c).2.outboxEvents.rows.map OutboxEvent.envelope =
      db.outboxEvents.rows.map OutboxEvent.envelope ++ (c.emitted r).toList.map OutboxEvent.envelope := by
  have houtcome := semantics_outcome db c
  rw [h] at houtcome
  generalize (semantics db c).2 = db' at houtcome
  cases houtcome with
  | idle _ _ hevent _ => simp [hevent]
  | inserted merchantID idempotencyKey order event audit _ _ hinsert =>
    obtain ⟨hinserted⟩ := insertNewOrder_eq_ok hinsert
    rw [hinserted.db_eq]
    simp [Table.rows_insert hinserted.outbox_eq, StoreCall.emitted]
  | transacted _ _ orderID tx audit row event written inserted htx hrow _ hstatements hinserted =>
    have horder := (order?_eq_some hrow).2
    have hwritten := written_of_statements (horder ▸ htx) hstatements
    have henvelope := envelope_of_statements r htx hstatements
    obtain ⟨outboxEvents, rfl, hrows⟩ := insertNext_eq_ok hinserted
    change outboxEvents.rows.map _ = _
    rw [hrows, hwritten.kept.outboxEvents, List.map_append, List.map_map]
    congr 1
    cases event <;> cases hc : c.emitted r <;> simp_all

def postgresStore : OutboxStore Database where
  semantics := Database.semantics
  start := Database.Unused
  outbox db := db.outboxEvents.rows
  outbox_start := by
    intro db hunused
    rw [hunused.outboxEvents]
    rfl
  failed := by
    intro db c err h
    have houtcome := Database.semantics_outcome db c
    rw [h] at houtcome
    generalize (Database.semantics db c).2 = db' at houtcome
    cases houtcome
    rfl
  appended := Database.appended

abbrev PostgresSaga := SagaState Database

abbrev postgresSaga (svc : Service) : Lts PostgresSaga SagaLabel := saga postgresStore svc

/-- The database of a state. -/
abbrev databaseOf (s : PostgresSaga) : Database := s.shared.store

variable {svc : Service} {s t : PostgresSaga} {l : SagaLabel}

/-- A step leaves the database alone, or answers one store call. -/
theorem database_of_step (hstep : (sagaSpec postgresStore svc).Step s l t) :
    databaseOf t = databaseOf s ∨ ∃ i c r, l = .answer i (.store c) r ∧
      (Database.semantics (databaseOf s) c).1 = r ∧ databaseOf t = (Database.semantics (databaseOf s) c).2 := by
  cases hstep with
  | spawn job => exact .inl rfl
  | @answer i job trace c next r shared hthread hanswer =>
    cases c with
    | port c => exact .inl (Answers.store_eq hanswer)
    | store c =>
      obtain ⟨hr, rfl⟩ := hanswer
      exact .inr ⟨i, c, r, rfl, hr, rfl⟩

/-! ### Scripted runs -/

def postgresSimulator (svc : Service) : Simulator (postgresSaga svc) Act where
  next := Act.apply postgresStore svc
  sound := Act.step

/-- A catalog of one merchant with ten pieces in one warehouse. -/
def sampleCatalog (warehouseID : String) : Database where
  merchants := ["m1"]
  warehouses := ⟨[⟨warehouseID, "m1", .active⟩], List.pairwise_singleton ..⟩
  inventoryItems := ⟨[⟨1, warehouseID, "sku-1", 10, 0⟩], List.pairwise_singleton ..⟩
  orders := .empty
  orderItems := .empty
  idempotencyKeys := .empty
  stockReservations := .empty
  paymentAuthorizations := .empty
  shipments := .empty
  notificationEvents := .empty
  compensationEvents := .empty
  outboxEvents := .empty
  auditLogs := []

theorem unused_sampleCatalog (warehouseID : String) : (sampleCatalog warehouseID).Unused where
  orders := rfl
  orderItems := rfl
  idempotencyKeys := rfl
  stockReservations := rfl
  paymentAuthorizations := rfl
  shipments := rfl
  notificationEvents := rfl
  compensationEvents := rfl
  outboxEvents := rfl
  auditLogs := rfl
  available := by simp [sampleCatalog]
  unreserved := by simp [sampleCatalog]

def catalogSaga (db : Database) : PostgresSaga := ⟨⟨db, []⟩, []⟩

theorem init_catalogSaga {db : Database} (h : db.Unused) : (postgresSaga svc).init (catalogSaga db) :=
  ⟨⟨h, rfl⟩, rfl⟩

/-- A worker on PostgreSQL: the store reserves the stock itself. -/
def postgresWorker : Dependencies := ⟨true, true, false, true, true⟩

/-- The order is created and its stock is reserved. -/
def stockActs : List Act :=
  createActs ++ [.handle .inventoryReserve postgresWorker 0, .reply 1 (.time 2), .reply 1 (.id "2"), .store 1]

end FulfillHub
