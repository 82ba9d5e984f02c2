import FulfillHub.Library.Simulator
import FulfillHub.Postgres.Mirrors
import FulfillHub.Postgres.Saga

/-!
# Reading an order while it is written

`GetOrder` reads the order, its lines and its shipment with three queries outside a transaction, so each of them sees
what is committed when it is executed. The transactions that write lines or shipments write the order too. One that
commits between two queries can leave its traces in the later answers and not in the earlier one, and the order that is
returned then is none that was ever stored.
-/

namespace FulfillHub

open Interaction Relational

/-! ### The three queries -/

/-- The queries of `getOrderTx`. -/
inductive Query
  | order (orderID : String)
  | items (orderID : String)
  | shipment (orderID : String)

abbrev Query.Rows : Query → Type
  | .order _ => Option OrderRow
  | .items _ => List OrderItemRow
  | .shipment _ => Option ShipmentRow

namespace Database

def rows (db : Database) : (q : Query) → q.Rows
  | .order orderID => db.order? orderID
  | .items orderID => db.itemsOf orderID
  | .shipment orderID => db.shipments.find? fun shipment => shipment.orderID = orderID

/-- The order that is put together from the answers. -/
def readOrder (row : OrderRow) (items : List OrderItemRow) (shipment : Option ShipmentRow) : Order where
  orderID := row.orderID
  merchantID := row.merchantID
  externalOrderID := row.externalOrderID
  status := row.status
  currency := row.currency
  totals := {
    subtotal := ⟨row.subtotalAmount, row.currency⟩
    shipping := ⟨row.shippingAmount, row.currency⟩
    total := ⟨row.totalAmount, row.currency⟩ }
  items := items.map fun item =>
    ⟨item.sku, item.quantity, ⟨item.unitPriceAmount, item.unitPriceCurrency⟩, item.reservationStatus⟩
  payment := paymentOf row
  shipment := shipment.map shipmentOf
  shippingAddressRef := row.shippingAddressRef.getD ""
  createdAt := row.createdAt
  updatedAt := row.updatedAt

end Database

open Database

/-- A run of queries that ends with an order or an error. -/
abbrev Reader := Prog Query Query.Rows (Except Error Order)

def readShipment (orderID : String) (row : OrderRow) (items : List OrderItemRow) : Reader := do
  let shipment ← Prog.perform (.shipment orderID)
  pure (.ok (readOrder row items shipment))

/-- What is left of `GetOrder` after the first query. -/
def readLines (orderID : String) : Option OrderRow → Reader
  | none => pure (.error errNotFound)
  | some row => do
      let items ← Prog.perform (.items orderID)
      readShipment orderID row items

def getOrder (orderID : String) : Reader := do
  let row ← Prog.perform (.order orderID)
  readLines orderID row

/-- On a database that nothing else writes, the queries read what `getOrderTx` reads. -/
theorem run_getOrder (db : Database) (orderID : String) :
    (getOrder orderID).run (fun db q => (db.rows q, db)) db = (db.getOrderTx orderID, db) := by
  unfold getOrder getOrderTx
  rw [Prog.run_perform_bind]
  cases hrow : db.order? orderID with
  | none => simp [rows, hrow, readLines]; rfl
  | some row =>
    obtain ⟨-, rfl⟩ := order?_eq_some hrow
    simp [rows, hrow, readLines]
    rfl

/-! ### Reads between commits -/

/-- The committed state, those before it, and a reader of one order. -/
structure Reading where
  db : Database
  past : List Database
  reader : Reader

inductive ReadLabel
  | commit (c : StoreCall)
  | query

inductive ReadStep : Reading → ReadLabel → Reading → Prop
  | commit (s : Reading) (c : StoreCall) (r : c.Result) (h : (semantics s.db c).1 = .ok r) :
      ReadStep s (.commit c) ⟨(semantics s.db c).2, s.db :: s.past, s.reader⟩
  | query (db : Database) (past : List Database) (q : Query) (next : q.Rows → Reader) :
      ReadStep ⟨db, past, .call q next⟩ .query ⟨db, past, next (db.rows q)⟩

/-- One `GetOrder` and any transactions of the store. -/
def orderReads (orderID : String) : Lts Reading ReadLabel where
  init := fun s => s.past = [] ∧ s.reader = getOrder orderID
  step := ReadStep

/-- The reader has returned nothing that was not the view of the order in one committed state. -/
def Reading.Consistent (orderID : String) (s : Reading) : Prop :=
  ∀ result, s.reader.returned? = some result → ∃ db ∈ s.db :: s.past, db.getOrderTx orderID = result

/-- The calls that write the lines of the order they name. -/
def StoreCall.writesLines (c : StoreCall) : Bool := c.reserves || c.rejects || c.releases

/-- A call is kept away from the reader if it writes what the reader has still to read, after it has read the
order. -/
def Undisturbing (orderID : String) (s : Reading) : ReadLabel → Prop
  | .commit c => c.transaction.map Prod.fst = some orderID →
      match s.reader with
      | .call (.items _) _ => c.writesLines = false ∧ c.ships = false
      | .call (.shipment _) _ => c.ships = false
      | _ => True
  | .query => True

/-! ### What a commit leaves as it was -/

theorem StoreCall.marks_of_not_writesLines {c : StoreCall} (h : c.writesLines = false) :
    c.marks = fun status => status := by
  simp only [writesLines, Bool.or_eq_false_iff] at h
  obtain ⟨⟨hreserves, hrejects⟩, hreleases⟩ := h
  funext status
  unfold marks
  split
  · cases hreserves
  · cases hrejects
  · rw [if_neg (Bool.eq_false_iff.mp hreleases)]

namespace Database

variable {db db' : Database} {orderID target : String}

theorem itemsOf_of_setStatus {f : ReservationStatus → ReservationStatus}
    (h : db'.orderItems.rows = db.orderItems.rows.map (OrderItemRow.setStatus target f))
    (hf : target = orderID → f = fun status => status) : db'.itemsOf orderID = db.itemsOf orderID := by
  rw [itemsOf, itemsOf, h]
  apply Table.filter_map_of_fixed
  · intro row _
    simp only [OrderItemRow.setStatus]
    split_ifs <;> rfl
  · intro row _ hrow
    by_cases htarget : target = orderID
    · rw [hf htarget, OrderItemRow.setStatus_id]
    · apply OrderItemRow.setStatus_of_ne
      intro heq
      exact htarget (heq.symm.trans (of_decide_eq_true hrow))

theorem ShipmentsWritten.rows_eq {c : StoreCall} (h : ShipmentsWritten db c db') {tx : Transaction}
    (htx : c.transaction = some (target, tx)) (hships : target = orderID → c.ships = false) :
    db'.rows (.shipment orderID) = db.rows (.shipment orderID) := by
  cases h with
  | same _ _ _ hshipments => simp only [rows, hshipments]
  | shipped source next shipment audit _ hshipments =>
    obtain rfl : source.orderID = target := (Prod.mk.inj (Option.some.inj htx)).1
    have hne : source.orderID ≠ orderID := by
      intro heq
      cases hships heq
    apply Table.find?_upsert hshipments
    · exact decide_eq_false hne
    · intro old hold
      refine ⟨decide_eq_false ?_, decide_eq_false hne⟩
      intro heq
      exact hne ((of_decide_eq_true hold).symm.trans heq)

/-- What a reader finds of an order after a commit, where the commit writes none of it. -/
structure Untouched (orderID : String) (c : StoreCall) (db db' : Database) : Prop where
  stored : (db'.order? orderID).isSome = true
  items : (c.transaction.map Prod.fst = some orderID → c.writesLines = false) →
    db'.itemsOf orderID = db.itemsOf orderID
  shipment : (c.transaction.map Prod.fst = some orderID → c.ships = false) →
    db'.rows (.shipment orderID) = db.rows (.shipment orderID)

theorem untouched_of_inserted {merchantID idempotencyKey : String} {order : Order} {event : OutboxEvent}
    {audit : AuditLog} (h : Inserted db merchantID idempotencyKey order event audit db')
    (hstored : (db.order? orderID).isSome = true) :
    Untouched orderID (.insertOrder merchantID idempotencyKey order event audit) db db' := by
  have horders : db'.orders = h.orders := congrArg Database.orders h.db_eq
  have hitems : db'.orderItems = h.orderItems := congrArg Database.orderItems h.db_eq
  have hshipments : db'.shipments = db.shipments := (congrArg Database.shipments h.db_eq).trans rfl
  obtain ⟨row, hrow⟩ := Option.isSome_iff_exists.mp hstored
  obtain ⟨hmem, hid⟩ := order?_eq_some hrow
  have hne : order.orderID ≠ orderID := by
    intro heq
    have hapart := Table.conflict_of_insert h.orders_eq row hmem
    simp [OrderRow.conflict, orderRow, hid, heq] at hapart
  constructor
  · rw [order?, Table.find?, horders, Table.rows_insert h.orders_eq, List.find?_append]
    rw [order?, Table.find?] at hrow
    simp [hrow]
  · intro _
    have hnone : h.lines.filter (fun row => decide (row.orderID = orderID)) = [] := by
      apply List.filter_eq_nil_iff.mpr
      intro line hline
      obtain ⟨item, -, ⟨currency, rfl⟩, -⟩ := storedLine_of_mem h.stored hline
      simp [orderItemRow, hne]
    rw [itemsOf, itemsOf, hitems, h.orderItems_eq, List.filter_append, hnone, List.append_nil]
  · intro _
    simp only [rows, hshipments]

theorem untouched_of_outcome {c : StoreCall} {answer : Except Error c.Result} (h : Outcome db c answer db')
    (hstored : (db.order? orderID).isSome = true) : Untouched orderID c db db' := by
  cases h with
  | failed => exact ⟨hstored, fun _ => rfl, fun _ => rfl⟩
  | idle => exact ⟨hstored, fun _ => rfl, fun _ => rfl⟩
  | inserted merchantID idempotencyKey order event audit _ _ hinsert =>
    obtain ⟨h⟩ := insertNewOrder_eq_ok hinsert
    exact untouched_of_inserted h hstored
  | transacted _ r target tx audit row event written inserted htx hrow _ hstatements hinserted =>
    obtain ⟨-, rfl⟩ := order?_eq_some hrow
    have hwritten := written_of_statements htx hstatements
    obtain ⟨outboxEvents, rfl, -⟩ := insertNext_eq_ok hinserted
    have htarget : c.transaction.map Prod.fst = some row.orderID := by rw [htx]; rfl
    constructor
    · change (written.order? orderID).isSome = true
      rw [order?_of_setColumns orderID hwritten.orders, Option.isSome_map]
      exact hstored
    · intro hlines
      apply itemsOf_of_setStatus hwritten.orderItems
      intro heq
      exact StoreCall.marks_of_not_writesLines (hlines (htarget.trans (congrArg some heq)))
    · intro hships
      exact hwritten.shipments.rows_eq htx fun heq => hships (htarget.trans (congrArg some heq))

end Database

/-! ### The order that is read -/

/-- How far the reader is, and the committed state that everything it has read comes from. What it has still to read is
as it was in that state. -/
inductive ReadPhase (orderID : String) (s : Reading) : Prop
  | start (hreader : s.reader = getOrder orderID)
  | lines (seen : Database) (row : OrderRow) (hseen : seen ∈ s.db :: s.past) (hrow : seen.order? orderID = some row)
      (hstored : (s.db.order? orderID).isSome = true) (hitems : s.db.itemsOf orderID = seen.itemsOf orderID)
      (hshipment : s.db.rows (.shipment orderID) = seen.rows (.shipment orderID))
      (hreader : s.reader = readLines orderID (some row))
  | shipment (seen : Database) (row : OrderRow) (hseen : seen ∈ s.db :: s.past)
      (hrow : seen.order? orderID = some row) (hstored : (s.db.order? orderID).isSome = true)
      (hshipment : s.db.rows (.shipment orderID) = seen.rows (.shipment orderID))
      (hreader : s.reader = readShipment orderID row (seen.itemsOf orderID))
  | returned (seen : Database) (hseen : seen ∈ s.db :: s.past) (hreader : s.reader = .ret (seen.getOrderTx orderID))

variable {orderID : String} {s t : Reading} {l : ReadLabel}

theorem getOrderTx_of_read {db : Database} {row : OrderRow} (h : db.order? orderID = some row) :
    db.getOrderTx orderID = .ok (readOrder row (db.itemsOf orderID) (db.rows (.shipment orderID))) := by
  obtain ⟨-, rfl⟩ := order?_eq_some h
  rw [getOrderTx, h]
  rfl

theorem phase_of_query (h : ReadPhase orderID s) {q : Query} {next : q.Rows → Reader}
    (hreader : s.reader = .call q next) : ReadPhase orderID ⟨s.db, s.past, next (s.db.rows q)⟩ := by
  cases h with
  | start hstart =>
    cases hreader.symm.trans hstart
    cases hrow : s.db.order? orderID with
    | none =>
      refine .returned s.db List.mem_cons_self ?_
      rw [getOrderTx, hrow]
      exact congrArg (readLines orderID) hrow
    | some row =>
      exact .lines s.db row List.mem_cons_self hrow (by rw [hrow]; rfl) rfl rfl (congrArg (readLines orderID) hrow)
  | lines seen row hseen hrow hstored hitems hshipment hlines =>
    cases hreader.symm.trans hlines
    exact .shipment seen row hseen hrow hstored hshipment (congrArg (readShipment orderID row) hitems)
  | shipment seen row hseen hrow hstored hshipment hread =>
    cases hreader.symm.trans hread
    refine .returned seen hseen ?_
    rw [getOrderTx_of_read hrow, ← hshipment]
    rfl
  | returned seen hseen hret => cases hreader.symm.trans hret

theorem phase_of_commit (h : ReadPhase orderID s) {c : StoreCall} (hcond : Undisturbing orderID s (.commit c)) :
    ReadPhase orderID ⟨(semantics s.db c).2, s.db :: s.past, s.reader⟩ := by
  have houtcome := semantics_outcome s.db c
  cases h with
  | start hstart => exact .start hstart
  | lines seen row hseen hrow hstored hitems hshipment hlines =>
    have hkept := untouched_of_outcome houtcome hstored
    have hwrites : c.transaction.map Prod.fst = some orderID → c.writesLines = false ∧ c.ships = false := by
      intro htarget
      have hquiet := hcond htarget
      rwa [hlines] at hquiet
    exact .lines seen row (List.mem_cons_of_mem _ hseen) hrow hkept.stored
      ((hkept.items fun htarget => (hwrites htarget).1).trans hitems)
      ((hkept.shipment fun htarget => (hwrites htarget).2).trans hshipment) hlines
  | shipment seen row hseen hrow hstored hshipment hread =>
    have hkept := untouched_of_outcome houtcome hstored
    have hships : c.transaction.map Prod.fst = some orderID → c.ships = false := by
      intro htarget
      have hquiet := hcond htarget
      rwa [hread] at hquiet
    exact .shipment seen row (List.mem_cons_of_mem _ hseen) hrow hkept.stored
      ((hkept.shipment hships).trans hshipment) hread
  | returned seen hseen hret => exact .returned seen (List.mem_cons_of_mem _ hseen) hret

theorem phase_of_reachable (hs : (orderReads orderID).Reachable (Undisturbing orderID) s) : ReadPhase orderID s := by
  refine hs.invariant (P := ReadPhase orderID) ?_ ?_
  · intro s hinit
    exact .start hinit.2
  · intro s l t _ h hstep hcond
    cases hstep with
    | commit s c r hok => exact phase_of_commit h hcond
    | query db past q next => exact phase_of_query h rfl

/-- **A read is a snapshot where no commit writes what it has still to read.** -/
theorem getOrder_consistent (hs : (orderReads orderID).Reachable (Undisturbing orderID) s) : s.Consistent orderID := by
  intro result hresult
  cases phase_of_reachable hs with
  | start hreader => rw [hreader] at hresult; cases hresult
  | lines seen row _ _ _ _ _ hreader => rw [hreader] at hresult; cases hresult
  | shipment seen row _ _ _ _ hreader => rw [hreader] at hresult; cases hresult
  | returned seen hseen hreader =>
    rw [hreader] at hresult
    cases hresult
    exact ⟨seen, hseen, rfl⟩

/-! ### Two reads -/

def ReadLabel.apply (s : Reading) : ReadLabel → Option Reading
  | .commit c =>
    match (semantics s.db c).1 with
    | .ok _ => some ⟨(semantics s.db c).2, s.db :: s.past, s.reader⟩
    | .error _ => none
  | .query =>
    match s.reader with
    | .call q next => some ⟨s.db, s.past, next (s.db.rows q)⟩
    | .ret _ => none

theorem step_of_apply (h : l.apply s = some t) : (orderReads orderID).step s l t := by
  cases l with
  | commit c =>
    simp only [ReadLabel.apply] at h
    split at h
    · rename_i r hok
      cases h
      exact .commit s c r hok
    · cases h
  | query =>
    obtain ⟨db, past, reader⟩ := s
    cases reader with
    | ret => cases h
    | call q next =>
      cases h
      exact .query db past q next

def readSimulator (orderID : String) : Simulator (orderReads orderID) ReadLabel :=
  .ofStep (fun s l => l.apply s) step_of_apply

instance (orderID : String) : DecidablePred (Reading.Consistent orderID) := fun s =>
  decidable_of_iff (s.reader.returned?.all fun result => (s.db :: s.past).any fun db =>
      decide (db.getOrderTx orderID = result)) (by
    unfold Reading.Consistent
    cases s.reader.returned? <;> simp)

def sampleOrder : Order := sampleService.newOrder "m1" sampleCommand "ord_1" 1000

def sampleCreated : OutboxEvent := Service.createdEvent sampleOrder "msg_1" "corr-1" 1000

def sampleInsertion : StoreCall :=
  .insertOrder "m1" "idempotency-key-1" sampleOrder sampleCreated
    ⟨"m1", "ord_1", "merchant", "m1", "order.create", "corr-1", 1000, []⟩

/-- The reservation of the sample order's stock. -/
def sampleReservation : StoreCall :=
  .projector (.recordInventoryReserved sampleCreated
    { sampleCreated with messageID := "msg_2", eventType := .inventoryReserved }
    ⟨"m1", "ord_1", "worker", "inventory", "inventory.reserved", "corr-1", 2000, []⟩)

def catalogReading : Reading := ⟨sampleCatalog "w1", [], getOrder "ord_1"⟩

theorem reachable_catalogReading {cond : Reading → ReadLabel → Prop} :
    (orderReads "ord_1").Reachable cond catalogReading := .start ⟨rfl, rfl⟩

instance (orderID : String) : (s : Reading) → (l : ReadLabel) → Decidable (Undisturbing orderID s l)
  | _, .query => inferInstanceAs (Decidable True)
  | ⟨_, _, .ret _⟩, .commit c | ⟨_, _, .call (.order _) _⟩, .commit c =>
    inferInstanceAs (Decidable (c.transaction.map Prod.fst = some orderID → True))
  | ⟨_, _, .call (.items _) _⟩, .commit c => inferInstanceAs (Decidable
      (c.transaction.map Prod.fst = some orderID → c.writesLines = false ∧ c.ships = false))
  | ⟨_, _, .call (.shipment _) _⟩, .commit c => inferInstanceAs (Decidable
      (c.transaction.map Prod.fst = some orderID → c.ships = false))

/-- A reservation commits before the first query and again nothing until the last one. -/
theorem getOrder_consistent_reserved : ∃ s, (orderReads "ord_1").Reachable (Undisturbing "ord_1") s ∧
    s.reader.returned?.isSome = true ∧ s.Consistent "ord_1" := by
  obtain ⟨s, hs, hreturned⟩ := (readSimulator "ord_1").exists_reachable
    (Q := fun s => s.reader.returned?.isSome = true) (decides_decide (Undisturbing "ord_1")) reachable_catalogReading
    [.commit sampleInsertion, .commit sampleReservation, .query, .query, .query] (by decide +kernel)
  exact ⟨s, hs, hreturned, getOrder_consistent hs⟩

/-- A reservation that commits after the first query is seen in the lines and not in the status. -/
theorem getOrder_torn : ∃ s, (orderReads "ord_1").Reachable Lts.anyStep s ∧ ¬ s.Consistent "ord_1" :=
  (readSimulator "ord_1").exists_reachable decides_anyStep reachable_catalogReading
    [.commit sampleInsertion, .query, .commit sampleReservation, .query, .query] (by decide +kernel)

end FulfillHub
