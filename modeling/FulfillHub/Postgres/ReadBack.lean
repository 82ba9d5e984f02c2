import FulfillHub.Commerce.Validation
import FulfillHub.Postgres.Insertion

/-!
# Reading a new order back

An accepted command is stored in the columns of `orders` and `order_items` and assembled from them again. The columns
are narrower than the validator: it bounds a quantity only from below, where the column is an `INTEGER`, and it counts
the bytes of a currency, where the column is padded to three characters. The event of the order is encoded as JSON,
which needs an instant of a year up to 9999. Nothing else is lost.
-/

namespace FulfillHub

open Relational

variable {svc : Service} {merchantID idempotencyKey : String} {req : CreateOrderCommand} {a : Attempt}
  {db db' : Database} {currency : String} {order : Order}

/-! ### Columns -/

theorem length_le_utf8Len (chars : List Char) : chars.length ≤ String.utf8Len chars := by
  induction chars with
  | nil => exact le_refl 0
  | cons c chars ih =>
    have hpos := Char.utf8Size_pos c
    rw [List.length_cons, String.utf8Len_cons]
    omega

theorem length_le_len (s : String) : s.length ≤ Text.len s := by
  have hle := length_le_utf8Len s.toList
  rwa [← String.utf8ByteSize_ofList, String.ofList_toList] at hle

/-- A `CHAR(3)` column pads a text of three bytes to three characters. -/
theorem char3_of_len {s : String} (h : Text.len s = 3) :
    char3 s = .ok (String.ofList (s.toList ++ List.replicate (3 - s.toList.length) ' ')) := by
  have hle : s.toList.length ≤ 3 := h ▸ length_le_len s
  simp [char3, List.drop_eq_nil_of_le hle, List.take_of_length_le hle]

theorem char3_eq_self_iff {s : String} (h : Text.len s = 3) : char3 s = .ok s ↔ s.length = 3 := by
  have hle : s.toList.length ≤ 3 := h ▸ length_le_len s
  rw [char3_of_len h, Except.ok.injEq]
  constructor
  · intro hpadded
    have hlength := congrArg String.length hpadded
    simp only [String.length_ofList, List.length_append, List.length_replicate] at hlength
    rw [String.length_toList] at hle hlength
    omega
  · intro hlength
    rw [String.length_toList, hlength]
    simp

@[simp] theorem getD_nullableString (s : String) : (nullableString s).getD "" = s := by
  unfold nullableString
  split_ifs with hempty
  · exact hempty.symm
  · rfl

theorem paymentOf_newOrder (svc : Service) (merchantID : String) (req : CreateOrderCommand) (a : Attempt)
    (currency : String) :
    Database.paymentOf (orderRow merchantID currency (a.order svc merchantID req)) =
      (a.order svc merchantID req).payment := by
  simp [Database.paymentOf, orderRow, Attempt.order, Service.newOrder, nullablePaymentStatus]

/-! ### Writing -/

/-- Lines of one currency are written in full, when their quantities fit. -/
theorem insertOrderItems_columns {orderID : String} {items : List OrderItem}
    (h : items.foldlM (Database.insertOrderItem orderID) db = .ok db')
    (hcurrency : ∀ item ∈ items, char3 item.unitPrice.currency = .ok currency) :
    (∀ item ∈ items, fitsInt4 item.quantity = true) ∧
      db'.orderItems.rows = db.orderItems.rows ++ items.map (orderItemRow orderID currency) ∧ db'.orders = db.orders := by
  induction items generalizing db with
  | nil =>
    cases h
    simp
  | cons item rest ih =>
    obtain ⟨hitem, hrest⟩ := List.forall_mem_cons.mp hcurrency
    rw [List.foldlM_cons] at h
    obtain ⟨db₁, hinsert, h⟩ := bind_eq_ok.mp h
    simp only [Database.insertOrderItem, bind_eq_ok, orViolation_eq_ok, ensure_eq_ok, hitem, Except.mapError,
      Except.ok.injEq, pure, Except.pure] at hinsert
    obtain ⟨_, hfits, _, rfl, _, _, _, _, orderItems, hinsert, rfl⟩ := hinsert
    obtain ⟨hfitsRest, hrows, horders⟩ := ih h hrest
    refine ⟨List.forall_mem_cons.mpr ⟨hfits, hfitsRest⟩, ?_, horders⟩
    rw [hrows, Table.rows_insert hinsert, List.append_assoc, List.singleton_append, List.map_cons]

/-- The rows of a new order, with its currency as the columns keep it. -/
structure Columns (merchantID currency : String) (order : Order) (db db' : Database) : Prop where
  fits : ∀ item ∈ order.items, fitsInt4 item.quantity = true
  row : db'.orders.rows = db.orders.rows ++ [orderRow merchantID currency order]
  lines : db'.orderItems.rows = db.orderItems.rows ++ order.items.map (orderItemRow order.orderID currency)

theorem columns_of_insertNewOrder {event : OutboxEvent} {audit : AuditLog}
    (h : db.insertNewOrder merchantID idempotencyKey order event audit = .ok db')
    (hcurrency : char3 order.currency = .ok currency)
    (hitems : ∀ item ∈ order.items, item.unitPrice.currency = order.currency) :
    Columns merchantID currency order db db' := by
  obtain ⟨merchants, hmerchants⟩ := Database.upsertMerchant_eq db merchantID
  rw [Database.insertNewOrder, hmerchants] at h
  obtain ⟨-, -, h⟩ := bind_eq_ok.mp h
  obtain ⟨db₁, horder, h⟩ := bind_eq_ok.mp h
  obtain ⟨db₂, hlines, h⟩ := bind_eq_ok.mp h
  obtain ⟨db₃, hkey, h⟩ := bind_eq_ok.mp h
  obtain ⟨db₄, hevent, h⟩ := bind_eq_ok.mp h
  cases h
  obtain ⟨_, hkeys, hkey⟩ := bind_eq_ok.mp hkey
  cases hkey
  obtain ⟨outboxEvents, -, houtbox, -, rfl⟩ := Database.insertOutboxEvent_eq_ok hevent
  obtain ⟨currency', orders, hcurrency', _, horders, rfl⟩ := Database.insertOrderRow_eq_ok horder
  cases hcurrency.symm.trans hcurrency'
  obtain ⟨hfits, hrows, hsame⟩ := insertOrderItems_columns hlines (by
    intro item hitem
    rw [hitems item hitem, hcurrency])
  exact ⟨hfits, (congrArg Table.rows hsame).trans (Table.rows_insert horders), hrows⟩

/-! ### Reading -/

theorem Columns.order? (h : Columns merchantID currency order db db') (hnew : db.order? order.orderID = none) :
    db'.order? order.orderID = some (orderRow merchantID currency order) := by
  have hnone : db.orders.rows.find? (fun row => row.orderID = order.orderID) = none := hnew
  rw [Database.order?, Table.find?, h.row, List.find?_append, hnone]
  simp [orderRow]

theorem Columns.itemsOf (h : Columns merchantID currency order db db')
    (hnew : ∀ row ∈ db.orderItems.rows, row.orderID ≠ order.orderID) :
    db'.itemsOf order.orderID = order.items.map (orderItemRow order.orderID currency) := by
  rw [Database.itemsOf, h.lines, List.filter_append, List.filter_eq_nil_iff.mpr (by simpa using hnew), List.nil_append,
    List.filter_eq_self]
  intro row hrow
  obtain ⟨item, -, rfl⟩ := List.mem_map.mp hrow
  exact decide_eq_true rfl

theorem Columns.items_assemble (h : Columns merchantID order.currency order db db')
    (hnew : ∀ row ∈ db.orderItems.rows, row.orderID ≠ order.orderID)
    (hitems : ∀ item ∈ order.items, item.unitPrice.currency = order.currency) :
    (db'.assemble (orderRow merchantID order.currency order)).items = order.items := by
  have hrows := h.itemsOf hnew
  simp only [Database.assemble, orderRow, hrows, List.map_map]
  conv_rhs => rw [← List.map_id order.items]
  apply List.map_congr_left
  intro item hitem
  simp [orderItemRow, ← hitems item hitem]

section Stored

variable (svc merchantID idempotencyKey req)

/-- The order as it comes back from the columns, with its timestamps to the microsecond. -/
def ReadBackAs (order read : Order) : Prop :=
  read = { order with
    shipment := read.shipment, createdAt := timestamptz order.createdAt, updatedAt := timestamptz order.updatedAt }

/-- The insertion of the order of an attempt succeeds, and the order can be read back. -/
def StoredAndRead (a : Attempt) (db : Database) : Prop :=
  ∃ db' read, Database.semantics db (.insertOrder merchantID idempotencyKey (a.order svc merchantID req)
      (a.event svc merchantID req) (a.audit merchantID)) = (.ok (some (a.order svc merchantID req), false), db') ∧
    (Database.semantics db' (.getOrder a.orderID)).1 = .ok read ∧ ReadBackAs (a.order svc merchantID req) read

/-- The columns hold the command. -/
def FitsColumns : Prop :=
  (∀ item ∈ req.items, item.quantity < 2 ^ 31) ∧ req.currency.length = 3

end Stored

theorem insertOrder_eq_ok {event : OutboxEvent} {audit : AuditLog}
    (hkey : db.orderByIdempotency merchantID idempotencyKey = none) :
    Database.semantics db (.insertOrder merchantID idempotencyKey order event audit) = (.ok (some order, false), db') ↔
      db.insertNewOrder merchantID idempotencyKey order event audit = .ok db' := by
  simp only [Database.semantics, Database.insertOrder, hkey]
  cases db.insertNewOrder merchantID idempotencyKey order event audit with
  | error err => simp [bind, Except.bind, Database.commit]
  | ok written => simp [bind, Except.bind, pure, Except.pure, Database.commit]

section Accepted

variable (hvalid : req.Valid merchantID idempotencyKey)

include hvalid

theorem storable_of_fitsColumns (hfits : FitsColumns req) : Storable req := by
  have hcurrency := (char3_eq_self_iff hvalid.currency).mpr hfits.2
  refine ⟨⟨_, hcurrency⟩, ?_, ?_⟩
  · intro item hitem
    have hline := hvalid.items item hitem
    have hquantity := hline.quantity
    have hlt := hfits.1 item hitem
    refine ⟨decide_eq_true ⟨by omega, hlt⟩, by omega, hline.amount, req.currency, ?_⟩
    rw [hline.currency, hcurrency]
  · apply List.Nodup.of_map Text.trimSpace
    rw [List.map_map]
    exact hvalid.skus

theorem currency_of_mem_items {item : OrderItem} (hitem : item ∈ (a.order svc merchantID req).items) :
    item.unitPrice.currency = req.currency := by
  obtain ⟨input, hinput, rfl⟩ := List.mem_map.mp hitem
  exact (hvalid.items input hinput).currency

theorem readBackAs_of_columns (hunclaimed : Unclaimed merchantID idempotencyKey req db) (hfresh : a.Fresh db)
    (h : Columns merchantID req.currency (a.order svc merchantID req) db db') :
    ReadBackAs (a.order svc merchantID req)
      (db'.assemble (orderRow merchantID req.currency (a.order svc merchantID req))) := by
  have hlines : ∀ row ∈ db.orderItems.rows, row.orderID ≠ a.orderID := by
    intro row hrow heq
    have hsome := hunclaimed.lines row hrow
    rw [heq, hfresh.1] at hsome
    cases hsome
  have hitems : (db'.assemble (orderRow merchantID req.currency (a.order svc merchantID req))).items =
      (a.order svc merchantID req).items :=
    h.items_assemble hlines fun item hitem => currency_of_mem_items hvalid hitem
  have hpayment := paymentOf_newOrder svc merchantID req a req.currency
  simp only [Database.assemble] at hitems
  simp only [ReadBackAs, Database.assemble]
  rw [hitems, hpayment]
  simp only [orderRow, getD_nullableString]
  rfl

end Accepted

theorem getOrder_of_columns (hfresh : a.Fresh db)
    (h : Columns merchantID currency (a.order svc merchantID req) db db') :
    (Database.semantics db' (.getOrder a.orderID)).1 =
      .ok (db'.assemble (orderRow merchantID currency (a.order svc merchantID req))) := by
  have hrow : db'.order? a.orderID = some (orderRow merchantID currency (a.order svc merchantID req)) :=
    h.order? hfresh.1
  simp only [Database.semantics, Database.getOrderTx, hrow]

section Both

variable (hvalid : req.Valid merchantID idempotencyKey) (hunclaimed : Unclaimed merchantID idempotencyKey req db)
  (hfresh : a.Fresh db)

include hvalid hunclaimed hfresh

theorem fitsColumns_of_storedAndRead (h : StoredAndRead svc merchantID idempotencyKey req a db) : FitsColumns req := by
  obtain ⟨db', read, hinserted, hread, hsame⟩ := h
  have hcolumns := columns_of_insertNewOrder ((insertOrder_eq_ok hunclaimed.key).mp hinserted)
    (char3_of_len hvalid.currency) fun item hitem => currency_of_mem_items hvalid hitem
  rw [getOrder_of_columns hfresh hcolumns] at hread
  cases hread
  constructor
  · intro item hitem
    have hfits := hcolumns.fits _ (List.mem_map_of_mem hitem)
    exact (of_decide_eq_true hfits).2
  · rw [← char3_eq_self_iff hvalid.currency, char3_of_len hvalid.currency]
    exact congrArg Except.ok (congrArg Order.currency hsame)

theorem storedAndRead_of_fitsColumns (hfits : FitsColumns req) (hencodable : a.now.encodable = true)
    (hplain : a.Plain svc merchantID idempotencyKey req) : StoredAndRead svc merchantID idempotencyKey req a db := by
  obtain ⟨db', hinserted⟩ := insertNewOrder_succeeds (storable_of_fitsColumns hvalid hfits) hunclaimed
    ⟨hfresh, hencodable, hplain⟩
  have hcolumns := columns_of_insertNewOrder hinserted ((char3_eq_self_iff hvalid.currency).mpr hfits.2)
    fun item hitem => currency_of_mem_items hvalid hitem
  exact ⟨db', _, (insertOrder_eq_ok hunclaimed.key).mpr hinserted, getOrder_of_columns hfresh hcolumns,
    readBackAs_of_columns hvalid hunclaimed hfresh hcolumns⟩

end Both

theorem encodable_of_storedAndRead (hunclaimed : Unclaimed merchantID idempotencyKey req db)
    (h : StoredAndRead svc merchantID idempotencyKey req a db) : a.now.encodable = true := by
  obtain ⟨db', read, hinserted, -, -⟩ := h
  obtain ⟨inserted⟩ := Database.insertNewOrder_eq_ok ((insertOrder_eq_ok hunclaimed.key).mp hinserted)
  exact inserted.encodable

/-- **An accepted order is stored and read back exactly when the columns hold it and its event can be written.** -/
theorem storedAndRead_iff (svc : Service) (haccepted : validateCreateOrder merchantID idempotencyKey req = .ok ())
    (hunclaimed : Unclaimed merchantID idempotencyKey req db) (hfresh : a.Fresh db)
    (hplain : a.Plain svc merchantID idempotencyKey req) :
    StoredAndRead svc merchantID idempotencyKey req a db ↔ FitsColumns req ∧ a.now.encodable = true := by
  have hvalid := validateCreateOrder_eq_ok.mp haccepted
  constructor
  · intro hstored
    exact ⟨fitsColumns_of_storedAndRead hvalid hunclaimed hfresh hstored, encodable_of_storedAndRead hunclaimed hstored⟩
  · rintro ⟨hfits, hencodable⟩
    exact storedAndRead_of_fitsColumns hvalid hunclaimed hfresh hfits hencodable hplain

theorem storedAndRead_sampleCommand :
    StoredAndRead sampleService "m1" "idempotency-key-1" sampleCommand (attempt "1" 1) (sampleCatalog "w1") :=
  (storedAndRead_iff sampleService (by decide +kernel) unclaimed_sampleCatalog (by decide +kernel)
    (by decide +kernel)).mpr (by unfold FitsColumns; decide +kernel)

/-- A command with one line of the given quantity, at one minor unit of the given currency. -/
def commandOf (quantity : Int) (currency : String) : CreateOrderCommand :=
  { sampleCommand with currency := currency, items := [⟨"sku-1", quantity, ⟨1, currency⟩⟩] }

theorem not_storedAndRead_commandOf {quantity : Int}
    (haccepted : validateCreateOrder "m1" "idempotency-key-1" (commandOf quantity currency) = .ok ())
    (hfits : ¬ FitsColumns (commandOf quantity currency)) :
    ¬ StoredAndRead sampleService "m1" "idempotency-key-1" (commandOf quantity currency) (attempt "1" 1)
      (sampleCatalog "w1") := by
  intro hstored
  refine hfits (fitsColumns_of_storedAndRead (validateCreateOrder_eq_ok.mp haccepted) ⟨rfl, ?_, ?_⟩ ?_ hstored)
  · simp [sampleCatalog, Table.empty]
  · simp [sampleCatalog, Table.empty]
  · decide +kernel

/-- A quantity above the range of the column is refused, and a currency of two characters in three bytes comes back
with a blank. -/
theorem accepted_not_storedAndRead :
    (validateCreateOrder "m1" "idempotency-key-1" (commandOf (2 ^ 31) "USD") = .ok () ∧
      ¬ StoredAndRead sampleService "m1" "idempotency-key-1" (commandOf (2 ^ 31) "USD") (attempt "1" 1)
        (sampleCatalog "w1")) ∧
    (validateCreateOrder "m1" "idempotency-key-1" (commandOf 1 "é1") = .ok () ∧
      ¬ StoredAndRead sampleService "m1" "idempotency-key-1" (commandOf 1 "é1") (attempt "1" 1)
        (sampleCatalog "w1")) := by
  have hlarge : validateCreateOrder "m1" "idempotency-key-1" (commandOf (2 ^ 31) "USD") = .ok () := by decide +kernel
  have hshort : validateCreateOrder "m1" "idempotency-key-1" (commandOf 1 "é1") = .ok () := by decide +kernel
  refine ⟨⟨hlarge, not_storedAndRead_commandOf hlarge ?_⟩, ⟨hshort, not_storedAndRead_commandOf hshort ?_⟩⟩
  · rintro ⟨hquantity, -⟩
    have hlt := hquantity _ List.mem_cons_self
    revert hlt
    decide
  · rintro ⟨-, hlength⟩
    revert hlength
    decide

end FulfillHub
