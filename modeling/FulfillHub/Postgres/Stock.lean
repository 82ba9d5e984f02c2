import FulfillHub.Postgres.Saga

/-!
# Conservation of stock

What is available of an inventory item and what is reserved of it add up to what there was, and what is
reserved is what the reservations say: the sum of the quantities of the open reservations of its
warehouse and SKU. A reservation moves a quantity and enters a row, or finds the row it would enter; a release
moves the quantity of the row back and closes the row. Nothing else touches either table.

The warehouse of a reservation is entered through `nullableString`, so the stock of a warehouse whose id is
the empty text is taken and not accounted for. The catalogs considered have no such warehouse.
-/

namespace FulfillHub

open Interaction Relational

/-- The reservation is open and draws on this inventory item. -/
def StockReservation.drawsOn (item : InventoryItem) (row : StockReservation) : Bool :=
  row.status = .reserved && row.warehouseID = some item.warehouseID && row.sku = item.sku

/-- What a reservation holds of an inventory item. -/
def StockReservation.drawn (item : InventoryItem) (row : StockReservation) : Int :=
  if row.drawsOn item then row.quantity else 0

/-- The columns of an inventory item that no transaction changes, and its whole quantity. -/
def InventoryItem.whole (item : InventoryItem) : Nat × String × String × Int :=
  (item.id, item.warehouseID, item.sku, item.availableQuantity + item.reservedQuantity)

namespace Database

/-- The quantity the open reservations hold of an inventory item. -/
def reservedSum (db : Database) (item : InventoryItem) : Int :=
  db.stockReservations.sum (StockReservation.drawn item)

structure StockInvariant (start db : Database) : Prop where
  warehouses : db.warehouses = start.warehouses
  whole : db.inventoryItems.rows.map InventoryItem.whole = start.inventoryItems.rows.map InventoryItem.whole
  available : ∀ item ∈ db.inventoryItems.rows, 0 ≤ item.availableQuantity
  reserved : ∀ item ∈ db.inventoryItems.rows, item.reservedQuantity = db.reservedSum item
  positive : ∀ row ∈ db.stockReservations.rows, 0 < row.quantity

variable {start db db' : Database}

theorem StockInvariant.congr (h : StockInvariant start db) (hwarehouses : db'.warehouses = db.warehouses)
    (hinventory : db'.inventoryItems = db.inventoryItems)
    (hreservations : db'.stockReservations = db.stockReservations) : StockInvariant start db' where
  warehouses := hwarehouses.trans h.warehouses
  whole := hinventory ▸ h.whole
  available := hinventory ▸ h.available
  reserved := by
    unfold reservedSum
    rw [hinventory, hreservations]
    exact h.reserved
  positive := hreservations ▸ h.positive

theorem drawn_nonneg (h : StockInvariant start db) (item : InventoryItem) :
    ∀ row ∈ db.stockReservations.rows, 0 ≤ row.drawn item := by
  intro row hrow
  have hpositive := h.positive row hrow
  unfold StockReservation.drawn
  split_ifs <;> omega

theorem heldQuantity_eq (db : Database) (orderID : String) (item : InventoryItem) :
    db.heldQuantity orderID item = (db.stockReservations.find? fun row =>
      row.orderID = orderID && row.drawsOn item).map StockReservation.quantity := by
  unfold heldQuantity StockReservation.drawsOn
  simp only [Bool.and_assoc]

variable {orderID : String}

/-- An order holds no more of an item than is reserved of it. -/
theorem held_le_reserved (h : StockInvariant start db) {item : InventoryItem} (hitem : item ∈ db.inventoryItems.rows)
    {quantity : Int} (hheld : db.heldQuantity orderID item = some quantity) : quantity ≤ item.reservedQuantity := by
  rw [heldQuantity_eq, Option.map_eq_some_iff] at hheld
  obtain ⟨row, hfind, rfl⟩ := hheld
  have hdraws : row.drawsOn item = true := by
    have hboth := List.find?_some hfind
    exact (Bool.and_eq_true _ _ ▸ hboth).2
  have hle := Table.le_sum (drawn_nonneg h item) (List.mem_of_find?_eq_some hfind)
  rw [StockReservation.drawn, if_pos hdraws] at hle
  rw [h.reserved item hitem]
  exact hle

theorem held_pos (h : StockInvariant start db) {item : InventoryItem} {quantity : Int}
    (hheld : db.heldQuantity orderID item = some quantity) : 0 < quantity := by
  rw [heldQuantity_eq, Option.map_eq_some_iff] at hheld
  obtain ⟨row, hfind, rfl⟩ := hheld
  exact h.positive row (List.mem_of_find?_eq_some hfind)

/-! ### Release -/

theorem whole_restore (h : StockInvariant start db) (orderID : String) {item : InventoryItem}
    (hitem : item ∈ db.inventoryItems.rows) :
    (item.restore (db.heldQuantity orderID item)).whole = item.whole := by
  cases hheld : db.heldQuantity orderID item with
  | none => rfl
  | some quantity =>
    have hle := held_le_reserved h hitem hheld
    have hsum : item.availableQuantity + quantity + max (item.reservedQuantity - quantity) 0 =
        item.availableQuantity + item.reservedQuantity := by
      omega
    simp [InventoryItem.restore, InventoryItem.whole, hsum]

theorem drawn_release (orderID : String) (at' : Time) (item : InventoryItem) (row : StockReservation) :
    row.drawn item = (row.release orderID at').drawn item +
      if (row.orderID = orderID && row.drawsOn item) = true then row.quantity else 0 := by
  unfold StockReservation.release
  by_cases horder : row.orderID = orderID
  · by_cases hstatus : row.status = .reserved
    · simp [horder, hstatus, StockReservation.drawn, StockReservation.drawsOn]
    · have hreleased : row.status = .released := by
        cases hcase : row.status with
        | reserved => exact absurd hcase hstatus
        | released => rfl
      simp [hreleased, StockReservation.drawsOn]
  · simp [horder]

theorem StockInvariant.release {at' : Time} (h : StockInvariant start db)
    (hwarehouses : db'.warehouses = db.warehouses)
    (hinventory : db'.inventoryItems.rows =
      db.inventoryItems.rows.map fun item => item.restore (db.heldQuantity orderID item))
    (hreservations : db'.stockReservations.rows = db.stockReservations.rows.map (StockReservation.release orderID at')) :
    StockInvariant start db' where
  warehouses := hwarehouses.trans h.warehouses
  whole := by
    rw [hinventory, List.map_map, ← h.whole]
    apply List.map_congr_left
    intro item hitem
    exact whole_restore h orderID hitem
  available := by
    intro item' hitem'
    rw [hinventory] at hitem'
    obtain ⟨item, hitem, rfl⟩ := List.mem_map.mp hitem'
    have havailable := h.available item hitem
    cases hheld : db.heldQuantity orderID item with
    | none => exact havailable
    | some quantity =>
      have hpos := held_pos h hheld
      change 0 ≤ item.availableQuantity + quantity
      omega
  reserved := by
    intro item' hitem'
    rw [hinventory] at hitem'
    obtain ⟨item, hitem, rfl⟩ := List.mem_map.mp hitem'
    have hkey : ∀ a b : StockReservation, (a.orderID = orderID && a.drawsOn item) = true →
        (b.orderID = orderID && b.drawsOn item) = true → a.conflict b = true := by
      intro a b ha hb
      simp_all [StockReservation.drawsOn, StockReservation.conflict]
    have hsum : db.reservedSum item = db'.reservedSum item + (db.heldQuantity orderID item).getD 0 := by
      have hsplit := congrArg List.sum (List.map_congr_left (l := db.stockReservations.rows)
        fun row _ => drawn_release orderID at' item row)
      rw [List.sum_map_add, Table.sum_ite_eq_find? (Table.pairwise_key hkey)] at hsplit
      unfold reservedSum Table.sum
      rw [hsplit, hreservations, List.map_map, heldQuantity_eq]
      rfl
    have hreserved := h.reserved item hitem
    cases hheld : db.heldQuantity orderID item with
    | none =>
      rw [hheld] at hsum
      change item.reservedQuantity = db'.reservedSum item
      rw [hreserved, hsum, Option.getD_none, add_zero]
    | some quantity =>
      have hle := held_le_reserved h hitem hheld
      rw [hheld, Option.getD_some] at hsum
      change max (item.reservedQuantity - quantity) 0 = db'.reservedSum item
      omega
  positive := by
    intro row' hrow'
    rw [hreservations] at hrow'
    obtain ⟨row, hrow, rfl⟩ := List.mem_map.mp hrow'
    have hpositive := h.positive row hrow
    unfold StockReservation.release
    split_ifs <;> exact hpositive

/-! ### Reservation -/

/-- The row of a line, drawing on the warehouse its stock is taken from. -/
def lineReservation (source : OutboxEvent) (at' : Time) (item : OrderItemRow) (warehouseID : Option String) :
    StockReservation :=
  ⟨source.orderID, item.sku, warehouseID, item.quantity, .reserved, timestamptz at', none⟩

theorem drawn_lineReservation (source : OutboxEvent) (at' : Time) (item : OrderItemRow)
    (warehouseID : Option String) (stock : InventoryItem) :
    (lineReservation source at' item warehouseID).drawn stock =
      if warehouseID = some stock.warehouseID ∧ item.sku = stock.sku then item.quantity else 0 := by
  refine if_congr ?_ rfl rfl
  simp only [StockReservation.drawsOn, Bool.and_eq_true, decide_eq_true_eq]
  simp [lineReservation]

theorem nullableString_of_ne {value : String} (h : value ≠ "") : nullableString value = some value := by
  rw [nullableString, if_neg h]

theorem nullableString_getD_orElse (value : Option String) : (nullableString (value.getD "") <|> value) = value := by
  unfold nullableString
  cases value with
  | none => rfl
  | some value =>
    simp only [Option.getD_some]
    split_ifs <;> rfl

section Lines

variable {source : OutboxEvent} {at' : Time} {item : OrderItemRow} {warehouseID : String}
  {reservations : Table StockReservation StockReservation.conflict}

theorem lineKey (a b : StockReservation) (ha : (a.orderID = source.orderID && a.sku = item.sku) = true)
    (hb : (b.orderID = source.orderID && b.sku = item.sku) = true) : a.conflict b = true := by
  simp_all [StockReservation.conflict]

theorem positive_of_upsert (h : StockInvariant start db) (hquantity : 0 < item.quantity)
    (hupsert : db.stockReservations.upsert (fun old => old.orderID = source.orderID && old.sku = item.sku)
      (fun old => lineReservation source at' item (nullableString warehouseID <|> old.warehouseID))
      (lineReservation source at' item (nullableString warehouseID)) = some reservations) :
    ∀ row ∈ reservations.rows, 0 < row.quantity := by
  intro row hrow
  rcases Table.mem_upsert hupsert hrow with rfl | ⟨hold, _⟩ | ⟨old, _, _, rfl⟩
  · exact hquantity
  · exact h.positive row hold
  · exact hquantity

theorem sum_of_held {existing : StockReservation}
    (hexisting : db.reservationOf source.orderID item.sku = some existing)
    (hstatus : existing.status = .reserved) (hquantity : existing.quantity = item.quantity)
    (hupsert : db.stockReservations.upsert (fun old => old.orderID = source.orderID && old.sku = item.sku)
      (fun old => lineReservation source at' item
        (nullableString (existing.warehouseID.getD "") <|> old.warehouseID))
      (lineReservation source at' item (nullableString (existing.warehouseID.getD ""))) = some reservations)
    (stock : InventoryItem) :
    reservations.sum (StockReservation.drawn stock) = db.reservedSum stock := by
  have hsku : existing.sku = item.sku := by
    have hboth := List.find?_some hexisting
    simp only [Bool.and_eq_true, decide_eq_true_eq] at hboth
    exact hboth.2
  rw [Table.sum_upsert lineKey hupsert]
  change _ + (((db.reservationOf source.orderID item.sku).map _).getD _) = _
  rw [hexisting, Option.map_some, Option.getD_some, nullableString_getD_orElse, drawn_lineReservation]
  have hdrawn : existing.drawn stock =
      if existing.warehouseID = some stock.warehouseID ∧ item.sku = stock.sku then item.quantity else 0 := by
    simp [StockReservation.drawn, StockReservation.drawsOn, hstatus, hsku, hquantity]
  rw [hdrawn, sub_self, add_zero]
  rfl

/-- A line that is newly reserved adds its quantity where its stock was taken. -/
theorem sum_of_taken
    (hfree : ∀ existing, db.reservationOf source.orderID item.sku = some existing → existing.status ≠ .reserved)
    (hwarehouse : warehouseID ≠ "")
    (hupsert : db.stockReservations.upsert (fun old => old.orderID = source.orderID && old.sku = item.sku)
      (fun old => lineReservation source at' item (nullableString warehouseID <|> old.warehouseID))
      (lineReservation source at' item (nullableString warehouseID)) = some reservations)
    (stock : InventoryItem) : reservations.sum (StockReservation.drawn stock) = db.reservedSum stock +
      if warehouseID = stock.warehouseID ∧ item.sku = stock.sku then item.quantity else 0 := by
  rw [nullableString_of_ne hwarehouse] at hupsert
  rw [Table.sum_upsert lineKey hupsert]
  change _ + (((db.reservationOf source.orderID item.sku).map _).getD _) = _
  have hsome : ∀ old : Option String, (some warehouseID <|> old) = some warehouseID := fun _ => rfl
  simp only [hsome, drawn_lineReservation, Option.some.injEq]
  cases hexisting : db.reservationOf source.orderID item.sku with
  | none => rfl
  | some existing =>
    have hdrawn : existing.drawn stock = 0 := by
      simp [StockReservation.drawn, StockReservation.drawsOn, hfree existing hexisting]
    rw [Option.map_some, Option.getD_some, hdrawn, sub_zero]
    rfl

theorem whole_take (id : Nat) (quantity : Int) (stock : InventoryItem) :
    (stock.take id quantity).whole = stock.whole := by
  unfold InventoryItem.take
  split_ifs
  · simp only [InventoryItem.whole, Prod.mk.injEq, true_and]
    omega
  · rfl

theorem StockInvariant.taken (h : StockInvariant start db) (hnamed : ∀ w ∈ db.warehouses.rows, w.id ≠ "")
    (hquantity : 0 < item.quantity) {candidate : InventoryItem}
    (hfree : ∀ existing, db.reservationOf source.orderID item.sku = some existing → existing.status ≠ .reserved)
    (hcandidate : db.inventoryItems.first? candidateBefore
      (db.isCandidate source.merchantID item.sku item.quantity) = some candidate)
    (hwarehouses : db'.warehouses = db.warehouses)
    (hinventory : db'.inventoryItems.rows =
      db.inventoryItems.rows.map (InventoryItem.take candidate.id item.quantity))
    (hupsert : db.stockReservations.upsert (fun old => old.orderID = source.orderID && old.sku = item.sku)
      (fun old => lineReservation source at' item (nullableString candidate.warehouseID <|> old.warehouseID))
      (lineReservation source at' item (nullableString candidate.warehouseID)) = some db'.stockReservations) :
    StockInvariant start db' := by
  obtain ⟨hmem, hchosen⟩ := Table.mem_of_first? hcandidate
  simp only [isCandidate, Bool.and_eq_true, decide_eq_true_eq, List.any_eq_true] at hchosen
  obtain ⟨⟨⟨warehouse, hlisted, ⟨hid, _⟩, _⟩, hsku⟩, henough⟩ := hchosen
  have hne : candidate.warehouseID ≠ "" := hid ▸ hnamed warehouse hlisted
  have hone : ∀ stock ∈ db.inventoryItems.rows, stock.id = candidate.id → stock = candidate := by
    intro stock hstock heq
    exact Table.eq_of_conflict InventoryItem.conflict_symm hstock hmem (by simp [InventoryItem.conflict, heq])
  refine ⟨hwarehouses.trans h.warehouses, ?_, ?_, ?_, positive_of_upsert h hquantity hupsert⟩
  · rw [← h.whole, hinventory, List.map_map]
    exact List.map_congr_left fun stock _ => whole_take _ _ stock
  · intro stock' hstock'
    rw [hinventory] at hstock'
    obtain ⟨stock, hstock, rfl⟩ := List.mem_map.mp hstock'
    have havailable := h.available stock hstock
    unfold InventoryItem.take
    split_ifs with heq
    · rw [hone stock hstock heq]
      change 0 ≤ candidate.availableQuantity - item.quantity
      omega
    · exact havailable
  · intro stock' hstock'
    rw [hinventory] at hstock'
    obtain ⟨stock, hstock, rfl⟩ := List.mem_map.mp hstock'
    have hreserved := h.reserved stock hstock
    have hsum := sum_of_taken hfree hne hupsert stock
    by_cases heq : stock.id = candidate.id
    · cases hone stock hstock heq
      rw [if_pos ⟨rfl, hsku.symm⟩] at hsum
      rw [InventoryItem.take, if_pos rfl]
      exact (congrArg (· + item.quantity) hreserved).trans hsum.symm
    · have hplace : ¬ (candidate.warehouseID = stock.warehouseID ∧ item.sku = stock.sku) := by
        intro hplace
        refine heq (congrArg InventoryItem.id (Table.eq_of_conflict InventoryItem.conflict_symm hstock hmem ?_))
        simp [InventoryItem.conflict, ← hplace.1, ← hplace.2, hsku]
      rw [if_neg hplace, add_zero] at hsum
      rw [InventoryItem.take, if_neg heq]
      exact hreserved.trans hsum.symm

/-- **One round of the reservation loop** keeps the stock accounted for. -/
theorem StockInvariant.reserveLine (h : StockInvariant start db) (hnamed : ∀ w ∈ db.warehouses.rows, w.id ≠ "")
    (hquantity : 0 < item.quantity) {entry : Value} (hline : db.reserveLine source at' item = .ok (entry, db')) :
    StockInvariant start db' := by
  obtain ⟨warehouseID, taken, reservations, hreserves, hupsert, rfl⟩ := reserveLine_eq_ok hline
  cases hreserves with
  | held existing hexisting hstatus hequal hwarehouse hdb =>
    subst hdb hwarehouse
    refine ⟨h.warehouses, h.whole, h.available, ?_, positive_of_upsert h hquantity hupsert⟩
    intro stock hstock
    exact (h.reserved stock hstock).trans (sum_of_held hexisting hstatus hequal hupsert stock).symm
  | taken candidate hfree hcandidate hwarehouse hdb =>
    subst hdb hwarehouse
    exact h.taken hnamed hquantity hfree hcandidate rfl rfl hupsert

theorem StockInvariant.reserveLines {items : List OrderItemRow} {entries : List Value}
    (h : StockInvariant start db) (hnamed : ∀ w ∈ db.warehouses.rows, w.id ≠ "")
    (hquantity : ∀ item ∈ items, 0 < item.quantity)
    (hlines : reserveLines source at' items db = .ok (entries, db')) : StockInvariant start db' := by
  induction items generalizing db entries with
  | nil =>
    cases hlines
    exact h
  | cons item rest ih =>
    obtain ⟨⟨entry, db₁⟩, hline, hlines⟩ := bind_eq_ok.mp hlines
    obtain ⟨⟨later, db₂⟩, hrest, hlines⟩ := bind_eq_ok.mp hlines
    cases hlines
    have hnext := h.reserveLine hnamed (hquantity item List.mem_cons_self) hline
    refine ih hnext ?_ (fun item hitem => hquantity item (List.mem_cons_of_mem _ hitem)) hrest
    rw [hnext.warehouses, ← h.warehouses]
    exact hnamed

end Lines

/-! ### Every call -/

def PositiveLines (db : Database) : Prop := ∀ row ∈ db.orderItems.rows, 0 < row.quantity

theorem positive_of_stored {items : List OrderItem} {rows : List OrderItemRow}
    (h : List.Forall₂ (StoredLine orderID) items rows) : ∀ row ∈ rows, 0 < row.quantity := by
  intro row hrow
  obtain ⟨_, _, ⟨currency, rfl⟩, hquantity⟩ := storedLine_of_mem h hrow
  exact hquantity

theorem StockInvariant.written {row : OrderRow} {c : StoreCall} (h : StockInvariant start db)
    (hlines : PositiveLines db) (hnamed : ∀ w ∈ start.warehouses.rows, w.id ≠ "")
    (hwritten : Written db row c db') : StockInvariant start db' := by
  have hwarehouses := hwritten.kept.warehouses
  cases hwritten.stock with
  | same _ _ _ _ hinventory hreservations => exact h.congr hwarehouses hinventory hreservations
  | reserved source next audit entries reserved _ _ hreserve hinventory hreservations =>
    have hreserved : StockInvariant start reserved := by
      refine h.reserveLines (h.warehouses ▸ hnamed) ?_ hreserve
      intro item hitem
      exact hlines item (List.mem_filter.mp hitem).1
    exact hreserved.congr (hwarehouses.trans (h.warehouses.trans hreserved.warehouses.symm)) hinventory
      hreservations
  | released _ _ at' _ hinventory hreservations => exact h.release hwarehouses hinventory hreservations

theorem positiveLines_written {row : OrderRow} {c : StoreCall} (hlines : PositiveLines db)
    (hwritten : Written db row c db') : PositiveLines db' := by
  intro line' hline'
  rw [hwritten.orderItems] at hline'
  obtain ⟨line, hline, rfl⟩ := List.mem_map.mp hline'
  have hquantity := hlines line hline
  unfold OrderItemRow.setStatus
  split_ifs <;> exact hquantity

/-- **Every call of the store** keeps the stock accounted for. -/
theorem StockInvariant.semantics (h : StockInvariant start db) (hlines : PositiveLines db)
    (hnamed : ∀ w ∈ start.warehouses.rows, w.id ≠ "") (c : StoreCall) :
    StockInvariant start (semantics db c).2 ∧ PositiveLines (Database.semantics db c).2 := by
  have houtcome := semantics_outcome db c
  generalize (Database.semantics db c).1 = r at houtcome
  generalize (Database.semantics db c).2 = db' at houtcome
  cases houtcome with
  | failed => exact ⟨h, hlines⟩
  | idle => exact ⟨h, hlines⟩
  | inserted merchantID idempotencyKey order event audit _ _ hinsert =>
    obtain ⟨hinserted⟩ := insertNewOrder_eq_ok hinsert
    rw [hinserted.db_eq]
    refine ⟨h.congr rfl rfl rfl, ?_⟩
    intro line hline
    change line ∈ hinserted.orderItems.rows at hline
    rw [hinserted.orderItems_eq, List.mem_append] at hline
    exact hline.elim (hlines line) (positive_of_stored hinserted.stored line)
  | transacted _ _ orderID tx audit row event written inserted htx hrow _ hstatements hinserted =>
    have hwritten := written_of_statements ((order?_eq_some hrow).2 ▸ htx) hstatements
    obtain ⟨outboxEvents, rfl, _⟩ := insertNext_eq_ok hinserted
    refine ⟨(h.written hlines hnamed hwritten).congr rfl rfl rfl, ?_⟩
    exact fun line hline => positiveLines_written hlines hwritten line hline

end Database

/-! ### Runs -/

variable {svc : Service} {s₀ s t : PostgresSaga}

theorem stockInvariant_of_unused {db : Database} (h : db.Unused) : db.StockInvariant db where
  warehouses := rfl
  whole := rfl
  available := h.available
  reserved := by
    intro item hitem
    rw [h.unreserved item hitem, Database.reservedSum, h.stockReservations]
    rfl
  positive := by
    rw [h.stockReservations]
    intro row hrow
    cases hrow

/-- What holds of the stock in every state of a run. -/
structure StockConserved (start db : Database) : Prop where
  /-- The same rows as at the start, each with the same whole quantity. -/
  whole : db.inventoryItems.rows.map InventoryItem.whole = start.inventoryItems.rows.map InventoryItem.whole
  available : ∀ item ∈ db.inventoryItems.rows, 0 ≤ item.availableQuantity
  reserved : ∀ item ∈ db.inventoryItems.rows, item.reservedQuantity =
    ((db.stockReservations.rows.filter fun row => row.status = .reserved &&
      row.warehouseID = some item.warehouseID && row.sku = item.sku).map StockReservation.quantity).sum
  /-- A release never gives back more than is reserved, so its clamp does not act. -/
  unclamped : ∀ item ∈ db.inventoryItems.rows, ∀ orderID quantity,
    db.heldQuantity orderID item = some quantity →
      max (item.reservedQuantity - quantity) 0 = item.reservedQuantity - quantity

theorem sum_drawn (item : InventoryItem) (rows : List StockReservation) :
    (rows.map (StockReservation.drawn item)).sum =
      ((rows.filter (StockReservation.drawsOn item)).map StockReservation.quantity).sum := by
  induction rows with
  | nil => rfl
  | cons row rest ih =>
    rw [List.map_cons, List.sum_cons, ih, StockReservation.drawn]
    by_cases hdraws : row.drawsOn item = true
    · rw [List.filter_cons_of_pos hdraws, List.map_cons, List.sum_cons, if_pos hdraws]
    · rw [List.filter_cons_of_neg hdraws, if_neg hdraws, zero_add]

theorem Database.StockInvariant.conserved {start db : Database} (h : start.StockInvariant db) :
    StockConserved start db where
  whole := h.whole
  available := h.available
  reserved := by
    intro item hitem
    rw [h.reserved item hitem]
    exact sum_drawn item _
  unclamped := by
    intro item hitem orderID quantity hheld
    have hle := Database.held_le_reserved h hitem hheld
    omega

theorem stockInvariant_of_path {cond : PostgresSaga → SagaLabel → Prop} {labels : List SagaLabel}
    {start : Database} (hnamed : ∀ w ∈ start.warehouses.rows, w.id ≠ "")
    (hpath : (postgresSaga svc).Path cond s labels t) (h : start.StockInvariant (databaseOf s))
    (hlines : (databaseOf s).PositiveLines) : start.StockInvariant (databaseOf t) := by
  refine (Lts.Path.invariant (P := fun s => start.StockInvariant (databaseOf s) ∧ (databaseOf s).PositiveLines)
    ?_ hpath ⟨h, hlines⟩).1
  intro s l t ⟨h, hlines⟩ hstep _
  rcases database_of_step hstep with hsame | ⟨_, c, _, _, _, hdb⟩
  · rw [hsame]
    exact ⟨h, hlines⟩
  · rw [hdb]
    exact h.semantics hlines hnamed c

/-- **Stock is conserved.** From any catalog without a warehouse of the empty id, whatever is ordered, handled
and cancelled, in whatever order and however often. -/
theorem stock_conserved {labels : List SagaLabel} (hinit : (postgresSaga svc).init s₀)
    (hnamed : ∀ w ∈ (databaseOf s₀).warehouses.rows, w.id ≠ "")
    (hpath : (postgresSaga svc).Path Lts.anyStep s₀ labels s) :
    StockConserved (databaseOf s₀) (databaseOf s) := by
  obtain ⟨⟨hunused, _⟩, _⟩ := hinit
  refine (stockInvariant_of_path hnamed hpath (stockInvariant_of_unused hunused) ?_).conserved
  change (databaseOf s₀).Unused at hunused
  unfold Database.PositiveLines
  rw [hunused.orderItems]
  intro row hrow
  cases hrow

/-! ### Runs of one order -/

/-- What is reserved of the first inventory item, and what its reservations say. -/
def firstReserved (db : Database) : Option (Int × Int) :=
  db.inventoryItems.rows.head?.map fun item => (item.reservedQuantity, db.reservedSum item)

/-- The stock of a warehouse with the empty id is reserved without a reservation that names it. -/
theorem stock_not_conserved : ∃ (svc : Service) (s₀ s : PostgresSaga) (labels : List SagaLabel),
    (postgresSaga svc).init s₀ ∧ (postgresSaga svc).Path Lts.anyStep s₀ labels s ∧
      ¬ StockConserved (databaseOf s₀) (databaseOf s) := by
  obtain ⟨labels, s, hpath, hfirst⟩ := (postgresSimulator sampleService).exists_path_from
    (Q := fun s => firstReserved (databaseOf s) = some (2, 0)) decides_anyStep
    (catalogSaga (sampleCatalog "")) stockActs (by decide +kernel)
  refine ⟨sampleService, _, s, labels, init_catalogSaga (unused_sampleCatalog ""), hpath, ?_⟩
  intro hconserved
  obtain ⟨item, hitem, hpair⟩ := Option.map_eq_some_iff.mp hfirst
  have hreserved := hconserved.reserved item (List.mem_of_head? hitem)
  obtain ⟨htwo, hzero⟩ := Prod.mk.inj hpair
  have hsum := sum_drawn item (databaseOf s).stockReservations.rows
  change (databaseOf s).reservedSum item = _ at hsum
  rw [hzero] at hsum
  rw [htwo] at hreserved
  exact absurd (hreserved.trans hsum.symm) (by decide)

/-- Two of ten pieces are reserved and accounted for. -/
theorem stock_conserved_reserved : ∃ (labels : List SagaLabel) (s : PostgresSaga),
    (postgresSaga sampleService).Path Lts.anyStep (catalogSaga (sampleCatalog "w1")) labels s ∧
      firstReserved (databaseOf s) = some (2, 2) ∧
      StockConserved (sampleCatalog "w1") (databaseOf s) := by
  obtain ⟨labels, s, hpath, hfirst⟩ := (postgresSimulator sampleService).exists_path_from
    (Q := fun s => firstReserved (databaseOf s) = some (2, 2)) decides_anyStep
    (catalogSaga (sampleCatalog "w1")) stockActs (by decide +kernel)
  refine ⟨labels, s, hpath, hfirst, ?_⟩
  exact stock_conserved (init_catalogSaga (unused_sampleCatalog "w1")) (by simp [catalogSaga, sampleCatalog]) hpath

end FulfillHub
