import FulfillHub.Commerce.LineValidation
import FulfillHub.Commerce.Totals
import FulfillHub.Postgres.Transactions

/-!
# The lines of an accepted order

`UNIQUE (order_id, sku)` compares the SKUs as the command has them, and the validator compares them without the white
space around them. SKUs that differ when trimmed differ, and an order that is inserted is new, so none of its lines
meets a row with its order and its SKU.
-/

namespace FulfillHub

open Relational

namespace Database

variable {db db' : Database} {merchantID : String} {order : Order}

/-- At no line of the order is there a row with its order and its SKU. -/
def AdmitsLines (db : Database) (merchantID : String) (order : Order) : Prop :=
  ∀ (db₁ db₂ : Database) (before after : List OrderItem) (item : OrderItem) (currency : String),
    (db.upsertMerchant merchantID).insertOrderRow merchantID order = .ok db₁ → order.items = before ++ item :: after →
    before.foldlM (insertOrderItem order.orderID) db₁ = .ok db₂ →
    ∃ orderItems, db₂.orderItems.insert (orderItemRow order.orderID currency item) = some orderItems

theorem admitsLines (hlines : ∀ row ∈ db.orderItems.rows, (db.order? row.orderID).isSome = true)
    (hskus : (order.items.map OrderItem.sku).Nodup) : db.AdmitsLines merchantID order := by
  intro db₁ db₂ before after item currency horder hitems hbefore
  obtain ⟨merchants, hmerchants⟩ := upsertMerchant_eq db merchantID
  rw [hmerchants] at horder
  obtain ⟨_, orders, _, _, hinsert, rfl⟩ := insertOrderRow_eq_ok horder
  obtain ⟨orderItems, rows, hstored, hrows, rfl⟩ := insertOrderItems_eq_ok hbefore
  apply Table.insert_eq_some
  intro row hrow
  apply decide_eq_false
  intro hsame
  rw [hrows] at hrow
  obtain hold | hnew := List.mem_append.mp hrow
  · -- a row of another order: the order itself was not there yet
    obtain ⟨found, hfound⟩ := Option.isSome_iff_exists.mp (hlines row hold)
    obtain ⟨hmem, hid⟩ := order?_eq_some hfound
    have hfree := Table.conflict_of_insert hinsert found hmem
    exact of_decide_eq_false hfree (.inl (hid.trans hsame.1))
  · -- a line before this one
    obtain ⟨earlier, hearlier, ⟨_, rfl⟩, _⟩ := storedLine_of_mem hstored hnew
    rw [hitems, List.map_append, List.map_cons] at hskus
    have hdistinct := (List.nodup_append.mp hskus).2.2
    exact hdistinct earlier.sku (List.mem_map_of_mem hearlier) item.sku List.mem_cons_self hsame.2

end Database

open Database

/-- **Line validation is exact.** Each issue of a line is reported where the line has it and nowhere else, a duplicate
with the first line it repeats; a command without issues is accepted; and the lines of an accepted order meet the constraints
of `order_items`. -/
theorem line_validation_exact (svc : Service) (merchantID idempotencyKey : String) (req : CreateOrderCommand) :
    (∀ idx, (∃ first, Reports merchantID idempotencyKey req
        ⟨itemField idx "sku", "duplicates " ++ itemField first "sku"⟩) ↔
      ∃ sku, sku ≠ "" ∧ req.trimmedSku idx = some sku ∧ ∃ earlier, earlier < idx ∧ req.trimmedSku earlier = some sku) ∧
    (∀ idx first, Reports merchantID idempotencyKey req ⟨itemField idx "sku", "duplicates " ++ itemField first "sku"⟩ →
      first < idx ∧ req.trimmedSku first = req.trimmedSku idx ∧
        ∀ earlier, earlier < first → req.trimmedSku earlier ≠ req.trimmedSku idx) ∧
    (∀ idx, Reports merchantID idempotencyKey req ⟨itemField idx "sku", "is required"⟩ ↔
      ∃ item, req.items[idx]? = some item ∧ Text.trimSpace item.sku = "") ∧
    (∀ idx, Reports merchantID idempotencyKey req ⟨itemField idx "quantity", "must be greater than zero"⟩ ↔
      ∃ item, req.items[idx]? = some item ∧ item.quantity < 1) ∧
    (∀ idx, Reports merchantID idempotencyKey req ⟨itemField idx "unit_price.amount", "must not be negative"⟩ ↔
      ∃ item, req.items[idx]? = some item ∧ item.unitPrice.amount < 0) ∧
    (∀ idx, Reports merchantID idempotencyKey req ⟨itemField idx "unit_price.currency", "must match order currency"⟩ ↔
      ∃ item, req.items[idx]? = some item ∧ item.unitPrice.currency ≠ req.currency) ∧
    (validateCreateOrder merchantID idempotencyKey req = .ok () ↔
      req.FieldsValid merchantID idempotencyKey ∧ ∀ idx issue, ¬ req.HasIssue idx issue) ∧
    (validateCreateOrder merchantID idempotencyKey req = .ok () → ∀ orderID now,
      ((svc.newOrder merchantID req orderID now).items.map OrderItem.sku).Nodup ∧
      (∀ item ∈ (svc.newOrder merchantID req orderID now).items, 0 < item.quantity ∧ 0 ≤ item.unitPrice.amount ∧
        item.unitPrice.currency = (svc.newOrder merchantID req orderID now).currency) ∧
      ∀ db : Database, (∀ row ∈ db.orderItems.rows, (db.order? row.orderID).isSome = true) →
        db.AdmitsLines merchantID (svc.newOrder merchantID req orderID now)) := by
  have hduplicate : ∀ idx first, Reports merchantID idempotencyKey req
      ⟨itemField idx "sku", "duplicates " ++ itemField first "sku"⟩ ↔ req.HasIssue idx (.duplicate first) := by
    intro idx first
    exact reports_fieldError idx (.duplicate first)
  refine ⟨?_, ?_, fun idx => reports_fieldError idx .skuRequired, fun idx => reports_fieldError idx .quantity,
    fun idx => reports_fieldError idx .amount, fun idx => reports_fieldError idx .currency,
    validateCreateOrder_ok_iff, ?_⟩
  · intro idx
    simp only [hduplicate]
    exact CreateOrderCommand.exists_duplicate
  · intro idx first hreported
    obtain ⟨sku, -, hsku, hlt, hfirst, hbefore⟩ :=
      CreateOrderCommand.hasIssue_duplicate.mp ((hduplicate idx first).mp hreported)
    rw [hsku]
    exact ⟨hlt, hfirst, hbefore⟩
  · intro haccepted orderID now
    have hvalid := validateCreateOrder_eq_ok.mp haccepted
    have hskus : ((svc.newOrder merchantID req orderID now).items.map OrderItem.sku).Nodup := by
      apply List.Nodup.of_map Text.trimSpace
      rw [Service.newOrder, List.map_map, List.map_map]
      exact hvalid.skus
    refine ⟨hskus, ?_, fun db hlines => admitsLines hlines hskus⟩
    intro item hitem
    obtain ⟨input, hinput, rfl⟩ := List.mem_map.mp hitem
    have hline := hvalid.items input hinput
    exact ⟨hline.quantity, hline.amount, hline.currency⟩

/-- Of three lines with one SKU the first is named as the duplicate of both others, and a line of an accepted command
keeps the white space around its SKU. -/
theorem line_validation_exact_padded :
    (∃ first, Reports "m1" "idempotency-key-1" { oneLineCommand 1 500 with
        items := [⟨"a", 1, ⟨5, "USD"⟩⟩, ⟨" a", 1, ⟨5, "USD"⟩⟩, ⟨"a ", 1, ⟨5, "USD"⟩⟩] }
      ⟨itemField 2 "sku", "duplicates " ++ itemField first "sku"⟩) ∧
    (((⟨fun _ => "", fun c => c⟩ : Service).newOrder "m1" { oneLineCommand 1 500 with
        items := [⟨" a", 1, ⟨5, "USD"⟩⟩, ⟨"b", 1, ⟨5, "USD"⟩⟩] } "ord_1" 1).items.map OrderItem.sku).Nodup := by
  constructor
  · apply ((line_validation_exact ⟨fun _ => "", fun c => c⟩ "m1" "idempotency-key-1" _).1 2).mpr
    exact ⟨"a", by decide, by decide +kernel, 0, by decide, by decide +kernel⟩
  · refine ((line_validation_exact ⟨fun _ => "", fun c => c⟩ "m1" "idempotency-key-1" _).2.2.2.2.2.2.2 ?_ "ord_1" 1).1
    decide +kernel

end FulfillHub
