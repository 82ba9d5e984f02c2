import FulfillHub.Commerce.Validation
import FulfillHub.Postgres.MirroredRuns

/-!
# What the row of an order keeps

Statements rewrite the status of an order and the columns of its payment. The other columns are as they were
inserted: the merchant, the amounts, and the two opaque references, which the order service always fills. So what
any reader has once seen of them is what the row says now.
-/

namespace FulfillHub

open Interaction Relational

/-- The terms of an order: what its provider adapters read of it. -/
structure OrderTerms where
  orderID : String
  merchantID : String
  amount : Int
  currency : String
  credentialRef : String
  addressRef : String

namespace OrderRow

def terms (row : OrderRow) : OrderTerms where
  orderID := row.orderID
  merchantID := row.merchantID
  amount := row.totalAmount
  currency := row.currency
  credentialRef := row.paymentCredentialRef.getD ""
  addressRef := row.shippingAddressRef.getD ""

theorem terms_setColumns (orderID : String) (f : OrderColumns → OrderColumns) (row : OrderRow) :
    (row.setColumns orderID f).terms = row.terms := by
  unfold setColumns
  split_ifs <;> rfl

/-- The row names a payment provider, a payment credential and an address. -/
structure Referenced (row : OrderRow) : Prop where
  provider : row.paymentProvider.isSome = true
  credential : row.terms.credentialRef ≠ ""
  address : row.terms.addressRef ≠ ""

theorem Referenced.of_terms {row row' : OrderRow} (h : row.Referenced) (hterms : row'.terms = row.terms)
    (hprovider : row'.paymentProvider.isSome = true) : row'.Referenced := by
  refine ⟨hprovider, ?_, ?_⟩
  · rw [hterms]
    exact h.credential
  · rw [hterms]
    exact h.address

end OrderRow

theorem StoreCall.provider_columns (c : StoreCall) (row : OrderRow) {o : OrderColumns}
    (h : o.paymentProvider.isSome = true) : (c.columns row o).paymentProvider.isSome = true := by
  have hsets : (c.sets row o).paymentProvider.isSome = true := by
    cases c with
    | projector c => cases c <;> first | exact h | rfl
    | _ => exact h
  unfold StoreCall.columns Database.voidedColumns
  split_ifs
  · exact hsets
  · exact hsets
  · exact hsets

/-! ### New orders -/

theorem nullableString_of_ne {value : String} (h : value ≠ "") : nullableString value = some value := if_neg h

theorem Service.opaqueReference_ne_empty (svc : Service) (kind value : String) (hkind : kind ≠ "") :
    svc.opaqueReference kind value ≠ "" := by
  intro hempty
  have hlist := congrArg String.toList hempty
  simp only [Service.opaqueReference, String.toList_append] at hlist
  exact hkind (String.toList_injective (by simp_all))

theorem referenced_newOrder (svc : Service) {merchantID idempotencyKey : String} (currency orderID : String)
    {req : CreateOrderCommand} (now : Time) (hvalid : validateCreateOrder merchantID idempotencyKey req = .ok ()) :
    (orderRow merchantID currency (svc.newOrder merchantID req orderID now)).Referenced := by
  have hprovider : req.paymentMethod.provider ≠ "" := by
    intro hblank
    have hnotBlank := (validateCreateOrder_eq_ok.mp hvalid).provider
    rw [hblank] at hnotBlank
    exact absurd hnotBlank (by decide)
  have hcredential := svc.opaqueReference_ne_empty "paycred" req.paymentMethod.paymentToken (by decide)
  have haddress := svc.opaqueReference_ne_empty "addr" (svc.addressFingerprint req.shippingAddress) (by decide)
  refine ⟨?_, ?_, ?_⟩
  · change (nullableString req.paymentMethod.provider).isSome = true
    rw [nullableString_of_ne hprovider]
    rfl
  · change (nullableString (svc.opaqueReference "paycred" req.paymentMethod.paymentToken)).getD "" ≠ ""
    rw [nullableString_of_ne hcredential]
    exact hcredential
  · change (nullableString (svc.opaqueReference "addr" (svc.addressFingerprint req.shippingAddress))).getD "" ≠ ""
    rw [nullableString_of_ne haddress]
    exact haddress

/-! ### Along runs -/

variable {svc : Service} {cond : PostgresSaga → SagaLabel → Prop} {s t : PostgresSaga} {l : SagaLabel}

/-- A step keeps the orders of the database, on their terms, and adds at most one that the order service made. -/
inductive OrdersStep (db db' : Database) : Prop
  | written (locked : String) (f : OrderColumns → OrderColumns)
      (hprovider : ∀ o, o.paymentProvider.isSome = true → (f o).paymentProvider.isSome = true)
      (horders : db'.orders.rows = db.orders.rows.map (OrderRow.setColumns locked f))
  | inserted (row : OrderRow) (hrow : row.Referenced) (horders : db'.orders.rows = db.orders.rows ++ [row])

theorem ordersStep_same {db db' : Database} (h : db'.orders = db.orders) : OrdersStep db db' := by
  refine .written "" (fun o => o) (fun _ h => h) ?_
  rw [h, Database.columns_same]

theorem ordersStep_of_step (hs : (postgresSaga svc).Reachable cond s) (hstep : (postgresSaga svc).step s l t) :
    OrdersStep (databaseOf s) (databaseOf t) := by
  rcases outcome_of_step hs hstep with ⟨hdb, _⟩ | ⟨job, trace, c, r, hwrites, houtcome, _⟩
  · exact ordersStep_same (by rw [hdb])
  · generalize databaseOf t = db' at houtcome
    cases houtcome with
    | idle => exact ordersStep_same rfl
    | inserted merchantID idempotencyKey order event audit _ _ hinsert =>
      obtain ⟨hinserted⟩ := Database.insertNewOrder_eq_ok hinsert
      cases hwrites with
      | create _ _ hvalid =>
        refine .inserted _ ?_ ((congrArg (fun db => db.orders.rows) hinserted.db_eq).trans
          (Table.rows_insert hinserted.orders_eq))
        exact referenced_newOrder svc _ _ _ hvalid
      | handle _ hwrite => cases hwrite
    | transacted _ _ orderID tx audit row event written inserted htx hrow _ hstatements hinserted =>
      obtain ⟨hmem, rfl⟩ := Database.order?_eq_some hrow
      have hwritten := Database.written_of_statements htx hstatements
      obtain ⟨outboxEvents, rfl, _⟩ := Database.insertNext_eq_ok hinserted
      exact .written row.orderID (c.columns row) (fun o => c.provider_columns row) hwritten.orders

theorem OrdersStep.order? {db db' : Database} (h : OrdersStep db db') {orderID : String} {row : OrderRow}
    (hrow : db.order? orderID = some row) : ∃ row', db'.order? orderID = some row' ∧ row'.terms = row.terms := by
  cases h with
  | written locked f hprovider horders =>
    refine ⟨row.setColumns locked f, ?_, row.terms_setColumns locked f⟩
    rw [Database.order?_of_setColumns orderID horders, hrow]
    rfl
  | inserted new hnew horders =>
    refine ⟨row, ?_, rfl⟩
    unfold Database.order? Table.find? at *
    rw [horders, List.find?_append, hrow]
    rfl

/-- Every order names a payment provider, a payment credential and an address. -/
theorem referenced_of_reachable (hs : (postgresSaga svc).Reachable cond s) :
    ∀ row ∈ (databaseOf s).orders.rows, row.Referenced := by
  refine Lts.Reachable.invariant (P := fun s => ∀ row ∈ (databaseOf s).orders.rows, row.Referenced) ?_ ?_ hs
  · rintro s ⟨⟨hunused, _⟩, _⟩ row hrow
    change (databaseOf s).Unused at hunused
    rw [hunused.orders] at hrow
    cases hrow
  · intro s l t hreach ih hstep _ row hrow
    cases ordersStep_of_step hreach hstep with
    | written locked f hprovider horders =>
      rw [horders] at hrow
      obtain ⟨old, hold, rfl⟩ := List.mem_map.mp hrow
      refine (ih old hold).of_terms (old.terms_setColumns locked f) ?_
      unfold OrderRow.setColumns
      split_ifs
      · exact hprovider _ (ih old hold).provider
      · exact (ih old hold).provider
    | inserted new hnew horders =>
      rw [horders] at hrow
      rcases List.mem_append.mp hrow with hold | hadded
      · exact ih row hold
      · rw [List.mem_singleton.mp hadded]
        exact hnew

end FulfillHub
