import FulfillHub.Postgres.Written

/-!
# When a transaction succeeds

The statements of a transaction that are not checked against anything succeed. For the others this says what they
need: authorizations and shipments whose ids no other order uses, quantities in the range of their columns.
-/

namespace FulfillHub

open Relational

namespace Database

variable (db : Database)

theorem order?_eq_none {orderID : String} :
    db.order? orderID = none ↔ ∀ row ∈ db.orders.rows, row.orderID ≠ orderID := by
  unfold order? Table.find?
  simp

theorem insertOutboxEvent_succeeds (event : OutboxEvent) (hencodable : event.occurredAt.encodable = true)
    (hfresh : ∀ old ∈ db.outboxEvents.rows, old.messageID ≠ event.messageID)
    (horder : (db.order? event.orderID).isSome = true) : ∃ outboxEvents,
      db.insertOutboxEvent event = .ok { db with outboxEvents := outboxEvents } := by
  have hinsert : ∀ old ∈ db.outboxEvents.rows, old.conflict event.withEnvelopeDefaults = false := by
    intro old hold
    apply decide_eq_false
    rw [OutboxEvent.withEnvelopeDefaults_messageID]
    exact hfresh old hold
  obtain ⟨outboxEvents, houtbox⟩ := Table.insert_eq_some hinsert
  refine ⟨outboxEvents, ?_⟩
  simp [insertOutboxEvent, hencodable, houtbox, orViolation, ensure, horder, bind, Except.bind, pure, Except.pure]

/-! ### Stock -/

variable {db} {db' : Database} {source : OutboxEvent} {at' : Time} {item : OrderItemRow}

/-- Of a line only its stock can be refused. -/
theorem reserveLine_succeeds (at' : Time) {warehouseID : String} {taken : Database}
    (hreserve : db.reserveInventoryItem source.merchantID source.orderID item = .ok (warehouseID, taken)) :
    ∃ entry db', db.reserveLine source at' item = .ok (entry, db') := by
  obtain ⟨stockReservations, hupsert⟩ : ∃ rows, taken.stockReservations.upsert
      (fun old => old.orderID = source.orderID && old.sku = item.sku)
      (fun old => ⟨source.orderID, item.sku, nullableString warehouseID <|> old.warehouseID, item.quantity,
        .reserved, timestamptz at', none⟩)
      ⟨source.orderID, item.sku, nullableString warehouseID, item.quantity, .reserved, timestamptz at', none⟩ =
        some rows := by
    apply Table.upsert_eq_some StockReservation.conflict_symm
    · intro a b ha hb
      simp_all [StockReservation.conflict]
    · exact fun _ _ _ => rfl
    · intro old _ hother
      simp only [Bool.and_eq_false_iff, decide_eq_false_iff_not] at hother
      apply decide_eq_false
      rintro ⟨horder, hsku⟩
      exact hother.elim (absurd horder.symm) (absurd hsku.symm)
  refine ⟨_, _, bind_eq_ok.mpr ⟨_, hreserve, bind_eq_ok.mpr ⟨_, bind_eq_ok.mpr ⟨stockReservations, ?_, rfl⟩, rfl⟩⟩⟩
  exact orViolation_eq_ok.mpr hupsert

/-- What an order holds can be given back within the range of the columns. -/
def Releasable (db : Database) (orderID : String) : Prop :=
  ∀ stock ∈ db.inventoryItems.rows, ∀ quantity, db.heldQuantity orderID stock = some quantity →
    fitsInt4 (stock.availableQuantity + quantity) = true

theorem releaseReservedStock_succeeds {orderID : String} (h : db.Releasable orderID) :
    ∃ db', db.releaseReservedStock orderID at' = .ok db' := by
  refine ⟨_, bind_eq_ok.mpr ⟨_, bind_eq_ok.mpr ⟨(), ensure_eq_ok.mpr ?_, rfl⟩, rfl⟩⟩
  apply List.all_eq_true.mpr
  intro stock hstock
  cases hheld : db.heldQuantity orderID stock with
  | none => rfl
  | some quantity => exact h stock hstock quantity hheld

/-! ### Payments, shipments, compensations -/

theorem upsertPaymentAuthorization_succeeds {new : PaymentAuthorization}
    (hstatus : admitsAuthorizationStatus new.status = true) (hamount : 0 ≤ new.amount)
    (hfree : ∀ old ∈ db.paymentAuthorizations.rows, old.authorizationID = new.authorizationID →
      old.orderID = new.orderID) : ∃ db', db.upsertPaymentAuthorization new = .ok db' := by
  obtain ⟨rows, hupsert⟩ : ∃ rows, db.paymentAuthorizations.upsert (fun old => old.orderID = new.orderID)
      (fun old => { new with merchantID := old.merchantID }) new = some rows := by
    apply Table.upsert_eq_some PaymentAuthorization.conflict_symm
    · intro a b ha hb
      simp_all [PaymentAuthorization.conflict]
    · exact fun _ _ _ => rfl
    · intro old hold hother
      apply decide_eq_false
      rintro (hid | horder)
      · exact of_decide_eq_false hother (hfree old hold hid.symm)
      · exact of_decide_eq_false hother horder.symm
  refine ⟨_, bind_eq_ok.mpr ⟨(), ensure_eq_ok.mpr hstatus, bind_eq_ok.mpr ⟨(), ensure_eq_ok.mpr ?_,
    bind_eq_ok.mpr ⟨rows, orViolation_eq_ok.mpr hupsert, rfl⟩⟩⟩⟩
  exact decide_eq_true hamount

theorem upsertShipment_succeeds {new : ShipmentRow} (hstatus : admitsShipmentStatus new.status = true)
    (hfree : ∀ old ∈ db.shipments.rows, old.shipmentID = new.shipmentID ∨
      old.trackingNumber = new.trackingNumber → old.orderID = new.orderID) :
    ∃ db', db.upsertShipment new = .ok db' := by
  obtain ⟨rows, hupsert⟩ : ∃ rows, db.shipments.upsert (fun old => old.orderID = new.orderID)
      (fun old => { new with merchantID := old.merchantID, createdAt := old.createdAt }) new = some rows := by
    apply Table.upsert_eq_some ShipmentRow.conflict_symm
    · intro a b ha hb
      simp_all [ShipmentRow.conflict]
    · exact fun _ _ _ => rfl
    · intro old hold hother
      apply decide_eq_false
      rintro (hid | horder | htracking)
      · exact of_decide_eq_false hother (hfree old hold (.inl hid.symm))
      · exact of_decide_eq_false hother horder.symm
      · exact of_decide_eq_false hother (hfree old hold (.inr htracking.symm))
  exact ⟨_, bind_eq_ok.mpr ⟨(), ensure_eq_ok.mpr hstatus,
    bind_eq_ok.mpr ⟨rows, orViolation_eq_ok.mpr hupsert, rfl⟩⟩⟩

theorem upsertCompensation_succeeds (db : Database) (new : CompensationEvent) :
    ∃ db', db.upsertCompensation new = .ok db' := by
  obtain ⟨rows, hupsert⟩ : ∃ rows, db.compensationEvents.upsert
      (fun old => old.sourceMessageID = new.sourceMessageID)
      (fun old => { old with
        targetOrderStatus := new.targetOrderStatus, status := new.status,
        correlationID := new.correlationID, createdAt := new.createdAt }) new = some rows := by
    apply Table.upsert_eq_some CompensationEvent.conflict_symm
    · intro a b ha hb
      simp_all [CompensationEvent.conflict]
    · intro a b ha
      simp_all [CompensationEvent.conflict]
    · intro old _ hother
      apply decide_eq_false
      exact fun hid => of_decide_eq_false hother hid.symm
  exact ⟨_, bind_eq_ok.mpr ⟨rows, orViolation_eq_ok.mpr hupsert, rfl⟩⟩

theorem upsertNotification_succeeds (db : Database) (new : NotificationEvent) :
    ∃ db', db.upsertNotification new = .ok db' := by
  obtain ⟨rows, hupsert⟩ : ∃ rows, db.notificationEvents.upsert
      (fun old => old.sourceMessageID = new.sourceMessageID)
      (fun old => { old with
        status := new.status, correlationID := new.correlationID, createdAt := new.createdAt }) new = some rows := by
    apply Table.upsert_eq_some NotificationEvent.conflict_symm
    · intro a b ha hb
      simp_all [NotificationEvent.conflict]
    · intro a b ha
      simp_all [NotificationEvent.conflict]
    · intro old _ hother
      apply decide_eq_false
      exact fun hid => of_decide_eq_false hother hid.symm
  exact ⟨_, bind_eq_ok.mpr ⟨rows, orViolation_eq_ok.mpr hupsert, rfl⟩⟩

end Database

end FulfillHub
