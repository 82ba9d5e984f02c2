import FulfillHub.Postgres.Reservation

/-!
# Which calls the store admits

A transaction on a stored order fails for one of few reasons: the order may not move, a constraint refuses a payment or a
shipment, a quantity leaves the range of its column, or a line can not be reserved. Each of them can be read off the
database before the call. Of the lines of an order the first that can not be reserved decides how the call fails, and
what becomes of a line does not depend on the lines before it.
-/

namespace FulfillHub

open Relational

/-! ### Lines -/

/-- What becomes of a line: it is reserved, there is no stock for it, or it is refused for another reason. -/
inductive LineVerdict
  | granted
  | short
  | blocked
  deriving DecidableEq

namespace Database

variable (db : Database)

/-- The reservation a line holds. -/
def holding (orderID : String) (line : OrderItemRow) : Option StockReservation :=
  (db.reservationOf orderID line.sku).filter (·.status = .reserved)

/-- The verdict on a line that is to be taken from stock. -/
def stockVerdict (merchantID : String) (line : OrderItemRow) : LineVerdict :=
  match db.choice merchantID line with
  | none => .short
  | some stock => if fitsInt4 (stock.reservedQuantity + line.quantity) then .granted else .blocked

def verdict (merchantID orderID : String) (line : OrderItemRow) : LineVerdict :=
  match db.holding orderID line with
  | some held => if held.quantity = line.quantity then .granted else .blocked
  | none => db.stockVerdict merchantID line

/-- The verdict on the first line that is not granted. -/
def refusal (merchantID orderID : String) (lines : List OrderItemRow) : Option LineVerdict :=
  (lines.map (db.verdict merchantID orderID)).find? (· ≠ .granted)

variable {db} {db' : Database} {source : OutboxEvent} {line : OrderItemRow} {merchantID orderID : String}

theorem reserveInventoryItem_of_holding {held : StockReservation} (h : db.holding orderID line = some held) :
    db.reserveInventoryItem merchantID orderID line =
      if held.quantity ≠ line.quantity then .error (.plain ("reservation quantity mismatch for sku " ++ line.sku))
      else .ok (held.warehouseID.getD "", db) := by
  obtain ⟨hreservation, hstatus⟩ := Option.filter_eq_some_iff.mp h
  rw [reserveInventoryItem, hreservation]
  simp only [if_pos (of_decide_eq_true hstatus)]

theorem reserveInventoryItem_of_not_holding (h : db.holding orderID line = none) :
    db.reserveInventoryItem merchantID orderID line = db.takeCandidate merchantID line.sku line.quantity := by
  unfold reserveInventoryItem
  split
  · rename_i existing hexisting
    rw [if_neg]
    intro hstatus
    simp [holding, hexisting, hstatus] at h
  · rfl

theorem takeCandidate_granted (h : db.stockVerdict merchantID line = .granted) :
    ∃ result, db.takeCandidate merchantID line.sku line.quantity = .ok result := by
  cases hchoice : db.choice merchantID line with
  | none => simp [stockVerdict, hchoice] at h
  | some stock =>
    have hfits : fitsInt4 (stock.reservedQuantity + line.quantity) = true := by
      by_contra hfits
      simp [stockVerdict, hchoice, hfits] at h
    unfold choice at hchoice
    unfold takeCandidate
    rw [hchoice]
    exact ⟨_, bind_eq_ok.mpr ⟨(), ensure_eq_ok.mpr hfits, rfl⟩⟩

variable {verdict : LineVerdict}

theorem takeCandidate_refused (h : db.stockVerdict merchantID line = verdict) (hrefused : verdict ≠ .granted) :
    ∃ err, db.takeCandidate merchantID line.sku line.quantity = .error err ∧
      err.is .insufficientStock = decide (verdict = .short) := by
  cases hchoice : db.choice merchantID line with
  | none =>
    rw [stockVerdict, hchoice] at h
    subst h
    unfold choice at hchoice
    unfold takeCandidate
    rw [hchoice]
    exact ⟨_, rfl, rfl⟩
  | some stock =>
    by_cases hfits : fitsInt4 (stock.reservedQuantity + line.quantity) = true
    · rw [stockVerdict, hchoice] at h
      simp only [hfits, if_true] at h
      exact absurd h.symm hrefused
    · rw [stockVerdict, hchoice] at h
      simp only [hfits] at h
      subst h
      unfold choice at hchoice
      unfold takeCandidate
      rw [hchoice]
      simp only [ensure, if_neg hfits]
      exact ⟨_, rfl, rfl⟩

theorem reserveLine_granted (at' : Time) (h : db.verdict source.merchantID source.orderID line = .granted) :
    ∃ entry db', db.reserveLine source at' line = .ok (entry, db') := by
  unfold verdict at h
  split at h
  · rename_i held hheld
    split_ifs at h with hquantity
    apply reserveLine_succeeds
    rw [reserveInventoryItem_of_holding hheld, if_neg (not_not.mpr hquantity)]
  · rename_i hnone
    obtain ⟨⟨warehouseID, taken⟩, htake⟩ := takeCandidate_granted h
    apply reserveLine_succeeds
    rw [reserveInventoryItem_of_not_holding hnone]
    exact htake

/-- A line that is not granted fails, for want of stock exactly when it is short. -/
theorem reserveLine_refused (at' : Time) (h : db.verdict source.merchantID source.orderID line = verdict)
    (hrefused : verdict ≠ .granted) :
    ∃ err, db.reserveLine source at' line = .error err ∧
      err.is .insufficientStock = decide (verdict = .short) := by
  obtain ⟨err, hreserve, herr⟩ : ∃ err,
      db.reserveInventoryItem source.merchantID source.orderID line = .error err ∧
        err.is .insufficientStock = decide (verdict = .short) := by
    unfold Database.verdict at h
    split at h
    · rename_i held hheld
      split_ifs at h with hquantity
      · exact absurd h.symm hrefused
      · subst h
        rw [reserveInventoryItem_of_holding hheld, if_pos hquantity]
        exact ⟨_, rfl, rfl⟩
    · rename_i hnone
      rw [reserveInventoryItem_of_not_holding hnone]
      exact takeCandidate_refused h hrefused
  exact ⟨err, by simp [reserveLine, hreserve, bind, Except.bind], herr⟩

variable {entry : Value}

theorem holding_of_reserveLine {at' : Time} {other : OrderItemRow}
    (h : db.reserveLine source at' line = .ok (entry, db')) (hsku : other.sku ≠ line.sku) :
    db'.holding source.orderID other = db.holding source.orderID other := by
  obtain ⟨warehouseID, taken, reservations, hreserves, hupsert, rfl⟩ := reserveLine_eq_ok h
  have hsame : taken.stockReservations = db.stockReservations := by
    cases hreserves with
    | held _ _ _ _ _ hdb => rw [hdb]
    | taken _ _ _ _ hdb => rw [hdb]
  have hreservation : reservations.find? (fun row => row.orderID = source.orderID && row.sku = other.sku) =
      db.stockReservations.find? (fun row => row.orderID = source.orderID && row.sku = other.sku) := by
    rw [← hsame]
    apply Table.find?_upsert hupsert
    · simp [hsku.symm]
    · intro row hrow
      simp only [Bool.and_eq_true, decide_eq_true_eq] at hrow
      simp [hrow.2, hsku.symm]
  rw [holding, holding, reservationOf, reservationOf, hreservation]

theorem verdict_of_reserveLine {at' : Time} {other : OrderItemRow}
    (h : db.reserveLine source at' line = .ok (entry, db')) (hsku : other.sku ≠ line.sku) :
    db'.verdict source.merchantID source.orderID other = db.verdict source.merchantID source.orderID other := by
  have hholding := holding_of_reserveLine h hsku
  have hchoice : db'.choice source.merchantID other = db.choice source.merchantID other := by
    obtain ⟨warehouseID, taken, reservations, hreserves, -, rfl⟩ := reserveLine_eq_ok h
    cases hreserves with
    | held _ _ _ _ _ hdb =>
      subst hdb
      rfl
    | taken stock _ hstock _ hdb =>
      subst hdb
      apply choice_of_take _ _ (best_of_choice hstock) hsku <;> rfl
  simp only [verdict, hholding, stockVerdict, hchoice]

/-! ### All lines -/

variable {lines : List OrderItemRow} {at' : Time}

theorem refusal_cons (line : OrderItemRow) (lines : List OrderItemRow) :
    db.refusal merchantID orderID (line :: lines) =
      if db.verdict merchantID orderID line = .granted then db.refusal merchantID orderID lines
      else some (db.verdict merchantID orderID line) := by
  unfold refusal
  rw [List.map_cons, List.find?_cons]
  split_ifs with hgranted <;> simp [hgranted]

theorem refusal_of_reserveLine (h : db.reserveLine source at' line = .ok (entry, db'))
    (hother : ∀ other ∈ lines, other.sku ≠ line.sku) :
    db'.refusal source.merchantID source.orderID lines = db.refusal source.merchantID source.orderID lines := by
  unfold refusal
  congr 1
  apply List.map_congr_left
  intro other hmem
  exact verdict_of_reserveLine h (hother other hmem)

theorem reserveLines_granted (hskus : (lines.map OrderItemRow.sku).Nodup)
    (h : db.refusal source.merchantID source.orderID lines = none) :
    ∃ entries db', reserveLines source at' lines db = .ok (entries, db') := by
  induction lines generalizing db with
  | nil => exact ⟨[], db, rfl⟩
  | cons line lines ih =>
    obtain ⟨hother, hrest⟩ := skus_ne_of_nodup hskus
    rw [refusal_cons] at h
    split_ifs at h with hgranted
    obtain ⟨entry, db₁, hline⟩ := reserveLine_granted at' hgranted
    obtain ⟨entries, db₂, hlines⟩ := ih hrest ((refusal_of_reserveLine hline hother).trans h)
    exact ⟨_, _, bind_eq_ok.mpr ⟨_, hline, bind_eq_ok.mpr ⟨_, hlines, rfl⟩⟩⟩

theorem reserveLines_refused (hskus : (lines.map OrderItemRow.sku).Nodup)
    (h : db.refusal source.merchantID source.orderID lines = some verdict) :
    ∃ err, reserveLines source at' lines db = .error err ∧
      err.is .insufficientStock = decide (verdict = .short) := by
  induction lines generalizing db with
  | nil => cases h
  | cons line lines ih =>
    obtain ⟨hother, hrest⟩ := skus_ne_of_nodup hskus
    rw [refusal_cons] at h
    split_ifs at h with hgranted
    · obtain ⟨entry, db₁, hline⟩ := reserveLine_granted at' hgranted
      obtain ⟨err, hlines, herr⟩ := ih hrest ((refusal_of_reserveLine hline hother).trans h)
      exact ⟨err, by simp [reserveLines, hline, hlines, bind, Except.bind], herr⟩
    · obtain ⟨err, hline, herr⟩ := reserveLine_refused at' (Option.some.inj h) (Option.some.inj h ▸ hgranted)
      exact ⟨err, by simp [reserveLines, hline, bind, Except.bind], herr⟩

theorem skus_itemsOf (db : Database) (orderID : String) : ((db.itemsOf orderID).map OrderItemRow.sku).Nodup := by
  apply List.pairwise_map.mpr
  refine (db.orderItems.unique.filter _).imp_of_mem ?_
  intro a b ha hb hapart hsku
  simp only [List.mem_filter, decide_eq_true_eq] at ha hb
  exact of_decide_eq_false hapart ⟨ha.2.trans hb.2.symm, hsku⟩

/-! ### Calls -/

/-- The authorization id is not that of another order. -/
def AuthorizationFree (db : Database) (authorizationID orderID : String) : Prop :=
  ∀ old ∈ db.paymentAuthorizations.rows, old.authorizationID = authorizationID → old.orderID = orderID

/-- Neither id of the shipment is that of another order. -/
def ShipmentFree (db : Database) (shipment : Shipment) (orderID : String) : Prop :=
  ∀ old ∈ db.shipments.rows, old.shipmentID = shipment.shipmentID ∨ old.trackingNumber = shipment.trackingNumber →
    old.orderID = orderID

/-- What the statements of a call on the order need to succeed. -/
def Admits (db : Database) (row : OrderRow) : StoreCall → Prop
  | .projector (.recordInventoryReserved source _ _) =>
    db.itemsOf row.orderID ≠ [] ∧ db.refusal source.merchantID source.orderID (db.itemsOf row.orderID) = none
  | .projector (.recordPaymentAuthorized source _ payment _) =>
    admitsAuthorizationStatus payment.status = true ∧ 0 ≤ row.totalAmount ∧
      db.AuthorizationFree payment.authorizationID source.orderID
  | .projector (.recordShipmentCreated source _ shipment _) =>
    admitsShipmentStatus shipment.status = true ∧ db.ShipmentFree shipment source.orderID
  | .projector (.recordOrderCancelled _ _ _) => db.Releasable row.orderID
  | .projector (.recordCompensation source _ _) =>
    (source.eventType = .paymentFailed ∨ source.eventType = .shipmentFailed) → db.Releasable source.orderID
  | _ => True

variable {row : OrderRow} {c : StoreCall} {tx : Transaction}

theorem applyCompensationEffects_succeeds (at' : Time)
    (h : source.eventType = .paymentFailed ∨ source.eventType = .shipmentFailed → db.Releasable source.orderID) :
    ∃ db', db.applyCompensationEffects source at' = .ok db' := by
  unfold applyCompensationEffects
  split
  · rename_i htype
    exact releaseReservedStock_succeeds (h (.inl htype))
  · rename_i htype
    obtain ⟨released, hrelease⟩ : ∃ released, db.releaseReservedStock source.orderID at' = .ok released :=
      releaseReservedStock_succeeds (h (.inr htype))
    exact ⟨_, bind_eq_ok.mpr ⟨released, hrelease, rfl⟩⟩
  · exact ⟨db, rfl⟩

theorem statements_of_admits (htx : c.transaction = some (row.orderID, tx)) (h : db.Admits row c) :
    ∃ event written, tx.statements db row = .ok (event, written) := by
  cases c with
  | insertOrder => cases htx
  | getOrder => cases htx
  | updateOrderStatus orderID status now event audit =>
    cases htx
    exact ⟨_, _, rfl⟩
  | projector c =>
    obtain ⟨hsource, rfl⟩ := Prod.mk.inj (Option.some.inj htx)
    cases c with
    | recordInventoryReserved source next audit =>
      obtain ⟨entries, reserved, hlines⟩ : ∃ entries reserved,
          reserveLines source next.occurredAt (db.itemsOf row.orderID) db = .ok (entries, reserved) :=
        reserveLines_granted (skus_itemsOf db row.orderID) h.2
      exact ⟨_, _, bind_eq_ok.mpr ⟨_, if_neg h.1, bind_eq_ok.mpr ⟨_, hlines, rfl⟩⟩⟩
    | recordInventoryRejected source next audit => exact ⟨_, _, rfl⟩
    | recordPaymentAuthorized source next payment audit =>
      obtain ⟨authorized, hupsert⟩ : ∃ authorized, db.upsertPaymentAuthorization
          (authorizationRow source next payment row) = .ok authorized :=
        upsertPaymentAuthorization_succeeds h.1 h.2.1 h.2.2
      exact ⟨_, _, bind_eq_ok.mpr ⟨authorized, hupsert, rfl⟩⟩
    | recordPaymentFailed source next audit => exact ⟨_, _, rfl⟩
    | recordShipmentCreated source next shipment audit =>
      obtain ⟨shipped, hupsert⟩ : ∃ shipped, db.upsertShipment (shipmentRow source next shipment) = .ok shipped :=
        upsertShipment_succeeds h.1 h.2
      exact ⟨_, _, bind_eq_ok.mpr ⟨shipped, hupsert, rfl⟩⟩
    | recordShipmentFailed source next audit => exact ⟨_, _, rfl⟩
    | recordOrderCancelled source next audit =>
      obtain ⟨released, hrelease⟩ : ∃ released, (db.updateOrder row.orderID fun o =>
          { o with status := .cancelled, updatedAt := timestamptz next.occurredAt }).releaseReservedStock
            row.orderID next.occurredAt = .ok released := releaseReservedStock_succeeds h
      exact ⟨_, _, bind_eq_ok.mpr ⟨released, hrelease, rfl⟩⟩
    | recordNotificationQueued source audit =>
      obtain ⟨queued, hupsert⟩ := upsertNotification_succeeds db ⟨source.orderID, source.merchantID,
        source.messageID, source.eventType, "email", "queued", source.correlationID, timestamptz audit.createdAt⟩
      exact ⟨_, _, bind_eq_ok.mpr ⟨queued, hupsert, rfl⟩⟩
    | recordCompensation source status audit =>
      obtain ⟨affected, heffects⟩ : ∃ affected, (db.updateOrder row.orderID fun o =>
          { o with status := status, updatedAt := timestamptz audit.createdAt }).applyCompensationEffects
            source audit.createdAt = .ok affected := applyCompensationEffects_succeeds audit.createdAt h
      obtain ⟨recorded, hupsert⟩ := upsertCompensation_succeeds affected ⟨source.orderID, source.merchantID,
        source.messageID, source.eventType, audit.action, status, "recorded", source.correlationID,
        timestamptz audit.createdAt⟩
      exact ⟨_, _, bind_eq_ok.mpr ⟨affected, heffects, bind_eq_ok.mpr ⟨recorded, hupsert, rfl⟩⟩⟩

/-! ### Refused calls -/

theorem releasable_of_release (h : db.releaseReservedStock orderID at' = .ok db') : db.Releasable orderID := by
  obtain ⟨_, hitems, -⟩ := bind_eq_ok.mp h
  obtain ⟨_, hensure, -⟩ := bind_eq_ok.mp hitems
  intro stock hstock quantity hheld
  have hfits := List.all_eq_true.mp (ensure_eq_ok.mp hensure) stock hstock
  rw [hheld] at hfits
  exact hfits

theorem releasable_of_compensation (h : db.applyCompensationEffects source at' = .ok db')
    (htype : source.eventType = .paymentFailed ∨ source.eventType = .shipmentFailed) :
    db.Releasable source.orderID := by
  unfold applyCompensationEffects at h
  split at h
  · exact releasable_of_release h
  · obtain ⟨_, hrelease, -⟩ := bind_eq_ok.mp h
    exact releasable_of_release hrelease
  · rename_i hpayment hshipment
    exact (htype.elim hpayment hshipment).elim

theorem authorizationFree_of_upsert {new : PaymentAuthorization} (h : db.upsertPaymentAuthorization new = .ok db') :
    db.AuthorizationFree new.authorizationID new.orderID := by
  obtain ⟨payments, -, -, hupsert, -⟩ := upsertPaymentAuthorization_eq_ok h
  intro old hold hid
  by_contra hother
  have hapart : new.conflict old = false := by
    apply Table.apart_of_upsert PaymentAuthorization.conflict_symm _ _ _ hupsert hold (decide_eq_false hother)
    · exact fun _ _ _ => rfl
    · exact decide_eq_true rfl
    · exact fun _ _ => decide_eq_true rfl
  exact of_decide_eq_false hapart (.inl hid.symm)

theorem shipmentFree_of_upsert {next : OutboxEvent} {shipment : Shipment}
    (h : db.upsertShipment (shipmentRow source next shipment) = .ok db') :
    db.ShipmentFree shipment source.orderID := by
  obtain ⟨shipments, -, hupsert, -⟩ := upsertShipment_eq_ok h
  intro old hold hid
  by_contra hother
  have hapart : (shipmentRow source next shipment).conflict old = false := by
    apply Table.apart_of_upsert ShipmentRow.conflict_symm _ _ _ hupsert hold (decide_eq_false hother)
    · exact fun _ _ _ => rfl
    · exact decide_eq_true rfl
    · exact fun _ _ => decide_eq_true rfl
  exact of_decide_eq_false hapart (hid.elim (fun hid => .inl hid.symm) fun htracking => .inr (.inr htracking.symm))

theorem admits_of_statements {event : Option OutboxEvent} (htx : c.transaction = some (row.orderID, tx))
    (h : tx.statements db row = .ok (event, db')) : db.Admits row c := by
  cases c with
  | insertOrder => cases htx
  | getOrder => cases htx
  | updateOrderStatus orderID status now event audit => trivial
  | projector c =>
    obtain ⟨hsource, rfl⟩ := Prod.mk.inj (Option.some.inj htx)
    cases c with
    | recordInventoryReserved source next audit =>
      obtain ⟨items, hitems, h⟩ := bind_eq_ok.mp h
      obtain ⟨hne, rfl⟩ := orderItemsForReservation_eq_ok hitems
      obtain ⟨⟨entries, reserved⟩, hlines, -⟩ := bind_eq_ok.mp h
      refine ⟨hne, ?_⟩
      cases hrefusal : db.refusal source.merchantID source.orderID (db.itemsOf row.orderID) with
      | none => rfl
      | some verdict =>
        obtain ⟨err, herr, -⟩ := reserveLines_refused (skus_itemsOf db row.orderID) hrefusal
        cases herr.symm.trans hlines
    | recordPaymentAuthorized source next payment audit =>
      obtain ⟨authorized, hupsert, -⟩ := bind_eq_ok.mp h
      obtain ⟨payments, hstatus, hamount, -, -⟩ := upsertPaymentAuthorization_eq_ok hupsert
      exact ⟨hstatus, hamount, authorizationFree_of_upsert hupsert⟩
    | recordShipmentCreated source next shipment audit =>
      obtain ⟨shipped, hupsert, -⟩ := bind_eq_ok.mp h
      obtain ⟨shipments, hstatus, -, -⟩ := upsertShipment_eq_ok hupsert
      exact ⟨hstatus, shipmentFree_of_upsert hupsert⟩
    | recordOrderCancelled source next audit =>
      obtain ⟨released, hrelease, -⟩ := bind_eq_ok.mp h
      have hreleasable := releasable_of_release hrelease
      exact hreleasable
    | recordCompensation source status audit =>
      obtain ⟨affected, heffects, -⟩ := bind_eq_ok.mp h
      intro htype
      have hreleasable := releasable_of_compensation heffects htype
      exact hreleasable
    | recordInventoryRejected | recordPaymentFailed | recordShipmentFailed | recordNotificationQueued => trivial

/-! ### Shortage -/

theorem checkTarget_eq_error {status : OrderStatus} {target : Option OrderStatus} {err : Error}
    (h : MemoryStore.checkTarget status target = .error err) : ∃ text, err = .wrap .invalidStateTransition text := by
  cases target with
  | none => cases h
  | some next =>
    have hrefused : canTransitionOrderStatus status next = false := by
      apply Bool.eq_false_iff.mpr
      intro hallowed
      have hok : validateOrderTransition status next = .ok () := validateOrderTransition_eq_ok.mpr hallowed
      simp [MemoryStore.checkTarget, hok] at h
    obtain ⟨text, herror⟩ := validateOrderTransition_eq_error hrefused
    exact ⟨text, by simpa [MemoryStore.checkTarget, herror] using h.symm⟩

theorem is_of_insertNext {event : Option OutboxEvent} {err : Error} (h : db.insertNext event = .error err) :
    err.is .insufficientStock = false := by
  cases event with
  | none => cases h
  | some event =>
    cases hencodable : event.occurredAt.encodable with
    | false =>
      simp only [insertNext, insertOutboxEvent, hencodable] at h
      cases h
      rfl
    | true =>
      cases hinsert : db.outboxEvents.insert event.withEnvelopeDefaults with
      | none =>
        simp only [insertNext, insertOutboxEvent, hencodable, hinsert] at h
        cases h
        rfl
      | some outboxEvents =>
        cases horder : (db.order? event.orderID).isSome <;>
          simp only [insertNext, insertOutboxEvent, hencodable, hinsert, horder] at h <;> cases h
        rfl

/-- A reservation fails for want of stock exactly when the order may be reserved, has lines, and the first of them that
is refused is short. -/
theorem shortage_iff {next : OutboxEvent} (audit : AuditLog) (hrow : db.order? source.orderID = some row) :
    (∃ err, db.transact source.orderID (.inventoryReserved source next) audit = .error err ∧
        err.is .insufficientStock = true) ↔
      canTransitionOrderStatus row.status .inventoryReserved = true ∧ db.itemsOf source.orderID ≠ [] ∧
        db.refusal source.merchantID source.orderID (db.itemsOf source.orderID) = some .short := by
  have hid := (order?_eq_some hrow).2
  have hlock : db.lockOrderForUpdate source.orderID = .ok row := lockOrderForUpdate_eq_ok.mpr hrow
  have hskus := skus_itemsOf db source.orderID
  constructor
  · rintro ⟨err, h, hshort⟩
    simp only [transact, hlock, Transaction.inventoryReserved, hid, bind, Except.bind] at h
    cases hcheck : MemoryStore.checkTarget row.status (some .inventoryReserved) with
    | error refused =>
      simp only [hcheck, Except.error.injEq] at h
      obtain ⟨text, rfl⟩ := checkTarget_eq_error hcheck
      rw [← h] at hshort
      cases hshort
    | ok =>
      have htarget := MemoryStore.checkTarget_eq_ok.mp hcheck _ rfl
      by_cases hlines : db.itemsOf source.orderID = []
      · simp only [hcheck, orderItemsForReservation, hlines, if_true, Except.error.injEq] at h
        rw [← h] at hshort
        cases hshort
      · refine ⟨htarget, hlines, ?_⟩
        simp only [hcheck, orderItemsForReservation, hlines, if_false] at h
        cases hrefusal : db.refusal source.merchantID source.orderID (db.itemsOf source.orderID) with
        | none =>
          obtain ⟨entries, reserved, hreserve⟩ : ∃ entries reserved, reserveLines source next.occurredAt
              (db.itemsOf source.orderID) db = .ok (entries, reserved) := reserveLines_granted hskus hrefusal
          simp only [hreserve, pure, Except.pure] at h
          split at h
          · rename_i refused hinsert
            have hunrelated := is_of_insertNext hinsert
            rw [Except.error.inj h, hshort] at hunrelated
            cases hunrelated
          · cases h
        | some verdict =>
          obtain ⟨refused, hreserve, hrefused⟩ : ∃ refused, reserveLines source next.occurredAt
              (db.itemsOf source.orderID) db = .error refused ∧
                refused.is .insufficientStock = decide (verdict = .short) := reserveLines_refused hskus hrefusal
          simp only [hreserve, Except.error.injEq] at h
          rw [h, hshort] at hrefused
          rw [of_decide_eq_true hrefused.symm]
  · rintro ⟨htarget, hlines, hrefusal⟩
    obtain ⟨err, hreserve, herr⟩ : ∃ err, reserveLines source next.occurredAt (db.itemsOf source.orderID) db =
        .error err ∧ err.is .insufficientStock = decide (LineVerdict.short = .short) :=
      reserveLines_refused hskus hrefusal
    have hcheck : MemoryStore.checkTarget row.status (some .inventoryReserved) = .ok () :=
      MemoryStore.checkTarget_eq_ok.mpr (by rintro _ ⟨⟩; exact htarget)
    refine ⟨err, ?_, herr⟩
    simp [transact, hlock, Transaction.inventoryReserved, hcheck, orderItemsForReservation, hid, hlines, hreserve, bind,
      Except.bind]

end Database

end FulfillHub
