import FulfillHub.Library.Mirror
import FulfillHub.Postgres.Saga

/-!
# Mirrored projections

The payment of an order is kept in its row and in `payment_authorizations`, the reservation of a line in
`order_items` and in `stock_reservations`. Each transaction writes both sides or neither, with two exceptions: a
failed payment and a rejected reservation are entered on the side of the order alone. That is right as long as
there is nothing on the other side, and there is not: a row there means that the stage has been announced, and a
stage has one outcome.
-/

namespace FulfillHub

open Interaction Relational

variable {orderID : String} {f : OrderColumns → OrderColumns} {order : OrderRow} {item : OrderItemRow}

/-! ### Payments -/

/-- The authorization of an order. -/
def OrderRow.isPaidBy (order : OrderRow) (payment : PaymentAuthorization) : Prop :=
  payment.orderID = order.orderID

/-- The columns of an order repeat its authorization. -/
structure OrderRow.RepeatsPayment (order : OrderRow) (payment : PaymentAuthorization) : Prop where
  status : order.paymentStatus = some payment.status
  settled : payment.status = .authorized ∨ payment.status = .voided
  authorizationID : order.paymentAuthorizationID = some payment.authorizationID
  amount : payment.amount = order.totalAmount
  currency : payment.currency = order.currency

def OrderRow.ClaimsPayment (order : OrderRow) : Prop :=
  order.paymentStatus = some .authorized ∨ order.paymentStatus = some .voided

abbrev Database.PaymentsMirrored (db : Database) : Prop :=
  Mirrors OrderRow.isPaidBy OrderRow.RepeatsPayment OrderRow.ClaimsPayment db.orders.rows
    db.paymentAuthorizations.rows

/-- The call that enters a failed payment. -/
def StoreCall.fails : StoreCall → Bool
  | .projector (.recordPaymentFailed _ _ _) => true
  | _ => false

theorem StoreCall.sets_payment {c : StoreCall} {row : OrderRow} (hauthorizes : c.authorizes = false)
    (hfails : c.fails = false) (o : OrderColumns) : (c.sets row o).paymentStatus = o.paymentStatus ∧
      (c.sets row o).paymentAuthorizationID = o.paymentAuthorizationID := by
  cases c with
  | projector c =>
    cases c with
    | recordPaymentAuthorized => cases hauthorizes
    | recordPaymentFailed => cases hfails
    | _ => exact ⟨rfl, rfl⟩
  | _ => exact ⟨rfl, rfl⟩

theorem OrderRow.setColumns_of_ne (h : order.orderID ≠ orderID) : setColumns orderID f order = order := by
  rw [setColumns, if_neg h]

theorem OrderRow.setColumns_of_eq (h : order.orderID = orderID) :
    setColumns orderID f order = { order with toOrderColumns := f order.toOrderColumns } := by
  rw [setColumns, if_pos h]

@[simp] theorem OrderRow.orderID_setColumns (orderID : String) (f : OrderColumns → OrderColumns)
    (order : OrderRow) : (setColumns orderID f order).orderID = order.orderID := by
  unfold setColumns
  split_ifs <;> rfl

namespace Database

variable {db db' : Database} {row : OrderRow} {c : StoreCall}

theorem eq_of_orderID_eq {a b : OrderRow} (ha : a ∈ db.orders.rows) (hb : b ∈ db.orders.rows)
    (h : a.orderID = b.orderID) : a = b :=
  Table.eq_of_conflict OrderRow.conflict_symm ha hb (by simp [OrderRow.conflict, h])

theorem isPaidBy_setColumns (f : OrderColumns → OrderColumns) (order : OrderRow)
    (payment : PaymentAuthorization) : (order.setColumns row.orderID f).isPaidBy payment ↔ order.isPaidBy payment := by
  simp [OrderRow.isPaidBy]

theorem PaymentsMirrored.kept (h : db.PaymentsMirrored) (hstatus : ∀ o, (f o).paymentStatus = o.paymentStatus)
    (hid : ∀ o, (f o).paymentAuthorizationID = o.paymentAuthorizationID)
    (horders : db'.orders.rows = db.orders.rows.map (OrderRow.setColumns row.orderID f))
    (hpayments : db'.paymentAuthorizations.rows = db.paymentAuthorizations.rows) : db'.PaymentsMirrored := by
  unfold PaymentsMirrored
  rw [horders, hpayments, ← List.map_id db.paymentAuthorizations.rows]
  apply h.map
  · intro order payment
    exact isPaidBy_setColumns f order payment
  · intro order payment _ hrepeats
    by_cases horder : order.orderID = row.orderID
    · rw [OrderRow.setColumns_of_eq horder]
      exact ⟨(hstatus _).trans hrepeats.status, hrepeats.settled, (hid _).trans hrepeats.authorizationID,
        hrepeats.amount, hrepeats.currency⟩
    · rw [OrderRow.setColumns_of_ne horder]
      exact hrepeats
  · intro order hclaims
    by_cases horder : order.orderID = row.orderID
    · rw [OrderRow.setColumns_of_eq horder] at hclaims
      simpa [OrderRow.ClaimsPayment, hstatus] using hclaims
    · rwa [OrderRow.setColumns_of_ne horder] at hclaims

theorem PaymentsMirrored.failed (h : db.PaymentsMirrored) (hfailed : ∀ o, (f o).paymentStatus = some .failed)
    (hnone : ∀ payment ∈ db.paymentAuthorizations.rows, payment.orderID ≠ row.orderID)
    (horders : db'.orders.rows = db.orders.rows.map (OrderRow.setColumns row.orderID f))
    (hpayments : db'.paymentAuthorizations.rows = db.paymentAuthorizations.rows) : db'.PaymentsMirrored := by
  unfold PaymentsMirrored
  rw [horders, hpayments]
  apply h.overwrite fun order => order.orderID = row.orderID
  · exact isPaidBy_setColumns f
  · exact fun _ => OrderRow.setColumns_of_ne
  · exact fun _ _ _ _ _ => Iff.rfl
  · intro order _ horder payment hpayment hpaid
    exact absurd (hpaid.trans horder) (hnone payment hpayment)
  · intro order _ horder hclaims
    rw [OrderRow.setColumns_of_eq horder] at hclaims
    simp [OrderRow.ClaimsPayment, hfailed] at hclaims

theorem voidedColumns_status (o : OrderColumns) : (voidedColumns o).paymentStatus =
    if o.paymentStatus = some .authorized then some .voided else o.paymentStatus := by
  unfold voidedColumns
  split_ifs <;> rfl

theorem voidedColumns_authorizationID (o : OrderColumns) :
    (voidedColumns o).paymentAuthorizationID = o.paymentAuthorizationID := by
  unfold voidedColumns
  split_ifs <;> rfl

theorem PaymentsMirrored.voided (h : db.PaymentsMirrored) {at' : Time}
    (hstatus : ∀ o, (f o).paymentStatus = if o.paymentStatus = some .authorized then some .voided else o.paymentStatus)
    (hid : ∀ o, (f o).paymentAuthorizationID = o.paymentAuthorizationID)
    (horders : db'.orders.rows = db.orders.rows.map (OrderRow.setColumns row.orderID f))
    (hpayments : db'.paymentAuthorizations.rows =
      db.paymentAuthorizations.rows.map (PaymentAuthorization.void row.orderID at')) :
    db'.PaymentsMirrored := by
  have horderID : ∀ payment : PaymentAuthorization, (payment.void row.orderID at').orderID = payment.orderID := by
    intro payment
    unfold PaymentAuthorization.void
    split_ifs <;> rfl
  unfold PaymentsMirrored
  rw [horders, hpayments]
  apply h.map
  · intro order payment
    simp [OrderRow.isPaidBy, horderID]
  · intro order payment hpaid hrepeats
    by_cases horder : order.orderID = row.orderID
    · rw [OrderRow.setColumns_of_eq horder]
      have hsame : payment.orderID = row.orderID := hpaid.trans horder
      rcases hrepeats.settled with hauthorized | hvoided
      · rw [PaymentAuthorization.void, if_pos ⟨hsame, hauthorized⟩]
        refine ⟨?_, .inr rfl, (hid _).trans hrepeats.authorizationID, hrepeats.amount, hrepeats.currency⟩
        rw [hstatus, if_pos (hrepeats.status.trans (congrArg some hauthorized))]
      · rw [PaymentAuthorization.void, if_neg (by simp [hvoided])]
        refine ⟨?_, .inr hvoided, (hid _).trans hrepeats.authorizationID, hrepeats.amount, hrepeats.currency⟩
        rw [hstatus, hrepeats.status, hvoided, if_neg (by simp)]
    · have hother : ¬ (payment.orderID = row.orderID ∧ payment.status = .authorized) := fun hboth =>
        horder (hpaid.symm.trans hboth.1)
      rw [OrderRow.setColumns_of_ne horder, PaymentAuthorization.void, if_neg hother]
      exact hrepeats
  · intro order hclaims
    by_cases horder : order.orderID = row.orderID
    · rw [OrderRow.setColumns_of_eq horder] at hclaims
      unfold OrderRow.ClaimsPayment at hclaims ⊢
      simp only [hstatus] at hclaims
      split_ifs at hclaims with hauthorized
      · exact .inl hauthorized
      · exact hclaims
    · rwa [OrderRow.setColumns_of_ne horder] at hclaims

/-- The order and its authorization are entered together. -/
theorem PaymentsMirrored.authorized (h : db.PaymentsMirrored) {source next : OutboxEvent} {payment : Payment}
    (hrow : row ∈ db.orders.rows) (hsource : source.orderID = row.orderID)
    (hstatus : admitsAuthorizationStatus payment.status = true)
    (hcolumns : ∀ o, (f o).paymentStatus = some payment.status ∧
      (f o).paymentAuthorizationID = some payment.authorizationID)
    (horders : db'.orders.rows = db.orders.rows.map (OrderRow.setColumns row.orderID f))
    (hpayments : db.paymentAuthorizations.upsert (fun old => old.orderID = source.orderID)
      (fun old => { authorizationRow source next payment row with merchantID := old.merchantID })
      (authorizationRow source next payment row) = some db'.paymentAuthorizations) :
    db'.PaymentsMirrored := by
  have hsettled : payment.status = .authorized ∨ payment.status = .voided := by
    revert hstatus
    cases payment.status <;> simp [admitsAuthorizationStatus]
  unfold PaymentsMirrored
  rw [horders]
  apply h.overwrite fun order => order.orderID = row.orderID
  · exact isPaidBy_setColumns f
  · exact fun _ => OrderRow.setColumns_of_ne
  · intro order _ hother old hpaid
    have hne : old.orderID ≠ source.orderID := fun heq => hother (hpaid.symm.trans (heq.trans hsource))
    constructor
    · intro hmem
      rcases Table.mem_upsert hpayments hmem with rfl | ⟨hold, _⟩ | ⟨_, _, _, rfl⟩
      · exact absurd rfl hne
      · exact hold
      · exact absurd rfl hne
    · intro hold
      exact Table.mem_upsert_of_not_target hpayments hold (decide_eq_false hne)
  · intro order hmem horder new hnew hpaid
    cases eq_of_orderID_eq hmem hrow horder
    rw [OrderRow.setColumns_of_eq rfl]
    obtain ⟨hcolstatus, hcolid⟩ := hcolumns row.toOrderColumns
    rcases Table.mem_upsert hpayments hnew with rfl | ⟨_, hmiss⟩ | ⟨_, _, _, rfl⟩
    · exact ⟨hcolstatus, hsettled, hcolid, rfl, rfl⟩
    · exact absurd (hpaid.trans hsource.symm) (of_decide_eq_false hmiss)
    · exact ⟨hcolstatus, hsettled, hcolid, rfl, rfl⟩
  · intro order _ horder _
    obtain ⟨new, hnew, rfl | ⟨_, _, _, rfl⟩⟩ := Table.exists_mem_upsert hpayments
    · exact ⟨_, hnew, hsource.trans horder.symm⟩
    · exact ⟨_, hnew, hsource.trans horder.symm⟩

theorem PaymentsMirrored.written (h : db.PaymentsMirrored) {tx : Transaction}
    (htx : c.transaction = some (row.orderID, tx)) (hrow : row ∈ db.orders.rows)
    (hfails : c.fails = true → ∀ payment ∈ db.paymentAuthorizations.rows, payment.orderID ≠ row.orderID)
    (hwritten : Written db row c db') : db'.PaymentsMirrored := by
  have horders := hwritten.orders
  cases hwritten.payments with
  | same _ _ hauthorizes hvoids hpayments =>
    rw [StoreCall.columns_of_not_voids hvoids] at horders
    cases hcase : c.fails with
    | true =>
      refine h.failed ?_ (hfails hcase) horders (congrArg Table.rows hpayments)
      cases c with
      | projector c => cases c <;> first | exact fun _ => rfl | cases hcase
      | _ => cases hcase
    | false =>
      exact h.kept (fun o => (StoreCall.sets_payment hauthorizes hcase o).1)
        (fun o => (StoreCall.sets_payment hauthorizes hcase o).2) horders (congrArg Table.rows hpayments)
  | authorized source next payment audit _ hstatus hpayments =>
    rw [StoreCall.columns_of_not_voids rfl] at horders
    exact h.authorized hrow (Prod.mk.inj (Option.some.inj htx)).1 hstatus (fun o => ⟨rfl, rfl⟩) horders hpayments
  | voided _ _ at' hvoids hpayments =>
    rw [StoreCall.columns_of_voids hvoids] at horders
    have hsets : ∀ o, (c.sets row o).paymentStatus = o.paymentStatus ∧
        (c.sets row o).paymentAuthorizationID = o.paymentAuthorizationID := by
      apply StoreCall.sets_payment
      · cases c with
        | projector c => cases c <;> first | rfl | cases hvoids
        | _ => rfl
      · cases c with
        | projector c => cases c <;> first | rfl | cases hvoids
        | _ => rfl
    refine h.voided ?_ ?_ horders hpayments
    · intro o
      rw [voidedColumns_status, (hsets o).1]
    · intro o
      rw [voidedColumns_authorizationID, (hsets o).2]

end Database

/-! ### Stock -/

/-- The reservation of a line. -/
def OrderItemRow.isHeldBy (item : OrderItemRow) (reservation : StockReservation) : Prop :=
  reservation.orderID = item.orderID ∧ reservation.sku = item.sku

/-- The status of a line whose reservation has a status. -/
def StockStatus.ofLine : StockStatus → ReservationStatus
  | .reserved => .reserved
  | .released => .released

theorem StockStatus.ofLine_injective : Function.Injective ofLine := by
  intro a b h
  cases a <;> cases b <;> first | rfl | cases h

structure OrderItemRow.RepeatsReservation (item : OrderItemRow) (reservation : StockReservation) : Prop where
  status : item.reservationStatus = reservation.status.ofLine
  quantity : reservation.quantity = item.quantity

def OrderItemRow.ClaimsReservation (item : OrderItemRow) : Prop :=
  item.reservationStatus = .reserved ∨ item.reservationStatus = .released

abbrev Database.StockMirrored (db : Database) : Prop :=
  Mirrors OrderItemRow.isHeldBy OrderItemRow.RepeatsReservation OrderItemRow.ClaimsReservation db.orderItems.rows
    db.stockReservations.rows

/-- The call that enters a rejected reservation. -/
def StoreCall.rejects : StoreCall → Bool
  | .projector (.recordInventoryRejected _ _ _) => true
  | _ => false

theorem OrderItemRow.setStatus_of_ne {f : ReservationStatus → ReservationStatus} (h : item.orderID ≠ orderID) :
    setStatus orderID f item = item := by
  rw [setStatus, if_neg h]

theorem OrderItemRow.setStatus_of_eq {f : ReservationStatus → ReservationStatus} (h : item.orderID = orderID) :
    setStatus orderID f item = { item with reservationStatus := f item.reservationStatus } := by
  rw [setStatus, if_pos h]

theorem OrderItemRow.isHeldBy_setStatus (orderID : String) (f : ReservationStatus → ReservationStatus)
    (item : OrderItemRow) (reservation : StockReservation) :
    (item.setStatus orderID f).isHeldBy reservation ↔ item.isHeldBy reservation := by
  unfold setStatus
  split_ifs <;> exact Iff.rfl

namespace Database

variable {db db' : Database} {row : OrderRow} {c : StoreCall}

theorem StockMirrored.rejected (h : db.StockMirrored)
    (hnone : ∀ reservation ∈ db.stockReservations.rows, reservation.orderID ≠ row.orderID)
    (hitems : db'.orderItems.rows =
      db.orderItems.rows.map (OrderItemRow.setStatus row.orderID fun _ => .rejected))
    (hreservations : db'.stockReservations = db.stockReservations) : db'.StockMirrored := by
  unfold StockMirrored
  rw [hitems, hreservations]
  apply h.overwrite fun item => item.orderID = row.orderID
  · exact OrderItemRow.isHeldBy_setStatus _ _
  · exact fun _ => OrderItemRow.setStatus_of_ne
  · exact fun _ _ _ _ _ => Iff.rfl
  · intro item _ hitem reservation hreservation hheld
    exact absurd (hheld.1.trans hitem) (hnone reservation hreservation)
  · intro item _ hitem hclaims
    rw [OrderItemRow.setStatus_of_eq hitem] at hclaims
    rcases hclaims with hclaims | hclaims <;> cases hclaims

theorem StockMirrored.released (h : db.StockMirrored) {at' : Time}
    (hitems : db'.orderItems.rows =
      db.orderItems.rows.map (OrderItemRow.setStatus row.orderID releasedStatus))
    (hreservations : db'.stockReservations.rows =
      db.stockReservations.rows.map (StockReservation.release row.orderID at')) : db'.StockMirrored := by
  have hkey : ∀ (item : OrderItemRow) (reservation : StockReservation),
      item.isHeldBy (reservation.release row.orderID at') ↔ item.isHeldBy reservation := by
    intro item reservation
    unfold StockReservation.release
    split_ifs <;> exact Iff.rfl
  unfold StockMirrored
  rw [hitems, hreservations]
  apply h.map
  · intro item reservation
    rw [OrderItemRow.isHeldBy_setStatus, hkey]
  · intro item reservation hheld hrepeats
    by_cases hitem : item.orderID = row.orderID
    · have hsame : reservation.orderID = row.orderID := hheld.1.trans hitem
      rw [OrderItemRow.setStatus_of_eq hitem]
      have hstatus := hrepeats.status
      cases hcase : reservation.status with
      | reserved =>
        rw [StockReservation.release, if_pos ⟨hsame, by simp [hcase]⟩]
        refine ⟨?_, hrepeats.quantity⟩
        rw [hcase] at hstatus
        simp only [hstatus]
        rfl
      | released =>
        rw [StockReservation.release, if_neg (by simp [hcase])]
        refine ⟨?_, hrepeats.quantity⟩
        rw [hcase] at hstatus
        simp only [hstatus, hcase]
        rfl
    · have hother : ¬ (reservation.orderID = row.orderID ∧ reservation.status ≠ .released) := fun hboth =>
        hitem (hheld.1.symm.trans hboth.1)
      rw [OrderItemRow.setStatus_of_ne hitem, StockReservation.release, if_neg hother]
      exact hrepeats
  · intro item hclaims
    by_cases hitem : item.orderID = row.orderID
    · rw [OrderItemRow.setStatus_of_eq hitem] at hclaims
      unfold OrderItemRow.ClaimsReservation releasedStatus at *
      simp only at hclaims
      split_ifs at hclaims with hreserved
      · exact .inl hreserved
      · exact hclaims
    · rwa [OrderItemRow.setStatus_of_ne hitem] at hclaims

/-- The lines and their reservations are entered together. -/
theorem StockMirrored.reserved (h : db.StockMirrored) {reserved : Database}
    (hentered : Entered row.orderID (db.itemsOf row.orderID) db reserved)
    (hitems : db'.orderItems.rows =
      db.orderItems.rows.map (OrderItemRow.setStatus row.orderID fun _ => .reserved))
    (hreservations : db'.stockReservations = reserved.stockReservations) : db'.StockMirrored := by
  have hlisted : ∀ item ∈ db.orderItems.rows, item.orderID = row.orderID → item ∈ db.itemsOf row.orderID := by
    intro item hmem horder
    exact List.mem_filter.mpr ⟨hmem, decide_eq_true horder⟩
  unfold StockMirrored
  rw [hitems, hreservations]
  apply h.overwrite fun item => item.orderID = row.orderID
  · exact OrderItemRow.isHeldBy_setStatus _ _
  · exact fun _ => OrderItemRow.setStatus_of_ne
  · intro item _ hother reservation hheld
    apply hentered.kept
    rintro ⟨_, _, horder, _⟩
    exact hother (hheld.1.symm.trans horder)
  · intro item hmem horder reservation hreservation hheld
    obtain ⟨line, hline, hsku, hquantity, hstatus⟩ := hentered.entered reservation hreservation
      ⟨item, hlisted item hmem horder, hheld.1.trans horder, hheld.2⟩
    obtain ⟨hstored, hof⟩ := List.mem_filter.mp hline
    have hsame : line = item := by
      apply Table.eq_of_conflict OrderItemRow.conflict_symm hstored hmem
      apply decide_eq_true
      exact ⟨(of_decide_eq_true hof).trans horder.symm, hsku.symm.trans hheld.2⟩
    rw [OrderItemRow.setStatus_of_eq horder]
    exact ⟨by rw [hstatus]; rfl, hsame ▸ hquantity⟩
  · intro item hmem horder _
    obtain ⟨reservation, hreservation, hof, hsku⟩ := hentered.complete item (hlisted item hmem horder)
    exact ⟨reservation, hreservation, hof.trans horder.symm, hsku⟩

theorem StockMirrored.written (h : db.StockMirrored) {tx : Transaction}
    (htx : c.transaction = some (row.orderID, tx))
    (hrejects : c.rejects = true → ∀ reservation ∈ db.stockReservations.rows, reservation.orderID ≠ row.orderID)
    (hwritten : Written db row c db') : db'.StockMirrored := by
  have hitems := hwritten.orderItems
  cases hwritten.stock with
  | same _ _ hreserves hreleases _ hreservations =>
    cases hcase : c.rejects with
    | true =>
      have hmarks : c.marks = fun _ => .rejected := by
        cases c with
        | projector c => cases c <;> first | rfl | cases hcase
        | _ => cases hcase
      rw [hmarks] at hitems
      exact h.rejected (hrejects hcase) hitems hreservations
    | false =>
      have hmarks : c.marks = fun status => status := by
        funext status
        unfold StoreCall.marks
        split
        · cases hreserves
        · cases hcase
        · rw [if_neg (Bool.eq_false_iff.mp hreleases)]
      rw [hmarks, marks_same] at hitems
      unfold StockMirrored
      rw [hitems, hreservations]
      exact h
  | reserved source next audit entries reserved _ _ hreserve _ hreservations =>
    have hsource : source.orderID = row.orderID := (Prod.mk.inj (Option.some.inj htx)).1
    have hentered := entered_of_reserveLines hreserve
    rw [hsource] at hentered
    exact h.reserved hentered hitems hreservations
  | released _ _ at' hreleases _ hreservations =>
    rw [StoreCall.marks_of_releases hreleases] at hitems
    exact h.released hitems hreservations

end Database

/-! ### What the mirrors say -/

theorem Database.PaymentsMirrored.status_iff {db : Database} (h : db.PaymentsMirrored)
    (horder : order ∈ db.orders.rows) {status : PaymentStatus} (hstatus : status = .authorized ∨ status = .voided) :
    order.paymentStatus = some status ↔
      ∃ payment ∈ db.paymentAuthorizations.rows, payment.orderID = order.orderID ∧ payment.status = status := by
  constructor
  · intro hclaims
    obtain ⟨payment, hpayment, hpaid⟩ := h.backed order horder (by
      rcases hstatus with rfl | rfl
      · exact .inl hclaims
      · exact .inr hclaims)
    have hrepeats := h.agree order horder payment hpayment hpaid
    exact ⟨payment, hpayment, hpaid, Option.some.inj (hrepeats.status.symm.trans hclaims)⟩
  · rintro ⟨payment, hpayment, hpaid, rfl⟩
    exact (h.agree order horder payment hpayment hpaid).status

theorem Database.StockMirrored.status_iff {db : Database} (h : db.StockMirrored) (hitem : item ∈ db.orderItems.rows)
    (status : StockStatus) : item.reservationStatus = status.ofLine ↔
      ∃ reservation ∈ db.stockReservations.rows, reservation.orderID = item.orderID ∧
        reservation.sku = item.sku ∧ reservation.status = status := by
  constructor
  · intro hclaims
    obtain ⟨reservation, hreservation, hheld⟩ := h.backed item hitem (by
      cases status with
      | reserved => exact .inl hclaims
      | released => exact .inr hclaims)
    have hrepeats := h.agree item hitem reservation hreservation hheld
    exact ⟨reservation, hreservation, hheld.1, hheld.2, StockStatus.ofLine_injective (hrepeats.status.symm.trans hclaims)⟩
  · rintro ⟨reservation, hreservation, horder, hsku, rfl⟩
    exact (h.agree item hitem reservation hreservation ⟨horder, hsku⟩).status

end FulfillHub
