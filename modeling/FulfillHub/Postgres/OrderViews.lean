import FulfillHub.Fulfillment.Atomicity
import FulfillHub.Postgres.Admission
import FulfillHub.Postgres.Mirrors

/-!
# One order in two stores

The in-memory store edits an order in place, PostgreSQL rewrites columns of several tables. What both keep of an order,
its status, its lines and its payment, is `OrderView`, and each call makes of it what `OrderView.after` says: the
projections of the one store and the transactions of the other are two implementations of this. A call on a stored
order is checked against the same target status in both, so as long as no constraint of the database stands in the
way both accept it or both refuse it, and they go on agreeing.
-/

namespace FulfillHub

open Interaction Relational

/-! ### What both stores keep of an order -/

structure LineView where
  sku : String
  quantity : Int
  reservationStatus : ReservationStatus

@[ext] structure OrderView where
  status : OrderStatus
  lines : List LineView
  paymentStatus : PaymentStatus
  authorizationID : String

def Order.view (o : Order) : OrderView where
  status := o.status
  lines := o.items.map fun item => ⟨item.sku, item.quantity, item.reservationStatus⟩
  paymentStatus := (o.payment.map Payment.status).getD .blank
  authorizationID := (o.payment.map Payment.authorizationID).getD ""

namespace StoreCall

/-- The status a call moves its order to. -/
def target : StoreCall → Option OrderStatus
  | .updateOrderStatus _ status _ _ _ => some status
  | .projector (.recordInventoryReserved _ _ _) => some .inventoryReserved
  | .projector (.recordPaymentAuthorized _ _ _ _) => some .paymentAuthorized
  | .projector (.recordShipmentCreated _ _ _ _) => some .shipmentCreated
  | .projector (.recordOrderCancelled _ _ _) => some .cancelled
  | .projector (.recordCompensation _ status _) => some status
  | _ => none

/-- The payment of an order after a call. -/
def paymentAfter (c : StoreCall) (status : PaymentStatus) : PaymentStatus :=
  match c with
  | .projector (.recordPaymentAuthorized _ _ payment _) => payment.status
  | .projector (.recordPaymentFailed _ _ _) => .failed
  | _ => if c.voids ∧ status = .authorized then .voided else status

def authorizationAfter (c : StoreCall) (authorizationID : String) : String :=
  match c with
  | .projector (.recordPaymentAuthorized _ _ payment _) => payment.authorizationID
  | .projector (.recordPaymentFailed _ _ _) => ""
  | _ => authorizationID

end StoreCall

/-- What a call makes of an order. -/
def OrderView.after (c : StoreCall) (v : OrderView) : OrderView where
  status := c.target.getD v.status
  lines := v.lines.map fun line => { line with reservationStatus := c.marks line.reservationStatus }
  paymentStatus := c.paymentAfter v.paymentStatus
  authorizationID := c.authorizationAfter v.authorizationID

/-! ### The in-memory store -/

theorem view_releaseItems (o : Order) : o.releaseItems.view.lines =
    o.view.lines.map fun line => { line with reservationStatus := Database.releasedStatus line.reservationStatus } := by
  simp only [Order.view, Order.releaseItems, List.map_map]
  apply List.map_congr_left
  intro item _
  simp only [Function.comp, Order.releaseItem, Database.releasedStatus]
  split_ifs <;> rfl

theorem view_voidPayment (o : Order) : o.voidPayment.view.paymentStatus =
    (if o.view.paymentStatus = .authorized then .voided else o.view.paymentStatus) ∧
      o.voidPayment.view.authorizationID = o.view.authorizationID := by
  cases hpayment : o.payment with
  | none => simp [Order.view, Order.voidPayment, hpayment]
  | some payment =>
    by_cases hauthorized : payment.status = .authorized
    · simp [Order.view, Order.voidPayment, Order.voidedPayment, hpayment, hauthorized]
    · simp [Order.view, Order.voidPayment, Order.voidedPayment, hpayment, hauthorized]

theorem view_markItems (o : Order) (status : ReservationStatus) : (o.markItems status).view.lines =
    o.view.lines.map fun line => { line with reservationStatus := status } := by
  simp [Order.view, Order.markItems, List.map_map, Function.comp_def]

theorem view_compensation (source : OutboxEvent) (status : OrderStatus) (audit : AuditLog) (o : Order) :
    ((Projection.compensation source status audit).update o).view =
      o.view.after (.projector (.recordCompensation source status audit)) := by
  have hview : ((Projection.compensation source status audit).update o).view =
      { (Projection.compensate source.eventType o).view with status := status } := rfl
  rw [hview]
  by_cases hpayment : source.eventType = .paymentFailed
  · simp only [Projection.compensate, hpayment]
    apply OrderView.ext
    · rfl
    · rw [view_releaseItems, OrderView.after, StoreCall.marks_of_releases (by simp [StoreCall.releases, hpayment])]
    · simp [OrderView.after, StoreCall.paymentAfter, StoreCall.voids, hpayment, Order.view, Order.releaseItems]
    · rfl
  · by_cases hshipment : source.eventType = .shipmentFailed
    · simp only [Projection.compensate, hshipment]
      obtain ⟨hstatus, hid⟩ := view_voidPayment o.releaseItems
      apply OrderView.ext
      · rfl
      · rw [OrderView.after, StoreCall.marks_of_releases (by simp [StoreCall.releases, hshipment])]
        exact view_releaseItems o
      · refine hstatus.trans ?_
        simp [OrderView.after, StoreCall.paymentAfter, StoreCall.voids, hshipment]
        rfl
      · exact hid
    · have hsame : Projection.compensate source.eventType o = o := by
        unfold Projection.compensate
        split
        · contradiction
        · contradiction
        · rfl
      rw [hsame]
      apply OrderView.ext
      · rfl
      · simp [OrderView.after, StoreCall.marks, StoreCall.releases, hpayment, hshipment]
      · simp [OrderView.after, StoreCall.paymentAfter, StoreCall.voids, hshipment]
      · rfl

theorem view_update {c : StoreCall} {orderID : String} {p : Projection} (heffect : c.effect = some (orderID, p))
    (o : Order) : (p.update o).view = o.view.after c := by
  have hlines : o.view.lines.map (fun line => { line with reservationStatus := line.reservationStatus }) =
      o.view.lines := List.map_id _
  cases c with
  | insertOrder => cases heffect
  | getOrder => cases heffect
  | updateOrderStatus id status now event audit =>
    cases heffect
    exact OrderView.ext rfl hlines.symm rfl rfl
  | projector c =>
    obtain ⟨-, rfl⟩ := Prod.mk.inj (Option.some.inj heffect)
    cases c with
    | recordInventoryReserved source next audit =>
      exact OrderView.ext rfl (view_markItems o .reserved) rfl rfl
    | recordInventoryRejected source next audit =>
      exact OrderView.ext rfl (view_markItems o .rejected) rfl rfl
    | recordPaymentAuthorized source next payment audit =>
      have hpayment : (o.paymentWithProvider payment).status = payment.status ∧
          (o.paymentWithProvider payment).authorizationID = payment.authorizationID := by
        unfold Order.paymentWithProvider
        split_ifs
        · split <;> exact ⟨rfl, rfl⟩
        · exact ⟨rfl, rfl⟩
      exact OrderView.ext rfl hlines.symm hpayment.1 hpayment.2
    | recordPaymentFailed source next audit => exact OrderView.ext rfl hlines.symm rfl rfl
    | recordShipmentCreated source next shipment audit => exact OrderView.ext rfl hlines.symm rfl rfl
    | recordShipmentFailed source next audit => exact OrderView.ext rfl hlines.symm rfl rfl
    | recordOrderCancelled source next audit =>
      obtain ⟨hstatus, hid⟩ := view_voidPayment o.releaseItems
      refine OrderView.ext rfl (view_releaseItems o) ?_ hid
      exact hstatus.trans (by simp [OrderView.after, StoreCall.paymentAfter, StoreCall.voids]; rfl)
    | recordNotificationQueued source audit => exact OrderView.ext rfl hlines.symm rfl rfl
    | recordCompensation source status audit => exact view_compensation source status audit o

/-! ### PostgreSQL -/

def OrderItemRow.view (line : OrderItemRow) : LineView := ⟨line.sku, line.quantity, line.reservationStatus⟩

namespace Database

variable {db db' : Database} {row : OrderRow} {c : StoreCall}

theorem view_assemble (db : Database) (row : OrderRow) : (db.assemble row).view =
    ⟨row.status, (db.itemsOf row.orderID).map OrderItemRow.view, row.paymentStatus.getD .blank,
      row.paymentAuthorizationID.getD ""⟩ := by
  have hpayment : ((paymentOf row).map Payment.status).getD .blank = row.paymentStatus.getD .blank ∧
      ((paymentOf row).map Payment.authorizationID).getD "" = row.paymentAuthorizationID.getD "" := by
    unfold paymentOf
    split_ifs with hsome
    · exact ⟨rfl, rfl⟩
    · simp only [Bool.or_eq_true, not_or, Bool.not_eq_true, Option.isSome_eq_false_iff, Option.isNone_iff_eq_none] at hsome
      rw [hsome.1.2, hsome.2]
      exact ⟨rfl, rfl⟩
  apply OrderView.ext
  · rfl
  · simp [Order.view, assemble, OrderItemRow.view, Function.comp_def]
  · exact hpayment.1
  · exact hpayment.2

theorem columns_status (c : StoreCall) (row : OrderRow) (o : OrderColumns) :
    (c.columns row o).status = c.target.getD o.status := by
  have hsets : (c.sets row o).status = c.target.getD o.status := by
    cases c with
    | projector c => cases c <;> rfl
    | _ => rfl
  unfold StoreCall.columns
  split_ifs
  · rw [← hsets, voidedColumns]
    split_ifs <;> rfl
  · exact hsets

theorem columns_payment (c : StoreCall) (row : OrderRow) (o : OrderColumns) :
    (c.columns row o).paymentStatus.getD .blank = c.paymentAfter (o.paymentStatus.getD .blank) ∧
      (c.columns row o).paymentAuthorizationID.getD "" = c.authorizationAfter (o.paymentAuthorizationID.getD "") := by
  have hvoided : c.authorizes = false → c.fails = false →
      (c.paymentAfter (o.paymentStatus.getD .blank) =
        if c.voids ∧ o.paymentStatus.getD .blank = .authorized then .voided else o.paymentStatus.getD .blank) ∧
      c.authorizationAfter (o.paymentAuthorizationID.getD "") = o.paymentAuthorizationID.getD "" := by
    intro hauthorizes hfails
    cases c with
    | projector c =>
      cases c with
      | recordPaymentAuthorized => cases hauthorizes
      | recordPaymentFailed => cases hfails
      | _ => exact ⟨rfl, rfl⟩
    | _ => exact ⟨rfl, rfl⟩
  cases hauthorizes : c.authorizes with
  | true =>
    cases c with
    | projector c => cases c <;> first | exact ⟨rfl, rfl⟩ | cases hauthorizes
    | _ => cases hauthorizes
  | false =>
    cases hfails : c.fails with
    | true =>
      cases c with
      | projector c => cases c <;> first | exact ⟨rfl, rfl⟩ | cases hfails
      | _ => cases hfails
    | false =>
      obtain ⟨hstatus, hid⟩ := hvoided hauthorizes hfails
      have hsets : (c.sets row o).paymentStatus = o.paymentStatus ∧
          (c.sets row o).paymentAuthorizationID = o.paymentAuthorizationID :=
        StoreCall.sets_payment hauthorizes hfails o
      rw [hstatus, hid, StoreCall.columns]
      cases hvoids : c.voids with
      | false => simp [hsets]
      | true =>
        rw [if_pos rfl, voidedColumns_status, voidedColumns_authorizationID, hsets.1, hsets.2]
        refine ⟨?_, rfl⟩
        cases o.paymentStatus with
        | none => rfl
        | some status =>
          by_cases hauthorized : status = .authorized
          · simp [hauthorized]
          · simp [hauthorized]

theorem itemsOf_written {orderID : String} {f : ReservationStatus → ReservationStatus}
    (h : db'.orderItems.rows = db.orderItems.rows.map (OrderItemRow.setStatus orderID f)) :
    db'.itemsOf orderID = (db.itemsOf orderID).map fun line =>
      { line with reservationStatus := f line.reservationStatus } := by
  have hkey : (fun line : OrderItemRow => decide (line.orderID = orderID)) ∘ OrderItemRow.setStatus orderID f =
      fun line => decide (line.orderID = orderID) := by
    funext line
    simp only [Function.comp, OrderItemRow.setStatus]
    split_ifs <;> rfl
  rw [itemsOf, itemsOf, h, List.filter_map, hkey]
  apply List.map_congr_left
  intro line hline
  exact OrderItemRow.setStatus_of_eq (of_decide_eq_true (List.mem_filter.mp hline).2)

/-- The transaction of a call makes of an order what the call says. -/
theorem view_written (h : Written db row c db') :
    (db'.assemble (row.setColumns row.orderID (c.columns row))).view = (db.assemble row).view.after c := by
  have hlines := itemsOf_written h.orderItems
  obtain ⟨hpayment, hid⟩ := columns_payment c row row.toOrderColumns
  rw [OrderRow.setColumns_of_eq rfl, view_assemble, view_assemble]
  apply OrderView.ext
  · exact columns_status c row row.toOrderColumns
  · simp only [OrderView.after, hlines, List.map_map]
    rfl
  · exact hpayment
  · exact hid

/-! ### The rows of an order -/

/-- What the transactions on an order find of it. -/
structure Consistent (db : Database) (orderID : String) (row : OrderRow) : Prop where
  found : db.order? orderID = some row
  total : 0 ≤ row.totalAmount
  lines : db.itemsOf orderID ≠ []
  quantities : ∀ line ∈ db.itemsOf orderID, ∀ reservation ∈ db.stockReservations.rows,
    reservation.orderID = orderID → reservation.sku = line.sku → reservation.quantity = line.quantity

variable {orderID : String} {tx : Transaction}

theorem Consistent.quantities_written (h : db.Consistent orderID row)
    (htx : c.transaction = some (orderID, tx)) (hwritten : Written db row c db') {line : OrderItemRow}
    (hline : line ∈ db.itemsOf orderID) {reservation : StockReservation}
    (hreservation : reservation ∈ db'.stockReservations.rows) (horder : reservation.orderID = orderID)
    (hsku : reservation.sku = line.sku) : reservation.quantity = line.quantity := by
  have hid := (order?_eq_some h.found).2
  cases hwritten.stock with
  | same _ _ _ _ _ hreservations =>
    rw [hreservations] at hreservation
    exact h.quantities line hline reservation hreservation horder hsku
  | reserved source next audit entries reserved _ _ hlines _ hreservations =>
    have hsource : source.orderID = orderID := (Prod.mk.inj (Option.some.inj htx)).1
    have hentered := entered_of_reserveLines hlines
    rw [hid, hsource] at hentered
    rw [hreservations] at hreservation
    obtain ⟨other, hother, hothersku, hquantity, -⟩ := hentered.entered reservation hreservation
      ⟨line, hline, horder, hsku⟩
    have hsame : other = line := by
      obtain ⟨hmem, hof⟩ := List.mem_filter.mp hline
      obtain ⟨hmem', hof'⟩ := List.mem_filter.mp hother
      apply Table.eq_of_conflict OrderItemRow.conflict_symm hmem' hmem
      apply decide_eq_true
      exact ⟨(of_decide_eq_true hof').trans (of_decide_eq_true hof).symm, hothersku.symm.trans hsku⟩
    rw [hquantity, hsame]
  | released _ _ at' _ _ hreservations =>
    rw [hreservations] at hreservation
    obtain ⟨old, hold, rfl⟩ := List.mem_map.mp hreservation
    have hsame : (old.release row.orderID at').orderID = old.orderID ∧
        (old.release row.orderID at').sku = old.sku ∧ (old.release row.orderID at').quantity = old.quantity := by
      unfold StockReservation.release
      split_ifs <;> exact ⟨rfl, rfl, rfl⟩
    rw [hsame.2.2]
    exact h.quantities line hline old hold (hsame.1.symm.trans horder) (hsame.2.1.symm.trans hsku)

theorem Consistent.written (h : db.Consistent orderID row) (htx : c.transaction = some (orderID, tx))
    (hwritten : Written db row c db') :
    db'.Consistent orderID (row.setColumns row.orderID (c.columns row)) := by
  have hid := (order?_eq_some h.found).2
  have hitems := itemsOf_written (hid ▸ hwritten.orderItems)
  refine ⟨?_, ?_, ?_, ?_⟩
  · rw [order?_of_setColumns orderID hwritten.orders, h.found]
    rfl
  · rw [OrderRow.setColumns_of_eq rfl]
    exact h.total
  · rw [hitems]
    simpa using h.lines
  · intro line hline reservation hreservation horder hsku
    rw [hitems] at hline
    obtain ⟨old, hold, rfl⟩ := List.mem_map.mp hline
    exact h.quantities_written htx hwritten hold hreservation horder hsku

/-! ### Promised calls -/

/-- There is stock for every line the order does not hold yet, and the column has room for it. -/
def Stocked (db : Database) (merchantID orderID : String) : Prop :=
  ∀ line ∈ db.itemsOf orderID, db.holding orderID line = none → db.InStock merchantID line ∧
    ∀ stock ∈ db.inventoryItems.rows, fitsInt4 (stock.reservedQuantity + line.quantity) = true

/-- What is promised of the calls on an order: stock for its lines, ids of payments and shipments that no other order
uses, and quantities within the range of their columns. -/
def Promises (db : Database) (orderID : String) : StoreCall → Prop
  | .projector (.recordInventoryReserved source _ _) => db.Stocked source.merchantID orderID
  | .projector (.recordPaymentAuthorized _ _ payment _) =>
    payment.status = .authorized ∧ db.AuthorizationFree payment.authorizationID orderID
  | .projector (.recordShipmentCreated _ _ shipment _) =>
    shipment.status = .created ∧ db.ShipmentFree shipment orderID
  | .projector (.recordOrderCancelled _ _ _) | .projector (.recordCompensation _ _ _) => db.Releasable orderID
  | .updateOrderStatus .. | .projector (.recordInventoryRejected _ _ _) | .projector (.recordPaymentFailed _ _ _)
  | .projector (.recordShipmentFailed _ _ _) => True
  | .projector (.recordNotificationQueued _ _) | .insertOrder .. | .getOrder _ => False

theorem stockVerdict_granted {merchantID : String} {line : OrderItemRow} (hstock : db.InStock merchantID line)
    (hfits : ∀ stock ∈ db.inventoryItems.rows, fitsInt4 (stock.reservedQuantity + line.quantity) = true) :
    db.stockVerdict merchantID line = .granted := by
  obtain ⟨stock, hchoice⟩ := exists_choice hstock
  rw [stockVerdict, hchoice]
  exact if_pos (hfits stock (best_of_choice hchoice).stored)

theorem Consistent.refusal_eq_none (h : db.Consistent orderID row) {merchantID : String}
    (hstocked : db.Stocked merchantID orderID) : db.refusal merchantID orderID (db.itemsOf orderID) = none := by
  apply List.find?_eq_none.mpr
  intro verdict hverdict
  obtain ⟨line, hline, rfl⟩ := List.mem_map.mp hverdict
  have hgranted : db.verdict merchantID orderID line = .granted := by
    unfold verdict
    split
    · rename_i held hheld
      obtain ⟨hreservation, -⟩ := Option.filter_eq_some_iff.mp hheld
      have hmem := List.mem_of_find?_eq_some hreservation
      have hkey := List.find?_some hreservation
      simp only [Bool.and_eq_true, decide_eq_true_eq] at hkey
      exact if_pos (h.quantities line hline held hmem hkey.1 hkey.2)
    · rename_i hnone
      obtain ⟨hstock, hfits⟩ := hstocked line hline hnone
      exact stockVerdict_granted hstock hfits
  simp [hgranted]

theorem Consistent.admits (h : db.Consistent orderID row) (htx : c.transaction = some (orderID, tx))
    (hpromises : db.Promises orderID c) : db.Admits row c := by
  have hid := (order?_eq_some h.found).2
  cases c with
  | insertOrder => cases htx
  | getOrder => cases htx
  | updateOrderStatus id status now event audit => trivial
  | projector c =>
    have hsource := (Prod.mk.inj (Option.some.inj htx)).1
    cases c with
    | recordInventoryReserved source next audit =>
      obtain rfl : source.orderID = orderID := hsource
      refine ⟨?_, ?_⟩
      · rw [hid]
        exact h.lines
      · rw [hid]
        exact h.refusal_eq_none hpromises
    | recordPaymentAuthorized source next payment audit =>
      obtain rfl : source.orderID = orderID := hsource
      refine ⟨?_, h.total, hpromises.2⟩
      rw [hpromises.1]
      rfl
    | recordShipmentCreated source next shipment audit =>
      obtain rfl : source.orderID = orderID := hsource
      refine ⟨?_, hpromises.2⟩
      rw [hpromises.1]
      rfl
    | recordOrderCancelled source next audit =>
      change db.Releasable row.orderID
      rw [hid]
      exact hpromises
    | recordCompensation source status audit =>
      obtain rfl : source.orderID = orderID := hsource
      exact fun _ => hpromises
    | recordInventoryRejected | recordPaymentFailed | recordShipmentFailed | recordNotificationQueued => trivial

end Database

/-- The event a call hands over for the outbox. -/
def StoreCall.handed : StoreCall → Option OutboxEvent
  | .updateOrderStatus _ _ _ event _ => some event
  | .projector c => c.next
  | .insertOrder .. | .getOrder _ => none

namespace Database

variable {db db' : Database} {row : OrderRow} {c : StoreCall} {orderID : String} {tx : Transaction}

/-- The event names the order, has an id that is not used yet, and its instant can be written. -/
def Fresh (db : Database) (orderID : String) (event : OutboxEvent) : Prop :=
  event.orderID = orderID ∧ (∀ old ∈ db.outboxEvents.rows, old.messageID ≠ event.messageID) ∧
    event.occurredAt.encodable = true

theorem stamp_handed {event : Option OutboxEvent} (htx : c.transaction = some (orderID, tx))
    (h : tx.statements db row = .ok (event, db')) :
    event.map (fun e => (e.envelope, e.occurredAt)) = c.handed.map fun e => (e.envelope, e.occurredAt) := by
  cases c with
  | insertOrder => cases htx
  | getOrder => cases htx
  | updateOrderStatus id status now event audit =>
    cases htx
    cases h
    rfl
  | projector c => exact stamp_of_statements (c := .projector c) () htx h

theorem transact_of_admits (hrow : db.order? orderID = some row) (htx : c.transaction = some (orderID, tx))
    (hadmits : db.Admits row c) (hfresh : ∀ event, c.handed = some event → db.Fresh orderID event)
    (htarget : ∀ next, tx.target = some next → canTransitionOrderStatus row.status next = true) (audit : AuditLog) :
    ∃ written outboxEvents, Written db row c written ∧
      db.transact orderID tx audit = .ok (insertAuditLog { written with outboxEvents := outboxEvents } audit) := by
  have hid := (order?_eq_some hrow).2
  obtain ⟨event, written, hstatements⟩ := statements_of_admits (hid.symm ▸ htx) hadmits
  have hwritten := written_of_statements (hid.symm ▸ htx) hstatements
  obtain ⟨inserted, hinserted⟩ : ∃ inserted, written.insertNext event = .ok inserted := by
    have hstamp := stamp_handed htx hstatements
    cases event with
    | none => exact ⟨written, rfl⟩
    | some event =>
      cases hhanded : c.handed with
      | none => simp [hhanded] at hstamp
      | some next =>
        rw [hhanded] at hstamp
        obtain ⟨hsame, htime⟩ := Prod.mk.inj (Option.some.inj hstamp)
        have hmessage : event.messageID = next.messageID := congrArg Envelope.messageID hsame
        have horder : event.orderID = next.orderID := congrArg Envelope.orderID hsame
        obtain ⟨hnamed, hunused, hencodable⟩ := hfresh next hhanded
        obtain ⟨outboxEvents, hinsert⟩ := written.insertOutboxEvent_succeeds event (htime ▸ hencodable) (by
          rw [hwritten.kept.outboxEvents, hmessage]
          exact hunused) (by
          rw [horder, hnamed, order?_of_setColumns orderID hwritten.orders, hrow]
          rfl)
        exact ⟨_, hinsert⟩
  have htransact : db.transact orderID tx audit = .ok (inserted.insertAuditLog audit) :=
    transact_eq_ok.mpr ⟨row, event, written, inserted, hrow, htarget, hstatements, hinserted, rfl⟩
  obtain ⟨outboxEvents, rfl, -⟩ := insertNext_eq_ok hinserted
  exact ⟨written, outboxEvents, hwritten, htransact⟩

theorem Consistent.transact (h : db.Consistent orderID row) (htx : c.transaction = some (orderID, tx))
    (hpromises : db.Promises orderID c) (hfresh : ∀ event, c.handed = some event → db.Fresh orderID event)
    (htarget : ∀ next, tx.target = some next → canTransitionOrderStatus row.status next = true) (audit : AuditLog) :
    ∃ db', db.transact orderID tx audit = .ok db' ∧
      db'.Consistent orderID (row.setColumns row.orderID (c.columns row)) ∧
      (db'.assemble (row.setColumns row.orderID (c.columns row))).view = (db.assemble row).view.after c := by
  obtain ⟨written, outboxEvents, hwritten, htransact⟩ :=
    transact_of_admits h.found htx (h.admits htx hpromises) hfresh htarget audit
  have hconsistent := h.written htx hwritten
  have hview := view_written hwritten
  exact ⟨_, htransact, ⟨hconsistent.found, hconsistent.total, hconsistent.lines, hconsistent.quantities⟩, hview⟩

end Database

/-! ### Answers -/

section Answers

variable {c : StoreCall} {orderID : String} {p : Projection} {tx : Transaction}

/-- A call on an order is a projection in the one store and a transaction in the other, with one target. -/
theorem StoreCall.effect_of_transaction (h : c.transaction = some (orderID, tx)) :
    tx.target = c.target ∧ ∃ p, c.effect = some (orderID, p) ∧ p.target = c.target := by
  cases c with
  | insertOrder => cases h
  | getOrder => cases h
  | updateOrderStatus id status now event audit =>
    cases h
    exact ⟨rfl, _, rfl, rfl⟩
  | projector c =>
    obtain ⟨rfl, rfl⟩ := Prod.mk.inj (Option.some.inj h)
    cases c <;> exact ⟨rfl, _, rfl, rfl⟩

theorem MemoryStore.semantics_of_project (s : MemoryStore) (heffect : c.effect = some (orderID, p)) :
    ∃ audit, (∀ err, s.project orderID p audit = (.error err, s) → semantics s c = (.error err, s)) ∧
      ∀ order t, s.project orderID p audit = (.ok order, t) → ∃ r, semantics s c = (.ok r, t) := by
  have hunit : ∀ audit, (∀ err, s.project orderID p audit = (.error err, s) →
      s.projectUnit orderID p audit = (.error err, s)) ∧
        ∀ order t, s.project orderID p audit = (.ok order, t) → s.projectUnit orderID p audit = (.ok (), t) := by
    intro audit
    constructor
    · intro err h
      rw [projectUnit, h]
      rfl
    · intro order t h
      rw [projectUnit, h]
      rfl
  cases c with
  | insertOrder => cases heffect
  | getOrder => cases heffect
  | updateOrderStatus id status now event audit =>
    cases heffect
    exact ⟨audit, fun _ h => h, fun order _ h => ⟨order, h⟩⟩
  | projector c =>
    obtain ⟨rfl, rfl⟩ := Prod.mk.inj (Option.some.inj heffect)
    refine ⟨c.audit, ?_⟩
    have hsemantics : semantics s (.projector c) = s.projectUnit c.source.orderID c.projection c.audit := by
      cases c <;> rfl
    rw [hsemantics]
    exact ⟨(hunit c.audit).1, fun order t h => ⟨(), (hunit c.audit).2 order t h⟩⟩

theorem Database.semantics_of_transact (db : Database) (htx : c.transaction = some (orderID, tx)) :
    ∃ audit, (∀ err, db.transact orderID tx audit = .error err → semantics db c = (.error err, db)) ∧
      ∀ db' row, db.transact orderID tx audit = .ok db' → db'.order? orderID = some row →
        ∃ r, semantics db c = (.ok r, db') := by
  cases c with
  | insertOrder => cases htx
  | getOrder => cases htx
  | updateOrderStatus id status now event audit =>
    cases htx
    refine ⟨audit, ?_, ?_⟩
    · intro err h
      simp [semantics, Database.updateOrderStatus, h, bind, Except.bind, commit]
    · intro db' row h hrow
      refine ⟨db'.assemble row, ?_⟩
      simp [semantics, Database.updateOrderStatus, h, getOrderTx, hrow, bind, Except.bind, commit, pure, Except.pure]
  | projector c =>
    obtain ⟨rfl, rfl⟩ := Prod.mk.inj (Option.some.inj htx)
    refine ⟨c.audit, ?_⟩
    have hprojector : db.projector c = db.transact c.source.orderID c.transaction c.audit := by
      cases c <;> rfl
    simp only [semantics, hprojector]
    constructor
    · intro err h
      rw [h]
      rfl
    · intro db' row h _
      rw [h]
      exact ⟨(), rfl⟩

end Answers

end FulfillHub
