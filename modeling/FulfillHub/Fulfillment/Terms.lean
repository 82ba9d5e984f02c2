import FulfillHub.Fulfillment.MemorySaga

/-!
# What an order keeps

The terms an order was accepted on are never rewritten: every operation changes its status, its items'
reservation statuses, its payment and its shipment, and nothing else. So an order once stored stays
stored on the same terms, and what a run has read of them is still true when it writes.
-/

namespace FulfillHub

open Interaction

/-- The terms an order was accepted on. -/
structure Terms where
  orderID : String
  merchantID : String
  externalOrderID : String
  currency : String
  totals : OrderTotals
  createdAt : Time
  lines : List (String × Int × Money)
  deriving DecidableEq

def OrderItem.line (item : OrderItem) : String × Int × Money := (item.sku, item.quantity, item.unitPrice)

def Order.terms (o : Order) : Terms where
  orderID := o.orderID
  merchantID := o.merchantID
  externalOrderID := o.externalOrderID
  currency := o.currency
  totals := o.totals
  createdAt := o.createdAt
  lines := o.items.map OrderItem.line

namespace Order

theorem terms_eq_of_items {o o' : Order} (h : o' = { o with
    status := o'.status, items := o'.items, payment := o'.payment, shipment := o'.shipment
    updatedAt := o'.updatedAt })
    (hitems : o'.items.map OrderItem.line = o.items.map OrderItem.line) : o'.terms = o.terms := by
  rw [h, terms, terms]
  simp only [Terms.mk.injEq, true_and]
  exact hitems

theorem lines_markItems (o : Order) (status : ReservationStatus) :
    (o.markItems status).items.map OrderItem.line = o.items.map OrderItem.line := by
  rw [markItems, List.map_map]
  rfl

theorem lines_releaseItems (o : Order) : o.releaseItems.items.map OrderItem.line = o.items.map OrderItem.line := by
  rw [releaseItems, List.map_map]
  refine List.map_congr_left fun item _ => ?_
  rw [Function.comp_apply, releaseItem]
  split_ifs <;> rfl

end Order

theorem Projection.terms_compensate (eventType : EventType) (o : Order) :
    (compensate eventType o).terms = o.terms := by
  cases eventType <;> first | rfl | exact Order.terms_eq_of_items rfl o.lines_releaseItems

theorem StoreCall.terms_update {c : StoreCall} {orderID : String} {p : Projection}
    (heffect : c.effect = some (orderID, p)) (o : Order) : (p.update o).terms = o.terms := by
  cases c with
  | insertOrder => cases heffect
  | getOrder => cases heffect
  | updateOrderStatus => cases heffect; rfl
  | projector c =>
    cases c with
    | recordInventoryReserved => cases heffect; exact Order.terms_eq_of_items rfl (o.lines_markItems _)
    | recordInventoryRejected => cases heffect; exact Order.terms_eq_of_items rfl (o.lines_markItems _)
    | recordPaymentAuthorized => cases heffect; rfl
    | recordPaymentFailed => cases heffect; rfl
    | recordShipmentCreated => cases heffect; rfl
    | recordShipmentFailed => cases heffect; rfl
    | recordOrderCancelled => cases heffect; exact Order.terms_eq_of_items rfl o.lines_releaseItems
    | recordNotificationQueued => cases heffect; rfl
    | recordCompensation source => cases heffect; exact Projection.terms_compensate source.eventType o

/-! ### Along runs -/

variable {svc : Service} {cond : MemorySaga → SagaLabel → Prop} {s t : MemorySaga} {l : SagaLabel}
  {orderID : String}

def termsOf (s : MemorySaga) (orderID : String) : Option Terms := (orderOf s orderID).map Order.terms

theorem termsOf_insert {changedID : String} {order : Order}
    (h : t.shared.store.orders = s.shared.store.orders.insert changedID order) (orderID : String) :
    termsOf t orderID = if orderID = changedID then some order.terms else termsOf s orderID := by
  rw [termsOf, orderOf_insert h]
  split_ifs <;> rfl

theorem terms_kept (hs : (memorySaga svc).Reachable cond s)
    (hstep : (sagaSpec memoryOutboxStore svc).Step s l t) {terms : Terms}
    (hterms : termsOf s orderID = some terms) : termsOf t orderID = some terms := by
  rcases memory_step hs hstep with ⟨horders, _⟩ |
    ⟨i, trace, merchantID, key, corr, newID, id, req, now, audit, next, _, hthread, hgiven, _, horders, _⟩ |
    ⟨i, c, r, job, trace, next, changedID, p, order, _, _, _, heffect, horder, _, horders, _⟩
  · rwa [termsOf, orderOf_congr horders]
  · rw [termsOf_insert horders]
    split_ifs with hid
    · rw [hid, termsOf, orderOf_eq_none_of_given hs hthread hgiven] at hterms
      cases hterms
    · exact hterms
  · rw [termsOf_insert horders]
    split_ifs with hid
    · rw [hid, termsOf, horder] at hterms
      rw [StoreCall.terms_update heffect]
      exact hterms
    · exact hterms

/-- An order a run has read is stored on the terms the run has seen. -/
theorem terms_of_saw (hs : (memorySaga svc).Reachable cond s) {u : SagaThread} (hu : u ∈ s.threads)
    {order : Order} (hsaw : Saw u.trace orderID order) : termsOf s orderID = some order.terms := by
  refine Lts.Reachable.invariant (P := fun s => ∀ x, PoolSpec.Exchanged s x →
    ∀ orderID order, x = ⟨.store (.getOrder orderID), .ok order⟩ → termsOf s orderID = some order.terms)
    ?_ ?_ hs _ ⟨u, hu, hsaw⟩ _ _ rfl
  · rintro s ⟨_, hnil⟩ x ⟨u, hu, _⟩
    simp [hnil] at hu
  · intro s l t hreach ih hstep _ x hx orderID order heq
    rcases hstep.exchanged_iff.mp hx with hold | ⟨i, hl⟩
    · exact terms_kept hreach hstep (ih x hold orderID order heq)
    · subst heq
      subst hl
      refine terms_kept hreach hstep ?_
      rw [termsOf, orderOf_of_read hstep]
      rfl

end FulfillHub
