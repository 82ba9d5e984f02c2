import FulfillHub.Fulfillment.HandlerSuccess

/-!
# Events of another merchant

A handler finds its order by the id in the event. Nothing compares the merchant of the event with that of the order,
neither the validation of the event nor the store. An event that names an order of another merchant is therefore
refused exactly when it would be refused anyway: for its type, for a dependency the worker does not have, for the
status of the order, or by a constraint of the database.
-/

namespace FulfillHub

open Interaction Relational

/-- A valid event that names a stored order of another merchant. -/
structure ForeignEvent (b : Backend) (event : OutboxEvent) (order : Order) : Prop where
  identity : validateEventIdentity event = .ok ()
  stored : b.order? event.orderID = some order
  foreign : event.merchantID ≠ order.merchantID

namespace Backend

variable {b b' : Backend} {event : OutboxEvent} {order : Order} {deps : Dependencies} {queue : Queue}

/-- The program comes to its end, and always with an error and without having changed the store. -/
def Refuses (b : Backend) (p : Saga (Except Error Unit)) : Prop :=
  (∃ trace result b', p.Returns trace result ∧ Trace.Through Answers b trace b') ∧
    ∀ trace result b', p.Returns trace result → Trace.Through Answers b trace b' →
      (∃ err, result = .error err) ∧ b' = b

/-- What a queue asks of an event and its order, whoever the event's merchant is. -/
def Accepts (b : Backend) (deps : Dependencies) (event : OutboxEvent) (order : Order) : Queue → Prop
  | .inventoryReserve => deps.projector = true ∧ event.eventType = .orderCreated ∧
      (deps.inventoryReserver = true ∨
        canTransitionOrderStatus order.status .inventoryReserved = true ∧ b.ReservesLines event)
  | .paymentsAuthorize => deps.projector = true ∧ event.eventType = .inventoryReserved ∧
      (deps.paymentAuthorizer = true ∨
        canTransitionOrderStatus order.status .paymentAuthorized = true ∧ b.HoldsTotal order)
  | .shipmentsCreate => deps.projector = true ∧ event.eventType = .paymentAuthorized ∧
      (deps.shipmentCreator = true ∨ canTransitionOrderStatus order.status .shipmentCreated = true)
  | .ordersFinalize => deps.orders = true ∧ event.eventType = .shipmentCreated ∧
      order.status ∈ [.shipmentCreated, .completed, .cancellationPending, .manualReview, .cancelled]
  | .ordersCancel => deps.orders = true ∧ event.eventType = .orderCancelRequested ∧
      (order.status ∈ [.cancelled, .manualReview] ∨
        if requiresManualReview order then canTransitionOrderStatus order.status .manualReview = true
        else deps.projector = true ∧ canTransitionOrderStatus order.status .cancelled = true ∧
          b.Releases event.orderID)
  | .notificationsEmail => deps.projector = true ∧ isNotificationEvent event.eventType = true
  | .ordersCompensate => deps.projector = true ∧ ∃ status action,
      compensationPlan event.eventType = .ok (status, action) ∧
      canTransitionOrderStatus order.status status = true ∧
      (event.eventType = .paymentFailed ∨ event.eventType = .shipmentFailed → b.Releases event.orderID)

theorem succeeds_iff_accepts (hidentity : validateEventIdentity event = .ok ())
    (hstored : b.order? event.orderID = some order) (queue : Queue) :
    b.Succeeds (handlerFor queue deps event) ↔ b.Accepts deps event order queue := by
  cases queue with
  | inventoryReserve => exact succeeds_reserveInventory hidentity hstored
  | paymentsAuthorize => exact succeeds_authorizePayment hidentity hstored
  | shipmentsCreate => exact succeeds_createShipment hidentity hstored
  | ordersFinalize => exact succeeds_completeOrder hidentity hstored
  | ordersCancel => exact succeeds_cancelOrder hidentity hstored
  | notificationsEmail => exact succeeds_queueNotification hidentity hstored
  | ordersCompensate => exact succeeds_recordCompensation hidentity hstored

/-! ### Failed runs -/

theorem exists_answers (b : Backend) (c : Call) : ∃ r b', b.Answers c r b' := by
  cases c with
  | store c => exact ⟨_, _, rfl⟩
  | port c =>
    cases c with
    | clock => exact ⟨(0 : Time), b, rfl⟩
    | newID kind => exact ⟨kind ++ "_" ++ "", b, ⟨"", rfl⟩, rfl⟩
    | reserveInventory event => exact ⟨.ok (), b, rfl⟩
    | authorizePayment event => exact ⟨.error errNotFound, b, rfl⟩
    | createShipment event => exact ⟨.error errNotFound, b, rfl⟩

/-- A handler that returns an error has not changed the store. -/
theorem unchanged_of_error {before rest : SagaTrace} {p : Saga (Except Error Unit)} {err : Error}
    (hfollows : (handlerContract queue event).Follows before p) (hreturns : p.Returns rest (.error err))
    (hthrough : Trace.Through Answers b rest b') : b' = b := by
  generalize hresult : (Except.error err : Except Error Unit) = result at hreturns
  induction hreturns generalizing before b with
  | ret a => exact hthrough.of_nil
  | call r hnext ih =>
    rename_i c next rest a
    obtain ⟨t, hanswer, hrest⟩ := hthrough.of_cons
    have hquiet : t = b → b' = b := fun ht => ih (hfollows.next r) (ht ▸ hrest) hresult
    cases c with
    | port c =>
      apply hquiet
      cases c with
      | newID kind => exact hanswer.2
      | clock | reserveInventory | authorizePayment | createShipment => exact hanswer
    | store c =>
      have hsemantics : b.semantics c = (r, t) := hanswer
      rcases hfollows.allowed.2.2 with rfl | hwrite
      · have hkept : (b.semantics (.getOrder event.orderID)).2 = b := semantics_getOrder _
        rw [hsemantics] at hkept
        exact hquiet hkept
      · cases r with
        | error refused =>
          apply hquiet
          rw [← semantics_failed (congrArg Prod.fst hsemantics), hsemantics]
        | ok answer =>
          have hcommitted : committed ⟨.store c, .ok answer⟩ = true := by
            simp [committed, hwrite.not_read]
          obtain ⟨-, rfl⟩ := returned_of_committed (hfollows.next _) hcommitted hnext
          cases hresult

end Backend

/-- **Nothing but the merchant is checked.** An event of another merchant is refused, with the store unchanged, if and
only if the queue would refuse it from the order's own merchant as well. -/
theorem foreign_event_refused_iff {name : String} {queue : Queue} (hqueue : Queue.ofName name = some queue)
    (deps : Dependencies) {b : Backend} {event : OutboxEvent} {order : Order} (hforeign : ForeignEvent b event order) :
    ∃ handler, handlerForQueue name deps = .ok handler ∧
      (b.Refuses (handler event) ↔ ¬ b.Accepts deps event order queue) := by
  refine ⟨handlerFor queue deps, by simp [handlerForQueue, hqueue], ?_⟩
  rw [← Backend.succeeds_iff_accepts hforeign.identity hforeign.stored]
  constructor
  · rintro ⟨-, hrefused⟩ ⟨trace, result, b', hreturns, hthrough, rfl⟩
    obtain ⟨⟨err, herr⟩, -⟩ := hrefused trace _ b' hreturns hthrough
    cases herr
  · intro hfails
    refine ⟨Prog.exists_returns Backend.exists_answers _ b, ?_⟩
    intro trace result b' hreturns hthrough
    cases result with
    | ok _ => exact absurd ⟨trace, _, b', hreturns, hthrough, rfl⟩ hfails
    | error err =>
      exact ⟨⟨err, rfl⟩, Backend.unchanged_of_error (handlerFor_follows queue deps event) hreturns hthrough⟩

/-! ### A shop with the order of another merchant -/

/-- An order of the merchant m2; the warehouse and its stock are those of m1. -/
def foreignShop (status : OrderStatus) : Database :=
  { Database.shop "w1" 0 Database.oneLine with
    orders := ⟨[{ Database.shopOrder with merchantID := "m2", status := status }], List.pairwise_singleton _ _⟩ }

/-- The order as it is read. -/
def foreignOrder (status : OrderStatus) : Order :=
  (foreignShop status).assemble { Database.shopOrder with merchantID := "m2", status := status }

theorem foreignEvent_shop (status : OrderStatus) :
    ForeignEvent (.postgres (foreignShop status)) Database.shopCreated (foreignOrder status) :=
  ⟨rfl, rfl, by change "m1" ≠ "m2"; decide⟩

/-- A worker without providers. -/
def bareDependencies : Dependencies := ⟨true, true, false, false, false⟩

theorem foreign_event_refused_completed : ∃ handler,
    handlerForQueue "inventory.reserve" bareDependencies = .ok handler ∧
      (Backend.postgres (foreignShop .completed)).Refuses (handler Database.shopCreated) := by
  have hqueue : Queue.ofName "inventory.reserve" = some .inventoryReserve := rfl
  obtain ⟨handler, hhandler, hrefuses⟩ :=
    foreign_event_refused_iff hqueue bareDependencies (foreignEvent_shop .completed)
  refine ⟨handler, hhandler, hrefuses.mpr ?_⟩
  rintro ⟨-, -, hreserver | ⟨htarget, -⟩⟩
  · cases hreserver
  · revert htarget
    decide

/-- An event of m1 that names an order of m2 reserves the stock of m1 for it. -/
theorem foreign_event_accepted : ∃ handler,
    handlerForQueue "inventory.reserve" bareDependencies = .ok handler ∧
      ForeignEvent (.postgres (foreignShop .pendingFulfillment)) Database.shopCreated
        (foreignOrder .pendingFulfillment) ∧
      (handler Database.shopCreated).May Backend.Answers (.postgres (foreignShop .pendingFulfillment))
        fun result b => result = .ok () ∧ ∃ db, b = .postgres db ∧
          db.inventoryItems.rows.map InventoryItem.reservedQuantity = [5, 0] := by
  refine ⟨handlerFor .inventoryReserve bareDependencies, rfl, foreignEvent_shop _, ?_⟩
  have hvalid : validateEvent Database.shopCreated .orderCreated = .ok () := rfl
  have haccepted : ((Backend.postgres (foreignShop .pendingFulfillment)).semantics (.projector (.recordInventoryReserved
      Database.shopCreated (nextEventAt ("msg" ++ "_" ++ "2") Database.shopCreated .inventoryReserved 2000)
      (systemAudit Database.shopCreated "inventory.reserved" 2000)))).1 = .ok () := rfl
  simp only [handlerFor, reserveInventory, bareDependencies, hvalid, recordInventoryReserved, Bool.not_true,
    Bool.false_eq_true, if_false, Prog.may_bind, Backend.may_clock, Backend.may_newID, Backend.may_record]
  refine ⟨2000, "2", ?_⟩
  rw [haccepted]
  exact Prog.may_pure.mpr ⟨rfl, _, rfl, rfl⟩

end FulfillHub
