import FulfillHub.Fulfillment.Progress
import FulfillHub.Fulfillment.StatusEvents

/-!
# An accepted cancellation is not overtaken

From the moment a cancellation is accepted, the order waits for its outcome or has it: every forward step
is refused by the store, and what a cancellation worker reads of the shipment stays true until it writes.
So each worker succeeds, and the outcome is the one that the shipment at the time of the request decides.
-/

namespace FulfillHub

open Interaction

variable {u : SagaThread} {deps : Dependencies} {event : OutboxEvent}

/-- Handlers take events of the outbox, each event is handled successfully at most once per queue, and shipment creators
keep their contract. -/
def ShipOnceRun (s : MemorySaga) (l : SagaLabel) : Prop :=
  FromOutbox memoryOutboxStore s l ∧ AtMostOnce s l ∧ ShipmentsKeepContract l

/-- The runs considered: merchants' requests carry a correlation id, too. -/
def CancelRun (s : MemorySaga) (l : SagaLabel) : Prop := ShipOnceRun s l ∧ Correlated l

theorem cancelRun_shipping : Shipping CancelRun where
  fromOutbox _ _ h := h.1.1
  atMostOnce _ _ h := h.1.2.1
  shipments _ _ h := h.1.2.2

variable {svc : Service} {cond : MemorySaga → SagaLabel → Prop} {s t : MemorySaga} {l : SagaLabel}
  {orderID : String} {order : Order}

/-! ### After the request -/

theorem requested_of_accepted (hs : (memorySaga svc).Reachable cond s) (hu : u ∈ s.threads) {corr : String}
    {actor : AuditActor} (hjob : u.job = .cancelOrder orderID corr actor) (hok : Succeeded u) :
    HasEvent s orderID .orderCancelRequested := by
  have hfollows := PoolSpec.follows_of_reachable (P := sagaSpec memoryOutboxStore svc)
    (K := Job.contract svc) Job.program_follows hs hu
  rw [show u.prog = .ret (.ok ()) from hok] at hfollows
  rcases hfollows.returns with ⟨x, hx, hcommitted⟩ | ⟨_, _, _, hjob', _⟩
  · obtain ⟨trace, c, r, hacted, rfl⟩ := acted_of_mem hs hu hx hcommitted
    have hwrites := hacted.writes
    rw [hjob] at hwrites
    cases hwrites with
    | cancel => exact hasEvent_of_exchanged hs ⟨u, hu, hx⟩ rfl rfl rfl
  · rw [hjob] at hjob'
    cases hjob'

/-- An order with an accepted cancellation waits for its outcome or has the one its shipment decides. -/
theorem status_of_requested (hcond : Shipping cond) (hs : (memorySaga svc).Reachable cond s)
    (hrequested : HasEvent s orderID .orderCancelRequested) : ∃ order, orderOf s orderID = some order ∧
      (order.status = .cancellationPending ∨
        order.status = .cancelled ∧ ¬ HasEvent s orderID .shipmentCreated ∨
        order.status = .manualReview ∧ HasEvent s orderID .shipmentCreated) := by
  obtain ⟨order, horder⟩ : ∃ order, orderOf s orderID = some order := by
    obtain ⟨env, henv, rfl, _⟩ := hrequested
    exact order_of_event hs henv
  obtain ⟨p, hp, hrep⟩ := (simulated_of_reachable hcond.toDisciplined hs).phases orderID order horder
  refine ⟨order, horder, ?_⟩
  have hstatus := hp.requested (hrep.requested.mp hrequested)
  rw [← hrep.status] at hstatus
  simp only [List.mem_cons, List.not_mem_nil, or_false] at hstatus
  rcases hstatus with hpending | hcancelled | hreview
  · exact .inl hpending
  · exact .inr (.inl ⟨hcancelled, (shipsLawfully_of_reachable hcond hs).cancelled orderID order horder hcancelled⟩)
  · refine .inr (.inr ⟨hreview, (hrep.events _ (by decide)).mpr (mem_events_shipped.mpr ?_)⟩)
    have hstage := hp.status
    rw [← hrep.status, hreview] at hstage
    revert hstage
    generalize p.stage = stage
    cases stage <;> decide

theorem shipped_iff_of_path {ls : List SagaLabel} (hcond : Disciplined cond)
    (hs : (memorySaga svc).Reachable cond s) (hpath : (memorySaga svc).Path cond s ls t)
    (hrequested : HasEvent s orderID .orderCancelRequested) :
    HasEvent t orderID .orderCancelRequested ∧
      (HasEvent t orderID .shipmentCreated ↔ HasEvent s orderID .shipmentCreated) := by
  induction hpath with
  | nil => exact ⟨hrequested, Iff.rfl⟩
  | @cons s u t l ls hstep hl _ ih =>
    obtain ⟨hlater, hiff⟩ := ih (.step hs hstep hl) (hasEvent_mono hstep hrequested)
    refine ⟨hlater, hiff.trans ⟨fun hshipped => ?_, hasEvent_mono hstep⟩⟩
    by_contra hnone
    exact no_shipment_after_request hcond hs hstep hl hrequested hnone hshipped

/-! ### A run of the cancellation worker -/

/-- A cancellation worker makes at most four calls and returns an error only if the store has. -/
def cancelContract : Contract Call.Answer (Except Error Unit) where
  allowed trace _ := trace.length < 4
  returns trace
    | .ok () => True
    | .error _ => ∃ c err, (⟨.store c, .error err⟩ : Exchange Call.Answer) ∈ trace

theorem cancelOrder_returns (horders : deps.orders = true) (hprojector : deps.projector = true)
    (hvalid : validateEvent event .orderCancelRequested = .ok ()) :
    cancelContract.Follows [] (cancelOrder deps event) := by
  simp only [cancelOrder, horders, hprojector, hvalid, Bool.not_true, Bool.false_eq_true, if_false]
  refine .perform (by simp [cancelContract]) fun r => ?_
  cases r with
  | error err => exact .ret ⟨_, err, mem_last⟩
  | ok order =>
    dsimp only
    split
    · exact .ret trivial
    refine .perform (by simp [cancelContract]) fun now => ?_
    split
    · refine .perform (by simp [cancelContract]) fun id => .perform (by simp [cancelContract]) fun r => ?_
      cases r with
      | ok => exact .ret trivial
      | error err => exact .ret ⟨_, err, mem_last⟩
    · refine .perform (by simp [cancelContract]) fun id => .call (by simp [cancelContract]) fun r => ?_
      cases r with
      | ok => exact .ret trivial
      | error err => exact .ret ⟨_, err, mem_last⟩

/-- The job is a cancellation worker that is set up as in the worker process, on an event that passes its
validation. -/
def Job.cancels (job : Job) (event : OutboxEvent) : Prop :=
  ∃ deps, job = .handle .ordersCancel deps event ∧ deps.orders = true ∧ deps.projector = true ∧
    validateEvent event .orderCancelRequested = .ok ()

theorem follows_of_cancels (hs : (memorySaga svc).Reachable cond s) (hu : u ∈ s.threads) (hjob : u.job.cancels event) :
    cancelContract.Follows u.trace u.prog ∧ u.trace.length ≤ 4 := by
  refine PoolSpec.thread_invariant (P := sagaSpec memoryOutboxStore svc)
    (Φ := fun u => u.job.cancels event → cancelContract.Follows u.trace u.prog ∧ u.trace.length ≤ 4)
    ?_ ?_ hs hu hjob
  · rintro job ⟨deps, rfl, horders, hprojector, hvalid⟩
    exact ⟨cancelOrder_returns horders hprojector hvalid, Nat.zero_le _⟩
  · intro job trace c next r ih hjob
    obtain ⟨hfollows, _⟩ := ih hjob
    have hlength : trace.length < 4 := hfollows.allowed
    refine ⟨hfollows.next r, ?_⟩
    rw [List.length_append]
    exact hlength

theorem answered_of_cancels (hcond : Shipping cond) (hs : (memorySaga svc).Reachable cond s) {i : Nat}
    {trace : SagaTrace} {c : StoreCall} {next : Except Error c.Result → Saga (Except Error Unit)}
    (hthread : s.threads[i]? = some ⟨.handle .ordersCancel deps event, trace, .call (.store c) next⟩) :
    ∃ r, (s.shared.store.semantics c).1 = .ok r := by
  have hu := PoolSpec.mem_threads.mpr ⟨i, hthread⟩
  have hcause : event.envelope ∈ eventsOf s := cause_mem hcond.fromOutbox hs hu rfl
  have hfollows := PoolSpec.follows_of_reachable (P := sagaSpec memoryOutboxStore svc)
    (K := Job.contract svc) Job.program_follows hs hu
  obtain ⟨_, ⟨_, rfl⟩ | hwrites⟩ := hfollows.allowed
  · obtain ⟨order, horder⟩ := order_of_event hs hcause
    refine ⟨order, ?_⟩
    rw [MemoryStore.semantics, MemoryStore.getOrder, show s.shared.store.orders.lookup event.orderID = _ from horder]
  · cases hwrites with
    | handle hvalid hwrite =>
      have htype : event.eventType = .orderCancelRequested := by
        simpa [Queue.expects] using hvalid.expected
      obtain ⟨order, horder, hstatus⟩ := status_of_requested hcond hs ⟨_, hcause, rfl, htype⟩
      cases hwrite with
      | manualReview hid hsaw hreview =>
        refine MemoryStore.semantics_eq_ok rfl horder fun next hnext => ?_
        cases hnext
        have hshipped := (simulated_of_reachable hcond.toDisciplined hs).reviews _ _ ⟨_, hu, hsaw⟩ hreview
        rcases hstatus with h | ⟨_, hnone⟩ | ⟨h, _⟩
        · rw [h]; rfl
        · exact absurd hshipped hnone
        · rw [h]; rfl
      | orderCancelled hid hsaw hreview =>
        refine MemoryStore.semantics_eq_ok rfl horder fun next hnext => ?_
        cases hnext
        have hnone := (shipsLawfully_of_reachable hcond hs).cancels _ hu deps event _ rfl hsaw hreview
        rcases hstatus with h | ⟨h, _⟩ | ⟨_, hshipped⟩
        · rw [h]; rfl
        · rw [h]; rfl
        · exact absurd hshipped hnone

theorem no_error_of_cancels (hcond : Shipping cond) (hs : (memorySaga svc).Reachable cond s) (hu : u ∈ s.threads)
    (hjob : u.job = .handle .ordersCancel deps event) {c : StoreCall} {err : Error} :
    (⟨.store c, .error err⟩ : Exchange Call.Answer) ∉ u.trace := by
  refine Lts.Reachable.invariant (P := fun s => ∀ u ∈ s.threads, u.job = .handle .ordersCancel deps event →
    ∀ c err, (⟨.store c, .error err⟩ : Exchange Call.Answer) ∉ u.trace) ?_ ?_ hs u hu hjob c err
  · rintro s ⟨_, hnil⟩ u hu
    simp [hnil] at hu
  · intro s l t hreach ih hstep _ u hu hjob c err hmem
    obtain ⟨j, hj⟩ := PoolSpec.mem_threads.mp hu
    rcases hstep.thread_cases hj with hold | ⟨job, _, _, rfl⟩ | ⟨job, trace, c', next, r, _, hold, hanswer, rfl⟩
    · exact ih u (PoolSpec.mem_threads.mpr ⟨j, hold⟩) hjob c err hmem
    · simp [PoolSpec.fresh] at hmem
    · rcases List.mem_append.mp hmem with hmem | hmem
      · exact ih _ (PoolSpec.mem_threads.mpr ⟨j, hold⟩) hjob c err hmem
      · cases List.mem_singleton.mp hmem
        cases (show job = _ from hjob)
        obtain ⟨r, hr⟩ := answered_of_cancels hcond hreach hold
        cases hr.symm.trans hanswer.1

theorem settled_of_cancels (hs : (memorySaga svc).Reachable cond s) (hu : u ∈ s.threads)
    (hjob : u.job = .handle .ordersCancel deps event) (hok : Succeeded u)
    (horder : orderOf s event.orderID = some order) : order.status ≠ .cancellationPending := by
  intro hpending
  have hlow : ∀ {x status}, PoolSpec.Exchanged s x → shown x = some (event.orderID, status) → status.rank ≤ 4 := by
    intro x status hx hshown
    have hle := rank_le_of_shown hs hx hshown horder
    rwa [hpending] at hle
  have hfollows := PoolSpec.follows_of_reachable (P := sagaSpec memoryOutboxStore svc)
    (K := Job.contract svc) Job.program_follows hs hu
  rw [show u.prog = .ret (.ok ()) from hok] at hfollows
  rcases hfollows.returns with ⟨x, hx, hcommitted⟩ | ⟨_, _, _, hjob', _, hnothing⟩
  · obtain ⟨trace, c, r, hacted, rfl⟩ := acted_of_mem hs hu hx hcommitted
    have hwrites := hacted.writes
    rw [hjob] at hwrites
    cases hwrites with
    | handle _ hwrite =>
      cases hwrite with
      | manualReview => exact absurd (hlow ⟨u, hu, hx⟩ rfl) (by decide)
      | orderCancelled => exact absurd (hlow ⟨u, hu, hx⟩ rfl) (by decide)
  · rw [hjob] at hjob'
    cases hjob'
    cases hnothing with
    | cancel hsaw hstatus =>
      have hle := hlow ⟨u, hu, hsaw⟩ rfl
      simp only [List.mem_cons, List.not_mem_nil, or_false] at hstatus
      rcases hstatus with h | h <;> rw [h] at hle <;> exact absurd hle (by decide)

/-- **An accepted cancellation is never overtaken.** From the state in which the cancellation has been
accepted on, the order stays in one of three statuses, no shipment is recorded, and every cancellation worker
returns within four calls without an error, with the outcome that the shipment of that state decides. -/
theorem cancellation_not_overtaken (svc : Service) {s t : MemorySaga} {ls : List SagaLabel}
    (hs : (memorySaga svc).Reachable CancelRun s) {u : SagaThread} (hu : u ∈ s.threads)
    {orderID correlationID : String} {actor : AuditActor}
    (hjob : u.job = .cancelOrder orderID correlationID actor) (hok : Succeeded u)
    (hpath : (memorySaga svc).Path CancelRun s ls t) :
    (∃ status, statusOf t orderID = some status ∧
      status ∈ [.cancellationPending, .cancelled, .manualReview]) ∧
    (∀ i source next shipment audit t', source.orderID = orderID → ¬ (memorySaga svc).step t
      (.answer i (.store (.projector (.recordShipmentCreated source next shipment audit))) (.ok ())) t') ∧
    ∀ v ∈ t.threads, ∀ deps event, v.job = .handle .ordersCancel deps event → deps.orders = true →
      deps.projector = true → event ∈ t.shared.store.outbox → event.orderID = orderID →
      event.eventType = .orderCancelRequested →
      v.trace.length ≤ 4 ∧ (v.trace.length = 4 → ∃ r, v.prog = .ret r) ∧ ∀ r, v.prog = .ret r → r = .ok () ∧
        (HasEvent s orderID .shipmentCreated → statusOf t orderID = some .manualReview) ∧
        (¬ HasEvent s orderID .shipmentCreated → statusOf t orderID = some .cancelled) := by
  have ht := hs.path hpath
  obtain ⟨hrequested, hshipped⟩ := shipped_iff_of_path cancelRun_shipping.toDisciplined hs hpath
    (requested_of_accepted hs hu hjob hok)
  obtain ⟨order, horder, hstatus⟩ := status_of_requested cancelRun_shipping ht hrequested
  have hstatusOf : statusOf t orderID = some order.status := by
    rw [statusOf, horder]
    rfl
  refine ⟨⟨order.status, hstatusOf, ?_⟩, ?_, ?_⟩
  · rcases hstatus with h | ⟨h, _⟩ | ⟨h, _⟩ <;> rw [h] <;> decide
  · rintro i source next shipment audit t' rfl hstep
    obtain ⟨order', horder', htarget⟩ := transition_of_success hstep rfl
    cases horder.symm.trans horder'
    have hmove := htarget _ rfl
    rcases hstatus with h | ⟨h, _⟩ | ⟨h, _⟩ <;> rw [h] at hmove <;> cases hmove
  · rintro v hv deps event hv' horders hprojector hevent rfl htype
    have hvalid : validateEvent event .orderCancelRequested = .ok () := by
      simp [validateEvent, htype, identity_of_mem (fun _ _ h => h.2) ht hevent]
    obtain ⟨hfollows, hbound⟩ := follows_of_cancels ht hv ⟨deps, hv', horders, hprojector, hvalid⟩
    refine ⟨hbound, fun hlength => ?_, fun r hr => ?_⟩
    · cases hprog : v.prog with
      | ret r => exact ⟨r, rfl⟩
      | call c next =>
        rw [hprog] at hfollows
        have hlt : v.trace.length < 4 := hfollows.allowed
        omega
    · have hok : r = .ok () := by
        rw [hr] at hfollows
        cases r with
        | ok => rfl
        | error err =>
          obtain ⟨c, err, hmem⟩ := hfollows.returns
          exact absurd hmem (no_error_of_cancels cancelRun_shipping ht hv hv')
      subst hok
      have hsettled := settled_of_cancels ht hv hv' hr horder
      rw [hstatusOf, ← hshipped]
      refine ⟨rfl, fun h => ?_, fun h => ?_⟩
      · rcases hstatus with h' | ⟨_, hnone⟩ | ⟨h', _⟩
        · exact absurd h' hsettled
        · exact absurd h hnone
        · rw [h']
      · rcases hstatus with h' | ⟨h', _⟩ | ⟨_, h'⟩
        · exact absurd h' hsettled
        · rw [h']
        · exact absurd h' h

instance : (l : SagaLabel) → Decidable (ShipmentsKeepContract l)
  | .answer _ (.port (.createShipment _)) (.ok shipment) =>
    inferInstanceAs (Decidable (shipment.status = .blank ∨ shipment.status = .created))
  | .answer _ (.port (.createShipment _)) (.error _) | .answer _ (.port .clock) _
  | .answer _ (.port (.newID _)) _ | .answer _ (.port (.reserveInventory _)) _
  | .answer _ (.port (.authorizePayment _)) _ | .answer _ (.store _) _ | .spawn _ => isTrue trivial

def shipOnceCheck (s : MemorySaga) (l : SagaLabel) (t : MemorySaga) : Bool :=
  decide (FromOutbox memoryOutboxStore s l ∧ Unrepeated t ∧ ShipmentsKeepContract l)

theorem shipOnceCheck_decides (svc : Service) : Decides (memorySaga svc) shipOnceCheck ShipOnceRun := by
  intro s l t hstep h
  obtain ⟨hfrom, honce, hshipments⟩ := of_decide_eq_true h
  exact ⟨hfrom, atMostOnce_of_unrepeated hstep honce, hshipments⟩

def cancelCheck (s : MemorySaga) (l : SagaLabel) (t : MemorySaga) : Bool := shipOnceCheck s l t && decide (Correlated l)

theorem cancelCheck_decides (svc : Service) : Decides (memorySaga svc) cancelCheck CancelRun := by
  intro s l t hstep h
  obtain ⟨honce, hcorrelated⟩ := Bool.and_eq_true_iff.mp h
  exact ⟨shipOnceCheck_decides svc s l t hstep honce, of_decide_eq_true hcorrelated⟩

/-- The run has accepted the cancellation of the order. -/
def accepts (orderID : String) (u : SagaThread) : Bool :=
  match u.job with
  | .cancelOrder id _ _ => decide (id = orderID) && decide (Succeeded u)
  | _ => false

theorem accepts_iff (h : accepts orderID u = true) :
    ∃ corr actor, u.job = .cancelOrder orderID corr actor ∧ Succeeded u := by
  obtain ⟨job, trace, prog⟩ := u
  cases job with
  | cancelOrder id corr actor =>
    simp only [accepts, Bool.and_eq_true, decide_eq_true_eq] at h
    exact ⟨corr, actor, by rw [h.1], h.2⟩
  | createOrder => cases h
  | handle => cases h

/-- A cancellation is accepted while a reservation is under way, and the worker cancels the order. -/
theorem cancellation_not_overtaken_by_reservation : ∃ s ls t,
    (memorySaga sampleService).Reachable CancelRun s ∧ (∃ u ∈ s.threads, accepts "ord_1" u = true) ∧
    (memorySaga sampleService).Path CancelRun s ls t ∧ statusOf t "ord_1" = some .cancelled ∧
    ∀ i source next shipment audit t', source.orderID = "ord_1" → ¬ (memorySaga sampleService).step t
      (.answer i (.store (.projector (.recordShipmentCreated source next shipment audit))) (.ok ())) t' := by
  obtain ⟨s, ls, t, hs, hpath, haccepted, hstatus⟩ := (memorySimulator sampleService).exists_path
    (Q := fun s t => s.threads.any (accepts "ord_1") = true ∧ statusOf t "ord_1" = some .cancelled)
    (cancelCheck_decides sampleService) reachable_emptySaga
    (createActs ++ [.handle .inventoryReserve allProviders 0, .reply 1 (.time 2),
      .start (.cancelOrder "ord_1" "corr-2" sampleActor), .store 2, .reply 2 (.time 2), .reply 2 (.id "2"),
      .store 2])
    [.handle .ordersCancel allProviders 1, .store 3, .reply 1 (.reservation (.ok ())), .reply 1 (.id "3"),
      .store 1, .reply 3 (.time 4), .reply 3 (.id "4"), .store 3] (by decide)
  obtain ⟨u, hu, hjob⟩ := List.any_eq_true.mp haccepted
  obtain ⟨corr, actor, hjob', hok⟩ := accepts_iff hjob
  exact ⟨s, ls, t, hs, ⟨u, hu, hjob⟩, hpath, hstatus,
    (cancellation_not_overtaken sampleService hs hu hjob' hok hpath).2.1⟩

/-- A cancellation worker that has its store and its projector has failed on a request for the order. -/
def failsRequest (orderID : String) (t : MemorySaga) (v : SagaThread) : Bool :=
  match v.job, v.prog with
  | .handle .ordersCancel deps event, .ret (.error _) =>
    deps.orders && deps.projector && decide (event.envelope ∈ t.shared.store.outbox.map OutboxEvent.envelope) &&
      decide (event.orderID = orderID ∧ event.eventType = .orderCancelRequested)
  | _, _ => false

/-- A cancellation without a correlation id is accepted, and the worker refuses the event it leads to. -/
theorem uncorrelated_cancellation_refused : ∃ s ls t,
    (memorySaga sampleService).Reachable ShipOnceRun s ∧ (∃ u ∈ s.threads, accepts "ord_1" u = true) ∧
    (memorySaga sampleService).Path ShipOnceRun s ls t ∧ statusOf t "ord_1" = some .cancellationPending ∧
    ∃ v ∈ t.threads, failsRequest "ord_1" t v = true := by
  obtain ⟨s, ls, t, hs, hpath, haccepted, hstatus, hfailed⟩ := (memorySimulator sampleService).exists_path
    (Q := fun s t => s.threads.any (accepts "ord_1") = true ∧ statusOf t "ord_1" = some .cancellationPending ∧
      t.threads.any (failsRequest "ord_1" t) = true)
    (shipOnceCheck_decides sampleService) reachable_emptySaga
    (createActs ++ [.start (.cancelOrder "ord_1" "" sampleActor), .store 1, .reply 1 (.time 2), .reply 1 (.id "2"),
      .store 1])
    [.handle .ordersCancel allProviders 1] (by decide)
  exact ⟨s, ls, t, hs, List.any_eq_true.mp haccepted, hpath, hstatus, List.any_eq_true.mp hfailed⟩

end FulfillHub
