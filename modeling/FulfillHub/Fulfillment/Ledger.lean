import FulfillHub.Fulfillment.Saga

/-!
# The ledger of events

Every event in the outbox was written by exactly one run, as that run's last act, under an id that
run had just been given. A handler's event names the event it was caused by, and its type tells the
queue. So the events of an order form a chain of stages, and when each event is handled successfully
at most once per queue there is at most one outcome per stage and order.

Everything here holds for any store that appends what it is handed.
-/

namespace FulfillHub

open Interaction

variable {S : Type} {store : OutboxStore S} {svc : Service}
  {cond : SagaState S → SagaLabel → Prop} {s t : SagaState S} {l : SagaLabel} {x : Exchange Call.Answer}
  {env : Envelope} {job : Job} {c : StoreCall} {u : SagaThread} {i : Nat} {queue : Queue} {event : OutboxEvent}
  {trace : SagaTrace} {kind id : String}

/-! ### Runs act once -/

/-- The envelope an exchange added to the outbox. -/
def emittedBy : Exchange Call.Answer → Option Envelope
  | ⟨.store c, .ok r⟩ => (c.emitted r).map OutboxEvent.envelope
  | _ => none

/-- The run has acted, by this call as its last. -/
structure Acted (svc : Service) (t : SagaThread) (trace : SagaTrace) (c : StoreCall) (r : c.Result) :
    Prop where
  trace_eq : t.trace = trace ++ [⟨.store c, .ok r⟩]
  writes : t.job.Writes svc trace c
  quiet : Never committed trace
  succeeded : Succeeded t

theorem committed_iff : committed x = true ↔ ∃ c r, x = ⟨.store c, .ok r⟩ ∧ c.isRead = false := by
  obtain ⟨c | c, r⟩ := x
  · cases r <;> simp [committed]
  · simp [committed]

theorem committed_of_emittedBy (h : emittedBy x = some env) : committed x = true := by
  obtain ⟨c | c, r⟩ := x
  · cases r with
    | error err => simp [emittedBy] at h
    | ok r =>
      cases c <;> simp_all [emittedBy, committed, StoreCall.emitted, StoreCall.isRead]
  · simp [emittedBy] at h

theorem Job.mayRead_isRead (h : job.mayRead c) : c.isRead = true := by
  cases job with
  | createOrder => exact h.elim
  | cancelOrder => rw [show c = _ from h]; rfl
  | handle => rw [h.2]; rfl

/-- **A run acts at most once, as its last step, and then reports success.** -/
theorem quiet_or_acted (hs : (saga store svc).Reachable cond s) (hu : u ∈ s.threads) :
    Never committed u.trace ∨ ∃ trace c r, Acted svc u trace c r := by
  have hboth : (u.job.contract svc).Follows u.trace u.prog ∧
      (Never committed u.trace ∨ ∃ trace c r, Acted svc u trace c r) := by
    refine PoolSpec.thread_invariant (P := sagaSpec store svc)
      (Φ := fun u => (u.job.contract svc).Follows u.trace u.prog ∧
        (Never committed u.trace ∨ ∃ trace c r, Acted svc u trace c r)) ?_ ?_ hs hu
    · exact fun job => ⟨Job.program_follows job, .inl .nil⟩
    · rintro job trace c next r ⟨hfollows, _⟩
      obtain ⟨hquiet, hallowed⟩ := hfollows.allowed
      refine ⟨hfollows.next r, ?_⟩
      cases hcommitted : committed ⟨c, r⟩ with
      | false => exact .inl (hquiet.snoc hcommitted)
      | true =>
        obtain ⟨c, r, heq, hread⟩ := committed_iff.mp hcommitted
        cases heq
        have hwrites : job.Writes svc trace c := by
          rcases hallowed with hmay | hwrites
          · simp [Job.mayRead_isRead hmay] at hread
          · exact hwrites
        have hloud : ¬ Never committed (trace ++ [⟨.store c, .ok r⟩]) := fun h =>
          by simp [h _ mem_last] at hcommitted
        refine .inr ⟨trace, c, r, rfl, hwrites, hquiet, ?_⟩
        have hnext := hfollows.next (.ok r)
        change next (.ok r) = .ret (.ok ())
        cases hprog : next (.ok r) with
        | call c' next' =>
          rw [hprog] at hnext
          exact absurd hnext.allowed.1 hloud
        | ret a =>
          rw [hprog] at hnext
          cases a with
          | ok => rfl
          | error err => exact absurd hnext.returns.1 hloud
  exact hboth.2

theorem acted_of_mem (hs : (saga store svc).Reachable cond s) (hu : u ∈ s.threads) (hx : x ∈ u.trace)
    (hcommitted : committed x = true) :
    ∃ trace c r, Acted svc u trace c r ∧ x = ⟨.store c, .ok r⟩ := by
  rcases quiet_or_acted hs hu with hquiet | ⟨trace, c, r, hacted⟩
  · simp [hquiet x hx] at hcommitted
  · refine ⟨trace, c, r, hacted, ?_⟩
    rw [hacted.trace_eq, List.mem_append, List.mem_singleton] at hx
    rcases hx with hx | hx
    · simp [hacted.quiet x hx] at hcommitted
    · exact hx

/-- A store call that is no read is answered to a run whose job may act by it, and that has not acted
before. -/
theorem writes_of_step (hs : (saga store svc).Reachable cond s) {r : Except Error c.Result}
    (hstep : (sagaSpec store svc).Step s (.answer i (.store c) r) t) (hread : c.isRead = false) : ∃ job trace next,
      s.threads[i]? = some ⟨job, trace, .call (.store c) next⟩ ∧ job.Writes svc trace c ∧
      Never committed trace ∧ (store.semantics s.shared.store c).1 = r ∧
      t = ⟨⟨(store.semantics s.shared.store c).2, s.shared.issued⟩,
        s.threads.set i ⟨job, trace ++ [⟨.store c, r⟩], next r⟩⟩ := by
  cases hstep with
  | @answer i job trace _ next r shared hthread hanswer =>
    obtain ⟨hr, rfl⟩ := hanswer
    have hfollows := PoolSpec.follows_of_reachable (P := sagaSpec store svc) (K := Job.contract svc)
      Job.program_follows hs (PoolSpec.mem_threads.mpr ⟨i, hthread⟩)
    obtain ⟨hquiet, hmay | hwrites⟩ := hfollows.allowed
    · simp [Job.mayRead_isRead hmay] at hread
    · exact ⟨job, trace, next, hthread, hwrites, hquiet, hr, rfl⟩

theorem succeedsWith_of_step (hs : (saga store svc).Reachable cond s) (ht : (saga store svc).Reachable cond t)
    {r : c.Result} (hstep : (sagaSpec store svc).Step s (.answer i (.store c) (.ok r)) t) (hread : c.isRead = false)
    (hu : s.threads[i]? = some u) : SucceedsWith u (.store c) (.ok r) := by
  obtain ⟨job, trace, next, hthread, -, -, -, rfl⟩ := writes_of_step hs hstep hread
  rw [hthread] at hu
  cases hu
  refine ⟨next, rfl, ?_⟩
  have hmem : (⟨job, trace ++ [⟨.store c, .ok r⟩], next (.ok r)⟩ : SagaThread) ∈
      s.threads.set i ⟨job, trace ++ [⟨.store c, .ok r⟩], next (.ok r)⟩ :=
    List.mem_iff_getElem?.mpr ⟨i, (PoolSpec.getElem?_answer hthread).mpr (.inl ⟨rfl, rfl⟩)⟩
  obtain ⟨_, _, _, hacted, _⟩ := acted_of_mem ht hmem mem_last (committed_iff.mpr ⟨c, r, rfl, hread⟩)
  exact hacted.succeeded

theorem validated_of_saw (hs : (saga store svc).Reachable cond s) (hu : u ∈ s.threads) {deps : Dependencies}
    (hjob : u.job = .handle queue deps event) {orderID : String} {order : Order} (hsaw : Saw u.trace orderID order) :
    Validated queue event := by
  obtain ⟨_, _, _, _, hallowed⟩ := PoolSpec.allowed_of_reachable (P := sagaSpec store svc)
    (K := Job.contract svc) Job.program_follows hs hu hsaw
  rw [hjob] at hallowed
  rcases hallowed with ⟨hvalid, _⟩ | hwrites
  · exact hvalid
  · cases hwrites with
    | handle hvalid _ => exact hvalid

/-! ### Ids are handed out once -/

theorem issued_subset {w w' : World S} {c : Call} {r : c.Answer}
    (h : Answers store.semantics w c r w') : w.issued ⊆ w'.issued := by
  cases c with
  | store c => rw [h.2]; exact List.Subset.refl _
  | port c =>
    cases c with
    | newID kind => rw [h.2.2]; exact List.subset_cons_self _ _
    | clock => rw [show w' = w from h]; exact List.Subset.refl _
    | reserveInventory event => rw [show w' = w from h]; exact List.Subset.refl _
    | authorizePayment event => rw [show w' = w from h]; exact List.Subset.refl _
    | createShipment event => rw [show w' = w from h]; exact List.Subset.refl _

theorem given_snoc {c : Call} {r : c.Answer} (h : Given (trace ++ [⟨c, r⟩]) kind id) :
    Given trace kind id ∨ (⟨c, r⟩ : Exchange Call.Answer) = ⟨.port (.newID kind), id⟩ := by
  rcases List.mem_append.mp h with h | h
  · exact .inl h
  · exact .inr (List.mem_singleton.mp h).symm

/-- Every id a run was given has been handed out, and to that run alone. -/
structure IdsApart (s : SagaState S) : Prop where
  issued : ∀ u ∈ s.threads, ∀ kind id, Given u.trace kind id → id ∈ s.shared.issued
  apart : ∀ (i j : Nat) (u v : SagaThread), s.threads[i]? = some u → s.threads[j]? = some v →
    ∀ kind kind' id, Given u.trace kind id → Given v.trace kind' id → i = j

/-- The ids of a thread after a step: the old ones, or one that was new before the step. -/
theorem given_of_step (hstep : (sagaSpec store svc).Step s l t) {j : Nat} (hu : t.threads[j]? = some u)
    (hgiven : Given u.trace kind id) :
    (∃ v, s.threads[j]? = some v ∧ Given v.trace kind id) ∨
      id ∉ s.shared.issued ∧ id ∈ t.shared.issued ∧ ∃ c r, l = .answer j c r := by
  rcases hstep.thread_cases hu with hold | ⟨job, _, _, rfl⟩ | ⟨job, trace, c, next, r, hl, hold, hans, rfl⟩
  · exact .inl ⟨u, hold, hgiven⟩
  · simp [PoolSpec.fresh, Given] at hgiven
  · rcases given_snoc hgiven with hgiven | heq
    · exact .inl ⟨_, hold, hgiven⟩
    · cases heq
      exact .inr ⟨hans.2.1, by rw [hans.2.2]; exact List.mem_cons_self, _, _, hl⟩

theorem issued_subset_of_step (hstep : (sagaSpec store svc).Step s l t) : s.shared.issued ⊆ t.shared.issued := by
  cases hstep with
  | spawn => exact List.Subset.refl _
  | answer _ hanswer => exact issued_subset hanswer

theorem idsApart_of_reachable (hs : (saga store svc).Reachable cond s) : IdsApart s := by
  refine Lts.Reachable.invariant ?_ ?_ hs
  · rintro s ⟨_, hnil⟩
    exact ⟨by simp [hnil], by simp [hnil]⟩
  · intro s l t _ ih hstep _
    refine ⟨fun u hu kind id hgiven => ?_, fun i j u v hu hv kind kind' id hgu hgv => ?_⟩
    · obtain ⟨j, hj⟩ := PoolSpec.mem_threads.mp hu
      rcases given_of_step hstep hj hgiven with ⟨v, hv, hgiven⟩ | ⟨_, hnew, _⟩
      · exact issued_subset_of_step hstep
          (ih.issued v (PoolSpec.mem_threads.mpr ⟨j, hv⟩) kind id hgiven)
      · exact hnew
    · rcases given_of_step hstep hu hgu with ⟨u', hu', hgu⟩ | ⟨hnew, _, c, r, rfl⟩
      · rcases given_of_step hstep hv hgv with ⟨v', hv', hgv⟩ | ⟨hnew, _⟩
        · exact ih.apart i j u' v' hu' hv' kind kind' id hgu hgv
        · exact absurd (ih.issued u' (PoolSpec.mem_threads.mpr ⟨i, hu'⟩) kind id hgu) hnew
      · rcases given_of_step hstep hv hgv with ⟨v', hv', hgv⟩ | ⟨_, _, c', r', hl⟩
        · exact absurd (ih.issued v' (PoolSpec.mem_threads.mpr ⟨j, hv'⟩) kind' id hgv) hnew
        · cases hl
          rfl

theorem ne_empty_of_given (hs : (saga store svc).Reachable cond s) (hu : u ∈ s.threads)
    (hgiven : Given u.trace kind id) : id ≠ "" := by
  refine PoolSpec.exchange_invariant (P := sagaSpec store svc)
    (Ψ := fun _ x => ∀ kind id, x = ⟨.port (.newID kind), id⟩ → id ≠ "") ?_ ?_ hs ⟨u, hu, hgiven⟩ _ _ rfl
  · exact fun _ _ _ _ _ _ _ _ _ h => h
  · intro s i c r t _ hstep _ kind id heq
    cases heq
    cases hstep with
    | answer _ hanswer =>
      obtain ⟨⟨suffix, rfl⟩, _⟩ := hanswer
      simp [String.append_eq_empty_iff]

/-! ### Every event has its writer -/

theorem Job.Writes.given {r : c.Result} (hwrites : job.Writes svc trace c) (hevent : c.emitted r = some event) :
    Given trace "msg" event.messageID := by
  cases hwrites with
  | create _ hid _ =>
    simp only [StoreCall.emitted] at hevent
    split_ifs at hevent
    cases hevent
    exact hid
  | cancel _ hid => cases hevent; exact hid
  | handle _ hwrite => cases hwrite <;> cases hevent <;> assumption

theorem envelopes_of_step (hstep : (sagaSpec store svc).Step s l t) :
    (∃ job, l = .spawn job ∧ store.envelopes t = store.envelopes s) ∨
      ∃ i c r, l = .answer i c r ∧
        store.envelopes t = store.envelopes s ++ (emittedBy ⟨c, r⟩).toList := by
  cases hstep with
  | spawn job => exact .inl ⟨job, rfl, rfl⟩
  | @answer i job trace c next r shared _ hanswer =>
    refine .inr ⟨i, c, r, rfl, ?_⟩
    cases c with
    | store c =>
      obtain ⟨hr, rfl⟩ := hanswer
      cases r with
      | error err =>
        have hsame := store.failed _ _ _ hr
        simp [OutboxStore.envelopes, emittedBy, hsame]
      | ok r =>
        have happended := store.appended _ _ _ hr
        simp only [OutboxStore.envelopes, happended, emittedBy]
        cases c.emitted r <;> rfl
    | port c =>
      simp [OutboxStore.envelopes, emittedBy, Answers.store_eq hanswer]

theorem envelopes_subset_of_step (hstep : (sagaSpec store svc).Step s l t) :
    store.envelopes s ⊆ store.envelopes t := by
  rcases envelopes_of_step hstep with ⟨_, _, heq⟩ | ⟨_, _, _, _, heq⟩
  · rw [heq]; exact List.Subset.refl _
  · rw [heq]; exact List.subset_append_left _ _

theorem mem_envelopes_iff (hs : (saga store svc).Reachable cond s) :
    env ∈ store.envelopes s ↔ ∃ x, PoolSpec.Exchanged s x ∧ emittedBy x = some env := by
  refine Lts.Reachable.invariant
    (P := fun s => env ∈ store.envelopes s ↔ ∃ x, PoolSpec.Exchanged s x ∧ emittedBy x = some env)
    ?_ ?_ hs
  · rintro s ⟨⟨hstart, _⟩, hnil⟩
    simp [OutboxStore.envelopes, store.outbox_start _ hstart, hnil, PoolSpec.Exchanged]
  · intro s l t _ ih hstep _
    simp only [hstep.exchanged_iff]
    rcases envelopes_of_step hstep with ⟨job, rfl, heq⟩ | ⟨i, c, r, rfl, heq⟩
    · simpa [heq] using ih
    · rw [heq, List.mem_append, ih]
      constructor
      · rintro (⟨x, hx, henv⟩ | henv)
        · exact ⟨x, .inl hx, henv⟩
        · exact ⟨⟨c, r⟩, .inr ⟨i, rfl⟩, by simpa using henv⟩
      · rintro ⟨x, hx | ⟨j, hl⟩, henv⟩
        · exact .inl ⟨x, hx, henv⟩
        · cases hl
          exact .inr (by simpa using henv)

/-- **Every event has its writer**: a run that acted by writing it, under an id it was given. -/
theorem exists_writer (hs : (saga store svc).Reachable cond s) (henv : env ∈ store.envelopes s) :
    ∃ (i : Nat) (u : SagaThread) (trace : SagaTrace)
      (c : StoreCall) (r : c.Result) (event : OutboxEvent), s.threads[i]? = some u ∧
      Acted svc u trace c r ∧ c.emitted r = some event ∧ event.envelope = env := by
  obtain ⟨x, ⟨u, hu, hx⟩, hemitted⟩ := (mem_envelopes_iff hs).mp henv
  obtain ⟨trace, c, r, hacted, rfl⟩ := acted_of_mem hs hu hx (committed_of_emittedBy hemitted)
  obtain ⟨i, hi⟩ := PoolSpec.mem_threads.mp hu
  simp only [emittedBy, Option.map_eq_some_iff] at hemitted
  obtain ⟨event, hevent, henv⟩ := hemitted
  exact ⟨i, u, trace, c, r, event, hi, hacted, hevent, henv⟩

theorem Acted.mem {r : c.Result} (h : Acted svc u trace c r) :
    (⟨.store c, .ok r⟩ : Exchange Call.Answer) ∈ u.trace := by
  rw [h.trace_eq]
  exact mem_last

theorem Acted.subset {r : c.Result} (h : Acted svc u trace c r) : trace ⊆ u.trace := by
  rw [h.trace_eq]
  exact List.subset_append_left _ _

theorem Acted.given {r : c.Result} (h : Acted svc u trace c r) (hgiven : Given trace kind id) :
    Given u.trace kind id := h.subset hgiven

theorem Acted.unique {trace' : SagaTrace} {c' : StoreCall} {r : c.Result} {r' : c'.Result} (h : Acted svc u trace c r)
    (h' : Acted svc u trace' c' r') :
    trace = trace' ∧ (⟨.store c, .ok r⟩ : Exchange Call.Answer) = ⟨.store c', .ok r'⟩ := by
  have heq := h.trace_eq.symm.trans h'.trace_eq
  exact ⟨List.append_inj_left' heq rfl, by simpa using List.append_inj_right' heq rfl⟩

theorem emitted_unique {trace' : SagaTrace} {c' : StoreCall} {r : c.Result} {r' : c'.Result} {e e' : OutboxEvent}
    (h : Acted svc u trace c r) (h' : Acted svc u trace' c' r') (he : c.emitted r = some e)
    (he' : c'.emitted r' = some e') : e = e' := by
  obtain ⟨_, heq⟩ := h.unique h'
  cases heq
  rw [he] at he'
  exact Option.some.inj he'

/-- **Message ids are unique in the outbox.** -/
theorem nodup_messageIDs (hs : (saga store svc).Reachable cond s) :
    ((store.envelopes s).map (·.messageID)).Nodup := by
  refine Lts.Reachable.invariant (P := fun s => ((store.envelopes s).map (·.messageID)).Nodup) ?_ ?_ hs
  · rintro s ⟨⟨hstart, _⟩, _⟩
    simp [OutboxStore.envelopes, store.outbox_start _ hstart]
  · intro s l t hreach ih hstep hcond
    rcases envelopes_of_step hstep with ⟨job, rfl, heq⟩ | ⟨i, c, r, rfl, heq⟩
    · rw [heq]; exact ih
    · rw [heq]
      cases hemitted : emittedBy ⟨c, r⟩ with
      | none => simpa using ih
      | some env =>
        rw [Option.toList_some, List.map_append, List.nodup_append]
        refine ⟨ih, by simp, ?_⟩
        obtain ⟨c, r, heq', hread⟩ := committed_iff.mp (committed_of_emittedBy hemitted)
        cases heq'
        obtain ⟨job, trace, next, hthread, hwrites, _⟩ := writes_of_step hreach hstep hread
        simp only [emittedBy, Option.map_eq_some_iff] at hemitted
        obtain ⟨event, hevent, rfl⟩ := hemitted
        rintro _ hmem _ hnew rfl
        obtain ⟨env, henv, hid⟩ := List.mem_map.mp hmem
        rw [List.map_singleton, List.mem_singleton] at hnew
        obtain ⟨j, u, trace', c', r', event', hu, hacted, hevent', rfl⟩ := exists_writer hreach henv
        have hgiven : Given u.trace "msg" event.messageID := by
          have h := hacted.given (hacted.writes.given hevent')
          rwa [show event'.messageID = event.messageID from hid.trans hnew] at h
        have hij := (idsApart_of_reachable hreach).apart i j _ u hthread hu _ _ _
          (hwrites.given hevent) hgiven
        subst hij
        rw [hthread] at hu
        cases hu
        cases hacted.succeeded

theorem envelope_eq_of_messageID_eq (hs : (saga store svc).Reachable cond s) {a b : Envelope}
    (ha : a ∈ store.envelopes s) (hb : b ∈ store.envelopes s) (h : a.messageID = b.messageID) : a = b :=
  List.inj_on_of_nodup_map (nodup_messageIDs hs) ha hb h

/-! ### Causes and outcomes -/

/-- The types of the events a queue's handler writes. -/
def Queue.outcomes : Queue → List EventType
  | .inventoryReserve => [.inventoryReserved, .inventoryRejected]
  | .paymentsAuthorize => [.paymentAuthorized, .paymentFailed]
  | .shipmentsCreate => [.shipmentCreated, .shipmentFailed]
  | .ordersFinalize => [.orderCompleted]
  | .ordersCancel => [.orderCancelled, .orderManualReviewRequired]
  | .ordersCompensate | .notificationsEmail => []

theorem Queue.eq_of_outcome {q q' : Queue} {eventType : EventType} (h : eventType ∈ q.outcomes)
    (h' : eventType ∈ q'.outcomes) : q = q' := by
  cases eventType <;> cases q <;> simp [Queue.outcomes] at h <;> cases q' <;>
    simp_all [Queue.outcomes]

theorem HandlerWrites.next_spec {next : OutboxEvent} {r : c.Result} (h : HandlerWrites event trace queue c)
    (hnext : c.emitted r = some next) : next.eventType ∈ queue.outcomes ∧
      ∃ id now, next = nextEventAt id event next.eventType now := by
  cases h <;> cases hnext <;> exact ⟨by simp [Queue.outcomes, nextEventAt], _, _, rfl⟩

theorem cause_mem (hfrom : ∀ s l, cond s l → FromOutbox store s l) (hs : (saga store svc).Reachable cond s)
    (hu : u ∈ s.threads) {deps : Dependencies} (hjob : u.job = .handle queue deps event) :
    event.envelope ∈ store.envelopes s := by
  refine Lts.Reachable.invariant (P := fun s => ∀ u ∈ s.threads, ∀ queue deps event,
    u.job = .handle queue deps event → event.envelope ∈ store.envelopes s) ?_ ?_ hs u hu _ _ _ hjob
  · rintro s ⟨_, hnil⟩ u hu
    simp [hnil] at hu
  · intro s l t _ ih hstep hcond u hu queue deps event hjob
    refine envelopes_subset_of_step hstep ?_
    obtain ⟨j, hj⟩ := PoolSpec.mem_threads.mp hu
    rcases hstep.thread_cases hj with hold | ⟨job, rfl, _, rfl⟩ | ⟨job, trace, c, next, r, _, hold, _, rfl⟩
    · exact ih u (PoolSpec.mem_threads.mpr ⟨j, hold⟩) _ _ _ hjob
    · have hspawn := hfrom _ _ hcond
      rw [show job = _ from hjob] at hspawn
      exact hspawn
    · exact ih _ (PoolSpec.mem_threads.mpr ⟨j, hold⟩) _ _ _ hjob

/-- The writer of a stage's outcome is a successful run of the stage's queue on an event of the same
order, named as the cause. -/
theorem writer_of_outcome (hs : (saga store svc).Reachable cond s) (henv : env ∈ store.envelopes s)
    (htype : env.eventType ∈ queue.outcomes) :
    ∃ (i : Nat) (u : SagaThread) (trace : SagaTrace) (c : StoreCall) (r : c.Result)
      (next : OutboxEvent) (deps : Dependencies) (event : OutboxEvent), s.threads[i]? = some u ∧
      u.job = .handle queue deps event ∧ Acted svc u trace c r ∧ Validated queue event ∧
      HandlerWrites event trace queue c ∧ c.emitted r = some next ∧ next.envelope = env ∧
      env.orderID = event.orderID ∧ env.merchantID = event.merchantID := by
  obtain ⟨i, ⟨job, utrace, prog⟩, trace, c, r, next, hi, hacted, hnext, rfl⟩ := exists_writer hs henv
  have hwrites : job.Writes svc trace c := hacted.writes
  cases hwrites with
  | create =>
    simp only [StoreCall.emitted] at hnext
    split_ifs at hnext
    cases hnext
    cases queue <;> simp [Queue.outcomes, OutboxEvent.envelope, Service.createdEvent] at htype
  | cancel =>
    cases hnext
    cases queue <;> simp [Queue.outcomes, OutboxEvent.envelope, cancelRequestedEvent] at htype
  | @handle queue' deps event c hvalid hwrite =>
    obtain ⟨htype', id, now, heq⟩ := hwrite.next_spec hnext
    have hqueue : queue = queue' := Queue.eq_of_outcome htype htype'
    subst hqueue
    refine ⟨i, _, trace, c, r, next, deps, event, hi, rfl, hacted, hvalid, hwrite, hnext, rfl, ?_, ?_⟩
    · rw [heq]; rfl
    · rw [heq]; rfl

theorem writer_of_created (hs : (saga store svc).Reachable cond s) (henv : env ∈ store.envelopes s)
    (htype : env.eventType = .orderCreated) :
    ∃ (i : Nat) (u : SagaThread) (trace : SagaTrace) (c : StoreCall) (r : c.Result)
      (event : OutboxEvent), s.threads[i]? = some u ∧ Acted svc u trace c r ∧
      c.emitted r = some event ∧ event.envelope = env ∧ Given trace "ord" env.orderID := by
  obtain ⟨i, ⟨job, utrace, prog⟩, trace, c, r, event, hi, hacted, hevent, rfl⟩ := exists_writer hs henv
  refine ⟨i, _, trace, c, r, event, hi, hacted, hevent, rfl, ?_⟩
  have hwrites : job.Writes svc trace c := hacted.writes
  cases hwrites with
  | create horder _ _ =>
    simp only [StoreCall.emitted] at hevent
    split_ifs at hevent
    cases hevent
    exact horder
  | cancel =>
    cases hevent
    simp [OutboxEvent.envelope, cancelRequestedEvent] at htype
  | @handle queue deps cause c _ hwrite =>
    have hout := (hwrite.next_spec hevent).1
    rw [show event.eventType = .orderCreated from htype] at hout
    cases queue <;> simp [Queue.outcomes] at hout

/-! ### One outcome per stage -/

theorem not_succeeded_fresh : ¬ Succeeded ((sagaSpec store svc).fresh job) := by
  intro h
  have hfollows : (job.contract svc).Follows [] (job.program svc) := Job.program_follows job
  rw [show Job.program svc job = _ from h] at hfollows
  rcases hfollows.returns with ⟨x, hx, _⟩ | ⟨queue, deps, event, _, _, hnothing⟩
  · simp at hx
  · cases hnothing with
    | finalize hsaw => simp [Saw] at hsaw
    | cancel hsaw => simp [Saw] at hsaw

theorem Job.sameDelivery_symm {a b : Job} (h : a.sameDelivery b) : b.sameDelivery a := by
  cases a <;> cases b <;> simp_all [Job.sameDelivery]

theorem success_unique (honce : ∀ s l, cond s l → AtMostOnce s l) (hs : (saga store svc).Reachable cond s) {j : Nat}
    {v : SagaThread} (hu : s.threads[i]? = some u) (hv : s.threads[j]? = some v) (hsame : u.job.sameDelivery v.job)
    (hsu : Succeeded u) (hsv : Succeeded v) : i = j := by
  refine Lts.Reachable.invariant (P := fun s => ∀ (i j : Nat) (u v : SagaThread),
    s.threads[i]? = some u → s.threads[j]? = some v → u.job.sameDelivery v.job → Succeeded u →
    Succeeded v → i = j) ?_ ?_ hs i j u v hu hv hsame hsu hsv
  · rintro s ⟨_, hnil⟩ i j u v hu
    simp [hnil] at hu
  · intro s l t _ ih hstep hcond i j u v hu hv hsame hsu hsv
    rcases hstep.thread_cases hu with hu' | ⟨job, _, _, rfl⟩ | ⟨job, trace, c, next, r, rfl, hu', _, rfl⟩
    · rcases hstep.thread_cases hv with hv' | ⟨job, _, _, rfl⟩ | ⟨job, trace, c, next, r, rfl, hv', _, rfl⟩
      · exact ih i j u v hu' hv' hsame hsu hsv
      · exact absurd hsv not_succeeded_fresh
      · exact absurd hsu (honce _ _ hcond _ hv' ⟨next, rfl, hsv⟩ u (PoolSpec.mem_threads.mpr ⟨i, hu'⟩)
          (Job.sameDelivery_symm hsame))
    · exact absurd hsu not_succeeded_fresh
    · rcases hstep.thread_cases hv with hv' | ⟨job, hl, _, rfl⟩ | ⟨_, _, _, _, _, hl, _, _, rfl⟩
      · exact absurd hsv (honce _ _ hcond _ hu' ⟨next, rfl, hsu⟩ v (PoolSpec.mem_threads.mpr ⟨j, hv'⟩) hsame)
      · cases hl
      · cases hl
        rfl

theorem unfailed_unique (hexclusive : ∀ s l, cond s l → Exclusive s l) (hs : (saga store svc).Reachable cond s)
    {j : Nat} {v : SagaThread} (hu : s.threads[i]? = some u) (hv : s.threads[j]? = some v)
    (hsame : u.job.sameDelivery v.job) (hfu : ¬ Failed u) (hfv : ¬ Failed v) : i = j := by
  refine Lts.Reachable.invariant (P := fun s => ∀ (i j : Nat) (u v : SagaThread),
    s.threads[i]? = some u → s.threads[j]? = some v → u.job.sameDelivery v.job → ¬ Failed u →
    ¬ Failed v → i = j) ?_ ?_ hs i j u v hu hv hsame hfu hfv
  · rintro s ⟨_, hnil⟩ i j u v hu
    simp [hnil] at hu
  · intro s l t _ ih hstep hcond i j u v hu hv hsame hfu hfv
    have hpending : ∀ (job : Job) (trace : SagaTrace) (c : Call) (next : c.Answer → Saga (Except Error Unit)),
        ¬ Failed ⟨job, trace, .call c next⟩ := by
      rintro job trace c next ⟨err, herr⟩
      cases herr
    rcases hstep.thread_cases hu with hu' | ⟨job, rfl, rfl, rfl⟩ | ⟨job, trace, c, next, r, rfl, hu', _, rfl⟩
    · rcases hstep.thread_cases hv with hv' | ⟨job, rfl, rfl, rfl⟩ | ⟨_, _, _, _, _, _, hv', _, rfl⟩
      · exact ih i j u v hu' hv' hsame hfu hfv
      · exact absurd (hexclusive _ _ hcond u (PoolSpec.mem_threads.mpr ⟨i, hu'⟩)
          (Job.sameDelivery_symm hsame)) hfu
      · exact ih i j u _ hu' hv' hsame hfu (hpending _ _ _ _)
    · rcases hstep.thread_cases hv with hv' | ⟨_, _, rfl, _⟩ | ⟨_, _, _, _, _, hl, _⟩
      · exact absurd (hexclusive _ _ hcond v (PoolSpec.mem_threads.mpr ⟨j, hv'⟩) hsame) hfv
      · rfl
      · cases hl
    · rcases hstep.thread_cases hv with hv' | ⟨_, hl, _⟩ | ⟨_, _, _, _, _, hl, hv', _, rfl⟩
      · exact ih i j _ v hu' hv' hsame (hpending _ _ _ _) hfv
      · cases hl
      · exact ih i j _ _ hu' hv' hsame (hpending _ _ _ _) (hpending _ _ _ _)

theorem not_failed_of_succeeded (h : Succeeded u) : ¬ Failed u := by
  rintro ⟨err, herr⟩
  cases h.symm.trans herr

theorem atMostOnce_of_exclusive (hexclusive : ∀ s l, cond s l → Exclusive s l)
    (hs : (saga store svc).Reachable cond s) : AtMostOnce s l := by
  cases l with
  | spawn job => trivial
  | answer i c r =>
    rintro u hu ⟨next, hprog, _⟩ v hv hsame hsucceeded
    obtain ⟨j, hj⟩ := PoolSpec.mem_threads.mp hv
    have hpending : ¬ Failed u := by
      rintro ⟨err, herr⟩
      cases hprog.symm.trans herr
    have hij := unfailed_unique hexclusive hs hu hj hsame hpending (not_failed_of_succeeded hsucceeded)
    subst hij
    rw [hu] at hj
    cases hj
    cases hprog.symm.trans hsucceeded

theorem created_unique (hs : (saga store svc).Reachable cond s) {a b : Envelope}
    (ha : a ∈ store.envelopes s) (hb : b ∈ store.envelopes s) (horder : a.orderID = b.orderID)
    (hta : a.eventType = .orderCreated) (htb : b.eventType = .orderCreated) : a = b := by
  obtain ⟨i, u, trace, c, r, e, hu, hacted, he, rfl, hgiven⟩ := writer_of_created hs ha hta
  obtain ⟨j, v, trace', c', r', e', hv, hacted', he', rfl, hgiven'⟩ := writer_of_created hs hb htb
  rw [← horder] at hgiven'
  have hij := (idsApart_of_reachable hs).apart i j u v hu hv _ _ _ (hacted.given hgiven)
    (hacted'.given hgiven')
  subst hij
  rw [hu] at hv
  cases hv
  rw [emitted_unique hacted hacted' he he']

/-- An order has at most one event that a queue's handler acts on. -/
def OneCause (store : OutboxStore S) (s : SagaState S) (queue : Queue) : Prop :=
  ∀ a ∈ store.envelopes s, ∀ b ∈ store.envelopes s, a.orderID = b.orderID →
    queue.expects a.eventType = true → queue.expects b.eventType = true → a = b

/-- An order has at most one event written by a queue's handler. -/
def OneOutcome (store : OutboxStore S) (s : SagaState S) (queue : Queue) : Prop :=
  ∀ a ∈ store.envelopes s, ∀ b ∈ store.envelopes s, a.orderID = b.orderID →
    a.eventType ∈ queue.outcomes → b.eventType ∈ queue.outcomes → a = b

theorem OneCause.oneOutcome (hfrom : ∀ s l, cond s l → FromOutbox store s l)
    (honce : ∀ s l, cond s l → AtMostOnce s l) (hs : (saga store svc).Reachable cond s)
    (hcause : OneCause store s queue) : OneOutcome store s queue := by
  intro a ha b hb horder hta htb
  obtain ⟨i, u, _, c, r, e, deps, cause, hu, hjob, hacted, hvalid, _, he, rfl, hoa, _⟩ :=
    writer_of_outcome hs ha hta
  obtain ⟨j, v, _, c', r', e', deps', cause', hv, hjob', hacted', hvalid', _, he', rfl, hob, _⟩ :=
    writer_of_outcome hs hb htb
  have hsamecause : cause.envelope = cause'.envelope := by
    refine hcause _ (cause_mem hfrom hs (PoolSpec.mem_threads.mpr ⟨i, hu⟩) hjob) _
      (cause_mem hfrom hs (PoolSpec.mem_threads.mpr ⟨j, hv⟩) hjob') ?_ hvalid.expected hvalid'.expected
    exact hoa.symm.trans (horder.trans hob)
  have hsame : u.job.sameDelivery v.job := by
    rw [hjob, hjob']
    exact ⟨rfl, congrArg Envelope.messageID hsamecause⟩
  have hij := success_unique honce hs hu hv hsame hacted.succeeded hacted'.succeeded
  subst hij
  rw [hu] at hv
  cases hv
  rw [emitted_unique hacted hacted' he he']

/-- The queues of the forward stages. -/
def forwardQueues : List Queue := [.inventoryReserve, .paymentsAuthorize, .shipmentsCreate, .ordersFinalize]

/-- **One cause per stage.** When each event is handled successfully at most once per queue, an order
has at most one event for each of the forward stages to act on. -/
theorem oneCause (hfrom : ∀ s l, cond s l → FromOutbox store s l) (honce : ∀ s l, cond s l → AtMostOnce s l)
    (hs : (saga store svc).Reachable cond s) (hqueue : queue ∈ forwardQueues) : OneCause store s queue := by
  have hnext : ∀ queue queue' : Queue, OneCause store s queue →
      (∀ eventType, queue'.expects eventType = true → eventType ∈ queue.outcomes) →
      OneCause store s queue' := fun queue queue' hcause hexpects a ha b hb horder hta htb =>
    hcause.oneOutcome hfrom honce hs a ha b hb horder (hexpects _ hta) (hexpects _ htb)
  have hinventory : OneCause store s .inventoryReserve := fun a ha b hb horder hta htb =>
    created_unique hs ha hb horder (by simpa [Queue.expects] using hta) (by simpa [Queue.expects] using htb)
  have hpayment : OneCause store s .paymentsAuthorize :=
    hnext _ _ hinventory (by simp [Queue.expects, Queue.outcomes])
  have hshipment : OneCause store s .shipmentsCreate :=
    hnext _ _ hpayment (by simp [Queue.expects, Queue.outcomes])
  have hcompletion : OneCause store s .ordersFinalize :=
    hnext _ _ hshipment (by simp [Queue.expects, Queue.outcomes])
  simp only [forwardQueues, List.mem_cons, List.not_mem_nil, or_false] at hqueue
  rcases hqueue with rfl | rfl | rfl | rfl
  · exact hinventory
  · exact hpayment
  · exact hshipment
  · exact hcompletion

/-- **One outcome per stage.** -/
theorem oneOutcome (hfrom : ∀ s l, cond s l → FromOutbox store s l) (honce : ∀ s l, cond s l → AtMostOnce s l)
    (hs : (saga store svc).Reachable cond s) (hqueue : queue ∈ forwardQueues) : OneOutcome store s queue :=
  (oneCause hfrom honce hs hqueue).oneOutcome hfrom honce hs

theorem no_outcome_before (hfrom : ∀ s l, cond s l → FromOutbox store s l) (honce : ∀ s l, cond s l → AtMostOnce s l)
    (ht : (saga store svc).Reachable cond t) (hqueue : queue ∈ forwardQueues)
    (hevents : store.envelopes t = store.envelopes s ++ [env]) (henv : env.eventType ∈ queue.outcomes) :
    ∀ old ∈ store.envelopes s, old.orderID = env.orderID → old.eventType ∉ queue.outcomes := by
  intro old hold horder htype
  have heq : old = env := oneOutcome hfrom honce ht hqueue old
    (by rw [hevents]; exact List.mem_append_left _ hold) env
    (by rw [hevents]; exact List.mem_append_right _ (List.mem_singleton_self _)) horder htype henv
  have hnodup := nodup_messageIDs ht
  rw [hevents, List.map_append, List.nodup_append] at hnodup
  exact hnodup.2.2 _ (List.mem_map_of_mem hold) _ (List.mem_map_of_mem (List.mem_singleton_self _))
    (by rw [heq])

end FulfillHub
