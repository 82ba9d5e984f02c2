import FulfillHub.Fulfillment.Creation

/-!
# Merchants do not see each other's keys

When no merchant id contains a colon, what an insertion answers is decided by the merchant's own earlier
insertions: the same call is answered alike in any two runs in which the merchant has inserted the same
orders, whatever the others did. With a colon the scopes overlap, and one merchant's idempotency key can
replay another merchant's order.
-/

namespace FulfillHub

open Interaction

variable {svc : Service} {s t : MemorySaga} {m key : String} {order : Order} {cond : MemorySaga → SagaLabel → Prop}

/-- The merchant of a creation has an id without a colon. -/
def Job.plainMerchant : Job → Bool
  | .createOrder merchantID _ _ _ => !merchantID.toList.contains ':'
  | _ => true

def PlainMerchants (_ : MemorySaga) : SagaLabel → Prop
  | .spawn job => job.plainMerchant = true
  | .answer _ _ _ => True

instance (s : MemorySaga) : (l : SagaLabel) → Decidable (PlainMerchants s l)
  | .spawn job => inferInstanceAs (Decidable (job.plainMerchant = true))
  | .answer _ _ _ => isTrue trivial

/-- Insertions are made for the merchants of creations. -/
theorem plain_of_insert (hcond : ∀ s l, cond s l → PlainMerchants s l) (hs : (memorySaga svc).Reachable cond s)
    {u : SagaThread} (hu : u ∈ s.threads) {event : OutboxEvent} {audit : AuditLog} {trace : SagaTrace}
    (hwrites : u.job.Writes svc trace (.insertOrder m key order event audit)) : ':' ∉ m.toList := by
  have hplain := PoolSpec.job_of_reachable (P := sagaSpec memoryOutboxStore svc)
    (fun s job => hcond s (.spawn job)) hs hu
  obtain ⟨job, utrace, prog⟩ := u
  cases hwrites with
  | create => simpa [PlainMerchants, Job.plainMerchant] using hplain
  | handle _ hwrite => cases hwrite

theorem plain_of_answered (hcond : ∀ s l, cond s l → PlainMerchants s l) (hs : (memorySaga svc).Reachable cond s)
    {answer : Option Order} {replayed : Bool} (h : Answered s m key answer replayed) : ':' ∉ m.toList := by
  obtain ⟨⟨c, r⟩, ⟨u, hu, hx⟩, hanswered⟩ := h
  obtain ⟨before, _, _, _, hallowed⟩ := PoolSpec.allowed_of_reachable (P := sagaSpec memoryOutboxStore svc)
    (K := Job.contract svc) Job.program_follows hs hu hx
  cases c with
  | port c => cases hanswered
  | store c =>
    cases c with
    | insertOrder =>
      cases r with
      | error err => cases hanswered
      | ok r =>
        cases hanswered
        rcases hallowed with hread | hwrites
        · cases Job.mayRead_isRead hread
        · exact plain_of_insert hcond hs hu hwrites
    | getOrder => cases hanswered
    | updateOrderStatus => cases hanswered
    | projector => cases hanswered

/-- What an insertion answers, in terms of the merchant's own insertions. -/
inductive OwnOutcome (s : MemorySaga) (m key : String) (order : Order) :
    Except Error (Option Order × Bool) → Prop
  | replayed (inserted answer : Order) (hinserted : Answered s m key (some inserted) false)
      (hterms : answer.terms = inserted.terms) (hmerchant : inserted.merchantID = m) :
      OwnOutcome s m key order (.ok (some answer, true))
  | duplicate (key' : String) (inserted : Order) (hnone : ∀ o, ¬ Answered s m key (some o) false)
      (hinserted : Answered s m key' (some inserted) false)
      (hexternal : inserted.externalOrderID = order.externalOrderID) :
      OwnOutcome s m key order (.error errDuplicateOrder)
  | inserted (hnone : ∀ o, ¬ Answered s m key (some o) false)
      (hfree : ∀ key' o, Answered s m key' (some o) false → o.externalOrderID ≠ order.externalOrderID) :
      OwnOutcome s m key order (.ok (some order, false))

theorem own_outcome (hcond : ∀ s l, cond s l → PlainMerchants s l) (hs : (memorySaga svc).Reachable cond s) {i : Nat}
    {event : OutboxEvent} {audit : AuditLog} {r : Except Error (Option Order × Bool)}
    (hstep : (sagaSpec memoryOutboxStore svc).Step s (.answer i (.store (.insertOrder m key order event audit)) r) t) :
    OwnOutcome s m key order r := by
  have hindexed := indexed_of_reachable hs
  obtain ⟨job, trace, next, hthread, hwrites, _, hr, -⟩ := writes_of_step hs hstep rfl
  have hplain : ':' ∉ m.toList := plain_of_insert hcond hs (PoolSpec.mem_threads.mpr ⟨i, hthread⟩) hwrites
  have hnone : s.shared.store.ordersByIdempotency.lookup (scopedKey m key) = none →
      ∀ o, ¬ Answered s m key (some o) false := by
    intro hkey o hanswered
    obtain ⟨_, _, hlookup⟩ := hindexed.answers m key _ _ hanswered
    rw [hkey] at hlookup
    cases hlookup
  have houtcome := MemoryStore.insertOrder_outcome s.shared.store m key order event audit
  rw [show (s.shared.store.insertOrder m key order event audit).1 = r from hr] at houtcome
  generalize (s.shared.store.insertOrder m key order event audit).2 = store at houtcome
  cases houtcome with
  | replayed existingID hkey =>
    obtain ⟨m', key', inserted, hsame, rfl, hinserted⟩ := hindexed.idempotency _ _ hkey
    obtain ⟨rfl, rfl⟩ := scopedKey_inj hplain (plain_of_answered hcond hs hinserted) hsame
    obtain ⟨_, hterms, hmerchant⟩ := hindexed.inserted m key inserted hinserted
    obtain ⟨answer, hanswer, hterms⟩ := Option.map_eq_some_iff.mp hterms
    rw [show s.shared.store.orders.lookup inserted.orderID = some answer from hanswer]
    exact .replayed inserted answer hinserted hterms hmerchant
  | duplicate existingID hkey hexternal =>
    obtain ⟨m', key', inserted, hsame, _, hinserted⟩ := hindexed.external _ _ hexternal
    obtain ⟨rfl, hvalue⟩ := scopedKey_inj hplain (plain_of_answered hcond hs hinserted) hsame
    exact .duplicate key' inserted (hnone hkey) hinserted hvalue.symm
  | inserted hkey hexternal =>
    refine .inserted (hnone hkey) fun key' o hanswered hsame => ?_
    have hlookup := (hindexed.inserted m key' o hanswered).1
    rw [hsame, hexternal] at hlookup
    cases hlookup

/-- The part of an answer that identifies it: the error, or the order's id and whether it is a replay. -/
def outcome (r : Except Error (Option Order × Bool)) : Except Error (Option String × Bool) :=
  r.map fun x => (x.1.map Order.orderID, x.2)

theorem OwnOutcome.unique {s' : MemorySaga} {r r' : Except Error (Option Order × Bool)}
    (hindexed : Indexed s)
    (hsame : ∀ key o, Answered s m key (some o) false ↔ Answered s' m key (some o) false)
    (h : OwnOutcome s m key order r) (h' : OwnOutcome s' m key order r') : outcome r = outcome r' := by
  cases h with
  | replayed inserted answer hinserted hterms =>
    cases h' with
    | replayed inserted' answer' hinserted' hterms' =>
      obtain ⟨_, heq, hlookup⟩ := hindexed.answers m key _ _ hinserted
      obtain ⟨_, heq', hlookup'⟩ := hindexed.answers m key _ _ ((hsame key inserted').mpr hinserted')
      cases heq
      cases heq'
      rw [hlookup] at hlookup'
      have hid : answer.orderID = answer'.orderID := (congrArg Terms.orderID hterms).trans
        ((Option.some.inj hlookup').trans (congrArg Terms.orderID hterms').symm)
      simp [outcome, Except.map, hid]
    | duplicate key' _ hnone => exact absurd ((hsame key inserted).mp hinserted) (hnone inserted)
    | inserted hnone => exact absurd ((hsame key inserted).mp hinserted) (hnone inserted)
  | duplicate key' inserted hnone hinserted hexternal =>
    cases h' with
    | replayed inserted' _ hinserted' =>
      exact absurd ((hsame key inserted').mpr hinserted') (hnone inserted')
    | duplicate => rfl
    | inserted _ hfree => exact absurd hexternal (hfree key' inserted ((hsame key' inserted).mp hinserted))
  | inserted hnone hfree =>
    cases h' with
    | replayed inserted' _ hinserted' =>
      exact absurd ((hsame key inserted').mpr hinserted') (hnone inserted')
    | duplicate key' inserted' _ hinserted' hexternal' =>
      exact absurd hexternal' (hfree key' inserted' ((hsame key' inserted').mpr hinserted'))
    | inserted => rfl

/-- **A merchant's keys and external ids are its own** in every run whose merchants have ids without a
colon: a replay returns an order of the merchant, a duplicate is one of the merchant's, and the answer is
the same in any two runs in which the merchant has inserted the same orders. -/
theorem scopes_disjoint (svc : Service) {s t : MemorySaga} (hs : (memorySaga svc).Reachable PlainMerchants s)
    {i : Nat} {m key : String} {order : Order} {event : OutboxEvent} {audit : AuditLog}
    {r : Except Error (Option Order × Bool)}
    (hstep : (memorySaga svc).step s (.answer i (.store (.insertOrder m key order event audit)) r) t) :
    (∀ answer, r = .ok (answer, true) → ∃ replayed, answer = some replayed ∧ replayed.merchantID = m) ∧
    (r = .error errDuplicateOrder → ∃ orderID existing, orderOf s orderID = some existing ∧
      existing.merchantID = m ∧ existing.externalOrderID = order.externalOrderID) ∧
    ∀ s' t' i' event' audit' r', (memorySaga svc).Reachable PlainMerchants s' →
      (memorySaga svc).step s' (.answer i' (.store (.insertOrder m key order event' audit')) r') t' →
      (∀ key o, Answered s m key (some o) false ↔ Answered s' m key (some o) false) →
      outcome r = outcome r' := by
  have hindexed := indexed_of_reachable hs
  have hown := own_outcome (fun _ _ h => h) hs hstep
  refine ⟨?_, ?_, ?_⟩
  · rintro answer rfl
    cases hown with
    | replayed inserted answer _ hterms hmerchant =>
      exact ⟨answer, rfl, (congrArg Terms.merchantID hterms).trans hmerchant⟩
  · rintro rfl
    cases hown with
    | duplicate key' inserted _ hinserted hexternal =>
      obtain ⟨_, hterms, hmerchant⟩ := hindexed.inserted m key' inserted hinserted
      obtain ⟨existing, hexisting, hterms⟩ := Option.map_eq_some_iff.mp hterms
      exact ⟨inserted.orderID, existing, hexisting, (congrArg Terms.merchantID hterms).trans hmerchant,
        (congrArg Terms.externalOrderID hterms).trans hexternal⟩
  · intro s' t' i' event' audit' r' hs' hstep' hsame
    exact hown.unique hindexed hsame (own_outcome (fun _ _ h => h) hs' hstep')

/-- The merchant of an insertion that waits to be answered, and the order it would replay. -/
def replayAt (s : MemorySaga) (i : Nat) : Option (String × Order) :=
  match s.threads[i]? with
  | some ⟨_, _, .call (.store (.insertOrder m key order event audit)) _⟩ =>
    match (s.shared.store.insertOrder m key order event audit).1 with
    | .ok (some answer, true) => some (m, answer)
    | _ => none
  | _ => none

theorem step_of_replayAt {i : Nat} {answer : Order} (h : replayAt s i = some (m, answer)) :
    ∃ key order event audit t, (memorySaga svc).step s
      (.answer i (.store (.insertOrder m key order event audit)) (.ok (some answer, true))) t := by
  unfold replayAt at h
  split at h
  · rename_i job trace m' key order event audit next hthread
    split at h
    · rename_i answer' hanswer
      cases h
      exact ⟨key, order, event, audit, _, .answer hthread ⟨hanswer, rfl⟩⟩
    · cases h
  · cases h

/-- A creation for a merchant that has been through its steps up to the insertion, as thread `i`. -/
def insertActs (i : Nat) (merchantID idempotencyKey : String) : List Act :=
  [.start (.createOrder merchantID idempotencyKey "corr-1" sampleCommand), .reply i (.time 1),
    .reply i (.id (toString i)), .reply i (.id (toString i))]

/-- A merchant repeats a creation and gets its own order back. -/
theorem scopes_disjoint_repeated : ∃ s t i m key order event audit answer,
    (memorySaga sampleService).Reachable PlainMerchants s ∧
    (memorySaga sampleService).step s
      (.answer i (.store (.insertOrder m key order event audit)) (.ok (some answer, true))) t ∧
    answer.merchantID = m := by
  obtain ⟨s, hs, hreplay⟩ := (memorySimulator sampleService).exists_reachable
    (Q := fun s => (replayAt s 1).isSome = true) (decides_decide PlainMerchants) reachable_emptySaga
    (insertActs 0 "m1" "idempotency-key-1" ++ [.store 0] ++ insertActs 1 "m1" "idempotency-key-1") (by decide)
  obtain ⟨⟨m, answer⟩, hanswer⟩ := Option.isSome_iff_exists.mp hreplay
  obtain ⟨key, order, event, audit, t, hstep⟩ := step_of_replayAt hanswer
  obtain ⟨replayed, heq, hmerchant⟩ := (scopes_disjoint sampleService hs hstep).1 _ rfl
  cases heq
  exact ⟨s, t, 1, m, key, order, event, audit, answer, hs, hstep, hmerchant⟩

/-- The merchant `m1` uses a key that starts like the rest of the id of the merchant `m1:a`, and gets that
merchant's order. -/
theorem scopes_collide : ∃ s t i m key order event audit answer,
    (memorySaga sampleService).Reachable Lts.anyStep s ∧
    (memorySaga sampleService).step s
      (.answer i (.store (.insertOrder m key order event audit)) (.ok (some answer, true))) t ∧
    answer.merchantID ≠ m := by
  obtain ⟨s, hs, hreplay⟩ := (memorySimulator sampleService).exists_reachable
    (Q := fun s => (replayAt s 1).any (fun x => decide (x.2.merchantID ≠ x.1)) = true) decides_anyStep
    reachable_emptySaga
    (insertActs 0 "m1:a" "idempotency-1" ++ [.store 0] ++ insertActs 1 "m1" "a:idempotency-1") (by decide)
  obtain ⟨⟨m, answer⟩, hanswer, hother⟩ := (Option.any_eq_true _ _).mp hreplay
  obtain ⟨key, order, event, audit, t, hstep⟩ := step_of_replayAt hanswer
  exact ⟨s, t, 1, m, key, order, event, audit, answer, hs, hstep, of_decide_eq_true hother⟩

end FulfillHub
