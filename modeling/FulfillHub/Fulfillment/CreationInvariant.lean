import FulfillHub.Commerce.MemoryOutbox
import FulfillHub.Fulfillment.TenantScopes

/-!
# The whole store

The in-memory store with everything that works on it: merchants' calls, handlers and relays. Relays only
touch the marks of the outbox, so a run of the platform is a run of the saga with claims and marks in
between. What orders, index, outbox and audit trail say about created orders agrees in every state of such
a run.
-/

namespace FulfillHub

open Interaction

variable {svc : Service} {cond : MemorySaga → SagaLabel → Prop} {s t : MemorySaga} {l : SagaLabel}
  {orderID : String}

/-! ### Stored orders were inserted -/

theorem inserted_of_stored (hs : (memorySaga svc).Reachable cond s) {terms : Terms}
    (hterms : termsOf s orderID = some terms) :
    ∃ m key order, Answered s m key (some order) false ∧ order.orderID = orderID ∧ order.terms = terms := by
  refine Lts.Reachable.invariant (P := fun s => ∀ terms, termsOf s orderID = some terms → ∃ m key order,
    Answered s m key (some order) false ∧ order.orderID = orderID ∧ order.terms = terms) ?_ ?_ hs terms hterms
  · rintro s ⟨⟨hstart, _⟩, _⟩ terms hterms
    have hstore : s.shared.store = newMemoryStore := hstart
    simp [termsOf, orderOf, hstore, newMemoryStore] at hterms
  · intro s l t hreach ih hstep _ terms hterms
    cases hold : termsOf s orderID with
    | some terms' =>
      obtain ⟨m, key, order, hanswered, hid, horder⟩ := ih terms' hold
      rw [terms_kept hreach hstep hold] at hterms
      cases hterms
      exact ⟨m, key, order, (answered_iff hstep).mpr (.inl hanswered), hid, horder⟩
    | none =>
      rcases memory_step hreach hstep with ⟨horders, _⟩ |
        ⟨i, trace, m, key, corr, newID, id, req, now, audit, next, rfl, _, _, _, horders, _⟩ |
        ⟨i, c, r, job, trace, next, changedID, p, order, _, _, _, _, horder, _, horders, _⟩
      · rw [termsOf, orderOf_congr horders, ← termsOf, hold] at hterms
        cases hterms
      · rw [termsOf_insert horders] at hterms
        split_ifs at hterms with hid
        · cases hterms
          exact ⟨m, key, _, (answered_iff hstep).mpr (.inr ⟨i, _, _, rfl, rfl⟩), hid.symm, rfl⟩
        · rw [hold] at hterms
          cases hterms
      · rw [termsOf_insert horders] at hterms
        split_ifs at hterms with hid
        · rw [hid, termsOf, horder] at hold
          cases hold
        · rw [hold] at hterms
          cases hterms

/-! ### The records of a creation -/

def createdEvents (s : MemorySaga) (orderID : String) : List OutboxEvent :=
  s.shared.store.outbox.filter fun event => decide (event.orderID = orderID ∧ event.eventType = .orderCreated)

def createAudits (s : MemorySaga) (orderID : String) : List AuditLog :=
  s.shared.store.auditLogs.filter fun audit => decide (audit.orderID = orderID ∧ audit.action = "order.create")

theorem audit_of_pending (hs : (memorySaga svc).Reachable cond s) {i : Nat} {job : Job} {trace : SagaTrace}
    {c : StoreCall} {next : Except Error c.Result → Saga (Except Error Unit)}
    (hthread : s.threads[i]? = some ⟨job, trace, .call (.store c) next⟩) : c.AuditNamed :=
  (PoolSpec.calls_of_reachable (P := sagaSpec memoryOutboxStore svc) (p := Call.AuditNamed)
    (Job.program_audit svc) hs (PoolSpec.mem_threads.mpr ⟨i, hthread⟩)).1.head

theorem records_of_step (hs : (memorySaga svc).Reachable cond s)
    (hstep : (sagaSpec memoryOutboxStore svc).Step s l t) (orderID : String) :
    ((orderOf t orderID).isSome = (orderOf s orderID).isSome ∧ createdEvents t orderID = createdEvents s orderID ∧
      createAudits t orderID = createAudits s orderID) ∨
    ∃ event audit, orderOf s orderID = none ∧ (orderOf t orderID).isSome = true ∧
      createdEvents t orderID = createdEvents s orderID ++ [event] ∧
      createAudits t orderID = createAudits s orderID ++ [audit] := by
  rcases store_step hs hstep with hstore | ⟨i, c, r, job, trace, next, -, hthread, hwrites, hwritten⟩
  · left
    rw [orderOf, createdEvents, createAudits, hstore]
    exact ⟨rfl, rfl, rfl⟩
  have hnamed := audit_of_pending hs hthread
  generalize hstore : t.shared.store = store at hwritten
  cases hwritten with
  | inserted m key order event audit =>
    obtain ⟨hauditID, haction⟩ := hnamed
    have hevent : event.orderID = order.orderID ∧ event.eventType = .orderCreated ∧
        orderOf s order.orderID = none := by
      cases hwrites with
      | create hgiven => exact ⟨rfl, rfl, orderOf_eq_none_of_given hs hthread hgiven⟩
      | handle _ hwrite => cases hwrite
    by_cases hid : orderID = order.orderID
    · right
      refine ⟨event.withEnvelopeDefaults, audit, hid ▸ hevent.2.2, ?_, ?_, ?_⟩
      · rw [orderOf, hstore, MemoryStore.withOrder, hid, Finmap.lookup_insert]
        rfl
      · simp [createdEvents, hstore, MemoryStore.withOrder, List.filter_append, hevent.1, hevent.2.1, hid]
      · simp [createAudits, hstore, MemoryStore.withOrder, List.filter_append, hauditID, haction, hid]
    · left
      refine ⟨?_, ?_, ?_⟩
      · rw [orderOf, hstore, MemoryStore.withOrder, Finmap.lookup_insert_of_ne _ hid]
        rfl
      · simp [createdEvents, hstore, MemoryStore.withOrder, List.filter_append, hevent.1, Ne.symm hid]
      · simp [createAudits, hstore, MemoryStore.withOrder, List.filter_append, hauditID, Ne.symm hid]
  | projected _ _ changedID p order audit heffect haudit horder =>
    left
    have haction : audit.action ≠ "order.create" := by
      cases c with
      | insertOrder => cases heffect
      | getOrder => cases heffect
      | updateOrderStatus => cases haudit; exact hnamed
      | projector c => cases haudit; exact hnamed
    refine ⟨?_, ?_, ?_⟩
    · rw [orderOf, hstore, MemoryStore.commit_orders]
      by_cases hid : orderID = changedID
      · rw [hid, Finmap.lookup_insert, orderOf, horder]
        rfl
      · rw [Finmap.lookup_insert_of_ne _ hid]
        rfl
    · rw [createdEvents, hstore, MemoryStore.commit_outbox, List.filter_append, createdEvents]
      have hnone : ((p.event order).toList.map OutboxEvent.withEnvelopeDefaults).filter (fun event =>
          decide (event.orderID = orderID ∧ event.eventType = .orderCreated)) = [] := by
        cases hevent : p.event order with
        | none => rfl
        | some event =>
          have henvelope := MemoryStore.event_envelope (r := r) order heffect
          rw [hevent] at henvelope
          obtain ⟨emitted, hemitted, hsame⟩ := Option.map_eq_some_iff.mp henvelope.symm
          have htype := (hwrites.emitted_of_effect heffect hemitted).2
          have hsame : emitted.eventType = event.eventType := congrArg Envelope.eventType hsame
          simp [← hsame, htype]
      rw [hnone, List.append_nil]
    · simp [createAudits, hstore, MemoryStore.commit_auditLogs, List.filter_append, haction]

/-- An order is stored exactly when its creation is recorded, once in the outbox and once in the audit
trail. -/
theorem records_of_reachable (hs : (memorySaga svc).Reachable cond s) (orderID : String) :
    (createdEvents s orderID).length = (if (orderOf s orderID).isSome then 1 else 0) ∧
      (createAudits s orderID).length = if (orderOf s orderID).isSome then 1 else 0 := by
  refine Lts.Reachable.invariant (P := fun s =>
    (createdEvents s orderID).length = (if (orderOf s orderID).isSome then 1 else 0) ∧
      (createAudits s orderID).length = if (orderOf s orderID).isSome then 1 else 0) ?_ ?_ hs
  · rintro s ⟨⟨hstart, _⟩, _⟩
    have hstore : s.shared.store = newMemoryStore := hstart
    simp [createdEvents, createAudits, orderOf, hstore, newMemoryStore]
  · intro s l t hreach ih hstep _
    rcases records_of_step hreach hstep orderID with ⟨hsame, hevents, haudits⟩ |
      ⟨event, audit, hnone, hsome, hevents, haudits⟩
    · rwa [hsame, hevents, haudits]
    · rw [hnone] at ih
      rw [hsome, hevents, haudits, List.length_append, List.length_append, ih.1, ih.2]
      exact ⟨rfl, rfl⟩

/-! ### The platform -/

/-- The saga together with the marks of the outbox. -/
structure Platform where
  saga : MemorySaga
  marks : OutboxMarks

inductive PlatformLabel
  | saga (l : SagaLabel)
  | claim (limit : Int) (now : Time)
  | mark (messageID : String) (publishedAt : Time)

def platform (svc : Service) : Lts Platform PlatformLabel where
  init p := (memorySaga svc).init p.saga ∧ p.marks = .empty
  step p l q := match l with
    | .saga l => (memorySaga svc).step p.saga l q.saga ∧ q.marks = p.marks
    | .claim limit now => q.saga = p.saga ∧
        q.marks = (p.marks.pendingOutboxEvents p.saga.shared.store.outbox limit now).2
    | .mark messageID publishedAt => q.saga = p.saga ∧
        q.marks = p.marks.markOutboxPublished messageID publishedAt

/-- A condition on the steps of the saga. -/
def OnSaga (cond : MemorySaga → SagaLabel → Prop) (p : Platform) : PlatformLabel → Prop
  | .saga l => cond p.saga l
  | _ => True

variable {p q : Platform}

theorem saga_of_platform (hp : (platform svc).Reachable (OnSaga cond) p) :
    (memorySaga svc).Reachable cond p.saga := by
  induction hp with
  | start hinit => exact .start hinit.1
  | @step p q l _ hstep hcond ih =>
    cases l with
    | saga l => exact .step ih hstep.1 hcond
    | claim limit now => exact hstep.1 ▸ ih
    | mark messageID publishedAt => exact hstep.1 ▸ ih

theorem terms_of_platform_path {ls : List PlatformLabel} (hp : (platform svc).Reachable (OnSaga cond) p)
    (hpath : (platform svc).Path (OnSaga cond) p ls q) {terms : Terms}
    (hterms : termsOf p.saga orderID = some terms) : termsOf q.saga orderID = some terms := by
  induction hpath with
  | nil => exact hterms
  | @cons p r q l ls hstep hcond _ ih =>
    refine ih (.step hp hstep hcond) ?_
    cases l with
    | saga l => exact terms_kept (saga_of_platform hp) hstep.1 hterms
    | claim limit now => exact hstep.1 ▸ hterms
    | mark messageID publishedAt => exact hstep.1 ▸ hterms

/-! ### Creation -/

theorem unchanged_of_creation (hs : (memorySaga svc).Reachable cond s) {i : Nat} {c : Call} {r : c.Answer}
    (hstep : (sagaSpec memoryOutboxStore svc).Step s (.answer i c r) t) {u : SagaThread} {m key corr : String}
    {req : CreateOrderCommand} (hthread : s.threads[i]? = some u) (hjob : u.job = .createOrder m key corr req)
    (hnone : ∀ order, answeredBy ⟨c, r⟩ ≠ some (m, key, some order, false)) :
    t.shared.store = s.shared.store := by
  rcases store_step hs hstep with hstore | ⟨j, c', r', job, trace, next, hlabel, hthread', hwrites, hwritten⟩
  · exact hstore
  · cases hlabel
    rw [hthread'] at hthread
    cases hthread
    cases hjob
    cases hwrites with
    | create =>
      generalize t.shared.store = store at hwritten
      cases hwritten with
      | inserted => exact absurd rfl (hnone _)
      | projected _ _ _ _ _ _ heffect => cases heffect

theorem replayed_iff (hs : (memorySaga svc).Reachable PlainMerchants s) {i : Nat} {c : Call} {r : c.Answer}
    (hstep : (sagaSpec memoryOutboxStore svc).Step s (.answer i c r) t) {m key : String}
    {answer : Option Order} {replayed : Bool} (hanswer : answeredBy ⟨c, r⟩ = some (m, key, answer, replayed))
    (hplain : ':' ∉ m.toList) :
    replayed = false ↔ ∀ earlier b, ¬ Answered s m key earlier b := by
  have hindexed := indexed_of_reachable hs
  cases index_step hstep with
  | same _ _ hreplay =>
    obtain ⟨rfl, existingID, hkey, _⟩ := hreplay i c r m key answer replayed rfl hanswer
    obtain ⟨m', key', order, hsame, _, hanswered⟩ := hindexed.idempotency _ _ hkey
    obtain ⟨rfl, rfl⟩ := scopedKey_inj hplain (plain_of_answered (fun _ _ h => h) hs hanswered) hsame
    constructor
    · intro h
      cases h
    · intro h
      exact absurd hanswered (h _ _)
  | inserted j m' key' order event audit hlabel hkey =>
    cases hlabel
    cases hanswer
    refine ⟨fun _ earlier b hearlier => ?_, fun _ => rfl⟩
    obtain ⟨_, _, hlookup⟩ := hindexed.answers _ _ _ _ hearlier
    rw [hkey] at hlookup
    cases hlookup

/-- **What the parts of the store say about created orders agrees**: the orders, the two maps of the index,
the answers of the creations (a creation returns what its insertion is answered), the outbox and the audit
trail; and no order's terms ever change. -/
structure CreationInvariant (svc : Service) (p : Platform) : Prop where
  one_order : ∀ id id' order order', orderOf p.saga id = some order → orderOf p.saga id' = some order' →
    order.merchantID = order'.merchantID → order.externalOrderID = order'.externalOrderID → id = id'
  external : ∀ k id, p.saga.shared.store.ordersByExternal.lookup k = some id → ∃ order,
    orderOf p.saga id = some order ∧ order.orderID = id ∧ ':' ∉ order.merchantID.toList ∧
      k = scopedKey order.merchantID order.externalOrderID
  idempotency : ∀ k id, p.saga.shared.store.ordersByIdempotency.lookup k = some id → ∃ order key,
    orderOf p.saga id = some order ∧ order.orderID = id ∧ ':' ∉ order.merchantID.toList ∧
      k = scopedKey order.merchantID key
  results : ∀ m key answer answer' b b', Answered p.saga m key answer b → Answered p.saga m key answer' b' →
    ∃ order order', answer = some order ∧ answer' = some order' ∧ order.orderID = order'.orderID
  first : ∀ i c r q m key answer replayed, (platform svc).step p (.saga (.answer i c r)) q →
    answeredBy ⟨c, r⟩ = some (m, key, answer, replayed) →
    (replayed = false ↔ ∀ earlier b, ¬ Answered p.saga m key earlier b)
  unchanged : ∀ i c r q u m key corr req, (platform svc).step p (.saga (.answer i c r)) q →
    p.saga.threads[i]? = some u → u.job = .createOrder m key corr req →
    (∀ order, answeredBy ⟨c, r⟩ ≠ some (m, key, some order, false)) →
    q.saga.shared.store = p.saga.shared.store ∧ q.marks = p.marks
  recorded : ∀ id order, orderOf p.saga id = some order →
    (createdEvents p.saga id).length = 1 ∧ (createAudits p.saga id).length = 1
  inserted : ∀ m key order, Answered p.saga m key (some order) false → ∃ stored,
    orderOf p.saga order.orderID = some stored ∧ stored.terms = order.terms
  kept : ∀ ls q, (platform svc).Path (OnSaga PlainMerchants) p ls q → ∀ id order,
    orderOf p.saga id = some order → ∃ order', orderOf q.saga id = some order' ∧ order'.terms = order.terms

theorem creation_invariant (svc : Service) {p : Platform}
    (hp : (platform svc).Reachable (OnSaga PlainMerchants) p) : CreationInvariant svc p := by
  have hs := saga_of_platform hp
  have hindexed := indexed_of_reachable hs
  have hstored : ∀ {id order}, orderOf p.saga id = some order → termsOf p.saga id = some order.terms := by
    intro id order horder
    rw [termsOf, horder]
    rfl
  constructor
  case one_order =>
    intro id id' order order' horder horder' hmerchant hexternal
    obtain ⟨m, key, first, hfirst, rfl, hterms⟩ := inserted_of_stored hs (hstored horder)
    obtain ⟨m', key', second, hsecond, rfl, hterms'⟩ := inserted_of_stored hs (hstored horder')
    obtain ⟨hlookup, _, hm⟩ := hindexed.inserted m key first hfirst
    obtain ⟨hlookup', _, hm'⟩ := hindexed.inserted m' key' second hsecond
    have hkey : scopedKey m first.externalOrderID = scopedKey m' second.externalOrderID := by
      rw [← hm, ← hm', show first.merchantID = order.merchantID from congrArg Terms.merchantID hterms,
        show second.merchantID = order'.merchantID from congrArg Terms.merchantID hterms', hmerchant,
        show first.externalOrderID = order.externalOrderID from congrArg Terms.externalOrderID hterms,
        show second.externalOrderID = order'.externalOrderID from congrArg Terms.externalOrderID hterms', hexternal]
    rw [hkey, hlookup'] at hlookup
    exact (Option.some.inj hlookup).symm
  case external =>
    intro k id hlookup
    obtain ⟨m, key, inserted, rfl, rfl, hanswered⟩ := hindexed.external k id hlookup
    obtain ⟨_, hterms, rfl⟩ := hindexed.inserted m key inserted hanswered
    obtain ⟨order, horder, hterms⟩ := Option.map_eq_some_iff.mp hterms
    refine ⟨order, horder, congrArg Terms.orderID hterms, ?_⟩
    rw [show order.merchantID = inserted.merchantID from congrArg Terms.merchantID hterms,
      show order.externalOrderID = inserted.externalOrderID from congrArg Terms.externalOrderID hterms]
    exact ⟨plain_of_answered (fun _ _ h => h) hs hanswered, rfl⟩
  case idempotency =>
    intro k id hlookup
    obtain ⟨m, key, inserted, rfl, rfl, hanswered⟩ := hindexed.idempotency k id hlookup
    obtain ⟨_, hterms, rfl⟩ := hindexed.inserted m key inserted hanswered
    obtain ⟨order, horder, hterms⟩ := Option.map_eq_some_iff.mp hterms
    refine ⟨order, key, horder, congrArg Terms.orderID hterms, ?_⟩
    rw [show order.merchantID = inserted.merchantID from congrArg Terms.merchantID hterms]
    exact ⟨plain_of_answered (fun _ _ h => h) hs hanswered, rfl⟩
  case results =>
    intro m key answer answer' b b' hanswered hanswered'
    obtain ⟨order, rfl, hlookup⟩ := hindexed.answers m key answer b hanswered
    obtain ⟨order', rfl, hlookup'⟩ := hindexed.answers m key answer' b' hanswered'
    rw [hlookup] at hlookup'
    exact ⟨order, order', rfl, rfl, Option.some.inj hlookup'⟩
  case first =>
    intro i c r q m key answer replayed hstep hanswer
    have hplain : ':' ∉ m.toList := by
      have hafter : Answered q.saga m key answer replayed :=
        (answered_iff hstep.1).mpr (.inr ⟨i, c, r, rfl, hanswer⟩)
      exact plain_of_answered (fun _ _ h => h) (.step hs hstep.1 trivial) hafter
    exact replayed_iff hs hstep.1 hanswer hplain
  case unchanged =>
    intro i c r q u m key corr req hstep hthread hjob hnone
    exact ⟨unchanged_of_creation hs hstep.1 hthread hjob hnone, hstep.2⟩
  case recorded =>
    intro id order horder
    have hrecords := records_of_reachable hs id
    rw [horder] at hrecords
    exact hrecords
  case inserted =>
    intro m key order hanswered
    exact Option.map_eq_some_iff.mp (hindexed.inserted m key order hanswered).2.1
  case kept =>
    intro ls q hpath id order horder
    exact Option.map_eq_some_iff.mp (terms_of_platform_path hp hpath (hstored horder))

/-! ### A scripted run -/

inductive PlatformAct
  | saga (act : Act)
  | claim (limit : Int) (now : Time)
  | mark (messageID : String) (publishedAt : Time)

def PlatformAct.apply (svc : Service) (p : Platform) : PlatformAct → Option (PlatformLabel × Platform)
  | .saga act => (act.apply memoryOutboxStore svc p.saga).map fun x => (.saga x.1, ⟨x.2, p.marks⟩)
  | .claim limit now =>
    some (.claim limit now, ⟨p.saga, (p.marks.pendingOutboxEvents p.saga.shared.store.outbox limit now).2⟩)
  | .mark messageID publishedAt =>
    some (.mark messageID publishedAt, ⟨p.saga, p.marks.markOutboxPublished messageID publishedAt⟩)

def platformSimulator (svc : Service) : Simulator (platform svc) PlatformAct where
  next := PlatformAct.apply svc
  sound := by
    intro p a l q h
    cases a with
    | saga act =>
      obtain ⟨⟨l', s⟩, hact, heq⟩ := Option.map_eq_some_iff.mp h
      cases heq
      exact ⟨act.step hact, rfl⟩
    | claim limit now => cases h; exact ⟨rfl, rfl⟩
    | mark messageID publishedAt => cases h; exact ⟨rfl, rfl⟩

instance (p : Platform) : (l : PlatformLabel) → Decidable (OnSaga PlainMerchants p l)
  | .saga l => inferInstanceAs (Decidable (PlainMerchants p.saga l))
  | .claim _ _ | .mark _ _ => isTrue trivial

/-- An order is created, its event is claimed and marked, and the creation is repeated. -/
theorem creation_invariant_repeated : ∃ p, (platform sampleService).Reachable (OnSaga PlainMerchants) p ∧
    (∃ order, orderOf p.saga "ord_0" = some order) ∧ (createdEvents p.saga "ord_0").length = 1 ∧
    (createAudits p.saga "ord_0").length = 1 := by
  obtain ⟨p, hp, hsome⟩ := (platformSimulator sampleService).exists_reachable
    (s := ⟨emptySaga, .empty⟩) (Q := fun p => (orderOf p.saga "ord_0").isSome = true)
    (decides_decide (OnSaga PlainMerchants)) (.start ⟨⟨⟨rfl, rfl⟩, rfl⟩, rfl⟩)
    ((insertActs 0 "m1" "idempotency-key-1" ++ [Act.store 0]).map PlatformAct.saga ++
      [.claim 10 1, .mark "msg_0" 2] ++
      (insertActs 1 "m1" "idempotency-key-1" ++ [Act.store 1]).map PlatformAct.saga) (by decide)
  obtain ⟨order, horder⟩ := Option.isSome_iff_exists.mp hsome
  exact ⟨p, hp, ⟨order, horder⟩, (creation_invariant sampleService hp).recorded _ _ horder⟩

end FulfillHub
