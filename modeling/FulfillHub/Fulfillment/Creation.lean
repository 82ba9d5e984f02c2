import FulfillHub.Fulfillment.AuditTrail
import FulfillHub.Fulfillment.Script
import FulfillHub.Fulfillment.Terms

/-!
# Creating orders

The store finds earlier orders of a merchant through two maps, keyed by the merchant's id joined with the
idempotency key or with the external order id. The maps are exactly the index of the insertions made so
far. The joined text tells the merchant as long as merchant ids contain no colon; with one they can
collide, and a merchant is answered from another's orders.
-/

namespace FulfillHub

open Interaction

variable {k : String} {event : OutboxEvent} {audit : AuditLog}

/-! ### Keys -/

theorem append_cons_inj {α : Type} {c : α} {a a' b b' : List α} (ha : c ∉ a) (ha' : c ∉ a')
    (h : a ++ c :: b = a' ++ c :: b') : a = a' ∧ b = b' := by
  induction a generalizing a' with
  | nil =>
    cases a' with
    | nil => exact ⟨rfl, by simpa using h⟩
    | cons x rest =>
      simp only [List.nil_append, List.cons_append, List.cons.injEq] at h
      exact absurd (h.1 ▸ List.mem_cons_self) ha'
  | cons x rest ih =>
    cases a' with
    | nil =>
      simp only [List.nil_append, List.cons_append, List.cons.injEq] at h
      exact absurd (h.1 ▸ List.mem_cons_self) ha
    | cons y rest' =>
      simp only [List.cons_append, List.cons.injEq] at h
      obtain ⟨rfl, h⟩ := h
      obtain ⟨rfl, rfl⟩ := ih (fun hmem => ha (List.mem_cons_of_mem _ hmem))
        (fun hmem => ha' (List.mem_cons_of_mem _ hmem)) h
      exact ⟨rfl, rfl⟩

/-- A scoped key tells the merchant and the value when the merchant's id contains no colon. -/
theorem scopedKey_inj {m m' v v' : String} (hm : ':' ∉ m.toList) (hm' : ':' ∉ m'.toList)
    (h : scopedKey m v = scopedKey m' v') : m = m' ∧ v = v' := by
  have hlist : m.toList ++ ':' :: v.toList = m'.toList ++ ':' :: v'.toList := by
    simpa [scopedKey] using congrArg String.toList h
  obtain ⟨hm, hv⟩ := append_cons_inj hm hm' hlist
  exact ⟨String.toList_inj.mp hm, String.toList_inj.mp hv⟩

theorem lookup_insert_of_free {β : Type} {index : Finmap fun _ : String => β} {k' : String} {a b : β}
    (hfree : index.lookup k = none) (h : index.lookup k' = some b) : (index.insert k a).lookup k' = some b := by
  rw [Finmap.lookup_insert_of_ne _ ?_]
  · exact h
  · rintro rfl
    rw [hfree] at h
    cases h

theorem lookup_insert_cases {β : Type} {index : Finmap fun _ : String => β} {k' : String} {a b : β}
    (h : (index.insert k a).lookup k' = some b) : k' = k ∧ b = a ∨ index.lookup k' = some b := by
  by_cases hk : k' = k
  · rw [hk, Finmap.lookup_insert] at h
    exact .inl ⟨hk, (Option.some.inj h).symm⟩
  · rw [Finmap.lookup_insert_of_ne _ hk] at h
    exact .inr h

/-! ### One insertion -/

namespace MemoryStore

/-- What an insertion can answer, and the store afterwards. -/
inductive InsertOutcome (s : MemoryStore) (merchantID idempotencyKey : String) (order : Order)
    (event : OutboxEvent) (audit : AuditLog) : Except Error (Option Order × Bool) → MemoryStore → Prop
  | replayed (existingID : String)
      (hkey : s.ordersByIdempotency.lookup (scopedKey merchantID idempotencyKey) = some existingID) :
      InsertOutcome s merchantID idempotencyKey order event audit (.ok (s.orders.lookup existingID, true)) s
  | duplicate (existingID : String)
      (hkey : s.ordersByIdempotency.lookup (scopedKey merchantID idempotencyKey) = none)
      (hexternal : s.ordersByExternal.lookup (scopedKey merchantID order.externalOrderID) = some existingID) :
      InsertOutcome s merchantID idempotencyKey order event audit (.error errDuplicateOrder) s
  | inserted (hkey : s.ordersByIdempotency.lookup (scopedKey merchantID idempotencyKey) = none)
      (hexternal : s.ordersByExternal.lookup (scopedKey merchantID order.externalOrderID) = none) :
      InsertOutcome s merchantID idempotencyKey order event audit (.ok (some order, false))
        (s.withOrder merchantID idempotencyKey order event audit)

theorem insertOrder_outcome (s : MemoryStore) (merchantID idempotencyKey : String) (order : Order)
    (event : OutboxEvent) (audit : AuditLog) :
    InsertOutcome s merchantID idempotencyKey order event audit
      (s.insertOrder merchantID idempotencyKey order event audit).1
      (s.insertOrder merchantID idempotencyKey order event audit).2 := by
  unfold insertOrder
  split
  · rename_i existingID hkey
    exact .replayed existingID hkey
  rename_i hkey
  split
  · rename_i existingID hexternal
    exact .duplicate existingID hkey hexternal
  · rename_i hexternal
    exact .inserted hkey hexternal

theorem commit_indexes (s : MemoryStore) (orderID : String) (order : Order) (event : Option OutboxEvent)
    (audit : AuditLog) : (s.commit orderID order event audit).ordersByIdempotency = s.ordersByIdempotency ∧
      (s.commit orderID order event audit).ordersByExternal = s.ordersByExternal := by
  cases event <;> exact ⟨rfl, rfl⟩

end MemoryStore

variable {svc : Service} {cond : MemorySaga → SagaLabel → Prop} {s t : MemorySaga} {l : SagaLabel}
  {m key : String} {order : Order}

/-- The merchant and the key of an insertion that did not fail, the order it was answered with, and whether
it was a replay. -/
def answeredBy : Exchange Call.Answer → Option (String × String × Option Order × Bool)
  | ⟨.store (.insertOrder m key _ _ _), .ok (answer, replayed)⟩ => some (m, key, answer, replayed)
  | _ => none

/-- An insertion for this merchant and key was answered with this order. -/
def Answered (s : MemorySaga) (m key : String) (answer : Option Order) (replayed : Bool) : Prop :=
  ∃ x, PoolSpec.Exchanged s x ∧ answeredBy x = some (m, key, answer, replayed)

/-- What a step does to the index: nothing, or it inserts one order. -/
inductive IndexStep (s : MemorySaga) (l : SagaLabel) (t : MemorySaga) : Prop
  | same (hkeys : t.shared.store.ordersByIdempotency = s.shared.store.ordersByIdempotency)
      (hexternal : t.shared.store.ordersByExternal = s.shared.store.ordersByExternal)
      (hanswer : ∀ i c r m key answer replayed, l = .answer i c r →
        answeredBy ⟨c, r⟩ = some (m, key, answer, replayed) → replayed = true ∧
        ∃ existingID, s.shared.store.ordersByIdempotency.lookup (scopedKey m key) = some existingID ∧
          answer = s.shared.store.orders.lookup existingID)
  | inserted (i : Nat) (m key : String) (order : Order) (event : OutboxEvent) (audit : AuditLog)
      (hlabel : l = .answer i (.store (.insertOrder m key order event audit)) (.ok (some order, false)))
      (hkey : s.shared.store.ordersByIdempotency.lookup (scopedKey m key) = none)
      (hexternal : s.shared.store.ordersByExternal.lookup (scopedKey m order.externalOrderID) = none)
      (hstore : t.shared.store = s.shared.store.withOrder m key order event audit)

def StoreCall.isInsert : StoreCall → Bool
  | .insertOrder .. => true
  | _ => false

theorem MemoryStore.semantics_indexes {s : MemoryStore} {c : StoreCall} (hc : c.isInsert = false) :
    (semantics s c).2.ordersByIdempotency = s.ordersByIdempotency ∧
      (semantics s c).2.ordersByExternal = s.ordersByExternal := by
  rcases semantics_written s c with hsame | ⟨r, _, hwritten⟩
  · rw [hsame]
    exact ⟨rfl, rfl⟩
  · generalize (semantics s c).2 = s' at hwritten
    cases hwritten with
    | inserted => cases hc
    | projected => exact commit_indexes ..

theorem index_step (hstep : (sagaSpec memoryOutboxStore svc).Step s l t) : IndexStep s l t := by
  cases hstep with
  | spawn job => exact .same rfl rfl fun _ _ _ _ _ _ _ hl => by cases hl
  | @answer i job trace c next r shared hthread hanswer =>
    cases c with
    | port c =>
      refine .same (by rw [Answers.store_eq hanswer]) (by rw [Answers.store_eq hanswer]) ?_
      intro _ _ _ _ _ _ _ hl hanswered
      cases hl
      cases hanswered
    | store c =>
      obtain ⟨hr, rfl⟩ := hanswer
      have hother : c.isInsert = false → IndexStep s (.answer i (.store c) r)
          ⟨⟨(memoryOutboxStore.semantics s.shared.store c).2, s.shared.issued⟩,
            s.threads.set i ⟨job, trace ++ [⟨.store c, r⟩], next r⟩⟩ := by
        intro hc
        obtain ⟨hkeys, hexternal⟩ := MemoryStore.semantics_indexes (s := s.shared.store) hc
        refine .same hkeys hexternal fun _ _ _ _ _ _ _ hl hanswered => ?_
        cases hl
        cases c with
        | insertOrder => cases hc
        | _ => cases hanswered
      cases c with
      | insertOrder m key order event audit =>
        have houtcome := MemoryStore.insertOrder_outcome s.shared.store m key order event audit
        rw [show (s.shared.store.insertOrder m key order event audit).1 = r from hr] at houtcome
        generalize hstore : (s.shared.store.insertOrder m key order event audit).2 = store at houtcome
        cases houtcome with
        | replayed existingID hkey =>
          refine .same (congrArg MemoryStore.ordersByIdempotency hstore)
            (congrArg MemoryStore.ordersByExternal hstore) fun _ _ _ _ _ _ _ hl hanswered => ?_
          cases hl
          cases hanswered
          exact ⟨rfl, existingID, hkey, rfl⟩
        | duplicate =>
          refine .same (congrArg MemoryStore.ordersByIdempotency hstore)
            (congrArg MemoryStore.ordersByExternal hstore) fun _ _ _ _ _ _ _ hl hanswered => ?_
          cases hl
          cases hanswered
        | inserted hkey hexternal =>
          exact .inserted i m key order event audit rfl hkey hexternal hstore
      | getOrder => exact hother rfl
      | updateOrderStatus => exact hother rfl
      | projector => exact hother rfl

/-! ### The index -/

/-- The index holds exactly the insertions made so far, and every answer was given from it. -/
structure Indexed (s : MemorySaga) : Prop where
  idempotency : ∀ k id, s.shared.store.ordersByIdempotency.lookup k = some id → ∃ m key order,
    k = scopedKey m key ∧ id = order.orderID ∧ Answered s m key (some order) false
  external : ∀ k id, s.shared.store.ordersByExternal.lookup k = some id → ∃ m key order,
    k = scopedKey m order.externalOrderID ∧ id = order.orderID ∧ Answered s m key (some order) false
  inserted : ∀ m key order, Answered s m key (some order) false →
    s.shared.store.ordersByExternal.lookup (scopedKey m order.externalOrderID) = some order.orderID ∧
    termsOf s order.orderID = some order.terms ∧ order.merchantID = m
  answers : ∀ m key answer replayed, Answered s m key answer replayed → ∃ order, answer = some order ∧
    s.shared.store.ordersByIdempotency.lookup (scopedKey m key) = some order.orderID

theorem answered_iff (hstep : (sagaSpec memoryOutboxStore svc).Step s l t) {answer : Option Order}
    {replayed : Bool} : Answered t m key answer replayed ↔ Answered s m key answer replayed ∨
      ∃ i c r, l = .answer i c r ∧ answeredBy ⟨c, r⟩ = some (m, key, answer, replayed) := by
  simp only [Answered, hstep.exchanged_iff]
  constructor
  · rintro ⟨x, hx | ⟨i, hl⟩, hanswered⟩
    · exact .inl ⟨x, hx, hanswered⟩
    · exact .inr ⟨i, x.1, x.2, hl, hanswered⟩
  · rintro (⟨x, hx, hanswered⟩ | ⟨i, c, r, hl, hanswered⟩)
    · exact ⟨x, .inl hx, hanswered⟩
    · exact ⟨⟨c, r⟩, .inr ⟨i, hl⟩, hanswered⟩

/-- An order found through the index carries the id it is indexed under. -/
theorem Indexed.lookup (h : Indexed s) {id : String} (hkey : s.shared.store.ordersByIdempotency.lookup k = some id) :
    ∃ order, s.shared.store.orders.lookup id = some order ∧ order.orderID = id := by
  obtain ⟨m, key, order, _, rfl, hinserted⟩ := h.idempotency k id hkey
  obtain ⟨_, hterms, _⟩ := h.inserted m key order hinserted
  obtain ⟨stored, hstored, hsame⟩ := Option.map_eq_some_iff.mp hterms
  exact ⟨stored, hstored, congrArg Terms.orderID hsame⟩

theorem merchantID_of_insert (hs : (memorySaga svc).Reachable cond s) {i : Nat}
    {r : Except Error (Option Order × Bool)}
    (hstep : (sagaSpec memoryOutboxStore svc).Step s (.answer i (.store (.insertOrder m key order event audit)) r) t) :
    order.merchantID = m := by
  obtain ⟨job, trace, next, _, hwrites, -⟩ := writes_of_step hs hstep rfl
  cases hwrites with
  | create => rfl
  | handle _ hwrite => cases hwrite

theorem Indexed.same (hs : (memorySaga svc).Reachable cond s) (hstep : (sagaSpec memoryOutboxStore svc).Step s l t)
    (h : Indexed s) (hkeys : t.shared.store.ordersByIdempotency = s.shared.store.ordersByIdempotency)
    (hexternal : t.shared.store.ordersByExternal = s.shared.store.ordersByExternal)
    (hanswer : ∀ i c r m key answer replayed, l = .answer i c r →
      answeredBy ⟨c, r⟩ = some (m, key, answer, replayed) → replayed = true ∧ ∃ existingID,
        s.shared.store.ordersByIdempotency.lookup (scopedKey m key) = some existingID ∧
        answer = s.shared.store.orders.lookup existingID) : Indexed t := by
  refine ⟨?_, ?_, ?_, ?_⟩
  · rw [hkeys]
    intro k id hlookup
    obtain ⟨m, key, order, hk, hid, hinserted⟩ := h.idempotency k id hlookup
    exact ⟨m, key, order, hk, hid, (answered_iff hstep).mpr (.inl hinserted)⟩
  · rw [hexternal]
    intro k id hlookup
    obtain ⟨m, key, order, hk, hid, hinserted⟩ := h.external k id hlookup
    exact ⟨m, key, order, hk, hid, (answered_iff hstep).mpr (.inl hinserted)⟩
  · rw [hexternal]
    intro m key order hinserted
    rcases (answered_iff hstep).mp hinserted with hold | ⟨i, c, r, hl, hanswered⟩
    · obtain ⟨hlookup, hterms, hmerchant⟩ := h.inserted m key order hold
      exact ⟨hlookup, terms_kept hs hstep hterms, hmerchant⟩
    · cases (hanswer i c r m key _ _ hl hanswered).1
  · rw [hkeys]
    intro m key answer replayed hanswered
    rcases (answered_iff hstep).mp hanswered with hold | ⟨i, c, r, hl, hanswered⟩
    · exact h.answers m key answer replayed hold
    · obtain ⟨_, existingID, hkey, rfl⟩ := hanswer i c r m key answer replayed hl hanswered
      obtain ⟨order, hstored, rfl⟩ := h.lookup hkey
      exact ⟨order, hstored, hkey⟩

theorem answered_of_insert {i : Nat}
    (hstep : (sagaSpec memoryOutboxStore svc).Step s
      (.answer i (.store (.insertOrder m key order event audit)) (.ok (some order, false))) t)
    {m' key' : String} {answer : Option Order} {replayed : Bool} (h : Answered t m' key' answer replayed) :
    Answered s m' key' answer replayed ∨ m' = m ∧ key' = key ∧ answer = some order := by
  rcases (answered_iff hstep).mp h with hold | ⟨_, _, _, hl, hanswered⟩
  · exact .inl hold
  · cases hl
    cases hanswered
    exact .inr ⟨rfl, rfl, rfl⟩

theorem Indexed.insert (hs : (memorySaga svc).Reachable cond s) {i : Nat}
    (hstep : (sagaSpec memoryOutboxStore svc).Step s
      (.answer i (.store (.insertOrder m key order event audit)) (.ok (some order, false))) t)
    (h : Indexed s) (hkey : s.shared.store.ordersByIdempotency.lookup (scopedKey m key) = none)
    (hexternal : s.shared.store.ordersByExternal.lookup (scopedKey m order.externalOrderID) = none)
    (hstore : t.shared.store = s.shared.store.withOrder m key order event audit) : Indexed t := by
  have hnew : Answered t m key (some order) false := (answered_iff hstep).mpr (.inr ⟨i, _, _, rfl, rfl⟩)
  have hkeys : t.shared.store.ordersByIdempotency =
      s.shared.store.ordersByIdempotency.insert (scopedKey m key) order.orderID := by
    rw [hstore]
    rfl
  have hexternals : t.shared.store.ordersByExternal =
      s.shared.store.ordersByExternal.insert (scopedKey m order.externalOrderID) order.orderID := by
    rw [hstore]
    rfl
  refine ⟨?_, ?_, ?_, ?_⟩
  · intro k id hlookup
    rw [hkeys] at hlookup
    rcases lookup_insert_cases hlookup with ⟨hk, hid⟩ | hold
    · exact ⟨m, key, order, hk, hid, hnew⟩
    · obtain ⟨m', key', order', hk', hid, hinserted⟩ := h.idempotency k id hold
      exact ⟨m', key', order', hk', hid, (answered_iff hstep).mpr (.inl hinserted)⟩
  · intro k id hlookup
    rw [hexternals] at hlookup
    rcases lookup_insert_cases hlookup with ⟨hk, hid⟩ | hold
    · exact ⟨m, key, order, hk, hid, hnew⟩
    · obtain ⟨m', key', order', hk', hid, hinserted⟩ := h.external k id hold
      exact ⟨m', key', order', hk', hid, (answered_iff hstep).mpr (.inl hinserted)⟩
  · intro m' key' order' hinserted
    rw [hexternals]
    rcases answered_of_insert hstep hinserted with hold | ⟨rfl, rfl, heq⟩
    · obtain ⟨hlookup, hterms, hmerchant⟩ := h.inserted m' key' order' hold
      exact ⟨lookup_insert_of_free hexternal hlookup, terms_kept hs hstep hterms, hmerchant⟩
    · cases heq
      refine ⟨Finmap.lookup_insert .., ?_, merchantID_of_insert hs hstep⟩
      rw [termsOf, orderOf, hstore, MemoryStore.withOrder, Finmap.lookup_insert]
      rfl
  · intro m' key' answer replayed hanswered
    rw [hkeys]
    rcases answered_of_insert hstep hanswered with hold | ⟨rfl, rfl, rfl⟩
    · obtain ⟨order', rfl, hlookup⟩ := h.answers m' key' answer replayed hold
      exact ⟨order', rfl, lookup_insert_of_free hkey hlookup⟩
    · exact ⟨order, rfl, Finmap.lookup_insert ..⟩

theorem Indexed.step (hs : (memorySaga svc).Reachable cond s)
    (hstep : (sagaSpec memoryOutboxStore svc).Step s l t) (h : Indexed s) : Indexed t := by
  cases index_step hstep with
  | same hkeys hexternal hanswer => exact h.same hs hstep hkeys hexternal hanswer
  | inserted i m key order event audit hlabel hkey hexternal hstore =>
    subst hlabel
    exact h.insert hs hstep hkey hexternal hstore

/-- **The index is exact** in every reachable state. -/
theorem indexed_of_reachable (hs : (memorySaga svc).Reachable cond s) : Indexed s := by
  refine Lts.Reachable.invariant ?_ ?_ hs
  · rintro s ⟨⟨hstart, _⟩, hnil⟩
    have hstore : s.shared.store = newMemoryStore := hstart
    have hnone : ∀ m key answer replayed, ¬ Answered s m key answer replayed := by
      rintro m key answer replayed ⟨x, ⟨u, hu, _⟩, _⟩
      simp [hnil] at hu
    refine ⟨?_, ?_, ?_, ?_⟩
    · simp [hstore, newMemoryStore]
    · simp [hstore, newMemoryStore]
    · exact fun m key order h => (hnone m key _ _ h).elim
    · exact fun m key answer replayed h => (hnone m key _ _ h).elim
  · exact fun s l t hreach ih hstep _ => ih.step hreach hstep

end FulfillHub
