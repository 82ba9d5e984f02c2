import FulfillHub.Fulfillment.Identity
import FulfillHub.Fulfillment.Script

/-!
# The forest of causes

The events of the outbox form a forest. Its roots are the events that merchants' requests write; every
other event was written by a handler and names the event handled as its cause, with the same order,
merchant and correlation id. So the history of an order can be read off the outbox by following causes,
and ends at a root.

Everything follows from what the one event appended by a step looks like beside the events before it.
-/

namespace FulfillHub

open Interaction

/-! ### Lists that grow at the end -/

/-- Every element satisfies a property of itself and the elements before it. -/
def EachAfter {α : Type} (P : List α → α → Prop) (l : List α) : Prop :=
  ∀ before a after, l = before ++ a :: after → P before a

theorem EachAfter.nil {α : Type} {P : List α → α → Prop} : EachAfter P [] := by
  intro before a after h
  simp at h

theorem EachAfter.snoc {α : Type} {P : List α → α → Prop} {l : List α} {new : α} (h : EachAfter P l)
    (hnew : P l new) : EachAfter P (l ++ [new]) := by
  intro before a after heq
  rcases List.eq_nil_or_concat after with rfl | ⟨after', last, rfl⟩
  · obtain ⟨rfl, hlast⟩ := List.append_inj' heq rfl
    cases hlast
    exact hnew
  · rw [List.concat_eq_append, ← List.cons_append, ← List.append_assoc] at heq
    exact h before a after' (List.append_inj_left' heq rfl)

/-! ### Roots and causes -/

/-- Where an event comes from: a merchant's request, or the handling of an earlier event of its order. -/
inductive Explained (before : List Envelope) (env : Envelope) : Prop
  | root (htype : env.eventType = .orderCreated ∨ env.eventType = .orderCancelRequested)
      (hcause : env.causationID = env.messageID)
  | caused (cause : Envelope) (hearlier : cause ∈ before) (hcause : env.causationID = cause.messageID)
      (horder : cause.orderID = env.orderID) (hcorrelation : cause.correlationID = env.correlationID)
      (hmerchant : cause.merchantID = env.merchantID) (queue : Queue)
      (haccepts : queue.expects cause.eventType = true) (hemits : env.eventType ∈ queue.outcomes)

/-- An event is explained by those before it; an `order.created` event is the first of its order, and the
others come after one. -/
structure WellPlaced (before : List Envelope) (env : Envelope) : Prop where
  explained : Explained before env
  first : env.eventType = .orderCreated → ∀ other ∈ before, other.orderID ≠ env.orderID
  later : env.eventType ≠ .orderCreated →
    ∃ other ∈ before, other.orderID = env.orderID ∧ other.eventType = .orderCreated

/-- Handlers take events from the outbox, and merchants' requests come with a correlation id. -/
def ForestRun (s : MemorySaga) (l : SagaLabel) : Prop := FromOutbox memoryOutboxStore s l ∧ Correlated l

variable {svc : Service} {cond : MemorySaga → SagaLabel → Prop} {s t : MemorySaga} {l : SagaLabel}

/-- The event a run hands over is explained by the outbox it was written to. -/
theorem explained_of_write (hfrom : ∀ s l, cond s l → FromOutbox memoryOutboxStore s l)
    (hs : (memorySaga svc).Reachable cond s) {i : Nat} {job : Job} {trace : SagaTrace} {c : StoreCall}
    {r : c.Result} {next : Except Error c.Result → Saga (Except Error Unit)} {event : OutboxEvent}
    (hthread : s.threads[i]? = some ⟨job, trace, .call (.store c) next⟩) (hwrites : job.Writes svc trace c)
    (hevent : c.emitted r = some event) : Explained (eventsOf s) event.envelope := by
  cases hwrites with
  | create =>
    simp only [StoreCall.emitted] at hevent
    split_ifs at hevent
    cases hevent
    exact .root (.inl rfl) (ite_self _)
  | cancel =>
    cases hevent
    exact .root (.inr rfl) (ite_self _)
  | @handle queue deps handled _ hvalid hwrite =>
    obtain ⟨houtcome, id, now, heq⟩ := hwrite.next_spec hevent
    have hmem := cause_mem hfrom hs (PoolSpec.mem_threads.mpr ⟨i, hthread⟩) rfl
    have hne := (identity_eq_ok.mp hvalid.identity).1
    refine .caused handled.envelope hmem ?_ ?_ ?_ ?_ queue hvalid.expected houtcome
    · rw [heq]
      exact if_neg hne
    · rw [heq]; rfl
    · rw [heq]; rfl
    · rw [heq]; rfl

/-- **Every event is well placed** in the outbox. -/
theorem wellPlaced_of_reachable (hfrom : ∀ s l, cond s l → FromOutbox memoryOutboxStore s l)
    (hs : (memorySaga svc).Reachable cond s) : EachAfter WellPlaced (eventsOf s) := by
  refine Lts.Reachable.invariant (P := fun s => EachAfter WellPlaced (eventsOf s)) ?_ ?_ hs
  · rintro s ⟨⟨hstart, _⟩, _⟩
    rw [show eventsOf s = [] by simp [eventsOf, OutboxStore.envelopes, memoryOutboxStore.outbox_start _ hstart]]
    exact .nil
  · intro s l t hreach ih hstep _
    rcases memory_step hreach hstep with ⟨_, hevents⟩ |
      ⟨i, trace, merchantID, key, corr, newID, id, req, now, audit, next, _, hthread, hgiven, _, _, hevents⟩ |
      ⟨i, c, r, job, trace, next, changedID, p, order, _, hthread, hwrites, heffect, horder, _, _, hevents⟩
    · exact hevents ▸ ih
    · rw [hevents]
      refine ih.snoc ⟨.root (.inl rfl) (ite_self _), fun _ other hother hid => ?_, fun htype => absurd rfl htype⟩
      obtain ⟨order, horder⟩ := order_of_event hreach hother
      rw [show other.orderID = newID from hid, orderOf_eq_none_of_given hreach hthread hgiven] at horder
      cases horder
    · rw [hevents]
      cases hevent : c.emitted r with
      | none => simpa using ih
      | some event =>
        obtain ⟨hid, htype⟩ := hwrites.emitted_of_effect heffect hevent
        refine ih.snoc ⟨explained_of_write hfrom hreach hthread hwrites hevent,
          fun hcreated => absurd hcreated htype, fun _ => ?_⟩
        obtain ⟨other, hother, hsame, hcreated⟩ := (order_iff_created hreach).mp ⟨order, horder⟩
        exact ⟨other, hother, hsame.trans hid.symm, hcreated⟩

theorem owner_of_mem (hfrom : ∀ s l, cond s l → FromOutbox memoryOutboxStore s l)
    (hs : (memorySaga svc).Reachable cond s) {env : Envelope} (henv : env ∈ eventsOf s) :
    ∃ terms, termsOf s env.orderID = some terms ∧ terms.merchantID = env.merchantID := by
  refine Lts.Reachable.invariant (P := fun s => ∀ env ∈ eventsOf s, ∃ terms,
    termsOf s env.orderID = some terms ∧ terms.merchantID = env.merchantID) ?_ ?_ hs env henv
  · rintro s ⟨⟨hstart, _⟩, _⟩ env henv
    simp [eventsOf, OutboxStore.envelopes, memoryOutboxStore.outbox_start _ hstart] at henv
  · intro s l t hreach ih hstep _ env henv
    have hkept : ∀ {env : Envelope} {terms : Terms}, termsOf s env.orderID = some terms →
        terms.merchantID = env.merchantID →
        ∃ terms, termsOf t env.orderID = some terms ∧ terms.merchantID = env.merchantID :=
      fun hterms hmerchant => ⟨_, terms_kept hreach hstep hterms, hmerchant⟩
    have hold : ∀ env ∈ eventsOf s, ∃ terms, termsOf t env.orderID = some terms ∧
        terms.merchantID = env.merchantID := by
      intro env henv
      obtain ⟨terms, hterms, hmerchant⟩ := ih env henv
      exact hkept hterms hmerchant
    rcases memory_step hreach hstep with ⟨_, hevents⟩ |
      ⟨i, trace, merchantID, key, corr, newID, id, req, now, audit, next, _, hthread, hgiven, _, horders, hevents⟩ |
      ⟨i, c, r, job, trace, next, changedID, p, order, _, hthread, hwrites, heffect, horder, _, _, hevents⟩
    · exact hold env (hevents ▸ henv)
    · rw [hevents, List.mem_append, List.mem_singleton] at henv
      rcases henv with henv | rfl
      · exact hold env henv
      · exact ⟨_, by rw [termsOf_insert horders]; exact if_pos rfl, rfl⟩
    · rw [hevents, List.mem_append] at henv
      rcases henv with henv | henv
      · exact hold env henv
      · obtain ⟨event, hevent, rfl⟩ := List.mem_map.mp henv
        rw [Option.mem_toList] at hevent
        have hu := PoolSpec.mem_threads.mpr ⟨i, hthread⟩
        cases hwrites with
        | create => cases heffect
        | cancel hsaw =>
          cases hevent
          exact hkept (terms_of_saw hreach hu hsaw) rfl
        | @handle queue deps handled _ hvalid hwrite =>
          obtain ⟨_, id, now, heq⟩ := hwrite.next_spec hevent
          obtain ⟨terms, hterms, hmerchant⟩ := ih _ (cause_mem hfrom hreach hu rfl)
          rw [heq]
          exact hkept hterms hmerchant

/-! ### The forest -/

/-- The outbox is a forest of causes. -/
structure CausationForest (s : MemorySaga) : Prop where
  distinct : (s.shared.store.outbox.map OutboxEvent.messageID).Nodup
  owner : ∀ e ∈ s.shared.store.outbox, ∃ order, orderOf s e.orderID = some order ∧ order.merchantID = e.merchantID
  envelope : ∀ e ∈ s.shared.store.outbox, e.envelope.causationID = e.causationID
  explained : ∀ before e after, s.shared.store.outbox = before ++ e :: after →
    Explained (before.map OutboxEvent.envelope) e.envelope
  identity : ∀ e ∈ s.shared.store.outbox, validateEventIdentity e = .ok ()
  created : ∀ orderID order, orderOf s orderID = some order → ∃ before e after,
    s.shared.store.outbox = before ++ e :: after ∧ e.orderID = orderID ∧ e.eventType = .orderCreated ∧
    (∀ other ∈ before, other.orderID ≠ orderID) ∧
    ∀ other ∈ after, other.orderID = orderID → other.eventType ≠ .orderCreated

theorem outbox_append_of_path {ls : List SagaLabel} (hpath : (memorySaga svc).Path cond s ls t) :
    ∃ new, t.shared.store.outbox = s.shared.store.outbox ++ new := by
  induction hpath with
  | nil => exact ⟨[], by simp⟩
  | cons hstep _ _ ih =>
    obtain ⟨new, hnew⟩ := outbox_of_step hstep
    obtain ⟨rest, hrest⟩ := ih
    exact ⟨_, by rw [hrest, hnew, List.append_assoc]⟩

theorem placed_of_split (hfrom : ∀ s l, cond s l → FromOutbox memoryOutboxStore s l)
    (hs : (memorySaga svc).Reachable cond s) {before after : List OutboxEvent} {e : OutboxEvent}
    (h : s.shared.store.outbox = before ++ e :: after) :
    WellPlaced (before.map OutboxEvent.envelope) e.envelope := by
  refine wellPlaced_of_reachable hfrom hs _ _ (after.map OutboxEvent.envelope) ?_
  rw [← List.map_cons, ← List.map_append, ← h]
  rfl

theorem created_of_order (hfrom : ∀ s l, cond s l → FromOutbox memoryOutboxStore s l)
    (hs : (memorySaga svc).Reachable cond s) {orderID : String} {order : Order}
    (horder : orderOf s orderID = some order) : ∃ before e after,
      s.shared.store.outbox = before ++ e :: after ∧ e.orderID = orderID ∧ e.eventType = .orderCreated ∧
      (∀ other ∈ before, other.orderID ≠ orderID) ∧
      ∀ other ∈ after, other.orderID = orderID → other.eventType ≠ .orderCreated := by
  obtain ⟨env, henv, hid, htype⟩ := (order_iff_created hs).mp ⟨order, horder⟩
  obtain ⟨e, he, rfl⟩ := List.mem_map.mp henv
  obtain ⟨before, after, hsplit⟩ := List.append_of_mem he
  subst hid
  refine ⟨before, e, after, hsplit, rfl, htype, fun other hother => ?_, fun other hother hsame hcreated => ?_⟩
  · exact (placed_of_split hfrom hs hsplit).first htype _ (List.mem_map_of_mem hother)
  · -- a second creation would have this one before it
    obtain ⟨between, rest, rfl⟩ := List.append_of_mem hother
    have hplaced := placed_of_split hfrom hs (show s.shared.store.outbox =
      (before ++ e :: between) ++ other :: rest from hsplit.trans (by simp))
    exact hplaced.first hcreated _ (List.mem_map_of_mem (a := e) (by simp)) hsame.symm

/-- **The outbox is a forest of causes** in every state of a run whose handlers take their events from the
outbox, and it only grows. -/
theorem causation_forest (svc : Service) {s : MemorySaga} (hs : (memorySaga svc).Reachable ForestRun s) :
    CausationForest s ∧ ∀ ls t, (memorySaga svc).Path ForestRun s ls t →
      ∃ new, t.shared.store.outbox = s.shared.store.outbox ++ new := by
  have hfrom : ∀ s l, ForestRun s l → FromOutbox memoryOutboxStore s l := fun _ _ h => h.1
  refine ⟨⟨?_, ?_, ?_, ?_, ?_, ?_⟩, fun ls t hpath => outbox_append_of_path hpath⟩
  · have hnodup := nodup_messageIDs hs
    rwa [OutboxStore.envelopes, List.map_map] at hnodup
  · intro e he
    obtain ⟨terms, hterms, hmerchant⟩ := owner_of_mem hfrom hs (List.mem_map_of_mem he)
    obtain ⟨order, horder, rfl⟩ := Option.map_eq_some_iff.mp hterms
    exact ⟨order, horder, hmerchant⟩
  · exact fun e he => (causationID_of_mem hs he).symm
  · exact fun before e after hsplit => (placed_of_split hfrom hs hsplit).explained
  · exact fun e he => identity_of_mem (fun _ _ h => h.2) hs he
  · exact fun orderID order horder => created_of_order hfrom hs horder

instance (s : MemorySaga) (l : SagaLabel) : Decidable (ForestRun s l) :=
  inferInstanceAs (Decidable (FromOutbox memoryOutboxStore s l ∧ Correlated l))

/-- An order is created, its cancellation is requested, and a worker cancels it. -/
theorem causation_forest_cancelled : ∃ s, (memorySaga sampleService).Reachable ForestRun s ∧
    s.shared.store.outbox.length = 3 ∧ CausationForest s := by
  obtain ⟨s, hs, hlength⟩ := (memorySimulator sampleService).exists_reachable
    (Q := fun s => s.shared.store.outbox.length = 3) (decides_decide ForestRun) reachable_emptySaga
    (createActs ++ [.start (.cancelOrder "ord_1" "corr-2" sampleActor), .store 1, .reply 1 (.time 2),
      .reply 1 (.id "2"), .store 1, .handle .ordersCancel allProviders 1, .store 2, .reply 2 (.time 3),
      .reply 2 (.id "3"), .store 2]) (by decide)
  exact ⟨s, hs, hlength, (causation_forest sampleService hs).1⟩

end FulfillHub
