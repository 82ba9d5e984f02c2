import FulfillHub.Fulfillment.Stages

/-!
# Workers and their claims

A worker that has recorded a message holds the claim to it until it asks to release the row. Claims are
exclusive, a worker asks its handler once and directly after the recording, and a handler that returned
nil is never followed by a release. Every handler run of the saga belongs to a worker.
-/

namespace FulfillHub

open Interaction

variable {S : Type} {store : OutboxStore S} {svc : Service} {names : Queue → String} {s s' : Stages S}
  {l : StageLabel} {w : StageWorker} {cond : Stages S → StageLabel → Prop} {call : MessagingCall}
  {event : OutboxEvent} {inbox : List (String × String)}

/-! ### Workers after a step -/

theorem Stages.Step.worker_cases (h : Stages.Step store svc names s l s') {j : Nat} (hw : s'.workers[j]? = some w) :
    s.workers[j]? = some w ∨
      (∃ job, l = .deliver job ∧ w = .start job) ∨
      (∃ (v : StageWorker) (event : OutboxEvent) (next : Except Error Unit → Messaging (Except Error Unit)),
        l = .handle j ∧ s.workers[j]? = some v ∧ v.prog = .call (.handle event) next ∧
        w = v.runs s.saga.threads.length) ∨
      ∃ (v : StageWorker) (call : MessagingCall) (r : call.Answer)
        (next : call.Answer → Messaging (Except Error Unit)) (late : Bool), l = .reply j call r late ∧
        s.workers[j]? = some v ∧ v.prog = .call call next ∧ w = v.advance call r next := by
  cases h with
  | deliver hname hgenuine =>
    rcases PoolSpec.getElem?_spawn.mp hw with hold | ⟨_, rfl⟩
    · exact .inl hold
    · exact .inr (.inl ⟨_, rfl, rfl⟩)
  | handle hv hprog hnone =>
    rcases (PoolSpec.getElem?_answer hv).mp hw with ⟨rfl, rfl⟩ | ⟨_, hold⟩
    · exact .inr (.inr (.inl ⟨_, _, _, rfl, hv, hprog, rfl⟩))
    · exact .inl hold
  | reply hv hprog hreply =>
    rcases (PoolSpec.getElem?_answer hv).mp hw with ⟨rfl, rfl⟩ | ⟨_, hold⟩
    · exact .inr (.inr (.inr ⟨_, _, _, _, _, rfl, hv, hprog, rfl⟩))
    · exact .inl hold
  | saga hown hstep => exact .inl hw

/-- A property of single workers that holds when they start and is kept by starting the handler and by
answers holds of every worker. -/
theorem worker_invariant {Φ : StageWorker → Prop} (hstart : ∀ job, Φ (.start job))
    (hruns : ∀ w k, Φ w → Φ (StageWorker.runs w k))
    (hadvance : ∀ (w : StageWorker) (call : MessagingCall) (r : call.Answer)
      (next : call.Answer → Messaging (Except Error Unit)), w.prog = .call call next → Φ w →
      Φ (w.advance call r next))
    (hs : (stages store svc names).Reachable cond s) (hw : w ∈ s.workers) : Φ w := by
  refine Lts.Reachable.invariant (P := fun s => ∀ w ∈ s.workers, Φ w) ?_ ?_ hs w hw
  · rintro s ⟨_, hnil, _⟩ w hw
    simp [hnil] at hw
  · intro s l s' _ ih hstep _ w hw
    obtain ⟨j, hj⟩ := List.mem_iff_getElem?.mp hw
    have hmem : ∀ {v}, s.workers[j]? = some v → Φ v := fun h => ih _ (List.mem_iff_getElem?.mpr ⟨j, h⟩)
    rcases hstep.worker_cases hj with hold | ⟨job, _, rfl⟩ | ⟨v, event, next, _, hold, _, rfl⟩ |
      ⟨v, call, r, next, _, _, hold, hprog, rfl⟩
    · exact hmem hold
    · exact hstart job
    · exact hruns v _ (hmem hold)
    · exact hadvance v call r next hprog (hmem hold)

theorem worker_follows (hs : (stages store svc names).Reachable cond s) (hw : w ∈ s.workers) :
    (w.job.consumer.contract w.job.delivery).Follows w.trace w.prog := by
  refine worker_invariant
    (Φ := fun w => (w.job.consumer.contract w.job.delivery).Follows w.trace w.prog) ?_ ?_ ?_ hs hw
  · exact fun job => job.consumer.processDelivery_follows job.delivery
  · exact fun w k h => h
  · intro w call r next hprog h
    rw [hprog] at h
    exact h.next r

theorem worker_permits {next : call.Answer → Messaging (Except Error Unit)}
    (hfollows : (w.job.consumer.contract w.job.delivery).Follows w.trace w.prog) (hprog : w.prog = .call call next)
    (hcall : call ≠ .nack false) :
    ∃ event, decodeDelivery w.job.delivery = .ok event ∧
      w.job.consumer.Permits w.job.delivery event w.trace call := by
  rw [hprog] at hfollows
  exact (Consumer.allowed_cases hfollows.allowed).resolve_left fun h => hcall h.2

/-! ### The claim to a message -/

/-- The run has recorded the message and not asked to release it. -/
def Consumer.Holds (c : Consumer) (event : OutboxEvent) (trace : MessagingTrace) : Prop :=
  ∃ rest, trace = ⟨.record c.consumerName event, .ok true⟩ :: rest ∧
    ∀ r, ⟨.release c.consumerName event, r⟩ ∉ rest

theorem Consumer.holds_snoc {c : Consumer} {trace : MessagingTrace} {x : Exchange MessagingCall.Answer}
    (h : c.Holds event (trace ++ [x])) :
    (trace = [] ∧ x = ⟨.record c.consumerName event, .ok true⟩) ∨
      (c.Holds event trace ∧ ∀ r, x ≠ ⟨.release c.consumerName event, r⟩) := by
  obtain ⟨rest, htrace, hkept⟩ := h
  cases trace with
  | nil =>
    cases htrace
    exact .inl ⟨rfl, rfl⟩
  | cons y trace =>
    cases htrace
    refine .inr ⟨⟨trace, rfl, fun r h => hkept r (List.mem_append_left _ h)⟩, ?_⟩
    rintro r rfl
    exact hkept r (List.mem_append_right _ List.mem_cons_self)

/-- A worker claims the key of its message. -/
def StageWorker.Holds (w : StageWorker) (key : String × String) : Prop :=
  ∃ event, decodeDelivery w.job.delivery = .ok event ∧
    key = (w.job.consumer.consumerName, event.messageID) ∧ w.job.consumer.Holds event w.trace

/-- The exchange with the handler, wherever it is in a worker's history: right after the recording,
once, and not followed by a release if the handler returned nil. -/
structure StageWorker.Handled (w : StageWorker) (event : OutboxEvent) (r : Except Error Unit) : Prop where
  decoded : decodeDelivery w.job.delivery = .ok event
  shape : ∃ rest, w.trace = ⟨.record w.job.consumer.consumerName event, .ok true⟩ ::
    ⟨.handle event, r⟩ :: rest ∧ (∀ e r', ⟨.handle e, r'⟩ ∉ rest) ∧
    (r = .ok () → ∀ name e r', ⟨.release name e, r'⟩ ∉ rest)

theorem handled_of_mem (hs : (stages store svc names).Reachable cond s) (hw : w ∈ s.workers) {r : Except Error Unit}
    (h : ⟨.handle event, r⟩ ∈ w.trace) : w.Handled event r := by
  have hboth : (w.job.consumer.contract w.job.delivery).Follows w.trace w.prog ∧
      ∀ event r, ⟨.handle event, r⟩ ∈ w.trace → w.Handled event r := by
    refine worker_invariant (Φ := fun w =>
      (w.job.consumer.contract w.job.delivery).Follows w.trace w.prog ∧
      ∀ event r, ⟨.handle event, r⟩ ∈ w.trace → w.Handled event r) ?_ ?_ ?_ hs hw
    · exact fun job => ⟨job.consumer.processDelivery_follows job.delivery, fun _ _ h => by cases h⟩
    · rintro w k ⟨hfollows, hhandled⟩
      refine ⟨hfollows, fun event r h => ?_⟩
      obtain ⟨hdecoded, hshape⟩ := hhandled event r h
      exact ⟨hdecoded, hshape⟩
    · rintro w call r next hprog ⟨hfollows, hhandled⟩
      refine ⟨by rw [hprog] at hfollows; exact hfollows.next r, fun event r' h => ?_⟩
      rcases List.mem_append.mp h with hold | hnew
      · obtain ⟨hdecoded, rest, htrace, honce, hkept⟩ := hhandled event r' hold
        refine ⟨hdecoded, rest ++ [⟨call, r⟩], by simp [StageWorker.advance, htrace], ?_, ?_⟩
        · intro e r'' hmem
          rcases List.mem_append.mp hmem with hmem | hmem
          · exact honce e r'' hmem
          · cases List.mem_singleton.mp hmem
            obtain ⟨_, _, hpermits⟩ := worker_permits hfollows hprog MessagingCall.noConfusion
            simp [hpermits.of_handle.2] at htrace
        · intro hr name e r'' hmem
          rcases List.mem_append.mp hmem with hmem | hmem
          · exact hkept hr name e r'' hmem
          · cases List.mem_singleton.mp hmem
            obtain ⟨_, _, hpermits⟩ := worker_permits hfollows hprog MessagingCall.noConfusion
            obtain ⟨_, _, err, hshape⟩ := hpermits.of_release
            simp [hshape, hr] at htrace
      · cases List.mem_singleton.mp hnew
        obtain ⟨event', hdecoded, hpermits⟩ := worker_permits hfollows hprog MessagingCall.noConfusion
        obtain ⟨rfl, htrace⟩ := hpermits.of_handle
        exact ⟨hdecoded, [], by simp [StageWorker.advance, htrace], by simp, by simp⟩
  exact hboth.2 event r h

def Stages.HoldsAt (s : Stages S) (i : Nat) (key : String × String) : Prop :=
  ∃ w, s.workers[i]? = some w ∧ w.Holds key

/-- Every claimed key has its row, and one holder. -/
abbrev Stages.Claimed (s : Stages S) : Prop := Claims (· ∈ s.inbox) s.HoldsAt

theorem StageWorker.Holds.of_advance {r : call.Answer} {next : call.Answer → Messaging (Except Error Unit)}
    {key : String × String} (h : (w.advance call r next).Holds key) :
    (∃ event, key = (w.job.consumer.consumerName, event.messageID) ∧
      (⟨call, r⟩ : Exchange MessagingCall.Answer) = ⟨.record w.job.consumer.consumerName event, .ok true⟩) ∨
      (w.Holds key ∧ ∀ event, decodeDelivery w.job.delivery = .ok event →
        ∀ r', (⟨call, r⟩ : Exchange MessagingCall.Answer) ≠
          ⟨.release w.job.consumer.consumerName event, r'⟩) := by
  obtain ⟨event, hdecode, hkey, hholds⟩ := h
  rcases Consumer.holds_snoc hholds with ⟨_, hx⟩ | ⟨hholds, hx⟩
  · exact .inl ⟨event, hkey, hx⟩
  · refine .inr ⟨⟨event, hdecode, hkey, hholds⟩, fun e he => ?_⟩
    cases hdecode.symm.trans he
    exact hx

/-- The exchange that inserts a row. -/
def insertsRow : Exchange MessagingCall.Answer → Bool
  | ⟨.record _ _, .ok recorded⟩ => recorded
  | _ => false

/-- A claim is made with a free row, a release takes away at most its own row, and no other call takes
away any. -/
theorem Stages.Replies.inbox_cases {r : call.Answer} {late : Bool} (h : s.Replies w inbox late call r) :
    (∃ name event, (⟨call, r⟩ : Exchange MessagingCall.Answer) = ⟨.record name event, .ok true⟩ ∧
      (name, event.messageID) ∉ s.inbox ∧ inbox = (name, event.messageID) :: s.inbox) ∨
    (∃ name event r', (⟨call, r⟩ : Exchange MessagingCall.Answer) = ⟨.release name event, r'⟩ ∧
      ∀ key ∈ s.inbox, key ≠ (name, event.messageID) → key ∈ inbox) ∨
    (insertsRow ⟨call, r⟩ = false ∧ s.inbox ⊆ inbox) := by
  cases call with
  | record name event =>
    cases r with
    | error err =>
      refine .inr (.inr ⟨rfl, ?_⟩)
      rw [show inbox = _ from h]
      split_ifs
      · exact fun key hkey => List.mem_insert_of_mem hkey
      · exact List.Subset.refl _
    | ok recorded =>
      obtain ⟨hrecorded, hinbox⟩ := h
      cases recorded with
      | true => exact .inl ⟨name, event, rfl, of_decide_eq_true hrecorded.symm, hinbox⟩
      | false => exact .inr (.inr ⟨rfl, hinbox ▸ List.Subset.refl _⟩)
  | release name event =>
    refine .inr (.inl ⟨name, event, r, rfl, fun key hkey hne => ?_⟩)
    have hkept : key ∈ s.inbox.filter (· ≠ (name, event.messageID)) :=
      List.mem_filter.mpr ⟨hkey, decide_eq_true hne⟩
    cases r with
    | ok _ => rwa [show inbox = _ from h]
    | error err =>
      rw [show inbox = _ from h]
      split_ifs
      · exact hkept
      · exact hkey
  | handle event => exact .inr (.inr ⟨rfl, h.1 ▸ List.Subset.refl _⟩)
  | publishRetry _ _ _ | confirmSelect | get | publish _ | ack | nack _ =>
    exact .inr (.inr ⟨rfl, (show inbox = s.inbox from h) ▸ List.Subset.refl _⟩)

theorem holdsAt_reply {i j : Nat} {r : call.Answer} {next : call.Answer → Messaging (Except Error Unit)}
    {key : String × String} (hw : s.workers[i]? = some w)
    (h : Stages.HoldsAt { s with inbox := inbox, workers := s.workers.set i (w.advance call r next) } j key) :
    (j = i ∧ ∃ event, key = (w.job.consumer.consumerName, event.messageID) ∧
      (⟨call, r⟩ : Exchange MessagingCall.Answer) = ⟨.record w.job.consumer.consumerName event, .ok true⟩) ∨
      (s.HoldsAt j key ∧ (j = i → ∀ event, decodeDelivery w.job.delivery = .ok event →
        ∀ r', (⟨call, r⟩ : Exchange MessagingCall.Answer) ≠
          ⟨.release w.job.consumer.consumerName event, r'⟩)) := by
  obtain ⟨v, hv, hholds⟩ := h
  rcases (PoolSpec.getElem?_answer hw).mp hv with ⟨rfl, rfl⟩ | ⟨hji, hold⟩
  · rcases hholds.of_advance with hnew | ⟨hholds, hkept⟩
    · exact .inl ⟨rfl, hnew⟩
    · exact .inr ⟨⟨w, hw, hholds⟩, fun _ => hkept⟩
  · exact .inr ⟨⟨v, hold, hholds⟩, fun h => absurd h hji⟩

theorem StageWorker.holds_of_shape (hdecode : decodeDelivery w.job.delivery = .ok event) {rest : MessagingTrace}
    (htrace : w.trace = ⟨.record w.job.consumer.consumerName event, .ok true⟩ :: rest)
    (hkept : ∀ name e r, ⟨.release name e, r⟩ ∉ rest) :
    w.Holds (w.job.consumer.consumerName, event.messageID) :=
  ⟨event, hdecode, rfl, rest, htrace, hkept _ _⟩

theorem claimed_of_reachable (hs : (stages store svc names).Reachable cond s) : s.Claimed := by
  refine Lts.Reachable.invariant (P := Stages.Claimed) ?_ ?_ hs
  · rintro s ⟨_, hnil, _⟩
    have hnone : ∀ i key, ¬ s.HoldsAt i key := by
      rintro i key ⟨w, hw, _⟩
      simp [hnil] at hw
    exact ⟨fun i key h => absurd h (hnone i key), fun i j key h => absurd h (hnone i key)⟩
  · intro s l s' hreach ih hstep _
    cases hstep with
    | saga hown hstep => exact ih
    | deliver hname hgenuine =>
      refine ih.keep fun j key hj => ?_
      obtain ⟨v, hv, hholds⟩ := hj
      rcases PoolSpec.getElem?_spawn.mp hv with hold | ⟨_, rfl⟩
      · exact ⟨⟨v, hold, hholds⟩, ih.marked j key ⟨v, hold, hholds⟩⟩
      · obtain ⟨_, _, _, _, htrace, _⟩ := hholds
        cases htrace
    | handle hw hprog hnone =>
      refine ih.keep fun j key hj => ?_
      have hbefore : s.HoldsAt j key := by
        obtain ⟨v, hv, hholds⟩ := hj
        rcases (PoolSpec.getElem?_answer hw).mp hv with ⟨rfl, rfl⟩ | ⟨_, hold⟩
        · exact ⟨_, hw, hholds⟩
        · exact ⟨v, hold, hholds⟩
      exact ⟨hbefore, ih.marked j key hbefore⟩
    | @reply i w call r next inbox late hw hprog hreply =>
      rcases hreply.inbox_cases with ⟨name, event, hx, hfree, rfl⟩ | ⟨name, event, r', hx, hrows⟩ | ⟨hx, hrows⟩
      · refine ih.acquire (i := i) hfree (fun j key hj => ?_) fun key hkey => List.mem_cons.mpr hkey.symm
        rcases holdsAt_reply hw hj with ⟨rfl, e, hkey, hx'⟩ | ⟨hbefore, _⟩
        · cases hx.symm.trans hx'
          exact .inr ⟨rfl, hkey⟩
        · exact .inl hbefore
      · refine ih.keep fun j key hj => ?_
        rcases holdsAt_reply hw hj with ⟨_, e, _, hx'⟩ | ⟨hbefore, hkept⟩
        · cases hx.symm.trans hx'
        · refine ⟨hbefore, hrows key (ih.marked j key hbefore) fun hkey => ?_⟩
          cases hx
          obtain ⟨event', hdecode, hpermits⟩ := worker_permits
            (worker_follows hreach (List.mem_iff_getElem?.mpr ⟨i, hw⟩)) hprog MessagingCall.noConfusion
          obtain ⟨rfl, rfl, err, htrace⟩ := hpermits.of_release
          have hmine : s.HoldsAt i key :=
            ⟨w, hw, hkey ▸ StageWorker.holds_of_shape hdecode htrace (by simp)⟩
          exact hkept (ih.unique j i key hbefore hmine) event hdecode r' rfl
      · refine ih.keep fun j key hj => ?_
        rcases holdsAt_reply hw hj with ⟨_, e, _, hx'⟩ | ⟨hbefore, _⟩
        · rw [hx'] at hx
          cases hx
        · exact ⟨hbefore, hrows (ih.marked j key hbefore)⟩

/-! ### Workers and handler runs -/

/-- Workers and the handler runs of the saga belong together. A worker that has started a run is
waiting for it, or has been answered with what it returned. -/
structure Stages.Linked (s : Stages S) : Prop where
  thread : ∀ (i : Nat) (w : StageWorker) (k : Nat), s.workers[i]? = some w → w.handler = some k →
    ∃ (t : SagaThread) (event : OutboxEvent), s.saga.threads[k]? = some t ∧
      decodeDelivery w.job.delivery = .ok event ∧ t.job = .handle w.job.queue w.job.deps event ∧
      (w.trace = [⟨.record w.job.consumer.consumerName event, .ok true⟩] ∨
        ∃ r, ⟨.handle event, r⟩ ∈ w.trace ∧ t.prog = .ret r)
  worker : ∀ (k : Nat) (t : SagaThread), s.saga.threads[k]? = some t → t.job.isHandler = true →
    ∃ (i : Nat) (w : StageWorker), s.workers[i]? = some w ∧ w.handler = some k

theorem Stages.Linked.thread_reply (h : s.Linked) (hs : (stages store svc names).Reachable cond s) {i k : Nat}
    {r : call.Answer} {next : call.Answer → Messaging (Except Error Unit)} {late : Bool} (hw : s.workers[i]? = some w)
    (hprog : w.prog = .call call next) (hreply : s.Replies w inbox late call r) (hk : w.handler = some k) :
    ∃ (t : SagaThread) (event : OutboxEvent),
      s.saga.threads[k]? = some t ∧ decodeDelivery w.job.delivery = .ok event ∧
      t.job = .handle w.job.queue w.job.deps event ∧
      ((w.advance call r next).trace = [⟨.record w.job.consumer.consumerName event, .ok true⟩] ∨
        ∃ r', ⟨.handle event, r'⟩ ∈ (w.advance call r next).trace ∧ t.prog = .ret r') := by
  obtain ⟨t, event, ht, hdecode, hjob, hwaiting | ⟨r', hmem, hret⟩⟩ := h.thread i w k hw hk
  · have hallowed := worker_follows hs (List.mem_iff_getElem?.mpr ⟨i, hw⟩)
    rw [hprog, hwaiting] at hallowed
    rcases Consumer.allowed_cases hallowed.allowed with ⟨hnil, _⟩ | ⟨event', hdecode', hpermits⟩
    · cases hnil
    · cases hdecode.symm.trans hdecode'
      cases hpermits
      obtain ⟨_, k', t', hk', ht', hret⟩ := hreply
      cases hk.symm.trans hk'
      cases ht.symm.trans ht'
      exact ⟨t, event, ht, hdecode, hjob, .inr ⟨r, List.mem_append_right _ (List.mem_singleton_self _), hret⟩⟩
  · exact ⟨t, event, ht, hdecode, hjob, .inr ⟨r', List.mem_append_left _ hmem, hret⟩⟩

theorem linked_of_reachable (hs : (stages store svc names).Reachable cond s) : s.Linked := by
  refine Lts.Reachable.invariant (P := Stages.Linked) ?_ ?_ hs
  · rintro s ⟨_, hworkers, _, hthreads⟩
    exact ⟨fun i w k hw => by simp [hworkers] at hw, fun k t ht => by simp [hthreads] at ht⟩
  · intro s l s' hreach ih hstep _
    cases hstep with
    | deliver hname hgenuine =>
      refine ⟨fun j v k hv hk => ?_, fun k t ht hjob => ?_⟩
      · rcases PoolSpec.getElem?_spawn.mp hv with hold | ⟨_, rfl⟩
        · exact ih.thread j v k hold hk
        · cases hk
      · obtain ⟨j, v, hv, hk⟩ := ih.worker k t ht hjob
        exact ⟨j, v, PoolSpec.getElem?_spawn.mpr (.inl hv), hk⟩
    | @handle i w event next hw hprog hnone =>
      obtain ⟨event', hdecode, hpermits⟩ := worker_permits
        (worker_follows hreach (List.mem_iff_getElem?.mpr ⟨i, hw⟩)) hprog MessagingCall.noConfusion
      obtain ⟨rfl, htrace⟩ := hpermits.of_handle
      refine ⟨fun j v k hv hk => ?_, fun k t ht hjob => ?_⟩
      · rcases (PoolSpec.getElem?_answer hw).mp hv with ⟨rfl, rfl⟩ | ⟨_, hold⟩
        · cases hk
          exact ⟨_, event, PoolSpec.getElem?_spawn.mpr (.inr ⟨rfl, rfl⟩), hdecode, rfl, .inl htrace⟩
        · obtain ⟨t, e, ht, hrest⟩ := ih.thread j v k hold hk
          exact ⟨t, e, PoolSpec.getElem?_spawn.mpr (.inl ht), hrest⟩
      · rcases PoolSpec.getElem?_spawn.mp ht with hold | ⟨rfl, rfl⟩
        · obtain ⟨j, v, hv, hk⟩ := ih.worker k t hold hjob
          refine ⟨j, v, (PoolSpec.getElem?_answer hw).mpr (.inr ⟨?_, hv⟩), hk⟩
          rintro rfl
          cases hv.symm.trans hw
          cases hnone.symm.trans hk
        · exact ⟨i, _, (PoolSpec.getElem?_answer hw).mpr (.inl ⟨rfl, rfl⟩), rfl⟩
    | @reply i w call r next inbox late hw hprog hreply =>
      refine ⟨fun j v k hv hk => ?_, fun k t ht hjob => ?_⟩
      · rcases (PoolSpec.getElem?_answer hw).mp hv with ⟨rfl, rfl⟩ | ⟨_, hold⟩
        · exact ih.thread_reply hreach hw hprog hreply hk
        · exact ih.thread j v k hold hk
      · obtain ⟨j, v, hv, hk⟩ := ih.worker k t ht hjob
        by_cases hji : j = i
        · subst hji
          cases hv.symm.trans hw
          exact ⟨j, _, (PoolSpec.getElem?_answer hw).mpr (.inl ⟨rfl, rfl⟩), hk⟩
        · exact ⟨j, v, (PoolSpec.getElem?_answer hw).mpr (.inr ⟨hji, hv⟩), hk⟩
    | saga hown hstep =>
      refine ⟨fun j v k hv hk => ?_, fun k t ht hjob => ?_⟩
      · obtain ⟨t, event, ht, hdecode, hjob, hstate⟩ := ih.thread j v k hv hk
        obtain ⟨t', ht', hjob', hsame⟩ := hstep.getElem?_persists ht
        refine ⟨t', event, ht', hdecode, hjob'.trans hjob, hstate.imp id ?_⟩
        rintro ⟨r, hmem, hret⟩
        exact ⟨r, hmem, by rw [hsame r hret, hret]⟩
      · rcases hstep.thread_cases ht with hold | ⟨job, rfl, _, rfl⟩ | ⟨job, trace, c, next, r, _, hold, _, rfl⟩
        · exact ih.worker k t hold hjob
        · simp [SagaLabel.isOwn, show job.isHandler = true from hjob] at hown
        · exact ih.worker k _ hold hjob

theorem envelopes_subset_of_stage_step (h : Stages.Step store svc names s l s') :
    store.envelopes s.saga ⊆ store.envelopes s'.saga := by
  cases h with
  | saga hown hstep => exact envelopes_subset_of_step hstep
  | deliver | handle | reply => exact List.Subset.refl _

theorem worker_origin (hs : (stages store svc names).Reachable cond s) (hw : w ∈ s.workers) :
    w.job.consumer.consumerName = names w.job.queue ∧
      ∀ event, decodeDelivery w.job.delivery = .ok event → event.envelope ∈ store.envelopes s.saga := by
  refine Lts.Reachable.invariant (P := fun s => ∀ w ∈ s.workers,
    w.job.consumer.consumerName = names w.job.queue ∧ ∀ event,
      decodeDelivery w.job.delivery = .ok event → event.envelope ∈ store.envelopes s.saga) ?_ ?_ hs w hw
  · rintro s ⟨_, hnil, _⟩ w hw
    simp [hnil] at hw
  · intro s l s' _ ih hstep _ w hw
    have hsubset := envelopes_subset_of_stage_step hstep
    obtain ⟨j, hj⟩ := List.mem_iff_getElem?.mp hw
    have hold : ∀ {v : StageWorker}, s.workers[j]? = some v → v.job = w.job → _ := fun hv hjob =>
      (hjob ▸ (ih _ (List.mem_iff_getElem?.mpr ⟨j, hv⟩)).imp_right fun h e he => hsubset (h e he) :
        w.job.consumer.consumerName = names w.job.queue ∧ ∀ event,
          decodeDelivery w.job.delivery = .ok event → event.envelope ∈ store.envelopes s'.saga)
    rcases hstep.worker_cases hj with hv | ⟨job, rfl, rfl⟩ | ⟨v, _, _, _, hv, _, rfl⟩ |
      ⟨v, _, _, _, _, _, hv, _, rfl⟩
    · exact hold hv rfl
    · cases hstep with
      | deliver hname hgenuine => exact ⟨hname, hgenuine⟩
    · exact hold hv rfl
    · exact hold hv rfl

end FulfillHub
