import FulfillHub.Fulfillment.Script
import FulfillHub.Fulfillment.StageClaims

/-!
# Effectively once

The inbox makes the saga's stages happen once. The row of a message is only released when the handler
has failed, so a handler run is started only when all earlier ones for the same queue and message have
failed. This is the condition under which the ledger of events has one outcome per stage.
-/

namespace FulfillHub

open Interaction

variable {S : Type} {store : OutboxStore S} {svc : Service} {names : Queue → String} {s s' : Stages S}
  {l : StageLabel} {w : StageWorker} {cond : Stages S → StageLabel → Prop}

/-! ### The saga under the inbox -/

/-- What the inbox ensures of the saga's runs. -/
def InboxRun (store : OutboxStore S) (s : SagaState S) (l : SagaLabel) : Prop :=
  FromOutbox store s l ∧ Exclusive s l

/-- A worker starts its handler only when every earlier run for the same message has failed. -/
theorem exclusive_handle (hs : (stages store svc names).Reachable cond s) {i : Nat} {event : OutboxEvent}
    {next : Except Error Unit → Messaging (Except Error Unit)} (hw : s.workers[i]? = some w)
    (hprog : w.prog = .call (.handle event) next) (hnone : w.handler = none) :
    InboxRun store s.saga (.spawn (.handle w.job.queue w.job.deps event)) := by
  have hmem : w ∈ s.workers := List.mem_iff_getElem?.mpr ⟨i, hw⟩
  obtain ⟨event', hdecode, hpermits⟩ :=
    worker_permits (worker_follows hs hmem) hprog MessagingCall.noConfusion
  obtain ⟨rfl, htrace⟩ := hpermits.of_handle
  refine ⟨(worker_origin hs hmem).2 event hdecode, fun u hu hsame => ?_⟩
  obtain ⟨k, hk⟩ := PoolSpec.mem_threads.mp hu
  have hhandler : u.job.isHandler = true := by
    cases hjob : u.job with
    | handle queue deps e => rfl
    | _ => rw [hjob] at hsame; cases hsame
  obtain ⟨j, v, hv, hvk⟩ := (linked_of_reachable hs).worker k u hk hhandler
  obtain ⟨t, e, ht, hdecode', hjob, hstate⟩ := (linked_of_reachable hs).thread j v k hv hvk
  cases hk.symm.trans ht
  rw [hjob] at hsame
  obtain ⟨hqueue, hid⟩ := hsame
  have hvmem : v ∈ s.workers := List.mem_iff_getElem?.mpr ⟨j, hv⟩
  have hkey : (v.job.consumer.consumerName, e.messageID) = (w.job.consumer.consumerName, event.messageID) := by
    rw [(worker_origin hs hvmem).1, (worker_origin hs hmem).1, hqueue, hid]
  have hmine : s.HoldsAt i (w.job.consumer.consumerName, event.messageID) :=
    ⟨w, hw, StageWorker.holds_of_shape hdecode htrace (by simp)⟩
  -- as long as the earlier worker holds the claim, it is the same worker
  have hother : v.Holds (v.job.consumer.consumerName, e.messageID) → v = w := by
    intro hholds
    rw [hkey] at hholds
    have hij := (claimed_of_reachable hs).unique j i _ ⟨v, hv, hholds⟩ hmine
    subst hij
    exact Option.some.inj (hv.symm.trans hw)
  rcases hstate with hwaiting | ⟨r, hmem', hret⟩
  · cases hother (StageWorker.holds_of_shape hdecode' hwaiting (by simp))
    cases hnone.symm.trans hvk
  · cases r with
    | error err => exact ⟨err, hret⟩
    | ok _ =>
      obtain ⟨_, rest, hshape, _, hkept⟩ := handled_of_mem hs hvmem hmem'
      have hsame := hother (StageWorker.holds_of_shape hdecode' hshape (by simpa using hkept rfl))
      subst hsame
      simp [htrace] at hshape

theorem saga_reachable (hs : (stages store svc names).Reachable cond s) :
    (saga store svc).Reachable (InboxRun store) s.saga := by
  refine Lts.Reachable.invariant
    (P := fun s => (saga store svc).Reachable (InboxRun store) s.saga) ?_ ?_ hs
  · exact fun s hinit => .start hinit.2.2
  · intro s l s' hreach ih hstep _
    cases hstep with
    | deliver | reply => exact ih
    | handle hw hprog hnone => exact .step ih (.spawn _ _) (exclusive_handle hreach hw hprog hnone)
    | @saga l t hown hstep =>
      refine .step ih hstep ?_
      cases l with
      | answer i c r => exact ⟨trivial, trivial⟩
      | spawn job =>
        cases job with
        | handle queue deps event => cases hown
        | _ => exact ⟨trivial, fun u hu hsame => by cases hsame⟩

/-! ### The result -/

/-- The handler returned nil for the message. -/
def returnedNil (messageID : String) : Exchange MessagingCall.Answer → Bool
  | ⟨.handle event, .ok _⟩ => event.messageID == messageID
  | _ => false

/-- How often the handler has returned nil for a message under a consumer name. -/
def Stages.nilReturns (s : Stages S) (name messageID : String) : Nat :=
  (s.workers.map fun w =>
    if w.job.consumer.consumerName = name then w.trace.countP (returnedNil messageID) else 0).sum

theorem returnedNil_eq_true {messageID : String} {x : Exchange MessagingCall.Answer}
    (h : returnedNil messageID x = true) : ∃ event, x = ⟨.handle event, .ok ()⟩ ∧ event.messageID = messageID := by
  obtain ⟨call, r⟩ := x
  cases call with
  | handle event =>
    cases r with
    | ok _ => exact ⟨event, rfl, by simpa [returnedNil] using h⟩
    | error err => cases h
  | _ => cases h

theorem holds_of_nil (hs : (stages store svc names).Reachable cond s) {i : Nat} (hw : s.workers[i]? = some w)
    {messageID : String} (h : 0 < w.trace.countP (returnedNil messageID)) :
    s.HoldsAt i (w.job.consumer.consumerName, messageID) := by
  obtain ⟨x, hx, hnil⟩ := List.countP_pos_iff.mp h
  obtain ⟨event, rfl, rfl⟩ := returnedNil_eq_true hnil
  obtain ⟨hdecode, rest, htrace, _, hkept⟩ := handled_of_mem hs (List.mem_iff_getElem?.mpr ⟨i, hw⟩) hx
  exact ⟨w, hw, StageWorker.holds_of_shape hdecode htrace (by simpa using hkept rfl)⟩

theorem countP_nil_le_one (hs : (stages store svc names).Reachable cond s) (hw : w ∈ s.workers)
    (messageID : String) : w.trace.countP (returnedNil messageID) ≤ 1 := by
  by_cases hpos : 0 < w.trace.countP (returnedNil messageID)
  · obtain ⟨x, hx, hnil⟩ := List.countP_pos_iff.mp hpos
    obtain ⟨event, rfl, rfl⟩ := returnedNil_eq_true hnil
    obtain ⟨_, rest, htrace, honce, _⟩ := handled_of_mem hs hw hx
    have hrest : rest.countP (returnedNil event.messageID) = 0 := by
      rw [List.countP_eq_zero]
      intro y hy hnil'
      obtain ⟨e, rfl, _⟩ := returnedNil_eq_true hnil'
      exact honce e _ hy
    rw [htrace, List.countP_cons, List.countP_cons, hrest]
    simp [returnedNil]
  · omega

theorem nilReturns_le_one (hs : (stages store svc names).Reachable cond s) (name messageID : String) :
    s.nilReturns name messageID ≤ 1 := by
  refine sum_le_one_of_unique ?_ ?_
  · intro n hn
    obtain ⟨w, hw, rfl⟩ := List.mem_map.mp hn
    split
    · exact countP_nil_le_one hs hw messageID
    · omega
  · intro i j m n hi hj hm hn
    have hholds : ∀ {i n : Nat}, (s.workers.map fun w =>
        if w.job.consumer.consumerName = name then w.trace.countP (returnedNil messageID) else 0)[i]? =
        some n → 0 < n → s.HoldsAt i (name, messageID) := by
      intro i n hi hn
      rw [List.getElem?_map] at hi
      obtain ⟨w, hw, hcount⟩ := Option.map_eq_some_iff.mp hi
      by_cases hname : w.job.consumer.consumerName = name
      · rw [if_pos hname] at hcount
        exact hname ▸ holds_of_nil hs hw (hcount ▸ hn)
      · rw [if_neg hname] at hcount
        omega
    exact (claimed_of_reachable hs).unique i j _ (hholds hi hm) (hholds hj hn)

/-- The outcomes of the forward stages. -/
def stageOutcomes : List (List EventType) :=
  [[.inventoryReserved, .inventoryRejected], [.paymentAuthorized, .paymentFailed],
    [.shipmentCreated, .shipmentFailed], [.orderCompleted]]

theorem outcomes_le_one (hs : (stages store svc names).Reachable cond s) (orderID : String)
    {outcomes : List EventType} (houtcomes : outcomes ∈ stageOutcomes) :
    (store.outbox s.saga.shared.store).countP
      (fun e => decide (e.orderID = orderID ∧ e.eventType ∈ outcomes)) ≤ 1 := by
  have hsaga := (saga_reachable hs).strengthen
    fun s l _ hreach _ _ => (atMostOnce_of_exclusive (fun _ _ h => h.2) hreach : AtMostOnce s l)
  obtain ⟨queue, hqueue, rfl⟩ : ∃ queue ∈ forwardQueues, queue.outcomes = outcomes := by
    simp only [stageOutcomes, List.mem_cons, List.not_mem_nil, or_false] at houtcomes
    rcases houtcomes with rfl | rfl | rfl | rfl
    · exact ⟨.inventoryReserve, by simp [forwardQueues], rfl⟩
    · exact ⟨.paymentsAuthorize, by simp [forwardQueues], rfl⟩
    · exact ⟨.shipmentsCreate, by simp [forwardQueues], rfl⟩
    · exact ⟨.ordersFinalize, by simp [forwardQueues], rfl⟩
  have hone := oneOutcome (fun _ _ h => h.1.1) (fun _ _ h => h.2) hsaga hqueue
  have hcount : (store.outbox s.saga.shared.store).countP
      (fun e => decide (e.orderID = orderID ∧ e.eventType ∈ queue.outcomes)) =
      (store.envelopes s.saga).countP
        (fun env => decide (env.orderID = orderID ∧ env.eventType ∈ queue.outcomes)) := by
    rw [OutboxStore.envelopes, List.countP_map]
    rfl
  rw [hcount]
  refine countP_le_one_of_unique (nodup_messageIDs hsaga).of_map fun a ha b hb hpa hpb => ?_
  obtain ⟨horder, htype⟩ := of_decide_eq_true hpa
  obtain ⟨horder', htype'⟩ := of_decide_eq_true hpb
  exact hone a ha b hb (horder.trans horder'.symm) htype htype'

/-- **Effectively once.** Whatever is delivered, redelivered, retried or replayed, and wherever workers
stop: per consumer name and message the handler has returned nil at most once, and an order has at most
one reservation outcome, one payment outcome, one shipment outcome and one completion in the outbox. -/
theorem effectively_once (store : OutboxStore S) (svc : Service) (names : Queue → String) {s : Stages S}
    (hs : (stages store svc names).Reachable Lts.anyStep s) :
    (∀ name messageID, s.nilReturns name messageID ≤ 1) ∧
      ∀ orderID, ∀ outcomes ∈ stageOutcomes, (store.outbox s.saga.shared.store).countP
        (fun e => decide (e.orderID = orderID ∧ e.eventType ∈ outcomes)) ≤ 1 :=
  ⟨nilReturns_le_one hs, fun orderID _ houtcomes => outcomes_le_one hs orderID houtcomes⟩

/-! ### A run with a duplicate delivery -/

/-- The acts of a script for the workers of all queues. -/
inductive StageAct
  | deliver (queue : Queue) (position : Nat)
  | handle (i : Nat)
  | work (i : Nat)
  | saga (act : Act)

/-- A worker's call answered without a fault. -/
def Stages.faultless {S : Type} (s : Stages S) (w : StageWorker) :
    (call : MessagingCall) → Option (call.Answer × List (String × String))
  | .record name event =>
    let recorded := decide ((name, event.messageID) ∉ s.inbox)
    some (.ok recorded, if recorded then (name, event.messageID) :: s.inbox else s.inbox)
  | .handle _ =>
    match w.handler.bind (s.saga.threads[·]?) with
    | some ⟨_, _, .ret r⟩ => some (r, s.inbox)
    | _ => none
  | .release name event => some (.ok (), s.inbox.filter (· ≠ (name, event.messageID)))
  | .get => some (.ok none, s.inbox)
  | .publishRetry _ _ _ | .confirmSelect | .publish _ | .ack | .nack _ => some (.ok (), s.inbox)

theorem Stages.replies_of_faultless {call : MessagingCall} {r : call.Answer} {inbox : List (String × String)}
    (h : s.faultless w call = some (r, inbox)) :
    s.Replies w inbox false call r := by
  cases call with
  | record name event =>
    cases h
    exact ⟨rfl, rfl⟩
  | handle event =>
    simp only [faultless] at h
    split at h
    · rename_i job trace r' hthread
      cases h
      obtain ⟨k, hk, ht⟩ := Option.bind_eq_some_iff.mp hthread
      exact ⟨rfl, k, _, hk, ht, rfl⟩
    · cases h
  | release name event =>
    cases h
    rfl
  | publishRetry _ _ _ | confirmSelect | get | publish _ | ack | nack _ =>
    cases h
    rfl

def queueConsumer (queue : Queue) : Consumer := ⟨queue.name, "", true, true, true, 0⟩

def StageAct.apply (svc : Service) (s : Stages MemoryStore) : StageAct → Option (StageLabel × Stages MemoryStore)
  | .deliver queue position =>
    match s.saga.shared.store.outbox[position]? with
    | some event =>
      let job : StageJob := ⟨queue, queueConsumer queue, allProviders, publication event⟩
      some (.deliver job, { s with workers := s.workers ++ [.start job] })
    | none => none
  | .handle i =>
    match s.workers[i]? with
    | some ⟨⟨job, trace, .call (.handle event) next⟩, none⟩ =>
      some (.handle i,
        { s with
          workers := s.workers.set i
            (StageWorker.runs ⟨⟨job, trace, .call (.handle event) next⟩, none⟩ s.saga.threads.length)
          saga := ⟨s.saga.shared, s.saga.threads ++
            [(sagaSpec memoryOutboxStore svc).fresh (.handle job.queue job.deps event)]⟩ })
    | _ => none
  | .work i =>
    match s.workers[i]? with
    | some ⟨⟨job, trace, .call call next⟩, handler⟩ =>
      match s.faultless ⟨⟨job, trace, .call call next⟩, handler⟩ call with
      | some (r, inbox) => some (.reply i call r false,
          { s with
            inbox := inbox
            workers := s.workers.set i
              (StageWorker.advance ⟨⟨job, trace, .call call next⟩, handler⟩ call r next) })
      | none => none
    | _ => none
  | .saga act =>
    match act.apply memoryOutboxStore svc s.saga with
    | some (l, t) => if SagaLabel.isOwn l then some (.saga l, { s with saga := t }) else none
    | none => none

theorem StageAct.step {svc : Service} {s t : Stages MemoryStore} {a : StageAct} {l : StageLabel}
    (h : a.apply svc s = some (l, t)) : (stages memoryOutboxStore svc Queue.name).step s l t := by
  cases a with
  | deliver queue position =>
    simp only [StageAct.apply] at h
    split at h
    · rename_i event hevent
      cases h
      refine .deliver rfl fun decoded hdecoded => ?_
      rw [envelope_of_publication hdecoded]
      exact List.mem_map_of_mem (List.mem_of_getElem? hevent)
    · cases h
  | handle i =>
    simp only [StageAct.apply] at h
    split at h
    · rename_i job trace event next hw
      cases h
      exact .handle hw rfl rfl
    · cases h
  | work i =>
    simp only [StageAct.apply] at h
    split at h
    · rename_i job trace call next handler hw
      split at h
      · rename_i r inbox hreply
        cases h
        exact .reply hw rfl (Stages.replies_of_faultless hreply)
      · cases h
    · cases h
  | saga act =>
    simp only [StageAct.apply] at h
    split at h
    · rename_i l' t' hact
      split_ifs at h with hown
      cases h
      exact .saga hown (Act.step hact)
    · cases h

def stageSimulator (svc : Service) : Simulator (stages memoryOutboxStore svc Queue.name) StageAct where
  next := fun s a => a.apply svc s
  sound := StageAct.step

/-- Two workers get the same event. One records it and reserves the stock, the other acknowledges the
duplicate. -/
def duplicateActs : List StageAct :=
  createActs.map .saga ++ [.deliver .inventoryReserve 0, .deliver .inventoryReserve 0, .work 0, .work 1,
    .handle 0, .saga (.reply 1 (.time 2)), .saga (.reply 1 (.reservation (.ok ()))),
    .saga (.reply 1 (.id "2")), .saga (.store 1), .work 0, .work 0, .work 1]

theorem effectively_once_duplicate : ∃ s,
    (stages memoryOutboxStore sampleService Queue.name).Reachable Lts.anyStep s ∧ s.workers.length = 2 ∧
    s.nilReturns Queue.inventoryReserve.name "msg_1" = 1 ∧
    s.saga.shared.store.outbox.countP (fun e => decide (e.orderID = "ord_1" ∧
      e.eventType ∈ [EventType.inventoryReserved, .inventoryRejected])) ≤ 1 := by
  obtain ⟨s, hs, hlength, hnil⟩ := (stageSimulator sampleService).exists_reachable
    (Q := fun s => s.workers.length = 2 ∧ s.nilReturns Queue.inventoryReserve.name "msg_1" = 1)
    decides_anyStep (s := ⟨[], [], emptySaga⟩) (.start ⟨rfl, rfl, ⟨rfl, rfl⟩, rfl⟩) duplicateActs (by decide)
  exact ⟨s, hs, hlength, hnil, (effectively_once memoryOutboxStore sampleService Queue.name hs).2 "ord_1" _
    (by simp [stageOutcomes])⟩

end FulfillHub
