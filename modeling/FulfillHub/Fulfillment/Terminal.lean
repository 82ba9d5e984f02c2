import FulfillHub.Fulfillment.OrderLifecycle

/-!
# Terminal orders

A completed, failed, cancelled or reviewed order should not change any more. In the lifecycle the only
moves that start from such a phase are the unguarded failure projections and the compensation of a
failed payment on a cancelled order, and a repetition of the cancellation's own outcome. Runs without
these writes leave terminal orders alone; a late failure of the stock reservation does not.
-/

namespace FulfillHub

open Interaction

variable {svc : Service} {s t : MemorySaga} {l : SagaLabel} {orderID : String} {order : Order} {p : Phase}

/-- The moves a consistent phase allows in a terminal status. -/
def Move.late (status : OrderStatus) (m : Move) : Bool :=
  match status with
  | .cancelled => [Move.reject, .failPayment, .failShipment, .compensatePayment, .cancel].contains m
  | .manualReview => m == .review
  | _ => false

theorem Move.late_of_terminal (stage : Stage) (m : Move) :
    ∀ status ∈ stage.statuses, ∀ requested released : Bool,
      Phase.Consistent ⟨stage, status, requested, released⟩ →
      m.Guard ⟨stage, status, requested, released⟩ →
      m.target.all (canTransitionOrderStatus status) = true → status.isTerminal = true →
      m.late status = true := by
  cases stage <;> cases m <;> decide

theorem Phase.Step.late {p' : Phase} {m : Move} (h : p.Step m p') (hp : p.Consistent)
    (hterminal : p.status.isTerminal = true) : m.late p.status = true := by
  refine Move.late_of_terminal p.stage m p.status hp.status p.requested p.released hp h.guarded ?_ hterminal
  cases hm : m.target with
  | none => rfl
  | some status => exact h.target status hm

/-- The step is a store call that would make a late move on its order. -/
def lateWrite (s : MemorySaga) : SagaLabel → Bool
  | .answer _ (.store c) _ =>
    match c.effect, c.move with
    | some (orderID, _), some m => (orderOf s orderID).any fun order => m.late order.status
    | _, _ => false
  | _ => false

/-- Handlers take events from the outbox and succeed at most once per event and queue. -/
def OnceRun (s : MemorySaga) (l : SagaLabel) : Prop := FromOutbox memoryOutboxStore s l ∧ AtMostOnce s l

def PunctualRun (s : MemorySaga) (l : SagaLabel) : Prop := OnceRun s l ∧ lateWrite s l = false

theorem punctualRun_disciplined : Disciplined PunctualRun :=
  ⟨fun _ _ h => h.1.1, fun _ _ h => h.1.2⟩

theorem frozen_step (hs : (memorySaga svc).Reachable PunctualRun s) (hstep : (memorySaga svc).step s l t)
    (hl : PunctualRun s l) (horder : orderOf s orderID = some order)
    (hterminal : order.status.isTerminal = true) :
    orderOf t orderID = some order ∧ eventsFor t orderID = eventsFor s orderID := by
  have hsim := simulated_of_reachable punctualRun_disciplined hs
  obtain ⟨p, hp, hrep⟩ := hsim.phases orderID order horder
  cases order_step punctualRun_disciplined hs hstep hl hsim.reviews horder hrep with
  | same horder' hevents _ => exact ⟨horder', hevents⟩
  | moved i c r job trace proj m hlabel _ _ heffect hmake hmove _ _ =>
    subst hlabel
    rw [hrep.status] at hterminal
    have hlate : m.late order.status = true := hrep.status ▸ hmove.late hp hterminal
    have hpunctual := hl.2
    simp [lateWrite, heffect, hmake.move, horder, hlate] at hpunctual

/-- **Terminal orders are frozen** along every run without late writes: from the state in which an
order is completed, cancelled, failed or under manual review, no later step changes it or appends an
event for it. -/
theorem terminal_frozen (svc : Service) {s t : MemorySaga} {ls : List SagaLabel}
    (hs : (memorySaga svc).Reachable PunctualRun s) (hpath : (memorySaga svc).Path PunctualRun s ls t)
    {orderID : String} {order : Order} (horder : orderOf s orderID = some order)
    (hterminal : order.status.isTerminal = true) :
    orderOf t orderID = some order ∧ eventsFor t orderID = eventsFor s orderID := by
  induction hpath with
  | nil => exact ⟨horder, rfl⟩
  | cons hstep hl _ ih =>
    obtain ⟨horder', hevents⟩ := frozen_step hs hstep hl horder hterminal
    obtain ⟨hlast, hsame⟩ := ih (.step hs hstep hl) horder'
    exact ⟨hlast, hsame.trans hevents⟩

def onceCheck (s : MemorySaga) (l : SagaLabel) (t : MemorySaga) : Bool :=
  decide (FromOutbox memoryOutboxStore s l ∧ Unrepeated t)

theorem onceCheck_decides (svc : Service) : Decides (memorySaga svc) onceCheck OnceRun := by
  intro s l t hstep h
  obtain ⟨hfrom, honce⟩ := of_decide_eq_true h
  exact ⟨hfrom, atMostOnce_of_unrepeated hstep honce⟩

def punctualCheck (s : MemorySaga) (l : SagaLabel) (t : MemorySaga) : Bool :=
  onceCheck s l t && !lateWrite s l

theorem punctualCheck_decides (svc : Service) : Decides (memorySaga svc) punctualCheck PunctualRun := by
  intro s l t hstep h
  rw [punctualCheck, Bool.and_eq_true, Bool.not_eq_true'] at h
  exact ⟨onceCheck_decides svc s l t hstep h.1, h.2⟩

/-- A reservation for `ord_1` that is still waiting for its provider while the order is cancelled. -/
def cancelledActs : List Act :=
  createActs ++ [.handle .inventoryReserve allProviders 0, .reply 1 (.time 2),
    .start (.cancelOrder "ord_1" "corr-2" sampleActor), .store 2, .reply 2 (.time 3), .reply 2 (.id "2"),
    .store 2, .handle .ordersCancel allProviders 1, .store 3, .reply 3 (.time 4), .reply 3 (.id "3"),
    .store 3]

/-- The waiting reservation succeeds: the store refuses to record it, and the cancelled order stays. -/
theorem terminal_frozen_cancelled : ∃ s ls t, (memorySaga sampleService).Reachable PunctualRun s ∧
    (memorySaga sampleService).Path PunctualRun s ls t ∧
    (orderOf s "ord_1").map Order.status = some .cancelled ∧ orderOf t "ord_1" = orderOf s "ord_1" := by
  obtain ⟨s, ls, t, hs, hpath, hstatus⟩ := (memorySimulator sampleService).exists_path
    (Q := fun s _ => (orderOf s "ord_1").map Order.status = some .cancelled)
    (punctualCheck_decides sampleService) reachable_emptySaga cancelledActs
    [.reply 1 (.reservation (.ok ())), .reply 1 (.id "4"), .store 1] (by decide)
  obtain ⟨order, horder, hcancelled⟩ := Option.map_eq_some_iff.mp hstatus
  refine ⟨s, ls, t, hs, hpath, hstatus, ?_⟩
  rw [horder]
  exact (terminal_frozen sampleService hs hpath horder (by rw [hcancelled]; rfl)).1

/-- The waiting reservation fails: the cancelled order gets rejected items and another event. -/
theorem late_rejection_changes_cancelled_order : ∃ s ls t,
    (memorySaga sampleService).Reachable OnceRun s ∧ (memorySaga sampleService).Path OnceRun s ls t ∧
    (orderOf s "ord_1").map Order.status = some .cancelled ∧ orderOf t "ord_1" ≠ orderOf s "ord_1" ∧
    (eventsFor t "ord_1").length = (eventsFor s "ord_1").length + 1 :=
  (memorySimulator sampleService).exists_path (Q := fun s t => (orderOf s "ord_1").map Order.status = some .cancelled ∧
      orderOf t "ord_1" ≠ orderOf s "ord_1" ∧
      (eventsFor t "ord_1").length = (eventsFor s "ord_1").length + 1)
    (onceCheck_decides sampleService) reachable_emptySaga cancelledActs
    [.reply 1 (.reservation (.error (.plain "warehouse offline"))), .reply 1 (.id "4"), .store 1]
    (by decide)

end FulfillHub
