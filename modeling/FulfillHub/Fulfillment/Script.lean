import FulfillHub.Fulfillment.MemorySaga
import FulfillHub.Library.Simulator

/-!
# Scripted runs

An executable scheduler for the saga. A script starts jobs, lets handlers
pick events from the outbox by position, and answers one pending call at a time; each act is one step
of the system.
-/

namespace FulfillHub

open Interaction

/-- What the outside world answers. -/
inductive Reply
  | time (now : Time)
  | id (suffix : String)
  | reservation (answer : Except Error Unit)
  | payment (answer : Except Error Payment)
  | shipment (answer : Except Error Shipment)

inductive Act
  | start (job : Job)
  | handle (queue : Queue) (deps : Dependencies) (position : Nat)
  | store (i : Nat)
  | reply (i : Nat) (given : Reply)

/-- The answer a reply gives to a call, if it is one to that call. -/
def Reply.answer : Reply → (c : PortCall) → Option c.Answer
  | .time now, .clock => some now
  | .id suffix, .newID kind => some (kind ++ "_" ++ suffix)
  | .reservation answer, .reserveInventory _ => some answer
  | .payment answer, .authorizePayment _ => some answer
  | .shipment answer, .createShipment _ => some answer
  | _, _ => none

/-- The world after a call of the outside world has been answered. -/
def World.answered {S : Type} (w : World S) : (c : PortCall) → c.Answer → Option (World S)
  | .newID _, id => if w.issued.contains id then none else some ⟨w.store, id :: w.issued⟩
  | _, _ => some w

theorem Reply.answers {S : Type} {semantics : StoreSemantics S} {w w' : World S} {reply : Reply}
    {c : PortCall} {r : c.Answer} (hr : reply.answer c = some r) (hw : w.answered c r = some w') :
    Answers semantics w (.port c) r w' := by
  cases c with
  | newID kind =>
    cases reply <;> cases hr
    simp only [World.answered] at hw
    split_ifs at hw with hfresh
    cases hw
    exact ⟨⟨_, rfl⟩, by simpa using hfresh, rfl⟩
  | clock => cases hw; rfl
  | reserveInventory => cases hw; rfl
  | authorizePayment => cases hw; rfl
  | createShipment => cases hw; rfl

/-- The step an act takes in the saga over a store. -/
def Act.apply {S : Type} (store : OutboxStore S) (svc : Service) (s : SagaState S) :
    Act → Option (SagaLabel × SagaState S)
  | .start job => some (.spawn job, ⟨s.shared, s.threads ++ [(sagaSpec store svc).fresh job]⟩)
  | .handle queue deps position =>
    match (store.outbox s.shared.store)[position]? with
    | some event => some (.spawn (.handle queue deps event),
        ⟨s.shared, s.threads ++ [(sagaSpec store svc).fresh (.handle queue deps event)]⟩)
    | none => none
  | .store i =>
    match s.threads[i]? with
    | some ⟨job, trace, .call (.store c) next⟩ =>
      let answer := store.semantics s.shared.store c
      some (.answer i (.store c) answer.1, ⟨⟨answer.2, s.shared.issued⟩,
        s.threads.set i ⟨job, trace ++ [⟨.store c, answer.1⟩], next answer.1⟩⟩)
    | _ => none
  | .reply i given =>
    match s.threads[i]? with
    | some ⟨job, trace, .call (.port c) next⟩ =>
      match given.answer c with
      | some r =>
        match s.shared.answered c r with
        | some shared => some (.answer i (.port c) r, ⟨shared,
            s.threads.set i ⟨job, trace ++ [⟨.port c, r⟩], next r⟩⟩)
        | none => none
      | none => none
    | _ => none

/-- Every act of a script is a step of the saga. -/
theorem Act.step {S : Type} {store : OutboxStore S} {svc : Service} {s t : SagaState S} {a : Act}
    {l : SagaLabel} (h : a.apply store svc s = some (l, t)) : (saga store svc).step s l t := by
  cases a with
  | start job => cases h; exact .spawn s job
  | handle queue deps position =>
    simp only [Act.apply] at h
    split at h
    · cases h
      exact .spawn s _
    · cases h
  | store i =>
    simp only [Act.apply] at h
    split at h
    · rename_i job trace c next hthread
      cases h
      exact .answer hthread ⟨rfl, rfl⟩
    · cases h
  | reply i given =>
    simp only [Act.apply] at h
    split at h
    · rename_i job trace c next hthread
      split at h
      · rename_i r hr
        split at h
        · rename_i shared hshared
          cases h
          exact .answer hthread (Reply.answers hr hshared)
        · cases h
      · cases h
    · cases h

def memorySimulator (svc : Service) : Simulator (memorySaga svc) Act where
  next := Act.apply memoryOutboxStore svc
  sound := Act.step

def emptySaga : MemorySaga := ⟨⟨newMemoryStore, []⟩, []⟩

theorem reachable_emptySaga {svc : Service} {cond : MemorySaga → SagaLabel → Prop} :
    (memorySaga svc).Reachable cond emptySaga := .start ⟨⟨rfl, rfl⟩, rfl⟩

/-! ### Checks -/

instance (u : SagaThread) : Decidable (Succeeded u) :=
  match h : u.prog with
  | .ret (.ok ()) => isTrue h
  | .ret (.error _) => isFalse fun h' => by cases h.symm.trans h'
  | .call _ _ => isFalse fun h' => by cases h.symm.trans h'

instance : (a b : Job) → Decidable (a.sameDelivery b)
  | .handle queue _ event, .handle queue' _ event' =>
    inferInstanceAs (Decidable (queue = queue' ∧ event.messageID = event'.messageID))
  | .createOrder .., _ | .cancelOrder .., _ | .handle .., .createOrder .. | .handle .., .cancelOrder .. =>
    isFalse id

/-- No two runs of one queue for one message have both succeeded. -/
def Unrepeated {S : Type} (s : SagaState S) : Prop :=
  s.threads.Pairwise fun u v => ¬ (u.job.sameDelivery v.job ∧ Succeeded u ∧ Succeeded v)

instance {S : Type} (s : SagaState S) : Decidable (Unrepeated s) := by
  unfold Unrepeated; infer_instance

theorem Unrepeated.index_eq {S : Type} {s : SagaState S} (h : Unrepeated s) {i j : Nat} {u v : SagaThread}
    (hu : s.threads[i]? = some u) (hv : s.threads[j]? = some v) (hsame : u.job.sameDelivery v.job)
    (hsu : Succeeded u) (hsv : Succeeded v) : i = j := by
  obtain ⟨hi, rfl⟩ := List.getElem?_eq_some_iff.mp hu
  obtain ⟨hj, rfl⟩ := List.getElem?_eq_some_iff.mp hv
  have hpair := List.pairwise_iff_getElem.mp h
  rcases Nat.lt_trichotomy i j with hlt | heq | hlt
  · exact absurd ⟨hsame, hsu, hsv⟩ (hpair i j hi hj hlt)
  · exact heq
  · exact absurd ⟨Job.sameDelivery_symm hsame, hsv, hsu⟩ (hpair j i hj hi hlt)

theorem atMostOnce_of_unrepeated {S : Type} {store : OutboxStore S} {svc : Service} {s t : SagaState S}
    {l : SagaLabel} (hstep : (saga store svc).step s l t) (h : Unrepeated t) : AtMostOnce s l := by
  cases hstep with
  | spawn job => trivial
  | @answer i job trace c next r shared hthread hanswer =>
    rintro u hu ⟨next', hprog, hsucceeds⟩ v hv hsame hsucceeded
    rw [hthread] at hu
    cases hu
    cases hprog
    obtain ⟨j, hj⟩ := PoolSpec.mem_threads.mp hv
    have hij : j ≠ i := by
      rintro rfl
      rw [hthread] at hj
      cases hj
      cases hsucceeded
    exact hij (h.index_eq ((PoolSpec.getElem?_answer hthread).mpr (.inr ⟨hij, hj⟩))
      ((PoolSpec.getElem?_answer hthread).mpr (.inl ⟨rfl, rfl⟩)) (Job.sameDelivery_symm hsame)
      hsucceeded hsucceeds)

instance {S : Type} (store : OutboxStore S) (s : SagaState S) : (l : SagaLabel) → Decidable (FromOutbox store s l)
  | .spawn (.handle _ _ event) => inferInstanceAs (Decidable (event.envelope ∈ store.envelopes s))
  | .spawn (.createOrder ..) | .spawn (.cancelOrder ..) | .answer .. => isTrue trivial

instance : (l : SagaLabel) → Decidable (ProvidersKeepContract l)
  | .answer _ (.port (.authorizePayment _)) (.ok payment) =>
    inferInstanceAs (Decidable (payment.status = .blank ∨ payment.status = .authorized))
  | .answer _ (.port (.createShipment _)) (.ok shipment) =>
    inferInstanceAs (Decidable (shipment.status = .blank ∨ shipment.status = .created))
  | .answer _ (.port (.authorizePayment _)) (.error _) | .answer _ (.port (.createShipment _)) (.error _)
  | .answer _ (.port .clock) _ | .answer _ (.port (.newID _)) _ | .answer _ (.port (.reserveInventory _)) _
  | .answer _ (.store _) _ | .spawn _ => isTrue trivial

/-! ### Inputs for scripts -/

def sampleService : Service := ⟨fun _ => "", fun c => c⟩

def sampleCommand : CreateOrderCommand where
  externalOrderID := "e1"
  currency := "USD"
  customer := ⟨"c1", "c1@example.com", "C"⟩
  shippingAddress := ⟨"1 Main St", "", "Springfield", "", "", "US"⟩
  items := [⟨"sku-1", 2, ⟨500, "USD"⟩⟩]
  paymentMethod := ⟨"fake-payment", "token"⟩

def sampleActor : AuditActor := ⟨"merchant", "m1", "changed my mind"⟩

/-- A worker with a store and every provider. -/
def allProviders : Dependencies := ⟨true, true, true, true, true⟩

/-- The acts that create the order `ord_1` as thread 0, with its event first in the outbox. -/
def createActs : List Act :=
  [.start (.createOrder "m1" "idempotency-key-1" "corr-1" sampleCommand), .reply 0 (.time 1),
    .reply 0 (.id "1"), .reply 0 (.id "1"), .store 0]

end FulfillHub
