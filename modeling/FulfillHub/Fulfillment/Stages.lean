import FulfillHub.Fulfillment.Ledger
import FulfillHub.Library.Claims
import FulfillHub.Messaging.Consumer

/-!
# Consumers running the saga

The workers of all queues, one inbox, and the saga they work on. The broker is not modelled: it may
hand any worker a copy of any event of the outbox, at any time and any number of times, which covers
repeated publication by the relay, redelivery, retries and replays in any order, since all of them
decode to the event that was published. A worker that is never answered again has crashed.

`HandleEvent` is the one call of a worker that takes many steps. It starts a handler run of the saga,
and is answered with what that run returns. A `Record` or `Release` that fails may have changed the inbox
nevertheless.
-/

namespace FulfillHub

open Interaction

/-! ### Workers -/

/-- A delivery to a worker of a queue. -/
structure StageJob where
  queue : Queue
  consumer : Consumer
  deps : Dependencies
  delivery : Delivery

/-- A worker, and the place of the handler run it has started. -/
structure StageWorker extends Thread StageJob MessagingCall.Answer (Except Error Unit) where
  handler : Option Nat

namespace StageWorker

def start (job : StageJob) : StageWorker :=
  { job, trace := [], prog := job.consumer.processDelivery job.delivery, handler := none }

def advance (w : StageWorker) (call : MessagingCall) (r : call.Answer)
    (next : call.Answer → Messaging (Except Error Unit)) : StageWorker :=
  { w with trace := w.trace ++ [⟨call, r⟩], prog := next r }

def runs (w : StageWorker) (k : Nat) : StageWorker := { w with handler := some k }

end StageWorker

/-! ### The system -/

structure Stages (S : Type) where
  inbox : List (String × String)
  workers : List StageWorker
  saga : SagaState S

/-- The steps of the stages. `late` tells whether a failing call of the inbox took effect. -/
inductive StageLabel
  | deliver (job : StageJob)
  | handle (i : Nat)
  | reply (i : Nat) (call : MessagingCall) (r : call.Answer) (late : Bool)
  | saga (l : SagaLabel)

variable {S : Type}

/-- How a call of a worker is answered, and the inbox afterwards. -/
def Stages.Replies (s : Stages S) (w : StageWorker) (inbox : List (String × String)) (late : Bool) :
    (call : MessagingCall) → call.Answer → Prop
  | .record name event, .ok recorded =>
    recorded = decide ((name, event.messageID) ∉ s.inbox) ∧
      inbox = if recorded then (name, event.messageID) :: s.inbox else s.inbox
  | .record name event, .error _ =>
    inbox = if late then s.inbox.insert (name, event.messageID) else s.inbox
  | .release name event, .ok _ => inbox = s.inbox.filter (· ≠ (name, event.messageID))
  | .release name event, .error _ =>
    inbox = if late then s.inbox.filter (· ≠ (name, event.messageID)) else s.inbox
  | .handle _, r => inbox = s.inbox ∧ ∃ (k : Nat) (t : SagaThread), w.handler = some k ∧
      s.saga.threads[k]? = some t ∧ t.prog = .ret r
  | _, _ => inbox = s.inbox

/-- What the relay publishes decodes to the event, up to its payload. -/
theorem envelope_of_publication {event decoded : OutboxEvent}
    (h : decodeDelivery (publication event) = .ok decoded) : decoded.envelope = event.envelope := by
  obtain ⟨body, hbody, _, rfl⟩ := decodeDelivery_eq_ok.mp h
  cases hbody
  rw [OutboxEvent.envelope_withEnvelopeDefaults, ← event.envelope_withEnvelopeDefaults]
  dsimp only [publication]
  generalize event.withEnvelopeDefaults = e
  by_cases hcause : e.causationID = "" <;> by_cases hid : e.messageID = "" <;>
    simp [OutboxEvent.envelope, Delivery.fill, hcause, hid]

/-- A job of the order service, not of a worker. -/
def Job.isHandler : Job → Bool
  | .handle .. => true
  | _ => false

/-- The saga's own steps: answers, and new calls of the order service. -/
def SagaLabel.isOwn : SagaLabel → Bool
  | .spawn job => !job.isHandler
  | .answer .. => true

inductive Stages.Step (store : OutboxStore S) (svc : Service) (names : Queue → String) :
    Stages S → StageLabel → Stages S → Prop
  | deliver {s : Stages S} {job : StageJob} (hname : job.consumer.consumerName = names job.queue)
      (hgenuine : ∀ event, decodeDelivery job.delivery = .ok event →
        event.envelope ∈ store.envelopes s.saga) :
      Step store svc names s (.deliver job) { s with workers := s.workers ++ [.start job] }
  | handle {s : Stages S} {i : Nat} {w : StageWorker} {event : OutboxEvent}
      {next : Except Error Unit → Messaging (Except Error Unit)} (hw : s.workers[i]? = some w)
      (hprog : w.prog = .call (.handle event) next) (hnone : w.handler = none) :
      Step store svc names s (.handle i)
        { s with
          workers := s.workers.set i (w.runs s.saga.threads.length)
          saga := ⟨s.saga.shared,
            s.saga.threads ++ [(sagaSpec store svc).fresh (.handle w.job.queue w.job.deps event)]⟩ }
  | reply {s : Stages S} {i : Nat} {w : StageWorker} {call : MessagingCall} {r : call.Answer}
      {next : call.Answer → Messaging (Except Error Unit)} {inbox : List (String × String)} {late : Bool}
      (hw : s.workers[i]? = some w) (hprog : w.prog = .call call next)
      (hreply : s.Replies w inbox late call r) :
      Step store svc names s (.reply i call r late)
        { s with inbox := inbox, workers := s.workers.set i (w.advance call r next) }
  | saga {s : Stages S} {l : SagaLabel} {t : SagaState S} (hown : SagaLabel.isOwn l = true)
      (hstep : (sagaSpec store svc).Step s.saga l t) :
      Step store svc names s (.saga l) { s with saga := t }

/-- The queues' consumers run under the given names. -/
def stages (store : OutboxStore S) (svc : Service) (names : Queue → String) : Lts (Stages S) StageLabel where
  init s := s.inbox = [] ∧ s.workers = [] ∧ (saga store svc).init s.saga
  step := Stages.Step store svc names

end FulfillHub
