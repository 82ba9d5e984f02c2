import FulfillHub.Fulfillment.Contracts
import FulfillHub.Library.Pool

/-!
# The saga as a system of interleaved runs

Merchants' service calls and workers' handler runs share one store. Any number of them are in
progress at any time and a step answers one call of one of them: a store call by the store, the clock
and the providers by anything, the id source by an id it has not handed out before. Which runs are
considered (events taken from the outbox, one success per event and queue, providers that keep to
their contract) is a condition on the steps, named here and chosen by each result.

`OutboxStore` is what the accounting of events needs to know about a store.
-/

namespace FulfillHub

open Interaction

/-- The identity of an event: what a consumer sees of it, apart from its payload. -/
structure Envelope where
  messageID : String
  eventType : EventType
  merchantID : String
  orderID : String
  correlationID : String
  causationID : String
  deriving DecidableEq

def OutboxEvent.envelope (e : OutboxEvent) : Envelope where
  messageID := e.messageID
  eventType := e.eventType
  merchantID := e.merchantID
  orderID := e.orderID
  correlationID := e.correlationID
  causationID := if e.causationID = "" then e.messageID else e.causationID

@[simp] theorem OutboxEvent.envelope_withEnvelopeDefaults (e : OutboxEvent) :
    e.withEnvelopeDefaults.envelope = e.envelope := by
  simp only [envelope, withEnvelopeDefaults_messageID, withEnvelopeDefaults_eventType,
    withEnvelopeDefaults_merchantID, withEnvelopeDefaults_orderID,
    withEnvelopeDefaults_correlationID, withEnvelopeDefaults_causationID]
  split_ifs <;> simp_all

/-- A store with an outbox: a failing operation changes nothing, and a successful one appends the
event it was handed, up to its payload. -/
structure OutboxStore (S : Type) where
  semantics : StoreSemantics S
  start : S → Prop
  outbox : S → List OutboxEvent
  outbox_start : ∀ s, start s → outbox s = []
  failed : ∀ s c err, (semantics s c).1 = .error err → (semantics s c).2 = s
  appended : ∀ s c r, (semantics s c).1 = .ok r →
    (outbox (semantics s c).2).map OutboxEvent.envelope =
      (outbox s).map OutboxEvent.envelope ++ (c.emitted r).toList.map OutboxEvent.envelope

/-- A store together with the ids handed out so far. -/
structure World (S : Type) where
  store : S
  issued : List String

variable {S : Type}

/-- How the world answers a call, and the world afterwards. -/
def Answers (semantics : StoreSemantics S) (w : World S) : (c : Call) → c.Answer → World S → Prop
  | .store c, r, w' => (semantics w.store c).1 = r ∧ w' = ⟨(semantics w.store c).2, w.issued⟩
  | .port (.newID kind), id, w' =>
    (∃ suffix, id = kind ++ "_" ++ suffix) ∧ id ∉ w.issued ∧ w' = ⟨w.store, id :: w.issued⟩
  | .port _, _, w' => w' = w

/-- The outside world does not touch the store. -/
theorem Answers.store_eq {semantics : StoreSemantics S} {w w' : World S} {c : PortCall} {r : c.Answer}
    (h : Answers semantics w (.port c) r w') : w'.store = w.store := by
  cases c with
  | newID kind => rw [h.2.2]
  | clock => rw [show w' = w from h]
  | reserveInventory event => rw [show w' = w from h]
  | authorizePayment event => rw [show w' = w from h]
  | createShipment event => rw [show w' = w from h]

abbrev SagaState (S : Type) := Pool (World S) Job Call.Answer (Except Error Unit)

abbrev SagaThread := Thread Job Call.Answer (Except Error Unit)

abbrev SagaLabel := Pool.Label Job Call.Answer

def sagaSpec (store : OutboxStore S) (svc : Service) : PoolSpec (World S) Job Call.Answer (Except Error Unit) where
  program := Job.program svc
  start w := store.start w.store ∧ w.issued = []
  answers := Answers store.semantics

abbrev saga (store : OutboxStore S) (svc : Service) : Lts (SagaState S) SagaLabel :=
  (sagaSpec store svc).lts

/-- The envelopes of the outbox. -/
def OutboxStore.envelopes (store : OutboxStore S) (s : SagaState S) : List Envelope :=
  (store.outbox s.shared.store).map OutboxEvent.envelope

/-! ### Conditions on runs -/

/-- Handlers are only started on events of the outbox. -/
def FromOutbox (store : OutboxStore S) (s : SagaState S) : SagaLabel → Prop
  | .spawn (.handle _ _ event) => event.envelope ∈ store.envelopes s
  | _ => True

/-- Two handler runs of one queue for one message. -/
def Job.sameDelivery : Job → Job → Prop
  | .handle queue _ event, .handle queue' _ event' => queue = queue' ∧ event.messageID = event'.messageID
  | _, _ => False

def Succeeded (t : SagaThread) : Prop := t.prog = .ret (.ok ())

/-- The answer with which a run succeeds. -/
def SucceedsWith (t : SagaThread) (c : Call) (r : c.Answer) : Prop :=
  ∃ next : c.Answer → Saga (Except Error Unit), t.prog = .call c next ∧ next r = .ret (.ok ())

/-- Each event is handled successfully at most once per queue: no run succeeds when another of the
same queue and message already has. -/
def AtMostOnce (s : SagaState S) : SagaLabel → Prop
  | .spawn _ => True
  | .answer i c r => ∀ t, s.threads[i]? = some t → SucceedsWith t c r →
      ∀ u ∈ s.threads, t.job.sameDelivery u.job → ¬ Succeeded u

def Failed (t : SagaThread) : Prop := ∃ err, t.prog = .ret (.error err)

/-- A further run of a queue for a message is started only when the earlier ones have failed. -/
def Exclusive (s : SagaState S) : SagaLabel → Prop
  | .spawn job => ∀ u ∈ s.threads, job.sameDelivery u.job → Failed u
  | .answer _ _ _ => True

/-- A payment authorizer reports success with the status `""` or `"authorized"`, a shipment creator
with `""` or `"created"`. -/
def ProvidersKeepContract : SagaLabel → Prop
  | .answer _ (.port (.authorizePayment _)) (.ok payment) =>
    payment.status = .blank ∨ payment.status = .authorized
  | .answer _ (.port (.createShipment _)) (.ok shipment) =>
    shipment.status = .blank ∨ shipment.status = .created
  | _ => True

end FulfillHub
