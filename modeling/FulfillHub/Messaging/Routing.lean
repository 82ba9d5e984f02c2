import FulfillHub.Library.Simulator
import FulfillHub.Messaging.Consumer

/-!
# Retries across queues

The broker `DeclareTopology` sets up, with the consumers of all queues, followed for one message from
its first publication on. An exchange copies what is published under a routing key into every queue
bound with that key: the domain exchange into the worker queues, the retry exchange into their retry
queues, the dead-letter exchange into their dead-letter queues. A message that expires from a retry
queue is published to the domain exchange under its own key.

A retry is published under the key of the message, not to the queue that failed. For a key that is
bound once this makes no difference: the message is in one place at a time and is retried as often as
configured. For a key that two queues share, each failure of one hands further copies to both.
-/

namespace FulfillHub

open Interaction

/-! ### The broker -/

/-- The copies of the message in the worker queues, the retry queues and the dead-letter queues, and the
inbox. `invoked` counts the handler calls of each queue, `finished` marks the queues that have
acknowledged the message without retrying it. -/
structure Router where
  ready : Queue → List Delivery
  waiting : Queue → List Delivery
  dead : Queue → List Delivery
  inbox : List (String × String)
  invoked : Queue → Nat
  finished : Queue → Bool

/-- A topic exchange whose queues are bound with the keys of `queueTopologies`. -/
def publishTo (queues : Queue → List Delivery) (delivery : Delivery) : Queue → List Delivery :=
  fun queue => if queue ∈ boundQueues delivery.routingKey then queues queue ++ [delivery] else queues queue

namespace Router

variable (r : Router)

def toDomain (delivery : Delivery) : Router := { r with ready := publishTo r.ready delivery }

def toRetry (delivery : Delivery) : Router := { r with waiting := publishTo r.waiting delivery }

def toDeadLetter (delivery : Delivery) : Router := { r with dead := publishTo r.dead delivery }

def insertRow (key : String × String) : Router := { r with inbox := key :: r.inbox }

def deleteRow (key : String × String) : Router := { r with inbox := r.inbox.filter (· ≠ key) }

def invoke (queue : Queue) : Router :=
  { r with invoked := Function.update r.invoked queue (r.invoked queue + 1) }

def finish (queue : Queue) : Router := { r with finished := Function.update r.finished queue true }

/-- A delivery leaves its queue. -/
def take (queue : Queue) (k : Nat) : Router :=
  { r with ready := Function.update r.ready queue ((r.ready queue).eraseIdx k) }

end Router

/-- A delivery being processed: whether a retry was published, and whether the delivery is settled. -/
structure Processing where
  router : Router
  retried : Bool
  settled : Bool

namespace Processing

/-- The answers to a consumer's calls when nothing but the handler fails. -/
def answer (queue : Queue) (delivery : Delivery) (outcome : Except Error Unit) (p : Processing) :
    (call : MessagingCall) → call.Answer × Processing
  | .record name event =>
    if (name, event.messageID) ∈ p.router.inbox then (.ok false, p)
    else (.ok true, { p with router := p.router.insertRow (name, event.messageID) })
  | .handle _ => (outcome, { p with router := p.router.invoke queue })
  | .release name event => (.ok (), { p with router := p.router.deleteRow (name, event.messageID) })
  | .publishRetry delivery event attempt =>
    (.ok (), { p with router := p.router.toRetry (retryDelivery delivery event attempt), retried := true })
  | .ack => (.ok (), { p with router := if p.retried then p.router else p.router.finish queue, settled := true })
  | .nack _ => (.ok (), { p with router := p.router.toDeadLetter delivery, settled := true })
  | .get => (.ok none, p)
  | .confirmSelect | .publish _ => (.ok (), p)

end Processing

inductive RouterAction
  | process (queue : Queue) (k : Nat) (outcome : Except Error Unit)
  | expire (queue : Queue) (k : Nat)

/-- A run of `ProcessDelivery` on the delivery at a position of a queue, with the handler's outcome. A
delivery the consumer does not settle stays where it is. -/
def Router.process (consumers : Queue → Consumer) (r : Router) (queue : Queue) (k : Nat)
    (outcome : Except Error Unit) (delivery : Delivery) : Router :=
  let p := ((consumers queue).processDelivery delivery).run (Processing.answer queue delivery outcome)
    ⟨r.take queue k, false, false⟩
  if p.2.settled then p.2.router else r

def Router.step (consumers : Queue → Consumer) (r : Router) : RouterAction → Option Router
  | .process queue k outcome => do
      let delivery ← (r.ready queue)[k]?
      some (r.process consumers queue k outcome delivery)
  | .expire queue k => do
      let delivery ← (r.waiting queue)[k]?
      some ({ r with waiting := Function.update r.waiting queue ((r.waiting queue).eraseIdx k) }.toDomain delivery)

/-- The message has just been published for the first time. -/
def Router.first (event : OutboxEvent) : Router :=
  Router.toDomain ⟨fun _ => [], fun _ => [], fun _ => [], [], fun _ => 0, fun _ => false⟩ (publication event)

def routing (consumers : Queue → Consumer) (event : OutboxEvent) : Lts Router RouterAction where
  init r := r = .first event
  step r a r' := r.step consumers a = some r'

/-- The copies in retry queues that will be published to a queue when they expire. -/
def Router.returning (r : Router) (queue : Queue) : Nat :=
  ((queueTopologies.map (·.queue)).flatMap r.waiting).countP fun delivery =>
    (boundQueues delivery.routingKey).contains queue

/-- The copies of the message in a queue and on their way back to it. -/
def Router.copies (r : Router) (queue : Queue) : Nat := (r.ready queue).length + r.returning queue

variable {consumers : Queue → Consumer} {queue : Queue} {k : Nat} {outcome : Except Error Unit}
  {delivery : Delivery} {r r' : Router}

/-! ### What processing does -/

/-- The outcomes of processing a delivery. -/
inductive Router.Processed (c : Consumer) (queue : Queue) (delivery : Delivery)
    (outcome : Except Error Unit) (r taken : Router) : Router → Prop
  | misconfigured (h : c.validate ≠ .ok ()) : Processed c queue delivery outcome r taken r
  | undecodable : Processed c queue delivery outcome r taken (taken.toDeadLetter delivery)
  | duplicate {event : OutboxEvent} (hdecode : decodeDelivery delivery = .ok event)
      (hrow : (c.consumerName, event.messageID) ∈ taken.inbox) :
      Processed c queue delivery outcome r taken (taken.finish queue)
  | handled {event : OutboxEvent} (hdecode : decodeDelivery delivery = .ok event) :
      Processed c queue delivery outcome r taken
        (((taken.insertRow (c.consumerName, event.messageID)).invoke queue).finish queue)
  | retried {event : OutboxEvent} (hdecode : decodeDelivery delivery = .ok event)
      (hfailed : outcome ≠ .ok ()) (hretry : c.shouldRetry delivery = true) :
      Processed c queue delivery outcome r taken
        ((((taken.insertRow (c.consumerName, event.messageID)).invoke queue).deleteRow
          (c.consumerName, event.messageID)).toRetry
            (retryDelivery delivery event (retryAttempt delivery + 1)))
  | exhausted {event : OutboxEvent} (hdecode : decodeDelivery delivery = .ok event)
      (hretry : c.shouldRetry delivery = false) :
      Processed c queue delivery outcome r taken
        ((((taken.insertRow (c.consumerName, event.messageID)).invoke queue).deleteRow
          (c.consumerName, event.messageID)).toDeadLetter delivery)

theorem Processing.run_record {name : String} {event : OutboxEvent} {p : Processing}
    {f : Except Error Bool → Messaging (Except Error Unit)} :
    (Messaging.record name event >>= f).run (answer queue delivery outcome) p =
      if (name, event.messageID) ∈ p.router.inbox then (f (.ok false)).run (answer queue delivery outcome) p
      else (f (.ok true)).run (answer queue delivery outcome)
        { p with router := p.router.insertRow (name, event.messageID) } := by
  rw [Messaging.record, Prog.run_perform_bind]
  simp only [answer]
  split <;> rfl

theorem Router.processed (consumers : Queue → Consumer) (r : Router) (queue : Queue) (k : Nat)
    (outcome : Except Error Unit) (delivery : Delivery) :
    Processed (consumers queue) queue delivery outcome r (r.take queue k)
      (r.process consumers queue k outcome delivery) := by
  unfold process Consumer.processDelivery Consumer.processDeliveryWith
  cases hvalid : (consumers queue).validate with
  | error err => exact .misconfigured (by simp [hvalid])
  | ok _ =>
    cases hdecode : decodeDelivery delivery with
    | error err => exact .undecodable
    | ok event =>
      dsimp only
      rw [Processing.run_record]
      by_cases hrow : ((consumers queue).consumerName, event.messageID) ∈ (r.take queue k).inbox
      · rw [if_pos hrow]
        exact .duplicate hdecode hrow
      · rw [if_neg hrow]
        cases outcome with
        | ok _ => exact .handled hdecode
        | error err =>
          cases hretry : (consumers queue).shouldRetry delivery with
          | true => exact .retried hdecode nofun hretry
          | false => exact .exhausted hdecode hretry

/-! ### Retries of a key that is bound once -/

theorem publishTo_of_bound {queues : Queue → List Delivery} (h : boundQueues delivery.routingKey = [queue]) :
    publishTo queues delivery = Function.update queues queue (queues queue ++ [delivery]) := by
  funext q
  by_cases hq : q = queue
  · subst hq
    simp [publishTo, h]
  · simp [publishTo, h, hq]

theorem boundQueues_retryDelivery (event : OutboxEvent) (attempt : Int)
    (h : boundQueues delivery.routingKey = [queue]) :
    boundQueues (retryDelivery delivery event attempt).routingKey = [queue] := by
  have hne : delivery.routingKey ≠ "" := by
    intro hempty
    rw [hempty] at h
    revert h
    cases queue <;> decide
  simp [retryDelivery, hne, h]

/-- The attempt a retry carries is the number of the attempts before it, as long as it fits an `int32`. -/
theorem retryAttempt_retryDelivery {event : OutboxEvent} {attempt : Int} (hpos : 0 ≤ attempt)
    (hfits : attempt < 2 ^ 31) : retryAttempt (retryDelivery delivery event attempt) = attempt := by
  simp only [retryAttempt, retryDelivery, Option.getD_some]
  rw [Int.bmod_eq_of_le] <;> omega

theorem Consumer.retryLimit_pos (c : Consumer) : 0 < c.retryLimit := by
  unfold retryLimit
  split
  · assumption
  · decide

/-- If the delivery is retried, then no other queue is bound with its key, and the attempt fits the
header. -/
def Consumer.RetriesAlone (c : Consumer) (queue : Queue) (outcome : Except Error Unit) (delivery : Delivery) : Prop :=
  outcome ≠ .ok () → c.shouldRetry delivery = true →
    boundQueues delivery.routingKey = [queue] ∧ retryAttempt delivery + 1 < 2 ^ 31

/-- Only messages of a key that is bound once are retried. -/
def UnsharedRetries (consumers : Queue → Consumer) (r : Router) : RouterAction → Prop
  | .process queue k outcome => ∀ delivery, (r.ready queue)[k]? = some delivery →
      (consumers queue).RetriesAlone queue outcome delivery
  | .expire _ _ => True

/-- A copy that is still to be handled carries the number of the handler calls so far. -/
structure Router.Pending (r : Router) (limit : Int) (queue : Queue) (delivery : Delivery) : Prop where
  attempt : retryAttempt delivery = r.invoked queue
  below : retryAttempt delivery ≤ limit
  unfinished : r.finished queue = false

/-- A queue is done with the message, or its only copy is in the queue or in the queue's retry queue. -/
inductive Router.Placed (r : Router) (limit : Int) (queue : Queue) : Prop
  | gone (hready : r.ready queue = []) (hwaiting : r.waiting queue = [])
      (hinvoked : (r.invoked queue : Int) ≤ limit + 1)
  | ready {delivery : Delivery} (hready : r.ready queue = [delivery]) (hwaiting : r.waiting queue = [])
      (hpending : r.Pending limit queue delivery)
  | waiting {delivery : Delivery} (hready : r.ready queue = []) (hwaiting : r.waiting queue = [delivery])
      (hbound : boundQueues delivery.routingKey = [queue]) (hpending : r.Pending limit queue delivery)

/-- What the router knows about one queue is the same. -/
structure Router.SameAt (queue : Queue) (r r' : Router) : Prop where
  ready : r'.ready queue = r.ready queue
  waiting : r'.waiting queue = r.waiting queue
  invoked : r'.invoked queue = r.invoked queue
  finished : r'.finished queue = r.finished queue

variable {limit : Int}

theorem Router.Pending.of_same (h : r.Pending limit queue delivery) (hsame : Router.SameAt queue r r') :
    r'.Pending limit queue delivery :=
  ⟨by rw [h.attempt, hsame.invoked], h.below, by rw [hsame.finished, h.unfinished]⟩

theorem Router.Placed.of_same (h : r.Placed limit queue) (hsame : Router.SameAt queue r r') :
    r'.Placed limit queue := by
  cases h with
  | gone hready hwaiting hinvoked =>
    exact .gone (hsame.ready.trans hready) (hsame.waiting.trans hwaiting) (by rw [hsame.invoked]; exact hinvoked)
  | ready hready hwaiting hpending =>
    exact .ready (hsame.ready.trans hready) (hsame.waiting.trans hwaiting) (hpending.of_same hsame)
  | waiting hready hwaiting hbound hpending =>
    exact .waiting (hsame.ready.trans hready) (hsame.waiting.trans hwaiting) hbound (hpending.of_same hsame)

/-- Processing a delivery of one queue does nothing to the others, unless they share its retries. -/
theorem Router.Processed.elsewhere {c : Consumer} {q : Queue} (hq : q ≠ queue)
    (h : Router.Processed c queue delivery outcome r (r.take queue k) r')
    (halone : c.RetriesAlone queue outcome delivery) :
    Router.SameAt q r r' := by
  cases h with
  | misconfigured => exact ⟨rfl, rfl, rfl, rfl⟩
  | undecodable => constructor <;> simp [toDeadLetter, take, hq]
  | duplicate => constructor <;> simp [finish, take, hq]
  | handled => constructor <;> simp [finish, invoke, insertRow, take, hq]
  | exhausted => constructor <;> simp [toDeadLetter, deleteRow, invoke, insertRow, take, hq]
  | @retried event _ hfailed hretry =>
    have hbound := boundQueues_retryDelivery event (retryAttempt delivery + 1) (halone hfailed hretry).1
    constructor <;>
      simp [toRetry, publishTo_of_bound hbound, deleteRow, invoke, insertRow, take, hq]

theorem Router.Processed.placed {c : Consumer}
    (h : Router.Processed c queue delivery outcome r (r.take queue 0) r')
    (halone : c.RetriesAlone queue outcome delivery)
    (hready : r.ready queue = [delivery]) (hwaiting : r.waiting queue = [])
    (hpending : r.Pending c.retryLimit queue delivery) : r'.Placed c.retryLimit queue := by
  have hattempt := hpending.attempt
  have hbelow := hpending.below
  cases h with
  | misconfigured => exact .ready hready hwaiting hpending
  | undecodable =>
    exact .gone (by simp [toDeadLetter, take, hready]) hwaiting
      (by simp only [toDeadLetter, take]; omega)
  | duplicate =>
    exact .gone (by simp [finish, take, hready]) hwaiting (by simp only [finish, take]; omega)
  | handled =>
    exact .gone (by simp [finish, invoke, insertRow, take, hready]) hwaiting
      (by simp [finish, invoke, insertRow, take]; omega)
  | exhausted =>
    exact .gone (by simp [toDeadLetter, deleteRow, invoke, insertRow, take, hready]) hwaiting
      (by simp [toDeadLetter, deleteRow, invoke, insertRow, take]; omega)
  | @retried event hdecode hfailed hretry =>
    obtain ⟨hbound, hfits⟩ := halone hfailed hretry
    have hmore : retryAttempt delivery < c.retryLimit := by
      rw [Consumer.shouldRetry, Bool.and_eq_true] at hretry
      exact of_decide_eq_true hretry.2
    have hnext : retryAttempt (retryDelivery delivery event (retryAttempt delivery + 1)) =
        retryAttempt delivery + 1 := retryAttempt_retryDelivery (by omega) hfits
    have hbound' := boundQueues_retryDelivery event (retryAttempt delivery + 1) hbound
    refine .waiting ?_ ?_ hbound' ⟨?_, ?_, hpending.unfinished⟩
    · simp [toRetry, deleteRow, invoke, insertRow, take, hready]
    · simp [toRetry, publishTo_of_bound hbound', deleteRow, invoke, insertRow, take, hwaiting]
    · rw [hnext, hattempt]
      simp [toRetry, deleteRow, invoke, insertRow, take]
    · rw [hnext]
      exact hmore

theorem placed_process (h : ∀ q, r.Placed (consumers q).retryLimit q)
    (hdelivery : (r.ready queue)[k]? = some delivery) (halone : UnsharedRetries consumers r (.process queue k outcome))
    (q : Queue) : (r.process consumers queue k outcome delivery).Placed (consumers q).retryLimit q := by
  have hprocessed := r.processed consumers queue k outcome delivery
  have halone' := halone delivery hdelivery
  by_cases hq : q = queue
  · subst hq
    cases h q with
    | gone hready => simp [hready] at hdelivery
    | waiting hready => simp [hready] at hdelivery
    | ready hready hwaiting hpending =>
      rw [hready, List.getElem?_singleton, Option.ite_none_right_eq_some, Option.some_inj] at hdelivery
      obtain ⟨rfl, rfl⟩ := hdelivery
      exact hprocessed.placed halone' hready hwaiting hpending
  · exact (h q).of_same (hprocessed.elsewhere hq halone')

theorem placed_expire (h : ∀ q, r.Placed (consumers q).retryLimit q)
    (hdelivery : (r.waiting queue)[k]? = some delivery) (q : Queue) :
    ({ r with waiting := Function.update r.waiting queue ((r.waiting queue).eraseIdx k) }.toDomain
      delivery).Placed (consumers q).retryLimit q := by
  cases h queue with
  | gone _ hwaiting => simp [hwaiting] at hdelivery
  | ready _ hwaiting => simp [hwaiting] at hdelivery
  | waiting hready hwaiting hbound hpending =>
    rw [hwaiting, List.getElem?_singleton, Option.ite_none_right_eq_some, Option.some_inj] at hdelivery
    obtain ⟨rfl, rfl⟩ := hdelivery
    by_cases hq : q = queue
    · subst hq
      refine .ready ?_ ?_ ⟨hpending.attempt, hpending.below, hpending.unfinished⟩
      · simp [Router.toDomain, publishTo_of_bound hbound, hready]
      · simp [Router.toDomain, hwaiting]
    · apply (h q).of_same
      constructor <;> simp [Router.toDomain, publishTo_of_bound hbound, hq]

theorem placed_first (event : OutboxEvent) (q : Queue) : (Router.first event).Placed (consumers q).retryLimit q := by
  have hpos := (consumers q).retryLimit_pos
  by_cases hq : q ∈ boundQueues (publication event).routingKey
  · have hready : (Router.first event).ready q = [publication event] := by
      simp [Router.first, Router.toDomain, publishTo, hq]
    exact .ready hready rfl ⟨rfl, Int.le_of_lt hpos, rfl⟩
  · refine .gone ?_ rfl ?_
    · simp [Router.first, Router.toDomain, publishTo, hq]
    · simp only [Router.first, Router.toDomain]
      omega

theorem placed_of_reachable {event : OutboxEvent}
    (hr : (routing consumers event).Reachable (UnsharedRetries consumers) r) (queue : Queue) :
    r.Placed (consumers queue).retryLimit queue := by
  refine hr.invariant (P := fun r => ∀ q, r.Placed (consumers q).retryLimit q) ?_ ?_ queue
  · intro r hfirst
    rw [show r = .first event from hfirst]
    exact placed_first event
  · intro r a r' _ h hstep halone
    cases a with
    | process q k outcome =>
      obtain ⟨delivery, hdelivery, hr'⟩ := Option.bind_eq_some_iff.mp hstep
      cases hr'
      exact placed_process h hdelivery halone
    | expire q k =>
      obtain ⟨delivery, hdelivery, hr'⟩ := Option.bind_eq_some_iff.mp hstep
      cases hr'
      exact placed_expire h hdelivery

theorem Router.returning_eq {limits : Queue → Int} (h : ∀ q, r.Placed (limits q) q) (queue : Queue) :
    r.returning queue = (r.waiting queue).length := by
  have hback : ∀ q, (r.waiting q).countP (fun delivery => (boundQueues delivery.routingKey).contains queue) =
      if q = queue then (r.waiting queue).length else 0 := by
    intro q
    by_cases hq : q = queue
    · subst hq
      cases h q with
      | gone _ hwaiting => simp [hwaiting]
      | ready _ hwaiting => simp [hwaiting]
      | waiting _ hwaiting hbound => simp [hwaiting, hbound]
    · cases h q with
      | gone _ hwaiting => simp [hwaiting, hq]
      | ready _ hwaiting => simp [hwaiting, hq]
      | waiting _ hwaiting hbound => simp [hwaiting, hbound, hq, Ne.symm hq]
  simp only [returning, List.countP_flatMap, Function.comp_def, hback]
  cases queue <;> simp [queueTopologies]

theorem Router.Placed.copies (h : r.Placed limit queue) :
    (r.ready queue).length + (r.waiting queue).length ≤ 1 ∧ (r.invoked queue : Int) ≤ limit + 1 ∧
      (r.finished queue = true → (r.ready queue).length + (r.waiting queue).length = 0) := by
  cases h with
  | gone hready hwaiting hinvoked => simp [hready, hwaiting, hinvoked]
  | ready hready hwaiting hpending =>
    have := hpending.attempt
    have := hpending.below
    simp only [hready, hwaiting, hpending.unfinished]
    refine ⟨by simp, by omega, nofun⟩
  | waiting hready hwaiting _ hpending =>
    have := hpending.attempt
    have := hpending.below
    simp only [hready, hwaiting, hpending.unfinished]
    refine ⟨by simp, by omega, nofun⟩

/-- **Retries do not multiply messages** in runs that only retry messages whose key is bound once: a
queue never has more than one copy of the message in it and on its way back to it, its handler is called
at most once more than there are retries, and once it has acknowledged the message it gets no more of it. -/
theorem retries_do_not_multiply (consumers : Queue → Consumer) (event : OutboxEvent) {r : Router}
    (hr : (routing consumers event).Reachable (UnsharedRetries consumers) r) (queue : Queue) :
    r.copies queue ≤ 1 ∧ (r.invoked queue : Int) ≤ (consumers queue).retryLimit + 1 ∧
      (r.finished queue = true → r.copies queue = 0) := by
  rw [Router.copies, Router.returning_eq (placed_of_reachable hr) queue]
  exact (placed_of_reachable hr queue).copies

/-! ### Runs -/

instance (c : Consumer) (queue : Queue) (outcome : Except Error Unit) (delivery : Delivery) :
    Decidable (c.RetriesAlone queue outcome delivery) :=
  inferInstanceAs (Decidable (_ → _))

instance (r : Router) : (a : RouterAction) → Decidable (UnsharedRetries consumers r a)
  | .process queue k outcome => decidable_of_iff
      (∀ delivery ∈ (r.ready queue)[k]?, (consumers queue).RetriesAlone queue outcome delivery) Iff.rfl
  | .expire _ _ => inferInstanceAs (Decidable True)

def routingSimulator (consumers : Queue → Consumer) (event : OutboxEvent) :
    Simulator (routing consumers event) RouterAction := .ofStep (Router.step consumers) id

/-- Consumers with two retries each. -/
def sampleConsumers (queue : Queue) : Consumer where
  queue := queue.name
  name := ""
  hasInbox := true
  hasHandler := true
  hasRetry := true
  maxRetries := 2

def sampleEvent (eventType : EventType) : OutboxEvent where
  messageID := "msg_1"
  eventType := eventType
  schemaVersion := 1
  occurredAt := 0
  producer := "orders-api"
  merchantID := "mrc_1"
  orderID := "ord_1"
  correlationID := "corr-1"
  causationID := ""
  payload := []

/-- A reservation that always fails is dead-lettered after three calls. -/
theorem retries_do_not_multiply_exhausted : ∃ r,
    (routing sampleConsumers (sampleEvent .orderCreated)).Reachable (UnsharedRetries sampleConsumers) r ∧
      (r.dead .inventoryReserve).length = 1 ∧ r.invoked .inventoryReserve = 3 ∧
      r.copies .inventoryReserve ≤ 1 := by
  obtain ⟨r, hr, hdead, hinvoked⟩ := (routingSimulator sampleConsumers (sampleEvent .orderCreated)).exists_reachable
    (Q := fun r => (r.dead .inventoryReserve).length = 1 ∧ r.invoked .inventoryReserve = 3)
    (decides_decide (UnsharedRetries sampleConsumers)) (.start rfl)
    [.process .inventoryReserve 0 (.error (.plain "timeout")), .expire .inventoryReserve 0,
      .process .inventoryReserve 0 (.error (.plain "timeout")), .expire .inventoryReserve 0,
      .process .inventoryReserve 0 (.error (.plain "timeout"))] (by decide)
  exact ⟨r, hr, hdead, hinvoked, (retries_do_not_multiply sampleConsumers _ hr .inventoryReserve).1⟩

/-- A failed payment is bound to the compensation and to the notifications. The notification is sent, the
compensation fails: its retries are copied to both queues, so the notifications get the message again,
and the compensation, which may be called three times, is called a fourth time. -/
theorem shared_retries_multiply : ∃ r,
    (routing sampleConsumers (sampleEvent .paymentFailed)).Reachable Lts.anyStep r ∧
      1 < r.copies .ordersCompensate ∧
      (sampleConsumers .ordersCompensate).retryLimit + 1 < r.invoked .ordersCompensate ∧
      r.dead .ordersCompensate = [] ∧
      r.finished .notificationsEmail = true ∧ 0 < r.copies .notificationsEmail :=
  (routingSimulator sampleConsumers (sampleEvent .paymentFailed)).exists_reachable decides_anyStep (.start rfl)
    [.process .notificationsEmail 0 (.ok ()),
      .process .ordersCompensate 0 (.error (.plain "timeout")),
      .expire .ordersCompensate 0, .expire .notificationsEmail 0,
      .process .ordersCompensate 0 (.error (.plain "timeout")),
      .process .ordersCompensate 0 (.error (.plain "timeout")),
      .expire .ordersCompensate 0, .expire .ordersCompensate 0,
      .process .ordersCompensate 0 (.ok ())] (by decide)

end FulfillHub
