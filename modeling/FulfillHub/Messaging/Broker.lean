import FulfillHub.Messaging.Consumer

/-!
# The broker

What `DeclareTopology` of `internal/messaging/rabbitmq.go` sets up: three topic exchanges, and for every worker
queue a retry queue and a dead-letter queue beside it. An exchange copies a message into the queues bound with
its routing key. A delivery that was handed to a client stays unsettled until the client acknowledges or rejects
it; when the client's connection is lost it goes back to its queue. A message expires from a retry queue to the
domain exchange, and a rejected one goes to the dead-letter exchange of its queue, both under the key it has.
-/

namespace FulfillHub

open Interaction

/-! ### Exchanges and queues -/

inductive BrokerExchange
  | domain
  | retry
  | deadLetter
  deriving DecidableEq

def BrokerExchange.name : BrokerExchange → String
  | .domain => "fulfillhub.domain"
  | .retry => "fulfillhub.retry"
  | .deadLetter => "fulfillhub.dlx"

/-- The exchange of a name, if it is one of those declared. -/
def BrokerExchange.ofName (name : String) : Option BrokerExchange :=
  [BrokerExchange.domain, .retry, .deadLetter].find? (·.name = name)

/-- A queue of the broker: the queue of a worker, its retry queue or its dead-letter queue. -/
inductive Place
  | worker (queue : Queue)
  | retry (queue : Queue)
  | dead (queue : Queue)
  deriving DecidableEq

namespace Place

/-- The worker queue a queue belongs to. -/
def queue : Place → Queue
  | .worker queue | .retry queue | .dead queue => queue

def topology (place : Place) : Option QueueTopology := queueTopologies.find? (·.queue = place.queue)

def name (place : Place) : String :=
  match place with
  | .worker queue => queue.name
  | .retry _ => (place.topology.map QueueTopology.retryQueue).getD ""
  | .dead _ => (place.topology.map QueueTopology.dlq).getD ""

/-- `x-dead-letter-exchange`. -/
def deadLetterExchange : Place → Option BrokerExchange
  | .worker _ => some .deadLetter
  | .retry _ => some .domain
  | .dead _ => none

end Place

/-- The queue of an exchange that belongs to a worker queue. -/
def BrokerExchange.place : BrokerExchange → Queue → Place
  | .domain => .worker
  | .retry => .retry
  | .deadLetter => .dead

/-- The queues an exchange copies a message into. -/
def BrokerExchange.destinations (exchange : BrokerExchange) (key : String) : List Place :=
  (boundQueues key).map exchange.place

/-! ### The state of the broker -/

/-- A worker or a replay of a dead-letter queue, numbered in the order they were started. -/
inductive Client
  | worker (i : Nat)
  | replay (j : Nat)
  deriving DecidableEq

structure Broker where
  contents : Place → List Delivery
  unsettled : Client → Option (Place × Delivery)

namespace Broker

def empty : Broker := ⟨fun _ => [], fun _ => none⟩

def publish (b : Broker) (exchange : BrokerExchange) (delivery : Delivery) : Broker :=
  { b with
    contents := fun place =>
      if place ∈ exchange.destinations delivery.routingKey then b.contents place ++ [delivery]
      else b.contents place }

/-- A message leaves its queue. -/
def remove (b : Broker) (place : Place) (k : Nat) : Broker :=
  { b with contents := Function.update b.contents place ((b.contents place).eraseIdx k) }

/-- A message is handed to a client that holds none. -/
def take (b : Broker) (client : Client) (place : Place) (k : Nat) : Option (Delivery × Broker) :=
  match (b.contents place)[k]?, b.unsettled client with
  | some delivery, none => some (delivery,
      { contents := (b.remove place k).contents
        unsettled := Function.update b.unsettled client (some (place, delivery)) })
  | _, _ => none

/-- The client no longer answers for what it holds. -/
def settle (b : Broker) (client : Client) : Broker :=
  { b with unsettled := Function.update b.unsettled client none }

/-- What the client holds goes back to its queue. -/
def giveBack (b : Broker) (client : Client) : Broker :=
  match b.unsettled client with
  | none => b
  | some (place, delivery) =>
    { contents := Function.update b.contents place (b.contents place ++ [delivery])
      unsettled := Function.update b.unsettled client none }

/-- What the client holds goes to the dead-letter exchange of its queue, if it has one. -/
def reject (b : Broker) (client : Client) : Broker :=
  match b.unsettled client with
  | none => b
  | some (place, delivery) =>
    match place.deadLetterExchange with
    | some exchange => (b.settle client).publish exchange delivery
    | none => b.settle client

/-- A message expires from a retry queue. -/
def expire (b : Broker) (queue : Queue) (k : Nat) : Option Broker := do
  let delivery ← (b.contents (.retry queue))[k]?
  some ((b.remove (.retry queue) k).publish .domain delivery)

/-- The calls of a client that the broker carries out; `exchange` is where the client publishes. -/
def serve (b : Broker) (client : Client) (exchange : Option BrokerExchange) : MessagingCall → Broker
  | .publishRetry delivery event attempt => b.publish .retry (retryDelivery delivery event attempt)
  | .publish delivery =>
    match exchange with
    | some exchange => b.publish exchange delivery
    | none => b
  | .ack => b.settle client
  | .nack requeue => if requeue then b.giveBack client else b.reject client
  | .record _ _ | .handle _ | .release _ _ | .confirmSelect | .get => b

/-! ### Copies -/

/-- A copy of the delivery is in the place, or was handed out from there and is not settled. -/
def Has (b : Broker) (place : Place) (delivery : Delivery) : Prop :=
  delivery ∈ b.contents place ∨ ∃ client, b.unsettled client = some (place, delivery)

/-- There is a copy of the delivery in the broker. -/
def Carries (b : Broker) (delivery : Delivery) : Prop := ∃ place, b.Has place delivery

/-- Copies are where they were, or were made of others or sent to a queue that is bound with their key. -/
def Copies (b b' : Broker) (sent : Delivery → Prop) : Prop :=
  ∀ place d, b'.Has place d → b.Has place d ∨ place.queue ∈ boundQueues d.routingKey ∧ (b.Carries d ∨ sent d)

variable {b b' : Broker} {client : Client} {place other : Place} {delivery d : Delivery}
  {sent sent' : Delivery → Prop}

theorem Copies.mono (h : b.Copies b' sent) (hsent : ∀ d, sent d → sent' d) : b.Copies b' sent' :=
  fun place d hd => (h place d hd).imp_right fun hnew => hnew.imp_right fun hd => hd.imp_right (hsent d)

theorem Copies.carries (h : b.Copies b' sent) (hd : b'.Carries d) : b.Carries d ∨ sent d := by
  obtain ⟨place, hd⟩ := hd
  exact (h place d hd).elim (fun hold => .inl ⟨place, hold⟩) And.right

theorem not_has_empty : ¬ Broker.empty.Has place d := by
  rintro (h | ⟨client, h⟩) <;> cases h

theorem take_eq_some {k : Nat} (h : b.take client place k = some (delivery, b')) :
    (b.contents place)[k]? = some delivery ∧ b.unsettled client = none ∧
      b' = ⟨(b.remove place k).contents, Function.update b.unsettled client (some (place, delivery))⟩ := by
  unfold take at h
  split at h
  · rename_i found hfound hnone
    cases h
    exact ⟨hfound, hnone, rfl⟩
  · cases h

theorem mem_contents_update {contents : Place → List Delivery} {entries : List Delivery}
    (h : d ∈ Function.update contents place entries other) : d ∈ contents other ∨ other = place ∧ d ∈ entries := by
  by_cases hother : other = place
  · subst hother
    rw [Function.update_self] at h
    exact .inr ⟨rfl, h⟩
  · rw [Function.update_of_ne hother] at h
    exact .inl h

theorem mem_contents_of_remove {k : Nat} (h : d ∈ (b.remove place k).contents other) : d ∈ b.contents other := by
  rcases mem_contents_update h with h | ⟨rfl, h⟩
  · exact h
  · exact List.mem_of_mem_eraseIdx h

theorem mem_contents_publish {exchange : BrokerExchange} :
    d ∈ (b.publish exchange delivery).contents other ↔
      d ∈ b.contents other ∨ d = delivery ∧ other ∈ exchange.destinations delivery.routingKey := by
  unfold publish
  dsimp only
  split_ifs with hbound
  · simp [hbound]
  · simp [hbound]

theorem unsettled_update {unsettled : Client → Option (Place × Delivery)} {held x : Option (Place × Delivery)}
    {other : Client} (h : Function.update unsettled client held other = x) :
    unsettled other = x ∨ other = client ∧ held = x := by
  by_cases hother : other = client
  · subst hother
    rw [Function.update_self] at h
    exact .inr ⟨rfl, h⟩
  · rw [Function.update_of_ne hother] at h
    exact .inl h

/-- After a message was handed out, its client holds it and the others hold what they held. -/
theorem unsettled_of_take {k : Nat} {other : Client} {x : Place × Delivery}
    (htake : b.take client place k = some (delivery, b')) (h : b'.unsettled other = some x) :
    b.unsettled other = some x ∨ other = client ∧ x = (place, delivery) := by
  obtain ⟨_, _, rfl⟩ := take_eq_some htake
  rcases unsettled_update h with h | ⟨hother, h⟩
  · exact .inl h
  · exact .inr ⟨hother, (Option.some.inj h).symm⟩

/-- An exchange copies a message to queues that are bound with its key. -/
theorem Has.of_publish {exchange : BrokerExchange} (h : (b.publish exchange delivery).Has place d) :
    b.Has place d ∨ place.queue ∈ boundQueues d.routingKey ∧ d = delivery := by
  rcases h with h | h
  · rcases mem_contents_publish.mp h with h | ⟨rfl, hplace⟩
    · exact .inl (.inl h)
    · obtain ⟨queue, hqueue, rfl⟩ := List.mem_map.mp hplace
      refine .inr ⟨?_, rfl⟩
      cases exchange <;> exact hqueue
  · exact .inl (.inr h)

theorem Has.of_take {k : Nat} (htake : b.take client place k = some (delivery, b')) (h : b'.Has other d) :
    b.Has other d := by
  obtain ⟨hfound, _, hb⟩ := take_eq_some htake
  rcases h with h | ⟨holder, h⟩
  · rw [hb] at h
    exact .inl (mem_contents_of_remove h)
  · rcases unsettled_of_take htake h with h | ⟨_, h⟩
    · exact .inr ⟨holder, h⟩
    · cases h
      exact .inl (List.mem_of_getElem? hfound)

theorem Has.of_settle (h : (b.settle client).Has place d) : b.Has place d := by
  refine h.imp_right fun ⟨holder, h⟩ => ?_
  rcases unsettled_update h with h | ⟨_, h⟩
  · exact ⟨holder, h⟩
  · cases h

theorem Has.of_giveBack (h : (b.giveBack client).Has place d) : b.Has place d := by
  unfold giveBack at h
  split at h
  · exact h
  · rename_i from' held hheld
    rcases h with h | h
    · rcases mem_contents_update h with h | ⟨rfl, h⟩
      · exact .inl h
      · rcases List.mem_append.mp h with h | h
        · exact .inl h
        · rw [List.mem_singleton.mp h]
          exact .inr ⟨client, hheld⟩
    · exact (show (b.settle client).Has place d from .inr h).of_settle

theorem copies_reject (b : Broker) (client : Client) : b.Copies (b.reject client) fun _ => False := by
  intro place d h
  unfold reject at h
  split at h
  · exact .inl h
  · rename_i from' held hheld
    split at h
    · rcases h.of_publish with h | ⟨hbound, rfl⟩
      · exact .inl h.of_settle
      · exact .inr ⟨hbound, .inl ⟨from', .inr ⟨client, hheld⟩⟩⟩
    · exact .inl h.of_settle

theorem expire_eq_some {queue : Queue} {k : Nat} (h : b.expire queue k = some b') :
    ∃ delivery, (b.contents (.retry queue))[k]? = some delivery ∧
      b' = (b.remove (.retry queue) k).publish .domain delivery := by
  obtain ⟨delivery, hfound, hsome⟩ := Option.bind_eq_some_iff.mp h
  exact ⟨delivery, hfound, (Option.some.inj hsome).symm⟩

theorem copies_expire {queue : Queue} {k : Nat} (hexpire : b.expire queue k = some b') :
    b.Copies b' fun _ => False := by
  intro place d h
  obtain ⟨delivery, hfound, rfl⟩ := expire_eq_some hexpire
  rcases h.of_publish with h | ⟨hbound, rfl⟩
  · exact .inl (h.imp_left mem_contents_of_remove)
  · exact .inr ⟨hbound, .inl ⟨_, .inl (List.mem_of_getElem? hfound)⟩⟩

theorem copies_serve (b : Broker) (client : Client) (exchange : Option BrokerExchange) (call : MessagingCall) :
    b.Copies (b.serve client exchange call) fun d => call = .publish d ∨ ∃ delivery event attempt,
      call = .publishRetry delivery event attempt ∧ d = retryDelivery delivery event attempt := by
  intro place d h
  cases call with
  | publishRetry delivery event attempt =>
    exact h.of_publish.imp_right fun ⟨hbound, hd⟩ => ⟨hbound, .inr (.inr ⟨delivery, event, attempt, rfl, hd⟩)⟩
  | publish delivery =>
    cases exchange with
    | none => exact .inl h
    | some exchange =>
      exact h.of_publish.imp_right fun ⟨hbound, hd⟩ => ⟨hbound, .inr (.inl (congrArg _ hd.symm))⟩
  | ack => exact .inl h.of_settle
  | nack requeue =>
    cases requeue with
    | true => exact .inl h.of_giveBack
    | false =>
      exact (copies_reject b client place d h).imp_right fun ⟨hbound, hd⟩ => ⟨hbound, hd.imp_right False.elim⟩
  | _ => exact .inl h

end Broker

end FulfillHub
