import FulfillHub.Messaging.Broker
import FulfillHub.Messaging.NoLoss
import FulfillHub.Messaging.Settlement

/-!
# Copies of a message

Where a copy of a message leads, and how long the broker keeps it. A copy in a worker queue or a dead-letter queue
leads to the queue of the worker, one in a retry queue to every queue that is bound with its key. No operation of
the broker drops a copy, except that a client settles the one it holds.
-/

namespace FulfillHub

open Interaction

/-- A message in this place is handed to workers of the queue, perhaps after it has expired or was replayed. -/
def Place.LeadsTo (place : Place) (delivery : Delivery) (queue : Queue) : Prop :=
  match place with
  | .retry _ => queue ∈ boundQueues delivery.routingKey
  | .worker q | .dead q => q = queue

/-- Exchanges copy a message to places that lead where its key does. -/
theorem BrokerExchange.leadsTo_place (exchange : BrokerExchange) {delivery : Delivery} {queue : Queue}
    (h : queue ∈ boundQueues delivery.routingKey) : (exchange.place queue).LeadsTo delivery queue := by
  cases exchange with
  | domain | deadLetter => rfl
  | retry => exact h

namespace Broker

/-- Some copy of the message leads to the queue, in a queue of the broker or with a client that is secure. -/
def Keeps (b : Broker) (secure : Client → Prop) (queue : Queue) (messageID : String) : Prop :=
  ∃ place delivery, delivery.message = messageID ∧ place.LeadsTo delivery queue ∧
    (delivery ∈ b.contents place ∨ ∃ client, b.unsettled client = some (place, delivery) ∧ secure client)

/-- Every copy is in a queue that is bound with its key, or was taken from one. -/
def Bound (b : Broker) : Prop := ∀ place d, b.Has place d → place.queue ∈ boundQueues d.routingKey

variable {b b' : Broker} {secure secure' : Client → Prop} {queue : Queue} {messageID : String} {client other : Client}
  {place : Place} {delivery d : Delivery} {exchange : BrokerExchange} {k : Nat} {sent : Delivery → Prop}

theorem Copies.bound (h : b.Copies b' sent) (hbound : b.Bound) : b'.Bound :=
  fun place d hd => (h place d hd).elim (hbound place d) And.left

/-! ### What operations leave -/

theorem unsettled_giveBack (b : Broker) (client : Client) :
    (b.giveBack client).unsettled = (b.settle client).unsettled := by
  unfold giveBack
  split
  · rename_i hnone
    exact (Function.update_eq_self_iff.mpr hnone.symm).symm
  · rfl

theorem unsettled_reject (b : Broker) (client : Client) :
    (b.reject client).unsettled = (b.settle client).unsettled := by
  unfold reject
  split
  · rename_i hnone
    exact (Function.update_eq_self_iff.mpr hnone.symm).symm
  · split <;> rfl

theorem unsettled_serve (b : Broker) (client : Client) (exchange : Option BrokerExchange) (call : MessagingCall) :
    (b.serve client exchange call).unsettled = if call.settles then (b.settle client).unsettled else b.unsettled := by
  cases call with
  | publish delivery => cases exchange <;> rfl
  | nack requeue =>
    cases requeue with
    | true => exact b.unsettled_giveBack client
    | false => exact b.unsettled_reject client
  | _ => rfl

theorem unsettled_of_settle {x : Place × Delivery} (h : (b.settle client).unsettled other = some x) :
    b.unsettled other = some x := by
  rcases unsettled_update h with h | ⟨_, h⟩
  · exact h
  · cases h

theorem unsettled_of_serve {exchange : Option BrokerExchange} {call : MessagingCall} {x : Place × Delivery}
    (h : (b.serve client exchange call).unsettled other = some x) : b.unsettled other = some x := by
  rw [unsettled_serve] at h
  split_ifs at h
  · exact unsettled_of_settle h
  · exact h

theorem unsettled_serve_of_ne {exchange : Option BrokerExchange} {call : MessagingCall} (h : other ≠ client) :
    (b.serve client exchange call).unsettled other = b.unsettled other := by
  rw [unsettled_serve]
  split_ifs
  · exact Function.update_of_ne h _ _
  · rfl

theorem unsettled_take_of_ne (htake : b.take client place k = some (delivery, b')) (h : other ≠ client) :
    b'.unsettled other = b.unsettled other := by
  obtain ⟨_, _, rfl⟩ := take_eq_some htake
  exact Function.update_of_ne h _ _

theorem contents_giveBack (h : b.unsettled client = some (place, delivery)) :
    delivery ∈ (b.giveBack client).contents place := by
  unfold giveBack
  rw [h]
  dsimp only
  rw [Function.update_self]
  exact List.mem_append_right _ (List.mem_singleton_self _)

theorem mem_contents_giveBack (h : d ∈ b.contents place) : d ∈ (b.giveBack client).contents place := by
  unfold giveBack
  split
  · exact h
  · rename_i from' held hheld
    dsimp only
    by_cases hplace : place = from'
    · subst hplace
      rw [Function.update_self]
      exact List.mem_append_left _ h
    · rw [Function.update_of_ne hplace]
      exact h

theorem mem_contents_serve {exchange : Option BrokerExchange} {call : MessagingCall} (h : d ∈ b.contents place) :
    d ∈ (b.serve client exchange call).contents place := by
  cases call with
  | publishRetry delivery event attempt => exact mem_contents_publish.mpr (.inl h)
  | publish delivery =>
    cases exchange with
    | none => exact h
    | some exchange => exact mem_contents_publish.mpr (.inl h)
  | nack requeue =>
    cases requeue with
    | true => exact mem_contents_giveBack h
    | false =>
      change d ∈ (b.reject client).contents place
      unfold reject
      split
      · exact h
      · split
        · exact mem_contents_publish.mpr (.inl h)
        · exact h
  | _ => exact h

theorem mem_contents_remove {at' : Place} (hfound : (b.contents place)[k]? = some delivery) (h : d ∈ b.contents at') :
    d ∈ (b.remove place k).contents at' ∨ at' = place ∧ d = delivery := by
  unfold remove
  dsimp only
  by_cases hplace : at' = place
  · subst hplace
    rw [Function.update_self]
    rcases mem_eraseIdx_or hfound h with rfl | hd
    · exact .inr ⟨rfl, rfl⟩
    · exact .inl hd
  · rw [Function.update_of_ne hplace]
    exact .inl h

/-! ### Copies that are kept -/

theorem Keeps.mono (h : b.Keeps secure queue messageID) (hsecure : ∀ client, secure client → secure' client) :
    b.Keeps secure' queue messageID := by
  obtain ⟨place, delivery, hmessage, hleads, hmem⟩ := h
  refine ⟨place, delivery, hmessage, hleads, hmem.imp_right ?_⟩
  rintro ⟨client, hheld, hclient⟩
  exact ⟨client, hheld, hsecure client hclient⟩

theorem keeps_publish (h : queue ∈ boundQueues delivery.routingKey) :
    (b.publish exchange delivery).Keeps secure queue delivery.message :=
  ⟨exchange.place queue, delivery, rfl, exchange.leadsTo_place h,
    .inl (mem_contents_publish.mpr (.inr ⟨rfl, List.mem_map_of_mem h⟩))⟩

theorem Keeps.publish (h : b.Keeps secure queue messageID) :
    (b.publish exchange delivery).Keeps secure queue messageID := by
  obtain ⟨place, d, hmessage, hleads, hmem⟩ := h
  exact ⟨place, d, hmessage, hleads, hmem.imp_left fun hd => mem_contents_publish.mpr (.inl hd)⟩

theorem Keeps.giveBack (h : b.Keeps secure queue messageID) : (b.giveBack client).Keeps secure queue messageID := by
  obtain ⟨place, d, hmessage, hleads, hmem | ⟨other, hheld, hother⟩⟩ := h
  · exact ⟨place, d, hmessage, hleads, .inl (mem_contents_giveBack hmem)⟩
  · by_cases hne : other = client
    · subst hne
      exact ⟨place, d, hmessage, hleads, .inl (contents_giveBack hheld)⟩
    · refine ⟨place, d, hmessage, hleads, .inr ⟨other, ?_, hother⟩⟩
      rw [unsettled_giveBack]
      exact (Function.update_of_ne hne _ _).trans hheld

theorem Keeps.take (h : b.Keeps secure queue messageID) (htake : b.take client place k = some (delivery, b'))
    (hclient : secure client) : b'.Keeps secure queue messageID := by
  obtain ⟨hfound, hnone, rfl⟩ := take_eq_some htake
  obtain ⟨other, d, hmessage, hleads, hmem | ⟨holder, hheld, hsecure⟩⟩ := h
  · rcases mem_contents_remove hfound hmem with hd | ⟨rfl, rfl⟩
    · exact ⟨other, d, hmessage, hleads, .inl hd⟩
    · exact ⟨other, d, hmessage, hleads, .inr ⟨client, Function.update_self .., hclient⟩⟩
  · have hne : holder ≠ client := by
      rintro rfl
      cases hnone.symm.trans hheld
    exact ⟨other, d, hmessage, hleads, .inr ⟨holder, (Function.update_of_ne hne _ _).trans hheld, hsecure⟩⟩

/-- A worker's rejected delivery is in the dead-letter queue of the worker's queue. -/
theorem keeps_reject (hheld : b.unsettled client = some (.worker queue, delivery)) (hbound : b.Bound) :
    (b.reject client).Keeps secure queue delivery.message := by
  unfold reject
  rw [hheld]
  exact keeps_publish (hbound _ _ (.inr ⟨client, hheld⟩))

theorem Keeps.expire (h : b.Keeps secure queue messageID) {q : Queue} (hexpire : b.expire q k = some b') :
    b'.Keeps secure queue messageID := by
  obtain ⟨delivery, hfound, rfl⟩ := expire_eq_some hexpire
  obtain ⟨place, d, hmessage, hleads, hmem | hheld⟩ := h
  · rcases mem_contents_remove hfound hmem with hd | ⟨rfl, rfl⟩
    · exact Keeps.publish ⟨place, d, hmessage, hleads, .inl hd⟩
    · rw [← hmessage]
      exact keeps_publish hleads
  · exact Keeps.publish ⟨place, d, hmessage, hleads, .inr hheld⟩

end Broker

end FulfillHub
