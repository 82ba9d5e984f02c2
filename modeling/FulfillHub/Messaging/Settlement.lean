import FulfillHub.Library.Completion
import FulfillHub.Messaging.Hops

/-!
# How a delivery is settled

The complete runs of `ProcessDelivery`, for any outcome of decoding, of the inbox, of the handler and of the retry
publisher, and for inboxes that can release a message as well as for those that can not. There are eight courses a
run can take; what is acknowledged, rejected, retried and kept in the inbox is read off them.
-/

namespace FulfillHub

open Interaction

/-- `releaseInbox` for an inbox that may lack `Release`. -/
def releaseInboxOf (releasable : Bool) (consumerName : String) (event : OutboxEvent) : Messaging (Except Error Unit) :=
  if releasable then releaseInbox consumerName event else pure (.ok ())

/-- What `releaseInbox` exchanges with the inbox when it succeeds. -/
def releaseExchanges (releasable : Bool) (consumerName : String) (event : OutboxEvent) : MessagingTrace :=
  if releasable then [⟨.release consumerName event, .ok ()⟩] else []

namespace Consumer

/-! ### The courses of a delivery -/

/-- The exchanges of the complete runs, each with the settlement at its end. -/
inductive Settlement (c : Consumer) (releasable : Bool) (delivery : Delivery) : MessagingTrace → Prop
  | undecodable (err : Error) (hdecode : decodeDelivery delivery = .error err) (r : Except Error Unit) :
      Settlement c releasable delivery [⟨.nack false, r⟩]
  | unrecorded (event : OutboxEvent) (hdecode : decodeDelivery delivery = .ok event) (err : Error)
      (r : Except Error Unit) :
      Settlement c releasable delivery [⟨.record c.consumerName event, .error err⟩, ⟨.nack false, r⟩]
  | duplicate (event : OutboxEvent) (hdecode : decodeDelivery delivery = .ok event) (r : Except Error Unit) :
      Settlement c releasable delivery [⟨.record c.consumerName event, .ok false⟩, ⟨.ack, r⟩]
  | handled (event : OutboxEvent) (hdecode : decodeDelivery delivery = .ok event) (r : Except Error Unit) :
      Settlement c releasable delivery
        [⟨.record c.consumerName event, .ok true⟩, ⟨.handle event, .ok ()⟩, ⟨.ack, r⟩]
  | unreleased (event : OutboxEvent) (hdecode : decodeDelivery delivery = .ok event) (err releaseErr : Error)
      (hreleasable : releasable = true) (r : Except Error Unit) :
      Settlement c releasable delivery
        [⟨.record c.consumerName event, .ok true⟩, ⟨.handle event, .error err⟩,
          ⟨.release c.consumerName event, .error releaseErr⟩, ⟨.nack false, r⟩]
  | exhausted (event : OutboxEvent) (hdecode : decodeDelivery delivery = .ok event) (err : Error)
      (hretry : c.shouldRetry delivery = false) (r : Except Error Unit) :
      Settlement c releasable delivery
        ([⟨.record c.consumerName event, .ok true⟩, ⟨.handle event, .error err⟩] ++
          releaseExchanges releasable c.consumerName event ++ [⟨.nack false, r⟩])
  | unpublished (event : OutboxEvent) (hdecode : decodeDelivery delivery = .ok event) (err retryErr : Error)
      (hretry : c.shouldRetry delivery = true) (r : Except Error Unit) :
      Settlement c releasable delivery
        ([⟨.record c.consumerName event, .ok true⟩, ⟨.handle event, .error err⟩] ++
          releaseExchanges releasable c.consumerName event ++
          [⟨.publishRetry delivery event (retryAttempt delivery + 1), .error retryErr⟩, ⟨.nack false, r⟩])
  | retried (event : OutboxEvent) (hdecode : decodeDelivery delivery = .ok event) (err : Error)
      (hretry : c.shouldRetry delivery = true) (r : Except Error Unit) :
      Settlement c releasable delivery
        ([⟨.record c.consumerName event, .ok true⟩, ⟨.handle event, .error err⟩] ++
          releaseExchanges releasable c.consumerName event ++
          [⟨.publishRetry delivery event (retryAttempt delivery + 1), .ok ()⟩, ⟨.ack, r⟩])

end Consumer

variable {c : Consumer} {delivery : Delivery} {releasable : Bool} {trace : MessagingTrace}
  {result : Except Error Unit}

theorem exchanges_of_ackDelivery {f : Except Error Unit → Except Error Unit}
    (h : (ackDelivery >>= fun r => pure (f r)).Returns trace result) : ∃ r, trace = [⟨.ack, r⟩] := by
  obtain ⟨r, rest, rfl, hrest⟩ := h.of_call
  obtain ⟨rfl, -⟩ := hrest.of_ret
  exact ⟨r, rfl⟩

theorem exchanges_of_nackDelivery {f : Except Error Unit → Except Error Unit}
    (h : (nackDelivery >>= fun r => pure (f r)).Returns trace result) : ∃ r, trace = [⟨.nack false, r⟩] := by
  obtain ⟨r, rest, rfl, hrest⟩ := h.of_call
  obtain ⟨rfl, -⟩ := hrest.of_ret
  exact ⟨r, rfl⟩

/-- A release that does not fail has exchanged what it should, and then the run goes on. -/
theorem returns_of_releaseInboxOf {name : String} {event : OutboxEvent}
    {f : Except Error Unit → Messaging (Except Error Unit)}
    (h : (releaseInboxOf releasable name event >>= f).Returns trace result) :
    (∃ rest, trace = releaseExchanges releasable name event ++ rest ∧ (f (.ok ())).Returns rest result) ∨
      ∃ err rest, releasable = true ∧ trace = ⟨.release name event, .error err⟩ :: rest ∧
        (f (.error (err.within "release inbox message"))).Returns rest result := by
  cases releasable with
  | false => exact .inl ⟨trace, rfl, h⟩
  | true =>
    obtain ⟨released, rest, rfl, hrest⟩ := h.of_call
    cases released with
    | error err => exact .inr ⟨err, rest, rfl, rfl, hrest⟩
    | ok _ => exact .inl ⟨rest, rfl, hrest⟩

namespace Consumer

theorem settlement_of_returns (hvalid : c.validate = .ok ())
    (h : (c.processDeliveryWith (releaseInboxOf releasable) delivery).Returns trace result) :
    c.Settlement releasable delivery trace := by
  rw [processDeliveryWith, hvalid] at h
  cases hdecode : decodeDelivery delivery with
  | error err =>
    simp only [hdecode] at h
    obtain ⟨r, rfl⟩ := exchanges_of_nackDelivery h
    exact .undecodable err hdecode r
  | ok event =>
    simp only [hdecode] at h
    obtain ⟨recorded, afterRecord, rfl, hrecorded⟩ := h.of_perform_bind
    rcases recorded with err | fresh
    · obtain ⟨r, rfl⟩ := exchanges_of_nackDelivery hrecorded
      exact .unrecorded event hdecode err r
    cases fresh with
    | false =>
      obtain ⟨r, rfl⟩ := exchanges_of_ackDelivery (f := id) hrecorded
      exact .duplicate event hdecode r
    | true =>
      obtain ⟨handled, afterHandle, rfl, hhandled⟩ := hrecorded.of_perform_bind
      cases handled with
      | ok _ =>
        obtain ⟨r, rfl⟩ := exchanges_of_ackDelivery (f := id) hhandled
        exact .handled event hdecode r
      | error err =>
        obtain ⟨afterRelease, rfl, hreleased⟩ | ⟨releaseErr, afterRelease, hreleasable, rfl, hunreleased⟩ :=
          returns_of_releaseInboxOf hhandled
        · dsimp only at hreleased
          split at hreleased
          case isTrue hretry =>
            obtain ⟨published, afterPublish, rfl, hpublished⟩ := hreleased.of_perform_bind
            cases published with
            | error retryErr =>
              obtain ⟨r, rfl⟩ := exchanges_of_nackDelivery hpublished
              exact .unpublished event hdecode err retryErr hretry r
            | ok _ =>
              obtain ⟨r, rfl⟩ := exchanges_of_ackDelivery hpublished
              exact .retried event hdecode err hretry r
          case isFalse hretry =>
            obtain ⟨r, rfl⟩ := exchanges_of_nackDelivery hreleased
            exact .exhausted event hdecode err (Bool.eq_false_iff.mpr hretry) r
        · obtain ⟨r, rfl⟩ := exchanges_of_nackDelivery hunreleased
          exact .unreleased event hdecode err releaseErr hreleasable r

end Consumer

/-! ### Settlement -/

/-- The call acknowledges or rejects the delivery. -/
def MessagingCall.settles : MessagingCall → Bool
  | .ack => true
  | .nack _ => true
  | _ => false

def MessagingCall.isPublishRetry : MessagingCall → Bool
  | .publishRetry _ _ _ => true
  | _ => false

namespace Consumer

variable (c : Consumer) (releasable : Bool)

/-- `releaseInbox` has returned without an error. -/
def Released (event : OutboxEvent) (trace : MessagingTrace) : Prop :=
  releasable = true → (⟨.release c.consumerName event, .ok ()⟩ : Exchange MessagingCall.Answer) ∈ trace

/-- The reasons to acknowledge a delivery: a duplicate, a handled event, or a retry under way. -/
def MayAck (delivery : Delivery) (trace : MessagingTrace) : Prop :=
  ∃ event, decodeDelivery delivery = .ok event ∧
    (⟨.record c.consumerName event, .ok false⟩ ∈ trace ∨ ⟨.handle event, .ok ()⟩ ∈ trace ∨
      (∃ err, ⟨.handle event, .error err⟩ ∈ trace) ∧ c.Released releasable event trace ∧
        retryAttempt delivery < c.retryLimit ∧
        ⟨.publishRetry delivery event (retryAttempt delivery + 1), .ok ()⟩ ∈ trace)

/-- The delivery is settled once, and for the right reason. -/
structure SettledOnce (delivery : Delivery) (trace : MessagingTrace) : Prop where
  once : trace.countP (fun exchange => exchange.1.settles) = 1
  not_requeued : ∀ r, ⟨.nack true, r⟩ ∉ trace
  ack_iff : (∃ r, ⟨.ack, r⟩ ∈ trace) ↔ c.MayAck releasable delivery trace
  retried_once : trace.countP (fun exchange => exchange.1.isPublishRetry) ≤ 1
  retried_released : ∀ before copy event attempt r after,
    trace = before ++ ⟨.publishRetry copy event attempt, r⟩ :: after → c.Released releasable event before
  handled_iff : ∀ event, (∃ r, ⟨.handle event, r⟩ ∈ trace) ↔
    decodeDelivery delivery = .ok event ∧ ⟨.record c.consumerName event, .ok true⟩ ∈ trace

variable {c releasable}

theorem retryAttempt_lt (h : c.shouldRetry delivery = true) : retryAttempt delivery < c.retryLimit := by
  rw [shouldRetry, Bool.and_eq_true] at h
  exact of_decide_eq_true h.2

theorem Settlement.countP_settles (h : c.Settlement releasable delivery trace) :
    trace.countP (fun exchange => exchange.1.settles) = 1 := by
  cases h <;> cases releasable <;> simp [releaseExchanges, MessagingCall.settles]

theorem Settlement.nack_notMem (h : c.Settlement releasable delivery trace) (r : Except Error Unit) :
    ⟨.nack true, r⟩ ∉ trace := by
  cases h <;> cases releasable <;> simp [releaseExchanges]

theorem Settlement.ack_mem_iff (h : c.Settlement releasable delivery trace) :
    (∃ r, ⟨.ack, r⟩ ∈ trace) ↔ c.MayAck releasable delivery trace := by
  cases h with
  | retried event hdecode err hretry r =>
    have hlt := retryAttempt_lt hretry
    cases releasable <;> simp [MayAck, Released, hdecode, releaseExchanges, hlt]
  | _ => cases releasable <;> simp_all [MayAck, Released, releaseExchanges]

theorem Settlement.countP_isPublishRetry (h : c.Settlement releasable delivery trace) :
    trace.countP (fun exchange => exchange.1.isPublishRetry) ≤ 1 := by
  cases h <;> cases releasable <;> simp [releaseExchanges, MessagingCall.isPublishRetry]

theorem Settlement.handle_mem_iff (h : c.Settlement releasable delivery trace) (event : OutboxEvent) :
    (∃ r, ⟨.handle event, r⟩ ∈ trace) ↔
      decodeDelivery delivery = .ok event ∧ ⟨.record c.consumerName event, .ok true⟩ ∈ trace := by
  cases h <;> cases releasable <;> simp_all [releaseExchanges]

theorem Settlement.released (h : c.Settlement releasable delivery trace) {before after : MessagingTrace} {copy : Delivery}
    {event : OutboxEvent} {attempt : Int} {r : Except Error Unit}
    (hretry : trace = before ++ ⟨.publishRetry copy event attempt, r⟩ :: after) :
    c.Released releasable event before := by
  intro hreleasable
  cases h <;> simp_all [releaseExchanges, List.cons_eq_append_iff]

theorem Settlement.settledOnce (h : c.Settlement releasable delivery trace) :
    c.SettledOnce releasable delivery trace where
  once := h.countP_settles
  not_requeued := h.nack_notMem
  ack_iff := h.ack_mem_iff
  retried_once := h.countP_isPublishRetry
  retried_released _ _ _ _ _ _ := h.released
  handled_iff := h.handle_mem_iff

end Consumer

/-! ### The inbox -/

def MessagingCall.usesInbox : MessagingCall → Bool
  | .record _ _ => true
  | .release _ _ => true
  | _ => false

section Inbox

variable {Key : Type} [DecidableEq Key] (key : String → String → Key)

/-- An inbox keeps a row under a key of its own for each consumer and message: the text `consumer:message` in memory,
the pair of both in the database. An operation that fails may have done anything. -/
inductive InboxAnswers (rows : Finset Key) : (call : MessagingCall) → call.Answer → Finset Key → Prop
  | recorded (name : String) (event : OutboxEvent) (h : key name event.messageID ∉ rows) :
      InboxAnswers rows (.record name event) (.ok true) (insert (key name event.messageID) rows)
  | duplicate (name : String) (event : OutboxEvent) (h : key name event.messageID ∈ rows) :
      InboxAnswers rows (.record name event) (.ok false) rows
  | recordFails (name : String) (event : OutboxEvent) (err : Error) (rows' : Finset Key) :
      InboxAnswers rows (.record name event) (.error err) rows'
  | released (name : String) (event : OutboxEvent) :
      InboxAnswers rows (.release name event) (.ok ()) (rows.erase (key name event.messageID))
  | releaseFails (name : String) (event : OutboxEvent) (err : Error) (rows' : Finset Key) :
      InboxAnswers rows (.release name event) (.error err) rows'
  | other (call : MessagingCall) (h : call.usesInbox = false) (r : call.Answer) : InboxAnswers rows call r rows

variable {key} {rows rows' : Finset Key} {event : OutboxEvent} {name : String}

theorem InboxAnswers.mem_of_record {fresh : Bool}
    (h : InboxAnswers key rows (.record name event) (.ok fresh) rows') : key name event.messageID ∈ rows' := by
  cases h with
  | recorded => exact Finset.mem_insert_self _ _
  | duplicate _ _ h => exact h
  | other _ h _ => cases h

theorem InboxAnswers.notMem_of_release (h : InboxAnswers key rows (.release name event) (.ok ()) rows') :
    key name event.messageID ∉ rows' := by
  cases h with
  | released => exact Finset.notMem_erase _ _
  | other _ h _ => cases h

theorem InboxAnswers.eq_of_other {call : MessagingCall} {r : call.Answer} (h : InboxAnswers key rows call r rows')
    (hcall : call.usesInbox = false) : rows' = rows := by
  cases h with
  | other => rfl
  | _ => cases hcall

theorem inbox_eq_of_through (h : Trace.Through (InboxAnswers key) rows trace rows')
    (htrace : ∀ exchange ∈ trace, exchange.1.usesInbox = false) : rows' = rows := by
  induction h with
  | nil _ => rfl
  | cons hanswer _ ih =>
    rw [ih fun exchange hmem => htrace exchange (List.mem_cons_of_mem _ hmem)]
    exact hanswer.eq_of_other (htrace _ List.mem_cons_self)

theorem mem_inbox_of_record {fresh : Bool}
    (h : Trace.Through (InboxAnswers key) rows (⟨.record name event, .ok fresh⟩ :: trace) rows')
    (htrace : ∀ exchange ∈ trace, exchange.1.usesInbox = false) : key name event.messageID ∈ rows' := by
  obtain ⟨recorded, hrecord, hrest⟩ := h.of_cons
  rw [inbox_eq_of_through hrest htrace]
  exact hrecord.mem_of_record

theorem notMem_inbox_of_release (before : MessagingTrace)
    (h : Trace.Through (InboxAnswers key) rows (before ++ ⟨.release name event, .ok ()⟩ :: trace) rows')
    (htrace : ∀ exchange ∈ trace, exchange.1.usesInbox = false) : key name event.messageID ∉ rows' := by
  induction before generalizing rows with
  | nil =>
    obtain ⟨released, hrelease, hrest⟩ := h.of_cons
    rw [inbox_eq_of_through hrest htrace]
    exact hrelease.notMem_of_release
  | cons exchange before ih =>
    obtain ⟨_, _, hrest⟩ := h.of_cons
    exact ih hrest

/-- When recording and releasing do not fail, the row stays for a duplicate and for a handled event only. -/
theorem Consumer.Settlement.mem_inbox_iff (h : c.Settlement true delivery trace)
    (hdecode : decodeDelivery delivery = .ok event) (hthrough : Trace.Through (InboxAnswers key) rows trace rows')
    (hrecord : ∀ err, ⟨.record c.consumerName event, .error err⟩ ∉ trace)
    (hrelease : ∀ err, ⟨.release c.consumerName event, .error err⟩ ∉ trace) :
    key c.consumerName event.messageID ∈ rows' ↔
      ⟨.record c.consumerName event, .ok false⟩ ∈ trace ∨ ⟨.handle event, .ok ()⟩ ∈ trace := by
  cases h with
  | undecodable err hfailed => simp [hfailed] at hdecode
  | unrecorded other hother err =>
    obtain rfl := Except.ok.inj (hother.symm.trans hdecode)
    exact absurd List.mem_cons_self (hrecord err)
  | duplicate other hother =>
    obtain rfl := Except.ok.inj (hother.symm.trans hdecode)
    exact iff_of_true (mem_inbox_of_record hthrough (by simp [MessagingCall.usesInbox])) (by simp)
  | handled other hother =>
    obtain rfl := Except.ok.inj (hother.symm.trans hdecode)
    exact iff_of_true (mem_inbox_of_record hthrough (by simp [MessagingCall.usesInbox])) (by simp)
  | unreleased other hother err releaseErr =>
    obtain rfl := Except.ok.inj (hother.symm.trans hdecode)
    exact absurd (by simp) (hrelease releaseErr)
  | exhausted other hother err =>
    obtain rfl := Except.ok.inj (hother.symm.trans hdecode)
    exact iff_of_false (notMem_inbox_of_release [_, _] hthrough (by simp [MessagingCall.usesInbox]))
      (by simp [releaseExchanges])
  | unpublished other hother err =>
    obtain rfl := Except.ok.inj (hother.symm.trans hdecode)
    exact iff_of_false (notMem_inbox_of_release [_, _] hthrough (by simp [MessagingCall.usesInbox]))
      (by simp [releaseExchanges])
  | retried other hother err =>
    obtain rfl := Except.ok.inj (hother.symm.trans hdecode)
    exact iff_of_false (notMem_inbox_of_release [_, _] hthrough (by simp [MessagingCall.usesInbox]))
      (by simp [releaseExchanges])

end Inbox

/-! ### The result -/

/-- A consumer with an inbox and a handler comes to its end under any outcomes, and has then settled its delivery
once and for the right reason; an inbox that can release keeps the message of a duplicate and of a handled event. -/
theorem processDelivery_settles {c : Consumer} (hinbox : c.hasInbox = true) (hhandler : c.hasHandler = true)
    (releasable : Bool) (delivery : Delivery) :
    (∀ outcome : (call : MessagingCall) → call.Answer, ∃ trace result,
      (c.processDeliveryWith (releaseInboxOf releasable) delivery).Returns trace result ∧
        ∀ exchange ∈ trace, exchange.2 = outcome exchange.1) ∧
    ∀ trace result, (c.processDeliveryWith (releaseInboxOf releasable) delivery).Returns trace result →
      c.SettledOnce releasable delivery trace ∧
      (releasable = true → ∀ (Key : Type) [DecidableEq Key] (key : String → String → Key) (rows rows' : Finset Key)
        (event : OutboxEvent), decodeDelivery delivery = .ok event →
        Trace.Through (InboxAnswers key) rows trace rows' →
        (∀ err, ⟨.record c.consumerName event, .error err⟩ ∉ trace) →
        (∀ err, ⟨.release c.consumerName event, .error err⟩ ∉ trace) →
        (key c.consumerName event.messageID ∈ rows' ↔
          ⟨.record c.consumerName event, .ok false⟩ ∈ trace ∨ ⟨.handle event, .ok ()⟩ ∈ trace)) := by
  have hvalid : c.validate = .ok () := by simp [Consumer.validate, hinbox, hhandler]
  refine ⟨fun outcome => Prog.exists_returns_with outcome _, ?_⟩
  intro trace result hreturns
  have hsettlement := Consumer.settlement_of_returns hvalid hreturns
  refine ⟨hsettlement.settledOnce, ?_⟩
  intro hreleasable Key _ key rows rows' event hdecode hthrough hrecord hrelease
  subst hreleasable
  exact hsettlement.mem_inbox_iff hdecode hthrough hrecord hrelease

def takenReservation : OutboxEvent := (sampleEvent .orderCreated).withEnvelopeDefaults

/-- The reservation times out, its row is released, a retry is published and the delivery is acknowledged. -/
def retriedReservation : MessagingTrace :=
  [⟨.record "inventory.reserve" takenReservation, .ok true⟩, ⟨.handle takenReservation, .error (.plain "timeout")⟩,
    ⟨.release "inventory.reserve" takenReservation, .ok ()⟩,
    ⟨.publishRetry (publication (sampleEvent .orderCreated)) takenReservation 1, .ok ()⟩, ⟨.ack, .ok ()⟩]

theorem processDelivery_settles_reservation :
    (∃ result, ((sampleConsumers .inventoryReserve).processDeliveryWith (releaseInboxOf true)
      (publication (sampleEvent .orderCreated))).Returns retriedReservation result) ∧
    (sampleConsumers .inventoryReserve).SettledOnce true (publication (sampleEvent .orderCreated)) retriedReservation ∧
    ∃ rows, Trace.Through (InboxAnswers Prod.mk) ∅ retriedReservation rows ∧ ("inventory.reserve", "msg_1") ∉ rows := by
  have h := (processDelivery_settles (c := sampleConsumers .inventoryReserve) rfl rfl true
    (publication (sampleEvent .orderCreated))).2 retriedReservation _
    (.call _ (.call _ (.call _ (.call _ (.call _ (.ret _))))))
  have hthrough : Trace.Through (InboxAnswers Prod.mk) ∅ retriedReservation _ :=
    .cons (.recorded _ _ (Finset.notMem_empty _)) (.cons (.other _ rfl _) (.cons (.released _ _)
      (.cons (.other _ rfl _) (.cons (.other _ rfl _) (.nil _)))))
  refine ⟨⟨_, .call _ (.call _ (.call _ (.call _ (.call _ (.ret _)))))⟩, h.1, _, hthrough, ?_⟩
  intro hmem
  have hkept := (h.2 rfl _ Prod.mk ∅ _ takenReservation rfl hthrough (by simp [retriedReservation])
    (by simp [retriedReservation])).mp hmem
  simp [retriedReservation] at hkept

end FulfillHub
