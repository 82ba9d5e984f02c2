import FulfillHub.Messaging.Routing

/-!
# Hops of a message

A message with its properties and its header table, as it travels between the broker and the consumers. A retry writes
two headers over and fills properties that are missing; a replay of the dead-letter queue publishes what it read; the
broker adds headers of its own. `Delivery` is what a consumer reads of a message, and on it these are the operations
of the consumer model, so an event decoded once decodes to the same event after any number of hops.
-/

namespace FulfillHub

open Interaction

/-! ### Header tables -/

/-- A value of an `amqp.Table`: an integer of any of its types, a text, bytes, or anything else. -/
inductive HeaderValue
  | int (n : Int)
  | str (s : String)
  | bytes (s : String)
  | other (raw : String)

abbrev HeaderTable := List (String × HeaderValue)

def retryAttemptHeader : String := "fulfillhub_retry_attempt"

def causationHeader : String := "causation_id"

/-- `int(typed)` of an integer value. -/
def HeaderValue.toInt? : HeaderValue → Option Int
  | .int n => some (n.bmod (2 ^ 64))
  | _ => none

def HeaderValue.text : HeaderValue → String
  | .str s | .bytes s => s
  | _ => ""

def headerString (headers : HeaderTable) (key : String) : String :=
  ((headers.lookup key).map HeaderValue.text).getD ""

/-- A message as it is published and delivered, with a body of any type. -/
structure Message (Body : Type) where
  routingKey : String
  contentType : String
  messageID : String
  correlationID : String
  timestamp : Time
  type : EventType
  headers : HeaderTable
  body : Body

namespace Message

variable {Body : Type} (unmarshal : Body → Except Error OutboxEvent) (m : Message Body)

/-- What a consumer reads of a message. -/
def delivery : Delivery where
  routingKey := m.routingKey
  messageID := m.messageID
  correlationID := m.correlationID
  type := m.type
  retryHeader := (m.headers.lookup retryAttemptHeader).bind HeaderValue.toInt?
  causationHeader := headerString m.headers causationHeader
  body := unmarshal m.body

/-- The headers of a retry: a copy of those of the delivery with two of them set. -/
def retryHeaders (event : OutboxEvent) (attempt : Int) : HeaderTable :=
  let headers := setKey m.headers retryAttemptHeader (.int (attempt.bmod (2 ^ 32)))
  setKey headers causationHeader
    (.str (firstNonEmpty [headerString headers causationHeader, event.causationID, event.messageID]))

/-- What `PublishRetry` publishes for the decoded event of a message. -/
def publishRetry (event : OutboxEvent) (attempt : Int) (now : Time) : Message Body where
  routingKey := if m.routingKey = "" then FulfillHub.routingKey event.eventType else m.routingKey
  contentType := m.contentType
  messageID := firstNonEmpty [m.messageID, event.messageID]
  correlationID := firstNonEmpty [m.correlationID, event.correlationID]
  timestamp := now
  type := if m.type.text = "" then event.eventType else m.type
  headers := m.retryHeaders event attempt
  body := m.body

/-- What `ReplayDLQ` publishes for a message it has read. -/
def replayed (config : DLQReplayConfig) : Message Body := { m with routingKey := config.routingKey }

/-- A message on its way through the broker, which adds headers of its own. -/
structure Relayed (m m' : Message Body) : Prop where
  rest : m' = { m with headers := m'.headers }
  kept : ∀ key value, m.headers.lookup key = some value → m'.headers.lookup key = some value
  foreign : ∀ key ∈ [retryAttemptHeader, causationHeader], m.headers.lookup key = none → m'.headers.lookup key = none

/-- One hop: a retry of the event the message decodes to, a replay, or the way through the broker alone. -/
inductive Hop : Message Body → Message Body → Prop
  | retry {m m' : Message Body} {event : OutboxEvent} (attempt : Int) (now : Time)
      (hdecode : decodeDelivery (m.delivery unmarshal) = .ok event)
      (hrelayed : Relayed (m.publishRetry event attempt now) m') : Hop m m'
  | replay {m m' : Message Body} (config : DLQReplayConfig) (hrelayed : Relayed (m.replayed config) m') : Hop m m'
  | relay {m m' : Message Body} (hrelayed : Relayed m m') : Hop m m'

variable {unmarshal m} {m' : Message Body}

theorem Relayed.refl (m : Message Body) : Relayed m m := ⟨rfl, fun _ _ h => h, fun _ _ h => h⟩

theorem Relayed.lookup (h : Relayed m m') (key : String) (hkey : key ∈ [retryAttemptHeader, causationHeader]) :
    m'.headers.lookup key = m.headers.lookup key := by
  cases hvalue : m.headers.lookup key with
  | none => exact h.foreign key hkey hvalue
  | some value => exact h.kept key value hvalue

theorem Relayed.delivery_eq (h : Relayed m m') : m'.delivery unmarshal = m.delivery unmarshal := by
  have hretry := h.lookup retryAttemptHeader (by simp)
  have hcausation := h.lookup causationHeader (by simp)
  rw [delivery, delivery, headerString, headerString, hretry, hcausation, h.rest]

theorem delivery_publishRetry (m : Message Body) (event : OutboxEvent) (attempt : Int) (now : Time) :
    (m.publishRetry event attempt now).delivery unmarshal = retryDelivery (m.delivery unmarshal) event attempt := by
  have hne : retryAttemptHeader ≠ causationHeader := by decide
  have hfits : (attempt.bmod (2 ^ 32)).bmod (2 ^ 64) = attempt.bmod (2 ^ 32) := by
    rw [Int.bmod_def, Int.bmod_def]
    omega
  simp only [delivery, publishRetry, retryHeaders, retryDelivery, headerString, lookup_setKey_self,
    lookup_setKey_of_ne _ _ hne, lookup_setKey_of_ne _ _ hne.symm, Option.bind_some, Option.map_some,
    Option.getD_some, HeaderValue.toInt?, HeaderValue.text, hfits]
  rfl

theorem decodeDelivery_of_hop {event : OutboxEvent} (h : Hop unmarshal m m')
    (hdecode : decodeDelivery (m.delivery unmarshal) = .ok event) :
    decodeDelivery (m'.delivery unmarshal) = .ok event := by
  cases h with
  | retry attempt now hown hrelayed =>
    cases hdecode.symm.trans hown
    rw [hrelayed.delivery_eq, delivery_publishRetry]
    exact decodeDelivery_retryDelivery hdecode attempt
  | replay config hrelayed =>
    rw [hrelayed.delivery_eq]
    exact hdecode
  | relay hrelayed =>
    rw [hrelayed.delivery_eq]
    exact hdecode

theorem decodeDelivery_of_hops {event : OutboxEvent} (h : Relation.ReflTransGen (Hop unmarshal) m m')
    (hdecode : decodeDelivery (m.delivery unmarshal) = .ok event) :
    decodeDelivery (m'.delivery unmarshal) = .ok event := by
  induction h with
  | refl => exact hdecode
  | tail _ hhop ih => exact decodeDelivery_of_hop hhop ih

end Message

/-! ### A handler that always fails -/

/-- The answers to a consumer whose handler fails while everything else succeeds, with the calls made so far. -/
def failingAnswer (err : Error) (calls : List MessagingCall) :
    (call : MessagingCall) → call.Answer × List MessagingCall
  | .record name event => (.ok true, calls ++ [.record name event])
  | .handle event => (.error err, calls ++ [.handle event])
  | .release name event => (.ok (), calls ++ [.release name event])
  | .publishRetry delivery event attempt => (.ok (), calls ++ [.publishRetry delivery event attempt])
  | .confirmSelect => (.ok (), calls ++ [.confirmSelect])
  | .get => (.ok none, calls ++ [.get])
  | .publish delivery => (.ok (), calls ++ [.publish delivery])
  | .ack => (.ok (), calls ++ [.ack])
  | .nack requeue => (.ok (), calls ++ [.nack requeue])

/-- The calls a consumer makes for a delivery when its handler fails. -/
def Consumer.failingCalls (c : Consumer) (err : Error) (delivery : Delivery) : List MessagingCall :=
  ((c.processDelivery delivery).run (failingAnswer err) []).2

theorem Consumer.failingCalls_eq {c : Consumer} (hvalid : c.validate = .ok ()) (err : Error) {delivery : Delivery}
    {event : OutboxEvent} (hdecode : decodeDelivery delivery = .ok event) :
    c.failingCalls err delivery = [.record c.consumerName event, .handle event, .release c.consumerName event] ++
      if c.shouldRetry delivery then [.publishRetry delivery event (retryAttempt delivery + 1), .ack]
      else [.nack false] := by
  simp only [failingCalls, processDelivery, processDeliveryWith, hvalid, hdecode]
  cases hretry : c.shouldRetry delivery with
  | true => rfl
  | false => rfl

def MessagingCall.retry? : MessagingCall → Option (OutboxEvent × Int)
  | .publishRetry _ event attempt => some (event, attempt)
  | _ => none

section Course

variable {Body : Type} (unmarshal : Body → Except Error OutboxEvent) (c : Consumer) (err : Error)

/-- The course of a message whose handler always fails, with the attempts it is republished with: a delivery is
republished and acknowledged, and what comes back from the broker is delivered next, or it is rejected for good. -/
inductive Course : Message Body → List Int → Prop
  | nacked {m : Message Body}
      (hretry : (c.failingCalls err (m.delivery unmarshal)).filterMap MessagingCall.retry? = [])
      (hnack : (c.failingCalls err (m.delivery unmarshal)).getLast? = some (.nack false)) : Course m []
  | republished {m m' : Message Body} {event : OutboxEvent} {attempt : Int} {attempts : List Int} (now : Time)
      (hretry : (c.failingCalls err (m.delivery unmarshal)).filterMap MessagingCall.retry? = [(event, attempt)])
      (hack : (c.failingCalls err (m.delivery unmarshal)).getLast? = some .ack)
      (hrelayed : Message.Relayed (m.publishRetry event attempt now) m') (hnext : Course m' attempts) :
      Course m (attempt :: attempts)

variable {unmarshal c err} {m : Message Body} {event : OutboxEvent}

theorem Consumer.shouldRetry_eq (hretry : c.hasRetry = true) (hpos : 0 < c.maxRetries) (delivery : Delivery) :
    c.shouldRetry delivery = decide (retryAttempt delivery < c.maxRetries) := by
  rw [shouldRetry, retryLimit, if_pos hpos, hretry, Bool.true_and]

section Step

variable (hvalid : c.validate = .ok ()) (hdecode : decodeDelivery (m.delivery unmarshal) = .ok event)

include hvalid hdecode

theorem course_of_exhausted (hexhausted : c.shouldRetry (m.delivery unmarshal) = false) (attempts : List Int) :
    Course unmarshal c err m attempts ↔ attempts = [] := by
  have hcalls := c.failingCalls_eq hvalid err hdecode
  rw [hexhausted] at hcalls
  constructor
  · intro h
    cases h with
    | nacked _ _ => rfl
    | republished now hretry _ _ _ =>
      rw [hcalls] at hretry
      cases hretry
  · rintro rfl
    exact .nacked (by rw [hcalls]; rfl) (by rw [hcalls]; rfl)

theorem course_of_retry (hretried : c.shouldRetry (m.delivery unmarshal) = true) (attempts : List Int) :
    Course unmarshal c err m attempts ↔ ∃ now m' rest,
      Message.Relayed (m.publishRetry event (retryAttempt (m.delivery unmarshal) + 1) now) m' ∧
      Course unmarshal c err m' rest ∧ attempts = (retryAttempt (m.delivery unmarshal) + 1) :: rest := by
  have hcalls := c.failingCalls_eq hvalid err hdecode
  rw [hretried] at hcalls
  constructor
  · intro h
    cases h with
    | nacked hretry _ =>
      rw [hcalls] at hretry
      cases hretry
    | republished now hretry _ hrelayed hnext =>
      rw [hcalls] at hretry
      cases hretry
      exact ⟨now, _, _, hrelayed, hnext, rfl⟩
  · rintro ⟨now, m', rest, hrelayed, hnext, rfl⟩
    exact .republished now (by rw [hcalls]; rfl) (by rw [hcalls]; rfl) hrelayed hnext

end Step

/-- From an attempt on, a message is republished with the attempts that are left. -/
theorem course_of_attempt (err : Error) (left : Nat) (attempts : List Int) (hvalid : c.validate = .ok ())
    (hretry : c.hasRetry = true) (hfits : c.maxRetries < 2 ^ 31)
    (hdecode : decodeDelivery (m.delivery unmarshal) = .ok event)
    (hpos : 0 < c.maxRetries) (hnonneg : 0 ≤ retryAttempt (m.delivery unmarshal))
    (hleft : retryAttempt (m.delivery unmarshal) + left = c.maxRetries) :
    Course unmarshal c err m attempts ↔
      attempts = (List.range left).map fun k : Nat => retryAttempt (m.delivery unmarshal) + 1 + k := by
  induction left generalizing m attempts with
  | zero =>
    have hexhausted : c.shouldRetry (m.delivery unmarshal) = false := by
      rw [c.shouldRetry_eq hretry hpos, decide_eq_false_iff_not]
      omega
    simpa using course_of_exhausted hvalid hdecode hexhausted attempts
  | succ left ih =>
    have hretried : c.shouldRetry (m.delivery unmarshal) = true := by
      rw [c.shouldRetry_eq hretry hpos, decide_eq_true_iff]
      omega
    have hnext : ∀ {now m'}, Message.Relayed (m.publishRetry event (retryAttempt (m.delivery unmarshal) + 1) now) m' →
        decodeDelivery (m'.delivery unmarshal) = .ok event ∧
        retryAttempt (m'.delivery unmarshal) = retryAttempt (m.delivery unmarshal) + 1 := by
      intro now m' hrelayed
      refine ⟨Message.decodeDelivery_of_hop (.retry _ now hdecode hrelayed) hdecode, ?_⟩
      rw [hrelayed.delivery_eq, Message.delivery_publishRetry, retryAttempt_retryDelivery] <;> omega
    have hrange : (List.range (left + 1)).map (fun k : Nat => retryAttempt (m.delivery unmarshal) + 1 + (k : Int)) =
        (retryAttempt (m.delivery unmarshal) + 1) ::
          (List.range left).map fun k : Nat => retryAttempt (m.delivery unmarshal) + 1 + 1 + k := by
      rw [List.range_succ_eq_map, List.map_cons, List.map_map]
      congr 1
      · simp
      · apply List.map_congr_left
        intro k _
        simp only [Function.comp, Nat.succ_eq_add_one, Nat.cast_add, Nat.cast_one]
        omega
    rw [course_of_retry hvalid hdecode hretried, hrange]
    constructor
    · rintro ⟨now, m', rest, hrelayed, hcourse, rfl⟩
      obtain ⟨hdecode', hattempt⟩ := hnext hrelayed
      rw [(ih rest hdecode' (by omega) (by omega)).mp hcourse, hattempt]
    · rintro rfl
      obtain ⟨hdecode', hattempt⟩ := hnext (.refl (m.publishRetry event _ 0))
      refine ⟨0, _, _, .refl _, (ih _ hdecode' (by omega) (by omega)).mpr ?_, rfl⟩
      rw [hattempt]

/-- **Identity and attempts survive every hop.** -/
theorem hops_keep_event (hdecode : decodeDelivery (m.delivery unmarshal) = .ok event) :
    (∀ attempt now, decodeDelivery ((m.publishRetry event attempt now).delivery unmarshal) =
      decodeDelivery (m.delivery unmarshal)) ∧
    (∀ m', Relation.ReflTransGen (Message.Hop unmarshal) m m' →
      decodeDelivery (m'.delivery unmarshal) = decodeDelivery (m.delivery unmarshal)) ∧
    ∀ (c : Consumer) (err : Error), c.validate = .ok () → c.hasRetry = true → 1 ≤ c.maxRetries →
      c.maxRetries < 2 ^ 31 → m.headers.lookup retryAttemptHeader = none → ∀ attempts,
        Course unmarshal c err m attempts ↔
          attempts = (List.range c.maxRetries.toNat).map fun k : Nat => 1 + (k : Int) := by
  refine ⟨?_, ?_, ?_⟩
  · intro attempt now
    rw [Message.delivery_publishRetry, decodeDelivery_retryDelivery hdecode, hdecode]
  · intro m' hhops
    rw [Message.decodeDelivery_of_hops hhops hdecode, hdecode]
  · intro c err hvalid hretry hpos hfits hheader attempts
    have hzero : retryAttempt (m.delivery unmarshal) = 0 := by simp [retryAttempt, Message.delivery, hheader]
    have hcourse := course_of_attempt err c.maxRetries.toNat attempts hvalid hretry hfits hdecode (by omega) (by omega)
      (by omega)
    simpa [hzero] using hcourse

end Course

/-- The type of an event whose document has no `event_type`. -/
def EventType.untyped : EventType := .other "" (by decide)

/-- A message without an id, a causation id or a type in its body. -/
def sparseMessage : Message OutboxEvent where
  routingKey := "order.created"
  contentType := "application/json"
  messageID := "msg_1"
  correlationID := "corr-1"
  timestamp := 1000
  type := .orderCreated
  headers := [("x-delivery-count", .int 1), ("causation_id", .bytes "msg_0")]
  body := ⟨"", .untyped, 0, 1000, "", "m1", "ord_1", "", "", []⟩

def sparseEvent : OutboxEvent :=
  ⟨"msg_1", .orderCreated, 1, 1000, "orders-api", "m1", "ord_1", "corr-1", "msg_0",
    [("order_status", .str "pending_fulfillment")]⟩

theorem hops_keep_event_sparse :
    decodeDelivery ((sparseMessage.publishRetry sparseEvent 1 2000).delivery Except.ok) = .ok sparseEvent ∧
      Course Except.ok (sampleConsumers .inventoryReserve) (.plain "timeout") sparseMessage [1, 2] := by
  have hdecode : decodeDelivery (sparseMessage.delivery Except.ok) = .ok sparseEvent := rfl
  obtain ⟨hretry, -, hcourse⟩ := hops_keep_event hdecode
  refine ⟨(hretry 1 2000).trans hdecode, ?_⟩
  exact (hcourse (sampleConsumers .inventoryReserve) _ rfl rfl (by decide) (by decide) rfl _).mpr rfl

end FulfillHub
