import FulfillHub.Library.Prog
import FulfillHub.Messaging.Topology

/-!
# Consuming a delivery

`Consumer.ProcessDelivery` and `ReplayDLQ` of `internal/messaging`, as programs over the inbox, the
handler and the channel. What they ask of the outside is one signature of calls: the broker and the
inbox answer them, one at a time, in the systems built on top.

Both inboxes of the package can release a message, so the type assertion in `releaseInbox` succeeds for
them; `processDeliveryWith` leaves open what the inbox does. Tracing spans and the context are left out.
-/

namespace FulfillHub

open Interaction

/-! ### Errors of several steps -/

/-- `errors.Join`. -/
def joinErrors (results : List (Except Error Unit)) : Except Error Unit :=
  match results.filterMap fun | .error err => some err.text | .ok () => none with
  | [] => .ok ()
  | texts => .error (.plain (String.intercalate "\n" texts))

/-! ### Deliveries -/

/-- A delivery as the consumer reads it: the routing key, the properties and headers it looks at (an
absent text header reads as `""`), and what `json.Unmarshal` makes of the body. -/
structure Delivery where
  routingKey : String
  messageID : String
  correlationID : String
  type : EventType
  retryHeader : Option Int
  causationHeader : String
  body : Except Error OutboxEvent

def firstNonEmpty (values : List String) : String := (values.find? (· ≠ "")).getD ""

def retryAttempt (delivery : Delivery) : Int := delivery.retryHeader.getD 0

/-- A body with the gaps that `decodeDelivery` fills from the delivery. -/
def Delivery.fill (delivery : Delivery) (body : OutboxEvent) : OutboxEvent :=
  let messageID := if body.messageID = "" then delivery.messageID else body.messageID
  { body with
    messageID := messageID
    correlationID := if body.correlationID = "" then delivery.correlationID else body.correlationID
    causationID := if body.causationID = "" then
      firstNonEmpty [delivery.causationHeader, delivery.messageID, messageID] else body.causationID
    eventType := if body.eventType.text = "" then delivery.type else body.eventType
    schemaVersion := if body.schemaVersion = 0 then eventSchemaVersion else body.schemaVersion }

def decodeDelivery (delivery : Delivery) : Except Error OutboxEvent :=
  match delivery.body with
  | .error err => .error err
  | .ok body =>
    let event := delivery.fill body
    if event.schemaVersion ≠ eventSchemaVersion then
      .error (.plain ("unsupported event schema version " ++ toString event.schemaVersion))
    else .ok event.withEnvelopeDefaults

/-- The message a delivery is a copy of. -/
def Delivery.message (delivery : Delivery) : String :=
  match decodeDelivery delivery with
  | .ok event => event.messageID
  | .error _ => delivery.messageID

/-- What `RabbitPublisher.Publish` publishes to the domain exchange. -/
def publication (event : OutboxEvent) : Delivery :=
  let event := event.withEnvelopeDefaults
  { routingKey := routingKey event.eventType
    messageID := event.messageID
    correlationID := event.correlationID
    type := event.eventType
    retryHeader := none
    causationHeader := event.causationID
    body := .ok event }

/-- What `PublishRetry` publishes to the retry exchange. The attempt travels as an `int32`. -/
def retryDelivery (delivery : Delivery) (event : OutboxEvent) (attempt : Int) : Delivery where
  routingKey := if delivery.routingKey = "" then routingKey event.eventType else delivery.routingKey
  messageID := firstNonEmpty [delivery.messageID, event.messageID]
  correlationID := firstNonEmpty [delivery.correlationID, event.correlationID]
  type := if delivery.type.text = "" then event.eventType else delivery.type
  retryHeader := some (attempt.bmod (2 ^ 32))
  causationHeader := firstNonEmpty [delivery.causationHeader, event.causationID, event.messageID]
  body := delivery.body

/-! ### Calls -/

/-- What a run asks of the inbox, of the handler and of its channel. `ack` and `nack` are about the
delivery the run holds, `publish` is a mandatory publication with the wait for its outcome. -/
inductive MessagingCall
  | record (consumerName : String) (event : OutboxEvent)
  | handle (event : OutboxEvent)
  | release (consumerName : String) (event : OutboxEvent)
  | publishRetry (delivery : Delivery) (event : OutboxEvent) (attempt : Int)
  | confirmSelect
  | get
  | publish (delivery : Delivery)
  | ack
  | nack (requeue : Bool)

/-- Inbox rows are compared as the pairs of texts they are. -/
instance inboxRowLawfulBEq : LawfulBEq (String × String) := inferInstance

abbrev MessagingCall.Answer : MessagingCall → Type
  | .record _ _ => Except Error Bool
  | .get => Except Error (Option Delivery)
  | _ => Except Error Unit

abbrev Messaging (α : Type) := Prog MessagingCall MessagingCall.Answer α

abbrev MessagingTrace := Trace MessagingCall.Answer

namespace Messaging

def record (consumerName : String) (event : OutboxEvent) : Messaging (Except Error Bool) :=
  Prog.perform (MessagingCall.record consumerName event)

def handleEvent (event : OutboxEvent) : Messaging (Except Error Unit) := Prog.perform (MessagingCall.handle event)

def release (consumerName : String) (event : OutboxEvent) : Messaging (Except Error Unit) :=
  Prog.perform (MessagingCall.release consumerName event)

def publishRetry (delivery : Delivery) (event : OutboxEvent) (attempt : Int) : Messaging (Except Error Unit) :=
  Prog.perform (MessagingCall.publishRetry delivery event attempt)

def confirmSelect : Messaging (Except Error Unit) := Prog.perform MessagingCall.confirmSelect

def get : Messaging (Except Error (Option Delivery)) := Prog.perform MessagingCall.get

def publish (delivery : Delivery) : Messaging (Except Error Unit) := Prog.perform (MessagingCall.publish delivery)

def ack : Messaging (Except Error Unit) := Prog.perform MessagingCall.ack

def nack (requeue : Bool) : Messaging (Except Error Unit) := Prog.perform (MessagingCall.nack requeue)

end Messaging

open Messaging

def ackDelivery : Messaging (Except Error Unit) := do
  pure ((← ack).mapError (Error.within "ack delivery"))

def nackDelivery : Messaging (Except Error Unit) := do
  pure ((← nack false).mapError (Error.within "nack delivery"))

def releaseInbox (consumerName : String) (event : OutboxEvent) : Messaging (Except Error Unit) := do
  pure ((← release consumerName event).mapError (Error.within "release inbox message"))

/-! ### The consumer -/

/-- A consumer: which of its parts are set, and its limits. -/
structure Consumer where
  queue : String
  name : String
  hasInbox : Bool
  hasHandler : Bool
  hasRetry : Bool
  maxRetries : Int

namespace Consumer

variable (c : Consumer)

def defaultMaxRetryAttempts : Int := 3

def validate : Except Error Unit :=
  if !c.hasInbox then .error (.plain "consumer inbox is required")
  else if !c.hasHandler then .error (.plain "consumer handler is required")
  else .ok ()

def consumerName : String := if c.name ≠ "" then c.name else c.queue

/-- The limit in force: `Consumer.maxRetries`. -/
def retryLimit : Int := if c.maxRetries > 0 then c.maxRetries else defaultMaxRetryAttempts

def shouldRetry (delivery : Delivery) : Bool := c.hasRetry && decide (retryAttempt delivery < c.retryLimit)

/-- `ProcessDelivery`, with `releaseInbox` as it is for the inbox in use. -/
def processDeliveryWith (releaseInbox : String → OutboxEvent → Messaging (Except Error Unit))
    (delivery : Delivery) : Messaging (Except Error Unit) :=
  match c.validate with
  | .error err => pure (.error err)
  | .ok () =>
    match decodeDelivery delivery with
    | .error err => do
        pure (joinErrors [.error (err.within "decode delivery"), ← nackDelivery])
    | .ok event => do
        match ← record c.consumerName event with
        | .error err => pure (joinErrors [.error (err.within "record inbox message"), ← nackDelivery])
        | .ok false => ackDelivery
        | .ok true =>
          match ← handleEvent event with
          | .ok () => ackDelivery
          | .error err =>
            match ← releaseInbox c.consumerName event with
            | .error releaseErr =>
              pure (joinErrors [.error (err.within "handle delivery"), .error releaseErr,
                ← nackDelivery])
            | .ok () =>
              if c.shouldRetry delivery then
                match ← publishRetry delivery event (retryAttempt delivery + 1) with
                | .error retryErr =>
                  pure (joinErrors [.error (err.within "handle delivery"),
                    .error (retryErr.within "publish retry"), ← nackDelivery])
                | .ok () => pure (joinErrors [.error (err.within "handle delivery"), ← ackDelivery])
              else pure (joinErrors [.error (err.within "handle delivery"), ← nackDelivery])

def processDelivery (delivery : Delivery) : Messaging (Except Error Unit) :=
  c.processDeliveryWith releaseInbox delivery

end Consumer

/-! ### Replaying the dead-letter queue -/

structure DLQReplayConfig where
  queue : String
  exchange : String
  routingKey : String
  limit : Int

/-- The loop of `ReplayDLQ`: what is left of the limit, and the messages replayed so far. -/
def replayLoop (config : DLQReplayConfig) : Nat → Nat → Messaging (Nat × Except Error Unit)
  | 0, replayed => pure (replayed, .ok ())
  | left + 1, replayed => do
      match ← get with
      | .error err => pure (replayed, .error (err.within "get dlq message"))
      | .ok none => pure (replayed, .ok ())
      | .ok (some delivery) =>
        match ← publish { delivery with routingKey := config.routingKey } with
        | .error err => do
            let _ ← nack true
            pure (replayed, .error err)
        | .ok () =>
          match ← ack with
          | .error err => pure (replayed, .error (err.within "ack dlq message"))
          | .ok () => replayLoop config left (replayed + 1)

def replayDLQ (config : DLQReplayConfig) : Messaging (Nat × Except Error Unit) :=
  if config.queue = "" ∨ config.exchange = "" ∨ config.routingKey = "" then
    pure (0, .error (.plain "queue, exchange, and routing key are required"))
  else do
    match ← confirmSelect with
    | .error err => pure (0, .error (err.within "enable dlq replay publisher confirms"))
    | .ok () => replayLoop config (if config.limit ≤ 0 then 100 else config.limit.toNat) 0

/-! ### A retried message is the same message -/

@[simp] theorem firstNonEmpty_nil : firstNonEmpty [] = "" := rfl

@[simp] theorem firstNonEmpty_cons (value : String) (values : List String) :
    firstNonEmpty (value :: values) = if value = "" then firstNonEmpty values else value := by
  by_cases h : value = "" <;> simp [firstNonEmpty, h]

theorem firstNonEmpty_self (value : String) : firstNonEmpty [value, value] = value := by
  by_cases h : value = "" <;> simp [h]

theorem decodeDelivery_eq_ok {delivery : Delivery} {event : OutboxEvent} :
    decodeDelivery delivery = .ok event ↔ ∃ body, delivery.body = .ok body ∧
      (delivery.fill body).schemaVersion = eventSchemaVersion ∧
      (delivery.fill body).withEnvelopeDefaults = event := by
  cases hbody : delivery.body with
  | error err => simp [decodeDelivery, hbody]
  | ok body =>
    by_cases hversion : (delivery.fill body).schemaVersion = eventSchemaVersion <;>
      simp [decodeDelivery, hbody, hversion]

theorem fill_retryDelivery (delivery : Delivery) (body : OutboxEvent) (attempt : Int) :
    (retryDelivery delivery (delivery.fill body).withEnvelopeDefaults attempt).fill body =
      delivery.fill body := by
  simp only [Delivery.fill, retryDelivery, OutboxEvent.withEnvelopeDefaults_messageID,
    OutboxEvent.withEnvelopeDefaults_correlationID, OutboxEvent.withEnvelopeDefaults_causationID,
    OutboxEvent.withEnvelopeDefaults_eventType]
  congr 1
  · by_cases h : body.messageID = "" <;> simp only [h, if_true, if_false, firstNonEmpty_self]
  · by_cases h : body.eventType.text = "" <;> simp only [h, if_true, if_false]
    split <;> rfl
  · by_cases h : body.correlationID = "" <;> simp only [h, if_true, if_false, firstNonEmpty_self]
  · by_cases h : body.causationID = ""
    · by_cases hid : body.messageID = "" <;> by_cases hown : delivery.messageID = "" <;>
        by_cases hheader : delivery.causationHeader = "" <;>
        simp only [h, hid, hown, hheader, if_true, if_false, firstNonEmpty_cons, firstNonEmpty_nil]
    · simp only [h, if_false]

/-- A retried delivery decodes to the event it was first decoded to. -/
theorem decodeDelivery_retryDelivery {delivery : Delivery} {event : OutboxEvent}
    (h : decodeDelivery delivery = .ok event) (attempt : Int) :
    decodeDelivery (retryDelivery delivery event attempt) = .ok event := by
  obtain ⟨body, hbody, hversion, rfl⟩ := decodeDelivery_eq_ok.mp h
  have hfill := fill_retryDelivery delivery body attempt
  exact decodeDelivery_eq_ok.mpr ⟨body, hbody, by rw [hfill, hversion], by rw [hfill]⟩

theorem message_of_decodeDelivery {delivery : Delivery} {event : OutboxEvent}
    (h : decodeDelivery delivery = .ok event) : delivery.message = event.messageID := by
  simp [Delivery.message, h]

theorem message_retryDelivery {delivery : Delivery} {event : OutboxEvent}
    (h : decodeDelivery delivery = .ok event) (attempt : Int) :
    (retryDelivery delivery event attempt).message = delivery.message := by
  rw [message_of_decodeDelivery h, message_of_decodeDelivery (decodeDelivery_retryDelivery h attempt)]

/-! ### What a consumer does, and when -/

namespace Consumer

/-- The calls a consumer makes for a decoded delivery, each with everything that was done before it. -/
inductive Permits (c : Consumer) (delivery : Delivery) (event : OutboxEvent) :
    MessagingTrace → MessagingCall → Prop
  | record : Permits c delivery event [] (.record c.consumerName event)
  | nackUnrecorded (err : Error) :
      Permits c delivery event [⟨.record c.consumerName event, .error err⟩] (.nack false)
  | ackDuplicate : Permits c delivery event [⟨.record c.consumerName event, .ok false⟩] .ack
  | handle : Permits c delivery event [⟨.record c.consumerName event, .ok true⟩] (.handle event)
  | ackHandled : Permits c delivery event
      [⟨.record c.consumerName event, .ok true⟩, ⟨.handle event, .ok ()⟩] .ack
  | release (err : Error) : Permits c delivery event
      [⟨.record c.consumerName event, .ok true⟩, ⟨.handle event, .error err⟩]
      (.release c.consumerName event)
  | nackUnreleased (err releaseErr : Error) : Permits c delivery event
      [⟨.record c.consumerName event, .ok true⟩, ⟨.handle event, .error err⟩,
        ⟨.release c.consumerName event, .error releaseErr⟩] (.nack false)
  | nackExhausted (err : Error) (h : c.shouldRetry delivery = false) : Permits c delivery event
      [⟨.record c.consumerName event, .ok true⟩, ⟨.handle event, .error err⟩,
        ⟨.release c.consumerName event, .ok ()⟩] (.nack false)
  | publishRetry (err : Error) (h : c.shouldRetry delivery = true) : Permits c delivery event
      [⟨.record c.consumerName event, .ok true⟩, ⟨.handle event, .error err⟩,
        ⟨.release c.consumerName event, .ok ()⟩]
      (.publishRetry delivery event (retryAttempt delivery + 1))
  | nackUnpublished (err retryErr : Error) : Permits c delivery event
      [⟨.record c.consumerName event, .ok true⟩, ⟨.handle event, .error err⟩,
        ⟨.release c.consumerName event, .ok ()⟩,
        ⟨.publishRetry delivery event (retryAttempt delivery + 1), .error retryErr⟩] (.nack false)
  | ackRetried (err : Error) : Permits c delivery event
      [⟨.record c.consumerName event, .ok true⟩, ⟨.handle event, .error err⟩,
        ⟨.release c.consumerName event, .ok ()⟩,
        ⟨.publishRetry delivery event (retryAttempt delivery + 1), .ok ()⟩] .ack

section Permits

variable {c : Consumer} {delivery : Delivery} {event e : OutboxEvent} {trace : MessagingTrace}

theorem Permits.of_handle (h : c.Permits delivery event trace (.handle e)) :
    e = event ∧ trace = [⟨.record c.consumerName event, .ok true⟩] := by
  cases h
  exact ⟨rfl, rfl⟩

theorem Permits.of_release {name : String} (h : c.Permits delivery event trace (.release name e)) :
    name = c.consumerName ∧ e = event ∧ ∃ err,
      trace = [⟨.record c.consumerName event, .ok true⟩, ⟨.handle event, .error err⟩] := by
  cases h with
  | release err => exact ⟨rfl, rfl, err, rfl⟩

end Permits

/-- A misconfigured consumer returns at once, an undecodable delivery is dead-lettered, and every other
run ends by acknowledging or dead-lettering its delivery. -/
def contract (c : Consumer) (delivery : Delivery) : Contract MessagingCall.Answer (Except Error Unit) where
  allowed trace call := c.validate = .ok () ∧
    match decodeDelivery delivery with
    | .error _ => trace = [] ∧ call = .nack false
    | .ok event => c.Permits delivery event trace call
  returns trace _ := (trace = [] ∧ c.validate ≠ .ok ()) ∨
    (∃ before r, trace = before ++ [⟨.ack, r⟩]) ∨ ∃ before r, trace = before ++ [⟨.nack false, r⟩]

variable {c : Consumer} {delivery : Delivery} {event : OutboxEvent} {trace : MessagingTrace}

theorem follows_ackDelivery {f : Except Error Unit → Except Error Unit}
    (h : (c.contract delivery).allowed trace .ack) :
    (c.contract delivery).Follows trace (ackDelivery >>= fun r => pure (f r)) :=
  .perform h fun r => .ret (.inr (.inl ⟨trace, r, rfl⟩))

theorem follows_nackDelivery {f : Except Error Unit → Except Error Unit}
    (h : (c.contract delivery).allowed trace (.nack false)) :
    (c.contract delivery).Follows trace (nackDelivery >>= fun r => pure (f r)) :=
  .perform h fun r => .ret (.inr (.inr ⟨trace, r, rfl⟩))

theorem processDelivery_follows (c : Consumer) (delivery : Delivery) :
    (c.contract delivery).Follows [] (c.processDelivery delivery) := by
  rw [processDelivery, processDeliveryWith]
  cases hvalid : c.validate with
  | error err => exact .ret (.inl ⟨rfl, by simp [hvalid]⟩)
  | ok _ =>
    cases hdecode : decodeDelivery delivery with
    | error err => exact follows_nackDelivery ⟨hvalid, by simp [hdecode]⟩
    | ok event =>
      have hallowed : ∀ {trace call}, c.Permits delivery event trace call →
          (c.contract delivery).allowed trace call := fun h => ⟨hvalid, by simpa [hdecode] using h⟩
      refine .perform (hallowed .record) fun recorded => ?_
      cases recorded with
      | error err => exact follows_nackDelivery (hallowed (.nackUnrecorded err))
      | ok fresh =>
        cases fresh with
        | false => exact follows_ackDelivery (f := id) (hallowed .ackDuplicate)
        | true =>
          refine .perform (hallowed .handle) fun handled => ?_
          cases handled with
          | ok _ => exact follows_ackDelivery (f := id) (hallowed .ackHandled)
          | error err =>
            refine .perform (hallowed (.release err)) fun released => ?_
            cases released with
            | error releaseErr =>
              exact follows_nackDelivery (hallowed (.nackUnreleased err releaseErr))
            | ok _ =>
              change (c.contract delivery).Follows _
                (if c.shouldRetry delivery = true then _ else _)
              by_cases hretry : c.shouldRetry delivery = true
              · rw [if_pos hretry]
                refine .perform (hallowed (.publishRetry err hretry)) fun published => ?_
                cases published with
                | error retryErr =>
                  exact follows_nackDelivery (hallowed (.nackUnpublished err retryErr))
                | ok _ => exact follows_ackDelivery (hallowed (.ackRetried err))
              · rw [if_neg hretry]
                exact follows_nackDelivery
                  (hallowed (.nackExhausted err (Bool.eq_false_iff.mpr hretry)))

/-- A consumer's calls: the rejection of an undecodable delivery, or one of the permitted ones. -/
theorem allowed_cases {call : MessagingCall} (h : (c.contract delivery).allowed trace call) :
    (trace = [] ∧ call = .nack false) ∨
      ∃ event, decodeDelivery delivery = .ok event ∧ c.Permits delivery event trace call := by
  have hmatch := h.2
  cases hdecode : decodeDelivery delivery with
  | error err => exact .inl (by simpa [hdecode] using hmatch)
  | ok event => exact .inr ⟨event, rfl, by simpa [hdecode] using hmatch⟩

end Consumer
/-! ### What a replay does, and when -/

/-- The calls of a replay, each with the exchange right before it. -/
def ReplayPermits (config : DLQReplayConfig) (trace : MessagingTrace) : MessagingCall → Prop
  | .confirmSelect => trace = []
  | .get => trace.getLast? = some ⟨.confirmSelect, .ok ()⟩ ∨ trace.getLast? = some ⟨.ack, .ok ()⟩
  | .publish delivery => ∃ taken : Delivery, trace.getLast? = some ⟨.get, .ok (some taken)⟩ ∧
      delivery = { taken with routingKey := config.routingKey }
  | .ack => ∃ delivery, trace.getLast? = some ⟨.publish delivery, .ok ()⟩
  | .nack requeue => requeue = true ∧
      ∃ delivery err, trace.getLast? = some ⟨.publish delivery, .error err⟩
  | _ => False

section Replay

variable {config : DLQReplayConfig} {K : Contract MessagingCall.Answer (Nat × Except Error Unit)}

theorem replayLoop_follows (hallowed : K.allowed = ReplayPermits config) (hreturns : ∀ trace a, K.returns trace a)
    (left : Nat) : ∀ replayed trace, ReplayPermits config trace .get →
      K.Follows trace (replayLoop config left replayed) := by
  induction left with
  | zero => exact fun replayed trace _ => .ret (hreturns _ _)
  | succ left ih =>
    intro replayed trace hget
    refine .perform (hallowed ▸ hget) fun taken => ?_
    rcases taken with err | _ | delivery
    · exact .ret (hreturns _ _)
    · exact .ret (hreturns _ _)
    · refine .perform (hallowed ▸ ⟨delivery, List.getLast?_concat, rfl⟩) fun published => ?_
      cases published with
      | error err =>
        exact .perform (hallowed ▸ ⟨rfl, _, err, List.getLast?_concat⟩) fun _ => .ret (hreturns _ _)
      | ok _ =>
        refine .perform (hallowed ▸ ⟨_, List.getLast?_concat⟩) fun acked => ?_
        cases acked with
        | error err => exact .ret (hreturns _ _)
        | ok _ => exact ih _ _ (.inr (List.getLast?_concat))

theorem replayDLQ_follows (hallowed : K.allowed = ReplayPermits config) (hreturns : ∀ trace a, K.returns trace a) :
    K.Follows [] (replayDLQ config) := by
  rw [replayDLQ]
  split
  · exact .ret (hreturns _ _)
  · refine .perform (hallowed ▸ rfl) fun selected => ?_
    cases selected with
    | error err => exact .ret (hreturns _ _)
    | ok _ => exact replayLoop_follows hallowed hreturns _ _ _ (.inl (List.getLast?_concat))

end Replay

end FulfillHub
