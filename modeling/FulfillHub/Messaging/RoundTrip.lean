import FulfillHub.Commerce.Envelope
import FulfillHub.Messaging.Hops
import FulfillHub.Postgres.Reservation

/-!
# The way of an envelope

An event is stored by `insertOutboxEvent`, read by `scanOutboxEvent`, published by `RabbitPublisher.Publish` and decoded
by `decodeDelivery`. Every station fills gaps, each from its own sources: the columns beside the stored document, the
properties and headers beside the published one. All of them were written from the same normalised event, so none of
them finds a gap that it could fill with anything else. The table takes an event whose order is stored, whose id is new
and whose texts hold no NUL.
-/

namespace FulfillHub

open Interaction Relational

/-! ### The stations -/

/-- A row of `outbox_events` with the columns that the relay reads. -/
structure StoredEnvelope where
  messageID : String
  correlationID : String
  causationID : String
  eventType : EventType
  orderID : String
  merchantID : String
  payload : Document
  occurredAt : Time

/-- The message of a normalised event. -/
def messageOf (event : OutboxEvent) (body : Document) (now : Time) : Message Document where
  routingKey := routingKey event.eventType
  contentType := "application/json"
  messageID := event.messageID
  correlationID := event.correlationID
  timestamp := now
  type := event.eventType
  headers := [("causation_id", .str event.causationID), ("merchant_id", .str event.merchantID),
    ("order_id", .str event.orderID)]
  body := body

section Stations

variable (numbers : JsonNumbers)

/-- The values of the `INSERT` of `insertOutboxEvent`. -/
def outboxRow (event : OutboxEvent) : Except Error StoredEnvelope := do
  let event := event.withEnvelopeDefaults
  let payload ← (event.marshalJSON numbers).mapError (Error.within "marshal outbox event")
  pure {
    messageID := event.messageID
    correlationID := event.correlationID
    causationID := event.causationID
    eventType := event.eventType
    orderID := event.orderID
    merchantID := event.merchantID
    payload := payload
    occurredAt := timestamptz event.occurredAt }

/-- `insertOutboxEvent` with the row it leaves. The texts of the columns stand in the document as well. -/
def insertOutboxRow (db : Database) (event : OutboxEvent) : Except Error (StoredEnvelope × Database) := do
  let row ← outboxRow numbers event
  ensure (event.withEnvelopeDefaults.texts.all Text.nulFree) (PgError.unsupportedEscape.within "insert outbox event")
  let db ← db.insertOutboxEvent event
  pure (row, db)

/-- A row that has a document, as every row has. -/
def scanOutboxEvent (event : StoredEnvelope) : OutboxEvent :=
  let envelope := event.payload.unmarshal numbers
  OutboxEvent.withEnvelopeDefaults { envelope with
    messageID := if envelope.messageID = "" then event.messageID else envelope.messageID
    correlationID := if envelope.correlationID = "" then event.correlationID else envelope.correlationID
    causationID := if envelope.causationID = "" then event.causationID else envelope.causationID
    eventType := if envelope.eventType.text = "" then event.eventType else envelope.eventType
    orderID := if envelope.orderID = "" then event.orderID else envelope.orderID
    merchantID := if envelope.merchantID = "" then event.merchantID else envelope.merchantID
    occurredAt := if Time.isZero envelope.occurredAt then event.occurredAt else envelope.occurredAt }

/-- What `RabbitPublisher.Publish` publishes. -/
def publishedMessage (event : OutboxEvent) (now : Time) : Except Error (Message Document) := do
  let event := event.withEnvelopeDefaults
  let body ← (event.marshalJSON numbers).mapError (Error.within "marshal event")
  pure (messageOf event body now)

/-- The delivery of a published document. -/
def deliveryOf (m : Message Document) : Delivery := m.delivery fun d => .ok (d.unmarshal numbers)

/-- The way of an event from its insertion to the consumer that decodes it. -/
def travel (db : Database) (now : Time) (event : OutboxEvent) : Except Error OutboxEvent := do
  let (row, _) ← insertOutboxRow numbers db event
  let m ← publishedMessage numbers (scanOutboxEvent numbers row) now
  decodeDelivery (deliveryOf numbers m)

end Stations

/-- The order of the event is stored and its id is new. -/
structure Database.Takes (db : Database) (event : OutboxEvent) : Prop where
  order : (db.order? event.orderID).isSome = true
  fresh : ∀ old ∈ db.outboxEvents.rows, old.messageID ≠ event.messageID

/-- What an event on its way has to be like: of the version the consumers support, with an instant that can be written,
a payload that JSON keeps, and texts without NUL. -/
structure OutboxEvent.Portable (numbers : JsonNumbers) (event : OutboxEvent) : Prop where
  version : event.schemaVersion = 0 ∨ event.schemaVersion = 1
  encodable : event.occurredAt.encodable = true
  reencodes : Reencodes numbers event.payload
  plain : event.texts.all Text.nulFree = true

variable {numbers : JsonNumbers} {event : OutboxEvent} {db : Database}

/-! ### Each station -/

variable {row : StoredEnvelope}

section Normal

variable {normal : OutboxEvent}

theorem scanOutboxEvent_of_columns (hdocument : row.payload.unmarshal numbers = normal)
    (hdefaults : normal.withEnvelopeDefaults = normal) (hmessage : row.messageID = normal.messageID)
    (hcorrelation : row.correlationID = normal.correlationID) (hcausation : row.causationID = normal.causationID)
    (htype : row.eventType = normal.eventType) (horder : row.orderID = normal.orderID)
    (hmerchant : row.merchantID = normal.merchantID) (hoccurred : row.occurredAt = timestamptz normal.occurredAt) :
    scanOutboxEvent numbers row = normal := by
  have hzero : (if Time.isZero normal.occurredAt then timestamptz normal.occurredAt else normal.occurredAt) =
      normal.occurredAt := by
    split_ifs with h
    · rw [beq_iff_eq.mp h]
      rfl
    · rfl
  simp only [scanOutboxEvent, hdocument, hmessage, hcorrelation, hcausation, htype, horder, hmerchant, hoccurred, hzero,
    ite_self]
  exact hdefaults

/-- The properties and headers agree with the document, so nothing is filled in from them. -/
theorem fill_of_properties {delivery : Delivery} (hmessage : delivery.messageID = normal.messageID)
    (hcorrelation : delivery.correlationID = normal.correlationID) (htype : delivery.type = normal.eventType)
    (hheader : delivery.causationHeader = normal.causationID) (hcausation : normal.causationID = "" → normal.messageID = "")
    (hversion : normal.schemaVersion ≠ 0) : delivery.fill normal = normal := by
  have hkept : (if normal.causationID = "" then
      firstNonEmpty [normal.causationID, normal.messageID, normal.messageID] else normal.causationID) =
      normal.causationID := by
    split_ifs with h
    · rw [h, hcausation h]
      rfl
    · rfl
  simp only [Delivery.fill, hmessage, hcorrelation, htype, hheader, hkept, ite_self, if_neg hversion]

end Normal

theorem scanOutboxEvent_of_outboxRow (hrow : outboxRow numbers event = .ok row) :
    scanOutboxEvent numbers row = (event.reencoded numbers).withEnvelopeDefaults := by
  obtain ⟨document, hdocument, hrow⟩ := bind_eq_ok.mp hrow
  cases hrow
  rw [mapError_eq_ok, OutboxEvent.marshalJSON_withEnvelopeDefaults] at hdocument
  rw [← OutboxEvent.reencoded_withEnvelopeDefaults]
  refine scanOutboxEvent_of_columns ?_ ?_ rfl rfl rfl rfl rfl rfl rfl
  · rw [OutboxEvent.unmarshal_of_marshalJSON hdocument, OutboxEvent.reencoded_withEnvelopeDefaults]
  · rw [OutboxEvent.reencoded_withEnvelopeDefaults, OutboxEvent.withEnvelopeDefaults_idem]

theorem deliveryOf_publishedMessage {now : Time} {m : Message Document}
    (hm : publishedMessage numbers event now = .ok m) :
    deliveryOf numbers m = publication (event.reencoded numbers) := by
  obtain ⟨document, hdocument, hm⟩ := bind_eq_ok.mp hm
  obtain rfl := Except.ok.inj hm
  rw [mapError_eq_ok, OutboxEvent.marshalJSON_withEnvelopeDefaults] at hdocument
  simp only [deliveryOf, Message.delivery, messageOf, OutboxEvent.unmarshal_of_marshalJSON hdocument, publication,
    OutboxEvent.withEnvelopeDefaults_messageID, OutboxEvent.withEnvelopeDefaults_eventType,
    OutboxEvent.withEnvelopeDefaults_correlationID, OutboxEvent.withEnvelopeDefaults_causationID]
  rfl

theorem payload_of_outboxRow (hrow : outboxRow numbers event = .ok row) :
    row.payload.payload = Value.fieldsToJson numbers event.withEnvelopeDefaults.payload := by
  obtain ⟨document, hdocument, hrow⟩ := bind_eq_ok.mp hrow
  cases hrow
  rw [mapError_eq_ok, OutboxEvent.marshalJSON_withEnvelopeDefaults] at hdocument
  exact OutboxEvent.payload_of_marshalJSON hdocument

theorem payload_of_publishedMessage {now : Time} {m : Message Document}
    (hm : publishedMessage numbers event now = .ok m) :
    m.body.payload = Value.fieldsToJson numbers event.withEnvelopeDefaults.payload := by
  obtain ⟨document, hdocument, hm⟩ := bind_eq_ok.mp hm
  obtain rfl := Except.ok.inj hm
  rw [mapError_eq_ok, OutboxEvent.marshalJSON_withEnvelopeDefaults] at hdocument
  exact OutboxEvent.payload_of_marshalJSON hdocument

theorem decodeDelivery_publication (hversion : event.schemaVersion = 0 ∨ event.schemaVersion = 1) :
    decodeDelivery (publication event) = .ok event.withEnvelopeDefaults := by
  have hnormal := OutboxEvent.schemaVersion_of_supported hversion
  have hcausation : event.withEnvelopeDefaults.causationID = "" → event.withEnvelopeDefaults.messageID = "" := by
    rw [OutboxEvent.withEnvelopeDefaults_causationID, OutboxEvent.withEnvelopeDefaults_messageID]
    split_ifs with h <;> simp [h]
  have hfill : (publication event).fill event.withEnvelopeDefaults = event.withEnvelopeDefaults :=
    fill_of_properties rfl rfl rfl rfl hcausation (by rw [hnormal]; decide)
  refine decodeDelivery_eq_ok.mpr ⟨event.withEnvelopeDefaults, rfl, ?_, ?_⟩
  · rw [hfill, hnormal]
  · rw [hfill, OutboxEvent.withEnvelopeDefaults_idem]

/-! ### The whole way -/

section Written

variable (numbers) (htime : event.occurredAt.encodable = true)

include htime

theorem exists_marshalJSON_normalised (context : String) : ∃ document,
    (event.withEnvelopeDefaults.marshalJSON numbers).mapError (Error.within context) = .ok document := by
  obtain ⟨document, hdocument⟩ := OutboxEvent.exists_marshalJSON numbers htime
  exact ⟨document, mapError_eq_ok.mpr ((event.marshalJSON_withEnvelopeDefaults).trans hdocument)⟩

theorem exists_outboxRow : ∃ row, outboxRow numbers event = .ok row := by
  obtain ⟨document, hdocument⟩ := exists_marshalJSON_normalised numbers htime "marshal outbox event"
  exact ⟨_, bind_eq_ok.mpr ⟨document, hdocument, rfl⟩⟩

theorem exists_publishedMessage (now : Time) : ∃ m, publishedMessage numbers event now = .ok m := by
  obtain ⟨document, hdocument⟩ := exists_marshalJSON_normalised numbers htime "marshal event"
  exact ⟨_, bind_eq_ok.mpr ⟨document, hdocument, rfl⟩⟩

end Written

/-- An event arrives with its defaults, and with its payload as JSON keeps it the second time. -/
theorem travel_eq (numbers : JsonNumbers) (hversion : event.schemaVersion = 0 ∨ event.schemaVersion = 1)
    (htime : event.occurredAt.encodable = true) (now : Time) :
    ∃ row m, outboxRow numbers event = .ok row ∧
      scanOutboxEvent numbers row = (event.reencoded numbers).withEnvelopeDefaults ∧
      publishedMessage numbers (scanOutboxEvent numbers row) now = .ok m ∧
      decodeDelivery (deliveryOf numbers m) = .ok ((event.reencoded numbers).reencoded numbers).withEnvelopeDefaults := by
  obtain ⟨row, hrow⟩ := exists_outboxRow numbers htime
  have hscan := scanOutboxEvent_of_outboxRow hrow
  obtain ⟨m, hm⟩ : ∃ m, publishedMessage numbers (scanOutboxEvent numbers row) now = .ok m := by
    rw [hscan]
    exact exists_publishedMessage numbers (by rwa [OutboxEvent.withEnvelopeDefaults_occurredAt]) now
  refine ⟨row, m, hrow, hscan, hm, ?_⟩
  have hsupported : (event.reencoded numbers).withEnvelopeDefaults.schemaVersion = eventSchemaVersion :=
    OutboxEvent.schemaVersion_of_supported hversion
  rw [deliveryOf_publishedMessage hm, hscan, OutboxEvent.reencoded_withEnvelopeDefaults, decodeDelivery_publication,
    OutboxEvent.withEnvelopeDefaults_idem]
  rw [← OutboxEvent.reencoded_withEnvelopeDefaults]
  exact .inr hsupported

theorem insertOutboxRow_eq_ok (htakes : db.Takes event) (hencodable : event.occurredAt.encodable = true)
    (hplain : event.texts.all Text.nulFree = true) (hrow : outboxRow numbers event = .ok row) :
    ∃ db', insertOutboxRow numbers db event = .ok (row, db') := by
  obtain ⟨outboxEvents, hinsert⟩ := db.insertOutboxEvent_succeeds event hencodable htakes.fresh htakes.order
  exact ⟨_, bind_eq_ok.mpr ⟨row, hrow, bind_eq_ok.mpr ⟨(),
    ensure_eq_ok.mpr (OutboxEvent.nulFree_withEnvelopeDefaults hplain), bind_eq_ok.mpr ⟨_, hinsert, rfl⟩⟩⟩⟩

theorem travel_of_portable (h : event.Portable numbers) (htakes : db.Takes event) (now : Time) :
    travel numbers db now event = .ok event.withEnvelopeDefaults := by
  obtain ⟨row, m, hrow, -, hm, hdecode⟩ := travel_eq numbers h.version h.encodable now
  obtain ⟨db', hinserted⟩ := insertOutboxRow_eq_ok htakes h.encodable h.plain hrow
  rw [OutboxEvent.reencoded_eq_self h.reencodes, OutboxEvent.reencoded_eq_self h.reencodes] at hdecode
  exact bind_eq_ok.mpr ⟨(row, db'), hinserted, bind_eq_ok.mpr ⟨m, hm, hdecode⟩⟩

theorem OutboxEvent.Portable.withEnvelopeDefaults (h : event.Portable numbers) :
    event.withEnvelopeDefaults.Portable numbers where
  version := .inr (OutboxEvent.schemaVersion_of_supported h.version)
  encodable := by
    rw [OutboxEvent.withEnvelopeDefaults_occurredAt]
    exact h.encodable
  reencodes := by
    have hsame := event.reencoded_withEnvelopeDefaults numbers
    rw [OutboxEvent.reencoded_eq_self h.reencodes] at hsame
    exact congrArg OutboxEvent.payload hsame
  plain := OutboxEvent.nulFree_withEnvelopeDefaults h.plain

theorem Database.Takes.withEnvelopeDefaults (h : db.Takes event) : db.Takes event.withEnvelopeDefaults where
  order := by
    rw [OutboxEvent.withEnvelopeDefaults_orderID]
    exact h.order
  fresh := by
    rw [OutboxEvent.withEnvelopeDefaults_messageID]
    exact h.fresh

/-- What a stored event had to be like. -/
theorem storable_of_insertOutboxRow {stored : StoredEnvelope × Database}
    (h : insertOutboxRow numbers db event = .ok stored) : event.occurredAt.encodable = true ∧
      event.withEnvelopeDefaults.texts.all Text.nulFree = true ∧ (db.order? event.orderID).isSome = true := by
  obtain ⟨row, -, h⟩ := bind_eq_ok.mp h
  obtain ⟨_, hplain, h⟩ := bind_eq_ok.mp h
  obtain ⟨db', hinsert, -⟩ := bind_eq_ok.mp h
  obtain ⟨outboxEvents, hencodable, -, horder, -⟩ := Database.insertOutboxEvent_eq_ok hinsert
  exact ⟨hencodable, ensure_eq_ok.mp hplain, horder⟩

theorem travel_of_unstorable (numbers : JsonNumbers) (now : Time) (h : ¬ (event.occurredAt.encodable = true ∧
      event.withEnvelopeDefaults.texts.all Text.nulFree = true ∧ (db.order? event.orderID).isSome = true)) :
    ∃ err, travel numbers db now event = .error err := by
  cases hinserted : insertOutboxRow numbers db event with
  | error err => exact ⟨err, by simp only [travel, hinserted, bind, Except.bind]⟩
  | ok stored => exact absurd (storable_of_insertOutboxRow hinserted) h

theorem decodeDelivery_of_otherVersion {delivery : Delivery} (hbody : delivery.body = .ok event)
    (hzero : event.schemaVersion ≠ 0) (hversion : event.schemaVersion ≠ eventSchemaVersion) :
    decodeDelivery delivery = .error (.plain ("unsupported event schema version " ++ toString event.schemaVersion)) := by
  simp [decodeDelivery, hbody, Delivery.fill, hzero, hversion]

/-- **The way of an envelope is the filling in of its defaults.** -/
theorem envelope_round_trip (h : event.Portable numbers) :
    (∀ db now, db.Takes event → travel numbers db now event = .ok event.withEnvelopeDefaults) ∧
      event.withEnvelopeDefaults.withEnvelopeDefaults = event.withEnvelopeDefaults ∧
      event.withEnvelopeDefaults.marshalJSON numbers = event.marshalJSON numbers ∧
      (∀ (first : Database × Time) (hops : List (Database × Time)), (∀ hop ∈ first :: hops, hop.1.Takes event) →
        (first :: hops).foldlM (fun e hop => travel numbers hop.1 hop.2 e) event = .ok event.withEnvelopeDefaults) ∧
      ∀ (other : OutboxEvent) (delivery : Delivery), other.schemaVersion ≠ 0 → other.schemaVersion ≠ 1 →
        delivery.body = .ok other → ∃ err, decodeDelivery delivery = .error err := by
  have hagain : ∀ hops : List (Database × Time), (∀ hop ∈ hops, hop.1.Takes event) →
      hops.foldlM (fun e hop => travel numbers hop.1 hop.2 e) event.withEnvelopeDefaults =
        .ok event.withEnvelopeDefaults := by
    intro hops htakes
    induction hops with
    | nil => rfl
    | cons hop hops ih =>
      obtain ⟨hfirst, hrest⟩ := List.forall_mem_cons.mp htakes
      have htravel := travel_of_portable h.withEnvelopeDefaults hfirst.withEnvelopeDefaults hop.2
      rw [OutboxEvent.withEnvelopeDefaults_idem] at htravel
      rw [List.foldlM_cons]
      exact bind_eq_ok.mpr ⟨_, htravel, ih hrest⟩
  refine ⟨fun db now htakes => travel_of_portable h htakes now, event.withEnvelopeDefaults_idem,
    event.marshalJSON_withEnvelopeDefaults, ?_, ?_⟩
  · intro first hops htakes
    obtain ⟨hfirst, hrest⟩ := List.forall_mem_cons.mp htakes
    rw [List.foldlM_cons]
    exact bind_eq_ok.mpr ⟨_, travel_of_portable h hfirst first.2, hagain hops hrest⟩
  · intro other delivery hzero hone hbody
    exact ⟨_, decodeDelivery_of_otherVersion hbody hzero hone⟩

/-- An event with gaps wherever there can be one, and a note in its payload. -/
def gappedEvent (orderID note : String) (occurredAt : Time) : OutboxEvent :=
  ⟨"msg_1", .untyped, 0, occurredAt, "", "", orderID, "", "", [("attempts", .float 3), ("note", .str note)]⟩

theorem takes_shop (note : String) (occurredAt : Time) :
    (Database.shop "w1" 0 .empty).Takes (gappedEvent "ord_1" note occurredAt) where
  order := rfl
  fresh := by simp [Database.shop, Table.empty]

theorem portable_gappedEvent : (gappedEvent "ord_1" "retry" 0).Portable ⟨id, id⟩ where
  version := .inl rfl
  encodable := by decide
  reencodes := rfl
  plain := by decide

theorem envelope_round_trip_gapped : travel ⟨id, id⟩ (Database.shop "w1" 0 .empty) 5 (gappedEvent "ord_1" "retry" 0) =
    .ok (gappedEvent "ord_1" "retry" 0).withEnvelopeDefaults :=
  (envelope_round_trip portable_gappedEvent).1 _ 5 (takes_shop "retry" 0)

/-- The first instant of year 10000. -/
def year10000 : Time := 3652059 * 86400 * Time.second

/-- An event of year 10000 is not stored, nor is one with a NUL in its payload or one of an order without a row. -/
theorem envelope_not_written :
    (Reencodes ⟨id, id⟩ (gappedEvent "ord_1" "retry" year10000).payload ∧
      ∃ err, travel ⟨id, id⟩ (Database.shop "w1" 0 .empty) 5 (gappedEvent "ord_1" "retry" year10000) = .error err) ∧
    (Reencodes ⟨id, id⟩ (gappedEvent "ord_1" "\x00" 0).payload ∧
      ∃ err, travel ⟨id, id⟩ (Database.shop "w1" 0 .empty) 5 (gappedEvent "ord_1" "\x00" 0) = .error err) ∧
    (Reencodes ⟨id, id⟩ (gappedEvent "" "retry" 0).payload ∧
      ∃ err, travel ⟨id, id⟩ (Database.shop "w1" 0 .empty) 5 (gappedEvent "" "retry" 0) = .error err) :=
  ⟨⟨rfl, travel_of_unstorable _ 5 (by decide)⟩, ⟨rfl, travel_of_unstorable _ 5 (by decide)⟩,
    ⟨rfl, travel_of_unstorable _ 5 (by decide)⟩⟩

end FulfillHub
