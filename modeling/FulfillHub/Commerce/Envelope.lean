import FulfillHub.Commerce.Model

/-!
# Envelopes as JSON

`OutboxEvent.MarshalJSON` of `internal/commerce/model.go` and the decoding of its documents. A JSON text is kept as what
it says, a tree whose numbers are decimals. What `encoding/json` makes of the numbers is a parameter: it prints an
integer as it is and a `float64` by some decimal, and it reads every number of a payload as some `float64`. A
`time.Time` is written with its nanoseconds and read back as it was, and it is not written at all from year 10000 on.
-/

namespace FulfillHub

/-! ### Values -/

/-- A JSON text as a tree. -/
inductive Json
  | null
  | bool (b : Bool)
  | str (s : String)
  | num (q : ℚ)
  | arr (values : List Json)
  | obj (fields : List (String × Json))

/-- The conversions of `encoding/json` between decimals and the values of a `float64`. -/
structure JsonNumbers where
  print : ℚ → ℚ
  read : ℚ → ℚ

section Values

variable (numbers : JsonNumbers)

mutual

/-- `json.Marshal` of a payload value. -/
def Value.toJson : Value → Json
  | .null => .null
  | .bool b => .bool b
  | .str s => .str s
  | .num n => .num n
  | .float q => .num (numbers.print q)
  | .arr values => .arr (Value.listToJson values)
  | .obj fields => .obj (Value.fieldsToJson fields)

def Value.listToJson : List Value → List Json
  | [] => []
  | value :: rest => value.toJson :: Value.listToJson rest

def Value.fieldToJson : String × Value → String × Json
  | (key, value) => (key, value.toJson)

def Value.fieldsToJson : List (String × Value) → List (String × Json)
  | [] => []
  | field :: rest => Value.fieldToJson field :: Value.fieldsToJson rest

end

mutual

/-- `json.Unmarshal` into an `any`. -/
def Json.toValue : Json → Value
  | .null => .null
  | .bool b => .bool b
  | .str s => .str s
  | .num q => .float (numbers.read q)
  | .arr values => .arr (Json.listToValue values)
  | .obj fields => .obj (Json.fieldsToValue fields)

def Json.listToValue : List Json → List Value
  | [] => []
  | value :: rest => value.toValue :: Json.listToValue rest

def Json.fieldToValue : String × Json → String × Value
  | (key, value) => (key, value.toValue)

def Json.fieldsToValue : List (String × Json) → List (String × Value)
  | [] => []
  | field :: rest => Json.fieldToValue field :: Json.fieldsToValue rest

end

mutual

/-- The texts of a payload value, its keys included. -/
def Value.texts : Value → List String
  | .null | .bool _ | .num _ | .float _ => []
  | .str s => [s]
  | .arr values => Value.listTexts values
  | .obj fields => Value.fieldsTexts fields

def Value.listTexts : List Value → List String
  | [] => []
  | value :: rest => value.texts ++ Value.listTexts rest

def Value.fieldTexts : String × Value → List String
  | (key, value) => key :: value.texts

def Value.fieldsTexts : List (String × Value) → List String
  | [] => []
  | field :: rest => Value.fieldTexts field ++ Value.fieldsTexts rest

end

theorem Value.lookup_fieldsToJson (fields : List (String × Value)) (key : String) :
    (Value.fieldsToJson numbers fields).lookup key = (fields.lookup key).map (Value.toJson numbers) := by
  induction fields with
  | nil => rfl
  | cons field rest ih =>
    obtain ⟨k, value⟩ := field
    by_cases hkey : key = k
    · simp [Value.fieldsToJson, Value.fieldToJson, hkey]
    · simp [Value.fieldsToJson, Value.fieldToJson, List.lookup_cons, beq_false_of_ne hkey, ih]

theorem Json.lookup_fieldsToValue (fields : List (String × Json)) (key : String) :
    (Json.fieldsToValue numbers fields).lookup key = (fields.lookup key).map (Json.toValue numbers) := by
  induction fields with
  | nil => rfl
  | cons field rest ih =>
    obtain ⟨k, value⟩ := field
    by_cases hkey : key = k
    · simp [Json.fieldsToValue, Json.fieldToValue, hkey]
    · simp [Json.fieldsToValue, Json.fieldToValue, List.lookup_cons, beq_false_of_ne hkey, ih]

/-- A payload as its JSON text is decoded. -/
def reencodedPayload (payload : Payload) : Payload :=
  Json.fieldsToValue numbers (Value.fieldsToJson numbers payload)

/-- The payload is what its JSON text is decoded to. -/
def Reencodes (payload : Payload) : Prop := reencodedPayload numbers payload = payload

theorem length_reencodedPayload (payload : Payload) : (reencodedPayload numbers payload).length = payload.length := by
  unfold reencodedPayload
  induction payload with
  | nil => rfl
  | cons field rest ih => simpa [Value.fieldsToJson, Json.fieldsToValue] using ih

theorem reencodes_defaultEventPayload (event : OutboxEvent) : Reencodes numbers (defaultEventPayload event) := by
  unfold Reencodes reencodedPayload
  cases htype : event.eventType <;> simp only [defaultEventPayload, htype, failurePayload]
  case orderCompleted | orderCancelled => split_ifs <;> rfl
  all_goals rfl

end Values

/-! ### Envelopes -/

/-- The JSON object of an envelope. -/
structure Document where
  messageID : String
  eventType : EventType
  schemaVersion : Int
  occurredAt : Time
  producer : String
  merchantID : String
  orderID : String
  correlationID : String
  causationID : String
  payload : List (String × Json)

def Time.year (t : Time) : Nat := (yearAndDay (t / second / 86400)).1

/-- Whether `time.Time.MarshalJSON` writes an instant. -/
def Time.encodable (t : Time) : Bool := decide (t.year ≤ 9999)

/-- What `json.Marshal` answers for an envelope whose instant is not written. -/
def errYearRange : Error := .plain ("json: error calling MarshalJSON for type commerce.OutboxEvent: " ++
  "json: error calling MarshalJSON for type time.Time: Time.MarshalJSON: year outside of range [0,9999]")

namespace OutboxEvent

/-- The texts of an envelope, which its document holds. -/
def texts (e : OutboxEvent) : List String :=
  [e.messageID, e.eventType.text, e.producer, e.merchantID, e.orderID, e.correlationID, e.causationID] ++
    Value.fieldsTexts e.payload

variable (numbers : JsonNumbers)

/-- `json.Marshal` of an envelope. -/
def marshalJSON (e : OutboxEvent) : Except Error Document :=
  let normalized := e.withEnvelopeDefaults
  if normalized.occurredAt.encodable then
    .ok {
      messageID := normalized.messageID
      eventType := normalized.eventType
      schemaVersion := normalized.schemaVersion
      occurredAt := normalized.occurredAt
      producer := normalized.producer
      merchantID := normalized.merchantID
      orderID := normalized.orderID
      correlationID := normalized.correlationID
      causationID := normalized.causationID
      payload := Value.fieldsToJson numbers normalized.payload }
  else .error errYearRange

end OutboxEvent

/-- `json.Unmarshal` into an `OutboxEvent`. -/
def Document.unmarshal (numbers : JsonNumbers) (d : Document) : OutboxEvent where
  messageID := d.messageID
  eventType := d.eventType
  schemaVersion := d.schemaVersion
  occurredAt := d.occurredAt
  producer := d.producer
  merchantID := d.merchantID
  orderID := d.orderID
  correlationID := d.correlationID
  causationID := d.causationID
  payload := Json.fieldsToValue numbers d.payload

namespace OutboxEvent

variable {numbers : JsonNumbers} (e : OutboxEvent)

@[simp] theorem withEnvelopeDefaults_occurredAt : e.withEnvelopeDefaults.occurredAt = e.occurredAt := by
  simp only [withEnvelopeDefaults, withDefaultCausation]
  split_ifs <;> rfl

theorem withEnvelopeDefaults_eq : e.withEnvelopeDefaults = { e with
    causationID := if e.causationID = "" then e.messageID else e.causationID
    schemaVersion := if e.schemaVersion = 0 then eventSchemaVersion else e.schemaVersion
    producer := if e.producer = "" then producerForEventType e.eventType else e.producer
    payload := if e.payload.length = 0 then defaultEventPayload e else e.payload } := by
  simp only [withEnvelopeDefaults, withDefaultCausation]
  split_ifs <;> rfl

@[simp] theorem withEnvelopeDefaults_schemaVersion : e.withEnvelopeDefaults.schemaVersion =
    if e.schemaVersion = 0 then eventSchemaVersion else e.schemaVersion := by
  rw [withEnvelopeDefaults_eq]

variable {e} in
theorem schemaVersion_of_supported (h : e.schemaVersion = 0 ∨ e.schemaVersion = 1) :
    e.withEnvelopeDefaults.schemaVersion = eventSchemaVersion := by
  rw [withEnvelopeDefaults_schemaVersion]
  rcases h with h | h <;> rw [h] <;> rfl

theorem producerForEventType_ne_empty (eventType : EventType) : producerForEventType eventType ≠ "" := by
  cases eventType <;> simp [producerForEventType]

theorem withEnvelopeDefaults_idem : e.withEnvelopeDefaults.withEnvelopeDefaults = e.withEnvelopeDefaults := by
  have hproducer := producerForEventType_ne_empty e.eventType
  have hversion : eventSchemaVersion ≠ 0 := by decide
  have hpayload : defaultEventPayload e.withEnvelopeDefaults = defaultEventPayload e := by
    rw [withEnvelopeDefaults_eq]
    rfl
  rw [withEnvelopeDefaults_eq e.withEnvelopeDefaults, hpayload, withEnvelopeDefaults_eq e]
  congr 1 <;> split_ifs <;> simp_all

/-- Defaults are filled in before an envelope is written, whether they were there or not. -/
theorem marshalJSON_withEnvelopeDefaults : e.withEnvelopeDefaults.marshalJSON numbers = e.marshalJSON numbers := by
  rw [marshalJSON, marshalJSON, withEnvelopeDefaults_idem]

/-- The event with its payload as JSON keeps it. -/
def reencoded (numbers : JsonNumbers) (e : OutboxEvent) : OutboxEvent :=
  { e with payload := reencodedPayload numbers e.payload }

variable {e} in
theorem reencoded_eq_self (h : Reencodes numbers e.payload) : e.reencoded numbers = e := by
  rw [reencoded, h]

theorem reencoded_withEnvelopeDefaults (numbers : JsonNumbers) :
    e.withEnvelopeDefaults.reencoded numbers = (e.reencoded numbers).withEnvelopeDefaults := by
  have hdefault : reencodedPayload numbers (defaultEventPayload e) = defaultEventPayload e :=
    reencodes_defaultEventPayload numbers e
  rw [reencoded, withEnvelopeDefaults_eq, withEnvelopeDefaults_eq]
  simp only [reencoded, length_reencodedPayload]
  congr 1
  split_ifs
  · exact hdefault
  · rfl

variable {e} in
/-- An envelope that is written is read back with its defaults, and with its payload as JSON keeps it. -/
theorem unmarshal_of_marshalJSON {d : Document} (hd : e.marshalJSON numbers = .ok d) :
    d.unmarshal numbers = (e.reencoded numbers).withEnvelopeDefaults := by
  rw [← reencoded_withEnvelopeDefaults]
  simp only [marshalJSON] at hd
  split_ifs at hd
  cases hd
  rfl

variable {e} in
theorem payload_of_marshalJSON {d : Document} (hd : e.marshalJSON numbers = .ok d) :
    d.payload = Value.fieldsToJson numbers e.withEnvelopeDefaults.payload := by
  simp only [marshalJSON] at hd
  split_ifs at hd
  cases hd
  rfl

variable {e} in
theorem exists_marshalJSON (numbers : JsonNumbers) (h : e.occurredAt.encodable = true) :
    ∃ d, e.marshalJSON numbers = .ok d := by
  simp [marshalJSON, h]

end OutboxEvent

/-! ### Texts without NUL -/

namespace Text

@[simp] theorem nulFree_append (s t : String) : nulFree (s ++ t) = (nulFree s && nulFree t) := by
  simp [nulFree]

theorem nulFree_ofList {chars : List Char} (h : ∀ c ∈ chars, c.isDigit = true) :
    nulFree (String.ofList chars) = true := by
  simp only [nulFree, String.toList_ofList, List.all_eq_true, decide_eq_true_eq]
  intro c hc hzero
  have hdigit := h c hc
  simp only [Char.isDigit, ge_iff_le, Bool.and_eq_true, decide_eq_true_eq, UInt32.le_iff_toNat_le] at hdigit
  have hle : 48 ≤ c.toNat := hdigit.1
  omega

theorem isDigit_of_mem_pad {width n : Nat} {c : Char} (h : c ∈ (pad width n).toList) : c.isDigit = true := by
  rw [pad, String.toList_append, String.toList_ofList, List.mem_append] at h
  rcases h with hzero | hdigit
  · rw [List.eq_of_mem_replicate hzero]
    decide
  · rw [Nat.toString_eq_ofList_toDigits, String.toList_ofList] at hdigit
    exact Nat.isDigit_of_mem_toDigits (by decide) (by decide) hdigit

@[simp] theorem nulFree_pad (width n : Nat) : nulFree (pad width n) = true := by
  rw [← String.ofList_toList (s := pad width n)]
  exact nulFree_ofList fun c hc => isDigit_of_mem_pad hc

end Text

theorem Time.nulFree_fraction (nanos : Nat) : Text.nulFree (fraction nanos) = true := by
  unfold fraction
  split_ifs
  · decide
  · rw [Text.nulFree_append, Bool.and_eq_true]
    refine ⟨by decide, Text.nulFree_ofList fun c hc => ?_⟩
    rw [List.mem_reverse] at hc
    exact Text.isDigit_of_mem_pad (List.mem_reverse.mp (List.dropWhile_subset _ hc))

theorem Time.nulFree_formatRFC3339Nano (t : Time) : Text.nulFree (formatRFC3339Nano t) = true := by
  simp only [formatRFC3339Nano, Text.nulFree_append, Text.nulFree_pad, Time.nulFree_fraction]
  decide

theorem nulFree_defaultEventPayload (event : OutboxEvent) :
    (Value.fieldsTexts (defaultEventPayload event)).all Text.nulFree = true := by
  cases htype : event.eventType <;> simp only [defaultEventPayload, htype, failurePayload]
  case orderCompleted | orderCancelled =>
    split_ifs
    · decide
    · simp only [Value.fieldsTexts, Value.fieldTexts, Value.texts, List.cons_append, List.nil_append, List.append_nil,
        List.all_cons, Time.nulFree_formatRFC3339Nano]
      decide
  all_goals decide

theorem OutboxEvent.nulFree_withEnvelopeDefaults {e : OutboxEvent} (h : e.texts.all Text.nulFree = true) :
    e.withEnvelopeDefaults.texts.all Text.nulFree = true := by
  have hproducer : Text.nulFree (producerForEventType e.eventType) = true := by
    cases e.eventType <;> (simp only [producerForEventType]; decide)
  have hpayload := nulFree_defaultEventPayload e
  rw [withEnvelopeDefaults_eq]
  simp only [texts, List.all_append, List.all_cons, List.all_nil, Bool.and_eq_true, Bool.and_true] at h ⊢
  obtain ⟨⟨hmessage, htype, hownProducer, hmerchant, horder, hcorrelation, hcausation⟩, hown⟩ := h
  refine ⟨⟨hmessage, htype, ?_, hmerchant, horder, hcorrelation, ?_⟩, ?_⟩
  · split_ifs <;> assumption
  · split_ifs <;> assumption
  · split_ifs <;> assumption

end FulfillHub
