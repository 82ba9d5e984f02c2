import FulfillHub.Commerce.Totals
import FulfillHub.Library.Float64
import FulfillHub.Messaging.RoundTrip

/-!
# Amounts on their way

The amounts of an event are integers where the service and the store put them, and JSON writes them as they are. The
relay decodes the payload into a `map[string]any` before it publishes the event, so the amount goes on as the nearest
`float64`, is printed as the shortest decimal of that, and is decoded once more. The total of an order survives this
when it is a `float64` and has no shorter decimal.
-/

namespace FulfillHub

/-! ### Places in a payload -/

def Value.number? : Value → Option ℚ
  | .num n => some n
  | .float q => some q
  | _ => none

def Json.number? : Json → Option ℚ
  | .num q => some q
  | _ => none

/-- The value at a path of keys. -/
def Value.at? : Payload → List String → Option Value
  | _, [] => none
  | payload, [key] => payload.lookup key
  | payload, key :: path =>
    match payload.lookup key with
    | some (.obj fields) => Value.at? fields path
    | _ => none

def Json.at? : List (String × Json) → List String → Option Json
  | _, [] => none
  | fields, [key] => fields.lookup key
  | fields, key :: path =>
    match fields.lookup key with
    | some (.obj inner) => Json.at? inner path
    | _ => none

section Paths

variable (numbers : JsonNumbers)

theorem Json.at?_fieldsToJson (payload : Payload) (path : List String) :
    Json.at? (Value.fieldsToJson numbers payload) path = (Value.at? payload path).map (Value.toJson numbers) := by
  induction path generalizing payload with
  | nil => rfl
  | cons key path ih =>
    cases path with
    | nil => exact Value.lookup_fieldsToJson numbers payload key
    | cons next path =>
      simp only [Json.at?, Value.at?, Value.lookup_fieldsToJson]
      cases payload.lookup key with
      | none => rfl
      | some value =>
        cases value <;> first | rfl | exact ih _

theorem Value.at?_fieldsToValue (fields : List (String × Json)) (path : List String) :
    Value.at? (Json.fieldsToValue numbers fields) path = (Json.at? fields path).map (Json.toValue numbers) := by
  induction path generalizing fields with
  | nil => rfl
  | cons key path ih =>
    cases path with
    | nil => exact Json.lookup_fieldsToValue numbers fields key
    | cons next path =>
      simp only [Json.at?, Value.at?, Json.lookup_fieldsToValue]
      cases fields.lookup key with
      | none => rfl
      | some value =>
        cases value <;> first | rfl | exact ih _

theorem Value.at?_reencodedPayload (payload : Payload) (path : List String) :
    Value.at? (reencodedPayload numbers payload) path =
      (Value.at? payload path).map fun value => (value.toJson numbers).toValue numbers := by
  rw [reencodedPayload, Value.at?_fieldsToValue, Json.at?_fieldsToJson, Option.map_map]
  rfl

end Paths

/-! ### The stages -/

section Stages

variable (numbers : JsonNumbers)

/-- The number at a place of the payload is the same integer at every stage: as built, in the stored document, as
scanned, in the published body, and as decoded. -/
structure AmountKept (path : List String) (n : ℤ) (event : OutboxEvent) (row : StoredEnvelope) (m : Message Document)
    (decoded : OutboxEvent) : Prop where
  built : (Value.at? event.payload path).bind Value.number? = some (n : ℚ)
  stored : (Json.at? row.payload.payload path).bind Json.number? = some (n : ℚ)
  scanned : (Value.at? (scanOutboxEvent numbers row).payload path).bind Value.number? = some (n : ℚ)
  published : (Json.at? m.body.payload path).bind Json.number? = some (n : ℚ)
  decoded : (Value.at? decoded.payload path).bind Value.number? = some (n : ℚ)

/-- The event passes all stages, and keeps its amount in all of them. -/
def AmountSurvives (path : List String) (n : ℤ) (event : OutboxEvent) (now : Time) : Prop :=
  ∃ row m decoded, outboxRow numbers event = .ok row ∧
    publishedMessage numbers (scanOutboxEvent numbers row) now = .ok m ∧
    decodeDelivery (deliveryOf numbers m) = .ok decoded ∧ AmountKept numbers path n event row m decoded

/-- `encoding/json` reads a number as the nearest `float64` and prints a `float64` by its shortest decimal. -/
structure JsonNumbers.IsFloat64 : Prop where
  read : ∀ n : ℤ, n.natAbs < 2 ^ 64 → numbers.read n = (Float64.nearest n : ℤ)
  print : ∀ n : ℤ, n.natAbs < 2 ^ 64 → Float64.nearest n = n →
    ∃ decimal : ℤ, numbers.print n = decimal ∧ Float64.IsShortest n decimal

end Stages

variable {numbers : JsonNumbers} {path : List String} {n : ℤ} {event : OutboxEvent} {value : Value}

theorem Value.at?_withEnvelopeDefaults (h : Value.at? event.payload path = some value) :
    Value.at? event.withEnvelopeDefaults.payload path = some value := by
  rw [OutboxEvent.withEnvelopeDefaults_payload, h]
  intro hempty
  rw [hempty] at h
  cases path with
  | nil => cases h
  | cons key path => cases path <;> cases h

theorem Value.at?_reencoded (numbers : JsonNumbers) (h : Value.at? event.payload path = some value) :
    Value.at? (event.reencoded numbers).payload path = some ((value.toJson numbers).toValue numbers) := by
  rw [OutboxEvent.reencoded, Value.at?_reencodedPayload, h, Option.map_some]

/-- An integer survives exactly when both conversions give it back, and the first one again. -/
theorem amountSurvives_iff_conversions (hversion : event.schemaVersion = 0 ∨ event.schemaVersion = 1)
    (htime : event.occurredAt.encodable = true) (hvalue : Value.at? event.payload path = some (.num n)) (now : Time) :
    AmountSurvives numbers path n event now ↔ numbers.read n = n ∧ numbers.print (numbers.read n) = n ∧
      numbers.read (numbers.print (numbers.read n)) = n := by
  obtain ⟨row, m, hrow, hscan, hm, hdecode⟩ := travel_eq numbers hversion htime now
  have hstored : Json.at? row.payload.payload path = some (.num n) := by
    rw [payload_of_outboxRow hrow, Json.at?_fieldsToJson, Value.at?_withEnvelopeDefaults hvalue]
    rfl
  have hscanned : Value.at? (scanOutboxEvent numbers row).payload path = some (.float (numbers.read n)) := by
    rw [hscan]
    exact Value.at?_withEnvelopeDefaults (Value.at?_reencoded numbers hvalue)
  have hpublished : Json.at? m.body.payload path = some (.num (numbers.print (numbers.read n))) := by
    rw [payload_of_publishedMessage hm, Json.at?_fieldsToJson, Value.at?_withEnvelopeDefaults hscanned]
    rfl
  have hdecoded : Value.at? ((event.reencoded numbers).reencoded numbers).withEnvelopeDefaults.payload path =
      some (.float (numbers.read (numbers.print (numbers.read n)))) :=
    Value.at?_withEnvelopeDefaults (Value.at?_reencoded numbers (Value.at?_reencoded numbers hvalue))
  constructor
  · rintro ⟨row', m', decoded, hrow', hm', hdecode', hkept⟩
    obtain rfl := Except.ok.inj (hrow.symm.trans hrow')
    obtain rfl := Except.ok.inj (hm.symm.trans hm')
    obtain rfl := Except.ok.inj (hdecode.symm.trans hdecode')
    have h₁ := hkept.scanned
    have h₂ := hkept.published
    have h₃ := hkept.decoded
    rw [hscanned] at h₁
    rw [hpublished] at h₂
    rw [hdecoded] at h₃
    exact ⟨Option.some.inj h₁, Option.some.inj h₂, Option.some.inj h₃⟩
  · rintro ⟨h₁, h₂, h₃⟩
    refine ⟨row, m, _, hrow, hm, hdecode, ?_, ?_, ?_, ?_, ?_⟩
    · rw [hvalue]
      rfl
    · rw [hstored]
      rfl
    · rw [hscanned]
      exact congrArg some h₁
    · rw [hpublished]
      exact congrArg some h₂
    · rw [hdecoded]
      exact congrArg some h₃

theorem conversions_iff_exact (hnumbers : numbers.IsFloat64) (hn : n.natAbs < 2 ^ 64) :
    (numbers.read n = n ∧ numbers.print (numbers.read n) = n ∧
      numbers.read (numbers.print (numbers.read n)) = n) ↔ Float64.Exact n := by
  rw [hnumbers.read n hn]
  constructor
  · rintro ⟨hread, hprint, -⟩
    have hdouble : Float64.nearest n = n := by exact_mod_cast hread
    obtain ⟨decimal, hdecimal, hshortest⟩ := hnumbers.print n hn hdouble
    rw [hdouble, hdecimal] at hprint
    obtain rfl : decimal = n := by exact_mod_cast hprint
    exact ⟨hdouble, hshortest.fewest⟩
  · intro hexact
    obtain ⟨decimal, hdecimal, hshortest⟩ := hnumbers.print n hn hexact.double
    obtain rfl := hexact.eq_of_isShortest hshortest
    rw [hexact.double, hdecimal, hnumbers.read decimal hn, hexact.double]
    exact ⟨rfl, rfl, rfl⟩

/-! ### The amounts of an order -/

theorem amountSurvives_iff_exact (hnumbers : numbers.IsFloat64) (hn : n.natAbs < 2 ^ 64)
    (hversion : event.schemaVersion = 0 ∨ event.schemaVersion = 1) (htime : event.occurredAt.encodable = true)
    (hvalue : Value.at? event.payload path = some (.num n)) (now : Time) :
    AmountSurvives numbers path n event now ↔ Float64.Exact n := by
  rw [amountSurvives_iff_conversions hversion htime hvalue, conversions_iff_exact hnumbers hn]

theorem at?_createdEvent (order : Order) (messageID correlationID : String) (created : Time) :
    Value.at? (Service.createdEvent order messageID correlationID created).payload ["total_amount"] =
      some (.num order.totals.total.amount) := rfl

theorem at?_authorizationPayload (payment : Payment) (row : OrderRow) :
    Value.at? (authorizationPayload payment row) ["payment", "amount"] = some (.num row.totalAmount) := rfl

/-- **The amounts announced for an accepted order survive exactly when its total is an exact `float64`.** -/
theorem amounts_survive_iff (svc : Service) (merchantID idempotencyKey : String) (req : CreateOrderCommand)
    (hnumbers : numbers.IsFloat64) (haccepted : validateCreateOrder merchantID idempotencyKey req = .ok ())
    (hfits : linesTotal req.items + 1200 < 2 ^ 63) {order : Order} {orderID : String} {created : Time}
    (horder : order = svc.newOrder merchantID req orderID created) (htime : created.encodable = true) (now : Time) :
    (∀ messageID correlationID, AmountSurvives numbers ["total_amount"] order.totals.total.amount
        (Service.createdEvent order messageID correlationID created) now ↔
      Float64.Exact (linesTotal req.items + 1200)) ∧
    ∀ (next : OutboxEvent) (payment : Payment) (row : OrderRow), row.totalAmount = order.totals.total.amount →
      (next.schemaVersion = 0 ∨ next.schemaVersion = 1) → next.occurredAt.encodable = true →
      (AmountSurvives numbers ["payment", "amount"] order.totals.total.amount
          { next with payload := authorizationPayload payment row } now ↔
        Float64.Exact (linesTotal req.items + 1200)) := by
  have hnonneg := nonNegative_of_accepted haccepted
  have hzero := hnonneg.sum_nonneg
  have htotal : order.totals.total.amount = linesTotal req.items + 1200 := by
    rw [horder]
    exact totalAmount_of_fits hnonneg hfits
  have hn : order.totals.total.amount.natAbs < 2 ^ 64 := by omega
  rw [← htotal]
  constructor
  · intro messageID correlationID
    have hversion : (Service.createdEvent order messageID correlationID created).schemaVersion = 1 := rfl
    exact amountSurvives_iff_exact hnumbers hn (.inr hversion) htime (at?_createdEvent _ _ _ _) now
  · intro next payment row hrow hversion hoccurred
    have hvalue : Value.at? (OutboxEvent.payload { next with payload := authorizationPayload payment row })
        ["payment", "amount"] = some (.num order.totals.total.amount) := hrow ▸ at?_authorizationPayload payment row
    refine amountSurvives_iff_exact hnumbers hn ?_ ?_ hvalue now
    · exact hversion
    · exact hoccurred

/-- The conversions of `float64` on integers. -/
noncomputable def float64Numbers : JsonNumbers where
  read q := Float64.nearest ⌊q⌋
  print q := Float64.shortest ⌊q⌋

theorem isFloat64_float64Numbers : float64Numbers.IsFloat64 := by
  constructor
  · intro n _
    simp [float64Numbers]
  · intro n _ hdouble
    exact ⟨Float64.shortest n, by simp [float64Numbers], Float64.isShortest_shortest hdouble⟩

/-- The order of a command with one line, and the event it is announced with. -/
def oneLineOrder (quantity amount : Int) : Order :=
  (⟨fun _ => "", fun c => c⟩ : Service).newOrder "m1" (oneLineCommand quantity amount) "ord_1" 1

def oneLineCreated (quantity amount : Int) : OutboxEvent :=
  Service.createdEvent (oneLineOrder quantity amount) "msg_1" "corr-1" 1

theorem amounts_survive_oneLine : AmountSurvives float64Numbers ["total_amount"] 2200 (oneLineCreated 2 500) 2 :=
  ((amounts_survive_iff ⟨fun _ => "", fun c => c⟩ "m1" "idempotency-key-1" (oneLineCommand 2 500)
    isFloat64_float64Numbers (by decide +kernel) (by decide) rfl (by decide) 2).1 "msg_1" "corr-1").mpr
    (Float64.exact_of_lt (by decide))

/-- The first total that is no `float64` is announced to the workers as another one. -/
theorem amounts_lost :
    validateCreateOrder "m1" "idempotency-key-1" (oneLineCommand 1 (2 ^ 53 - 1199)) = .ok () ∧
      (oneLineOrder 1 (2 ^ 53 - 1199)).totals.total.amount = 2 ^ 53 + 1 ∧
      ¬ AmountSurvives float64Numbers ["total_amount"] (2 ^ 53 + 1) (oneLineCreated 1 (2 ^ 53 - 1199)) 2 := by
  have htotal : (oneLineOrder 1 (2 ^ 53 - 1199)).totals.total.amount = 2 ^ 53 + 1 := by decide
  have hvalue : Value.at? (oneLineCreated 1 (2 ^ 53 - 1199)).payload ["total_amount"] = some (.num (2 ^ 53 + 1)) :=
    htotal ▸ at?_createdEvent _ _ _ _
  refine ⟨by decide +kernel, htotal, ?_⟩
  rw [amountSurvives_iff_exact isFloat64_float64Numbers (by decide) (.inr rfl) (by decide) hvalue]
  intro hexact
  have hdouble := hexact.double
  revert hdouble
  decide

end FulfillHub
