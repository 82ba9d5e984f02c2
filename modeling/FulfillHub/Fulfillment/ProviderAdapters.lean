import FulfillHub.Commerce.Ports
import FulfillHub.Postgres.OrderTerms

/-!
# Provider adapters

`internal/fulfillment/provider_adapters.go` and the providers of `internal/providers`. An adapter reads the order an
event is about and asks its provider on the order's terms. What it asks, and what it answers, is said by one
contract; the programs are not looked at again after this module.
-/

namespace FulfillHub

open Interaction

/-! ### Providers -/

namespace Providers

structure PaymentRequest where
  orderID : String
  merchantID : String
  amount : Int
  currency : String
  paymentCredentialRef : String

structure PaymentAuthorization where
  authorizationID : String
  status : PaymentStatus

structure ShipmentRequest where
  orderID : String
  merchantID : String
  addressID : String

structure ShipmentBooking where
  shipmentID : String
  carrier : String
  trackingNumber : String

def FakePaymentProvider.authorize (request : PaymentRequest) : Except Error PaymentAuthorization :=
  if request.paymentCredentialRef = "" then .error (.plain "payment credential reference is required")
  else .ok ⟨"pay_fake_" ++ request.orderID, .authorized⟩

def FakeShipmentProvider.createShipment (request : ShipmentRequest) : Except Error ShipmentBooking :=
  if request.addressID = "" then .error (.plain "address id is required")
  else .ok ⟨"shp_fake_" ++ request.orderID, "fake-carrier", "TRACK-" ++ request.orderID⟩

end Providers

/-! ### Adapters -/

/-- What an adapter calls: the `OrderReader`, its provider, and the clock. -/
inductive AdapterCall
  | getOrder (orderID : String)
  | authorize (request : Providers.PaymentRequest)
  | createShipment (request : Providers.ShipmentRequest)
  | clock

abbrev AdapterCall.Answer : AdapterCall → Type
  | .getOrder _ => Except Error Order
  | .authorize _ => Except Error Providers.PaymentAuthorization
  | .createShipment _ => Except Error Providers.ShipmentBooking
  | .clock => Time

abbrev Adapter (α : Type) := Prog AdapterCall AdapterCall.Answer α

namespace Adapter

def getOrder (orderID : String) : Adapter (Except Error Order) := Prog.perform (AdapterCall.getOrder orderID)

def authorize (request : Providers.PaymentRequest) : Adapter (Except Error Providers.PaymentAuthorization) :=
  Prog.perform (AdapterCall.authorize request)

def createShipment (request : Providers.ShipmentRequest) : Adapter (Except Error Providers.ShipmentBooking) :=
  Prog.perform (AdapterCall.createShipment request)

def clock : Adapter Time := Prog.perform AdapterCall.clock

end Adapter

abbrev AdapterTrace := Trace AdapterCall.Answer

/-- Which dependencies of an adapter are configured. -/
structure AdapterDependencies where
  orders : Bool
  provider : Bool

def paymentRequest (order : Order) (payment : Payment) : Providers.PaymentRequest where
  orderID := order.orderID
  merchantID := order.merchantID
  amount := order.totals.total.amount
  currency := order.currency
  paymentCredentialRef := payment.credentialRef

def authorizedPayment (payment : Payment) (authorization : Providers.PaymentAuthorization) : Payment where
  provider := payment.provider
  status := authorization.status
  authorizationID := authorization.authorizationID
  credentialRef := payment.credentialRef

def credentialRequired : Error := .plain "payment credential reference is required"

def ProviderPaymentAuthorizer.authorizePayment (a : AdapterDependencies) (event : OutboxEvent) :
    Adapter (Except Error Payment) := do
  if !a.orders then pure (.error (.plain "order reader is required"))
  else if !a.provider then pure (.error (.plain "payment provider is required"))
  else
    match ← Adapter.getOrder event.orderID with
    | .error err => pure (.error err)
    | .ok order =>
      match order.payment with
      | none => pure (.error credentialRequired)
      | some payment =>
        if payment.credentialRef = "" then pure (.error credentialRequired)
        else
          match ← Adapter.authorize (paymentRequest order payment) with
          | .error err => pure (.error err)
          | .ok authorization => pure (.ok (authorizedPayment payment authorization))

def shipmentRequest (order : Order) : Providers.ShipmentRequest where
  orderID := order.orderID
  merchantID := order.merchantID
  addressID := order.shippingAddressRef

def bookedShipment (booking : Providers.ShipmentBooking) (now : Time) : Shipment where
  shipmentID := booking.shipmentID
  status := .created
  carrier := booking.carrier
  trackingNumber := booking.trackingNumber
  events := [⟨now, .created, "Shipment booking created by provider adapter."⟩]

def ProviderShipmentCreator.createShipment (c : AdapterDependencies) (event : OutboxEvent) :
    Adapter (Except Error Shipment) := do
  if !c.orders then pure (.error (.plain "order reader is required"))
  else if !c.provider then pure (.error (.plain "shipment provider is required"))
  else
    match ← Adapter.getOrder event.orderID with
    | .error err => pure (.error err)
    | .ok order =>
      if order.shippingAddressRef = "" then pure (.error (.plain "shipping address reference is required"))
      else
        match ← Adapter.createShipment (shipmentRequest order) with
        | .error err => pure (.error err)
        | .ok booking =>
          let now ← Adapter.clock
          pure (.ok (bookedShipment booking now))

/-! ### Adapters at work -/

/-- A call of a handler that an adapter serves. -/
inductive AdapterJob
  | payment (event : OutboxEvent)
  | shipment (event : OutboxEvent)

inductive AdapterAnswer
  | payment (answer : Except Error Payment)
  | shipment (answer : Except Error Shipment)

namespace AdapterJob

def event : AdapterJob → OutboxEvent
  | .payment event | .shipment event => event

def program : AdapterJob → Adapter AdapterAnswer
  | .payment event => do
      let answer ← ProviderPaymentAuthorizer.authorizePayment ⟨true, true⟩ event
      pure (.payment answer)
  | .shipment event => do
      let answer ← ProviderShipmentCreator.createShipment ⟨true, true⟩ event
      pure (.shipment answer)

def failed (err : Error) : AdapterJob → AdapterAnswer
  | .payment _ => .payment (.error err)
  | .shipment _ => .shipment (.error err)

end AdapterJob

/-! ### The contract of an adapter -/

/-- The order as an adapter reads it. -/
structure Order.OnTerms (order : Order) (terms : OrderTerms) : Prop where
  orderID : order.orderID = terms.orderID
  merchantID : order.merchantID = terms.merchantID
  amount : order.totals.total.amount = terms.amount
  currency : order.currency = terms.currency
  payment : ∃ payment, order.payment = some payment ∧ payment.credentialRef = terms.credentialRef
  address : order.shippingAddressRef = terms.addressRef

namespace OrderTerms

def paymentRequest (terms : OrderTerms) : Providers.PaymentRequest :=
  ⟨terms.orderID, terms.merchantID, terms.amount, terms.currency, terms.credentialRef⟩

def shipmentRequest (terms : OrderTerms) : Providers.ShipmentRequest :=
  ⟨terms.orderID, terms.merchantID, terms.addressRef⟩

/-- How an adapter of an order on these terms is answered: the order reader tells the terms, unless it fails, and
the providers are the fake ones. -/
def Tells (terms : OrderTerms) : Exchange AdapterCall.Answer → Prop
  | ⟨.getOrder _, r⟩ => ∀ order, r = .ok order → order.OnTerms terms
  | ⟨.authorize request, r⟩ => r = Providers.FakePaymentProvider.authorize request
  | ⟨.createShipment request, r⟩ => r = Providers.FakeShipmentProvider.createShipment request
  | ⟨.clock, _⟩ => True

def MayAsk (terms : OrderTerms) : AdapterJob → AdapterCall → Prop
  | job, .getOrder orderID => orderID = job.event.orderID
  | .payment _, .authorize request => request = terms.paymentRequest
  | .shipment _, .createShipment request => request = terms.shipmentRequest
  | .shipment _, .clock => True
  | _, _ => False

def Serves (terms : OrderTerms) : AdapterJob → AdapterAnswer → Prop
  | .payment _, given => ∃ provider,
      given = .payment (.ok ⟨provider, .authorized, "pay_fake_" ++ terms.orderID, terms.credentialRef⟩)
  | .shipment _, given => ∃ now, given = .shipment (.ok
      (bookedShipment ⟨"shp_fake_" ++ terms.orderID, "fake-carrier", "TRACK-" ++ terms.orderID⟩ now))

end OrderTerms

/-- The order reader has failed, and the adapter returns its error. -/
def AdapterJob.ReaderFailed (job : AdapterJob) (trace : AdapterTrace) (given : AdapterAnswer) : Prop :=
  ∃ err, ⟨.getOrder job.event.orderID, .error err⟩ ∈ trace ∧ given = job.failed err

/-- As long as it is told the terms of its order, an adapter asks on these terms, and serves its call unless the
order reader fails. -/
def adapterContract (terms : OrderTerms) (job : AdapterJob) : Contract AdapterCall.Answer AdapterAnswer where
  allowed trace c := (∀ x ∈ trace, terms.Tells x) → terms.MayAsk job c
  returns trace given := (∀ x ∈ trace, terms.Tells x) → terms.Serves job given ∨ job.ReaderFailed trace given

section Follows

variable {terms : OrderTerms} {order : Order} {payment : Payment}

theorem Order.OnTerms.paymentRequest (h : order.OnTerms terms) (hpayment : order.payment = some payment) :
    FulfillHub.paymentRequest order payment = terms.paymentRequest ∧ payment.credentialRef = terms.credentialRef := by
  obtain ⟨held, hheld, hcredential⟩ := h.payment
  cases hheld.symm.trans hpayment
  refine ⟨?_, hcredential⟩
  unfold FulfillHub.paymentRequest OrderTerms.paymentRequest
  rw [h.orderID, h.merchantID, h.amount, h.currency, hcredential]

theorem Order.OnTerms.shipmentRequest (h : order.OnTerms terms) :
    FulfillHub.shipmentRequest order = terms.shipmentRequest := by
  unfold FulfillHub.shipmentRequest OrderTerms.shipmentRequest
  rw [h.orderID, h.merchantID, h.address]

theorem onTerms_of_told {trace : AdapterTrace} {orderID : String} (htold : ∀ x ∈ trace, terms.Tells x)
    (h : (⟨.getOrder orderID, .ok order⟩ : Exchange AdapterCall.Answer) ∈ trace) : order.OnTerms terms :=
  htold _ h order rfl

theorem AdapterJob.payment_follows (hcredential : terms.credentialRef ≠ "") (event : OutboxEvent) :
    (adapterContract terms (.payment event)).Follows [] (AdapterJob.program (.payment event)) := by
  refine .bind ?_
  unfold ProviderPaymentAuthorizer.authorizePayment
  rw [if_neg (by decide), if_neg (by decide)]
  refine .perform (fun _ => rfl) fun r => ?_
  cases r with
  | error err => exact .ret (.ret fun _ => .inr ⟨err, List.mem_singleton_self _, rfl⟩)
  | ok order =>
    dsimp only
    split
    · rename_i hnone
      refine .ret (.ret fun htold => ?_)
      obtain ⟨payment, hpayment, _⟩ := (onTerms_of_told htold (List.mem_singleton_self _)).payment
      cases hnone.symm.trans hpayment
    · rename_i payment hpayment
      split
      · rename_i hblank
        refine .ret (.ret fun htold => ?_)
        have hread := (onTerms_of_told htold (List.mem_singleton_self _)).paymentRequest hpayment
        exact absurd (hread.2.symm.trans hblank) hcredential
      · refine .perform (fun htold => ?_) fun r => ?_
        · exact ((onTerms_of_told htold (List.mem_singleton_self _)).paymentRequest hpayment).1
        · have hauthorized : ∀ trace : AdapterTrace, ⟨.getOrder event.orderID, .ok order⟩ ∈ trace →
              ⟨.authorize (paymentRequest order payment), r⟩ ∈ trace → (∀ x ∈ trace, terms.Tells x) →
              r = .ok ⟨"pay_fake_" ++ terms.orderID, .authorized⟩ ∧ payment.credentialRef = terms.credentialRef := by
            intro trace hread hasked htold
            have hterms := (onTerms_of_told htold hread).paymentRequest hpayment
            have hr : r = Providers.FakePaymentProvider.authorize (paymentRequest order payment) := htold _ hasked
            rw [hterms.1] at hr
            exact ⟨hr.trans (if_neg hcredential), hterms.2⟩
          cases r with
          | error err =>
            refine .ret (.ret fun htold => ?_)
            cases (hauthorized _ (by simp) (by simp) htold).1
          | ok authorization =>
            refine .ret (.ret fun htold => .inl ⟨payment.provider, ?_⟩)
            obtain ⟨hr, hsame⟩ := hauthorized _ (by simp) (by simp) htold
            cases hr
            rw [← hsame]
            rfl

theorem AdapterJob.shipment_follows (haddress : terms.addressRef ≠ "") (event : OutboxEvent) :
    (adapterContract terms (.shipment event)).Follows [] (AdapterJob.program (.shipment event)) := by
  refine .bind ?_
  unfold ProviderShipmentCreator.createShipment
  rw [if_neg (by decide), if_neg (by decide)]
  refine .perform (fun _ => rfl) fun r => ?_
  cases r with
  | error err => exact .ret (.ret fun _ => .inr ⟨err, List.mem_singleton_self _, rfl⟩)
  | ok order =>
    dsimp only
    split
    · rename_i hblank
      refine .ret (.ret fun htold => ?_)
      exact absurd ((onTerms_of_told htold (List.mem_singleton_self _)).address.symm.trans hblank) haddress
    · refine .perform (fun htold => ?_) fun r => ?_
      · exact (onTerms_of_told htold (List.mem_singleton_self _)).shipmentRequest
      · have hbooked : ∀ trace : AdapterTrace, ⟨.getOrder event.orderID, .ok order⟩ ∈ trace →
            ⟨.createShipment (shipmentRequest order), r⟩ ∈ trace → (∀ x ∈ trace, terms.Tells x) →
            r = .ok ⟨"shp_fake_" ++ terms.orderID, "fake-carrier", "TRACK-" ++ terms.orderID⟩ := by
          intro trace hread hasked htold
          have hr : r = Providers.FakeShipmentProvider.createShipment (shipmentRequest order) := htold _ hasked
          rw [(onTerms_of_told htold hread).shipmentRequest] at hr
          exact hr.trans (if_neg haddress)
        cases r with
        | error err =>
          refine .ret (.ret fun htold => ?_)
          cases hbooked _ (by simp) (by simp) htold
        | ok booking =>
          refine .perform (fun _ => trivial) fun now => .ret (.ret fun htold => ?_)
          cases hbooked _ (by simp) (by simp) htold
          exact .inl ⟨now, rfl⟩

end Follows

end FulfillHub
