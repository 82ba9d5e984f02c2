import FulfillHub.Commerce.Service
import FulfillHub.Providers.Webhook

/-!
# Requests, tokens and responses

The parts of `internal/api/server.go` that compute without a store: the routes of a path, the bodies of the two
commands, operations tokens, and what a response carries. Decoding of JSON and base64 and the keyed hash are the
standard library's, so they are parameters here; a header that is absent reads as the empty text, as
`Header.Get` reads it.
-/

namespace FulfillHub

/-! ### Texts -/

namespace Text

/-- `strings.Split` at a separator of one character. -/
def split (sep : Char) (s : String) : List String := (s.toList.splitOn sep).map String.ofList

/-- `strings.Cut` at a separator of one character. -/
def cut (sep : Char) (s : String) : Option (String × String) :=
  if sep ∈ s.toList then
    some (String.ofList (s.toList.takeWhile (· ≠ sep)), String.ofList (s.toList.dropWhile (· ≠ sep)).tail)
  else none

/-- `strings.CutPrefix`. -/
def cutPrefix (s lead : String) : Option String :=
  if lead.toList.isPrefixOf s.toList then some (String.ofList (s.toList.drop lead.toList.length)) else none

def bytes (s : String) : Bytes := s.toUTF8.data.toList

theorem cutPrefix_eq_some {s lead rest : String} (h : cutPrefix s lead = some rest) : lead.toList <+: s.toList := by
  unfold cutPrefix at h
  split_ifs at h with hlead
  exact List.isPrefixOf_iff_prefix.mp hlead

end Text

/-- The second of the Unix epoch an instant lies in. -/
def Time.unix (t : Time) : Int := (t / Time.second : Nat) - 62135596800

/-! ### Requests -/

structure Request where
  method : String
  path : String
  header : String → String
  body : Bytes

/-- The same request with another `Authorization` header. -/
def Request.withAuthorization (r : Request) (value : String) : Request :=
  { r with header := fun name => if name = "Authorization" then value else r.header name }

/-- The order and the action of a path under `/api/v1/orders/`. -/
def orderRouteMatch (path : String) : Option (String × String) :=
  match Text.cutPrefix path "/api/v1/orders/" with
  | none => none
  | some rest =>
    if rest = "" then none
    else
      match Text.split '/' rest with
      | [orderID] => if orderID = "" then none else some (orderID, "")
      | [orderID, action] => if orderID = "" ∨ action ≠ "cancel" then none else some (orderID, "cancel")
      | _ => none

def shipmentRouteMatch (path : String) : Option String :=
  match Text.cutPrefix path "/api/v1/shipments/" with
  | none => none
  | some rest => if rest = "" then none else if '/' ∈ rest.toList then none else some rest

structure MoneyRequest where
  amount : Int
  currency : String

structure OrderItemRequest where
  sku : String
  quantity : Int
  unitPrice : MoneyRequest

structure CustomerRequest where
  id : String
  email : String
  fullName : String

structure AddressRequest where
  line1 : String
  line2 : String
  city : String
  state : String
  postalCode : String
  country : String

structure PaymentMethodRequest where
  provider : String
  paymentToken : String

structure CreateOrderRequest where
  externalOrderID : String
  currency : String
  customer : CustomerRequest
  shippingAddress : AddressRequest
  items : List OrderItemRequest
  paymentMethod : PaymentMethodRequest

def CreateOrderRequest.toCommand (r : CreateOrderRequest) : CreateOrderCommand where
  externalOrderID := r.externalOrderID
  currency := r.currency
  customer := ⟨r.customer.id, r.customer.email, r.customer.fullName⟩
  shippingAddress := ⟨r.shippingAddress.line1, r.shippingAddress.line2, r.shippingAddress.city,
    r.shippingAddress.state, r.shippingAddress.postalCode, r.shippingAddress.country⟩
  items := r.items.map fun item => ⟨item.sku, item.quantity, ⟨item.unitPrice.amount, item.unitPrice.currency⟩⟩
  paymentMethod := ⟨r.paymentMethod.provider, r.paymentMethod.paymentToken⟩

structure CancelOrderRequest where
  reason : String
  requestedByType : String
  requestedByID : String

/-- Why a body could not be decoded. -/
inductive BodyError
  | tooLarge
  | invalid

/-! ### Operations tokens -/

structure OpsJWTClaims where
  subject : String
  issuer : String
  audience : List String
  expiresAt : Int
  role : String
  roles : List String

def OpsJWTClaims.hasOperationsRole (c : OpsJWTClaims) : Bool :=
  (c.roles ++ [c.role]).any fun role => Text.trimSpace role = "operations" || Text.trimSpace role = "ops"

/-- The standard library's part in reading a request. The decoders of a body are given the limit on its length
and say whether anything follows the decoded value. -/
structure GoStdlib where
  hmac : Hmac
  rawURLDecode : String → Option Bytes
  decodeHeader : Bytes → Option Payload
  decodeClaims : Bytes → Option OpsJWTClaims
  decodeCreateOrder : Nat → Bytes → Except BodyError (CreateOrderRequest × Bool)
  decodeCancelOrder : Nat → Bytes → Except BodyError (CancelOrderRequest × Bool)

/-- The token of an `Authorization` header. Only letters of ASCII fold to those of `Bearer`. -/
def bearerToken (header : String) : String :=
  match Text.cut ' ' (Text.trimSpace header) with
  | none => ""
  | some (authType, token) =>
    if authType.toList.map Char.toLower = "bearer".toList then Text.trimSpace token else ""

def Value.isText (text : String) : Value → Bool
  | .str s => s = text
  | _ => false

def matchesAnyOpsJWTSecret (hmac : Hmac) (signingInput : String) (got : Bytes) (secrets : List Bytes) : Bool :=
  secrets.any fun secret => got = hmac.sum secret (Text.bytes signingInput)

namespace GoStdlib

variable (stdlib : GoStdlib)

def decodeJWTPart {α : Type} (decode : Bytes → Option α) (part : String) : Option α :=
  (stdlib.rawURLDecode part).bind decode

/-- The conditions on the claims of a token whose signature has been checked. -/
def acceptedSubject (issuer audience : String) (now : Time) (claims : OpsJWTClaims) : Option String :=
  if Text.trimSpace claims.subject = "" ∨ claims.expiresAt ≤ now.unix ∨ claims.hasOperationsRole = false then none
  else if issuer ≠ "" ∧ claims.issuer ≠ issuer then none
  else if audience ≠ "" ∧ audience ∉ claims.audience then none
  else some claims.subject

/-- The subject of a valid operations token. -/
def validateOpsJWT (token : String) (secrets : List Bytes) (issuer audience : String) (now : Time) : Option String :=
  if secrets.length = 0 then none
  else
    match Text.split '.' token with
    | [header, claims, signature] =>
      match stdlib.decodeJWTPart stdlib.decodeHeader header, stdlib.rawURLDecode signature with
      | some fields, some got =>
        if (fields.lookup "alg").any (Value.isText "HS256") ∧
            matchesAnyOpsJWTSecret stdlib.hmac (header ++ "." ++ claims) got secrets then
          (stdlib.decodeJWTPart stdlib.decodeClaims claims).bind (acceptedSubject issuer audience now)
        else none
      | _, _ => none
    | _ => none

end GoStdlib

/-! ### Responses -/

structure ShipmentRecord where
  shipmentID : String
  orderID : String
  merchantID : String
  carrier : String
  trackingNumber : String
  status : ShipmentStatus
  events : List ShipmentEvent
  deriving DecidableEq

abbrev ErrorDetail := FieldError

structure ResponseMeta where
  requestID : String
  correlationID : String

/-- One sample of the metrics page: its name, its labels and its value. -/
structure MetricsSample where
  name : String
  labels : List (String × String)
  value : ℚ

inductive Response
  | error (status : Nat) (code message : String) (retryable : Bool) (details : List ErrorDetail)
      (ids : ResponseMeta) (timestamp : Time)
  | health (timestamp : Time)
  | ready (checks : List (String × String)) (timestamp : Time)
  | metrics (samples : List MetricsSample)
  | accepted (orderID merchantID : String) (status : OrderStatus) (acceptedAt : Time) (replayed : Bool)
      (ids : ResponseMeta)
  | order (order : Order) (ids : ResponseMeta)
  | shipment (shipment : ShipmentRecord) (ids : ResponseMeta)
  /-- The handler panicked, and `net/http` closed the connection. -/
  | aborted

def Response.succeeded : Response → Bool
  | .error .. | .aborted => false
  | _ => true

/-- The response carries an order, a shipment or the state of an order. -/
def Response.discloses : Response → Bool
  | .accepted .. | .order .. | .shipment .. => true
  | _ => false

theorem Response.succeeded_of_discloses {response : Response} (h : response.discloses = true) :
    response.succeeded = true := by
  cases response <;> first | rfl | cases h

end FulfillHub
