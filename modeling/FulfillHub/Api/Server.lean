import FulfillHub.Api.Requests
import FulfillHub.Fulfillment.Handlers

/-!
# The HTTP server

`ServeHTTP` of `internal/api/server.go` with the handlers behind it. Serving a request is a program: it makes the
calls of the order service, reads shipments, and asks the clock, the rate limiter, the readiness checks and the
sources of the metrics page. Tracing, logging and the counters behind the metrics page are left out. The server is
any configured one.
-/

namespace FulfillHub

open Interaction

structure Server where
  apiKeys : String → Option String
  limiter : Bool
  opsSecrets : List Bytes
  opsIssuer : String
  opsAudience : String
  metricsToken : String
  /-- The names of the readiness checks, sorted. -/
  readiness : List String
  localOpsToken : Bool
  maxBodyBytes : Nat

/-! ### Calls -/

inductive ServerCall
  | service (c : Call)
  | getShipment (shipmentID : String)
  | allow (key : String)
  | requestNumber
  | checkReadiness (name : String)
  | collectMetrics

abbrev ServerCall.Answer : ServerCall → Type
  | .service c => c.Answer
  | .getShipment _ => Except Error ShipmentRecord
  | .allow _ => Except Error Bool
  | .requestNumber => Nat
  | .checkReadiness _ => Except Error Unit
  | .collectMetrics => List MetricsSample

/-- A program of the server. -/
abbrev Serve (α : Type) := Prog ServerCall ServerCall.Answer α

namespace Serve

def perform (c : ServerCall) : Serve c.Answer := Prog.perform c

def clock : Serve Time := perform (.service (.port .clock))

/-- A program of the order service or of a worker, as one of the server. -/
def service {α : Type} (p : Saga α) : Serve α := p.lift ServerCall.service fun _ r => r

end Serve

/-! ### Answers -/

def writeError (status : Nat) (code message : String) (retryable : Bool) (details : List ErrorDetail)
    (ids : ResponseMeta) : Serve Response := do
  let now ← Serve.clock
  pure (.error status code message retryable details ids now)

def writeNotFound (ids : ResponseMeta) : Serve Response :=
  writeError 404 "not_found" "Route not found." false [] ids

def handleCommerceError (err : Error) (ids : ResponseMeta) : Serve Response :=
  match err with
  | .validation fields =>
    writeError 422 "validation_failed" "Request body contains invalid fields." false fields ids
  | .wrap .duplicateOrder _ => writeError 409 "duplicate_order"
      "The external order ID has already been accepted for this merchant." false [] ids
  | .wrap .invalidStateTransition _ => writeError 409 "invalid_state_transition"
      "The requested state transition is not allowed." false [] ids
  | .wrap .notFound _ => writeError 404 "not_found" "Resource not found." false [] ids
  | .wrap .insufficientStock _ | .plain _ =>
    writeError 500 "internal_error" "Unexpected server error." true [] ids

def headerOrNew (value kind : String) (n : Nat) : String :=
  if Text.trimSpace value ≠ "" then value else kind ++ "_" ++ Text.pad 12 n

def headerOrDefault (value fallback : String) : String :=
  if Text.trimSpace value ≠ "" then value else fallback

/-! ### Authentication -/

structure Actor where
  merchantID : String
  actorID : String
  ops : Bool

def Request.apiKey (r : Request) : String := r.header "X-API-Key"

def Request.token (r : Request) : String := bearerToken (r.header "Authorization")

namespace Server

variable (stdlib : GoStdlib) (srv : Server) (r : Request) (ids : ResponseMeta)

def authenticateMerchant : Serve (Except Response Actor) :=
  match srv.apiKeys r.apiKey with
  | none => .error <$> writeError 401 "unauthorized" "Merchant API key is missing or invalid." false [] ids
  | some merchantID => pure (.ok ⟨merchantID, "", false⟩)

/-- The token that stands for an operations token in local development. -/
def acceptsLocalToken (token : String) : Bool :=
  srv.localOpsToken && srv.opsSecrets.length = 0 && token = "ops-token"

/-- The subject of an operations token the server accepts at this instant. -/
def opsSubject (token : String) (now : Time) : Option String :=
  stdlib.validateOpsJWT token srv.opsSecrets srv.opsIssuer srv.opsAudience now

def authenticate : Serve (Except Response Actor) :=
  if r.apiKey ≠ "" then srv.authenticateMerchant r ids
  else if r.token ≠ "" then
    if srv.acceptsLocalToken r.token then pure (.ok ⟨"", "local-ops", true⟩)
    else do
      let now ← Serve.clock
      match srv.opsSubject stdlib r.token now with
      | some subject => pure (.ok ⟨"", subject, true⟩)
      | none => .error <$> writeError 401 "unauthorized" "Operations token is missing or invalid." false [] ids
  else .error <$> writeError 401 "unauthorized" "Authentication is required." false [] ids

/-- The metrics token is compared as a whole; an empty one admits every request. -/
def authorizesMetrics : Bool := srv.metricsToken = "" || r.token = srv.metricsToken

/-! ### Handlers -/

def decodeJSON {α : Type} (decode : Nat → Bytes → Except BodyError (α × Bool)) : Serve (Except Response α) :=
  match decode srv.maxBodyBytes r.body with
  | .ok (value, true) => pure (.ok value)
  | .error .tooLarge => .error <$> writeError 413 "payload_too_large"
      "Request body exceeds the maximum allowed size." false [] ids
  | .error .invalid | .ok (_, false) =>
    .error <$> writeError 400 "invalid_json" "Request body is not valid JSON." false [] ids

/-- The response of a refused write, if the rate limiter refuses it. -/
def allowWrite (merchantID : String) : Serve (Option Response) := do
  if !srv.limiter then pure none
  else
    match ← Serve.perform (.allow ("merchant:" ++ merchantID ++ ":write")) with
    | .error _ => some <$> writeError 503 "dependency_unavailable" "Rate limiter is unavailable." true [] ids
    | .ok false =>
      some <$> writeError 429 "rate_limited" "Too many order creation requests for this merchant." true [] ids
    | .ok true => pure none

variable (svc : Service)

def createOrder : Serve Response := do
  match ← srv.authenticateMerchant r ids with
  | .error response => pure response
  | .ok act =>
    match ← srv.allowWrite ids act.merchantID with
    | some response => pure response
    | none =>
      match ← srv.decodeJSON r ids stdlib.decodeCreateOrder with
      | .error response => pure response
      | .ok req =>
        match ← Serve.service (svc.createOrder act.merchantID (r.header "Idempotency-Key")
            ids.correlationID req.toCommand) with
        | .error err => handleCommerceError err ids
        | .ok (some order, replayed) =>
          pure (.accepted order.orderID order.merchantID order.status order.createdAt replayed ids)
        | .ok (none, _) => pure .aborted

def getOrder (orderID : String) : Serve Response := do
  match ← srv.authenticate stdlib r ids with
  | .error response => pure response
  | .ok act =>
    match ← Serve.service (Saga.getOrder orderID) with
    | .error err => handleCommerceError err ids
    | .ok order =>
      if !act.ops && act.merchantID ≠ order.merchantID then
        writeError 403 "forbidden" "The caller cannot access this order." false [] ids
      else pure (.order order ids)

def getShipment (shipmentID : String) : Serve Response := do
  match ← srv.authenticate stdlib r ids with
  | .error response => pure response
  | .ok act =>
    match ← Serve.perform (.getShipment shipmentID) with
    | .error err => handleCommerceError err ids
    | .ok shipment =>
      if !act.ops && act.merchantID ≠ shipment.merchantID then
        writeError 403 "forbidden" "The caller cannot access this shipment." false [] ids
      else pure (.shipment shipment ids)

/-- The fields of a cancellation are reported together, whichever of them is missing. -/
def incompleteCancel (req : CancelOrderRequest) : Bool :=
  Text.trimSpace req.reason = "" || Text.trimSpace req.requestedByType = "" ||
    Text.trimSpace req.requestedByID = ""

def cancelOrder (orderID : String) : Serve Response := do
  match ← srv.authenticate stdlib r ids with
  | .error response => pure response
  | .ok act =>
    match ← srv.decodeJSON r ids stdlib.decodeCancelOrder with
    | .error response => pure response
    | .ok req =>
      if incompleteCancel req then
        writeError 422 "validation_failed" "Request body contains invalid fields." false
          [⟨"reason", "is required"⟩, ⟨"requested_by.type", "is required"⟩,
            ⟨"requested_by.id", "is required"⟩] ids
      else
        match ← Serve.service (Saga.getOrder orderID) with
        | .error err => handleCommerceError err ids
        | .ok checked =>
          if !act.ops && act.merchantID ≠ checked.merchantID then
            writeError 403 "forbidden" "The caller cannot access this order." false [] ids
          else
            match ← Serve.service (Service.cancelOrder orderID ids.correlationID
                ⟨req.requestedByType, req.requestedByID, req.reason⟩) with
            | .error err => handleCommerceError err ids
            | .ok order =>
              pure (.accepted order.orderID order.merchantID order.status order.updatedAt false ids)

def orderRoute (orderID action : String) : Serve Response :=
  if action = "cancel" ∧ r.method = "POST" then srv.cancelOrder stdlib r ids orderID
  else if action = "" ∧ r.method = "GET" then srv.getOrder stdlib r ids orderID
  else writeNotFound ids

/-- The outcome of the named checks, and the details of those that failed. -/
def checkAll : List String → Serve (List (String × String) × List ErrorDetail)
  | [] => pure ([], [])
  | name :: rest => do
      let answer ← Serve.perform (.checkReadiness name)
      let later ← checkAll rest
      match answer with
      | .error err => pure ((name, "down") :: later.1, ⟨name, err.text⟩ :: later.2)
      | .ok () => pure ((name, "up") :: later.1, later.2)

def writeReadiness : Serve Response := do
  let outcome ← checkAll srv.readiness
  if outcome.2.length > 0 then
    writeError 503 "dependency_unavailable" "One or more readiness checks failed." true outcome.2 ids
  else do
    let now ← Serve.clock
    pure (.ready outcome.1 now)

def writeMetrics : Serve Response := do
  if !srv.authorizesMetrics r then
    writeError 401 "unauthorized" "Metrics bearer token is missing or invalid." false [] ids
  else do
    let samples ← Serve.perform .collectMetrics
    pure (.metrics samples)

/-- The handler of a request's method and path. -/
def dispatch : Serve Response :=
  if r.method = "GET" ∧ r.path = "/healthz" then do
    let now ← Serve.clock
    pure (.health now)
  else if r.method = "GET" ∧ r.path = "/readyz" then srv.writeReadiness ids
  else if r.method = "GET" ∧ r.path = "/metrics" then srv.writeMetrics r ids
  else if r.method = "POST" ∧ r.path = "/api/v1/orders" then srv.createOrder stdlib r ids svc
  else if (Text.cutPrefix r.path "/api/v1/orders/").isSome then
    match orderRouteMatch r.path with
    | none => writeNotFound ids
    | some route => srv.orderRoute stdlib r ids route.1 route.2
  else if r.method = "GET" ∧ (Text.cutPrefix r.path "/api/v1/shipments/").isSome then
    match shipmentRouteMatch r.path with
    | none => writeNotFound ids
    | some shipmentID => srv.getShipment stdlib r ids shipmentID
  else writeNotFound ids

def serveHTTP : Serve Response := do
  let number ← Serve.perform .requestNumber
  let requestID := headerOrNew (r.header "X-Request-Id") "req" number
  let correlationID := headerOrDefault (r.header "X-Correlation-Id") requestID
  srv.dispatch stdlib r ⟨requestID, correlationID⟩ svc

end Server

end FulfillHub
