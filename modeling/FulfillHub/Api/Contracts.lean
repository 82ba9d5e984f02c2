import FulfillHub.Api.Server

/-!
# What a request may do

A request is held to a contract: what it may read and write is decided by its standing, which its API key gives it
or, when it brings no key, its operations token, and a successful response has to be earned by what the request has
read. The handlers are not looked at again after this module.
-/

namespace FulfillHub

open Interaction

variable {act : Actor} {α : Type} {orderID action : String}

abbrev ServerTrace := Trace ServerCall.Answer

/-- The request has read this order. -/
def OrderRead (trace : ServerTrace) (orderID : String) (order : Order) : Prop :=
  ⟨.service (.store (.getOrder orderID)), .ok order⟩ ∈ trace

/-- The request has asked the clock and got this instant. -/
def ClockRead (trace : ServerTrace) (now : Time) : Prop := ⟨.service (.port .clock), now⟩ ∈ trace

/-- An actor other than operations has this merchant's id. -/
def Actor.Owns (act : Actor) (merchantID : String) : Prop := act.ops = false → act.merchantID = merchantID

section Contracts

variable (stdlib : GoStdlib) (srv : Server) (r : Request)

/-- The actor a request is authenticated as. -/
inductive Standing (trace : ServerTrace) : Actor → Prop
  | merchant (m : String) (hkey : r.apiKey ≠ "") (hm : srv.apiKeys r.apiKey = some m) :
      Standing trace ⟨m, "", false⟩
  | localOps (hkey : r.apiKey = "") (htoken : srv.acceptsLocalToken r.token = true) :
      Standing trace ⟨"", "local-ops", true⟩
  | ops (now : Time) (subject : String) (hkey : r.apiKey = "") (hnow : ClockRead trace now)
      (hsubject : srv.opsSubject stdlib r.token now = some subject) : Standing trace ⟨"", subject, true⟩

/-- The writes of a request: a new order of the merchant of its key, or the cancellation of an order whose
merchant it has checked, with that order's event and audit entry. -/
inductive RequestWrites (trace : ServerTrace) : StoreCall → Prop
  | create (m key : String) (order : Order) (event : OutboxEvent) (audit : AuditLog)
      (hkey : srv.apiKeys r.apiKey = some m) (horder : order.merchantID = m) (hevent : event.merchantID = m)
      (haudit : audit.merchantID = m) : RequestWrites trace (.insertOrder m key order event audit)
  | cancel (act : Actor) (orderID : String) (checked order : Order) (now : Time) (event : OutboxEvent)
      (audit : AuditLog) (hstanding : Standing stdlib srv r trace act) (hchecked : OrderRead trace orderID checked)
      (howns : act.Owns checked.merchantID) (hread : OrderRead trace orderID order)
      (hevent : event.merchantID = order.merchantID) (haudit : audit.merchantID = order.merchantID) :
      RequestWrites trace (.updateOrderStatus orderID .cancellationPending now event audit)

/-- What entitles a request to a successful response. -/
inductive Entitled (trace : ServerTrace) (response : Response) : Prop
  | unrestricted (hpath : r.path ∈ ["/healthz", "/readyz", "/metrics"]) (hquiet : response.discloses = false)
  | created (m : String) (hpath : r.path = "/api/v1/orders") (hkey : srv.apiKeys r.apiKey = some m)
  | order (act : Actor) (orderID action : String) (order : Order)
      (hroute : orderRouteMatch r.path = some (orderID, action)) (hstanding : Standing stdlib srv r trace act)
      (hread : OrderRead trace orderID order) (howns : act.Owns order.merchantID)
  | shipment (act : Actor) (shipmentID : String) (record : ShipmentRecord)
      (hroute : shipmentRouteMatch r.path = some shipmentID) (hstanding : Standing stdlib srv r trace act)
      (hlast : trace.getLast? = some ⟨.getShipment shipmentID, .ok record⟩) (howns : act.Owns record.merchantID)

/-- The store is only read by a request that is authenticated. -/
def requestAllowed (trace : ServerTrace) : ServerCall → Prop
  | .service (.store c) => (∃ act orderID, Standing stdlib srv r trace act ∧ c = .getOrder orderID) ∨
      RequestWrites stdlib srv r trace c
  | .getShipment _ => ∃ act, Standing stdlib srv r trace act
  | _ => True

def requestContract : Contract ServerCall.Answer Response where
  allowed := requestAllowed stdlib srv r
  returns trace response := response.succeeded = true → Entitled stdlib srv r trace response

/-- The contract of a part of the program that may end it with a response. -/
def partContract {α : Type} (post : ServerTrace → α → Prop) : Contract ServerCall.Answer (Except Response α) where
  allowed := requestAllowed stdlib srv r
  returns trace
    | .ok a => post trace a
    | .error response => response.succeeded = false

end Contracts

variable {stdlib : GoStdlib} {svc : Service} {srv : Server} {r : Request} {ids : ResponseMeta} {trace : ServerTrace}

theorem Standing.mono {trace' : ServerTrace} (hsub : trace <+: trace') (h : Standing stdlib srv r trace act) :
    Standing stdlib srv r trace' act := by
  cases h with
  | merchant m hkey hm => exact .merchant m hkey hm
  | localOps hkey htoken => exact .localOps hkey htoken
  | ops now subject hkey hnow hsubject => exact .ops now subject hkey (hsub.subset hnow) hsubject

/-! ### The handlers follow the contract -/

/-- A part of the program is left with a response, or the program goes on. -/
theorem follows_part {post : ServerTrace → α → Prop} {p : Serve (Except Response α)}
    {k : Except Response α → Serve Response} (hp : (partContract stdlib srv r post).Follows trace p)
    (hleft : ∀ response, k (.error response) = pure response)
    (hk : ∀ trace' a, trace <+: trace' → post trace' a → (requestContract stdlib srv r).Follows trace' (k (.ok a))) :
    (requestContract stdlib srv r).Follows trace (p >>= k) := by
  apply Contract.Follows.bind
  refine Contract.Follows.mono ?_ ?_ (hp.grows (List.prefix_refl _))
  · exact fun _ _ h => h
  rintro trace' x ⟨hreturns, hgrown⟩
  cases x with
  | error response =>
    have hfailed : response.succeeded = false := hreturns
    change (requestContract stdlib srv r).Follows trace' (k (.error response))
    rw [hleft]
    exact .ret fun h => absurd h (by simp [hfailed])
  | ok a => exact hk trace' a hgrown hreturns

theorem writeError_follows (status : Nat) (code message : String) (retryable : Bool) (details : List ErrorDetail) :
    (requestContract stdlib srv r).Follows trace (writeError status code message retryable details ids) :=
  .call trivial fun _ => .ret fun h => by cases h

theorem error_follows {post : ServerTrace → α → Prop} (status : Nat) (code message : String) (retryable : Bool)
    (details : List ErrorDetail) : (partContract stdlib srv r post).Follows trace
      (Except.error <$> writeError status code message retryable details ids) :=
  .call trivial fun _ => .ret rfl

theorem handleCommerceError_follows (err : Error) :
    (requestContract stdlib srv r).Follows trace (handleCommerceError err ids) := by
  unfold handleCommerceError
  split <;> exact writeError_follows _ _ _ _ _

theorem Server.authenticateMerchant_follows (stdlib : GoStdlib) : (partContract stdlib srv r fun _ act =>
    srv.apiKeys r.apiKey = some act.merchantID ∧ act = ⟨act.merchantID, "", false⟩).Follows trace
      (srv.authenticateMerchant r ids) := by
  unfold Server.authenticateMerchant
  split
  · exact error_follows _ _ _ _ _
  · rename_i m hm
    exact .ret ⟨hm, rfl⟩

theorem Server.authenticate_follows : (partContract stdlib srv r (Standing stdlib srv r)).Follows trace
    (srv.authenticate stdlib r ids) := by
  unfold Server.authenticate
  split_ifs with hkey htoken hlocal
  · refine Contract.Follows.mono ?_ ?_ (Server.authenticateMerchant_follows stdlib)
    · exact fun _ _ h => h
    intro trace' x hx
    cases x with
    | error response => exact hx
    | ok act =>
      obtain ⟨hm, hact⟩ := hx
      rw [hact]
      exact .merchant _ hkey hm
  · exact .ret (.localOps (not_not.mp hkey) hlocal)
  · refine .call trivial fun now => ?_
    dsimp only [Prog.bind]
    split
    · rename_i subject hsubject
      exact .ret (.ops now subject (not_not.mp hkey) (List.mem_append_right _ (List.mem_singleton_self _)) hsubject)
    · exact error_follows _ _ _ _ _
  · exact error_follows _ _ _ _ _

theorem Server.decodeJSON_follows (decode : Nat → Bytes → Except BodyError (α × Bool)) :
    (partContract stdlib srv r fun _ _ => True).Follows trace (srv.decodeJSON r ids decode) := by
  unfold Server.decodeJSON
  split
  · exact .ret trivial
  · exact error_follows _ _ _ _ _
  · exact error_follows _ _ _ _ _
  · exact error_follows _ _ _ _ _

theorem Server.allowWrite_follows (merchantID : String) {k : Option Response → Serve Response}
    (hleft : ∀ response, k (some response) = pure response)
    (hk : ∀ trace', trace <+: trace' → (requestContract stdlib srv r).Follows trace' (k none)) :
    (requestContract stdlib srv r).Follows trace (srv.allowWrite ids merchantID >>= k) := by
  have hrefused : ∀ trace' status code message, (requestContract stdlib srv r).Follows trace'
      ((some <$> writeError status code message true [] ids) >>= k) := by
    intro trace' status code message
    refine .call trivial fun now => ?_
    change (requestContract stdlib srv r).Follows _ (k (some (.error status code message true [] ids now)))
    rw [hleft]
    exact .ret fun h => by cases h
  unfold Server.allowWrite
  split_ifs
  · exact hk trace (List.prefix_refl _)
  · refine .call trivial fun answer => ?_
    have hgrown := List.prefix_append trace [⟨ServerCall.allow ("merchant:" ++ merchantID ++ ":write"), answer⟩]
    cases answer with
    | error err => exact hrefused _ _ _ _
    | ok allowed =>
      cases allowed with
      | false => exact hrefused _ _ _ _
      | true => exact hk _ hgrown

theorem Service.createOrder_follows {m : String} (hkey : srv.apiKeys r.apiKey = some m) (key correlationID : String)
    (req : CreateOrderCommand) {k : Except Error (Option Order × Bool) → Serve Response}
    (hk : ∀ trace' answer, (requestContract stdlib srv r).Follows trace' (k answer)) :
    (requestContract stdlib srv r).Follows trace
      (Serve.service (svc.createOrder m key correlationID req) >>= k) := by
  unfold Service.createOrder
  cases validateCreateOrder m key req with
  | error err => exact hk _ _
  | ok =>
    refine .call trivial fun now => .call trivial fun orderID => .call trivial fun messageID => .call ?_ ?_
    · exact .inr (.create m key _ _ _ hkey rfl rfl rfl)
    · exact fun answer => hk _ answer

theorem Server.createOrder_follows (hpath : r.path = "/api/v1/orders") :
    (requestContract stdlib srv r).Follows trace (srv.createOrder stdlib r ids svc) := by
  refine follows_part (Server.authenticateMerchant_follows stdlib) (fun _ => rfl) ?_
  rintro trace' act _ ⟨hkey, _⟩
  refine Server.allowWrite_follows act.merchantID (fun _ => rfl) ?_
  intro trace' _
  refine follows_part (Server.decodeJSON_follows stdlib.decodeCreateOrder) (fun _ => rfl) ?_
  intro trace' req _ _
  refine Service.createOrder_follows hkey _ _ _ ?_
  intro trace' answer
  cases answer with
  | error err => exact handleCommerceError_follows err
  | ok result =>
    obtain ⟨order, replayed⟩ := result
    cases order with
    | none => exact .ret fun h => by cases h
    | some order => exact .ret fun _ => .created act.merchantID hpath hkey

theorem owns_of_not_refused {merchantID : String} (h : ¬ (!act.ops && decide (act.merchantID ≠ merchantID)) = true) :
    act.Owns merchantID := by
  intro hops
  simpa [hops] using h

theorem Server.getOrder_follows (hroute : orderRouteMatch r.path = some (orderID, action)) :
    (requestContract stdlib srv r).Follows trace (srv.getOrder stdlib r ids orderID) := by
  refine follows_part Server.authenticate_follows (fun _ => rfl) ?_
  intro trace' act _ hstanding
  refine .call (.inl ⟨act, orderID, hstanding, rfl⟩) fun answer => ?_
  have hgrown := List.prefix_append trace' [⟨ServerCall.service (.store (.getOrder orderID)), answer⟩]
  cases answer with
  | error err => exact handleCommerceError_follows err
  | ok order =>
    dsimp only [Prog.lift, Prog.bind]
    split_ifs with hrefused
    · exact writeError_follows _ _ _ _ _
    · exact .ret fun _ => .order act orderID action order hroute (hstanding.mono hgrown)
        (List.mem_append_right _ (List.mem_singleton_self _)) (owns_of_not_refused hrefused)

theorem Server.getShipment_follows {shipmentID : String} (hroute : shipmentRouteMatch r.path = some shipmentID) :
    (requestContract stdlib srv r).Follows trace (srv.getShipment stdlib r ids shipmentID) := by
  refine follows_part Server.authenticate_follows (fun _ => rfl) ?_
  intro trace' act _ hstanding
  refine .call ⟨act, hstanding⟩ fun answer => ?_
  have hgrown := List.prefix_append trace' [⟨ServerCall.getShipment shipmentID, answer⟩]
  cases answer with
  | error err => exact handleCommerceError_follows err
  | ok record =>
    dsimp only [Prog.bind]
    split_ifs with hrefused
    · exact writeError_follows _ _ _ _ _
    · exact .ret fun _ => .shipment act shipmentID record hroute (hstanding.mono hgrown)
        List.getLast?_concat (owns_of_not_refused hrefused)

/-- The order service cancels the order it is called for, with the event and the audit entry of the order it has
read. -/
theorem Service.cancelOrder_follows {checked : Order} (hstanding : Standing stdlib srv r trace act)
    (hchecked : OrderRead trace orderID checked) (howns : act.Owns checked.merchantID) (correlationID : String)
    (actor : AuditActor) {k : Except Error Order → Serve Response}
    (hk : ∀ trace' answer, trace <+: trace' → (requestContract stdlib srv r).Follows trace' (k answer)) :
    (requestContract stdlib srv r).Follows trace
      (Serve.service (Service.cancelOrder orderID correlationID actor) >>= k) := by
  unfold Service.cancelOrder
  cases validateCancelActor actor with
  | error err => exact hk _ _ (List.prefix_refl _)
  | ok =>
    refine .call (.inl ⟨act, orderID, hstanding, rfl⟩) fun answer => ?_
    have hgrown := List.prefix_append trace [⟨ServerCall.service (.store (.getOrder orderID)), answer⟩]
    cases answer with
    | error err => exact hk _ _ hgrown
    | ok order =>
      dsimp only [Prog.bind]
      split_ifs
      · exact hk _ _ hgrown
      cases validateOrderTransition order.status .cancellationPending with
      | error err => exact hk _ _ hgrown
      | ok =>
        refine .call trivial fun now => .call trivial fun messageID => .call (.inr ?_) fun answer => ?_
        · refine .cancel act orderID checked order now _ _ (hstanding.mono ?_) ?_ howns ?_ rfl rfl
          · simp [List.append_assoc]
          · exact List.mem_append_left _ (List.mem_append_left _ (List.mem_append_left _ hchecked))
          · simp [OrderRead]
        · exact hk _ _ (by simp [List.append_assoc])

theorem Server.cancelOrder_follows (hroute : orderRouteMatch r.path = some (orderID, action)) :
    (requestContract stdlib srv r).Follows trace (srv.cancelOrder stdlib r ids orderID) := by
  refine follows_part Server.authenticate_follows (fun _ => rfl) ?_
  intro trace₁ act _ hstanding
  refine follows_part (Server.decodeJSON_follows stdlib.decodeCancelOrder) (fun _ => rfl) ?_
  intro trace₂ req hgrown _
  dsimp only
  split_ifs
  · exact writeError_follows _ _ _ _ _
  have hstanding := hstanding.mono hgrown
  refine .call (.inl ⟨act, orderID, hstanding, rfl⟩) fun answer => ?_
  cases answer with
  | error err => exact handleCommerceError_follows err
  | ok checked =>
    dsimp only [Prog.lift, Prog.bind]
    split_ifs with hrefused
    · exact writeError_follows _ _ _ _ _
    have hchecked : OrderRead (trace₂ ++ [⟨.service (.store (.getOrder orderID)), .ok checked⟩]) orderID
        checked := List.mem_append_right _ (List.mem_singleton_self _)
    have howns := owns_of_not_refused hrefused
    refine Service.cancelOrder_follows (hstanding.mono (List.prefix_append _ _)) hchecked howns _ _ ?_
    intro trace₃ answer hgrown
    cases answer with
    | error err => exact handleCommerceError_follows err
    | ok order =>
      refine .ret fun _ => .order act orderID action checked hroute ?_ (hgrown.subset hchecked) howns
      exact hstanding.mono ((List.prefix_append _ _).trans hgrown)

theorem Server.checkAll_follows (names : List String)
    {k : List (String × String) × List ErrorDetail → Serve Response}
    (hk : ∀ trace' outcome, (requestContract stdlib srv r).Follows trace' (k outcome)) :
    (requestContract stdlib srv r).Follows trace (Server.checkAll names >>= k) := by
  have hloop : ∀ trace, Contract.Follows ⟨requestAllowed stdlib srv r, fun _ _ => True⟩ trace
      (Server.checkAll names) := by
    induction names with
    | nil => exact fun _ => .ret trivial
    | cons name rest ih =>
      intro trace
      refine .call trivial fun answer => ?_
      dsimp only [Prog.bind]
      refine Contract.Follows.bind (Contract.Follows.mono ?_ ?_ (ih _))
      · exact fun _ _ h => h
      · intro trace' later _
        cases answer with
        | error err => exact .ret trivial
        | ok => exact .ret trivial
  refine Contract.Follows.bind (Contract.Follows.mono ?_ ?_ (hloop trace))
  · exact fun _ _ h => h
  · exact fun trace' outcome _ => hk trace' outcome

theorem Server.writeReadiness_follows (hpath : r.path = "/readyz") :
    (requestContract stdlib srv r).Follows trace (srv.writeReadiness ids) := by
  refine Server.checkAll_follows _ ?_
  intro trace' outcome
  split_ifs
  · exact writeError_follows _ _ _ _ _
  · exact .call trivial fun now => .ret fun _ => .unrestricted (by simp [hpath]) rfl

theorem Server.writeMetrics_follows (hpath : r.path = "/metrics") :
    (requestContract stdlib srv r).Follows trace (srv.writeMetrics r ids) := by
  unfold Server.writeMetrics
  split_ifs
  · exact writeError_follows _ _ _ _ _
  · exact .call trivial fun samples => .ret fun _ => .unrestricted (by simp [hpath]) rfl

theorem Server.orderRoute_follows (hroute : orderRouteMatch r.path = some (orderID, action)) :
    (requestContract stdlib srv r).Follows trace (srv.orderRoute stdlib r ids orderID action) := by
  unfold Server.orderRoute
  split_ifs
  · exact Server.cancelOrder_follows hroute
  · exact Server.getOrder_follows hroute
  · exact writeError_follows _ _ _ _ _

theorem Server.dispatch_follows : (requestContract stdlib srv r).Follows trace (srv.dispatch stdlib r ids svc) := by
  unfold Server.dispatch
  split_ifs with hhealth hready hmetrics hcreate horders hshipments
  · exact .call trivial fun now => .ret fun _ => .unrestricted (by simp [hhealth.2]) rfl
  · exact Server.writeReadiness_follows hready.2
  · exact Server.writeMetrics_follows hmetrics.2
  · exact Server.createOrder_follows hcreate.2
  · split
    · exact writeError_follows _ _ _ _ _
    · rename_i route hroute
      exact Server.orderRoute_follows hroute
  · split
    · exact writeError_follows _ _ _ _ _
    · rename_i shipmentID hroute
      exact Server.getShipment_follows hroute
  · exact writeError_follows _ _ _ _ _

/-- **Serving a request follows its contract.** -/
theorem Server.serveHTTP_follows : (requestContract stdlib srv r).Follows trace (srv.serveHTTP stdlib r svc) :=
  .call trivial fun _ => Server.dispatch_follows

end FulfillHub
