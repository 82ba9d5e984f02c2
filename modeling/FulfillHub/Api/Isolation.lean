import FulfillHub.Api.Backend
import FulfillHub.Api.Contracts
import FulfillHub.Fulfillment.Script

/-!
# Merchants are isolated over HTTP

Any number of requests and of worker runs share one store, and a step answers one call of one of them, so other
requests and workers run between the ownership check of a cancellation and its write. From the contract of a
request and from the merchant of a stored order never changing it follows that what is done on behalf of a merchant
stays with that merchant.
-/

namespace FulfillHub

open Interaction

/-! ### The system -/

inductive Task
  | request (r : Request)
  | worker (queue : Queue) (deps : Dependencies) (event : OutboxEvent)

/-- A worker run answers no request. -/
def Task.program (stdlib : GoStdlib) (svc : Service) (srv : Server) : Task → Serve (Option Response)
  | .request r => some <$> srv.serveHTTP stdlib r svc
  | .worker queue deps event => (fun _ => none) <$> Serve.service (handlerFor queue deps event)

/-- The store answers a call, or fails before it has done anything. -/
inductive StoreAnswers (b : Backend) (c : StoreCall) : Except Error c.Result → Backend → Prop
  | done : StoreAnswers b c (b.semantics c).1 (b.semantics c).2
  | unavailable (err : Error) : StoreAnswers b c (.error err) b

theorem StoreAnswers.of_ok {b b' : Backend} {c : StoreCall} {r : c.Result} (h : StoreAnswers b c (.ok r) b') :
    (b.semantics c).1 = .ok r := by
  generalize hr : (Except.ok r : Except Error c.Result) = answer at h
  cases h with
  | done => rfl
  | unavailable => cases hr

def ServerAnswers (b : Backend) : (c : ServerCall) → c.Answer → Backend → Prop
  | .service (.store c), r, b' => StoreAnswers b c r b'
  | .getShipment shipmentID, r, b' => b.ShipmentAnswer shipmentID r ∧ b' = b
  | _, _, b' => b' = b

def serverSpec (stdlib : GoStdlib) (svc : Service) (srv : Server) :
    PoolSpec Backend Task ServerCall.Answer (Option Response) where
  program := Task.program stdlib svc srv
  start _ := True
  answers := ServerAnswers

abbrev ServerState := Pool Backend Task ServerCall.Answer (Option Response)

abbrev ServerLabel := Pool.Label Task ServerCall.Answer

abbrev server (stdlib : GoStdlib) (svc : Service) (srv : Server) : Lts ServerState ServerLabel :=
  (serverSpec stdlib svc srv).lts

/-- The random ids of new orders do not repeat: an order is inserted under an id no stored order has. -/
def FreshOrderIDs (s : ServerState) : ServerLabel → Prop
  | .answer _ (.service (.store c)) _ =>
    ∀ order, Backend.inserts c = some order → s.shared.order? order.orderID = none
  | _ => True

/-! ### Along runs -/

section Contracts

variable (stdlib : GoStdlib) (srv : Server)

/-- A worker run is not held to anything here. -/
def Task.contract : Task → Contract ServerCall.Answer (Option Response)
  | .request r => ⟨requestAllowed stdlib srv r, fun trace x => ∀ response, x = some response →
      response.succeeded = true → Entitled stdlib srv r trace response⟩
  | .worker _ _ _ => ⟨fun _ _ => True, fun _ _ => True⟩

end Contracts

variable {stdlib : GoStdlib} {svc : Service} {srv : Server} {r : Request} {ids : ResponseMeta} {trace : ServerTrace}

theorem Task.program_follows (task : Task) : (task.contract stdlib srv).Follows [] (task.program stdlib svc srv) := by
  cases task with
  | worker queue deps event => exact .of_forall (fun _ _ => trivial) (fun _ _ => trivial) _ _
  | request r =>
    refine Contract.Follows.bind (Contract.Follows.mono ?_ ?_ Server.serveHTTP_follows)
    · exact fun _ _ h => h
    · intro trace response hreturns
      refine .ret fun other heq hsucceeded => ?_
      cases heq
      exact hreturns hsucceeded

section Runs

variable {s t : ServerState} {i : Nat} {c : ServerCall} {answer : c.Answer}

theorem shared_of_step (hstep : (server stdlib svc srv).step s (.answer i c answer) t) :
    t.shared = s.shared ∨ ∃ call, c = .service (.store call) ∧ t.shared = (s.shared.semantics call).2 := by
  have hanswers : ServerAnswers s.shared c answer t.shared := by
    cases hstep with
    | answer _ hanswer => exact hanswer
  cases c with
  | service c =>
    cases c with
    | store c =>
      generalize t.shared = b at hanswers
      cases hanswers with
      | done => exact .inr ⟨c, rfl, rfl⟩
      | unavailable => exact .inl rfl
    | port c => exact .inl hanswers
  | getShipment shipmentID => exact .inl hanswers.2
  | allow key => exact .inl hanswers
  | requestNumber => exact .inl hanswers
  | checkReadiness name => exact .inl hanswers
  | collectMetrics => exact .inl hanswers

theorem merchant?_of_step (hstep : (server stdlib svc srv).step s (.answer i c answer) t)
    (hfresh : FreshOrderIDs s (.answer i c answer)) {orderID m : String}
    (h : s.shared.merchant? orderID = some m) : t.shared.merchant? orderID = some m := by
  rcases shared_of_step hstep with hsame | ⟨call, rfl, hdone⟩
  · rw [hsame]
    exact h
  · rw [hdone]
    exact Backend.merchant?_semantics hfresh h

theorem merchant?_of_read (hs : (server stdlib svc srv).Reachable FreshOrderIDs s)
    {u : Thread Task ServerCall.Answer (Option Response)} (hu : u ∈ s.threads) {orderID : String} {order : Order}
    (hread : OrderRead u.trace orderID order) : s.shared.merchant? orderID = some order.merchantID := by
  refine PoolSpec.exchange_invariant (P := serverSpec stdlib svc srv) (Ψ := fun b x => ∀ orderID order,
    x = ⟨.service (.store (.getOrder orderID)), .ok order⟩ → b.merchant? orderID = some order.merchantID)
    ?_ ?_ hs ⟨u, hu, hread⟩ orderID order rfl
  · intro s i c answer t x _ hstep hfresh ih orderID order hx
    exact merchant?_of_step hstep hfresh (ih orderID order hx)
  · intro s i c answer t _ hstep hfresh orderID order hx
    cases hx
    refine merchant?_of_step hstep hfresh (Backend.merchant?_eq_some.mpr ⟨order, ?_, rfl⟩)
    cases hstep with
    | answer _ hanswer => exact Backend.order?_of_getOrder (StoreAnswers.of_ok hanswer)

theorem request_of_step (hs : (server stdlib svc srv).Reachable FreshOrderIDs s)
    (hstep : (server stdlib svc srv).step s (.answer i c answer) t) {prog : Serve (Option Response)}
    (hthread : t.threads[i]? = some ⟨.request r, trace, prog⟩) : ∃ before next,
      s.threads[i]? = some ⟨.request r, before, .call c next⟩ ∧ trace = before ++ [⟨c, answer⟩] ∧
      requestAllowed stdlib srv r before c ∧
      ∀ response, prog = .ret (some response) → response.succeeded = true →
        Entitled stdlib srv r trace response := by
  cases hstep with
  | @answer _ job before _ next _ shared hbefore hanswer =>
    obtain ⟨_, heq⟩ | ⟨hne, _⟩ := (PoolSpec.getElem?_answer hbefore).mp hthread
    · cases heq
      have hfollows := PoolSpec.follows_of_reachable (K := Task.contract stdlib srv) Task.program_follows hs
        (PoolSpec.mem_threads.mpr ⟨i, hbefore⟩)
      refine ⟨before, next, hbefore, rfl, hfollows.allowed, ?_⟩
      intro response hprog hsucceeded
      have hreturned := hfollows.next answer
      rw [hprog] at hreturned
      exact hreturned.returns response rfl hsucceeded
    · exact absurd rfl hne

/-- A request without a valid key and without an operations token that is valid where the server checks it. -/
structure Unauthenticated (stdlib : GoStdlib) (srv : Server) (r : Request) (trace : ServerTrace) : Prop where
  key : srv.apiKeys r.apiKey = none
  localToken : srv.acceptsLocalToken r.token = false
  token : ∀ now, ClockRead trace now → srv.opsSubject stdlib r.token now = none

theorem Unauthenticated.not_standing {act : Actor} (h : Unauthenticated stdlib srv r trace)
    (hstanding : Standing stdlib srv r trace act) : False := by
  cases hstanding with
  | merchant m _ hm =>
    rw [h.key] at hm
    cases hm
  | localOps _ htoken =>
    rw [h.localToken] at htoken
    cases htoken
  | ops now subject _ hnow hsubject =>
    rw [h.token now hnow] at hsubject
    cases hsubject

theorem Standing.merchantID_eq {act : Actor} {m merchantID : String} (hkey : r.apiKey ≠ "")
    (hm : srv.apiKeys r.apiKey = some m) (hstanding : Standing stdlib srv r trace act)
    (howns : act.Owns merchantID) : merchantID = m := by
  cases hstanding with
  | merchant m' _ hm' =>
    rw [hm] at hm'
    cases hm'
    exact (howns rfl).symm
  | localOps hnokey => exact absurd hnokey hkey
  | ops _ _ hnokey => exact absurd hnokey hkey

theorem confined_of_step (hs : (server stdlib svc srv).Reachable FreshOrderIDs s)
    (hstep : (server stdlib svc srv).step s (.answer i c answer) t) (hfresh : FreshOrderIDs s (.answer i c answer))
    {next : c.Answer → Serve (Option Response)} (hthread : s.threads[i]? = some ⟨.request r, trace, .call c next⟩)
    (hallowed : requestAllowed stdlib srv r trace c) {m : String} (hkey : r.apiKey ≠ "")
    (hm : srv.apiKeys r.apiKey = some m) : Backend.Confined m s.shared t.shared := by
  rcases shared_of_step hstep with hsame | ⟨call, rfl, hdone⟩
  · rw [hsame]
    exact .refl m _
  rw [hdone]
  rcases hallowed with ⟨_, orderID, _, rfl⟩ | hwrites
  · rw [Backend.semantics_getOrder]
    exact .refl m _
  cases hwrites with
  | create m' _ order _ _ hm' horder hevent haudit =>
    rw [hm] at hm'
    cases hm'
    exact Backend.insertOrder_confined horder hevent haudit (hfresh order rfl)
  | cancel act orderID checked order _ _ _ hstanding hchecked howns hread hevent haudit =>
    have hmem := PoolSpec.mem_threads.mpr ⟨i, hthread⟩
    have howner := merchant?_of_read hs hmem hchecked
    rw [hstanding.merchantID_eq hkey hm howns] at howner
    have hsame : order.merchantID = m := Option.some.inj ((merchant?_of_read hs hmem hread).symm.trans howner)
    exact Backend.updateOrderStatus_confined howner (hevent.trans hsame) (haudit.trans hsame)

theorem not_orderRoute_of_shipmentRoute {path shipmentID : String} {route : String × String}
    (hshipment : shipmentRouteMatch path = some shipmentID) (horder : orderRouteMatch path = some route) : False := by
  have hshipments : "/api/v1/shipments/".toList <+: path.toList := by
    unfold shipmentRouteMatch at hshipment
    split at hshipment
    · cases hshipment
    · rename_i rest hrest
      exact Text.cutPrefix_eq_some hrest
  have horders : "/api/v1/orders/".toList <+: path.toList := by
    unfold orderRouteMatch at horder
    split at horder
    · cases horder
    · rename_i rest hrest
      exact Text.cutPrefix_eq_some hrest
  rcases List.prefix_or_prefix_of_prefix hshipments horders with h | h
  · exact absurd h (by decide)
  · exact absurd h (by decide)

theorem Server.authenticate_withAuthorization (hkey : r.apiKey ≠ "") (value : String) :
    srv.authenticate stdlib (r.withAuthorization value) ids = srv.authenticate stdlib r ids := by
  have hsame : (r.withAuthorization value).apiKey = r.apiKey := rfl
  simp only [Server.authenticate, Server.authenticateMerchant, hsame, ne_eq, hkey, not_false_eq_true, if_true]

/-- A request that brings a key is served alike whatever its `Authorization` header, the metrics page apart. -/
theorem Server.serveHTTP_withAuthorization (hkey : r.apiKey ≠ "") (hpath : r.path ≠ "/metrics") (value : String) :
    srv.serveHTTP stdlib (r.withAuthorization value) svc = srv.serveHTTP stdlib r svc := by
  have hdispatch : ∀ ids, srv.dispatch stdlib (r.withAuthorization value) ids svc =
      srv.dispatch stdlib r ids svc := by
    intro ids
    simp only [Server.dispatch, Server.orderRoute, Server.getOrder, Server.getShipment, Server.cancelOrder,
      Server.authenticate_withAuthorization hkey]
    simp only [show (r.withAuthorization value).path = r.path from rfl, hpath, and_false, if_false]
    rfl
  simp only [Server.serveHTTP, hdispatch]
  rfl

theorem routes_of_fixed : ∀ path ∈ ["/healthz", "/readyz", "/metrics", "/api/v1/orders"],
    orderRouteMatch path = none ∧ shipmentRouteMatch path = none := by
  decide

/-- A successful response to a request with a merchant's key is about that merchant's order or shipment. -/
theorem merchant_of_response (hs : (server stdlib svc srv).Reachable FreshOrderIDs t)
    (hstep : (server stdlib svc srv).step s (.answer i c answer) t) {before : ServerTrace}
    {prog : Serve (Option Response)} (hthread : t.threads[i]? = some ⟨.request r, before ++ [⟨c, answer⟩], prog⟩)
    {m : String} (hkey : r.apiKey ≠ "") (hm : srv.apiKeys r.apiKey = some m) {response : Response}
    (hentitled : Entitled stdlib srv r (before ++ [⟨c, answer⟩]) response) :
    (∀ orderID action, orderRouteMatch r.path = some (orderID, action) →
      ∃ order, t.shared.order? orderID = some order ∧ order.merchantID = m) ∧
    ∀ shipmentID, shipmentRouteMatch r.path = some shipmentID →
      ∃ record, t.shared.HasShipment shipmentID record ∧ record.merchantID = m := by
  have hfixed : r.path ∈ ["/healthz", "/readyz", "/metrics", "/api/v1/orders"] →
      orderRouteMatch r.path = none ∧ shipmentRouteMatch r.path = none := routes_of_fixed r.path
  cases hentitled with
  | unrestricted hpath =>
    obtain ⟨horders, hshipments⟩ := hfixed (List.mem_append_left ["/api/v1/orders"] hpath)
    simp [horders, hshipments]
  | created _ hpath =>
    obtain ⟨horders, hshipments⟩ := hfixed (by simp [hpath])
    simp [horders, hshipments]
  | order act orderID action order hroute hstanding hread howns =>
    refine ⟨?_, fun shipmentID hshipment => absurd hroute fun h => not_orderRoute_of_shipmentRoute hshipment h⟩
    intro orderID' action' hroute'
    cases hroute.symm.trans hroute'
    have howner := merchant?_of_read hs (PoolSpec.mem_threads.mpr ⟨i, hthread⟩) hread
    rw [hstanding.merchantID_eq hkey hm howns] at howner
    exact Backend.merchant?_eq_some.mp howner
  | shipment act shipmentID record hroute hstanding hlast howns =>
    refine ⟨fun orderID action horder => absurd hroute fun h => not_orderRoute_of_shipmentRoute h horder, ?_⟩
    intro shipmentID' hroute'
    cases hroute.symm.trans hroute'
    rw [List.getLast?_concat, Option.some.injEq] at hlast
    cases hlast
    refine ⟨record, ?_, hstanding.merchantID_eq hkey hm howns⟩
    cases hstep with
    | answer _ hanswer =>
      obtain ⟨hfound, rfl⟩ := hanswer
      exact hfound

theorem quiet_of_unauthenticated (hnone : Unauthenticated stdlib srv r trace) {response : Response}
    (hentitled : response.succeeded = true → Entitled stdlib srv r trace response) :
    response.discloses = false := by
  by_contra hdiscloses
  rw [Bool.not_eq_false] at hdiscloses
  cases hentitled (Response.succeeded_of_discloses hdiscloses) with
  | unrestricted _ hquiet =>
    rw [hquiet] at hdiscloses
    cases hdiscloses
  | created _ _ hm =>
    rw [hnone.key] at hm
    cases hm
  | order _ _ _ _ _ hstanding => exact hnone.not_standing hstanding
  | shipment _ _ _ _ hstanding => exact hnone.not_standing hstanding

theorem shared_of_unauthenticated (hstep : (server stdlib svc srv).step s (.answer i c answer) t)
    (hallowed : requestAllowed stdlib srv r trace c) (hnone : Unauthenticated stdlib srv r trace) :
    t.shared = s.shared := by
  rcases shared_of_step hstep with hsame | ⟨call, rfl, _⟩
  · exact hsame
  rcases hallowed with ⟨_, _, hstanding, _⟩ | hwrites
  · exact absurd hstanding hnone.not_standing
  · cases hwrites with
    | create _ _ _ _ _ hm =>
      rw [hnone.key] at hm
      cases hm
    | cancel _ _ _ _ _ _ _ hstanding => exact absurd hstanding hnone.not_standing

end Runs

/-- **Merchants are isolated over HTTP**, for every content of the store, configuration of the server and
interleaving of requests and workers. A request whose key maps to a merchant changes and adds orders, events and
audit entries of that merchant only, reads and cancels only that merchant's orders and shipments, and is served
alike whatever its `Authorization` header. A request without a valid key and without a valid operations token
changes nothing and is told of no order or shipment. -/
theorem merchants_isolated (stdlib : GoStdlib) (svc : Service) (srv : Server) {s t : ServerState}
    (hs : (server stdlib svc srv).Reachable FreshOrderIDs s) {i : Nat} {c : ServerCall} {answer : c.Answer}
    (hstep : (server stdlib svc srv).step s (.answer i c answer) t)
    (hfresh : FreshOrderIDs s (.answer i c answer)) {r : Request} {trace : ServerTrace}
    {prog : Serve (Option Response)} (hthread : t.threads[i]? = some ⟨.request r, trace, prog⟩) :
    (∀ m, r.apiKey ≠ "" → srv.apiKeys r.apiKey = some m →
      Backend.Confined m s.shared t.shared ∧
      (∀ response, prog = .ret (some response) → response.succeeded = true →
        (∀ orderID action, orderRouteMatch r.path = some (orderID, action) →
          ∃ order, t.shared.order? orderID = some order ∧ order.merchantID = m) ∧
        ∀ shipmentID, shipmentRouteMatch r.path = some shipmentID →
          ∃ record, t.shared.HasShipment shipmentID record ∧ record.merchantID = m) ∧
      ∀ value, r.path ≠ "/metrics" →
        srv.serveHTTP stdlib (r.withAuthorization value) svc = srv.serveHTTP stdlib r svc) ∧
    (Unauthenticated stdlib srv r trace →
      t.shared = s.shared ∧ ∀ response, prog = .ret (some response) → response.discloses = false) := by
  obtain ⟨before, next, hbefore, rfl, hallowed, hentitled⟩ := request_of_step hs hstep hthread
  constructor
  · intro m hkey hm
    refine ⟨confined_of_step hs hstep hfresh hbefore hallowed hkey hm, ?_, ?_⟩
    · intro response hprog hsucceeded
      exact merchant_of_response (.step hs hstep hfresh) hstep hthread hkey hm
        (hentitled response hprog hsucceeded)
    · intro value hpath
      exact Server.serveHTTP_withAuthorization hkey hpath value
  · intro hnone
    have hearlier : Unauthenticated stdlib srv r before :=
      ⟨hnone.key, hnone.localToken, fun now hnow => hnone.token now (List.mem_append_left _ hnow)⟩
    refine ⟨shared_of_unauthenticated hstep hallowed hearlier, ?_⟩
    intro response hprog
    exact quiet_of_unauthenticated hnone (hentitled response hprog)

/-! ### A run -/

instance (s : ServerState) : (l : ServerLabel) → Decidable (FreshOrderIDs s l)
  | .answer _ (.service (.store c)) _ =>
    decidable_of_iff ((Backend.inserts c).all fun order => (s.shared.order? order.orderID).isNone) (by
      cases h : Backend.inserts c <;> simp [FreshOrderIDs, h])
  | .answer _ (.service (.port _)) _ | .answer _ (.getShipment _) _ | .answer _ (.allow _) _
  | .answer _ .requestNumber _ | .answer _ (.checkReadiness _) _ | .answer _ .collectMetrics _
  | .spawn _ => isTrue trivial

/-- A store that is available, and a world around it in which everything else fails. -/
def sampleAnswer (b : Backend) : (c : ServerCall) → c.Answer × Backend
  | .service (.store c) => b.semantics c
  | .service (.port .clock) => (1, b)
  | .service (.port (.newID kind)) => (kind ++ "_1", b)
  | .service (.port (.reserveInventory _)) | .service (.port (.authorizePayment _))
  | .service (.port (.createShipment _)) | .getShipment _ | .allow _ | .checkReadiness _ =>
    (.error (.plain "unavailable"), b)
  | .requestNumber => (1, b)
  | .collectMetrics => ([], b)

theorem answers_sampleAnswer (b : Backend) (c : ServerCall) :
    ServerAnswers b c (sampleAnswer b c).1 (sampleAnswer b c).2 := by
  cases c with
  | service c =>
    cases c with
    | store c => exact .done
    | port c => cases c <;> rfl
  | getShipment shipmentID =>
    refine ⟨fun h => ?_, rfl⟩
    cases h
  | allow key => rfl
  | requestNumber => rfl
  | checkReadiness name => rfl
  | collectMetrics => rfl

def sampleStdlib : GoStdlib where
  hmac := ⟨fun _ _ => [], fun _ => true, fun _ _ => rfl⟩
  rawURLDecode _ := none
  decodeHeader _ := none
  decodeClaims _ := none
  decodeCreateOrder _ _ := .error .invalid
  decodeCancelOrder _ _ := .ok (⟨"changed my mind", "merchant", "m1"⟩, true)

def sampleServer : Server :=
  ⟨fun key => if key = "key-1" then some "m1" else none, false, [], "", "", "", [], true, 1024⟩

/-- The cancellation of an order with the key of the merchant `m1`, and an operations token beside it. -/
def sampleCancel : Request where
  method := "POST"
  path := "/api/v1/orders/ord_1/cancel"
  header name := if name = "X-API-Key" then "key-1" else if name = "Authorization" then "Bearer ops-token" else ""
  body := []

def sampleBackend : Backend :=
  .memory (newMemoryStore.insertOrder "m1" "idempotency-key-1" (sampleService.newOrder "m1" sampleCommand "ord_1" 1)
    (Service.createdEvent (sampleService.newOrder "m1" sampleCommand "ord_1" 1) "msg_0" "corr-1" 1)
    ⟨"m1", "ord_1", "merchant", "m1", "order.create", "corr-1", 1, []⟩).2

/-- The next answer to the thread ends it with a success. -/
def succeedsNext (s : ServerState) (i : Nat) : Bool :=
  match s.threads[i]? with
  | some ⟨.request r, _, .call c next⟩ =>
    match next (sampleAnswer s.shared c).1 with
    | .ret (some response) => response.succeeded && r.apiKey = "key-1" &&
        r.path = "/api/v1/orders/ord_1/cancel" &&
        decide (FreshOrderIDs s (.answer i c (sampleAnswer s.shared c).1))
    | _ => false
  | _ => false

/-- A merchant cancels its own order. -/
theorem merchants_isolated_cancel : ∃ s t i c answer r trace response,
    (server sampleStdlib sampleService sampleServer).Reachable FreshOrderIDs s ∧
    (server sampleStdlib sampleService sampleServer).step s (.answer i c answer) t ∧
    t.threads[i]? = some ⟨.request r, trace, .ret (some response)⟩ ∧ response.succeeded = true ∧
    sampleServer.apiKeys r.apiKey = some "m1" ∧ Backend.Confined "m1" s.shared t.shared ∧
    ∃ order, t.shared.order? "ord_1" = some order ∧ order.merchantID = "m1" := by
  obtain ⟨s, hs, hnext⟩ := ((serverSpec sampleStdlib sampleService sampleServer).simulator sampleAnswer
    answers_sampleAnswer).exists_reachable (Q := fun s => succeedsNext s 0 = true) (decides_decide FreshOrderIDs)
    (s := ⟨sampleBackend, []⟩) (.start ⟨trivial, rfl⟩)
    [.inl (.request sampleCancel), .inr 0, .inr 0, .inr 0, .inr 0, .inr 0] (by decide +kernel)
  unfold succeedsNext at hnext
  split at hnext
  · rename_i r trace c next hbefore
    split at hnext
    · rename_i response hresponse
      simp only [Bool.and_eq_true, decide_eq_true_eq] at hnext
      obtain ⟨⟨⟨hsucceeded, hkey⟩, hpath⟩, hfresh⟩ := hnext
      have hstep : (server sampleStdlib sampleService sampleServer).step s _ _ :=
        .answer hbefore (answers_sampleAnswer s.shared c)
      have hm : sampleServer.apiKeys r.apiKey = some "m1" := by rw [hkey]; rfl
      obtain ⟨hconfined, hanswer, _⟩ := (merchants_isolated sampleStdlib sampleService sampleServer hs hstep hfresh
        ((PoolSpec.getElem?_answer hbefore).mpr (.inl ⟨rfl, rfl⟩))).1 "m1" (by rw [hkey]; decide) hm
      refine ⟨s, _, 0, c, _, r, trace ++ [⟨c, (sampleAnswer s.shared c).1⟩], response, hs, hstep, ?_, hsucceeded,
        hm, hconfined, ?_⟩
      · rw [← hresponse]
        exact (PoolSpec.getElem?_answer hbefore).mpr (.inl ⟨rfl, rfl⟩)
      · exact (hanswer response hresponse hsucceeded).1 "ord_1" "cancel" (by rw [hpath]; decide)
    · cases hnext
  · cases hnext

end FulfillHub
