import FulfillHub.Fulfillment.EndToEnd
import FulfillHub.Fulfillment.ProviderAdapters
import FulfillHub.Postgres.Success

/-!
# Adapters in the deployed system

The worker process serves the payment and shipment ports of its handlers with the provider adapters over the fake
providers. A port call of a handler starts an adapter, which makes its own calls while everything else goes on.
The pipeline leaves the answers of the ports open, so whatever the adapters return is an answer it allows for.

Between an adapter's look at its order and its request to the provider the row may be rewritten any number of
times. The terms it has read are those of the row nevertheless.
-/

namespace FulfillHub

open Interaction Relational

/-! ### The system -/

/-- The ports that are served by adapters. -/
def adapterFor : PortCall → Option AdapterJob
  | .authorizePayment event => some (.payment event)
  | .createShipment event => some (.shipment event)
  | .clock | .newID _ | .reserveInventory _ => none

abbrev AdapterThread := Thread AdapterJob AdapterCall.Answer AdapterAnswer

structure Deployment where
  pipeline : Pipeline Database PublicationColumns
  adapters : List AdapterThread

namespace Deployment

abbrev saga (d : Deployment) : PostgresSaga := d.pipeline.stages.saga

abbrev database (d : Deployment) : Database := databaseOf d.saga

end Deployment

inductive DeploymentLabel
  | pipeline (l : PipelineLabel)
  | call (i : Nat)
  | adapter (k : Nat) (c : AdapterCall) (r : c.Answer)

/-- How an adapter is answered: by the store, which may fail, the fake providers and the clock. -/
def Database.Replies (db : Database) : (c : AdapterCall) → c.Answer → Prop
  | .getOrder orderID, r => r = db.getOrderTx orderID ∨ ∃ err, r = .error err
  | .authorize request, r => r = Providers.FakePaymentProvider.authorize request
  | .createShipment request, r => r = Providers.FakeShipmentProvider.createShipment request
  | .clock, _ => True

inductive Deployment.Step (svc : Service) (names : Queue → String) : Deployment → DeploymentLabel → Deployment → Prop
  | pipeline {d : Deployment} {l : PipelineLabel} {p : Pipeline Database PublicationColumns}
      (hstep : Pipeline.Step postgresRelayed svc names d.pipeline l p) :
      Step svc names d (.pipeline l) { d with pipeline := p }
  | call {d : Deployment} {i : Nat} {job : Job} {trace : SagaTrace} {c : PortCall}
      {next : c.Answer → Saga (Except Error Unit)} {served : AdapterJob}
      (hthread : d.saga.threads[i]? = some ⟨job, trace, .call (.port c) next⟩) (hserved : adapterFor c = some served) :
      Step svc names d (.call i) { d with adapters := d.adapters ++ [⟨served, [], served.program⟩] }
  | adapter {d : Deployment} {k : Nat} {job : AdapterJob} {trace : AdapterTrace} {c : AdapterCall} {r : c.Answer}
      {next : c.Answer → Adapter AdapterAnswer} (hrun : d.adapters[k]? = some ⟨job, trace, .call c next⟩)
      (hreply : d.database.Replies c r) :
      Step svc names d (.adapter k c r) { d with adapters := d.adapters.set k ⟨job, trace ++ [⟨c, r⟩], next r⟩ }

def deployment (svc : Service) (names : Queue → String) : Lts Deployment DeploymentLabel where
  init d := (pipeline postgresRelayed svc names).init d.pipeline ∧ d.adapters = []
  step := Deployment.Step svc names

/-! ### What adapters have seen -/

theorem OrderRow.Referenced.onTerms {row : OrderRow} (h : row.Referenced) (db : Database) :
    (db.assemble row).OnTerms row.terms := by
  refine ⟨rfl, rfl, rfl, rfl, ?_, rfl⟩
  change ∃ payment, Database.paymentOf row = some payment ∧ _
  unfold Database.paymentOf
  rw [h.provider, Bool.true_or, Bool.true_or, if_pos rfl]
  exact ⟨_, rfl, rfl⟩

theorem AdapterJob.program_follows {row : OrderRow} (h : row.Referenced) (job : AdapterJob) :
    (adapterContract row.terms job).Follows [] job.program := by
  cases job with
  | payment event => exact payment_follows h.credential event
  | shipment event => exact shipment_follows h.address event

/-- The adapter serves a call about a stored order, is where its contract allows it to be, and was told what the
row of the order says. -/
def AdapterSound (db : Database) (a : AdapterThread) : Prop :=
  ∃ row, db.order? a.job.event.orderID = some row ∧ (adapterContract row.terms a.job).Follows a.trace a.prog ∧
    ∀ x ∈ a.trace, row.terms.Tells x ∧ row.terms.MayAsk a.job x.1

theorem AdapterSound.of_ordersStep {db db' : Database} {a : AdapterThread} (ha : AdapterSound db a)
    (h : OrdersStep db db') : AdapterSound db' a := by
  obtain ⟨row, hrow, hadapter⟩ := ha
  obtain ⟨row', hrow', hterms⟩ := h.order? hrow
  refine ⟨row', hrow', ?_⟩
  rw [hterms]
  exact hadapter

theorem AdapterSound.answer {db : Database} (href : ∀ row ∈ db.orders.rows, row.Referenced) {job : AdapterJob}
    {trace : AdapterTrace} {c : AdapterCall} {r : c.Answer} {next : c.Answer → Adapter AdapterAnswer}
    (h : AdapterSound db ⟨job, trace, .call c next⟩) (hreply : db.Replies c r) :
    AdapterSound db ⟨job, trace ++ [⟨c, r⟩], next r⟩ := by
  obtain ⟨row, hrow, hfollows, htrace⟩ := h
  have hasks : row.terms.MayAsk job c := hfollows.allowed fun x hx => (htrace x hx).1
  have htold : row.terms.Tells ⟨c, r⟩ := by
    cases c with
    | getOrder orderID =>
      rintro order rfl
      have hid : orderID = job.event.orderID := by cases job <;> exact hasks
      rcases hreply with hread | ⟨err, hfailed⟩
      · rw [hid, Database.getOrderTx, show db.order? job.event.orderID = _ from hrow] at hread
        cases hread
        exact (href row (Database.order?_eq_some hrow).1).onTerms db
      · cases hfailed
    | _ => exact hreply
  refine ⟨row, hrow, hfollows.next r, fun x hx => ?_⟩
  rcases List.mem_append.mp hx with hx | hx
  · exact htrace x hx
  · rw [List.mem_singleton.mp hx]
    exact ⟨htold, hasks⟩

/-! ### Adapters along runs -/

variable {svc : Service} {names : Queue → String} {d d' : Deployment} {l : DeploymentLabel}
  {cond : Deployment → DeploymentLabel → Prop}

/-- A handler asks the ports that adapters serve about its own event, which is about a stored order. -/
theorem order_of_port {s : PostgresSaga} {i : Nat} {job : Job} {trace : SagaTrace} {c : PortCall}
    {next : c.Answer → Saga (Except Error Unit)} {served : AdapterJob}
    (hs : (postgresSaga svc).Reachable DeliveredOnce s)
    (hthread : s.threads[i]? = some ⟨job, trace, .call (.port c) next⟩) (hserved : adapterFor c = some served) :
    ∃ row, (databaseOf s).order? served.event.orderID = some row := by
  have hmem := PoolSpec.mem_threads.mpr ⟨i, hthread⟩
  have hfollows := PoolSpec.follows_of_reachable (P := sagaSpec postgresStore svc) (K := Job.contract svc)
    Job.program_follows hs hmem
  have hask : job.mayAsk trace c := hfollows.allowed.2
  cases job with
  | handle queue deps source =>
    have hsource : source = served.event := by
      cases c with
      | authorizePayment event | createShipment event =>
        cases hserved
        exact hask.2.1.symm
      | _ => cases hserved
    have hfrom : ∀ s l, DeliveredOnce s l → FromOutbox _ s l := fun _ _ h => h.1
    have henvelope := cause_mem hfrom hs hmem rfl
    obtain ⟨order, horder, hid⟩ := (mirrorInvariant_of_reachable hs).known _ henvelope
    rw [← hsource]
    cases hfound : (databaseOf s).order? source.orderID with
    | some row => exact ⟨row, rfl⟩
    | none => exact absurd hid ((Database.order?_eq_none _).mp hfound order horder)
  | createOrder | cancelOrder =>
    rcases hask with rfl | ⟨_, rfl⟩
    · cases hserved
    · cases hserved

theorem ordersStep_of_pipeline_step {p p' : Pipeline Database PublicationColumns} {k : PipelineLabel}
    (hs : (postgresSaga svc).Reachable DeliveredOnce p.stages.saga)
    (hstep : Pipeline.Step postgresRelayed svc names p k p') :
    OrdersStep (databaseOf p.stages.saga) (databaseOf p'.stages.saga) := by
  cases hstep with
  | @stage l t reached hl hstep =>
    cases hstep with
    | saga hown hstep => exact ordersStep_of_step hs hstep
    | _ => exact ordersStep_same rfl
  | _ => exact ordersStep_same rfl

theorem sound_of_deployment (hd : (deployment svc names).Reachable cond d) :
    (pipeline postgresRelayed svc names).Reachable Lts.anyStep d.pipeline ∧
      ∀ a ∈ d.adapters, AdapterSound d.database a := by
  refine Lts.Reachable.invariant (P := fun d : Deployment =>
    (pipeline postgresRelayed svc names).Reachable Lts.anyStep d.pipeline ∧
      ∀ a ∈ d.adapters, AdapterSound d.database a)
    ?_ ?_ hd
  · rintro d ⟨hpipeline, hadapters⟩
    rw [hadapters]
    exact ⟨.start hpipeline, List.forall_mem_nil _⟩
  · rintro d l d' _ ⟨hpipeline, ih⟩ hstep _
    have hsaga := saga_of_postgres_pipeline hpipeline
    have href := referenced_of_reachable hsaga
    cases hstep with
    | pipeline hstep =>
      refine ⟨.step hpipeline hstep trivial, fun a ha => ?_⟩
      exact (ih a ha).of_ordersStep (ordersStep_of_pipeline_step hsaga hstep)
    | @call i job trace c next served hthread hserved =>
      refine ⟨hpipeline, fun a ha => ?_⟩
      rcases List.mem_append.mp ha with ha | ha
      · exact ih a ha
      · rw [List.mem_singleton.mp ha]
        obtain ⟨row, hrow⟩ := order_of_port hsaga hthread hserved
        have hfollows := served.program_follows (href row (Database.order?_eq_some hrow).1)
        exact ⟨row, hrow, hfollows, List.forall_mem_nil _⟩
    | adapter hrun hreply =>
      refine ⟨hpipeline, fun a ha => ?_⟩
      rcases List.mem_or_eq_of_mem_set ha with ha | rfl
      · exact ih a ha
      · exact (ih _ (List.mem_of_getElem? hrun)).answer href hreply

/-- **Adapters serve on the terms of the order.** Whatever rewrote the order in the meantime, an adapter has asked
for the amount, in the currency and with the references the row has now, and was accepted; and what it returned is
the payment, or the shipment, of that order. It fails its handler only with an error of the order reader. -/
theorem adapters_serve_on_terms (svc : Service) (names : Queue → String) {d : Deployment}
    (hd : (deployment svc names).Reachable Lts.anyStep d) {a : AdapterThread} (ha : a ∈ d.adapters) :
    ∃ row, d.database.order? a.job.event.orderID = some row ∧
      (∀ request r, ⟨.authorize request, r⟩ ∈ a.trace →
        request = row.terms.paymentRequest ∧ r = .ok ⟨"pay_fake_" ++ row.orderID, .authorized⟩) ∧
      (∀ request r, ⟨.createShipment request, r⟩ ∈ a.trace → request = row.terms.shipmentRequest ∧
        r = .ok ⟨"shp_fake_" ++ row.orderID, "fake-carrier", "TRACK-" ++ row.orderID⟩) ∧
      ∀ given, a.prog = .ret given → row.terms.Serves a.job given ∨ a.job.ReaderFailed a.trace given := by
  obtain ⟨hpipeline, hsound⟩ := sound_of_deployment hd
  obtain ⟨row, hrow, hfollows, htrace⟩ := hsound a ha
  have href := referenced_of_reachable (saga_of_postgres_pipeline hpipeline) row (Database.order?_eq_some hrow).1
  refine ⟨row, hrow, fun request r hx => ?_, fun request r hx => ?_, fun given hgiven => ?_⟩
  · obtain ⟨hr, hasks⟩ := htrace _ hx
    have hrequest : request = row.terms.paymentRequest := by
      cases hjob : a.job with
      | payment event =>
        rw [hjob] at hasks
        exact hasks
      | shipment event =>
        rw [hjob] at hasks
        exact hasks.elim
    subst hrequest
    exact ⟨rfl, hr.trans (if_neg href.credential)⟩
  · obtain ⟨hr, hasks⟩ := htrace _ hx
    have hrequest : request = row.terms.shipmentRequest := by
      cases hjob : a.job with
      | payment event =>
        rw [hjob] at hasks
        exact hasks.elim
      | shipment event =>
        rw [hjob] at hasks
        exact hasks
    subst hrequest
    exact ⟨rfl, hr.trans (if_neg href.address)⟩
  · rw [hgiven] at hfollows
    exact hfollows.returns fun x hx => (htrace x hx).1

/-! ### A scripted run -/

/-- The acts of a script for the deployed system. -/
inductive DeploymentAct
  | pipeline (act : PipelineAct)
  | call (i : Nat)
  | adapter (k : Nat) (now : Time)

def Database.reply (db : Database) (now : Time) : (c : AdapterCall) → c.Answer
  | .getOrder orderID => db.getOrderTx orderID
  | .authorize request => Providers.FakePaymentProvider.authorize request
  | .createShipment request => Providers.FakeShipmentProvider.createShipment request
  | .clock => now

theorem Database.replies_reply (db : Database) (now : Time) (c : AdapterCall) : db.Replies c (db.reply now c) := by
  cases c with
  | getOrder orderID => exact .inl rfl
  | clock => trivial
  | _ => rfl

def DeploymentAct.apply (svc : Service) (d : Deployment) : DeploymentAct → Option (DeploymentLabel × Deployment)
  | .pipeline act => (act.apply postgresScript svc d.pipeline).map fun x => (.pipeline x.1, { d with pipeline := x.2 })
  | .call i =>
    match d.saga.threads[i]? with
    | some ⟨_, _, .call (.port c) _⟩ =>
      (adapterFor c).map fun served =>
        (.call i, { d with adapters := d.adapters ++ [⟨served, [], served.program⟩] })
    | _ => none
  | .adapter k now =>
    match d.adapters[k]? with
    | some ⟨job, trace, .call c next⟩ => some (.adapter k c (d.database.reply now c), { d with
        adapters := d.adapters.set k ⟨job, trace ++ [⟨c, d.database.reply now c⟩], next (d.database.reply now c)⟩ })
    | _ => none

theorem DeploymentAct.step {a : DeploymentAct} (h : a.apply svc d = some (l, d')) :
    (deployment svc Queue.name).step d l d' := by
  cases a with
  | pipeline act =>
    obtain ⟨⟨k, p⟩, hact, heq⟩ := Option.map_eq_some_iff.mp h
    cases heq
    exact .pipeline (PipelineAct.step hact)
  | call i =>
    simp only [DeploymentAct.apply] at h
    split at h
    · rename_i job trace c next hthread
      obtain ⟨served, hserved, heq⟩ := Option.map_eq_some_iff.mp h
      cases heq
      exact .call hthread hserved
    · cases h
  | adapter k now =>
    simp only [DeploymentAct.apply] at h
    split at h
    · rename_i job trace c next hrun
      cases h
      exact .adapter hrun (d.database.replies_reply now c)
    · cases h

def deploymentSimulator (svc : Service) : Simulator (deployment svc Queue.name) DeploymentAct where
  next := fun d a => a.apply svc d
  sound := DeploymentAct.step

/-- A relay publishes the next event and marks it, and a worker of the queue starts to handle it. -/
def stageActs (relay worker : Nat) (queue : Queue) : List PipelineAct :=
  [.startRelay 10, .relay relay 0, .relay relay 0, .relay relay 0, .relay relay 0, .deliver queue postgresWorker 0,
    .work worker, .handle worker]

/-- An order is created and its stock reserved, and the payment handler calls its port. -/
def reservedActs : List PipelineAct :=
  createActs.map .saga ++ stageActs 0 0 .inventoryReserve ++
    [.saga (.reply 1 (.time 2)), .saga (.reply 1 (.id "2")), .saga (.store 1)] ++
    stageActs 1 1 .paymentsAuthorize ++ [.saga (.reply 2 (.time 3))]

def AdapterCall.amount : AdapterCall → Option Int
  | .authorize request => some request.amount
  | _ => none

/-- The payment of an order is asked for at the order's total. -/
theorem adapters_serve_on_terms_payment : ∃ d, (deployment sampleService Queue.name).Reachable Lts.anyStep d ∧
    ∃ a ∈ d.adapters, ∃ request r row, ⟨.authorize request, r⟩ ∈ a.trace ∧ request.amount = 2200 ∧
      d.database.order? a.job.event.orderID = some row ∧ request = row.terms.paymentRequest ∧
      r = .ok ⟨"pay_fake_" ++ row.orderID, .authorized⟩ := by
  obtain ⟨d, hd, a, ha, ⟨c, r⟩, hx, hamount⟩ := (deploymentSimulator sampleService).exists_reachable
    (Q := fun d => ∃ a ∈ d.adapters, ∃ x ∈ a.trace, x.1.amount = some 2200) decides_anyStep
    (s := ⟨emptyPipeline (sampleCatalog "w1") fun _ => (none, none), []⟩)
    (.start ⟨⟨⟨rfl, rfl, ⟨unused_sampleCatalog "w1", rfl⟩, rfl⟩, rfl, rfl, rfl, rfl⟩, rfl⟩)
    (reservedActs.map .pipeline ++ [.call 2, .adapter 0 0, .adapter 0 0]) (by decide +kernel)
  cases c with
  | authorize request =>
    obtain ⟨row, hrow, hpayments, _⟩ := adapters_serve_on_terms sampleService Queue.name hd ha
    exact ⟨d, hd, a, ha, request, r, row, hx, Option.some.inj hamount, hrow, hpayments request r hx⟩
  | _ => cases hamount

end FulfillHub
