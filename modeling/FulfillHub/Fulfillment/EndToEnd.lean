import FulfillHub.Fulfillment.Pipeline
import FulfillHub.Postgres.MirroredRuns

/-!
# The pipeline from end to end

What the inbox ensures of the saga holds in the whole pipeline: handlers run on events of the outbox, and no run
of a queue for a message succeeds after another. These were the conditions under which the ledger of events, the
projections of PostgreSQL and the lifecycle of orders were shown to be in order. In the pipeline they are facts,
so the results hold of every run of it, with whatever crashes, is delivered twice, retried or replayed.
-/

namespace FulfillHub

open Interaction

variable {S M : Type} {store : RelayedStore S M} {svc : Service} {names : Queue → String} {p p' : Pipeline S M}

/-! ### The saga in the pipeline -/

/-- A condition on the saga's own steps. -/
def OnSagaSteps (cond : SagaLabel → Prop) (_ : Stages S) (l : StageLabel) : Prop :=
  ∀ k, l = .saga k → cond k

theorem saga_of_stages {store : OutboxStore S} {cond : SagaLabel → Prop}
    (hspawn : ∀ queue deps event, cond (.spawn (.handle queue deps event))) {s : Stages S}
    (hs : (stages store svc names).Reachable (OnSagaSteps cond) s) :
    (saga store svc).Reachable (fun s l => InboxRun store s l ∧ cond l) s.saga := by
  refine Lts.Reachable.project (M := stages store svc names) (f := Stages.saga) (fun s hinit => hinit.2.2) ?_ hs
  intro s l t hreach _ hstep hcond
  cases hstep with
  | deliver | reply => exact .inl rfl
  | handle hw hprog hnone =>
    exact .inr ⟨_, .spawn _ _, exclusive_handle hreach hw hprog hnone, hspawn _ _ _⟩
  | @saga l t hown hstep =>
    refine .inr ⟨l, hstep, ?_, hcond l rfl⟩
    cases l with
    | answer i c r => exact ⟨trivial, trivial⟩
    | spawn job =>
      cases job with
      | handle queue deps event => cases hown
      | _ => exact ⟨trivial, fun u hu hsame => by cases hsame⟩

/-- The saga of the pipeline handles events of the outbox, each successfully at most once per queue. -/
theorem saga_of_pipeline {cond : SagaLabel → Prop}
    (hspawn : ∀ queue deps event, cond (.spawn (.handle queue deps event)))
    (hp : (pipeline store svc names).Reachable (OnStages (OnSagaSteps cond)) p) :
    (saga store.toOutboxStore svc).Reachable
      (fun s l => FromOutbox store.toOutboxStore s l ∧ AtMostOnce s l ∧ cond l) p.stages.saga := by
  have hsaga := saga_of_stages hspawn (stages_of_pipeline hp)
  have honce : (saga store.toOutboxStore svc).Reachable (fun s l => _ ∧ AtMostOnce s l) p.stages.saga :=
    hsaga.strengthen fun s l _ hreach _ _ => atMostOnce_of_exclusive (fun _ _ h => h.1.2) hreach
  exact honce.mono fun s l h => ⟨h.1.1.1, h.2, h.1.2⟩

theorem onStages_of_anyStep (hp : (pipeline store svc names).Reachable Lts.anyStep p) :
    (pipeline store svc names).Reachable (OnStages (OnSagaSteps fun _ => True)) p :=
  hp.mono fun _ _ _ _ _ _ _ => trivial

/-! ### Effectively once -/

/-- **The pipeline is effectively once.** Over any store with an outbox: every message in a queue, a retry queue or a
dead-letter queue, or with a worker or an operator, that decodes has the envelope of an event of the outbox; per
consumer name and message the handler has returned nil at most once; and an order has at most one reservation
outcome, one payment outcome, one shipment outcome and one completion in the outbox. -/
theorem pipeline_effectively_once (store : RelayedStore S M) (svc : Service) (names : Queue → String)
    {p : Pipeline S M} (hp : (pipeline store svc names).Reachable Lts.anyStep p) :
    (∀ delivery event, p.broker.Carries delivery → decodeDelivery delivery = .ok event →
      ∃ stored ∈ store.outbox p.stages.saga.shared.store, event.envelope = stored.envelope) ∧
    (∀ name messageID, p.stages.nilReturns name messageID ≤ 1) ∧
    ∀ orderID, ∀ outcomes ∈ stageOutcomes, (store.outbox p.stages.saga.shared.store).countP
      (fun e => decide (e.orderID = orderID ∧ e.eventType ∈ outcomes)) ≤ 1 := by
  have hsound := sound_of_reachable hp
  refine ⟨?_, nilReturns_le_one hsound.stages, fun orderID _ houtcomes => ?_⟩
  · intro delivery event hcarried hdecode
    obtain ⟨stored, hstored, henvelope⟩ := List.mem_map.mp (hsound.carried delivery hcarried event hdecode)
    exact ⟨stored, hstored, henvelope.symm⟩
  · exact outcomes_le_one hsound.stages orderID houtcomes

/-! ### Scripted runs -/

/-- Claims and marks that succeed, computed. -/
structure RelayScript (store : RelayedStore S M) where
  pending : S → M → Int → Time → Option (List OutboxEvent × M)
  mark : S → M → String → Time → Option M
  pending_sound : ∀ s m limit now claimed m', pending s m limit now = some (claimed, m') →
    store.pending s m limit now (.ok claimed) m'
  mark_sound : ∀ s m id publishedAt m', mark s m id publishedAt = some m' →
    store.mark s m id publishedAt (.ok ()) m'

def memoryScript : RelayScript memoryRelayed where
  pending s m limit now := some (m.pendingOutboxEvents s.outbox limit now)
  mark _ m id publishedAt := some (m.markOutboxPublished id publishedAt)
  pending_sound s m limit now claimed m' h := by
    rw [Option.some.injEq] at h
    exact ⟨by rw [h], by rw [h]⟩
  mark_sound s m id publishedAt m' h := ⟨rfl, (Option.some.inj h).symm⟩

/-- A claim of all the free rows, when they are not more than asked for. -/
def postgresScript : RelayScript postgresRelayed where
  pending db columns limit now :=
    let free := (db.outboxTable columns).rows.filter (OutboxTable.isFree now)
    if free.length ≤ OutboxTable.claimLimit limit then
      some (free.map fun row => row.event.withEnvelopeDefaults, ((db.outboxTable columns).claim free now).columns)
    else none
  mark db columns id publishedAt :=
    if (db.outboxTable columns).rows.any (OutboxTable.isMarkable id) then
      some ((db.outboxTable columns).marked id publishedAt).columns
    else none
  pending_sound db columns limit now claimed columns' h := by
    dsimp only at h
    split_ifs at h with hfits
    cases h
    refine ⟨_, ⟨_, ⟨[], ?_, ?_, fun _ _ _ hb => by cases hb⟩, .inl ⟨rfl, rfl⟩⟩, rfl⟩
    · rw [List.append_nil]
    · omega
  mark_sound db columns id publishedAt columns' h := by
    split_ifs at h with hany
    cases h
    exact ⟨_, .inl ⟨by rw [if_pos hany], rfl⟩, rfl⟩

/-- The acts of a script for the pipeline: every call reaches the broker and is answered without a fault. -/
inductive PipelineAct
  | saga (act : Act)
  | deliver (queue : Queue) (deps : Dependencies) (k : Nat)
  | handle (i : Nat)
  | work (i : Nat)
  | startRelay (limit : Int)
  | relay (i : Nat) (now : Time)

/-- The answer to a relay's call, and the marks afterwards. -/
def RelayScript.reply (script : RelayScript store) (s : S) (m : M) (now : Time) :
    (c : RelayCall) → Option (c.Answer × M)
  | .append _ => none
  | .pendingOutboxEvents limit => (script.pending s m limit now).map fun claim => (.ok claim.1, claim.2)
  | .publish _ => some (.ok (), m)
  | .clock => some (now, m)
  | .markOutboxPublished messageID publishedAt => (script.mark s m messageID publishedAt).map fun m' => (.ok (), m')

theorem RelayScript.answers_of_reply {script : RelayScript store} {s : S} {m m' : M} {now : Time} {c : RelayCall}
    {r : c.Answer} (h : script.reply s m now c = some (r, m')) : store.Answers s m c r m' := by
  cases c with
  | append event => cases h
  | pendingOutboxEvents limit =>
    obtain ⟨⟨claimed, marks⟩, hpending, heq⟩ := Option.map_eq_some_iff.mp h
    cases heq
    exact ⟨now, script.pending_sound _ _ _ _ _ _ hpending⟩
  | publish event => cases h; rfl
  | clock => cases h; rfl
  | markOutboxPublished messageID publishedAt =>
    obtain ⟨marks, hmark, heq⟩ := Option.map_eq_some_iff.mp h
    cases heq
    exact script.mark_sound _ _ _ _ _ hmark

def PipelineAct.apply (script : RelayScript store) (svc : Service) (p : Pipeline S M) :
    PipelineAct → Option (PipelineLabel × Pipeline S M)
  | .saga act =>
    match act.apply store.toOutboxStore svc p.stages.saga with
    | some (l, t) =>
      if SagaLabel.isOwn l then
        some (.stage (.saga l) true, { p with stages := { p.stages with saga := t } })
      else none
    | none => none
  | .deliver queue deps k =>
    match p.broker.take (.worker p.stages.workers.length) (.worker queue) k with
    | some (delivery, broker) =>
      let job : StageJob := ⟨queue, queueConsumer queue, deps, delivery⟩
      some (.deliver job k,
        { p with stages := { p.stages with workers := p.stages.workers ++ [.start job] }, broker := broker })
    | none => none
  | .handle i =>
    match p.stages.workers[i]? with
    | some ⟨⟨job, trace, .call (.handle event) next⟩, none⟩ =>
      some (.stage (.handle i) true,
        { p with
          stages :=
            { p.stages with
              workers := p.stages.workers.set i
                (StageWorker.runs ⟨⟨job, trace, .call (.handle event) next⟩, none⟩ p.stages.saga.threads.length)
              saga := ⟨p.stages.saga.shared, p.stages.saga.threads ++
                [(sagaSpec store.toOutboxStore svc).fresh (.handle job.queue job.deps event)]⟩ } })
    | _ => none
  | .work i =>
    match p.stages.workers[i]? with
    | some ⟨⟨job, trace, .call call next⟩, handler⟩ =>
      match p.stages.faultless ⟨⟨job, trace, .call call next⟩, handler⟩ call with
      | some (r, inbox) =>
        some (.stage (.reply i call r false) true,
          { p with
            stages :=
              { p.stages with
                inbox := inbox
                workers := p.stages.workers.set i
                  (StageWorker.advance ⟨⟨job, trace, .call call next⟩, handler⟩ call r next) }
            broker := p.broker.serve (.worker i) none call })
      | none => none
    | _ => none
  | .startRelay limit =>
    some (.startRelay limit, { p with relays := p.relays ++ [⟨limit, [], Relay.runOnce limit⟩] })
  | .relay i now =>
    match p.relays[i]? with
    | some ⟨limit, trace, .call c next⟩ =>
      match script.reply p.stages.saga.shared.store p.marks now c with
      | some (r, marks) =>
        some (.relay i c r true,
          { p with
            marks := marks
            relays := p.relays.set i ⟨limit, trace ++ [⟨c, r⟩], next r⟩
            broker := p.broker.afterRelay c })
      | none => none
    | _ => none

theorem PipelineAct.step {script : RelayScript store} {a : PipelineAct} {l : PipelineLabel}
    (h : a.apply script svc p = some (l, p')) : (pipeline store svc Queue.name).step p l p' := by
  cases a with
  | saga act =>
    simp only [PipelineAct.apply] at h
    split at h
    · rename_i l' t hact
      split_ifs at h with hown
      cases h
      exact .stage true rfl (.saga hown (Act.step hact))
    · cases h
  | deliver queue deps k =>
    simp only [PipelineAct.apply] at h
    split at h
    · rename_i delivery broker htake
      cases h
      exact .deliver rfl htake
    · cases h
  | handle i =>
    simp only [PipelineAct.apply] at h
    split at h
    · rename_i job trace event next hw
      cases h
      exact .stage true rfl (.handle hw rfl rfl)
    · cases h
  | work i =>
    simp only [PipelineAct.apply] at h
    split at h
    · rename_i job trace call next handler hw
      split at h
      · rename_i r inbox hreply
        cases h
        exact .stage true rfl (.reply hw rfl (Stages.replies_of_faultless hreply))
      · cases h
    · cases h
  | startRelay limit =>
    cases h
    exact .startRelay p limit
  | relay i now =>
    simp only [PipelineAct.apply] at h
    split at h
    · rename_i limit trace c next hthread
      split at h
      · rename_i r marks hreply
        cases h
        exact .relay true hthread (RelayScript.answers_of_reply hreply)
      · cases h
    · cases h

def pipelineSimulator (script : RelayScript store) (svc : Service) :
    Simulator (pipeline store svc Queue.name) PipelineAct where
  next := fun p a => a.apply script svc p
  sound := PipelineAct.step

/-- The saga's own step that a step of the pipeline makes. -/
def PipelineLabel.saga? : PipelineLabel → Option SagaLabel
  | .stage (.saga k) _ => some k
  | _ => none

theorem decides_onSagaSteps (cond : SagaLabel → Prop) [DecidablePred cond] :
    Decides (pipeline store svc names) (fun _ l _ => l.saga?.all fun k => decide (cond k))
      (OnStages (OnSagaSteps cond)) := by
  intro p l p' _ hcheck k hk own hown
  subst hown
  cases l with
  | stage l reached =>
    cases hk
    exact of_decide_eq_true hcheck
  | _ => cases hk

/-- An order is created, and a relay publishes its event and stops before marking it. When the claim has run out,
a second relay publishes the event again and marks it. Both copies are delivered: one worker reserves the stock,
the other acknowledges a duplicate. -/
def twiceActs (deps : Dependencies) (reserve : List Act) : List PipelineAct :=
  createActs.map .saga ++ [.startRelay 10, .relay 0 1, .relay 0 1, .startRelay 10, .relay 1 (1 + 31 * Time.second),
    .relay 1 0, .relay 1 5, .relay 1 0, .deliver .inventoryReserve deps 0, .deliver .inventoryReserve deps 0,
    .work 0, .work 1, .handle 0] ++ reserve.map .saga ++ [.work 0, .work 0, .work 1]

def emptyPipeline (db : S) (marks : M) : Pipeline S M :=
  ⟨⟨[], [], ⟨⟨db, []⟩, []⟩⟩, marks, [], [], .empty⟩

def emptyMemory : Pipeline MemoryStore OutboxMarks := emptyPipeline emptySaga.shared.store .empty

theorem reachable_emptyMemory {cond : Pipeline MemoryStore OutboxMarks → PipelineLabel → Prop} :
    (pipeline memoryRelayed sampleService Queue.name).Reachable cond emptyMemory :=
  .start ⟨⟨rfl, rfl, ⟨rfl, rfl⟩, rfl⟩, rfl, rfl, rfl, rfl⟩

def memoryTwice : List PipelineAct :=
  twiceActs allProviders [.reply 1 (.time 2), .reply 1 (.reservation (.ok ())), .reply 1 (.id "2"), .store 1]

theorem pipeline_effectively_once_twice : ∃ p,
    (pipeline memoryRelayed sampleService Queue.name).Reachable Lts.anyStep p ∧
    p.stages.workers.length = 2 ∧ p.marks.isPublished "msg_1" = true ∧
    p.stages.nilReturns Queue.inventoryReserve.name "msg_1" = 1 ∧
    p.stages.saga.shared.store.outbox.countP (fun e => decide (e.orderID = "ord_1" ∧
      e.eventType ∈ [EventType.inventoryReserved, .inventoryRejected])) ≤ 1 := by
  obtain ⟨p, hp, hlength, hmarked, hnil⟩ := (pipelineSimulator memoryScript sampleService).exists_reachable
    (Q := fun p => p.stages.workers.length = 2 ∧ p.marks.isPublished "msg_1" = true ∧
      p.stages.nilReturns Queue.inventoryReserve.name "msg_1" = 1)
    decides_anyStep reachable_emptyMemory memoryTwice (by decide +kernel)
  refine ⟨p, hp, hlength, hmarked, hnil, ?_⟩
  exact (pipeline_effectively_once memoryRelayed sampleService Queue.name hp).2.2 "ord_1" _ (by simp [stageOutcomes])

theorem saga_of_postgres_pipeline {p : Pipeline Database PublicationColumns}
    (hp : (pipeline postgresRelayed svc names).Reachable Lts.anyStep p) :
    (postgresSaga svc).Reachable DeliveredOnce p.stages.saga :=
  (saga_of_pipeline (fun _ _ _ => trivial) (onStages_of_anyStep hp)).mono fun _ _ h => ⟨h.1, h.2.1⟩

/-- **The projections of PostgreSQL agree from end to end.** -/
theorem pipeline_projections_mirrored (svc : Service) (names : Queue → String)
    {p : Pipeline Database PublicationColumns}
    (hp : (pipeline postgresRelayed svc names).Reachable Lts.anyStep p) : MirrorInvariant p.stages.saga :=
  mirrorInvariant_of_reachable (saga_of_postgres_pipeline hp)

/-- The same run over PostgreSQL. -/
theorem pipeline_projections_mirrored_twice : ∃ p,
    (pipeline postgresRelayed sampleService Queue.name).Reachable Lts.anyStep p ∧
    (databaseOf p.stages.saga).orderItems.rows.map (·.reservationStatus) = [.reserved] ∧
    MirrorInvariant p.stages.saga := by
  obtain ⟨p, hp, hreserved⟩ := (pipelineSimulator postgresScript sampleService).exists_reachable
    (Q := fun p => (databaseOf p.stages.saga).orderItems.rows.map (·.reservationStatus) = [.reserved])
    decides_anyStep (s := emptyPipeline (sampleCatalog "w1") fun _ => (none, none))
    (.start ⟨⟨rfl, rfl, ⟨unused_sampleCatalog "w1", rfl⟩, rfl⟩, rfl, rfl, rfl, rfl⟩)
    (twiceActs postgresWorker [.reply 1 (.time 2), .reply 1 (.id "2"), .store 1]) (by decide +kernel)
  exact ⟨p, hp, hreserved, pipeline_projections_mirrored sampleService Queue.name hp⟩

/-- **Orders live by the lifecycle from end to end.** With providers that keep their contract, every order holds the
lines, the payment and the shipment its status calls for. -/
theorem pipeline_order_lifecycle (svc : Service) (names : Queue → String) {p : Pipeline MemoryStore OutboxMarks}
    (hp : (pipeline memoryRelayed svc names).Reachable (OnStages (OnSagaSteps ProvidersKeepContract)) p)
    {orderID : String} {order : Order} (horder : orderOf p.stages.saga orderID = some order) :
    LifecycleClause p.stages.saga orderID order := by
  have hlawful := lawful_of_reachable (saga_of_pipeline (fun _ _ _ => trivial) hp)
  obtain ⟨phase, hkept⟩ := hlawful.kept orderID order horder
  exact lifecycleClause_of_kept hkept

/-- The order whose event was published and delivered twice has its stock reserved, and nothing else. -/
theorem pipeline_order_lifecycle_twice : ∃ p, (pipeline memoryRelayed sampleService Queue.name).Reachable
      (OnStages (OnSagaSteps ProvidersKeepContract)) p ∧
    ∃ order, orderOf p.stages.saga "ord_1" = some order ∧ order.AllItems .reserved ∧ order.shipment = none := by
  obtain ⟨p, hp, hstatus⟩ := (pipelineSimulator memoryScript sampleService).exists_reachable
    (Q := fun p => (orderOf p.stages.saga "ord_1").map Order.status = some .inventoryReserved)
    (decides_onSagaSteps ProvidersKeepContract) reachable_emptyMemory memoryTwice (by decide +kernel)
  obtain ⟨order, horder, hreserved⟩ := Option.map_eq_some_iff.mp hstatus
  have hclause := pipeline_order_lifecycle sampleService Queue.name hp horder
  rw [LifecycleClause, hreserved] at hclause
  exact ⟨p, hp, order, horder, hclause.1, hclause.2.2⟩

end FulfillHub
