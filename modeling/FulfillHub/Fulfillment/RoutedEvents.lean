import FulfillHub.Fulfillment.Clients
import FulfillHub.Fulfillment.EventBounds
import FulfillHub.Fulfillment.Identity

/-!
# Handlers get what they expect

Queues are bound by routing keys, and handlers switch on event types. The two fit: as long as messages travel under
the key of their type, a handler is run only on events it takes. A retry keeps the key of its message, but a replay
is given its key by the operator, and with the wrong one a queue's handler gets events it refuses.
-/

namespace FulfillHub

open Interaction

variable {S M : Type} {store : RelayedStore S M} {svc : Service} {names : Queue → String} {p p' : Pipeline S M}
  {l : PipelineLabel} {delivery : Delivery}

/-! ### Messages under their keys -/

/-- The message travels under the key of its type. -/
def Delivery.Keyed (delivery : Delivery) : Prop :=
  ∀ event, decodeDelivery delivery = .ok event → delivery.routingKey = FulfillHub.routingKey event.eventType

/-- Merchants' requests come with a correlation id, and operators replay messages under the key of their type. -/
def TidyPipeline (p : Pipeline S M) (l : PipelineLabel) : Prop :=
  OnStages (OnSagaSteps Correlated) p l ∧
    ∀ j delivery r reached, l = .replay j (.publish delivery) r reached → delivery.Keyed

theorem keyed_publication (event : OutboxEvent) : (publication event).Keyed := by
  intro decoded hdecoded
  have htype := congrArg Envelope.eventType (envelope_of_publication hdecoded)
  change routingKey event.withEnvelopeDefaults.eventType = routingKey decoded.envelope.eventType
  rw [htype, OutboxEvent.withEnvelopeDefaults_eventType]
  rfl

theorem Delivery.Keyed.retry (h : delivery.Keyed) {event : OutboxEvent} (hdecode : decodeDelivery delivery = .ok event)
    (attempt : Int) : (retryDelivery delivery event attempt).Keyed := by
  intro decoded hdecoded
  rw [decodeDelivery_retryDelivery hdecode] at hdecoded
  cases hdecoded
  unfold retryDelivery
  dsimp only
  split_ifs
  · rfl
  · exact h event hdecode

/-- Messages travel under their keys, and workers were handed messages their queue is bound to. -/
structure Pipeline.Routed (p : Pipeline S M) : Prop where
  carried : ∀ delivery, p.broker.Carries delivery → delivery.Keyed
  workers : ∀ w ∈ p.stages.workers, w.job.delivery.Keyed ∧ w.job.queue ∈ boundQueues w.job.delivery.routingKey

theorem Pipeline.Sends.keyed (h : p.Sends l delivery) (htidy : TidyPipeline p l) (hp : p.Routed) : delivery.Keyed := by
  cases h with
  | relay ht hclaimed => exact keyed_publication _
  | retry hw hdecode => exact (hp.workers _ hw).1.retry hdecode _
  | replay ht htaken => exact htidy.2 _ _ _ _ rfl

theorem job_of_mem (hstep : Pipeline.Step store svc names p l p') {w : StageWorker} (hw : w ∈ p'.stages.workers) :
    (∃ v ∈ p.stages.workers, w.job = v.job) ∨ p.broker.Has (.worker w.job.queue) w.job.delivery := by
  cases hstep with
  | stage reached hl hstep =>
    obtain ⟨j, hj⟩ := List.mem_iff_getElem?.mp hw
    rcases hstep.worker_cases hj with hold | ⟨job, rfl, _⟩ | ⟨v, _, _, _, hv, _, rfl⟩ |
      ⟨v, _, _, _, _, _, hv, _, rfl⟩
    · exact .inl ⟨w, List.mem_of_getElem? hold, rfl⟩
    · cases hl
    · exact .inl ⟨v, List.mem_of_getElem? hv, rfl⟩
    · exact .inl ⟨v, List.mem_of_getElem? hv, rfl⟩
  | @deliver job k broker hname htake =>
    rcases List.mem_append.mp hw with hw | hw
    · exact .inl ⟨w, hw, rfl⟩
    · rw [List.mem_singleton.mp hw]
      exact .inr (.inl (List.mem_of_getElem? (Broker.take_eq_some htake).1))
  | _ => exact .inl ⟨w, hw, rfl⟩

theorem routed_of_reachable (hp : (pipeline store svc names).Reachable TidyPipeline p) : p.Routed := by
  refine Lts.Reachable.invariant (P := Pipeline.Routed) ?_ ?_ hp
  · rintro p ⟨⟨_, hworkers, _⟩, _, _, _, hbroker⟩
    refine ⟨fun delivery h => ?_, fun w hw => ?_⟩
    · obtain ⟨place, h⟩ := h
      exact absurd (hbroker ▸ h) Broker.not_has_empty
    · rw [hworkers] at hw
      cases hw
  · intro p l p' hreach ih hstep htidy
    refine ⟨fun delivery h => ?_, fun w hw => ?_⟩
    · rcases (copies_of_step (sound_of_reachable hreach) hstep).carries h with h | hsent
      · exact ih.carried delivery h
      · exact hsent.keyed htidy ih
    · rcases job_of_mem hstep hw with ⟨v, hv, hjob⟩ | hhas
      · rw [hjob]
        exact ih.workers v hv
      · exact ⟨ih.carried _ ⟨_, hhas⟩, bound_of_reachable hreach _ _ hhas⟩

/-! ### Bindings and handlers fit -/

theorem Queue.expects_of_outcome (writer : Queue) :
    ∀ eventType ∈ writer.outcomes, ∀ queue ∈ boundQueues (routingKey eventType), queue.expects eventType = true := by
  cases writer <;> decide

/-- Of the events the service and the handlers write, a queue is bound to those its handler expects. -/
theorem Queue.expects_of_bound {queue : Queue} {eventType : EventType}
    (hwritten : eventType = .orderCreated ∨ eventType = .orderCancelRequested ∨
      ∃ writer : Queue, eventType ∈ writer.outcomes)
    (hbound : queue ∈ boundQueues (routingKey eventType)) : queue.expects eventType = true := by
  rcases hwritten with rfl | rfl | ⟨writer, hmem⟩
  · revert queue
    decide
  · revert queue
    decide
  · exact expects_of_outcome writer eventType hmem queue hbound

theorem identity_of_decoded {event : OutboxEvent} (hdecode : decodeDelivery delivery = .ok event)
    (hcomplete : event.envelope.Complete) : validateEventIdentity event = .ok () := by
  obtain ⟨hmessage, hcorrelation, hcausation, horder, hmerchant⟩ := hcomplete
  obtain ⟨body, _, _, rfl⟩ := decodeDelivery_eq_ok.mp hdecode
  refine identity_eq_ok.mpr ⟨hmessage, hcorrelation, ?_, horder, hmerchant⟩
  rw [OutboxEvent.envelope_withEnvelopeDefaults] at hcausation
  rw [OutboxEvent.withEnvelopeDefaults_causationID]
  exact hcausation

/-- **Handlers get what they expect.** In every run of the pipeline in which merchants' requests are correlated and
operators replay messages under the key of their type, each handler run is on an event that passes its validation. -/
theorem handlers_get_expected (svc : Service) (names : Queue → String) {p : Pipeline MemoryStore OutboxMarks}
    (hp : (pipeline memoryRelayed svc names).Reachable TidyPipeline p) {u : SagaThread}
    (hu : u ∈ p.stages.saga.threads) {queue : Queue} {deps : Dependencies} {event : OutboxEvent}
    (hjob : u.job = .handle queue deps event) : Validated queue event := by
  have hsound := sound_of_reachable hp
  obtain ⟨k, hk⟩ := List.mem_iff_getElem?.mp hu
  -- the worker that started the run
  obtain ⟨i, w, hw, hhandler⟩ := (linked_of_reachable hsound.stages).worker k u hk (by rw [hjob]; rfl)
  obtain ⟨t, decoded, ht, hdecode, htjob, _⟩ := (linked_of_reachable hsound.stages).thread i w k hw hhandler
  cases ht.symm.trans hk
  cases htjob.symm.trans hjob
  have hmem := List.mem_of_getElem? hw
  obtain ⟨hkeyed, hbound⟩ := (routed_of_reachable hp).workers w hmem
  have henvelope := (worker_origin hsound.stages hmem).2 event hdecode
  have hsaga := saga_of_pipeline (fun _ _ _ => trivial) (hp.mono fun _ _ htidy => htidy.1)
  rw [hkeyed event hdecode] at hbound
  refine ⟨Queue.expects_of_bound (type_of_mem hsaga henvelope) hbound, identity_of_decoded hdecode ?_⟩
  exact complete_of_mem (fun _ _ h => h.2.2) hsaga henvelope

def PipelineLabel.isReplay : PipelineLabel → Bool
  | .replay _ _ _ _ => true
  | _ => false

theorem decides_tidy : Decides (pipeline store svc names)
    (fun _ l _ => (l.saga?.all fun k => decide (Correlated k)) && !l.isReplay) TidyPipeline := by
  intro p l p' hstep hcheck
  obtain ⟨hsaga, hreplay⟩ := (Bool.and_eq_true _ _).mp hcheck
  refine ⟨decides_onSagaSteps Correlated p l p' hstep hsaga, fun j delivery r reached hl => ?_⟩
  rw [hl] at hreplay
  cases hreplay

def Job.runsQueue (queue : Queue) : Job → Bool
  | .handle q _ _ => decide (q = queue)
  | _ => false

/-- The handler that reserves the stock of an order was run on its creation. -/
theorem handlers_get_expected_reserved : ∃ p : Pipeline MemoryStore OutboxMarks,
    (pipeline memoryRelayed sampleService Queue.name).Reachable TidyPipeline p ∧
    ∃ u ∈ p.stages.saga.threads, ∃ deps event, u.job = .handle .inventoryReserve deps event ∧
      Validated .inventoryReserve event := by
  obtain ⟨p, hp, u, hu, hhandler⟩ := (pipelineSimulator memoryScript sampleService).exists_reachable
    (Q := fun p => ∃ u ∈ p.stages.saga.threads, u.job.runsQueue .inventoryReserve = true)
    decides_tidy reachable_emptyMemory memoryTwice (by decide +kernel)
  cases hjob : u.job with
  | handle queue deps event =>
    rw [hjob] at hhandler
    cases of_decide_eq_true hhandler
    exact ⟨p, hp, u, hu, deps, event, hjob, handlers_get_expected sampleService Queue.name hp hu hjob⟩
  | _ => rw [hjob] at hhandler; cases hhandler

end FulfillHub
