import FulfillHub.Fulfillment.EffectivelyOnce
import FulfillHub.Fulfillment.OrderLifecycle
import FulfillHub.Messaging.AtLeastOnce
import FulfillHub.Messaging.Broker
import FulfillHub.Postgres.Saga

/-!
# The whole pipeline

Everything between a committed order and its handlers, in one system: the store with its outbox, any number of
relays that claim, publish and mark, the broker, the workers of all queues with one inbox, and operators who
replay dead-letter queues. Any process may stop at any call. A publication, an acknowledgement or a rejection may
reach the broker or not, whatever the client is told, so a confirmation that belongs to another message is
covered; a delivery may come back while its worker goes on.

`Stages` lets the broker hand out copies of outbox events as it likes. The pipeline keeps to that: every copy it
carries decodes to an event of the outbox. So what was proved of the stages holds of the pipeline.
-/

namespace FulfillHub

open Interaction

variable {event : OutboxEvent} {delivery : Delivery} {trace : MessagingTrace}

/-! ### Stores that relays read -/

/-- A store with an outbox, and the relays' marks on it: which events are published, and until when they are
claimed. -/
structure RelayedStore (S M : Type) extends OutboxStore S where
  unmarked : M
  published : M → String → Bool
  pending : S → M → Int → Time → Except Error (List OutboxEvent) → M → Prop
  mark : S → M → String → Time → Except Error Unit → M → Prop
  published_unmarked : ∀ id, published unmarked id = false
  mem_pending : ∀ s m limit now claimed m', pending s m limit now (.ok claimed) m' → ∀ event ∈ claimed,
    ∃ stored ∈ outbox s, event = stored.withEnvelopeDefaults
  published_pending : ∀ s m limit now r m', pending s m limit now r m' → ∀ id, published m' id = true →
    published m id = true
  published_mark : ∀ s m id now r m', mark s m id now r m' → ∀ other, published m' other = true →
    published m other = true ∨ other = id

/-- The in-memory store with its two maps. -/
def memoryRelayed : RelayedStore MemoryStore OutboxMarks where
  toOutboxStore := memoryOutboxStore
  unmarked := .empty
  published := OutboxMarks.isPublished
  pending s m limit now r m' := r = .ok (m.pendingOutboxEvents s.outbox limit now).1 ∧
    m' = (m.pendingOutboxEvents s.outbox limit now).2
  mark _ m messageID publishedAt r m' := r = .ok () ∧ m' = m.markOutboxPublished messageID publishedAt
  published_unmarked := memoryOutbox.published_start ⟨[], .empty⟩ rfl
  mem_pending s m limit now claimed m' h event hevent := by
    obtain ⟨stored, hstored, heq, _⟩ := memoryOutbox.mem_pending ⟨s.outbox, m⟩ limit now claimed ⟨s.outbox, m'⟩
      ⟨h.1, by rw [h.2]⟩ event hevent
    exact ⟨stored, hstored, heq⟩
  published_pending s m limit now r m' h id hid := by
    rw [← hid]
    exact (memoryOutbox.published_pending ⟨s.outbox, m⟩ limit now r ⟨s.outbox, m'⟩ ⟨h.1, by rw [h.2]⟩ id).symm
  published_mark _ m id now r m' h :=
    memoryOutbox.published_mark ⟨[], m⟩ id now r ⟨[], m'⟩ ⟨h.1, by rw [h.2]⟩

/-- The columns `published_at` and `claimed_until` of `outbox_events`, by message id. -/
abbrev PublicationColumns := String → Option Time × Option Time

theorem Database.outboxRows_unique (db : Database) (columns : PublicationColumns) :
    (db.outboxEvents.rows.map fun event => (⟨event, (columns event.messageID).1, (columns event.messageID).2⟩ :
      OutboxRow)).Pairwise fun a b => OutboxRow.conflict a b = false :=
  List.pairwise_map.mpr db.outboxEvents.unique

/-- The table `outbox_events` with all its columns. -/
def Database.outboxTable (db : Database) (columns : PublicationColumns) : OutboxTable :=
  ⟨db.outboxEvents.rows.map fun event => ⟨event, (columns event.messageID).1, (columns event.messageID).2⟩,
    db.outboxRows_unique columns⟩

def OutboxTable.columns (t : OutboxTable) : PublicationColumns := fun messageID =>
  ((t.find? fun row => decide (row.messageID = messageID)).map
    fun row => (row.publishedAt, row.claimedUntil)).getD (none, none)

theorem OutboxTable.isPublished_of_columns {t : OutboxTable} {id : String}
    (h : (t.columns id).1.isSome = true) : t.isPublished id = true := by
  unfold columns at h
  cases hrow : t.find? fun row => decide (row.messageID = id) with
  | none =>
    rw [hrow] at h
    cases h
  | some row =>
    rw [hrow] at h
    have hid := List.find?_some (p := fun row : OutboxRow => decide (row.messageID = id)) hrow
    rw [decide_eq_true_eq] at hid
    rw [← hid, isPublished_of_mem (List.mem_of_find?_eq_some hrow)]
    exact h

theorem Database.columns_of_isPublished {db : Database} {columns : PublicationColumns} {id : String}
    (h : (db.outboxTable columns).isPublished id = true) : (columns id).1.isSome = true := by
  obtain ⟨row, hrow, hpublished⟩ := List.any_eq_true.mp h
  obtain ⟨event, _, rfl⟩ := List.mem_map.mp hrow
  rw [Bool.and_eq_true, decide_eq_true_eq] at hpublished
  rw [← hpublished.1]
  exact hpublished.2

/-- PostgreSQL with the publication columns of its outbox. -/
def postgresRelayed : RelayedStore Database PublicationColumns where
  toOutboxStore := postgresStore
  unmarked := fun _ => (none, none)
  published columns id := (columns id).1.isSome
  pending db columns limit now r columns' := ∃ t,
    (db.outboxTable columns).PendingOutboxEvents limit now r t ∧ columns' = t.columns
  mark db columns messageID publishedAt r columns' := ∃ t,
    (db.outboxTable columns).MarkOutboxPublished messageID publishedAt r t ∧ columns' = t.columns
  published_unmarked _ := rfl
  mem_pending db columns limit now claimed columns' h event hevent := by
    obtain ⟨t, hpending, _⟩ := h
    obtain ⟨stored, hstored, heq, _⟩ := postgresOutbox.mem_pending _ limit now claimed t hpending event hevent
    obtain ⟨row, hrow, rfl⟩ := List.mem_map.mp hstored
    obtain ⟨kept, hkept, rfl⟩ := List.mem_map.mp hrow
    exact ⟨kept, hkept, heq⟩
  published_pending db columns limit now r columns' h id hid := by
    obtain ⟨t, hpending, rfl⟩ := h
    have hkept := postgresOutbox.published_pending _ limit now r t hpending id
    exact Database.columns_of_isPublished (hkept.symm.trans (OutboxTable.isPublished_of_columns hid))
  published_mark db columns id now r columns' h other hother := by
    obtain ⟨t, hmark, rfl⟩ := h
    exact (postgresOutbox.published_mark _ id now r t hmark other
      (OutboxTable.isPublished_of_columns hother)).imp_left Database.columns_of_isPublished

/-! ### The system -/

abbrev RelayThread := Thread Int RelayCall.Answer (Nat × Option Error)

abbrev ReplayThread := Thread DLQReplayConfig MessagingCall.Answer (Nat × Except Error Unit)

structure Pipeline (S M : Type) where
  stages : Stages S
  marks : M
  relays : List RelayThread
  replays : List ReplayThread
  broker : Broker

/-- The steps of the pipeline. `reached` tells whether a call reached the broker. -/
inductive PipelineLabel
  | stage (l : StageLabel) (reached : Bool)
  | deliver (job : StageJob) (k : Nat)
  | startRelay (limit : Int)
  | relay (i : Nat) (c : RelayCall) (r : c.Answer) (reached : Bool)
  | startReplay (config : DLQReplayConfig)
  | replay (j : Nat) (call : MessagingCall) (r : call.Answer) (reached : Bool)
  | redeliver (client : Client)
  | expire (queue : Queue) (k : Nat)

variable {S M : Type}

/-- How the store, the publisher and the clock answer a relay. -/
def RelayedStore.Answers (store : RelayedStore S M) (s : S) (m : M) : (c : RelayCall) → c.Answer → M → Prop
  | .append _, _, _ => False
  | .pendingOutboxEvents limit, r, m' => ∃ now, store.pending s m limit now r m'
  | .publish _, _, m' => m' = m
  | .clock, _, m' => m' = m
  | .markOutboxPublished messageID publishedAt, r, m' => store.mark s m messageID publishedAt r m'

namespace Broker

/-- The broker after a call of a relay that reached it. -/
def afterRelay (b : Broker) : RelayCall → Broker
  | .publish event => b.publish .domain (publication event)
  | _ => b

/-- The broker after a call of a worker that reached it. -/
def afterStage (b : Broker) : StageLabel → Broker
  | .reply i call _ _ => b.serve (.worker i) none call
  | _ => b

/-- How the broker answers a replay. -/
def Replies (b : Broker) (client : Client) (config : DLQReplayConfig) (reached : Bool) :
    (call : MessagingCall) → call.Answer → Broker → Prop
  | .get, .ok (some delivery), b' => ∃ place k, place.name = config.queue ∧
      b.take client place k = some (delivery, b')
  | .get, .ok none, b' => b' = b ∧ ∀ place, place.name = config.queue → b.contents place = []
  | .get, .error _, b' => b' = b
  | call, _, b' => b' = if reached then b.serve client (BrokerExchange.ofName config.exchange) call else b

/-- A replay's call other than a successful `Get` is carried out by the broker or does not reach it. -/
theorem Replies.cases {b b' : Broker} {client : Client} {config : DLQReplayConfig} {reached : Bool}
    {call : MessagingCall} {r : call.Answer} (h : b.Replies client config reached call r b') :
    (∃ delivery place k, (⟨call, r⟩ : Exchange MessagingCall.Answer) = ⟨.get, .ok (some delivery)⟩ ∧
      b.take client place k = some (delivery, b')) ∨
    (∀ delivery, (⟨call, r⟩ : Exchange MessagingCall.Answer) ≠ ⟨.get, .ok (some delivery)⟩) ∧
      b' = if reached then b.serve client (BrokerExchange.ofName config.exchange) call else b := by
  cases call with
  | get =>
    rcases r with err | _ | delivery
    · exact .inr ⟨fun _ hx => (by cases hx), (show b' = b from h).trans (ite_self _).symm⟩
    · exact .inr ⟨fun _ hx => (by cases hx), h.1.trans (ite_self _).symm⟩
    · obtain ⟨place, k, _, htake⟩ := h
      exact .inl ⟨delivery, place, k, rfl, htake⟩
  | _ => exact .inr ⟨fun _ hx => (by cases hx), h⟩

end Broker

def StageLabel.isDelivery : StageLabel → Bool
  | .deliver _ => true
  | _ => false

inductive Pipeline.Step (store : RelayedStore S M) (svc : Service) (names : Queue → String) :
    Pipeline S M → PipelineLabel → Pipeline S M → Prop
  | stage {p : Pipeline S M} {l : StageLabel} {t : Stages S} (reached : Bool) (hl : l.isDelivery = false)
      (hstep : Stages.Step store.toOutboxStore svc names p.stages l t) :
      Step store svc names p (.stage l reached)
        { p with stages := t, broker := if reached then p.broker.afterStage l else p.broker }
  | deliver {p : Pipeline S M} {job : StageJob} {k : Nat} {broker : Broker}
      (hname : job.consumer.consumerName = names job.queue)
      (htake : p.broker.take (.worker p.stages.workers.length) (.worker job.queue) k = some (job.delivery, broker)) :
      Step store svc names p (.deliver job k)
        { p with
          stages := { p.stages with workers := p.stages.workers ++ [.start job] }
          broker := broker }
  | startRelay (p : Pipeline S M) (limit : Int) :
      Step store svc names p (.startRelay limit)
        { p with relays := p.relays ++ [⟨limit, [], Relay.runOnce limit⟩] }
  | relay {p : Pipeline S M} {i : Nat} {limit : Int} {trace : RelayTrace} {c : RelayCall} {r : c.Answer}
      {next : c.Answer → RelayProg (Nat × Option Error)} {marks : M} (reached : Bool)
      (hthread : p.relays[i]? = some ⟨limit, trace, .call c next⟩)
      (hanswer : store.Answers p.stages.saga.shared.store p.marks c r marks) :
      Step store svc names p (.relay i c r reached)
        { p with
          marks := marks
          relays := p.relays.set i ⟨limit, trace ++ [⟨c, r⟩], next r⟩
          broker := if reached then p.broker.afterRelay c else p.broker }
  | startReplay (p : Pipeline S M) (config : DLQReplayConfig) :
      Step store svc names p (.startReplay config)
        { p with replays := p.replays ++ [⟨config, [], replayDLQ config⟩] }
  | replay {p : Pipeline S M} {j : Nat} {config : DLQReplayConfig} {trace : MessagingTrace} {call : MessagingCall}
      {r : call.Answer} {next : call.Answer → Messaging (Nat × Except Error Unit)} {broker : Broker} (reached : Bool)
      (hthread : p.replays[j]? = some ⟨config, trace, .call call next⟩)
      (hreply : p.broker.Replies (.replay j) config reached call r broker) :
      Step store svc names p (.replay j call r reached)
        { p with replays := p.replays.set j ⟨config, trace ++ [⟨call, r⟩], next r⟩, broker := broker }
  | redeliver (p : Pipeline S M) (client : Client) :
      Step store svc names p (.redeliver client) { p with broker := p.broker.giveBack client }
  | expire {p : Pipeline S M} {queue : Queue} {k : Nat} {broker : Broker}
      (hexpire : p.broker.expire queue k = some broker) :
      Step store svc names p (.expire queue k) { p with broker := broker }

def pipeline (store : RelayedStore S M) (svc : Service) (names : Queue → String) :
    Lts (Pipeline S M) PipelineLabel where
  init p := (stages store.toOutboxStore svc names).init p.stages ∧ p.marks = store.unmarked ∧ p.relays = [] ∧
    p.replays = [] ∧ p.broker = .empty
  step := Pipeline.Step store svc names

/-! ### What relays and replays publish -/

/-- The run was handed this event by a claim. -/
def Claimed (trace : RelayTrace) (event : OutboxEvent) : Prop :=
  ∃ limit events, (⟨.pendingOutboxEvents limit, .ok events⟩ : Exchange RelayCall.Answer) ∈ trace ∧ event ∈ events

theorem Claimed.snoc {trace : RelayTrace} {x : Exchange RelayCall.Answer} (h : Claimed trace event) :
    Claimed (trace ++ [x]) event := by
  obtain ⟨limit, events, hmem, hevent⟩ := h
  exact ⟨limit, events, List.mem_append_left _ hmem, hevent⟩

/-- A relay publishes what it has claimed, and marks what it has published. -/
def claimContract : Contract RelayCall.Answer (Nat × Option Error) where
  allowed trace
    | .append _ => False
    | .publish event => Claimed trace event
    | .markOutboxPublished messageID _ => Published trace messageID
    | _ => True
  returns _ _ := True

namespace Relay

theorem publishEach_claimed (events : List OutboxEvent) (published : Nat) (trace : RelayTrace)
    (hclaimed : ∀ event ∈ events, Claimed trace event) :
    claimContract.Follows trace (publishEach events published) := by
  induction events generalizing published trace with
  | nil => exact .ret trivial
  | cons event rest ih =>
    refine .perform (hclaimed event List.mem_cons_self) fun r => ?_
    cases r with
    | error err => exact .ret trivial
    | ok =>
      refine .perform trivial fun now => .perform ⟨event, by simp, rfl⟩ fun r => ?_
      cases r with
      | error err => exact .ret trivial
      | ok => exact ih _ _ fun e he => (hclaimed e (List.mem_cons_of_mem _ he)).snoc.snoc.snoc

theorem runOnce_claimed (limit : Int) : claimContract.Follows [] (runOnce limit) := by
  refine .perform trivial fun r => ?_
  cases r with
  | error err => exact .ret trivial
  | ok events => exact publishEach_claimed events 0 _ fun e he => ⟨limit, events, by simp, he⟩

end Relay

def replayContract (config : DLQReplayConfig) : Contract MessagingCall.Answer (Nat × Except Error Unit) :=
  ⟨ReplayPermits config, fun _ _ => True⟩

/-! ### Every copy is of an outbox event -/

/-- What the delivery decodes to, if anything, is an event of the outbox. -/
def Pipeline.Genuine (store : RelayedStore S M) (p : Pipeline S M) (delivery : Delivery) : Prop :=
  ∀ event, decodeDelivery delivery = .ok event → event.envelope ∈ store.envelopes p.stages.saga

structure Pipeline.Sound (store : RelayedStore S M) (svc : Service) (names : Queue → String) (p : Pipeline S M) :
    Prop where
  stages : (FulfillHub.stages store.toOutboxStore svc names).Reachable Lts.anyStep p.stages
  carried : ∀ delivery, p.broker.Carries delivery → p.Genuine store delivery
  relays : ∀ t ∈ p.relays, claimContract.Follows t.trace t.prog ∧
    ∀ event, Claimed t.trace event → event.envelope ∈ store.envelopes p.stages.saga
  replays : ∀ t ∈ p.replays, (replayContract t.job).Follows t.trace t.prog ∧
    ∀ delivery, ⟨.get, .ok (some delivery)⟩ ∈ t.trace → p.Genuine store delivery

variable {store : RelayedStore S M} {svc : Service} {names : Queue → String} {p p' : Pipeline S M}
  {l : PipelineLabel} {cond : Pipeline S M → PipelineLabel → Prop}

theorem envelopes_of_pipeline_step (h : Pipeline.Step store svc names p l p') :
    store.envelopes p.stages.saga ⊆ store.envelopes p'.stages.saga := by
  cases h with
  | stage reached hl hstep => exact envelopes_subset_of_stage_step hstep
  | _ => exact List.Subset.refl _

theorem Consumer.Permits.of_publishRetry {c : Consumer} {d : Delivery} {e : OutboxEvent} {n : Int}
    (h : c.Permits delivery event trace (.publishRetry d e n)) : d = delivery ∧ e = event := by
  cases h
  exact ⟨rfl, rfl⟩

theorem Consumer.Permits.not_publish {c : Consumer} {d : Delivery} : ¬ c.Permits delivery event trace (.publish d) := by
  intro h
  cases h

/-- What a step may send to an exchange: an event a relay has claimed, a retry of what a worker was handed, or what
a replay was handed under another key. -/
inductive Pipeline.Sends (p : Pipeline S M) : PipelineLabel → Delivery → Prop
  | relay {i : Nat} {event : OutboxEvent} {r : Except Error Unit} {reached : Bool} {t : RelayThread} (ht : t ∈ p.relays)
      (hclaimed : Claimed t.trace event) : Sends p (.relay i (.publish event) r reached) (publication event)
  | retry {i : Nat} {w : StageWorker} {event : OutboxEvent} {attempt : Int} {r : Except Error Unit}
      {late reached : Bool} (hw : w ∈ p.stages.workers) (hdecode : decodeDelivery w.job.delivery = .ok event) :
      Sends p (.stage (.reply i (.publishRetry w.job.delivery event attempt) r late) reached)
        (retryDelivery w.job.delivery event attempt)
  | replay {j : Nat} {taken : Delivery} {key : String} {r : Except Error Unit} {reached : Bool} {t : ReplayThread}
      (ht : t ∈ p.replays) (htaken : ⟨.get, .ok (some taken)⟩ ∈ t.trace) :
      Sends p (.replay j (.publish { taken with routingKey := key }) r reached) { taken with routingKey := key }

theorem copies_of_replay (hp : p.Sound store svc names) {j : Nat} {config : DLQReplayConfig} {call : MessagingCall}
    {r : call.Answer} {next : call.Answer → Messaging (Nat × Except Error Unit)} {broker : Broker} {reached : Bool}
    (hthread : p.replays[j]? = some ⟨config, trace, .call call next⟩)
    (hreply : p.broker.Replies (.replay j) config reached call r broker) :
    p.broker.Copies broker (p.Sends (.replay j call r reached)) := by
  have hmem := List.mem_of_getElem? hthread
  have hpermits : ReplayPermits config trace call := (hp.replays _ hmem).1.allowed
  rcases hreply.cases with ⟨delivery, place, k, _, htake⟩ | ⟨_, rfl⟩
  · exact fun _ _ h => .inl (h.of_take htake)
  · split_ifs
    · refine (p.broker.copies_serve _ _ call).mono fun d hd => ?_
      rcases hd with rfl | ⟨delivery, event, attempt, rfl, rfl⟩
      · obtain ⟨taken, hlast, rfl⟩ := hpermits
        exact .replay hmem (List.mem_of_getLast? hlast)
      · exact hpermits.elim
    · exact fun _ _ h => .inl h

theorem copies_of_step (hp : p.Sound store svc names) (hstep : Pipeline.Step store svc names p l p') :
    p.broker.Copies p'.broker (p.Sends l) := by
  cases hstep with
  | @stage l t reached hl hstep =>
    cases reached with
    | false => exact fun _ _ h => .inl h
    | true =>
      cases hstep with
      | @reply i w call r next inbox late hw hprog hreply =>
        have hmem : w ∈ p.stages.workers := List.mem_iff_getElem?.mpr ⟨i, hw⟩
        have hfollows := worker_follows hp.stages hmem
        refine (p.broker.copies_serve (.worker i) none call).mono fun d hd => ?_
        rcases hd with rfl | ⟨delivery, event, attempt, rfl, rfl⟩
        · obtain ⟨_, _, hpermits⟩ := worker_permits hfollows hprog MessagingCall.noConfusion
          exact absurd hpermits Consumer.Permits.not_publish
        · obtain ⟨_, hdecode, hpermits⟩ := worker_permits hfollows hprog MessagingCall.noConfusion
          obtain ⟨rfl, rfl⟩ := hpermits.of_publishRetry
          exact .retry hmem hdecode
      | _ => exact fun _ _ h => .inl h
  | deliver hname htake => exact fun _ _ h => .inl (h.of_take htake)
  | startRelay limit => exact fun _ _ h => .inl h
  | @relay i limit trace c r next marks reached hthread hanswer =>
    have hmem := List.mem_of_getElem? hthread
    cases reached with
    | false => exact fun _ _ h => .inl h
    | true =>
      cases c with
      | publish event =>
        intro place d h
        refine (show (p.broker.publish .domain (publication event)).Has place d from h).of_publish.imp_right ?_
        rintro ⟨hbound, rfl⟩
        exact ⟨hbound, .inr (.relay hmem (hp.relays _ hmem).1.allowed)⟩
      | _ => exact fun _ _ h => .inl h
  | startReplay config => exact fun _ _ h => .inl h
  | replay reached hthread hreply => exact copies_of_replay hp hthread hreply
  | redeliver client => exact fun _ _ h => .inl h.of_giveBack
  | expire hexpire => exact (Broker.copies_expire hexpire).mono fun _ => False.elim

theorem Pipeline.Sends.genuine (h : p.Sends l delivery) (hp : p.Sound store svc names) :
    p.Genuine store delivery := by
  intro decoded hdecoded
  cases h with
  | relay ht hclaimed =>
    rw [envelope_of_publication hdecoded]
    exact (hp.relays _ ht).2 _ hclaimed
  | retry hw hdecode =>
    rw [decodeDelivery_retryDelivery hdecode] at hdecoded
    cases hdecoded
    exact (worker_origin hp.stages hw).2 _ hdecode
  | replay ht htaken => exact (hp.replays _ ht).2 _ htaken decoded hdecoded

theorem Pipeline.Genuine.mono (hstep : Pipeline.Step store svc names p l p') (h : p.Genuine store delivery) :
    p'.Genuine store delivery :=
  fun event hevent => envelopes_of_pipeline_step hstep (h event hevent)

/-- The pipeline hands a worker nothing but copies of outbox events, so its stages run as stages. -/
theorem stages_of_step (hp : p.Sound store svc names) (hstep : Pipeline.Step store svc names p l p') :
    (stages store.toOutboxStore svc names).Reachable Lts.anyStep p'.stages := by
  cases hstep with
  | stage reached hl hstep => exact .step hp.stages hstep trivial
  | @deliver job k broker hname htake =>
    obtain ⟨hfound, _⟩ := Broker.take_eq_some htake
    have hcarried : p.broker.Carries job.delivery := ⟨_, .inl (List.mem_of_getElem? hfound)⟩
    exact .step hp.stages (.deliver hname (hp.carried _ hcarried)) trivial
  | _ => exact hp.stages

theorem claimed_of_answer {s : SagaState S} {m m' : M} {c : RelayCall} {r : c.Answer} {trace : RelayTrace}
    (hanswer : store.Answers s.shared.store m c r m')
    (hold : ∀ event, Claimed trace event → event.envelope ∈ store.envelopes s) (h : Claimed (trace ++ [⟨c, r⟩]) event) :
    event.envelope ∈ store.envelopes s := by
  obtain ⟨limit, events, hmem, hevent⟩ := h
  rcases List.mem_append.mp hmem with hmem | hmem
  · exact hold event ⟨limit, events, hmem, hevent⟩
  · cases List.mem_singleton.mp hmem
    obtain ⟨now, hpending⟩ := hanswer
    obtain ⟨stored, hstored, rfl⟩ := store.mem_pending _ _ _ _ _ _ hpending event hevent
    rw [OutboxEvent.envelope_withEnvelopeDefaults]
    exact List.mem_map_of_mem hstored

theorem relays_of_step (hp : p.Sound store svc names) (hstep : Pipeline.Step store svc names p l p')
    {t : RelayThread} (ht : t ∈ p'.relays) : claimContract.Follows t.trace t.prog ∧
      ∀ event, Claimed t.trace event → event.envelope ∈ store.envelopes p'.stages.saga := by
  have hsubset := envelopes_of_pipeline_step hstep
  have hold : t ∈ p.relays → claimContract.Follows t.trace t.prog ∧
      ∀ event, Claimed t.trace event → event.envelope ∈ store.envelopes p'.stages.saga := fun ht =>
    (hp.relays t ht).imp_right fun h event hevent => hsubset (h event hevent)
  cases hstep with
  | startRelay limit =>
    rcases List.mem_append.mp ht with ht | ht
    · exact hold ht
    · rw [List.mem_singleton.mp ht]
      refine ⟨Relay.runOnce_claimed limit, fun event hevent => ?_⟩
      obtain ⟨_, _, hmem, _⟩ := hevent
      cases hmem
  | @relay i limit trace c r next marks reached hthread hanswer =>
    rcases List.mem_or_eq_of_mem_set ht with ht | rfl
    · exact hold ht
    · obtain ⟨hfollows, hclaimed⟩ := hp.relays _ (List.mem_of_getElem? hthread)
      exact ⟨hfollows.next r, fun event hevent => claimed_of_answer hanswer hclaimed hevent⟩
  | _ => exact hold ht

theorem replays_of_step (hp : p.Sound store svc names) (hstep : Pipeline.Step store svc names p l p')
    {t : ReplayThread} (ht : t ∈ p'.replays) : (replayContract t.job).Follows t.trace t.prog ∧
      ∀ delivery, ⟨.get, .ok (some delivery)⟩ ∈ t.trace → p'.Genuine store delivery := by
  have hold : t ∈ p.replays → (replayContract t.job).Follows t.trace t.prog ∧
      ∀ delivery, ⟨.get, .ok (some delivery)⟩ ∈ t.trace → p'.Genuine store delivery := fun ht =>
    (hp.replays t ht).imp_right fun h delivery hmem => (h delivery hmem).mono hstep
  cases hstep with
  | startReplay config =>
    rcases List.mem_append.mp ht with ht | ht
    · exact hold ht
    · rw [List.mem_singleton.mp ht]
      exact ⟨replayDLQ_follows rfl fun _ _ => trivial, fun delivery hmem => by cases hmem⟩
  | @replay j config trace call r next broker reached hthread hreply =>
    rcases List.mem_or_eq_of_mem_set ht with ht | rfl
    · exact hold ht
    · obtain ⟨hfollows, htaken⟩ := hp.replays _ (List.mem_of_getElem? hthread)
      refine ⟨hfollows.next r, fun delivery hmem => ?_⟩
      rcases List.mem_append.mp hmem with hmem | hmem
      · exact htaken delivery hmem
      · cases List.mem_singleton.mp hmem
        obtain ⟨place, n, _, htake⟩ := hreply
        exact hp.carried delivery ⟨place, .inl (List.mem_of_getElem? (Broker.take_eq_some htake).1)⟩
  | _ => exact hold ht

theorem sound_of_reachable (hp : (pipeline store svc names).Reachable cond p) : p.Sound store svc names := by
  refine Lts.Reachable.invariant (P := fun p => p.Sound store svc names) ?_ ?_ hp
  · rintro p ⟨hstages, _, hrelays, hreplays, hbroker⟩
    refine ⟨.start hstages, fun delivery h => ?_, fun t ht => ?_, fun t ht => ?_⟩
    · obtain ⟨place, h⟩ := h
      exact absurd (hbroker ▸ h) Broker.not_has_empty
    · rw [hrelays] at ht
      cases ht
    · rw [hreplays] at ht
      cases ht
  · intro p l p' _ ih hstep _
    refine ⟨stages_of_step ih hstep, fun delivery h => ?_, fun t ht => relays_of_step ih hstep ht,
      fun t ht => replays_of_step ih hstep ht⟩
    exact (((copies_of_step ih hstep).carries h).elim (ih.carried delivery) fun hsent => hsent.genuine ih).mono hstep

/-! ### The pipeline refines the stages -/

/-- The step of the stages that a step of the pipeline makes. -/
def PipelineLabel.stage? : PipelineLabel → Option StageLabel
  | .stage l _ => some l
  | .deliver job _ => some (.deliver job)
  | _ => none

/-- A condition on the steps of the stages. -/
def OnStages (cond : Stages S → StageLabel → Prop) (p : Pipeline S M) (l : PipelineLabel) : Prop :=
  ∀ k, l.stage? = some k → cond p.stages k

theorem stages_of_pipeline {cond : Stages S → StageLabel → Prop}
    (hp : (pipeline store svc names).Reachable (OnStages cond) p) :
    (stages store.toOutboxStore svc names).Reachable cond p.stages := by
  refine Lts.Reachable.project (M := pipeline store svc names) (f := Pipeline.stages) (fun p hinit => hinit.1) ?_ hp
  intro p l p' hreach _ hstep hcond
  have hsound := sound_of_reachable hreach
  cases hstep with
  | @stage l t reached hl hstep => exact .inr ⟨l, hstep, hcond l rfl⟩
  | @deliver job k broker hname htake =>
    have hcarried : p.broker.Carries job.delivery :=
      ⟨_, .inl (List.mem_of_getElem? (Broker.take_eq_some htake).1)⟩
    exact .inr ⟨.deliver job, .deliver hname (hsound.carried _ hcarried), hcond _ rfl⟩
  | _ => exact .inl rfl

end FulfillHub
