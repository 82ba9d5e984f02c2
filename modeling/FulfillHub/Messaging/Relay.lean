import FulfillHub.Library.Pool
import FulfillHub.Messaging.Consumer

/-!
# The outbox relay

`Relay.RunOnce` of `internal/messaging/relay.go`: claim a batch, and for each event publish it and then
mark it as published. Any number of relays run against one outbox while transactions append to it, and a
relay that crashes is one whose calls are not answered any more. `OutboxSource` is what a relay needs to
know about an outbox. Claims are a relation, since the order in which a database returns rows is not
fixed, and a call may fail before or after it took effect.
-/

namespace FulfillHub

open Interaction

/-! ### One run of the relay -/

/-- The calls of a relay, and the appending of an event by a transaction. -/
inductive RelayCall
  | append (event : OutboxEvent)
  | pendingOutboxEvents (limit : Int)
  | publish (event : OutboxEvent)
  | clock
  | markOutboxPublished (messageID : String) (publishedAt : Time)

abbrev RelayCall.Answer : RelayCall → Type
  | .append _ => Unit
  | .pendingOutboxEvents _ => Except Error (List OutboxEvent)
  | .publish _ => Except Error Unit
  | .clock => Time
  | .markOutboxPublished _ _ => Except Error Unit

abbrev RelayProg := Prog RelayCall RelayCall.Answer

namespace Relay

def pendingOutboxEvents (limit : Int) : RelayProg (Except Error (List OutboxEvent)) :=
  Prog.perform (RelayCall.pendingOutboxEvents limit)

def publish (event : OutboxEvent) : RelayProg (Except Error Unit) := Prog.perform (RelayCall.publish event)

def clock : RelayProg Time := Prog.perform RelayCall.clock

def markOutboxPublished (messageID : String) (publishedAt : Time) : RelayProg (Except Error Unit) :=
  Prog.perform (RelayCall.markOutboxPublished messageID publishedAt)

/-- The loop of `RunOnce` over the claimed events; it returns the number of published events and the
error that ended it. -/
def publishEach : List OutboxEvent → Nat → RelayProg (Nat × Option Error)
  | [], published => pure (published, none)
  | event :: rest, published => do
      match ← publish event with
      | .error err => pure (published, some (err.within ("publish " ++ event.messageID)))
      | .ok () =>
        let now ← clock
        match ← markOutboxPublished event.messageID now with
        | .error err => pure (published, some (err.within ("mark " ++ event.messageID ++ " published")))
        | .ok () => publishEach rest (published + 1)

def runOnce (limit : Int) : RelayProg (Nat × Option Error) := do
  match ← pendingOutboxEvents limit with
  | .error err => pure (0, some (err.within "load pending outbox events"))
  | .ok events => publishEach events 0

end Relay

abbrev RelayTrace := Trace RelayCall.Answer

/-- The run has published the message. -/
def Published (trace : RelayTrace) (messageID : String) : Prop :=
  ∃ event, (⟨.publish event, .ok ()⟩ : Exchange RelayCall.Answer) ∈ trace ∧ event.messageID = messageID

/-- Marking comes after publishing, and only a transaction appends. -/
def relayContract : Contract RelayCall.Answer (Nat × Option Error) where
  allowed trace
    | .append _ => False
    | .markOutboxPublished messageID _ => Published trace messageID
    | _ => True
  returns _ _ := True

namespace Relay

theorem publishEach_follows (events : List OutboxEvent) (published : Nat) (trace : RelayTrace) :
    relayContract.Follows trace (publishEach events published) := by
  induction events generalizing published trace with
  | nil => exact .ret trivial
  | cons event rest ih =>
    refine .perform trivial fun r => ?_
    cases r with
    | error err => exact .ret trivial
    | ok =>
      refine .perform trivial fun now => .perform ⟨event, by simp, rfl⟩ fun r => ?_
      cases r with
      | error err => exact .ret trivial
      | ok => exact ih _ _

theorem runOnce_follows (limit : Int) : relayContract.Follows [] (runOnce limit) := by
  refine .perform trivial fun r => ?_
  cases r with
  | error err => exact .ret trivial
  | ok events => exact publishEach_follows events 0 _

end Relay

/-! ### Relays on one outbox -/

/-- An outbox as relays see it: the events appended to it, which of them are marked as published and until
when they are claimed, with the operations on it and what these keep. -/
structure OutboxSource (S : Type) where
  start : S → Prop
  events : S → List OutboxEvent
  published : S → String → Bool
  claimedUntil : S → String → Option Time
  append : S → OutboxEvent → S
  pending : S → Int → Time → Except Error (List OutboxEvent) → S → Prop
  mark : S → String → Time → Except Error Unit → S → Prop
  count : S → Nat
  events_start : ∀ s, start s → events s = []
  published_start : ∀ s, start s → ∀ id, published s id = false
  events_append : ∀ s event, event.messageID ∉ (events s).map OutboxEvent.messageID →
    events (append s event) = events s ++ [event.withEnvelopeDefaults]
  published_append : ∀ s event id, published (append s event) id = published s id
  events_pending : ∀ s limit now r t, pending s limit now r t → events t = events s
  published_pending : ∀ s limit now r t, pending s limit now r t → ∀ id, published t id = published s id
  mem_pending : ∀ s limit now claimed t, pending s limit now (.ok claimed) t → ∀ event ∈ claimed,
    ∃ stored ∈ events s, event = stored.withEnvelopeDefaults ∧ published s stored.messageID = false
  pending_complete : ∀ s limit now claimed t, pending s limit now (.ok claimed) t →
    ((events s).length : Int) ≤ limit → ∀ event ∈ events s, published s event.messageID = false →
    (∀ deadline, claimedUntil s event.messageID = some deadline → deadline ≤ now) →
    ∃ returned ∈ claimed, returned.messageID = event.messageID
  pending_answers : ∀ s limit now, ∃ claimed t, pending s limit now (.ok claimed) t
  events_mark : ∀ s id now r t, mark s id now r t → events t = events s
  published_mark : ∀ s id now r t, mark s id now r t → ∀ other, published t other = true →
    published s other = true ∨ other = id
  mark_keeps : ∀ s id now r t, mark s id now r t → ∀ other, published s other = true →
    published t other = true
  mark_ok : ∀ s id now t, mark s id now (.ok ()) t → published t id = true
  count_eq : ∀ s, count s = (events s).countP fun event => !published s event.messageID

/-- What a process against the outbox does: a relay's run, or the appending of one event. -/
inductive RelayJob
  | runOnce (limit : Int)
  | append (event : OutboxEvent)

def RelayJob.program : RelayJob → RelayProg (Nat × Option Error)
  | .runOnce limit => Relay.runOnce limit
  | .append event => do
      let _ ← Prog.perform (RelayCall.append event)
      pure (0, none)

variable {S : Type}

/-- How the outbox and the publisher answer: claims are made at any time, publishing succeeds or fails. -/
def OutboxSource.answers (source : OutboxSource S) (s : S) : (c : RelayCall) → c.Answer → S → Prop
  | .append event, _, t => t = source.append s event
  | .pendingOutboxEvents limit, r, t => ∃ now, source.pending s limit now r t
  | .publish _, _, t => t = s
  | .clock, _, t => t = s
  | .markOutboxPublished messageID publishedAt, r, t => source.mark s messageID publishedAt r t

def relaySpec (source : OutboxSource S) : PoolSpec S RelayJob RelayCall.Answer (Nat × Option Error) where
  program := RelayJob.program
  start := source.start
  answers := source.answers

abbrev RelayState (S : Type) := Pool S RelayJob RelayCall.Answer (Nat × Option Error)

abbrev RelayLabel := Pool.Label RelayJob RelayCall.Answer

abbrev relays (source : OutboxSource S) : Lts (RelayState S) RelayLabel := (relaySpec source).lts

/-- Appended events carry message ids that are not in use. -/
def FreshEvents (source : OutboxSource S) (s : RelayState S) : RelayLabel → Prop
  | .answer _ (.append event) _ => event.messageID ∉ (source.events s.shared).map OutboxEvent.messageID
  | _ => True

/-! ### At least once -/

variable {source : OutboxSource S} {s t : RelayState S} {l : RelayLabel}
  {cond : RelayState S → RelayLabel → Prop}

/-- Publishing the message has succeeded. -/
def PublishedOnce (s : RelayState S) (messageID : String) : Prop :=
  ∃ event, PoolSpec.Exchanged s ⟨.publish event, .ok ()⟩ ∧ event.messageID = messageID

def RelayJob.contract : RelayJob → Contract RelayCall.Answer (Nat × Option Error)
  | .runOnce _ => relayContract
  | .append event => ⟨fun _ c => c = .append event, fun _ _ => True⟩

theorem RelayJob.program_follows (job : RelayJob) : job.contract.Follows [] job.program := by
  cases job with
  | runOnce limit => exact Relay.runOnce_follows limit
  | append event => exact .perform rfl fun _ => .ret trivial

theorem published_of_marking (hs : (relays source).Reachable cond s) {i : Nat} {job : RelayJob}
    {trace : RelayTrace} {messageID : String} {now : Time}
    {next : Except Error Unit → RelayProg (Nat × Option Error)}
    (hthread : s.threads[i]? = some ⟨job, trace, .call (.markOutboxPublished messageID now) next⟩) :
    PublishedOnce s messageID := by
  have hmem := PoolSpec.mem_threads.mpr ⟨i, hthread⟩
  have hallowed := (PoolSpec.follows_of_reachable (P := relaySpec source) (K := RelayJob.contract)
    RelayJob.program_follows hs hmem).allowed
  cases job with
  | append event => cases hallowed
  | runOnce limit =>
    obtain ⟨event, hpublish, hid⟩ := hallowed
    exact ⟨event, ⟨_, hmem, hpublish⟩, hid⟩

def RelayCall.isWrite : RelayCall → Bool
  | .append _ | .markOutboxPublished _ _ => true
  | _ => false

/-- What a step does to the outbox. -/
inductive OutboxStep (source : OutboxSource S) (s : RelayState S) (l : RelayLabel) (t : RelayState S) : Prop
  | kept (hevents : source.events t.shared = source.events s.shared)
      (hpublished : ∀ id, source.published t.shared id = source.published s.shared id)
      (hread : ∀ i c r, l = .answer i c r → c.isWrite = false)
  | appended (i : Nat) (event : OutboxEvent) (hlabel : l = .answer i (.append event) ())
      (hshared : t.shared = source.append s.shared event)
  | marked (i : Nat) (messageID : String) (now : Time) (r : Except Error Unit)
      (hlabel : l = .answer i (.markOutboxPublished messageID now) r)
      (hpublished : PublishedOnce s messageID) (hmark : source.mark s.shared messageID now r t.shared)

theorem outbox_step (hs : (relays source).Reachable cond s) (hstep : (relaySpec source).Step s l t) :
    OutboxStep source s l t := by
  cases hstep with
  | spawn job => exact .kept rfl (fun _ => rfl) fun _ _ _ hl => by cases hl
  | @answer i job trace c next r shared hthread hanswer =>
    cases c with
    | append event => exact .appended i event rfl hanswer
    | pendingOutboxEvents limit =>
      obtain ⟨now, hpending⟩ := hanswer
      exact .kept (source.events_pending _ _ _ _ _ hpending)
        (source.published_pending _ _ _ _ _ hpending) fun _ _ _ hl => by cases hl; rfl
    | publish event =>
      cases (show shared = s.shared from hanswer)
      exact .kept rfl (fun _ => rfl) fun _ _ _ hl => by cases hl; rfl
    | clock =>
      cases (show shared = s.shared from hanswer)
      exact .kept rfl (fun _ => rfl) fun _ _ _ hl => by cases hl; rfl
    | markOutboxPublished messageID now =>
      exact .marked i messageID now r rfl (published_of_marking hs hthread) hanswer

theorem published_mono (hs : (relays source).Reachable cond s) (hstep : (relaySpec source).Step s l t)
    {id : String} (h : source.published s.shared id = true) : source.published t.shared id = true := by
  cases outbox_step hs hstep with
  | kept _ hpublished => rw [hpublished, h]
  | appended i event _ hshared => rw [hshared, source.published_append, h]
  | marked i messageID now r _ _ hmark => exact source.mark_keeps _ _ _ _ _ hmark id h

theorem publishedOnce_of_step (hs : (relays source).Reachable cond s) (hstep : (relaySpec source).Step s l t)
    {id : String} (hbefore : source.published s.shared id = false)
    (hafter : source.published t.shared id = true) : PublishedOnce s id := by
  cases outbox_step hs hstep with
  | kept _ hpublished => rw [hpublished, hbefore] at hafter; cases hafter
  | appended i event _ hshared => rw [hshared, source.published_append, hbefore] at hafter; cases hafter
  | marked i messageID now r _ hpublished hmark =>
    rcases source.published_mark _ _ _ _ _ hmark id hafter with hold | rfl
    · rw [hbefore] at hold
      cases hold
    · exact hpublished

theorem PublishedOnce.step {id : String} (h : PublishedOnce s id) (hstep : (relaySpec source).Step s l t) :
    PublishedOnce t id := by
  obtain ⟨event, hexchanged, hid⟩ := h
  exact ⟨event, hstep.exchanged_iff.mpr (.inl hexchanged), hid⟩

theorem publishedOnce_of_published (hs : (relays source).Reachable cond s) {id : String}
    (h : source.published s.shared id = true) : PublishedOnce s id := by
  refine Lts.Reachable.invariant (P := fun s => ∀ id, source.published s.shared id = true →
    PublishedOnce s id) ?_ ?_ hs id h
  · rintro s ⟨hstart, _⟩ id h
    rw [source.published_start _ hstart] at h
    cases h
  · intro s l t hreach ih hstep _ id h
    cases hbefore : source.published s.shared id with
    | true => exact (ih id hbefore).step hstep
    | false => exact (publishedOnce_of_step hreach hstep hbefore h).step hstep

theorem published_of_marked (hs : (relays source).Reachable cond s) {id : String} {now : Time}
    (h : PoolSpec.Exchanged s ⟨.markOutboxPublished id now, .ok ()⟩) :
    source.published s.shared id = true := by
  refine Lts.Reachable.invariant (P := fun s => ∀ id now,
    PoolSpec.Exchanged s ⟨.markOutboxPublished id now, .ok ()⟩ → source.published s.shared id = true)
    ?_ ?_ hs id now h
  · rintro s ⟨_, hnil⟩ id now ⟨u, hu, _⟩
    simp [hnil] at hu
  · intro s l t hreach ih hstep _ id now h
    rcases hstep.exchanged_iff.mp h with hold | ⟨i, hl⟩
    · exact published_mono hreach hstep (ih id now hold)
    · cases outbox_step hreach hstep with
      | kept _ _ hread => cases hread i _ _ hl
      | appended _ _ hlabel => cases hl.symm.trans hlabel
      | marked _ _ _ _ hlabel _ hmark =>
        cases hl.symm.trans hlabel
        exact source.mark_ok _ _ _ _ hmark

/-- A step leaves the events of the outbox as they are or appends one with a new message id. -/
theorem events_of_step (hs : (relays source).Reachable cond s) (hstep : (relaySpec source).Step s l t)
    (hfresh : FreshEvents source s l) :
    source.events t.shared = source.events s.shared ∧ (∀ event i, l ≠ .answer i (.append event) ()) ∨
      ∃ i event, l = .answer i (.append event) () ∧
        event.messageID ∉ (source.events s.shared).map OutboxEvent.messageID ∧
        source.events t.shared = source.events s.shared ++ [event.withEnvelopeDefaults] := by
  cases outbox_step hs hstep with
  | kept hevents _ hread => exact .inl ⟨hevents, fun _ i hl => by cases hread i _ _ hl⟩
  | appended i event hlabel hshared =>
    subst hlabel
    exact .inr ⟨i, event, rfl, hfresh, by rw [hshared, source.events_append _ _ hfresh]⟩
  | marked i messageID now r hlabel _ hmark =>
    refine .inl ⟨source.events_mark _ _ _ _ _ hmark, fun _ _ hl => ?_⟩
    cases hlabel.symm.trans hl

section Fresh

variable (hfresh : ∀ s l, cond s l → FreshEvents source s l)

include hfresh

theorem nodup_of_reachable (hs : (relays source).Reachable cond s) :
    ((source.events s.shared).map OutboxEvent.messageID).Nodup := by
  refine Lts.Reachable.invariant (P := fun s => ((source.events s.shared).map OutboxEvent.messageID).Nodup)
    ?_ ?_ hs
  · rintro s ⟨hstart, _⟩
    rw [source.events_start _ hstart]
    exact List.nodup_nil
  · intro s l t hreach ih hstep hcond
    rcases events_of_step hreach hstep (hfresh s l hcond) with ⟨hsame, _⟩ | ⟨i, event, _, hnew, happend⟩
    · rwa [hsame]
    · rw [happend, List.map_append]
      refine List.nodup_append.mpr ⟨ih, by simp, ?_⟩
      intro a ha b hb hab
      rw [List.map_singleton, List.mem_singleton, OutboxEvent.withEnvelopeDefaults_messageID] at hb
      exact hnew (hb ▸ hab ▸ ha)

theorem mem_events_iff (hs : (relays source).Reachable cond s) {stored : OutboxEvent} :
    stored ∈ source.events s.shared ↔
      ∃ event, PoolSpec.Exchanged s ⟨.append event, ()⟩ ∧ stored = event.withEnvelopeDefaults := by
  refine Lts.Reachable.invariant (P := fun s => stored ∈ source.events s.shared ↔
    ∃ event, PoolSpec.Exchanged s ⟨.append event, ()⟩ ∧ stored = event.withEnvelopeDefaults) ?_ ?_ hs
  · rintro s ⟨hstart, hnil⟩
    simp [source.events_start _ hstart, PoolSpec.Exchanged, hnil]
  · intro s l t hreach ih hstep hcond
    simp only [hstep.exchanged_iff]
    rcases events_of_step hreach hstep (hfresh s l hcond) with ⟨hsame, hother⟩ | ⟨i, event, rfl, _, happend⟩
    · rw [hsame, ih]
      simp [hother]
    · rw [happend, List.mem_append, List.mem_singleton, ih]
      constructor
      · rintro (⟨event', hexchanged, heq⟩ | heq)
        · exact ⟨event', .inl hexchanged, heq⟩
        · exact ⟨event, .inr ⟨i, rfl⟩, heq⟩
      · rintro ⟨event', hexchanged | ⟨j, hl⟩, heq⟩
        · exact .inl ⟨event', hexchanged, heq⟩
        · cases hl
          exact .inr heq

theorem kept_of_path {ls : List RelayLabel} (hs : (relays source).Reachable cond s)
    (hpath : (relays source).Path cond s ls t) :
    source.events s.shared <+: source.events t.shared ∧
      ∀ id, source.published s.shared id = true → source.published t.shared id = true := by
  induction hpath with
  | nil => exact ⟨List.prefix_rfl, fun _ h => h⟩
  | @cons s t u l ls hstep hcond _ ih =>
    obtain ⟨hgrows, hmarks⟩ := ih (.step hs hstep hcond)
    refine ⟨List.IsPrefix.trans ?_ hgrows, fun id h => hmarks id (published_mono hs hstep h)⟩
    rcases events_of_step hs hstep (hfresh s l hcond) with ⟨hsame, _⟩ | ⟨i, event, _, _, happend⟩
    · exact hsame ▸ List.prefix_rfl
    · exact happend ▸ List.prefix_append _ _

end Fresh

/-- **Delivery at least once**, in one state of the relays: what is marked has been published first, the
outbox is what was appended and keeps its marks, an event that is not marked is claimed again once its
claim has run out, and the count of pending events is exact. -/
structure AtLeastOnce (source : OutboxSource S) (s : RelayState S) : Prop where
  publishes : ∀ id, source.published s.shared id = true → PublishedOnce s id
  publishes_first : ∀ l t id, (relays source).step s l t → source.published s.shared id = false →
    source.published t.shared id = true → PublishedOnce s id
  marked : ∀ id now, PoolSpec.Exchanged s ⟨.markOutboxPublished id now, .ok ()⟩ →
    source.published s.shared id = true
  appended : ∀ stored, stored ∈ source.events s.shared ↔
    ∃ event, PoolSpec.Exchanged s ⟨.append event, ()⟩ ∧ stored = event.withEnvelopeDefaults
  distinct : ((source.events s.shared).map OutboxEvent.messageID).Nodup
  kept : ∀ ls t, (relays source).Path (FreshEvents source) s ls t →
    source.events s.shared <+: source.events t.shared ∧
      ∀ id, source.published s.shared id = true → source.published t.shared id = true
  claimed_again : ∀ event ∈ source.events s.shared, source.published s.shared event.messageID = false →
    ∀ now limit, ((source.events s.shared).length : Int) ≤ limit →
      (∀ deadline, source.claimedUntil s.shared event.messageID = some deadline → deadline ≤ now) →
      (∃ claimed t, source.pending s.shared limit now (.ok claimed) t) ∧
        ∀ claimed t, source.pending s.shared limit now (.ok claimed) t →
          event.withEnvelopeDefaults ∈ claimed
  count : source.count s.shared = (source.events s.shared).length -
    ((source.events s.shared).filter fun event => source.published s.shared event.messageID).length

theorem atLeastOnce_of_reachable (hs : (relays source).Reachable (FreshEvents source) s) : AtLeastOnce source s where
  publishes _ h := publishedOnce_of_published hs h
  publishes_first _ _ _ hstep hbefore hafter := publishedOnce_of_step hs hstep hbefore hafter
  marked _ _ h := published_of_marked hs h
  appended _ := mem_events_iff (fun _ _ h => h) hs
  distinct := nodup_of_reachable (fun _ _ h => h) hs
  kept _ _ hpath := kept_of_path (fun _ _ h => h) hs hpath
  claimed_again event hevent hpublished now limit hlimit hexpired := by
    refine ⟨source.pending_answers _ _ _, fun claimed t hpending => ?_⟩
    obtain ⟨returned, hreturned, hid⟩ :=
      source.pending_complete _ _ _ _ _ hpending hlimit event hevent hpublished hexpired
    obtain ⟨stored, hstored, rfl, _⟩ := source.mem_pending _ _ _ _ _ hpending returned hreturned
    rw [OutboxEvent.withEnvelopeDefaults_messageID] at hid
    rw [← List.inj_on_of_nodup_map (nodup_of_reachable (fun _ _ h => h) hs) hstored hevent hid]
    exact hreturned
  count := by
    rw [source.count_eq, ← List.countP_eq_length_filter]
    have htotal := List.length_eq_countP_add_countP
      (fun event => source.published s.shared event.messageID) (l := source.events s.shared)
    simp only [Bool.not_eq_true] at htotal
    rw [htotal, Nat.add_sub_cancel_left]
    refine List.countP_congr fun event _ => ?_
    simp

end FulfillHub
