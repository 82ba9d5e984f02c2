import FulfillHub.Commerce.MemoryOutbox
import FulfillHub.Messaging.Routing
import FulfillHub.Postgres.Outbox

/-!
# Both outboxes deliver at least once

The outbox of the in-memory store and the table of PostgreSQL are outboxes in the sense of the relay, so
what holds of relays on any outbox holds of relays on these two.
-/

namespace FulfillHub

open Interaction

/-- The outbox of `MemoryStore` with its marks. -/
structure MarkedOutbox where
  outbox : List OutboxEvent
  marks : OutboxMarks

/-- The outbox of `MemoryStore` as relays see it. -/
def memoryOutbox : OutboxSource MarkedOutbox where
  start s := s = ⟨[], .empty⟩
  events := MarkedOutbox.outbox
  published s := s.marks.isPublished
  claimedUntil s messageID := s.marks.claimedOutbox.lookup messageID
  append s event := { s with outbox := s.outbox ++ [event.withEnvelopeDefaults] }
  pending s limit now r t := r = .ok (s.marks.pendingOutboxEvents s.outbox limit now).1 ∧
    t = ⟨s.outbox, (s.marks.pendingOutboxEvents s.outbox limit now).2⟩
  mark s messageID publishedAt r t := r = .ok () ∧
    t = ⟨s.outbox, s.marks.markOutboxPublished messageID publishedAt⟩
  count s := s.marks.pendingOutboxCount s.outbox
  events_start := by rintro s rfl; rfl
  published_start := by rintro s rfl id; simp [OutboxMarks.isPublished, OutboxMarks.empty]
  events_append _ _ _ := rfl
  published_append _ _ _ := rfl
  events_pending := by rintro s limit now r t ⟨_, rfl⟩; rfl
  published_pending := by
    rintro s limit now r t ⟨_, rfl⟩ id
    rw [OutboxMarks.isPublished, OutboxMarks.pendingOutboxEvents, OutboxMarks.claimLoop_published]
    rfl
  mem_pending := by
    rintro s limit now claimed t ⟨hr, _⟩ event hevent
    cases hr
    exact OutboxMarks.mem_of_mem_claimLoop hevent
  pending_complete := by
    rintro s limit now claimed t ⟨hr, _⟩ hlimit event hevent hpublished hexpired
    cases hr
    refine OutboxMarks.exists_mem_pendingOutboxEvents hlimit hevent hpublished ?_
    rw [OutboxMarks.isClaimed, Option.any_eq_false]
    intro deadline hdeadline
    simpa using hexpired deadline hdeadline
  pending_answers _ _ _ := ⟨_, _, rfl, rfl⟩
  events_mark := by rintro s id now r t ⟨_, rfl⟩; rfl
  published_mark := by
    rintro s id now r t ⟨_, rfl⟩ other hother
    rw [OutboxMarks.isPublished_mark] at hother
    simpa using hother
  mark_keeps := by
    rintro s id now r t ⟨_, rfl⟩ other hother
    rw [OutboxMarks.isPublished_mark, hother]
    rfl
  mark_ok := by
    rintro s id now t ⟨_, rfl⟩
    rw [OutboxMarks.isPublished_mark]
    simp
  count_eq _ := rfl

/-- **The relay delivers at least once**, from the in-memory outbox as well as from PostgreSQL, for any
number of relays and whatever fails or crashes. -/
theorem relays_deliver_at_least_once :
    (∀ s, (relays memoryOutbox).Reachable (FreshEvents memoryOutbox) s → AtLeastOnce memoryOutbox s) ∧
    ∀ s, (relays postgresOutbox).Reachable (FreshEvents postgresOutbox) s → AtLeastOnce postgresOutbox s :=
  ⟨fun _ hs => atLeastOnce_of_reachable hs, fun _ hs => atLeastOnce_of_reachable hs⟩

/-! ### A scripted run -/

inductive RelayAct
  | start (job : RelayJob)
  | reply (i : Nat) (now : Time)

/-- The answer of the in-memory outbox, of a publisher that does not fail and of a clock. -/
def MarkedOutbox.reply (s : MarkedOutbox) (now : Time) : (c : RelayCall) → c.Answer × MarkedOutbox
  | .append event => ((), memoryOutbox.append s event)
  | .pendingOutboxEvents limit =>
    let pending := s.marks.pendingOutboxEvents s.outbox limit now
    (.ok pending.1, ⟨s.outbox, pending.2⟩)
  | .publish _ => (.ok (), s)
  | .clock => (now, s)
  | .markOutboxPublished messageID publishedAt =>
    (.ok (), ⟨s.outbox, s.marks.markOutboxPublished messageID publishedAt⟩)

theorem MarkedOutbox.reply_answers (s : MarkedOutbox) (now : Time) (c : RelayCall) :
    memoryOutbox.answers s c (s.reply now c).1 (s.reply now c).2 := by
  cases c with
  | append event => rfl
  | pendingOutboxEvents limit => exact ⟨now, rfl, rfl⟩
  | publish event => rfl
  | clock => rfl
  | markOutboxPublished messageID publishedAt => exact ⟨rfl, rfl⟩

def RelayAct.apply (s : RelayState MarkedOutbox) : RelayAct → Option (RelayLabel × RelayState MarkedOutbox)
  | .start job => some (.spawn job, ⟨s.shared, s.threads ++ [(relaySpec memoryOutbox).fresh job]⟩)
  | .reply i now =>
    match s.threads[i]? with
    | some ⟨job, trace, .call c next⟩ =>
      let r := (s.shared.reply now c).1
      some (.answer i c r, ⟨(s.shared.reply now c).2, s.threads.set i ⟨job, trace ++ [⟨c, r⟩], next r⟩⟩)
    | _ => none

def relaySimulator : Simulator (relays memoryOutbox) RelayAct where
  next := RelayAct.apply
  sound := by
    intro s a l t h
    cases a with
    | start job => cases h; exact .spawn s job
    | reply i now =>
      simp only [RelayAct.apply] at h
      split at h
      · rename_i job trace c next hthread
        cases h
        exact .answer hthread (MarkedOutbox.reply_answers _ now c)
      · cases h

instance (s : RelayState MarkedOutbox) : (l : RelayLabel) → Decidable (FreshEvents memoryOutbox s l)
  | .spawn _ => isTrue trivial
  | .answer _ (.append event) _ => inferInstanceAs
      (Decidable (event.messageID ∉ s.shared.outbox.map OutboxEvent.messageID))
  | .answer _ (.pendingOutboxEvents _) _ | .answer _ (.publish _) _ | .answer _ .clock _
  | .answer _ (.markOutboxPublished _ _) _ => isTrue trivial

/-- Two relays claim an event one after the other, the second when the claim of the first has run out. Only
the second marks it; it was published, and nothing is pending. -/
theorem relays_deliver_after_a_crash : ∃ s id, (relays memoryOutbox).Reachable (FreshEvents memoryOutbox) s ∧
    memoryOutbox.published s.shared id = true ∧ PublishedOnce s id ∧
    memoryOutbox.count s.shared = (memoryOutbox.events s.shared).length - 1 := by
  obtain ⟨s, hs, hpublished, hevents⟩ := relaySimulator.exists_reachable
    (s := ⟨⟨[], .empty⟩, []⟩)
    (Q := fun s => s.shared.marks.isPublished "msg_1" = true ∧ (s.shared.outbox.filter fun event =>
      s.shared.marks.isPublished event.messageID).length = 1)
    (decides_decide (FreshEvents memoryOutbox)) (.start ⟨rfl, rfl⟩)
    [.start (.append (sampleEvent .orderCreated)), .reply 0 0,
      .start (.runOnce 10), .reply 1 1, .start (.runOnce 10), .reply 2 (1 + 31 * Time.second),
      .reply 2 0, .reply 2 5, .reply 2 0] (by decide)
  have honce := relays_deliver_at_least_once.1 s hs
  refine ⟨s, "msg_1", hs, hpublished, honce.publishes _ hpublished, ?_⟩
  have hcount := honce.count
  rwa [show ((memoryOutbox.events s.shared).filter fun event =>
    memoryOutbox.published s.shared event.messageID).length = 1 from hevents] at hcount

end FulfillHub
