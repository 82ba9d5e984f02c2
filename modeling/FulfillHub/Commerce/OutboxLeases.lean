import FulfillHub.Commerce.Envelope
import FulfillHub.Commerce.MemoryOutbox
import FulfillHub.Library.Transition

/-!
# Leases on the outbox

`PendingOutboxEvents`, `MarkOutboxPublished` and the appends of `MemoryStore`, called by any number of relays and
transactions in any order. The state keeps beside the store what the calls so far have returned and marked. What the
map `claimedOutbox` says is then compared with this history: an event is leased as long as some earlier call that
returned it is less than thirty seconds old.
-/

namespace FulfillHub

open Interaction

/-- A call of `PendingOutboxEvents`: when it was made and the messages it returned. -/
structure Claim where
  time : Time
  messageIDs : List String

def Claim.leaseEnd (c : Claim) : Time := c.time + 30 * Time.second

/-- The outbox of `MemoryStore` with its maps, the time of the latest claim, and what has been claimed and marked so
far. -/
structure LeasedOutbox where
  outbox : List OutboxEvent
  marks : OutboxMarks
  now : Time
  claims : List Claim
  marked : List String

inductive OutboxCall
  | appendOutboxEvent (event : OutboxEvent)
  | pendingOutboxEvents (limit : Int) (now : Time)
  | markOutboxPublished (messageID : String) (publishedAt : Time)

namespace LeasedOutbox

def after (s : LeasedOutbox) : OutboxCall → LeasedOutbox
  | .appendOutboxEvent event => { s with outbox := s.outbox ++ [event.withEnvelopeDefaults] }
  | .pendingOutboxEvents limit now =>
    let pending := s.marks.pendingOutboxEvents s.outbox limit now
    { s with
      marks := pending.2
      now := now
      claims := s.claims ++ [⟨now, pending.1.map OutboxEvent.messageID⟩] }
  | .markOutboxPublished messageID publishedAt =>
    { s with marks := s.marks.markOutboxPublished messageID publishedAt, marked := s.marked ++ [messageID] }

/-- Message ids are distinct and the clock does not go back. -/
def Orderly (s : LeasedOutbox) : OutboxCall → Prop
  | .appendOutboxEvent event => event.messageID ∉ s.outbox.map OutboxEvent.messageID
  | .pendingOutboxEvents _ now => s.now ≤ now
  | .markOutboxPublished _ _ => True

def empty : LeasedOutbox := ⟨[], .empty, 0, [], []⟩

end LeasedOutbox

def outboxLeases : Lts LeasedOutbox OutboxCall where
  init s := s = .empty
  step s call t := t = s.after call

namespace LeasedOutbox

variable {s : LeasedOutbox} {id : String} {t : Time}

/-- Some earlier call has returned the message, and its lease is not over. -/
def leasedPast (s : LeasedOutbox) (t : Time) (id : String) : Bool :=
  s.claims.any fun c => decide (id ∈ c.messageIDs) && decide (t < c.leaseEnd)

/-- The events that are neither marked as published nor leased, in the order of the outbox. -/
def available (s : LeasedOutbox) (t : Time) : List OutboxEvent :=
  s.outbox.filter fun event => !decide (event.messageID ∈ s.marked) && !s.leasedPast t event.messageID

theorem leasedPast_eq_true : s.leasedPast t id = true ↔ ∃ c ∈ s.claims, id ∈ c.messageIDs ∧ t < c.leaseEnd := by
  simp [leasedPast]

/-- The maps say what the history says. -/
structure Accurate (s : LeasedOutbox) : Prop where
  distinct : (s.outbox.map OutboxEvent.messageID).Nodup
  complete : ∀ event ∈ s.outbox, event.withEnvelopeDefaults = event
  published : ∀ id, s.marks.isPublished id = decide (id ∈ s.marked)
  claimed : ∀ id deadline, s.marks.claimedOutbox.lookup id = some deadline →
    id ∉ s.marked ∧ ∃ c ∈ s.claims, id ∈ c.messageIDs ∧ deadline = c.leaseEnd
  latest : ∀ c ∈ s.claims, ∀ id ∈ c.messageIDs, id ∉ s.marked →
    ∃ deadline, s.marks.claimedOutbox.lookup id = some deadline ∧ c.leaseEnd ≤ deadline
  past : ∀ c ∈ s.claims, c.time ≤ s.now
  unique : ∀ c ∈ s.claims, c.messageIDs.Nodup

section Accurate

variable (h : s.Accurate)

include h

theorem Accurate.isClaimed_eq (hmarked : id ∉ s.marked) : s.marks.isClaimed t id = s.leasedPast t id := by
  rw [Bool.eq_iff_iff, leasedPast_eq_true, OutboxMarks.isClaimed, Option.any_eq_true]
  constructor
  · rintro ⟨deadline, hlookup, ht⟩
    obtain ⟨-, c, hc, hid, rfl⟩ := h.claimed id deadline hlookup
    exact ⟨c, hc, hid, of_decide_eq_true ht⟩
  · rintro ⟨c, hc, hid, ht⟩
    obtain ⟨deadline, hlookup, hle⟩ := h.latest c hc id hid hmarked
    exact ⟨deadline, hlookup, decide_eq_true (lt_of_lt_of_le ht hle)⟩

theorem Accurate.isFree_eq : s.marks.isFree t id = (!decide (id ∈ s.marked) && !s.leasedPast t id) := by
  rw [OutboxMarks.isFree, h.published]
  by_cases hmarked : id ∈ s.marked
  · simp [hmarked]
  · rw [h.isClaimed_eq hmarked]

/-- A call returns the first of the available events. -/
theorem Accurate.pending_eq (limit : Int) :
    (s.marks.pendingOutboxEvents s.outbox limit t).1 = OutboxMarks.firstOf limit (s.available t) := by
  have hfree : (s.outbox.filter fun event => s.marks.isFree t event.messageID) = s.available t :=
    List.filter_congr fun _ _ => h.isFree_eq
  rw [OutboxMarks.pendingOutboxEvents_fst h.distinct, hfree]
  refine (List.map_congr_left fun event hevent => ?_).trans (List.map_id _)
  have havailable := (OutboxMarks.firstOf_sublist limit (s.available t)).subset hevent
  exact h.complete event (List.mem_of_mem_filter havailable)

theorem Accurate.free_of_pending {limit : Int}
    (hid : id ∈ (s.marks.pendingOutboxEvents s.outbox limit t).1.map OutboxEvent.messageID) :
    id ∉ s.marked ∧ s.leasedPast t id = false := by
  rw [h.pending_eq] at hid
  obtain ⟨event, hevent, rfl⟩ := List.mem_map.mp hid
  have havailable := (OutboxMarks.firstOf_sublist limit (s.available t)).subset hevent
  simpa using List.of_mem_filter havailable

/-! ### The history stays accurate -/

theorem Accurate.append {event : OutboxEvent} (hfresh : event.messageID ∉ s.outbox.map OutboxEvent.messageID) :
    (s.after (.appendOutboxEvent event)).Accurate where
  distinct := by
    have hnew : (s.outbox ++ [event.withEnvelopeDefaults]).map OutboxEvent.messageID =
        s.outbox.map OutboxEvent.messageID ++ [event.messageID] := by simp
    rw [after, hnew]
    exact h.distinct.append (List.nodup_singleton _) (by simpa using hfresh)
  complete e he := by
    rcases List.mem_append.mp he with he | he
    · exact h.complete e he
    · rw [List.mem_singleton.mp he, OutboxEvent.withEnvelopeDefaults_idem]
  published := h.published
  claimed := h.claimed
  latest := h.latest
  past := h.past
  unique := h.unique

theorem Accurate.mark (messageID : String) (publishedAt : Time) :
    (s.after (.markOutboxPublished messageID publishedAt)).Accurate where
  distinct := h.distinct
  complete := h.complete
  published id := by
    rw [after, OutboxMarks.isPublished_mark, h.published]
    simp
  claimed id deadline hlookup := by
    have hne : id ≠ messageID := by
      rintro rfl
      simp [after, OutboxMarks.markOutboxPublished] at hlookup
    rw [after, OutboxMarks.markOutboxPublished, Finmap.lookup_erase_ne hne] at hlookup
    obtain ⟨hmarked, hclaim⟩ := h.claimed id deadline hlookup
    exact ⟨by simp [after, hmarked, hne], hclaim⟩
  latest c hc id hid hmarked := by
    simp only [after, List.mem_append, List.mem_singleton, not_or] at hmarked
    obtain ⟨deadline, hlookup, hle⟩ := h.latest c hc id hid hmarked.1
    refine ⟨deadline, ?_, hle⟩
    rw [after, OutboxMarks.markOutboxPublished, Finmap.lookup_erase_ne hmarked.2]
    exact hlookup
  past := h.past
  unique := h.unique

theorem Accurate.pending {limit : Int} {now : Time} (hnow : s.now ≤ now) :
    (s.after (.pendingOutboxEvents limit now)).Accurate where
  distinct := h.distinct
  complete := h.complete
  published id := (OutboxMarks.isPublished_pendingOutboxEvents limit id).trans (h.published id)
  claimed id deadline hlookup := by
    rw [after, OutboxMarks.lookup_pendingOutboxEvents] at hlookup
    split_ifs at hlookup with hreturned
    · refine ⟨(h.free_of_pending hreturned).1, _, List.mem_append_right _ (List.mem_singleton_self _), hreturned, ?_⟩
      exact (Option.some.inj hlookup).symm
    · obtain ⟨hmarked, c, hc, hclaim⟩ := h.claimed id deadline hlookup
      exact ⟨hmarked, c, List.mem_append_left _ hc, hclaim⟩
  latest c hc id hid hmarked := by
    rw [after, OutboxMarks.lookup_pendingOutboxEvents]
    rcases List.mem_append.mp hc with hc | hc
    · split_ifs with hreturned
      · exact ⟨_, rfl, Nat.add_le_add_right ((h.past c hc).trans hnow) _⟩
      · exact h.latest c hc id hid hmarked
    · rw [List.mem_singleton.mp hc] at hid ⊢
      rw [if_pos hid]
      exact ⟨_, rfl, le_refl _⟩
  past c hc := by
    rcases List.mem_append.mp hc with hc | hc
    · exact (h.past c hc).trans hnow
    · rw [List.mem_singleton.mp hc]
      exact le_refl _
  unique c hc := by
    rcases List.mem_append.mp hc with hc | hc
    · exact h.unique c hc
    · rw [List.mem_singleton.mp hc, h.pending_eq]
      have hsublist := (OutboxMarks.firstOf_sublist limit (s.available now)).trans List.filter_sublist
      exact h.distinct.sublist (hsublist.map OutboxEvent.messageID)

end Accurate

theorem accurate_of_reachable (hs : outboxLeases.Reachable Orderly s) : s.Accurate := by
  refine hs.invariant (P := Accurate) ?_ ?_
  · intro s hinit
    rw [hinit]
    constructor <;> simp [empty, OutboxMarks.empty, OutboxMarks.isPublished]
  · intro s call t _ h hstep horderly
    rw [hstep]
    cases call with
    | appendOutboxEvent event => exact h.append horderly
    | pendingOutboxEvents limit now => exact h.pending horderly
    | markOutboxPublished messageID publishedAt => exact h.mark messageID publishedAt

/-! ### Exclusive leases -/

/-- A later claim within the lease of an earlier one returns other messages. -/
def Exclusive (earlier later : Claim) : Prop :=
  earlier.time ≤ later.time ∧ (later.time < earlier.leaseEnd → earlier.messageIDs.Disjoint later.messageIDs)

theorem exclusive_of_reachable (hs : outboxLeases.Reachable Orderly s) : s.claims.Pairwise Exclusive := by
  refine hs.invariant (P := fun s => s.claims.Pairwise Exclusive) ?_ ?_
  · intro s hinit
    rw [hinit]
    exact List.Pairwise.nil
  · intro s call t hreach hpairwise hstep horderly
    have haccurate := accurate_of_reachable hreach
    rw [hstep]
    cases call with
    | appendOutboxEvent event => exact hpairwise
    | markOutboxPublished messageID publishedAt => exact hpairwise
    | pendingOutboxEvents limit now =>
      refine List.pairwise_append.mpr ⟨hpairwise, List.pairwise_singleton _ _, ?_⟩
      intro earlier hearlier later hlater
      rw [List.mem_singleton.mp hlater]
      refine ⟨(haccurate.past earlier hearlier).trans horderly, ?_⟩
      intro hlease id hid hreturned
      have hfree := (haccurate.free_of_pending hreturned).2
      have hleased := leasedPast_eq_true.mpr ⟨earlier, hearlier, hid, hlease⟩
      exact Bool.noConfusion (hfree.symm.trans hleased)

theorem mem_available {event : OutboxEvent} (hevent : event ∈ s.outbox) (hmarked : event.messageID ∉ s.marked) :
    event ∈ s.available t ↔ ∀ c ∈ s.claims, event.messageID ∈ c.messageIDs → c.leaseEnd ≤ t := by
  simp [available, leasedPast, hevent, hmarked]

end LeasedOutbox

open LeasedOutbox in
/-- Under distinct message ids and a clock that does not go back, any interleaving of claims, marks and appends leads
to a state in which the next claim returns exactly the first available events, an event that is not marked is among
them if and only if thirty seconds have passed since every claim of it, claims less than thirty seconds apart have
returned different events, and no published event is claimed. -/
theorem leases_exclusive {s : LeasedOutbox} (hs : outboxLeases.Reachable Orderly s) :
    (∀ limit t, (s.marks.pendingOutboxEvents s.outbox limit t).1 = OutboxMarks.firstOf limit (s.available t)) ∧
    (∀ event ∈ s.outbox, event.messageID ∉ s.marked → ∀ t,
      (event ∈ (s.marks.pendingOutboxEvents s.outbox 0 t).1 ↔
        ∀ c ∈ s.claims, event.messageID ∈ c.messageIDs → c.time + 30 * Time.second ≤ t)) ∧
    s.claims.Pairwise (fun earlier later => earlier.time ≤ later.time ∧
      (later.time < earlier.time + 30 * Time.second → earlier.messageIDs.Disjoint later.messageIDs)) ∧
    (∀ c ∈ s.claims, c.messageIDs.Nodup) ∧
    ∀ id, s.marks.isPublished id = true → s.marks.claimedOutbox.lookup id = none := by
  have haccurate := accurate_of_reachable hs
  refine ⟨fun limit t => haccurate.pending_eq limit, ?_, exclusive_of_reachable hs, haccurate.unique, ?_⟩
  · intro event hevent hmarked t
    rw [haccurate.pending_eq, OutboxMarks.firstOf, if_pos (le_refl 0)]
    exact mem_available hevent hmarked
  · intro id hpublished
    rw [haccurate.published, decide_eq_true_eq] at hpublished
    cases hlookup : s.marks.claimedOutbox.lookup id with
    | none => rfl
    | some deadline => exact absurd hpublished (haccurate.claimed id deadline hlookup).1

def leasedEvent : OutboxEvent where
  messageID := "msg_1"
  eventType := .orderCreated
  schemaVersion := 1
  occurredAt := 1
  producer := "orders-api"
  merchantID := "mrc_1"
  orderID := "ord_1"
  correlationID := "corr-1"
  causationID := "msg_1"
  payload := []

open LeasedOutbox in
/-- One event, claimed five seconds after the start. -/
theorem leases_exclusive_claimed : ∃ s, outboxLeases.Reachable Orderly s ∧ s.claims ≠ [] ∧
    ∀ limit t, (s.marks.pendingOutboxEvents s.outbox limit t).1 = OutboxMarks.firstOf limit (s.available t) := by
  have hs : outboxLeases.Reachable Orderly ((LeasedOutbox.empty.after (.appendOutboxEvent leasedEvent)).after
      (.pendingOutboxEvents 1 (5 * Time.second))) := by
    refine .step (.step (.start rfl) rfl ?_) rfl ?_
    · exact List.not_mem_nil
    · exact Nat.zero_le _
  exact ⟨_, hs, List.append_ne_nil_of_right_ne_nil _ (List.cons_ne_nil _ _), (leases_exclusive hs).1⟩

end FulfillHub
