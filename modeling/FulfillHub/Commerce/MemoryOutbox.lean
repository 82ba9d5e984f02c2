import FulfillHub.Commerce.MemoryStore

/-!
# Publication in the in-memory store

Beside its outbox `MemoryStore` keeps two maps by message id: when an event was published, and until when
a relay has claimed it. Claiming walks the outbox once and takes the events that are neither published nor
under a claim that still runs.
-/

namespace FulfillHub

/-- The maps `publishedOutbox` and `claimedOutbox` of `MemoryStore`. -/
structure OutboxMarks where
  publishedOutbox : Finmap fun _ : String => Time
  claimedOutbox : Finmap fun _ : String => Time

namespace OutboxMarks

def empty : OutboxMarks := ⟨∅, ∅⟩

def isPublished (m : OutboxMarks) (messageID : String) : Bool := (m.publishedOutbox.lookup messageID).isSome

def isClaimed (m : OutboxMarks) (now : Time) (messageID : String) : Bool :=
  (m.claimedOutbox.lookup messageID).any fun claimedUntil => decide (now < claimedUntil)

def claim (m : OutboxMarks) (messageID : String) (claimUntil : Time) : OutboxMarks :=
  { m with claimedOutbox := m.claimedOutbox.insert messageID claimUntil }

/-- The loop of `PendingOutboxEvents`; `room` is how many more events may be returned. -/
def claimLoop (now : Time) : List OutboxEvent → Nat → OutboxMarks → List OutboxEvent × OutboxMarks
  | [], _, m => ([], m)
  | event :: rest, room, m =>
    if m.isPublished event.messageID then claimLoop now rest room m
    else if m.isClaimed now event.messageID then claimLoop now rest room m
    else
      let m := m.claim event.messageID (now + 30 * Time.second)
      if room = 1 then ([event.withEnvelopeDefaults], m)
      else
        let later := claimLoop now rest (room - 1) m
        (event.withEnvelopeDefaults :: later.1, later.2)

def pendingOutboxEvents (m : OutboxMarks) (outbox : List OutboxEvent) (limit : Int) (now : Time) :
    List OutboxEvent × OutboxMarks :=
  claimLoop now outbox (if limit ≤ 0 then outbox.length else limit.toNat) m

def pendingOutboxCount (m : OutboxMarks) (outbox : List OutboxEvent) : Nat :=
  outbox.countP fun event => !m.isPublished event.messageID

def markOutboxPublished (m : OutboxMarks) (messageID : String) (publishedAt : Time) : OutboxMarks where
  publishedOutbox := m.publishedOutbox.insert messageID publishedAt
  claimedOutbox := m.claimedOutbox.erase messageID

variable {m : OutboxMarks} {now : Time} {outbox : List OutboxEvent}

theorem isPublished_mark (id messageID : String) (publishedAt : Time) :
    (m.markOutboxPublished messageID publishedAt).isPublished id =
      (m.isPublished id || decide (id = messageID)) := by
  rw [isPublished, markOutboxPublished]
  by_cases hid : id = messageID
  · rw [hid, Finmap.lookup_insert]
    simp
  · rw [Finmap.lookup_insert_of_ne _ hid]
    simp [hid, isPublished]

theorem claimLoop_published (room : Nat) : (claimLoop now outbox room m).2.publishedOutbox = m.publishedOutbox := by
  induction outbox generalizing room m with
  | nil => rfl
  | cons event rest ih =>
    unfold claimLoop
    split_ifs
    · exact ih room
    · exact ih room
    · rfl
    · exact ih (room - 1)

theorem mem_of_mem_claimLoop {room : Nat} {event : OutboxEvent} (h : event ∈ (claimLoop now outbox room m).1) :
    ∃ stored ∈ outbox, event = stored.withEnvelopeDefaults ∧ m.isPublished stored.messageID = false := by
  induction outbox generalizing room m with
  | nil => cases h
  | cons first rest ih =>
    unfold claimLoop at h
    split_ifs at h with hpublished hclaimed hroom
    · obtain ⟨stored, hmem, hstored⟩ := ih h
      exact ⟨stored, List.mem_cons_of_mem _ hmem, hstored⟩
    · obtain ⟨stored, hmem, hstored⟩ := ih h
      exact ⟨stored, List.mem_cons_of_mem _ hmem, hstored⟩
    · rw [List.mem_singleton.mp h]
      exact ⟨first, List.mem_cons_self, rfl, by simpa using hpublished⟩
    · rcases List.mem_cons.mp h with h | h
      · rw [h]
        exact ⟨first, List.mem_cons_self, rfl, by simpa using hpublished⟩
      · obtain ⟨stored, hmem, hstored⟩ := ih h
        exact ⟨stored, List.mem_cons_of_mem _ hmem, hstored⟩

theorem isClaimed_claim_of_ne {id messageID : String} (hid : id ≠ messageID) (claimUntil : Time) :
    (m.claim messageID claimUntil).isClaimed now id = m.isClaimed now id := by
  rw [isClaimed, claim, Finmap.lookup_insert_of_ne _ hid, isClaimed]

/-- With room for the whole outbox, every event that is neither published nor claimed is returned. -/
theorem exists_mem_claimLoop {room : Nat} (hroom : outbox.length ≤ room) {event : OutboxEvent}
    (hmem : event ∈ outbox) (hpublished : m.isPublished event.messageID = false)
    (hclaimed : m.isClaimed now event.messageID = false) :
    ∃ returned ∈ (claimLoop now outbox room m).1, returned.messageID = event.messageID := by
  induction outbox generalizing room m with
  | nil => cases hmem
  | cons first rest ih =>
    rw [List.length_cons] at hroom
    unfold claimLoop
    by_cases hid : event.messageID = first.messageID
    · rw [hid] at hpublished hclaimed
      simp only [hpublished, hclaimed, Bool.false_eq_true, if_false]
      split_ifs
      · exact ⟨_, List.mem_singleton_self _, by simp [hid]⟩
      · exact ⟨_, List.mem_cons_self, by simp [hid]⟩
    · have hrest : event ∈ rest := by
        refine (List.mem_cons.mp hmem).resolve_left ?_
        rintro rfl
        exact hid rfl
      have hlength : 0 < rest.length := List.length_pos_of_mem hrest
      split_ifs with h₁ h₂ h₃
      · exact ih (by omega) hrest hpublished hclaimed
      · exact ih (by omega) hrest hpublished hclaimed
      · omega
      · have hlater : rest.length ≤ room - 1 := by omega
        obtain ⟨returned, hreturned, heq⟩ := ih hlater
          (m := m.claim first.messageID (now + 30 * Time.second)) hrest hpublished
          ((isClaimed_claim_of_ne hid _).trans hclaimed)
        exact ⟨returned, List.mem_cons_of_mem _ hreturned, heq⟩

theorem exists_mem_pendingOutboxEvents {limit : Int} (hlimit : (outbox.length : Int) ≤ limit)
    {event : OutboxEvent} (hmem : event ∈ outbox) (hpublished : m.isPublished event.messageID = false)
    (hclaimed : m.isClaimed now event.messageID = false) :
    ∃ returned ∈ (m.pendingOutboxEvents outbox limit now).1, returned.messageID = event.messageID := by
  refine exists_mem_claimLoop ?_ hmem hpublished hclaimed
  split_ifs <;> omega

/-! ### What a claim returns and what it leaves -/

def isFree (m : OutboxMarks) (now : Time) (messageID : String) : Bool :=
  !m.isPublished messageID && !m.isClaimed now messageID

theorem isFree_claim_of_ne {id messageID : String} (hid : id ≠ messageID) (claimUntil : Time) :
    (m.claim messageID claimUntil).isFree now id = m.isFree now id := by
  rw [isFree, isFree, isClaimed_claim_of_ne hid]
  rfl

section Loop

variable {event : OutboxEvent} {rest : List OutboxEvent}

theorem claimLoop_skip (h : m.isFree now event.messageID = false) (room : Nat) :
    claimLoop now (event :: rest) room m = claimLoop now rest room m := by
  rw [claimLoop]
  split_ifs with hpublished hclaimed
  · rfl
  · rfl
  · simp_all [isFree]
  · simp_all [isFree]

theorem claimLoop_last (h : m.isFree now event.messageID = true) :
    claimLoop now (event :: rest) 1 m =
      ([event.withEnvelopeDefaults], m.claim event.messageID (now + 30 * Time.second)) := by
  simp_all [claimLoop, isFree]

theorem claimLoop_take (h : m.isFree now event.messageID = true) (room : Nat) :
    claimLoop now (event :: rest) (room + 2) m =
      (event.withEnvelopeDefaults :: (claimLoop now rest (room + 1) (m.claim event.messageID (now + 30 * Time.second))).1,
        (claimLoop now rest (room + 1) (m.claim event.messageID (now + 30 * Time.second))).2) := by
  simp_all [claimLoop, isFree]

end Loop

theorem claimLoop_fst (room : Nat) (hdistinct : (outbox.map OutboxEvent.messageID).Nodup) :
    (claimLoop now outbox (room + 1) m).1 = ((outbox.filter fun event => m.isFree now event.messageID).take
      (room + 1)).map OutboxEvent.withEnvelopeDefaults := by
  induction outbox generalizing room m with
  | nil => simp [claimLoop]
  | cons event rest ih =>
    rw [List.map_cons, List.nodup_cons] at hdistinct
    cases hfree : m.isFree now event.messageID with
    | false => rw [claimLoop_skip hfree, ih room hdistinct.2, List.filter_cons_of_neg (by simp [hfree])]
    | true =>
      rw [List.filter_cons_of_pos (by simp [hfree]), List.take_succ_cons, List.map_cons]
      cases room with
      | zero =>
        rw [claimLoop_last hfree]
        rfl
      | succ room =>
        have hsame : (rest.filter fun e =>
            (m.claim event.messageID (now + 30 * Time.second)).isFree now e.messageID) =
            rest.filter fun e => m.isFree now e.messageID := by
          refine List.filter_congr fun e he => isFree_claim_of_ne ?_ _
          exact fun hid => hdistinct.1 (List.mem_map.mpr ⟨e, he, hid⟩)
        rw [claimLoop_take hfree, ih room hdistinct.2, hsame]

theorem lookup_claim (messageID id : String) (claimUntil : Time) :
    (m.claim messageID claimUntil).claimedOutbox.lookup id =
      if id = messageID then some claimUntil else m.claimedOutbox.lookup id := by
  rw [claim]
  split_ifs with hid
  · rw [hid, Finmap.lookup_insert]
  · rw [Finmap.lookup_insert_of_ne _ hid]

theorem lookup_claimLoop (room : Nat) (id : String) :
    (claimLoop now outbox (room + 1) m).2.claimedOutbox.lookup id =
      if id ∈ (claimLoop now outbox (room + 1) m).1.map OutboxEvent.messageID then some (now + 30 * Time.second)
      else m.claimedOutbox.lookup id := by
  induction outbox generalizing room m with
  | nil => simp [claimLoop]
  | cons event rest ih =>
    cases hfree : m.isFree now event.messageID with
    | false =>
      rw [claimLoop_skip hfree]
      exact ih room
    | true =>
      cases room with
      | zero =>
        rw [claimLoop_last hfree, lookup_claim]
        simp
      | succ room =>
        rw [claimLoop_take hfree, ih room, lookup_claim]
        simp only [List.map_cons, List.mem_cons, OutboxEvent.withEnvelopeDefaults_messageID]
        by_cases hid : id = event.messageID
        · rw [if_pos hid, ite_self, if_pos (Or.inl hid)]
        · rw [if_neg hid]
          simp only [hid, false_or]

/-- The first `limit` of some events, or all of them when the limit is not positive. -/
def firstOf (limit : Int) (events : List OutboxEvent) : List OutboxEvent :=
  if limit ≤ 0 then events else events.take limit.toNat

theorem firstOf_sublist (limit : Int) (events : List OutboxEvent) : (firstOf limit events).Sublist events := by
  rw [firstOf]
  split_ifs
  · exact List.Sublist.refl _
  · exact List.take_sublist _ _

/-- The loop that a call runs; without events it does not run at all. -/
theorem pendingOutboxEvents_eq (m : OutboxMarks) (outbox : List OutboxEvent) (limit : Int) (now : Time) :
    outbox = [] ∧ m.pendingOutboxEvents outbox limit now = ([], m) ∨
      ∃ room, m.pendingOutboxEvents outbox limit now = claimLoop now outbox (room + 1) m ∧
        ∀ events : List OutboxEvent, events.length ≤ outbox.length → firstOf limit events = events.take (room + 1) := by
  cases outbox with
  | nil => exact .inl ⟨rfl, rfl⟩
  | cons event rest =>
    rw [pendingOutboxEvents]
    split_ifs with hlimit
    · refine .inr ⟨rest.length, rfl, fun events hlength => ?_⟩
      rw [firstOf, if_pos hlimit, List.take_of_length_le (by simpa using hlength)]
    · have hroom : limit.toNat = (limit.toNat - 1) + 1 := by omega
      refine .inr ⟨limit.toNat - 1, by rw [← hroom], fun events _ => ?_⟩
      rw [firstOf, if_neg hlimit, ← hroom]

theorem pendingOutboxEvents_fst (hdistinct : (outbox.map OutboxEvent.messageID).Nodup) (limit : Int) :
    (m.pendingOutboxEvents outbox limit now).1 =
      (firstOf limit (outbox.filter fun event => m.isFree now event.messageID)).map
        OutboxEvent.withEnvelopeDefaults := by
  rcases m.pendingOutboxEvents_eq outbox limit now with ⟨rfl, h⟩ | ⟨room, h, hfirst⟩
  · rw [h]
    simp [firstOf]
  · rw [h, claimLoop_fst room hdistinct, hfirst _ (List.length_filter_le _ _)]

theorem lookup_pendingOutboxEvents (limit : Int) (id : String) :
    (m.pendingOutboxEvents outbox limit now).2.claimedOutbox.lookup id =
      if id ∈ (m.pendingOutboxEvents outbox limit now).1.map OutboxEvent.messageID then
        some (now + 30 * Time.second) else m.claimedOutbox.lookup id := by
  rcases m.pendingOutboxEvents_eq outbox limit now with ⟨-, h⟩ | ⟨room, h, -⟩
  · simp [h]
  · rw [h, lookup_claimLoop]

theorem isPublished_pendingOutboxEvents (limit : Int) (id : String) :
    (m.pendingOutboxEvents outbox limit now).2.isPublished id = m.isPublished id := by
  rw [isPublished, pendingOutboxEvents, claimLoop_published]
  rfl

end OutboxMarks

end FulfillHub
