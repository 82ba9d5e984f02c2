import FulfillHub.Commerce.MemoryOutbox
import FulfillHub.Messaging.RelayRuns

/-!
# One event that can not be published

Runs of the relay over the outbox of `MemoryStore`, one after the other, with a publisher that fails on one message id
for ever. A run that meets this message ends there, and the events behind it in the claimed batch keep their lease
without being tried. They share the lease of the message that fails and come back together with it, behind it, in every
later batch. When calls are 30 seconds apart every lease is over by the next call, and no event behind the message is
ever published. When calls can be made while a lease runs, events of later batches get past the message; then it depends
on the first batch that holds the message: it is the last one of this batch, or no event behind it in the batch is ever
published.
-/

namespace FulfillHub

open Interaction

namespace Relay

/-- The outbox at a time, with a publisher that fails on one message id. -/
def memoryAnswer (outbox : List OutboxEvent) (poison : String) (err : Error) (now : Time) (m : OutboxMarks) :
    (c : RelayCall) → c.Answer × OutboxMarks
  | .append _ => ((), m)
  | .pendingOutboxEvents limit => (.ok (m.pendingOutboxEvents outbox limit now).1,
      (m.pendingOutboxEvents outbox limit now).2)
  | .publish event => (if event.messageID = poison then .error err else .ok (), m)
  | .clock => (now, m)
  | .markOutboxPublished messageID publishedAt => (.ok (), m.markOutboxPublished messageID publishedAt)

/-- The marks after a call of `RunOnce` at a time. -/
def runAt (outbox : List OutboxEvent) (poison : String) (err : Error) (limit : Int) (m : OutboxMarks) (now : Time) :
    OutboxMarks :=
  ((runOnce limit).run (memoryAnswer outbox poison err now) m).2

/-- The marks after calls of `RunOnce` at some times. -/
def runsAt (outbox : List OutboxEvent) (poison : String) (err : Error) (limit : Int) (m : OutboxMarks)
    (times : List Time) : OutboxMarks :=
  times.foldl (runAt outbox poison err limit) m

variable {outbox : List OutboxEvent} {poison : String} {err : Error} {limit : Int} {m : OutboxMarks} {now : Time}

/-! ### One run -/

def markAll (now : Time) (m : OutboxMarks) (messageIDs : List String) : OutboxMarks :=
  messageIDs.foldl (fun m messageID => m.markOutboxPublished messageID now) m

theorem isPublished_markAll (messageIDs : List String) (id : String) :
    (markAll now m messageIDs).isPublished id = (m.isPublished id || decide (id ∈ messageIDs)) := by
  induction messageIDs generalizing m with
  | nil => simp [markAll]
  | cons messageID rest ih =>
    rw [markAll, List.foldl_cons, ← markAll, ih, OutboxMarks.isPublished_mark]
    simp [Bool.or_assoc]

theorem lookup_markAll (messageIDs : List String) (id : String) :
    (markAll now m messageIDs).claimedOutbox.lookup id =
      if id ∈ messageIDs then none else m.claimedOutbox.lookup id := by
  induction messageIDs generalizing m with
  | nil => simp [markAll]
  | cons messageID rest ih =>
    rw [markAll, List.foldl_cons, ← markAll, ih, OutboxMarks.markOutboxPublished]
    by_cases hid : id = messageID
    · subst hid
      simp
    · rw [Finmap.lookup_erase_ne hid]
      simp [hid]

variable {id : String}

theorem isFree_of_claimed {after : OutboxMarks} {deadline : Time} {claimed done : List String}
    (hdone : id ∈ done → id ∈ claimed) (hlease : now < deadline)
    (hpublished : after.isPublished id = (m.isPublished id || decide (id ∈ done)))
    (hlookup : after.claimedOutbox.lookup id =
      if id ∈ done then none else if id ∈ claimed then some deadline else m.claimedOutbox.lookup id) :
    after.isFree now id = (m.isFree now id && !decide (id ∈ claimed)) := by
  rw [OutboxMarks.isFree, OutboxMarks.isFree, OutboxMarks.isClaimed, OutboxMarks.isClaimed, hpublished, hlookup]
  by_cases hid : id ∈ done
  · simp [hid, hdone hid]
  · by_cases hclaimed : id ∈ claimed
    · simp [hid, hclaimed, hlease]
    · simp [hid, hclaimed]

/-- The messages before the one that fails. -/
def upTo (poison : String) (messageIDs : List String) : List String := messageIDs.takeWhile (· ≠ poison)

theorem mem_of_mem_upTo {messageIDs : List String} (h : id ∈ upTo poison messageIDs) : id ∈ messageIDs :=
  (List.takeWhile_sublist _).subset h

theorem upTo_eq_self {messageIDs : List String} (h : poison ∉ messageIDs) : upTo poison messageIDs = messageIDs := by
  rw [upTo, List.takeWhile_eq_self_iff]
  intro id hid
  exact decide_eq_true fun heq => h (heq ▸ hid)

theorem upTo_append {before : List String} (h : poison ∉ before) (after : List String) :
    upTo poison (before ++ poison :: after) = before := by
  rw [upTo, List.takeWhile_append_of_pos]
  · simp
  · intro id hid
    exact decide_eq_true fun heq => h (heq ▸ hid)

theorem publishEach_run (events : List OutboxEvent) (published : Nat) :
    ((publishEach events published).run (memoryAnswer outbox poison err now) m).2 =
      markAll now m (upTo poison (events.map OutboxEvent.messageID)) := by
  induction events generalizing published m with
  | nil => rfl
  | cons event rest ih =>
    by_cases hpoison : event.messageID = poison
    · rw [List.map_cons, upTo, List.takeWhile_cons_of_neg (by simpa using hpoison), publishEach, publish,
        Prog.run_perform_bind]
      simp only [memoryAnswer, if_pos hpoison]
      rfl
    · rw [List.map_cons, upTo, List.takeWhile_cons_of_pos (by simpa using hpoison), publishEach, publish,
        Prog.run_perform_bind]
      simp only [memoryAnswer, if_neg hpoison]
      exact ih _

/-- The messages that can be claimed at a time. -/
def free (outbox : List OutboxEvent) (m : OutboxMarks) (now : Time) : List String :=
  (outbox.map OutboxEvent.messageID).filter (m.isFree now)

/-- The messages a call claims. -/
def batch (outbox : List OutboxEvent) (limit : Int) (m : OutboxMarks) (now : Time) : List String :=
  (free outbox m now).take limit.toNat

section Run

variable (hdistinct : (outbox.map OutboxEvent.messageID).Nodup) (hlimit : 0 < limit)

include hdistinct hlimit

theorem pending_messageIDs :
    (m.pendingOutboxEvents outbox limit now).1.map OutboxEvent.messageID = batch outbox limit m now := by
  have hids : OutboxEvent.messageID ∘ OutboxEvent.withEnvelopeDefaults = OutboxEvent.messageID :=
    funext fun event => event.withEnvelopeDefaults_messageID
  rw [OutboxMarks.pendingOutboxEvents_fst hdistinct, OutboxMarks.firstOf, if_neg (by omega), batch, free,
    List.filter_map, List.map_map, hids, List.map_take]
  rfl

theorem runAt_eq : runAt outbox poison err limit m now =
    markAll now (m.pendingOutboxEvents outbox limit now).2 (upTo poison (batch outbox limit m now)) := by
  rw [← pending_messageIDs hdistinct hlimit]
  exact publishEach_run _ 0

theorem isPublished_runAt (id : String) : (runAt outbox poison err limit m now).isPublished id =
    (m.isPublished id || decide (id ∈ upTo poison (batch outbox limit m now))) := by
  rw [runAt_eq hdistinct hlimit, isPublished_markAll, OutboxMarks.isPublished_pendingOutboxEvents]

theorem lookup_runAt (id : String) : (runAt outbox poison err limit m now).claimedOutbox.lookup id =
    if id ∈ upTo poison (batch outbox limit m now) then none
    else if id ∈ batch outbox limit m now then some (now + 30 * Time.second) else m.claimedOutbox.lookup id := by
  rw [runAt_eq hdistinct hlimit, lookup_markAll, OutboxMarks.lookup_pendingOutboxEvents,
    pending_messageIDs hdistinct hlimit]

theorem isPublished_runsAt (h : m.isPublished id = true) (times : List Time) :
    (runsAt outbox poison err limit m times).isPublished id = true := by
  induction times generalizing m with
  | nil => exact h
  | cons time rest ih =>
    apply ih
    rw [isPublished_runAt hdistinct hlimit, h, Bool.true_or]

theorem isFree_runAt (id : String) : (runAt outbox poison err limit m now).isFree now id =
    (m.isFree now id && !decide (id ∈ batch outbox limit m now)) := by
  refine isFree_of_claimed mem_of_mem_upTo ?_ (isPublished_runAt hdistinct hlimit id) (lookup_runAt hdistinct hlimit id)
  simp [Time.second]

end Run

/-! ### Calls at one time -/

/-- No message comes after the one that fails. -/
def NothingBehind (poison : String) (messageIDs : List String) : Prop :=
  messageIDs.length ≤ messageIDs.idxOf poison + 1

/-- The message is the last one of its batch, or no message comes after it. -/
def PoisonLast (n : Nat) (poison : String) (messageIDs : List String) : Prop :=
  NothingBehind poison messageIDs ∨ (messageIDs.idxOf poison + 1) % n = 0

instance (poison : String) (messageIDs : List String) : Decidable (NothingBehind poison messageIDs) :=
  inferInstanceAs (Decidable (_ ≤ _))

instance (n : Nat) (poison : String) (messageIDs : List String) : Decidable (PoisonLast n poison messageIDs) :=
  inferInstanceAs (Decidable (_ ∨ _))

theorem poisonLast_of_notMem {n : Nat} {messageIDs : List String} (h : poison ∉ messageIDs) :
    PoisonLast n poison messageIDs := by
  left
  rw [NothingBehind, List.idxOf_eq_length h]
  omega

theorem idxOf_append_cons {before : List String} (h : poison ∉ before) (after : List String) :
    (before ++ poison :: after).idxOf poison = before.length := by
  rw [List.idxOf_append_of_notMem h, List.idxOf_cons_self, Nat.add_zero]

theorem nothingBehind_append {before after : List String} (h : poison ∉ before) :
    NothingBehind poison (before ++ poison :: after) ↔ after = [] := by
  rw [NothingBehind, idxOf_append_cons h, List.length_append, List.length_cons, ← List.length_eq_zero_iff]
  omega

theorem poisonLast_append {n : Nat} {before after : List String} (h : poison ∉ before) :
    PoisonLast n poison (before ++ poison :: after) ↔ after = [] ∨ (before.length + 1) % n = 0 := by
  rw [PoisonLast, nothingBehind_append h, idxOf_append_cons h]

theorem filter_notMem_append (first rest : List String) (h : (first ++ rest).Nodup) :
    (first ++ rest).filter (fun id => !decide (id ∈ first)) = rest := by
  have hdisjoint := List.disjoint_of_nodup_append h
  rw [List.filter_append, List.filter_eq_nil_iff.mpr, List.filter_eq_self.mpr, List.nil_append]
  · intro id hid
    simpa using fun hfirst => hdisjoint hfirst hid
  · intro id hid
    simpa using hid

theorem filter_notMem_take {messageIDs : List String} (h : messageIDs.Nodup) (n : Nat) :
    messageIDs.filter (fun id => !decide (id ∈ messageIDs.take n)) = messageIDs.drop n := by
  have happend := List.take_append_drop n messageIDs
  have hfilter := filter_notMem_append (messageIDs.take n) (messageIDs.drop n) (by rwa [happend])
  rwa [happend] at hfilter

/-- A batch that ends before the message or with it leaves the same situation behind, and publishes what it takes. -/
theorem PoisonLast.drop {n : Nat} (hn : 0 < n) {messageIDs : List String} (hdistinct : messageIDs.Nodup)
    (h : PoisonLast n poison messageIDs) : PoisonLast n poison (messageIDs.drop n) ∧
      ∀ id ∈ messageIDs, id ≠ poison → id ∈ upTo poison (messageIDs.take n) ∨ id ∈ messageIDs.drop n := by
  by_cases hmem : poison ∈ messageIDs
  · obtain ⟨before, after, rfl, hbefore⟩ := List.eq_append_cons_of_mem hmem
    have hafter : poison ∉ after := (List.nodup_cons.mp hdistinct.of_append_right).1
    rw [poisonLast_append hbefore] at h
    by_cases hlength : n ≤ before.length
    · rw [List.drop_append_of_le_length hlength, List.take_append_of_le_length hlength]
      constructor
      · rw [poisonLast_append fun hdrop => hbefore (List.mem_of_mem_drop hdrop), List.length_drop]
        refine h.imp_right fun hmod => ?_
        have hsplit : before.length + 1 = (before.length - n + 1) + n := by omega
        rwa [hsplit, Nat.add_mod_right] at hmod
      · intro id hid hne
        rw [upTo_eq_self fun htake => hbefore (List.mem_of_mem_take htake), ← List.mem_append, ← List.append_assoc,
          List.take_append_drop]
        exact hid
    · have hends : after = [] ∨ n = before.length + 1 := by
        refine h.imp_right fun hmod => ?_
        have hle := Nat.le_of_dvd (Nat.succ_pos _) (Nat.dvd_of_mod_eq_zero hmod)
        omega
      obtain ⟨later, rfl⟩ : ∃ later, n = before.length + 1 + later := ⟨n - before.length - 1, by omega⟩
      have hsplit : (before ++ poison :: after) = (before ++ [poison]) ++ after := by simp
      have hbatch : (before ++ poison :: after).take (before.length + 1 + later) = before ++ [poison] ∧
          (before ++ poison :: after).drop (before.length + 1 + later) = after := by
        rw [hsplit]
        rcases hends with rfl | hlater
        · simp
        · obtain rfl : later = 0 := by omega
          exact ⟨List.take_left' (by simp), List.drop_left' (by simp)⟩
      rw [hbatch.1, hbatch.2, upTo_append hbefore]
      refine ⟨poisonLast_of_notMem hafter, ?_⟩
      intro id hid hne
      simpa [hne] using hid
  · refine ⟨poisonLast_of_notMem fun hdrop => hmem (List.mem_of_mem_drop hdrop), ?_⟩
    intro id hid _
    rw [upTo_eq_self fun htake => hmem (List.mem_of_mem_take htake)]
    rw [← List.take_append_drop n messageIDs] at hid
    exact List.mem_append.mp hid

section Calls

variable (hdistinct : (outbox.map OutboxEvent.messageID).Nodup) (hlimit : 0 < limit)

include hdistinct

theorem free_nodup : (free outbox m now).Nodup := hdistinct.filter _

include hlimit

theorem free_runAt (m : OutboxMarks) (now : Time) (poison : String) (err : Error) :
    free outbox (runAt outbox poison err limit m now) now = (free outbox m now).drop limit.toNat := by
  rw [← filter_notMem_take (free_nodup hdistinct), free, free, List.filter_filter]
  apply List.filter_congr
  intro id _
  rw [isFree_runAt hdistinct hlimit, Bool.and_comm]
  rfl

theorem exists_drained (err : Error) (h : PoisonLast limit.toNat poison (free outbox m now)) :
    ∃ calls : Nat, ∀ id ∈ free outbox m now, id ≠ poison →
      (runsAt outbox poison err limit m (List.replicate calls now)).isPublished id = true := by
  induction hlength : (free outbox m now).length using Nat.strong_induction_on generalizing m with
  | _ length ih =>
    by_cases hempty : free outbox m now = []
    · exact ⟨0, by simp [hempty]⟩
    · have hpos : 0 < (free outbox m now).length := List.length_pos_of_ne_nil hempty
      obtain ⟨hlast, hsplit⟩ := h.drop (by omega) (free_nodup hdistinct)
      have hfree := free_runAt hdistinct hlimit m now poison err
      have hshorter : (free outbox (runAt outbox poison err limit m now) now).length < length := by
        rw [hfree, List.length_drop, ← hlength]
        omega
      rw [← hfree] at hlast hsplit
      obtain ⟨calls, hcalls⟩ := ih _ hshorter hlast rfl
      refine ⟨calls + 1, ?_⟩
      intro id hid hne
      rw [List.replicate_succ, runsAt, List.foldl_cons, ← runsAt]
      rcases hsplit id hid hne with hdone | hlater
      · apply isPublished_runsAt hdistinct hlimit
        rw [isPublished_runAt hdistinct hlimit, Bool.or_eq_true, decide_eq_true_eq]
        exact .inr hdone
      · exact hcalls id hlater hne

end Calls

/-! ### Waiting for the leases -/

/-- The messages that are not published yet. -/
def unpublished (outbox : List OutboxEvent) (m : OutboxMarks) : List String :=
  (outbox.map OutboxEvent.messageID).filter fun id => !m.isPublished id

theorem isClaimed_of_le {later : Time} (h : m.isClaimed now id = false) (hle : now ≤ later) :
    m.isClaimed later id = false := by
  rw [OutboxMarks.isClaimed, Option.any_eq_false] at h ⊢
  intro deadline hdeadline
  have hover := h deadline hdeadline
  rw [decide_eq_false_iff_not] at hover ⊢
  exact fun hlater => hover (lt_of_le_of_lt hle hlater)

theorem exists_leases_over (m : OutboxMarks) (start : Time) (messageIDs : List String) :
    ∃ now, start ≤ now ∧ ∀ id ∈ messageIDs, m.isClaimed now id = false := by
  induction messageIDs with
  | nil => exact ⟨start, le_refl _, by simp⟩
  | cons id rest ih =>
    obtain ⟨now, hstart, hrest⟩ := ih
    obtain ⟨later, hle, hid⟩ : ∃ later, now ≤ later ∧ m.isClaimed later id = false := by
      cases hlookup : m.claimedOutbox.lookup id with
      | none => exact ⟨now, le_refl _, by simp [OutboxMarks.isClaimed, hlookup]⟩
      | some deadline =>
        exact ⟨max now deadline, le_max_left _ _, by simp [OutboxMarks.isClaimed, hlookup]⟩
    refine ⟨later, hstart.trans hle, ?_⟩
    intro other hother
    rcases List.mem_cons.mp hother with rfl | hother
    · exact hid
    · exact isClaimed_of_le (hrest other hother) hle

theorem free_eq_unpublished (h : ∀ id ∈ unpublished outbox m, m.isClaimed now id = false) :
    free outbox m now = unpublished outbox m := by
  apply List.filter_congr
  intro id hid
  cases hpublished : m.isPublished id with
  | true => simp [OutboxMarks.isFree, hpublished]
  | false =>
    have hclaimed := h id (List.mem_filter.mpr ⟨hid, by simp [hpublished]⟩)
    simp [OutboxMarks.isFree, hpublished, hclaimed]

/-- Calls of the relay from a time on, none before the one it follows. -/
def Schedule (start : Time) (times : List Time) : Prop := (start :: times).Pairwise (· ≤ ·)

/-- All messages but one are published. -/
def AllButPublished (outbox : List OutboxEvent) (poison : String) (m : OutboxMarks) : Prop :=
  ∀ id ∈ outbox.map OutboxEvent.messageID, id ≠ poison → m.isPublished id = true

/-- Once the leases are over a message that is the last one of its batch holds up nothing. -/
theorem exists_calls (hdistinct : (outbox.map OutboxEvent.messageID).Nodup) (hlimit : 0 < limit)
    (h : PoisonLast limit.toNat poison (unpublished outbox m)) (start : Time) :
    ∃ (now : Time) (calls : Nat), start ≤ now ∧
      AllButPublished outbox poison (runsAt outbox poison err limit m (List.replicate calls now)) := by
  obtain ⟨now, hstart, hover⟩ := exists_leases_over m start (unpublished outbox m)
  have hfree := free_eq_unpublished hover
  rw [← hfree] at h
  obtain ⟨calls, hcalls⟩ := exists_drained hdistinct hlimit err h
  refine ⟨now, calls, hstart, ?_⟩
  intro id hid hne
  cases hpublished : m.isPublished id with
  | true => exact isPublished_runsAt hdistinct hlimit hpublished _
  | false =>
    apply hcalls id _ hne
    rw [hfree]
    exact List.mem_filter.mpr ⟨hid, by simp [hpublished]⟩

theorem schedule_replicate {start : Time} (h : start ≤ now) (calls : Nat) :
    Schedule start (List.replicate calls now) := by
  refine List.pairwise_cons.mpr ⟨?_, List.pairwise_replicate.mpr (.inr (le_refl _))⟩
  intro time htime
  rw [List.eq_of_mem_replicate htime]
  exact h

theorem runAt_of_notMem (hdistinct : (outbox.map OutboxEvent.messageID).Nodup) (hlimit : 0 < limit) (poison : String)
    (err : Error) (h : id ∉ batch outbox limit m now) :
    (runAt outbox poison err limit m now).isPublished id = m.isPublished id ∧
      (runAt outbox poison err limit m now).claimedOutbox.lookup id = m.claimedOutbox.lookup id := by
  have hdone : id ∉ upTo poison (batch outbox limit m now) := fun hmem => h (mem_of_mem_upTo hmem)
  rw [isPublished_runAt hdistinct hlimit, lookup_runAt hdistinct hlimit, if_neg hdone, if_neg h]
  simp [hdone]

/-! ### Calls that let the leases end -/

/-- Calls from a time on, each at least the given time after the one before it. -/
def Spaced (gap : Time) : Time → List Time → Prop
  | _, [] => True
  | start, time :: rest => start ≤ time ∧ Spaced gap (time + gap) rest

theorem exists_spaced (gap start : Time) (calls : Nat) : ∃ times, Spaced gap start times ∧ times.length = calls := by
  induction calls generalizing start with
  | zero => exact ⟨[], trivial, rfl⟩
  | succ calls ih =>
    obtain ⟨times, hspaced, rfl⟩ := ih (start + gap)
    exact ⟨start :: times, ⟨le_refl _, hspaced⟩, rfl⟩

theorem allButPublished_iff : AllButPublished outbox poison m ↔ ∀ id ∈ unpublished outbox m, id = poison := by
  constructor
  · intro h id hid
    obtain ⟨hmem, hunpublished⟩ := List.mem_filter.mp hid
    by_contra hne
    simp [h id hmem hne] at hunpublished
  · intro h id hid hne
    by_contra hunpublished
    exact hne (h id (List.mem_filter.mpr ⟨hid, by simpa using hunpublished⟩))

/-- The messages before the one that fails, and the others from that one on. -/
structure Split (poison : String) (before tail messageIDs : List String) : Prop where
  eq : messageIDs = before ++ tail
  before : poison ∉ before
  tail : tail = [] ∨ ∃ behind, tail = poison :: behind

theorem exists_split (poison : String) (messageIDs : List String) :
    ∃ before tail, Split poison before tail messageIDs := by
  by_cases hmem : poison ∈ messageIDs
  · obtain ⟨before, behind, rfl, hbefore⟩ := List.eq_append_cons_of_mem hmem
    exact ⟨before, poison :: behind, rfl, hbefore, .inr ⟨behind, rfl⟩⟩
  · exact ⟨messageIDs, [], (List.append_nil _).symm, hmem, .inl rfl⟩

namespace Split

variable {before tail messageIDs : List String} (h : Split poison before tail messageIDs)

include h

theorem nothingBehind_iff (hdistinct : messageIDs.Nodup) :
    NothingBehind poison messageIDs ↔ ∀ id ∈ tail, id = poison := by
  have hnotMem := h.before
  rw [h.eq] at hdistinct ⊢
  rcases h.tail with rfl | ⟨behind, rfl⟩
  · simp [NothingBehind, List.idxOf_eq_length hnotMem]
  · have hbehind : poison ∉ behind := (List.nodup_cons.mp hdistinct.of_append_right).1
    rw [nothingBehind_append hnotMem, List.forall_mem_cons]
    constructor
    · rintro rfl
      exact ⟨rfl, by simp⟩
    · rintro ⟨-, hsame⟩
      apply List.eq_nil_iff_forall_not_mem.mpr
      intro id hid
      exact hbehind (hsame id hid ▸ hid)

theorem upTo_take (n : Nat) : upTo poison (messageIDs.take n) = before.take n := by
  have hnotMem : poison ∉ before.take n := fun hmem => h.before (List.mem_of_mem_take hmem)
  rw [h.eq]
  by_cases hlength : n ≤ before.length
  · rw [List.take_append_of_le_length hlength, upTo_eq_self hnotMem]
  · obtain ⟨more, rfl⟩ : ∃ more, n = before.length + (more + 1) := ⟨n - before.length - 1, by omega⟩
    rw [List.take_length_add_append, List.take_of_length_le (l := before) (by omega)]
    rcases h.tail with rfl | ⟨behind, rfl⟩
    · rw [List.take_nil, List.append_nil, upTo_eq_self h.before]
    · rw [List.take_succ_cons, upTo_append h.before]

/-- A batch publishes what it takes from before the message that fails, and nothing else. -/
theorem filter_upTo (hdistinct : messageIDs.Nodup) (n : Nat) :
    messageIDs.filter (fun id => !decide (id ∈ upTo poison (messageIDs.take n))) = before.drop n ++ tail := by
  have hsplit : before.take n ++ (before.drop n ++ tail) = messageIDs := by
    rw [← List.append_assoc, List.take_append_drop, h.eq]
  rw [h.upTo_take]
  have hfilter := filter_notMem_append (before.take n) (before.drop n ++ tail) (by rwa [hsplit])
  rwa [hsplit] at hfilter

end Split

/-- No lease of an unpublished message is running. -/
def Quiet (outbox : List OutboxEvent) (m : OutboxMarks) (now : Time) : Prop :=
  ∀ id ∈ unpublished outbox m, m.isClaimed now id = false

variable {times : List Time}

section Spaced

variable {before tail : List String} {gap start : Time} (hdistinct : (outbox.map OutboxEvent.messageID).Nodup)
  (hlimit : 0 < limit)

include hdistinct

theorem unpublished_nodup : (unpublished outbox m).Nodup := hdistinct.filter _

include hlimit

theorem unpublished_runAt_eq : unpublished outbox (runAt outbox poison err limit m now) =
    (unpublished outbox m).filter fun id => !decide (id ∈ upTo poison (batch outbox limit m now)) := by
  rw [unpublished, unpublished, List.filter_filter]
  apply List.filter_congr
  intro id _
  rw [isPublished_runAt hdistinct hlimit, Bool.not_or, Bool.and_comm]

theorem mem_unpublished_of_runAt (h : id ∈ unpublished outbox (runAt outbox poison err limit m now)) :
    id ∈ unpublished outbox m ∧ id ∉ upTo poison (batch outbox limit m now) := by
  rw [unpublished_runAt_eq hdistinct hlimit] at h
  simpa using List.mem_filter.mp h

/-- The leases a call takes are over after 30 seconds. -/
theorem Quiet.runAt (h : Quiet outbox m now) (poison : String) (err : Error) {later : Time}
    (hlater : now + 30 * Time.second ≤ later) : Quiet outbox (runAt outbox poison err limit m now) later := by
  intro id hid
  have hold := h id (mem_unpublished_of_runAt hdistinct hlimit hid).1
  have hle : now ≤ later := (Nat.le_add_right _ _).trans hlater
  rw [OutboxMarks.isClaimed, lookup_runAt hdistinct hlimit]
  split_ifs
  · rfl
  · rw [Option.any_some, decide_eq_false_iff_not]
    exact not_lt.mpr hlater
  · exact isClaimed_of_le hold hle

theorem unpublished_runAt (hquiet : Quiet outbox m now) (h : Split poison before tail (unpublished outbox m)) :
    unpublished outbox (runAt outbox poison err limit m now) = before.drop limit.toNat ++ tail := by
  rw [unpublished_runAt_eq hdistinct hlimit, batch, free_eq_unpublished hquiet]
  exact h.filter_upTo (unpublished_nodup hdistinct) _

/-- Calls that are 30 seconds apart take the messages before the one that fails, batch by batch. -/
theorem unpublished_runsAt (hgap : 30 * Time.second ≤ gap) (hquiet : Quiet outbox m start)
    (hspaced : Spaced gap start times) (h : Split poison before tail (unpublished outbox m)) :
    unpublished outbox (runsAt outbox poison err limit m times) = before.drop (limit.toNat * times.length) ++ tail := by
  induction times generalizing m start before with
  | nil =>
    rw [List.length_nil, Nat.mul_zero, List.drop_zero]
    exact h.eq
  | cons time rest ih =>
    have hquiet : Quiet outbox m time := fun id hid => isClaimed_of_le (hquiet id hid) hspaced.1
    have hrest : unpublished outbox (runAt outbox poison err limit m time) = before.drop limit.toNat ++ tail :=
      unpublished_runAt hdistinct hlimit hquiet h
    have hsplit : Split poison (before.drop limit.toNat) tail
        (unpublished outbox (runAt outbox poison err limit m time)) :=
      ⟨hrest, fun hmem => h.before (List.mem_of_mem_drop hmem), h.tail⟩
    have hnext := ih (hquiet.runAt hdistinct hlimit poison err (Nat.add_le_add_left hgap time)) hspaced.2 hsplit
    rw [runsAt, List.foldl_cons, ← runsAt, hnext, List.drop_drop, List.length_cons, Nat.mul_succ, Nat.add_comm]

theorem allButPublished_of_spaced (hgap : 30 * Time.second ≤ gap) (hquiet : Quiet outbox m start)
    (h : NothingBehind poison (unpublished outbox m)) (hspaced : Spaced gap start times)
    (hcalls : (unpublished outbox m).length ≤ times.length) :
    AllButPublished outbox poison (runsAt outbox poison err limit m times) := by
  obtain ⟨before, tail, hsplit⟩ := exists_split poison (unpublished outbox m)
  have hbefore : before.length ≤ limit.toNat * times.length := by
    have hlength := congrArg List.length hsplit.eq
    rw [List.length_append] at hlength
    have hpos : 1 ≤ limit.toNat := by omega
    calc before.length ≤ times.length := by omega
      _ ≤ limit.toNat * times.length := Nat.le_mul_of_pos_left _ hpos
  rw [allButPublished_iff, unpublished_runsAt hdistinct hlimit hgap hquiet hspaced hsplit,
    List.drop_eq_nil_of_le hbefore, List.nil_append]
  exact (hsplit.nothingBehind_iff (unpublished_nodup hdistinct)).mp h

theorem nothingBehind_of_spaced (hgap : 30 * Time.second ≤ gap) (hquiet : Quiet outbox m start)
    (hspaced : Spaced gap start times) (h : AllButPublished outbox poison (runsAt outbox poison err limit m times)) :
    NothingBehind poison (unpublished outbox m) := by
  obtain ⟨before, tail, hsplit⟩ := exists_split poison (unpublished outbox m)
  rw [allButPublished_iff, unpublished_runsAt hdistinct hlimit hgap hquiet hspaced hsplit] at h
  rw [hsplit.nothingBehind_iff (unpublished_nodup hdistinct)]
  exact fun id hid => h id (List.mem_append_right _ hid)

end Spaced

/-! ### Starvation -/

theorem free_eq_filter (outbox : List OutboxEvent) (m : OutboxMarks) (now : Time) :
    free outbox m now = (unpublished outbox m).filter fun id => !m.isClaimed now id := by
  rw [free, unpublished, List.filter_filter]
  apply List.filter_congr
  intro id _
  rw [OutboxMarks.isFree, Bool.and_comm]

/-- `blocked` is the next unpublished message behind the one that fails. Either no lease is running and it will be in
the batch of the message that fails, or it has been, and shares its lease. -/
def Starved (n : Nat) (outbox : List OutboxEvent) (poison blocked : String) (m : OutboxMarks) (now : Time) : Prop :=
  ∃ before rest, unpublished outbox m = before ++ poison :: blocked :: rest ∧
    (Quiet outbox m now ∧ (before.length + 1) % n ≠ 0 ∨
      before = [] ∧ m.claimedOutbox.lookup poison = m.claimedOutbox.lookup blocked)

section Starved

variable {blocked : String} {before rest : List String} {later : Time}
  (hdistinct : (outbox.map OutboxEvent.messageID).Nodup) (hlimit : 0 < limit)

include hdistinct

theorem apart (h : unpublished outbox m = before ++ poison :: blocked :: rest) :
    (poison ∉ before ∧ blocked ∉ before) ∧ poison ∉ rest ∧ blocked ∉ rest ∧ blocked ≠ poison := by
  have hnodup := unpublished_nodup (m := m) hdistinct
  rw [h] at hnodup
  have hdisjoint := List.disjoint_of_nodup_append hnodup
  obtain ⟨hpoison, hbehind⟩ := List.nodup_cons.mp hnodup.of_append_right
  refine ⟨⟨fun hmem => hdisjoint hmem (by simp), fun hmem => hdisjoint hmem (by simp)⟩, ?_,
    (List.nodup_cons.mp hbehind).1, ?_⟩
  · exact fun hmem => hpoison (List.mem_cons_of_mem _ hmem)
  · rintro rfl
    exact hpoison List.mem_cons_self

include hlimit

/-- The message that fails and the one behind it are in the batch, and get the same lease. -/
theorem lookup_of_batch (hbatch : ∃ after, batch outbox limit m now = before ++ poison :: blocked :: after)
    (h : unpublished outbox m = before ++ poison :: blocked :: rest) :
    (runAt outbox poison err limit m now).claimedOutbox.lookup poison =
      (runAt outbox poison err limit m now).claimedOutbox.lookup blocked := by
  obtain ⟨after, hbatch⟩ := hbatch
  obtain ⟨⟨hpoison, hblocked⟩, -⟩ := apart hdistinct h
  rw [lookup_runAt hdistinct hlimit, lookup_runAt hdistinct hlimit, hbatch, upTo_append hpoison]
  simp [hpoison, hblocked]

theorem Starved.run_of_quiet (h : unpublished outbox m = before ++ poison :: blocked :: rest)
    (hquiet : Quiet outbox m later) (hmod : (before.length + 1) % limit.toNat ≠ 0) :
    Starved limit.toNat outbox poison blocked (runAt outbox poison err limit m later) later := by
  have hsplit : Split poison before (poison :: blocked :: rest) (unpublished outbox m) :=
    ⟨h, (apart hdistinct h).1.1, .inr ⟨_, rfl⟩⟩
  have hafter : unpublished outbox (runAt outbox poison err limit m later) = _ :=
    unpublished_runAt hdistinct hlimit hquiet hsplit
  have hbatch : batch outbox limit m later = (before ++ poison :: blocked :: rest).take limit.toNat := by
    rw [batch, free_eq_unpublished hquiet, h]
  refine ⟨before.drop limit.toNat, rest, hafter, ?_⟩
  by_cases hlength : limit.toNat ≤ before.length
  · -- the batch ends before the message that fails, and is published
    rw [List.take_append_of_le_length hlength] at hbatch
    refine .inl ⟨fun id hid => ?_, ?_⟩
    · obtain ⟨hold, hkept⟩ := mem_unpublished_of_runAt hdistinct hlimit hid
      have hnot : id ∉ batch outbox limit m later := by
        rwa [batch, free_eq_unpublished hquiet, hsplit.upTo_take, ← hbatch] at hkept
      rw [OutboxMarks.isClaimed, (runAt_of_notMem hdistinct hlimit poison err hnot).2]
      exact hquiet id hold
    · rw [List.length_drop]
      have hshorter : before.length + 1 = (before.length - limit.toNat + 1) + limit.toNat := by omega
      rwa [hshorter, Nat.add_mod_right] at hmod
  · have hne : before.length + 1 ≠ limit.toNat := fun heq => hmod (by rw [heq, Nat.mod_self])
    obtain ⟨more, hmore⟩ : ∃ more, limit.toNat = before.length + (more + 2) :=
      ⟨limit.toNat - before.length - 2, by omega⟩
    refine .inr ⟨List.drop_eq_nil_of_le (by omega), lookup_of_batch hdistinct hlimit ⟨rest.take more, ?_⟩ h⟩
    rw [hbatch, hmore]
    exact List.take_length_add_append _

theorem Starved.run_of_shared (htwo : 2 ≤ limit.toNat) (h : unpublished outbox m = poison :: blocked :: rest)
    (hlookup : m.claimedOutbox.lookup poison = m.claimedOutbox.lookup blocked) :
    Starved limit.toNat outbox poison blocked (runAt outbox poison err limit m later) later := by
  have hsplit : unpublished outbox m = [] ++ poison :: blocked :: rest := h
  obtain ⟨-, hpoison, hblocked, -⟩ := apart hdistinct hsplit
  have hsame : m.isClaimed later blocked = m.isClaimed later poison := by
    rw [OutboxMarks.isClaimed, OutboxMarks.isClaimed, hlookup]
  have hfree := free_eq_filter outbox m later
  rw [h] at hfree
  cases hclaimed : m.isClaimed later poison with
  | false =>
    have hbatch : ∃ after, batch outbox limit m later = [] ++ poison :: blocked :: after := by
      obtain ⟨more, hmore⟩ : ∃ more, limit.toNat = more + 2 := ⟨limit.toNat - 2, by omega⟩
      rw [List.filter_cons_of_pos (by simp [hclaimed]), List.filter_cons_of_pos (by simp [hsame, hclaimed])] at hfree
      rw [batch, hfree, hmore]
      exact ⟨_, rfl⟩
    refine ⟨[], rest, ?_, .inr ⟨rfl, lookup_of_batch hdistinct hlimit hbatch h⟩⟩
    obtain ⟨after, hbatch⟩ := hbatch
    rw [unpublished_runAt_eq hdistinct hlimit, hbatch, upTo_append List.not_mem_nil, h]
    simp
  | true =>
    rw [List.filter_cons_of_neg (by simp [hclaimed]), List.filter_cons_of_neg (by simp [hsame, hclaimed])] at hfree
    have hrest : ∀ id ∈ batch outbox limit m later, id ∈ rest := by
      intro id hid
      rw [batch, hfree] at hid
      exact List.mem_of_mem_filter (List.mem_of_mem_take hid)
    have hpoison' := runAt_of_notMem hdistinct hlimit poison err fun hmem => hpoison (hrest poison hmem)
    have hblocked' := runAt_of_notMem hdistinct hlimit poison err fun hmem => hblocked (hrest blocked hmem)
    refine ⟨[], rest.filter fun id => !decide (id ∈ upTo poison (batch outbox limit m later)), ?_, .inr ⟨rfl, ?_⟩⟩
    · rw [unpublished_runAt_eq hdistinct hlimit, h, List.filter_cons_of_pos, List.filter_cons_of_pos]
      · rfl
      · simpa using fun hmem => hblocked (hrest blocked (mem_of_mem_upTo hmem))
      · simpa using fun hmem => hpoison (hrest poison (mem_of_mem_upTo hmem))
    · rw [hpoison'.2, hblocked'.2, hlookup]

theorem Starved.run (htwo : 2 ≤ limit.toNat) (h : Starved limit.toNat outbox poison blocked m now) (hle : now ≤ later) :
    Starved limit.toNat outbox poison blocked (runAt outbox poison err limit m later) later := by
  obtain ⟨before, rest, hunpublished, ⟨hquiet, hmod⟩ | ⟨rfl, hlookup⟩⟩ := h
  · exact run_of_quiet hdistinct hlimit hunpublished (fun id hid => isClaimed_of_le (hquiet id hid) hle) hmod
  · exact run_of_shared hdistinct hlimit htwo hunpublished hlookup

theorem Starved.runs (htwo : 2 ≤ limit.toNat) (h : Starved limit.toNat outbox poison blocked m now)
    (hschedule : Schedule now times) :
    ∃ last, Starved limit.toNat outbox poison blocked (runsAt outbox poison err limit m times) last := by
  induction times generalizing m now with
  | nil => exact ⟨now, h⟩
  | cons time rest ih =>
    obtain ⟨hfirst, hrest⟩ := List.pairwise_cons.mp hschedule
    exact ih (h.run hdistinct hlimit htwo (hfirst time List.mem_cons_self)) hrest

end Starved

/-- Without running leases, a message that is neither the last one of its batch nor the last one of all starves the
one behind it. -/
theorem exists_starved (hlimit : 0 < limit) (hquiet : Quiet outbox m now)
    (h : ¬ PoisonLast limit.toNat poison (unpublished outbox m)) :
    2 ≤ limit.toNat ∧ ∃ blocked, Starved limit.toNat outbox poison blocked m now := by
  have hmem : poison ∈ unpublished outbox m := by
    by_contra hmem
    exact h (poisonLast_of_notMem hmem)
  obtain ⟨before, after, hsplit, hbefore⟩ := List.eq_append_cons_of_mem hmem
  rw [hsplit, poisonLast_append hbefore, not_or] at h
  obtain ⟨blocked, rest, rfl⟩ := List.exists_cons_of_ne_nil h.1
  have hone : limit.toNat ≠ 1 := fun hone => h.2 (by rw [hone, Nat.mod_one])
  exact ⟨by omega, blocked, before, rest, hsplit, .inl ⟨hquiet, h.2⟩⟩

theorem not_exists_schedule (hdistinct : (outbox.map OutboxEvent.messageID).Nodup) (hlimit : 0 < limit)
    (hquiet : Quiet outbox m now)
    (h : ¬ PoisonLast limit.toNat poison (unpublished outbox m)) :
    ¬ ∃ times, Schedule now times ∧ AllButPublished outbox poison (runsAt outbox poison err limit m times) := by
  rintro ⟨times, hschedule, hpublished⟩
  obtain ⟨htwo, blocked, hstarved⟩ := exists_starved hlimit hquiet h
  obtain ⟨last, before, rest, hunpublished, -⟩ := hstarved.runs hdistinct hlimit htwo hschedule
  obtain ⟨-, -, -, hblocked⟩ := apart hdistinct hunpublished
  refine hblocked (allButPublished_iff.mp hpublished blocked ?_)
  rw [hunpublished]
  simp

end Relay

/-! ### The result -/

/-- Calls of the relay that are at least 30 seconds apart publish everything but the message that fails exactly when no
unpublished event is behind it, and then as many calls as there are unpublished events are enough. Calls at one instant
publish everything else when the message is the last one of its batch, counted from the first unpublished event; no
calls at all do without either of the two, unless a lease is running at the start. -/
theorem relay_passes_poison_iff {outbox : List OutboxEvent} (hdistinct : (outbox.map OutboxEvent.messageID).Nodup)
    {limit : Int} (hlimit : 1 ≤ limit) (poison : String) (err : Error) (m : OutboxMarks) (start : Time) :
    (Relay.Quiet outbox m start → ∀ gap, 30 * Time.second ≤ gap →
      ((∃ times, Relay.Spaced gap start times ∧
        Relay.AllButPublished outbox poison (Relay.runsAt outbox poison err limit m times)) ↔
        Relay.NothingBehind poison (Relay.unpublished outbox m)) ∧
      (Relay.NothingBehind poison (Relay.unpublished outbox m) → ∀ times, Relay.Spaced gap start times →
        (Relay.unpublished outbox m).length ≤ times.length →
        Relay.AllButPublished outbox poison (Relay.runsAt outbox poison err limit m times))) ∧
    (Relay.PoisonLast limit.toNat poison (Relay.unpublished outbox m) → ∃ (now : Time) (calls : Nat), start ≤ now ∧
      Relay.AllButPublished outbox poison (Relay.runsAt outbox poison err limit m (List.replicate calls now))) ∧
    (Relay.Quiet outbox m start →
      ((∃ times, Relay.Schedule start times ∧
        Relay.AllButPublished outbox poison (Relay.runsAt outbox poison err limit m times)) ↔
      Relay.PoisonLast limit.toNat poison (Relay.unpublished outbox m))) := by
  refine ⟨fun hquiet gap hgap => ⟨⟨?_, fun hbehind => ?_⟩, ?_⟩,
    fun hlast => Relay.exists_calls hdistinct hlimit hlast start, fun hquiet => ⟨?_, fun hlast => ?_⟩⟩
  · rintro ⟨times, hspaced, hpublished⟩
    exact Relay.nothingBehind_of_spaced hdistinct hlimit hgap hquiet hspaced hpublished
  · obtain ⟨times, hspaced, hlength⟩ := Relay.exists_spaced gap start (Relay.unpublished outbox m).length
    exact ⟨times, hspaced, Relay.allButPublished_of_spaced hdistinct hlimit hgap hquiet hbehind hspaced hlength.ge⟩
  · intro hbehind times hspaced hcalls
    exact Relay.allButPublished_of_spaced hdistinct hlimit hgap hquiet hbehind hspaced hcalls
  · intro hschedule
    by_contra hlast
    exact Relay.not_exists_schedule hdistinct hlimit hquiet hlast hschedule
  · obtain ⟨now, calls, hstart, hpublished⟩ := Relay.exists_calls hdistinct hlimit hlast start
    exact ⟨_, Relay.schedule_replicate hstart calls, hpublished⟩

def stalledOutbox : List OutboxEvent :=
  [{ sampleEvent .orderCreated with messageID := "msg_1" }, { sampleEvent .orderCreated with messageID := "msg_2" }]

theorem quiet_empty (outbox : List OutboxEvent) (start : Time) : Relay.Quiet outbox .empty start := by
  intro id _
  simp [OutboxMarks.isClaimed, OutboxMarks.empty]

theorem unpublished_stalledOutbox : Relay.unpublished stalledOutbox .empty = ["msg_1", "msg_2"] := by
  simp [Relay.unpublished, stalledOutbox, OutboxMarks.isPublished, OutboxMarks.empty]

/-- With calls a minute apart the first of two events is published although the second one never is, and the second one
is not published if the first one never is. One event at a time and at one instant, it is. -/
theorem relay_passes_poison_of_one :
    (∃ times, Relay.Spaced (60 * Time.second) 0 times ∧ Relay.AllButPublished stalledOutbox "msg_2"
      (Relay.runsAt stalledOutbox "msg_2" (.plain "unroutable") 1 .empty times)) ∧
    (¬ ∃ times, Relay.Spaced (60 * Time.second) 0 times ∧ Relay.AllButPublished stalledOutbox "msg_1"
      (Relay.runsAt stalledOutbox "msg_1" (.plain "unroutable") 1 .empty times)) ∧
    ∃ (now : Time) (calls : Nat), 0 ≤ now ∧ Relay.AllButPublished stalledOutbox "msg_1"
      (Relay.runsAt stalledOutbox "msg_1" (.plain "unroutable") 1 .empty (List.replicate calls now)) := by
  have hdistinct : (stalledOutbox.map OutboxEvent.messageID).Nodup := by decide
  have hgap : 30 * Time.second ≤ 60 * Time.second := by decide
  refine ⟨?_, ?_, ?_⟩
  · rw [((relay_passes_poison_iff hdistinct (le_refl 1) "msg_2" (.plain "unroutable") .empty 0).1 (quiet_empty _ _) _
      hgap).1, unpublished_stalledOutbox]
    decide
  · rw [((relay_passes_poison_iff hdistinct (le_refl 1) "msg_1" (.plain "unroutable") .empty 0).1 (quiet_empty _ _) _
      hgap).1, unpublished_stalledOutbox]
    decide
  · apply (relay_passes_poison_iff hdistinct (le_refl 1) "msg_1" (.plain "unroutable") .empty 0).2.1
    right
    exact Nat.mod_one _

/-- In batches of two, no calls at any times publish the second event. -/
theorem relay_starved_in_batches : ¬ ∃ times, Relay.Schedule 0 times ∧
    Relay.AllButPublished stalledOutbox "msg_1"
      (Relay.runsAt stalledOutbox "msg_1" (.plain "unroutable") 2 .empty times) := by
  apply Relay.not_exists_schedule
  · decide
  · decide
  · exact quiet_empty _ _
  · rw [unpublished_stalledOutbox]
    decide +kernel

end FulfillHub
