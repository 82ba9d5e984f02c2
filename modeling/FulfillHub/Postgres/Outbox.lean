import FulfillHub.Messaging.Relay
import FulfillHub.Postgres.Schema

/-!
# Publication in PostgreSQL

The statements of `PendingOutboxEvents`, `PendingOutboxCount` and `MarkOutboxPublished` on the columns
`published_at` and `claimed_until` of `outbox_events`. Each is one statement and therefore atomic. A claim
picks the oldest rows that are free; which of several rows of the same age, and in which order they are
returned, is left to the database. The driver may report a failure whether or not the statement took
effect.
-/

namespace FulfillHub

open Relational

/-- A row of `outbox_events` with its publication columns. -/
structure OutboxRow where
  event : OutboxEvent
  publishedAt : Option Time
  claimedUntil : Option Time

def OutboxRow.messageID (row : OutboxRow) : String := row.event.messageID

def OutboxRow.conflict (a b : OutboxRow) : Bool := decide (a.messageID = b.messageID)

theorem OutboxRow.conflict_congr {a a' b b' : OutboxRow} (ha : a'.event = a.event) (hb : b'.event = b.event) :
    conflict a' b' = conflict a b := by
  rw [conflict, conflict, messageID, messageID, ha, hb]
  rfl

abbrev OutboxTable := Table OutboxRow OutboxRow.conflict

namespace OutboxTable

/-- `published_at IS NULL AND (claimed_until IS NULL OR claimed_until <= now())`. -/
def isFree (now : Time) (row : OutboxRow) : Bool :=
  row.publishedAt.isNone && row.claimedUntil.all fun claimedUntil => decide (claimedUntil ≤ now)

def claimLimit (limit : Int) : Nat := if limit ≤ 0 then 100 else limit.toNat

/-- `SELECT ... ORDER BY occurred_at ASC LIMIT`: as many free rows as there are, up to the limit, and no row
that is left is older. -/
def Picks (t : OutboxTable) (limit : Int) (now : Time) (picked : List OutboxRow) : Prop :=
  ∃ left, (picked ++ left).Perm (t.rows.filter (isFree now)) ∧
    picked.length = min (claimLimit limit) (t.rows.filter (isFree now)).length ∧
    ∀ a ∈ picked, ∀ b ∈ left, a.event.occurredAt ≤ b.event.occurredAt

def claimRow (picked : List OutboxRow) (now : Time) (row : OutboxRow) : OutboxRow :=
  if row.messageID ∈ picked.map OutboxRow.messageID then
    { row with claimedUntil := some (now + 30 * Time.second) }
  else row

@[simp] theorem event_claimRow (picked : List OutboxRow) (now : Time) (row : OutboxRow) :
    (claimRow picked now row).event = row.event := by
  rw [claimRow]
  split_ifs <;> rfl

@[simp] theorem publishedAt_claimRow (picked : List OutboxRow) (now : Time) (row : OutboxRow) :
    (claimRow picked now row).publishedAt = row.publishedAt := by
  rw [claimRow]
  split_ifs <;> rfl

def claim (t : OutboxTable) (picked : List OutboxRow) (now : Time) : OutboxTable :=
  t.update (claimRow picked now) fun _ _ => OutboxRow.conflict_congr (event_claimRow ..) (event_claimRow ..)

/-- A statement of the driver: its result and its effect, or a failure reported before or after it. -/
def Executes {α : Type} (result : Except Error α) (effect : OutboxTable) (t : OutboxTable)
    (r : Except Error α) (t' : OutboxTable) : Prop :=
  r = result ∧ t' = effect ∨ ∃ text, r = .error (.plain text) ∧ (t' = t ∨ t' = effect)

def PendingOutboxEvents (t : OutboxTable) (limit : Int) (now : Time) (r : Except Error (List OutboxEvent))
    (t' : OutboxTable) : Prop :=
  ∃ picked, t.Picks limit now picked ∧
    Executes (.ok (picked.map fun row => row.event.withEnvelopeDefaults)) (t.claim picked now) t r t'

def pendingOutboxCount (t : OutboxTable) : Nat := t.rows.countP fun row => row.publishedAt.isNone

/-- `message_id = $1 AND published_at IS NULL`. -/
def isMarkable (messageID : String) (row : OutboxRow) : Bool :=
  decide (row.messageID = messageID) && row.publishedAt.isNone

def markRow (messageID : String) (publishedAt : Time) (row : OutboxRow) : OutboxRow :=
  if isMarkable messageID row then { row with publishedAt := some publishedAt, claimedUntil := none } else row

@[simp] theorem event_markRow (messageID : String) (publishedAt : Time) (row : OutboxRow) :
    (markRow messageID publishedAt row).event = row.event := by
  rw [markRow]
  split_ifs <;> rfl

def marked (t : OutboxTable) (messageID : String) (publishedAt : Time) : OutboxTable :=
  t.update (markRow messageID publishedAt) fun _ _ => OutboxRow.conflict_congr (event_markRow ..) (event_markRow ..)

def MarkOutboxPublished (t : OutboxTable) (messageID : String) (publishedAt : Time) (r : Except Error Unit)
    (t' : OutboxTable) : Prop :=
  Executes (if t.rows.any (isMarkable messageID) then .ok () else .error errNotFound)
    (t.marked messageID publishedAt) t r t'

/-- `INSERT INTO outbox_events` in a transaction, which is rolled back when the message id is in use. -/
def append (t : OutboxTable) (event : OutboxEvent) : OutboxTable :=
  (t.insert ⟨event.withEnvelopeDefaults, none, none⟩).getD t

def isPublished (t : OutboxTable) (messageID : String) : Bool :=
  t.rows.any fun row => decide (row.messageID = messageID) && row.publishedAt.isSome

def claimedUntil (t : OutboxTable) (messageID : String) : Option Time :=
  (t.find? fun row => decide (row.messageID = messageID)).bind OutboxRow.claimedUntil

def events (t : OutboxTable) : List OutboxEvent := t.rows.map OutboxRow.event

variable {t t' : OutboxTable}

theorem Executes.cases {α : Type} {result r : Except Error α} {effect : OutboxTable}
    (h : Executes result effect t r t') : t' = t ∨ t' = effect := by
  rcases h with ⟨_, h⟩ | ⟨_, _, h⟩
  · exact .inr h
  · exact h

theorem eq_of_messageID {a b : OutboxRow} (ha : a ∈ t.rows) (hb : b ∈ t.rows)
    (h : a.messageID = b.messageID) : a = b := by
  apply t.eq_of_conflict _ ha hb
  · simp [OutboxRow.conflict, h]
  · intro a b
    simp [OutboxRow.conflict, eq_comm]

theorem isPublished_of_mem {row : OutboxRow} (hrow : row ∈ t.rows) :
    t.isPublished row.messageID = row.publishedAt.isSome := by
  cases hpublished : row.publishedAt.isSome with
  | true => exact List.any_eq_true.mpr ⟨row, hrow, by simp [hpublished]⟩
  | false =>
    refine List.any_eq_false.mpr fun other hother => ?_
    simp only [Bool.and_eq_true, decide_eq_true_eq, not_and, Bool.not_eq_true]
    intro hid
    rw [eq_of_messageID hother hrow hid, hpublished]

theorem claimedUntil_of_mem {row : OutboxRow} (hrow : row ∈ t.rows) :
    t.claimedUntil row.messageID = row.claimedUntil := by
  rw [claimedUntil]
  cases hfind : t.find? fun other => decide (other.messageID = row.messageID) with
  | none => simpa using List.find?_eq_none.mp hfind row hrow
  | some other =>
    have hid : other.messageID = row.messageID := by simpa using List.find?_some hfind
    rw [eq_of_messageID (List.mem_of_find?_eq_some hfind) hrow hid]
    rfl

theorem isPublished_iff {id : String} :
    t.isPublished id = true ↔ ∃ row ∈ t.rows, row.messageID = id ∧ row.publishedAt.isSome = true := by
  simp [isPublished]

theorem events_claim (picked : List OutboxRow) (now : Time) : events (t.claim picked now) = t.events := by
  simp [events, claim, Table.update, Function.comp_def]

theorem isPublished_claim (picked : List OutboxRow) (now : Time) (id : String) :
    isPublished (t.claim picked now) id = t.isPublished id := by
  rw [isPublished, isPublished, claim, Table.update, List.any_map]
  congr 1
  funext row
  rw [Function.comp_apply, publishedAt_claimRow, OutboxRow.messageID, event_claimRow]
  rfl

theorem events_marked (messageID : String) (now : Time) : events (t.marked messageID now) = t.events := by
  simp [events, marked, Table.update, Function.comp_def]

/-- Marking publishes the message if it is there, and nothing else. -/
theorem isPublished_marked (messageID : String) (now : Time) (id : String) :
    isPublished (t.marked messageID now) id = true ↔
      t.isPublished id = true ∨ id = messageID ∧ ∃ row ∈ t.rows, row.messageID = id := by
  simp only [isPublished_iff, marked, Table.update, List.mem_map, exists_exists_and_eq_and]
  constructor
  · rintro ⟨row, hrow, hid, hsome⟩
    rw [OutboxRow.messageID, event_markRow] at hid
    unfold markRow at hsome
    split_ifs at hsome with hmarkable
    · simp only [isMarkable, Bool.and_eq_true, decide_eq_true_eq] at hmarkable
      exact .inr ⟨hid.symm.trans hmarkable.1, row, hrow, hid⟩
    · exact .inl ⟨row, hrow, hid, hsome⟩
  · rintro (⟨row, hrow, hid, hsome⟩ | ⟨rfl, row, hrow, hid⟩)
    · refine ⟨row, hrow, by rw [OutboxRow.messageID, event_markRow]; exact hid, ?_⟩
      unfold markRow
      split_ifs
      · rfl
      · exact hsome
    · refine ⟨row, hrow, by rw [OutboxRow.messageID, event_markRow]; exact hid, ?_⟩
      unfold markRow
      split_ifs with hmarkable
      · rfl
      · simpa [isMarkable, hid, Option.isSome_iff_ne_none] using hmarkable

theorem events_append (event : OutboxEvent) (hnew : event.messageID ∉ t.events.map OutboxEvent.messageID) :
    events (t.append event) = t.events ++ [event.withEnvelopeDefaults] := by
  obtain ⟨t', hinsert⟩ : ∃ t', t.insert (⟨event.withEnvelopeDefaults, none, none⟩ : OutboxRow) = some t' := by
    refine Table.insert_eq_some fun row hrow => decide_eq_false fun hid => hnew ?_
    rw [OutboxRow.messageID, OutboxRow.messageID, OutboxEvent.withEnvelopeDefaults_messageID] at hid
    exact hid ▸ List.mem_map_of_mem (List.mem_map_of_mem hrow)
  rw [append, hinsert, events, Option.getD_some, Table.rows_insert hinsert, List.map_append]
  rfl

theorem isPublished_append (event : OutboxEvent) (id : String) :
    isPublished (t.append event) id = t.isPublished id := by
  rw [append]
  cases hinsert : t.insert (⟨event.withEnvelopeDefaults, none, none⟩ : OutboxRow) with
  | none => rfl
  | some t' => simp [isPublished, Table.rows_insert hinsert]

theorem exists_picks (t : OutboxTable) (limit : Int) (now : Time) : ∃ picked, t.Picks limit now picked := by
  let older : OutboxRow → OutboxRow → Bool := fun a b => decide (a.event.occurredAt ≤ b.event.occurredAt)
  let sorted := (t.rows.filter (isFree now)).mergeSort older
  have hsorted : sorted.Pairwise fun a b => older a b = true := by
    apply List.pairwise_mergeSort
    · intro a b c hab hbc
      simp only [older, decide_eq_true_eq] at hab hbc ⊢
      exact hab.trans hbc
    · intro a b
      simpa [older] using Nat.le_total _ _
  refine ⟨sorted.take (claimLimit limit), sorted.drop (claimLimit limit), ?_, ?_, ?_⟩
  · rw [List.take_append_drop]
    exact List.mergeSort_perm _ _
  · rw [List.length_take, List.length_mergeSort]
  · intro a ha b hb
    rw [← List.take_append_drop (claimLimit limit) sorted] at hsorted
    exact of_decide_eq_true ((List.pairwise_append.mp hsorted).2.2 a ha b hb)

/-- With room for all rows, all the free ones are picked. -/
theorem Picks.mem_of_free {limit : Int} {now : Time} {picked : List OutboxRow} (h : t.Picks limit now picked)
    (hlimit : (t.rows.length : Int) ≤ limit) {row : OutboxRow} (hrow : row ∈ t.rows)
    (hfree : isFree now row = true) : row ∈ picked := by
  obtain ⟨left, hperm, hlength, _⟩ := h
  have hmem : row ∈ t.rows.filter (isFree now) := List.mem_filter.mpr ⟨hrow, hfree⟩
  have hpos : 0 < t.rows.length := List.length_pos_of_mem hrow
  have hle : (t.rows.filter (isFree now)).length ≤ t.rows.length := List.length_filter_le _ _
  have hroom : t.rows.length ≤ claimLimit limit := by
    rw [claimLimit]
    split_ifs <;> omega
  have hleft : left = [] := by
    have htotal := hperm.length_eq
    rw [List.length_append] at htotal
    exact List.length_eq_zero_iff.mp (by omega)
  rw [hleft, List.append_nil] at hperm
  exact hperm.mem_iff.mpr hmem

end OutboxTable

/-- The table `outbox_events` as relays see it. -/
def postgresOutbox : OutboxSource OutboxTable where
  start t := t.rows = []
  events := OutboxTable.events
  published := OutboxTable.isPublished
  claimedUntil := OutboxTable.claimedUntil
  append := OutboxTable.append
  pending := OutboxTable.PendingOutboxEvents
  mark := OutboxTable.MarkOutboxPublished
  count := OutboxTable.pendingOutboxCount
  events_start t h := by simp [OutboxTable.events, h]
  published_start t h id := by simp [OutboxTable.isPublished, h]
  events_append t event hnew := OutboxTable.events_append event hnew
  published_append t event id := OutboxTable.isPublished_append event id
  events_pending t limit now r t' h := by
    obtain ⟨picked, _, h⟩ := h
    rcases h.cases with rfl | rfl
    · rfl
    · exact OutboxTable.events_claim picked now
  published_pending t limit now r t' h id := by
    obtain ⟨picked, _, h⟩ := h
    rcases h.cases with rfl | rfl
    · rfl
    · exact OutboxTable.isPublished_claim picked now id
  mem_pending t limit now claimed t' h event hevent := by
    obtain ⟨picked, ⟨left, hperm, _⟩, ⟨hr, _⟩ | ⟨_, hr, _⟩⟩ := h
    · cases hr
      obtain ⟨row, hpicked, rfl⟩ := List.mem_map.mp hevent
      obtain ⟨hrow, hfree⟩ := List.mem_filter.mp (hperm.mem_iff.mp (List.mem_append_left left hpicked))
      refine ⟨row.event, List.mem_map_of_mem hrow, rfl, ?_⟩
      rw [show row.event.messageID = row.messageID from rfl, OutboxTable.isPublished_of_mem hrow]
      simp only [OutboxTable.isFree, Bool.and_eq_true] at hfree
      simpa using hfree.1
    · cases hr
  pending_complete t limit now claimed t' h hlimit event hevent hpublished hexpired := by
    obtain ⟨row, hrow, rfl⟩ := List.mem_map.mp hevent
    rw [OutboxTable.events, List.length_map] at hlimit
    obtain ⟨picked, hpicks, ⟨hr, _⟩ | ⟨_, hr, _⟩⟩ := h
    · cases hr
      have hfree : OutboxTable.isFree now row = true := by
        have hnone := (OutboxTable.isPublished_of_mem hrow).symm.trans hpublished
        have hclaim := OutboxTable.claimedUntil_of_mem hrow
        rw [OutboxTable.isFree, Bool.and_eq_true]
        refine ⟨by simpa using hnone, ?_⟩
        cases hdeadline : row.claimedUntil with
        | none => rfl
        | some deadline => exact decide_eq_true (hexpired deadline (hclaim.trans hdeadline))
      exact ⟨_, List.mem_map_of_mem (hpicks.mem_of_free hlimit hrow hfree), by simp⟩
    · cases hr
  pending_answers t limit now := by
    obtain ⟨picked, hpicks⟩ := t.exists_picks limit now
    exact ⟨_, _, picked, hpicks, .inl ⟨rfl, rfl⟩⟩
  events_mark t id now r t' h := by
    rcases h.cases with rfl | rfl
    · rfl
    · exact OutboxTable.events_marked id now
  published_mark t id now r t' h other hother := by
    rcases h.cases with rfl | rfl
    · exact .inl hother
    · rcases (OutboxTable.isPublished_marked id now other).mp hother with hold | ⟨hid, _⟩
      · exact .inl hold
      · exact .inr hid
  mark_keeps t id now r t' h other hother := by
    rcases h.cases with rfl | rfl
    · exact hother
    · exact (OutboxTable.isPublished_marked id now other).mpr (.inl hother)
  mark_ok t id now t' h := by
    rcases h with ⟨hr, rfl⟩ | ⟨_, hr, _⟩
    · split_ifs at hr with hany
      obtain ⟨row, hrow, hmarkable⟩ := List.any_eq_true.mp hany
      simp only [OutboxTable.isMarkable, Bool.and_eq_true, decide_eq_true_eq] at hmarkable
      exact (OutboxTable.isPublished_marked id now id).mpr (.inr ⟨rfl, row, hrow, hmarkable.1⟩)
    · cases hr
  count_eq t := by
    rw [OutboxTable.pendingOutboxCount, OutboxTable.events, List.countP_map]
    refine List.countP_congr fun row hrow => ?_
    rw [Function.comp_apply, show row.event.messageID = row.messageID from rfl,
      OutboxTable.isPublished_of_mem hrow]
    simp

end FulfillHub
