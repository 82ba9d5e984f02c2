import FulfillHub.Postgres.StockDeadlocks

/-!
# Concurrent reservations do not oversell

Transactions that reserve stock from the same rows may overlap in any way, give up at any point, or wait for each
other. What each has taken and not committed is covered by what the others have committed, because a row it has
taken from stays locked until it ends: nobody else takes from the row meanwhile.
-/

namespace FulfillHub

open Interaction Relational

/-! ### Stock that is taken -/

/-- The stock taken from a row. -/
def takenFrom (row : Nat) (taken : List (Nat × OrderItemRow)) : Int :=
  (taken.map fun entry => if row = entry.1 then entry.2.quantity else 0).sum

theorem takenFrom_concat (row : Nat) (taken : List (Nat × OrderItemRow)) (entry : Nat × OrderItemRow) :
    takenFrom row (taken ++ [entry]) = takenFrom row taken + if row = entry.1 then entry.2.quantity else 0 := by
  simp [takenFrom]

theorem takenFrom_eq_zero {row : Nat} {taken : List (Nat × OrderItemRow)} (h : ∀ entry ∈ taken, entry.1 ≠ row) :
    takenFrom row taken = 0 := by
  refine List.sum_eq_zero fun x hx => ?_
  obtain ⟨entry, hentry, rfl⟩ := List.mem_map.mp hx
  exact if_neg (h entry hentry).symm

theorem rows_takeAll (db : Database) (taken : List (Nat × OrderItemRow)) :
    (db.takeAll taken).inventoryItems.rows =
      db.inventoryItems.rows.map fun item => item.move (takenFrom item.id taken) := by
  induction taken using List.reverseRecOn with
  | nil => exact (List.map_id'' (fun item => Database.move_zero item) _).symm
  | append_singleton taken entry ih =>
    rw [takeAll_concat]
    change (db.takeAll taken).inventoryItems.rows.map _ = _
    rw [ih, List.map_map]
    refine List.map_congr_left fun item _ => ?_
    rw [Function.comp_apply, Database.take_eq_move, Database.move_move, takenFrom_concat]
    rfl

/-! ### What a step does to the stock -/

section Effect

variable {ι : Type} [DecidableEq ι] {jobs : ReservationJobs ι} {catalog : Database} {s t : ReservationState ι}
  {i : ι} {l : ReservationStep ι} {phase : ReservationPhase} {row : Nat}

/-- A step of one transaction: it goes on with what it has taken, ends, perhaps with a commit, or takes from a row
that no other transaction has locked. -/
inductive StockEffect (i : ι) (s t : ReservationState ι) : Prop
  | kept (htaken : (t.phase i).taken = (s.phase i).taken) (hdb : t.db = s.db)
      (hlocks : ∀ row j, s.locks row = some j → t.locks row = some j)
  | ended (htaken : (t.phase i).taken = []) (hdb : t.db = s.db ∨ t.db = s.db.takeAll (s.phase i).taken)
      (hlocks : ∀ row j, s.locks row = some j → j ≠ i → t.locks row = some j)
  | took (row : Nat) (line : OrderItemRow) (htaken : (t.phase i).taken = (s.phase i).taken ++ [(row, line)])
      (hdb : t.db = s.db) (hlocks : ∀ row j, s.locks row = some j → t.locks row = some j)
      (hlock : t.locks row = some i)
      (hstock : ∃ item ∈ (s.db.takeAll (s.phase i).taken).inventoryItems.rows, item.id = row ∧
        line.quantity ≤ item.availableQuantity)

/-- A step of one transaction leaves the others where they are. -/
structure StockStep (i : ι) (s t : ReservationState ι) : Prop where
  others : ∀ j, j ≠ i → t.phase j = s.phase j
  effect : StockEffect i s t

theorem stockStep_setPhase (h : phase.taken = (s.phase i).taken) : StockStep i s (s.setPhase i phase) :=
  ⟨fun _ hj => s.phase_setPhase_of_ne hj _, .kept (by rw [ReservationState.phase_setPhase, h]) rfl fun _ _ h => h⟩

theorem locks_finish_of_ne {j : ι} (h : s.locks row = some j) (hj : j ≠ i) : (s.finish i).locks row = some j := by
  change (s.locks row).filter _ = _
  rw [h]
  exact Option.filter_some_pos (decide_eq_true hj)

theorem stockStep_finish : StockStep i s (s.finish i) :=
  ⟨fun _ hj => s.phase_finish_of_ne hj,
    .ended (by rw [ReservationState.phase_finish]; rfl) (.inl rfl) fun _ _ => locks_finish_of_ne⟩

omit [DecidableEq ι] in
theorem locks_setLock_of_free (hfree : ∀ j, s.locks row = some j → j = i) (other : Nat) (j : ι)
    (h : s.locks other = some j) : (s.setLock row i).locks other = some j := by
  by_cases hother : other = row
  · subst hother
    rw [ReservationState.locks_setLock, hfree j h]
  · rw [ReservationState.locks_setLock_of_ne _ hother, h]

theorem taken_of_trying {taken : List (Nat × OrderItemRow)} {line : OrderItemRow} {candidates : List InventoryItem}
    {lines : List OrderItemRow} (h : ReservationPhase.trying taken line candidates lines = some phase) :
    phase.taken = taken := by
  obtain ⟨item, _, others, rfl⟩ := trying_eq_some h
  rfl

variable {taken : List (Nat × OrderItemRow)} (line : OrderItemRow) (item : InventoryItem)
  (others : List InventoryItem) (lines : List OrderItemRow) (hphase : (s.phase i).taken = taken)

include hphase

theorem stockStep_chooseRow : StockStep i s (s.chooseRow jobs i taken line lines) := by
  unfold ReservationState.chooseRow
  split
  · split_ifs
    · exact stockStep_finish
    · exact stockStep_setPhase hphase.symm
  · split
    · rename_i phase htrying
      exact stockStep_setPhase ((taken_of_trying htrying).trans hphase.symm)
    · exact stockStep_finish

theorem stockStep_lockRow (hfree : ∀ j, s.locks item.id = some j → j = i) :
    StockStep i s (s.lockRow jobs i taken line item others lines) := by
  unfold ReservationState.lockRow
  split
  · rename_i stock hfind
    split_ifs
    · have hid := List.find?_some hfind
      rw [decide_eq_true_eq] at hid
      obtain ⟨hstored, hcandidate⟩ := List.mem_filter.mp (List.mem_of_find?_eq_some hfind)
      have henough : line.quantity ≤ stock.availableQuantity := by
        simp only [Database.isCandidate, Bool.and_eq_true, decide_eq_true_eq] at hcandidate
        exact hcandidate.2
      refine ⟨fun j hj => s.phase_setPhase_of_ne hj _, .took item.id line ?_ rfl (locks_setLock_of_free hfree)
        (ReservationState.locks_setLock ..) ?_⟩
      · rw [ReservationState.phase_setLock, ReservationState.phase_setPhase, hphase]
        rfl
      · rw [hphase]
        exact ⟨stock, hstored, hid, henough⟩
    · exact stockStep_finish
  · split
    · rename_i phase htrying
      refine ⟨fun j hj => s.phase_setPhase_of_ne hj _, .kept ?_ rfl (locks_setLock_of_free hfree)⟩
      rw [ReservationState.phase_setLock, ReservationState.phase_setPhase, taken_of_trying htrying, hphase]
    · exact stockStep_finish

omit hphase

theorem stockStep_of_next (h : s.next jobs l = some t) : ∃ i, StockStep i s t := by
  cases l with
  | begin i =>
    simp only [ReservationState.next] at h
    split at h
    · rename_i hphase
      split at h
      · cases h
        exact ⟨i, stockStep_setPhase (by rw [hphase]; rfl)⟩
      · cases h
        exact ⟨i, stockStep_finish⟩
    · cases h
  | choose i =>
    simp only [ReservationState.next] at h
    split at h
    · rename_i taken line lines hphase
      cases h
      exact ⟨i, stockStep_chooseRow line lines (by rw [hphase]; rfl)⟩
    · cases h
  | lock i =>
    simp only [ReservationState.next] at h
    split at h
    · rename_i taken line item others lines hphase
      split_ifs at h with hlocked
      cases h
      refine ⟨i, stockStep_lockRow line item others lines (by rw [hphase]; rfl) fun j hj => ?_⟩
      by_contra hne
      exact hlocked (by rw [hj]; exact decide_eq_true hne)
    · cases h
  | commit i =>
    simp only [ReservationState.next] at h
    split at h
    · rename_i taken hphase
      cases h
      refine ⟨i, fun _ hj => s.phase_finish_of_ne hj, .ended (by simp [ReservationPhase.taken]) (.inr ?_)
        fun _ _ => locks_finish_of_ne⟩
      rw [hphase]
      rfl
    · cases h
  | rollback i =>
    simp only [ReservationState.next] at h
    split at h
    · cases h
      exact ⟨i, stockStep_finish⟩
    · cases h
      exact ⟨i, stockStep_finish⟩
    · cases h

end Effect

/-! ### Along runs -/

section Runs

variable {ι : Type} [DecidableEq ι] {jobs : ReservationJobs ι} {catalog : Database} {s t : ReservationState ι} {i : ι}

/-- Rows that a transaction has taken from are locked by it, what it has taken is there, and no stock has come or
gone since the start. -/
structure StockCovered (catalog : Database) (s : ReservationState ι) : Prop where
  locked : ∀ i, ∀ entry ∈ (s.phase i).taken, s.locks entry.1 = some i
  stocked : ∀ item ∈ s.db.inventoryItems.rows, 0 ≤ item.availableQuantity
  covered : ∀ i, ∀ item ∈ s.db.inventoryItems.rows, takenFrom item.id (s.phase i).taken ≤ item.availableQuantity
  whole : s.db.inventoryItems.rows.map (fun item => (item.id, item.availableQuantity + item.reservedQuantity)) =
    catalog.inventoryItems.rows.map fun item => (item.id, item.availableQuantity + item.reservedQuantity)

omit [DecidableEq ι] in
/-- No two transactions have taken from one row. -/
theorem StockCovered.apart (h : StockCovered catalog s) {j : ι} (hij : i ≠ j) {row : Nat}
    (hi : ∃ entry ∈ (s.phase i).taken, entry.1 = row) : takenFrom row (s.phase j).taken = 0 := by
  obtain ⟨entry, hentry, rfl⟩ := hi
  refine takenFrom_eq_zero fun other hother hsame => hij ?_
  have hlocked := h.locked j other hother
  rw [hsame, h.locked i entry hentry] at hlocked
  exact Option.some.inj hlocked

omit [DecidableEq ι] in
/-- What a transaction commits is covered, and what the others have taken still is. -/
theorem StockCovered.covered_commit (h : StockCovered catalog s) (i j : ι) {item : InventoryItem}
    (hitem : item ∈ s.db.inventoryItems.rows) (hij : j ≠ i) :
    takenFrom item.id (s.phase j).taken ≤ item.availableQuantity - takenFrom item.id (s.phase i).taken := by
  by_cases hi : ∃ entry ∈ (s.phase i).taken, entry.1 = item.id
  · rw [h.apart hij.symm hi]
    have := h.covered i item hitem
    omega
  · rw [takenFrom_eq_zero fun entry hentry hrow => hi ⟨entry, hentry, hrow⟩]
    have := h.covered j item hitem
    omega

theorem StockCovered.step (h : StockCovered catalog s) (hstep : StockStep i s t) : StockCovered catalog t := by
  cases hstep.effect with
  | kept htaken hdb hlocks =>
    have hsame : ∀ j, (t.phase j).taken = (s.phase j).taken := by
      intro j
      by_cases hj : j = i
      · rw [hj, htaken]
      · rw [hstep.others j hj]
    refine ⟨fun j entry hentry => ?_, hdb ▸ h.stocked, fun j => ?_, hdb ▸ h.whole⟩
    · rw [hsame] at hentry
      exact hlocks _ _ (h.locked j entry hentry)
    · rw [hsame, hdb]
      exact h.covered j
  | took row line htaken hdb hlocks hlock hstock =>
    refine ⟨fun j entry hentry => ?_, hdb ▸ h.stocked, fun j item hitem => ?_, hdb ▸ h.whole⟩
    · by_cases hj : j = i
      · subst hj
        rw [htaken] at hentry
        rcases List.mem_append.mp hentry with hold | hnew
        · exact hlocks _ _ (h.locked j entry hold)
        · rw [List.mem_singleton.mp hnew]
          exact hlock
      · rw [hstep.others j hj] at hentry
        exact hlocks _ _ (h.locked j entry hentry)
    · rw [hdb] at hitem
      by_cases hj : j = i
      · subst hj
        rw [htaken, takenFrom_concat]
        have hcovered := h.covered j item hitem
        split_ifs with hrow
        · obtain ⟨stock, hmem, hid, henough⟩ := hstock
          rw [rows_takeAll] at hmem
          obtain ⟨stored, hstored, rfl⟩ := List.mem_map.mp hmem
          have hsame : stored = item := s.db.inventoryItems.eq_of_conflict InventoryItem.conflict_symm hstored hitem
            (decide_eq_true (.inl (hid.trans hrow.symm)))
          subst hsame
          change line.quantity ≤ stored.availableQuantity - _ at henough
          change _ + line.quantity ≤ _
          omega
        · omega
      · rw [hstep.others j hj]
        exact h.covered j item hitem
  | ended htaken hdb hlocks =>
    have hlocked : ∀ j, ∀ entry ∈ (t.phase j).taken, t.locks entry.1 = some j := by
      intro j entry hentry
      by_cases hj : j = i
      · rw [hj, htaken] at hentry
        cases hentry
      · rw [hstep.others j hj] at hentry
        exact hlocks _ _ (h.locked j entry hentry) hj
    rcases hdb with hdb | hdb
    · refine ⟨hlocked, hdb ▸ h.stocked, fun j item hitem => ?_, hdb ▸ h.whole⟩
      rw [hdb] at hitem
      by_cases hj : j = i
      · rw [hj, htaken]
        exact h.stocked item hitem
      · rw [hstep.others j hj]
        exact h.covered j item hitem
    · refine ⟨hlocked, ?_, ?_, ?_⟩
      · rw [hdb, rows_takeAll]
        intro item hitem
        obtain ⟨stored, hstored, rfl⟩ := List.mem_map.mp hitem
        exact Int.sub_nonneg_of_le (h.covered i stored hstored)
      · rw [hdb, rows_takeAll]
        intro j item hitem
        obtain ⟨stored, hstored, rfl⟩ := List.mem_map.mp hitem
        by_cases hj : j = i
        · rw [hj, htaken]
          exact Int.sub_nonneg_of_le (h.covered i stored hstored)
        · rw [hstep.others j hj]
          exact h.covered_commit i j hstored hj
      · rw [hdb, rows_takeAll, List.map_map, ← h.whole]
        refine List.map_congr_left fun item _ => ?_
        simp only [Function.comp_apply, InventoryItem.move, Prod.mk.injEq, true_and]
        omega

/-- **Concurrent reservations do not oversell.** However the transactions that reserve the stock of different orders,
one for each order, overlap, wait or give up: no row is negative, what each open transaction has taken from a row is
there to be committed, no two of them have taken from one row, and of every row as much is available or reserved as
there was at the start. -/
theorem reservations_never_oversell (jobs : ReservationJobs ι)
    (hcatalog : ∀ item ∈ catalog.inventoryItems.rows, 0 ≤ item.availableQuantity)
    (hs : (reservations jobs catalog).Reachable Lts.anyStep s) :
    (∀ item ∈ s.db.inventoryItems.rows, 0 ≤ item.availableQuantity ∧
      ∀ i, takenFrom item.id (s.phase i).taken ≤ item.availableQuantity) ∧
    (∀ i j, i ≠ j → ∀ entry ∈ (s.phase i).taken, ∀ other ∈ (s.phase j).taken, entry.1 ≠ other.1) ∧
    s.db.inventoryItems.rows.map (fun item => (item.id, item.availableQuantity + item.reservedQuantity)) =
      catalog.inventoryItems.rows.map fun item => (item.id, item.availableQuantity + item.reservedQuantity) := by
  have hcovered : StockCovered catalog s := by
    refine Lts.Reachable.invariant (P := StockCovered catalog) ?_ ?_ hs
    · rintro _ rfl
      exact ⟨fun _ => List.forall_mem_nil _, hcatalog, fun _ => hcatalog, rfl⟩
    · intro s l t _ ih hstep _
      obtain ⟨i, hstock⟩ := stockStep_of_next hstep
      exact ih.step hstock
  refine ⟨fun item hitem => ⟨hcovered.stocked item hitem, fun i => hcovered.covered i item hitem⟩, ?_, hcovered.whole⟩
  intro i j hij entry hentry other hother hsame
  have hlocked := hcovered.locked j other hother
  rw [← hsame, hcovered.locked i entry hentry] at hlocked
  exact hij (Option.some.inj hlocked)

/-- The first of two orders for the same stock has committed while the second waited. -/
theorem reservations_never_oversell_same : ∃ s, (reservations pairJobs sameShop).Reachable Lts.anyStep s ∧
    (∃ item ∈ s.db.inventoryItems.rows, item.reservedQuantity ≠ 0) ∧
    (∀ item ∈ s.db.inventoryItems.rows, 0 ≤ item.availableQuantity) := by
  obtain ⟨s, hs, hreserved⟩ := (reservationSimulator pairJobs sameShop).exists_reachable
    (Q := fun s => ∃ item ∈ s.db.inventoryItems.rows, item.reservedQuantity ≠ 0) decides_anyStep (.start rfl)
    [.begin false, .begin true, .choose false, .choose true, .lock false, .choose false, .lock false, .commit false,
      .lock true] (by decide +kernel)
  exact ⟨s, hs, hreserved, fun item hitem => ((reservations_never_oversell pairJobs (by decide) hs).1 item hitem).1⟩

end Runs

end FulfillHub
