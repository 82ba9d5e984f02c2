import Mathlib

/-!
# Keys with an expiry

A map from keys to the instant each of them expires. Recording a key first drops every entry that has expired
and then refuses the key while an entry for it is left. A key that was recorded is therefore refused until its
entry expires, whatever is recorded in between, as long as time does not run backwards.
-/

namespace Expiring

variable {K : Type} {seen : K → Option Int} {key other : K} {now expiry deadline : Int}

def purge (now : Int) (seen : K → Option Int) : K → Option Int :=
  fun key => (seen key).filter fun expiry => decide (now < expiry)

/-- The key has an entry that lasts at least to the deadline. -/
def HeldTo (seen : K → Option Int) (key : K) (deadline : Int) : Prop :=
  ∃ expiry, seen key = some expiry ∧ deadline ≤ expiry

theorem HeldTo.purge (h : HeldTo seen key deadline) (hnow : now < deadline) :
    HeldTo (purge now seen) key deadline := by
  obtain ⟨expiry, hseen, hle⟩ := h
  refine ⟨expiry, ?_, hle⟩
  have hlater : now < expiry := by omega
  simp [Expiring.purge, hseen, Option.filter, hlater]

theorem purge_purge {later : Int} (hle : now ≤ later) (seen : K → Option Int) :
    Expiring.purge later (Expiring.purge now seen) = Expiring.purge later seen := by
  funext key
  unfold Expiring.purge
  cases seen key with
  | none => rfl
  | some expiry =>
    by_cases hlater : later < expiry
    · have hnow : now < expiry := lt_of_le_of_lt hle hlater
      simp [Option.filter, hnow]
    · by_cases hnow : now < expiry
      · simp [Option.filter, hnow]
      · simp [Option.filter, hnow, hlater]

theorem purge_eq_of_le {seen' : K → Option Int} {later : Int}
    (h : Expiring.purge now seen = Expiring.purge now seen') (hle : now ≤ later) :
    Expiring.purge later seen = Expiring.purge later seen' := by
  rw [← purge_purge hle seen, h, purge_purge hle]

variable [DecidableEq K]

/-- Whether the key was recorded, and the map afterwards. -/
def record (seen : K → Option Int) (key : K) (now expiry : Int) : Bool × (K → Option Int) :=
  if (purge now seen key).any fun existing => decide (now < existing) then (false, purge now seen)
  else (true, Function.update (purge now seen) key (some expiry))

theorem record_congr {seen' : K → Option Int} (h : Expiring.purge now seen = Expiring.purge now seen') (key : K)
    (expiry : Int) : record seen key now expiry = record seen' key now expiry := by
  unfold record
  rw [h]

theorem record_refused (h : (record seen key now expiry).1 = false) :
    (record seen key now expiry).2 = Expiring.purge now seen := by
  unfold record at h ⊢
  split
  · rfl
  · simp_all

theorem heldTo_of_record (h : (record seen key now expiry).1 = true) :
    HeldTo (record seen key now expiry).2 key expiry := by
  unfold record at h ⊢
  split
  · simp_all
  · exact ⟨expiry, by simp, le_rfl⟩

theorem HeldTo.refused (h : HeldTo seen key deadline) (hnow : now < deadline) :
    record seen key now expiry = (false, Expiring.purge now seen) := by
  obtain ⟨existing, hseen, hle⟩ := h.purge hnow
  have hlater : now < existing := by omega
  simp [record, hseen, hlater]

/-- Before a key's deadline no recording, of it or of another key, takes its entry away. -/
theorem HeldTo.record (h : HeldTo seen key deadline) (hnow : now < deadline) :
    HeldTo (record seen other now expiry).2 key deadline := by
  by_cases hother : other = key
  · subst hother
    rw [h.refused hnow]
    exact h.purge hnow
  · unfold Expiring.record
    split
    · exact h.purge hnow
    · obtain ⟨existing, hseen, hle⟩ := h.purge hnow
      exact ⟨existing, by simp [Function.update_of_ne (Ne.symm hother), hseen], hle⟩

end Expiring
