import Mathlib

/-!
# Counting in fixed windows

A counter for each key. The first hit of a key opens a window of a fixed length, later hits are counted in it until it
ends, and the first hit at its end or after it opens the next one. An implementation follows this counter when its own
state shows, from the present instant on, the windows that are still open.
-/

structure FixedWindow where
  count : Nat
  stop : Nat

namespace FixedWindow

section Counter

variable {K : Type} (length : Nat) (windows : K → Option FixedWindow) (now : Nat) (key : K)

/-- The window of the key that is open at the instant. -/
def current : Option FixedWindow := (windows key).filter fun window => decide (now < window.stop)

/-- The window of the key with the hit counted in it. -/
def counted : FixedWindow :=
  match current windows now key with
  | some window => ⟨window.count + 1, window.stop⟩
  | none => ⟨1, now + length⟩

variable [DecidableEq K]

def hit : K → Option FixedWindow := Function.update windows key (some (counted length windows now key))

/-- The count each hit of a sequence reaches. -/
def counts : (K → Option FixedWindow) → List (Nat × K) → List Nat
  | _, [] => []
  | windows, (now, key) :: hits => (counted length windows now key).count :: counts (hit length windows now key) hits

def afterHits : (K → Option FixedWindow) → List (Nat × K) → K → Option FixedWindow
  | windows, [] => windows
  | windows, (now, key) :: hits => afterHits (hit length windows now key) hits

end Counter

variable {K : Type} {length : Nat} {windows : K → Option FixedWindow} {now later : Nat} {key other : K}
  {window : FixedWindow}

theorem current_of_open (hwindow : windows key = some window) (hopen : now < window.stop) :
    current windows now key = some window := by
  simp [current, hwindow, Option.filter, hopen]

theorem current_of_ended (hended : ∀ window, windows key = some window → window.stop ≤ now) :
    current windows now key = none := by
  unfold current
  cases hwindow : windows key with
  | none => rfl
  | some window =>
    have hle := hended window hwindow
    simp [Option.filter, Nat.not_lt.mpr hle]

theorem counted_of_open (hcurrent : current windows now key = some window) :
    counted length windows now key = ⟨window.count + 1, window.stop⟩ := by
  simp [counted, hcurrent]

theorem counted_of_ended (hcurrent : current windows now key = none) :
    counted length windows now key = ⟨1, now + length⟩ := by
  simp [counted, hcurrent]

theorem one_le_counted : 1 ≤ (counted length windows now key).count := by
  unfold counted
  split
  · exact Nat.le_add_left 1 _
  · exact le_refl 1

variable [DecidableEq K] {hits : List (Nat × K)}

@[simp] theorem hit_self : hit length windows now key key = some (counted length windows now key) :=
  Function.update_self ..

theorem hit_of_ne (hne : other ≠ key) : hit length windows now key other = windows other :=
  Function.update_of_ne hne ..

theorem current_hit_of_ne (hne : other ≠ key) :
    current (hit length windows now key) later other = current windows later other := by
  rw [current, current, hit_of_ne hne]

/-! ### Sequences of hits -/

@[simp] theorem length_counts : (counts length windows hits).length = hits.length := by
  induction hits generalizing windows with
  | nil => rfl
  | cons h hits ih => simp [counts, ih]

theorem one_le_of_mem_counts {count : Nat} (hcount : count ∈ counts length windows hits) : 1 ≤ count := by
  induction hits generalizing windows with
  | nil => contradiction
  | cons h hits ih =>
    obtain hfirst | hlater := List.mem_cons.mp hcount
    · exact hfirst ▸ one_le_counted
    · exact ih hlater

theorem counts_append (hits more : List (Nat × K)) : counts length windows (hits ++ more) =
    counts length windows hits ++ counts length (afterHits length windows hits) more := by
  induction hits generalizing windows with
  | nil => rfl
  | cons h hits ih => simp [counts, afterHits, ih]

/-- No window outlasts the last hit by more than the length. -/
theorem stop_afterHits_le (hits : List (Nat × K))
    (hstop : ∀ key window, windows key = some window → window.stop ≤ later + length)
    (hhits : ∀ h ∈ hits, h.1 ≤ later) (hwindow : afterHits length windows hits key = some window) :
    window.stop ≤ later + length := by
  induction hits generalizing windows with
  | nil => exact hstop key window hwindow
  | cons h hits ih =>
    obtain ⟨hfirst, hrest⟩ := List.forall_mem_cons.mp hhits
    refine ih ?_ hrest hwindow
    intro other found hfound
    by_cases hother : other = h.2
    · subst hother
      rw [hit_self, Option.some.injEq] at hfound
      subst hfound
      cases hcurrent : current windows h.1 h.2 with
      | none =>
        rw [counted_of_ended hcurrent]
        exact Nat.add_le_add_right hfirst _
      | some window =>
        rw [counted_of_open hcurrent]
        exact hstop h.2 window (Option.filter_eq_some_iff.mp hcurrent).1
    · rw [hit_of_ne hother] at hfound
      exact hstop other found hfound

theorem afterHits_replicate (hlength : 0 < length) (hcurrent : current windows now key = none) (n : Nat) :
    afterHits length windows (List.replicate (n + 1) (now, key)) key = some ⟨n + 1, now + length⟩ := by
  have hopen : ∀ (m count : Nat) (windows : K → Option FixedWindow), windows key = some ⟨count, now + length⟩ →
      afterHits length windows (List.replicate m (now, key)) key = some ⟨count + m, now + length⟩ := by
    intro m
    induction m with
    | zero =>
      intro count windows hwindow
      exact hwindow
    | succ m ih =>
      intro count windows hwindow
      have hcounted : counted length windows now key = ⟨count + 1, now + length⟩ :=
        counted_of_open (current_of_open hwindow (Nat.lt_add_of_pos_right hlength))
      rw [List.replicate_succ, afterHits, ih (count + 1), Nat.add_right_comm, Nat.add_assoc]
      rw [hit_self, hcounted]
  rw [List.replicate_succ, afterHits, hopen n 1, Nat.add_comm]
  rw [hit_self, counted_of_ended hcurrent]

end FixedWindow
