import Mathlib

/-!
# Exclusive claims

Numbered parties claim keys. A key with a holder is marked as taken, and a party may only claim a key
that is not marked, so a key never has two holders. How the marks are kept is left open: a row in a
table, a lock, a lease.
-/

namespace Interaction

variable {K : Type} {taken taken' : K → Prop} {holds holds' : Nat → K → Prop}

/-- Claimed keys are taken, and each has one holder. -/
structure Claims (taken : K → Prop) (holds : Nat → K → Prop) : Prop where
  marked : ∀ i k, holds i k → taken k
  unique : ∀ i j k, holds i k → holds j k → i = j

theorem Claims.keep (h : Claims taken holds) (hkeep : ∀ i k, holds' i k → holds i k ∧ taken' k) :
    Claims taken' holds' where
  marked i k hik := (hkeep i k hik).2
  unique i j k hi hj := h.unique i j k (hkeep i k hi).1 (hkeep j k hj).1

theorem Claims.acquire (h : Claims taken holds) {i : Nat} {k : K} (hfree : ¬ taken k)
    (hholds : ∀ j k', holds' j k' → holds j k' ∨ j = i ∧ k' = k)
    (htaken : ∀ k', taken k' ∨ k' = k → taken' k') : Claims taken' holds' where
  marked j k' hj := htaken k' ((hholds j k' hj).imp (h.marked j k') And.right)
  unique a b k' ha hb := by
    rcases hholds a k' ha with hold | ⟨rfl, rfl⟩
    · rcases hholds b k' hb with hold' | ⟨_, rfl⟩
      · exact h.unique a b k' hold hold'
      · exact absurd (h.marked a _ hold) hfree
    · rcases hholds b k' hb with hold' | ⟨rfl, _⟩
      · exact absurd (h.marked b _ hold') hfree
      · rfl

/-! ### Counting -/

/-- When only one entry is not zero, and it is one, the entries add up to at most one. -/
theorem sum_le_one_of_unique {counts : List Nat} (hone : ∀ n ∈ counts, n ≤ 1)
    (hunique : ∀ (i j m n : Nat), counts[i]? = some m → counts[j]? = some n → 0 < m → 0 < n → i = j) :
    counts.sum ≤ 1 := by
  induction counts with
  | nil => simp
  | cons n rest ih =>
    rw [List.sum_cons]
    by_cases hn : 0 < n
    · have hrest : rest.sum = 0 := by
        refine List.sum_eq_zero fun m hm => ?_
        obtain ⟨j, hj⟩ := List.mem_iff_getElem?.mp hm
        by_contra hpos
        have hij := hunique 0 (j + 1) n m (by simp) (by simpa using hj) hn (Nat.pos_of_ne_zero hpos)
        omega
      have := hone n (by simp)
      omega
    · have hsum := ih (fun m hm => hone m (List.mem_cons_of_mem _ hm)) fun i j a b hi hj ha hb => by
        have hij := hunique (i + 1) (j + 1) a b (by simpa using hi) (by simpa using hj) ha hb
        omega
      omega

theorem countP_le_one_of_unique {α : Type} {entries : List α} {p : α → Bool} (hnodup : entries.Nodup)
    (hunique : ∀ a ∈ entries, ∀ b ∈ entries, p a = true → p b = true → a = b) : entries.countP p ≤ 1 := by
  rw [List.countP_eq_length_filter]
  have hfilter := hnodup.filter (p := p)
  have hmem : ∀ a ∈ entries.filter p, ∀ b ∈ entries.filter p, a = b := fun a ha b hb =>
    hunique a (List.mem_filter.mp ha).1 b (List.mem_filter.mp hb).1 (List.mem_filter.mp ha).2
      (List.mem_filter.mp hb).2
  cases hlist : entries.filter p with
  | nil => simp
  | cons a rest =>
    cases rest with
    | nil => simp
    | cons b rest =>
      rw [hlist] at hmem hfilter
      have hab := hmem a (by simp) b (by simp)
      simp [hab] at hfilter

end Interaction
