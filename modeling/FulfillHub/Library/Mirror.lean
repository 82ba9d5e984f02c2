import FulfillHub.Library.Table

/-!
# Mirrored tables

One fact is kept twice: rows of a table repeat what the row of another table with the same key says. `Mirrors`
holds when no row contradicts its counterpart and every row that needs one has it. There are three ways a
transaction keeps it: it changes both sides alike, it adds rows that have and need no counterpart, or it
overwrites both sides under one key.
-/

namespace Relational

variable {α β : Type} {same agrees : α → β → Prop} {needs : α → Prop} {as : List α} {bs bs' : List β}

structure Mirrors (same agrees : α → β → Prop) (needs : α → Prop) (as : List α) (bs : List β) : Prop where
  agree : ∀ a ∈ as, ∀ b ∈ bs, same a b → agrees a b
  backed : ∀ a ∈ as, needs a → ∃ b ∈ bs, same a b

namespace Mirrors

theorem nil : Mirrors same agrees needs [] bs := ⟨by simp, by simp⟩

theorem map (h : Mirrors same agrees needs as bs) {f : α → α} {g : β → β}
    (hsame : ∀ a b, same (f a) (g b) ↔ same a b)
    (hagrees : ∀ a b, same a b → agrees a b → agrees (f a) (g b)) (hneeds : ∀ a, needs (f a) → needs a) :
    Mirrors same agrees needs (as.map f) (bs.map g) := by
  constructor
  · intro a' ha' b' hb' hab
    obtain ⟨a, ha, rfl⟩ := List.mem_map.mp ha'
    obtain ⟨b, hb, rfl⟩ := List.mem_map.mp hb'
    rw [hsame] at hab
    exact hagrees a b hab (h.agree a ha b hb hab)
  · intro a' ha' hneed
    obtain ⟨a, ha, rfl⟩ := List.mem_map.mp ha'
    obtain ⟨b, hb, hab⟩ := h.backed a ha (hneeds a hneed)
    exact ⟨g b, List.mem_map_of_mem hb, (hsame a b).mpr hab⟩

theorem append (h : Mirrors same agrees needs as bs) {new : List α}
    (hnew : ∀ a ∈ new, ¬ needs a ∧ ∀ b ∈ bs, ¬ same a b) : Mirrors same agrees needs (as ++ new) bs := by
  constructor
  · intro a ha b hb hab
    rcases List.mem_append.mp ha with hold | hadded
    · exact h.agree a hold b hb hab
    · exact absurd hab ((hnew a hadded).2 b hb)
  · intro a ha hneed
    rcases List.mem_append.mp ha with hold | hadded
    · exact h.backed a hold hneed
    · exact absurd hneed (hnew a hadded).1

/-- The rows that are hit are overwritten together with their counterparts. -/
theorem overwrite (h : Mirrors same agrees needs as bs) {f : α → α} (hit : α → Prop)
    (hsame : ∀ a b, same (f a) b ↔ same a b) (hmiss : ∀ a, ¬ hit a → f a = a)
    (hkept : ∀ a ∈ as, ¬ hit a → ∀ b, same a b → (b ∈ bs' ↔ b ∈ bs))
    (hagrees : ∀ a ∈ as, hit a → ∀ b ∈ bs', same a b → agrees (f a) b)
    (hbacked : ∀ a ∈ as, hit a → needs (f a) → ∃ b ∈ bs', same a b) :
    Mirrors same agrees needs (as.map f) bs' := by
  constructor
  · intro a' ha' b hb hab
    obtain ⟨a, ha, rfl⟩ := List.mem_map.mp ha'
    rw [hsame] at hab
    by_cases hcase : hit a
    · exact hagrees a ha hcase b hb hab
    · rw [hmiss a hcase]
      exact h.agree a ha b ((hkept a ha hcase b hab).mp hb) hab
  · intro a' ha' hneed
    obtain ⟨a, ha, rfl⟩ := List.mem_map.mp ha'
    by_cases hcase : hit a
    · obtain ⟨b, hb, hab⟩ := hbacked a ha hcase hneed
      exact ⟨b, hb, (hsame a b).mpr hab⟩
    · rw [hmiss a hcase] at hneed ⊢
      obtain ⟨b, hb, hab⟩ := h.backed a ha hneed
      exact ⟨b, (hkept a ha hcase b hab).mpr hb, hab⟩

end Mirrors

end Relational
