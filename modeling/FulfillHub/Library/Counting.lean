import Mathlib

/-!
# Counting by slots

A list is no longer than the list of slots its entries can be put into, one in each.
-/

namespace Interaction

theorem length_le_of_slots {α β : Type} {entries : List α} {slots : List β} {R : α → β → Prop}
    (hnodup : entries.Nodup) (hslot : ∀ a ∈ entries, ∃ slot ∈ slots, R a slot)
    (hunique : ∀ a ∈ entries, ∀ b ∈ entries, ∀ slot, R a slot → R b slot → a = b) :
    entries.length ≤ slots.length := by
  choose slotOf hmem hfills using hslot
  have hinjective : ∀ a b : { a // a ∈ entries }, slotOf a.1 a.2 = slotOf b.1 b.2 → a = b := by
    intro a b hsame
    refine Subtype.ext (hunique a.1 a.2 b.1 b.2 _ (hfills a.1 a.2) ?_)
    rw [hsame]
    exact hfills b.1 b.2
  have hslots : (entries.attach.map fun a => slotOf a.1 a.2).Nodup :=
    (List.nodup_attach.mpr hnodup).map fun a b h => hinjective a b h
  have hsubset : (entries.attach.map fun a => slotOf a.1 a.2) ⊆ slots := by
    intro slot hin
    obtain ⟨a, _, rfl⟩ := List.mem_map.mp hin
    exact hmem a.1 a.2
  have hlength := (List.subperm_of_subset hslots hsubset).length_le
  rwa [List.length_map, List.length_attach] at hlength

end Interaction
