import Mathlib

/-!
# Locks taken in an order

Agents hold resources and request others. A deadlock is a cycle of agents each of which requests what the next one
holds. Where every agent requests only what comes after all it holds, in a relation without cycles, there is none.
-/

namespace Locking

open Relation

variable {A R : Type} (holds requests : A → R → Prop)

/-- One agent requests what another holds. -/
def WaitsFor (a b : A) : Prop := ∃ r, requests a r ∧ holds b r

def Deadlock : Prop := ∃ a, TransGen (WaitsFor holds requests) a a

variable {holds requests} {before : R → R → Prop}

/-- Along a chain of agents the requests come one after the other. -/
theorem before_of_chain (hone : ∀ a r r', requests a r → requests a r' → r = r')
    (hordered : ∀ a r r', holds a r → requests a r' → before r r') {a b : A} {r r' : R}
    (hchain : TransGen (WaitsFor holds requests) a b) (ha : requests a r) (hb : requests b r') :
    TransGen before r r' := by
  induction hchain generalizing r' with
  | single hwaits =>
    obtain ⟨r₀, hrequests, hholds⟩ := hwaits
    rw [hone _ _ _ ha hrequests]
    exact .single (hordered _ _ _ hholds hb)
  | tail _ hwaits ih =>
    obtain ⟨r₀, hrequests, hholds⟩ := hwaits
    exact (ih hrequests).tail (hordered _ _ _ hholds hb)

/-- **The lock order rule.** -/
theorem not_deadlock (hone : ∀ a r r', requests a r → requests a r' → r = r')
    (hordered : ∀ a r r', holds a r → requests a r' → before r r') (hacyclic : ∀ r, ¬ TransGen before r r) :
    ¬ Deadlock holds requests := by
  rintro ⟨a, hcycle⟩
  obtain ⟨r, hrequests⟩ : ∃ r, requests a r := by
    obtain ⟨b, ⟨r, hrequests, -⟩, -⟩ := TransGen.head'_iff.mp hcycle
    exact ⟨r, hrequests⟩
  exact hacyclic r (before_of_chain hone hordered hcycle hrequests hrequests)

end Locking
