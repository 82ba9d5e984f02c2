import FulfillHub.Library.Prog

/-!
# Complete runs of a program

A program is finite, so whatever it is answered it returns. `Returns` is the run to the end under
answers that are left open, with all exchanges of the run; `Through` is the way of a state along
exchanges, when the state has a say in the answers.
-/

namespace Interaction

variable {C : Type} {R : C → Type} {α β : Type}

/-- The program returns the value after exactly these exchanges. -/
inductive Prog.Returns : Prog C R α → Trace R → α → Prop
  | ret (a : α) : Returns (.ret a) [] a
  | call {c : C} {next : R c → Prog C R α} {trace : Trace R} {a : α} (r : R c)
      (hnext : Returns (next r) trace a) : Returns (.call c next) (⟨c, r⟩ :: trace) a

/-- The exchanges lead from one state to another. -/
inductive Trace.Through {S : Type} (answers : S → (c : C) → R c → S → Prop) : S → Trace R → S → Prop
  | nil (s : S) : Through answers s [] s
  | cons {s s' s'' : S} {c : C} {r : R c} {trace : Trace R} (hanswer : answers s c r s')
      (hthrough : Through answers s' trace s'') : Through answers s (⟨c, r⟩ :: trace) s''

namespace Prog.Returns

variable {trace : Trace R} {a : α}

theorem of_ret {b : α} (h : (Prog.ret b : Prog C R α).Returns trace a) : trace = [] ∧ a = b := by
  cases h
  exact ⟨rfl, rfl⟩

theorem of_call {c : C} {next : R c → Prog C R α} (h : (Prog.call c next).Returns trace a) :
    ∃ r rest, trace = ⟨c, r⟩ :: rest ∧ (next r).Returns rest a := by
  cases h with
  | call r hnext => exact ⟨r, _, rfl, hnext⟩

theorem of_perform_bind {c : C} {f : R c → Prog C R α} (h : (Prog.perform c >>= f).Returns trace a) :
    ∃ r rest, trace = ⟨c, r⟩ :: rest ∧ (f r).Returns rest a := h.of_call

theorem perform_bind {c : C} {f : R c → Prog C R α} (r : R c) (h : (f r).Returns trace a) :
    (Prog.perform c >>= f).Returns (⟨c, r⟩ :: trace) a := .call r h

end Prog.Returns

theorem Prog.exists_returns_with (answer : (c : C) → R c) (p : Prog C R α) :
    ∃ trace a, p.Returns trace a ∧ ∀ exchange ∈ trace, exchange.2 = answer exchange.1 := by
  induction p with
  | ret a => exact ⟨[], a, .ret a, by simp⟩
  | call c next ih =>
    obtain ⟨trace, a, hreturns, htrace⟩ := ih (answer c)
    exact ⟨_, a, .call (answer c) hreturns, by simpa using htrace⟩

theorem Prog.exists_returns {S : Type} {answers : S → (c : C) → R c → S → Prop}
    (htotal : ∀ s c, ∃ r s', answers s c r s') (p : Prog C R α) (s : S) :
    ∃ trace a s', p.Returns trace a ∧ Trace.Through answers s trace s' := by
  induction p generalizing s with
  | ret a => exact ⟨[], a, s, .ret a, .nil s⟩
  | call c next ih =>
    obtain ⟨r, s', hanswer⟩ := htotal s c
    obtain ⟨trace, a, s'', hreturns, hthrough⟩ := ih r s'
    exact ⟨_, a, s'', .call r hreturns, .cons hanswer hthrough⟩

/-- The exchanges of the run of a program on a state that answers every call. -/
def Prog.trace {S : Type} (answer : S → (c : C) → R c × S) : Prog C R α → S → Trace R
  | .ret _, _ => []
  | .call c next, s => ⟨c, (answer s c).1⟩ :: (next (answer s c).1).trace answer (answer s c).2

theorem Prog.returns_trace {S : Type} (answer : S → (c : C) → R c × S) (p : Prog C R α) (s : S) :
    p.Returns (p.trace answer s) (p.run answer s).1 := by
  induction p generalizing s with
  | ret a => exact .ret a
  | call c next ih => exact .call _ (ih _ _)

theorem Prog.through_trace {S : Type} {answers : S → (c : C) → R c → S → Prop} {answer : S → (c : C) → R c × S}
    (hanswer : ∀ s c, answers s c (answer s c).1 (answer s c).2) (p : Prog C R α) (s : S) :
    Trace.Through answers s (p.trace answer s) (p.run answer s).2 := by
  induction p generalizing s with
  | ret a => exact .nil s
  | call c next ih => exact .cons (hanswer s c) (ih _ _)

namespace Trace.Through

variable {S : Type} {answers : S → (c : C) → R c → S → Prop} {s s' : S} {trace : Trace R}

theorem of_nil (h : Trace.Through answers s [] s') : s' = s := by
  cases h
  rfl

theorem of_cons {c : C} {r : R c} (h : Trace.Through answers s (⟨c, r⟩ :: trace) s') :
    ∃ t, answers s c r t ∧ Trace.Through answers t trace s' := by
  cases h with
  | cons hanswer hthrough => exact ⟨_, hanswer, hthrough⟩

end Trace.Through

/-! ### What a program may come to -/

namespace Prog

variable {S : Type} {answers : S → (c : C) → R c → S → Prop} {s : S}

/-- Some run of the program from the state ends like this. -/
def May (answers : S → (c : C) → R c → S → Prop) (p : Prog C R α) (s : S) (Q : α → S → Prop) : Prop :=
  ∃ trace a s', p.Returns trace a ∧ Trace.Through answers s trace s' ∧ Q a s'

@[simp] theorem may_pure {a : α} {Q : α → S → Prop} : (pure a : Prog C R α).May answers s Q ↔ Q a s := by
  constructor
  · rintro ⟨trace, b, s', hreturns, hthrough, hQ⟩
    obtain ⟨rfl, rfl⟩ := hreturns.of_ret
    exact hthrough.of_nil ▸ hQ
  · exact fun hQ => ⟨[], a, s, .ret a, .nil s, hQ⟩

theorem may_call {c : C} {next : R c → Prog C R α} {Q : α → S → Prop} :
    (Prog.call c next).May answers s Q ↔ ∃ r t, answers s c r t ∧ (next r).May answers t Q := by
  constructor
  · rintro ⟨trace, a, s', hreturns, hthrough, hQ⟩
    obtain ⟨r, rest, rfl, hnext⟩ := hreturns.of_call
    obtain ⟨t, hanswer, hrest⟩ := hthrough.of_cons
    exact ⟨r, t, hanswer, rest, a, s', hnext, hrest, hQ⟩
  · rintro ⟨r, t, hanswer, trace, a, s', hnext, hthrough, hQ⟩
    exact ⟨_, a, s', .call r hnext, .cons hanswer hthrough, hQ⟩

@[simp] theorem may_perform {c : C} {Q : R c → S → Prop} :
    (Prog.perform c).May answers s Q ↔ ∃ r t, answers s c r t ∧ Q r t := by
  simp only [perform, may_call]
  exact exists₂_congr fun r t => and_congr_right fun _ => may_pure

/-- The second program goes on from where the first one may come to. -/
@[simp] theorem may_bind {p : Prog C R α} {f : α → Prog C R β} {Q : β → S → Prop} :
    (p >>= f).May answers s Q ↔ p.May answers s fun a t => (f a).May answers t Q := by
  induction p generalizing s with
  | ret a =>
    have h : (pure a : Prog C R α).May answers s (fun a t => (f a).May answers t Q) ↔ (f a).May answers s Q := may_pure
    exact h.symm
  | call c next ih =>
    refine may_call.trans (Iff.trans ?_ may_call.symm)
    exact exists₂_congr fun r t => and_congr_right fun _ => ih r

end Prog

end Interaction
