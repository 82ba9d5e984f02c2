import FulfillHub.Library.Transition

/-!
# Programs that make calls

A sequential program is a tree: it returns a value, or it makes a call and continues with the answer.
Reading a program this way keeps the text of the code and leaves open what happens between two of its
calls, so one definition serves both the run to the end on a state and the run interleaved with others.

`Follows` is the program logic used throughout. A contract says which call may be made after which
exchanges, and which value may be returned after them; a program follows a contract when this is so
for every call it can ever make and every value it can ever return, whatever the answers are.
-/

namespace Interaction

/-- A program making calls `c : C`, each answered in `R c`, and returning an `α`. -/
inductive Prog (C : Type) (R : C → Type) (α : Type)
  | ret (a : α)
  | call (c : C) (next : R c → Prog C R α)

/-- A call together with the answer it got. -/
abbrev Exchange {C : Type} (R : C → Type) := (c : C) × R c

abbrev Trace {C : Type} (R : C → Type) := List (Exchange R)

namespace Prog

variable {C : Type} {R : C → Type} {α β : Type}

def bind : Prog C R α → (α → Prog C R β) → Prog C R β
  | ret a, f => f a
  | call c next, f => call c fun r => (next r).bind f

instance : Monad (Prog C R) where
  pure := ret
  bind := bind

/-- The program that makes one call and returns its answer. -/
def perform (c : C) : Prog C R (R c) := call c ret

/-- The value of a program that has returned. -/
def returned? : Prog C R α → Option α
  | ret a => some a
  | call _ _ => none

/-- The run of a program to its end on a state, with the state answering every call. -/
def run {S : Type} (answer : S → (c : C) → R c × S) : Prog C R α → S → α × S
  | ret a, s => (a, s)
  | call c next, s => (next (answer s c).1).run answer (answer s c).2

/-- The program over a larger signature of calls. -/
def lift {C' : Type} {R' : C' → Type} (f : C → C') (g : ∀ c, R' (f c) → R c) : Prog C R α → Prog C' R' α
  | ret a => ret a
  | call c next => call (f c) fun r => (next (g c r)).lift f g

@[simp] theorem run_perform_bind {S : Type} (answer : S → (c : C) → R c × S) (c : C) (f : R c → Prog C R α) (s : S) :
    (perform c >>= f).run answer s = (f (answer s c).1).run answer (answer s c).2 := rfl

/-- Every call the program can ever make has this property, whatever the answers are. -/
inductive Calls (p : C → Prop) : Prog C R α → Prop
  | ret (a : α) : Calls p (ret a)
  | call {c : C} {next : R c → Prog C R α} (hc : p c) (hnext : ∀ r, Calls p (next r)) : Calls p (call c next)

variable {p : C → Prop}

theorem Calls.head {c : C} {next : R c → Prog C R α} (h : (Prog.call c next).Calls p) : p c := by
  cases h with
  | call hc _ => exact hc

theorem Calls.next {c : C} {next : R c → Prog C R α} (h : (Prog.call c next).Calls p) (r : R c) :
    (next r).Calls p := by
  cases h with
  | call _ hnext => exact hnext r

theorem Calls.bind {x : Prog C R α} {f : α → Prog C R β} (hx : x.Calls p) (hf : ∀ a, (f a).Calls p) :
    (x >>= f).Calls p := by
  induction hx with
  | ret a => exact hf a
  | call hc _ ih => exact .call hc ih

theorem Calls.perform {c : C} (hc : p c) : (Prog.perform c : Prog C R (R c)).Calls p := .call hc .ret

end Prog

/-- Which call may be made, and which value returned, after which exchanges. -/
structure Contract {C : Type} (R : C → Type) (α : Type) where
  allowed : Trace R → C → Prop
  returns : Trace R → α → Prop

namespace Contract

variable {C : Type} {R : C → Type} {α β : Type}

/-- From the exchanges so far on, the program only makes allowed calls and only returns admitted
values. -/
inductive Follows (K : Contract R α) : Trace R → Prog C R α → Prop
  | ret {trace : Trace R} {a : α} (h : K.returns trace a) : Follows K trace (.ret a)
  | call {trace : Trace R} {c : C} {next : R c → Prog C R α} (hc : K.allowed trace c)
      (hnext : ∀ r, Follows K (trace ++ [⟨c, r⟩]) (next r)) : Follows K trace (.call c next)

variable {K : Contract R α} {trace : Trace R}

theorem Follows.returns {a : α} (h : K.Follows trace (.ret a)) : K.returns trace a := by
  cases h with
  | ret h => exact h

theorem Follows.allowed {c : C} {next : R c → Prog C R α} (h : K.Follows trace (.call c next)) :
    K.allowed trace c := by
  cases h with
  | call hc _ => exact hc

theorem Follows.next {c : C} {next : R c → Prog C R α} (h : K.Follows trace (.call c next)) (r : R c) :
    K.Follows (trace ++ [⟨c, r⟩]) (next r) := by
  cases h with
  | call _ hnext => exact hnext r

theorem Follows.perform {c : C} {f : R c → Prog C R α} (hc : K.allowed trace c)
    (hf : ∀ r, K.Follows (trace ++ [⟨c, r⟩]) (f r)) : K.Follows trace (Prog.perform c >>= f) :=
  .call hc hf

theorem Follows.bind {L : Contract R β} {p : Prog C R α} {f : α → Prog C R β}
    (hp : Follows ⟨L.allowed, fun trace a => L.Follows trace (f a)⟩ trace p) :
    L.Follows trace (p >>= f) := by
  induction hp with
  | ret h => exact h
  | call hc _ ih => exact .call hc ih

theorem Follows.mono {L : Contract R α} (hallowed : ∀ trace c, K.allowed trace c → L.allowed trace c)
    (hreturns : ∀ trace a, K.returns trace a → L.returns trace a) {p : Prog C R α}
    (hp : K.Follows trace p) : L.Follows trace p := by
  induction hp with
  | ret h => exact .ret (hreturns _ _ h)
  | call hc _ ih => exact .call (hallowed _ _ hc) ih

/-- A contract that grants everything is followed by every program. -/
theorem Follows.of_forall (hallowed : ∀ trace c, K.allowed trace c) (hreturns : ∀ trace a, K.returns trace a)
    (trace : Trace R) (p : Prog C R α) : K.Follows trace p := by
  induction p generalizing trace with
  | ret a => exact .ret (hreturns _ _)
  | call c next ih => exact .call (hallowed _ _) fun r => ih r _

theorem Follows.grows {base : Trace R} (hbase : base <+: trace) {p : Prog C R α} (hp : K.Follows trace p) :
    Follows ⟨K.allowed, fun trace a => K.returns trace a ∧ base <+: trace⟩ trace p := by
  induction hp with
  | ret h => exact .ret ⟨h, hbase⟩
  | call hc _ ih => exact .call hc fun r => ih r (hbase.trans (List.prefix_append _ _))

end Contract

end Interaction
