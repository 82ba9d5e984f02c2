import Mathlib

/-!
# Labelled transition systems

A system is a set of initial states and a labelled step relation. Every safety argument below is the
same induction: a property of the initial states that each step keeps holds of every reachable state.
Runs are often restricted to steps that meet a condition on the state they start from, so
reachability carries that condition as a parameter; the unrestricted notion is the condition that
always holds.
-/

namespace Interaction

structure Lts (S L : Type) where
  init : S → Prop
  step : S → L → S → Prop

namespace Lts

variable {S L : Type} (M : Lts S L)

/-- The states reached by runs all of whose steps meet `cond` where they are taken. -/
inductive Reachable (cond : S → L → Prop) : S → Prop
  | start {s : S} : M.init s → Reachable cond s
  | step {s t : S} {l : L} : Reachable cond s → M.step s l t → cond s l → Reachable cond t

/-- The condition every step meets. -/
def anyStep : S → L → Prop := fun _ _ => True

variable {M}

variable {cond : S → L → Prop} {s : S}

theorem Reachable.mono {cond' : S → L → Prop} (h : ∀ s l, cond s l → cond' s l) (hs : M.Reachable cond s) :
    M.Reachable cond' s := by
  induction hs with
  | start hinit => exact .start hinit
  | step _ hstep hcond ih => exact .step ih hstep (h _ _ hcond)

/-- **The invariant rule.** What holds initially and is kept by every step taken from a reachable
state holds of every reachable state. -/
theorem Reachable.invariant {P : S → Prop} (hinit : ∀ s, M.init s → P s)
    (hstep : ∀ s l t, M.Reachable cond s → P s → M.step s l t → cond s l → P t) (hs : M.Reachable cond s) : P s := by
  induction hs with
  | start h => exact hinit _ h
  | step hreach h hcond ih => exact hstep _ _ _ hreach ih h hcond

/-- A condition that every step meets anyway may be added. -/
theorem Reachable.strengthen {cond' : S → L → Prop}
    (h : ∀ s l t, M.Reachable cond s → M.step s l t → cond s l → cond' s l) (hs : M.Reachable cond s) :
    M.Reachable (fun s l => cond s l ∧ cond' s l) s := by
  induction hs with
  | start hinit => exact .start hinit
  | step hreach hstep hcond ih => exact .step ih hstep ⟨hcond, h _ _ _ hreach hstep hcond⟩

/-- **The simulation rule.** When every step of a system is a step of another system between the images of
its states, or leaves the image as it is, the images of reachable states are reachable. -/
theorem Reachable.project {T K : Type} {N : Lts T K} {cond' : T → K → Prop} {f : S → T}
    (hinit : ∀ s, M.init s → N.init (f s))
    (hstep : ∀ s l t, M.Reachable cond s → N.Reachable cond' (f s) → M.step s l t → cond s l →
      f t = f s ∨ ∃ k, N.step (f s) k (f t) ∧ cond' (f s) k)
    (hs : M.Reachable cond s) : N.Reachable cond' (f s) := by
  induction hs with
  | start h => exact .start (hinit _ h)
  | step hreach h hcond ih =>
    rcases hstep _ _ _ hreach ih h hcond with hsame | ⟨k, hk, hcond'⟩
    · rw [hsame]
      exact ih
    · exact .step ih hk hcond'

/-- A finite run from a given state, with its labels. -/
inductive Path (cond : S → L → Prop) : S → List L → S → Prop
  | nil (s : S) : Path cond s [] s
  | cons {s t u : S} {l : L} {ls : List L} : M.step s l t → cond s l → Path cond t ls u →
      Path cond s (l :: ls) u

variable {ls : List L}

theorem Path.snoc {t u : S} {l : L} (hpath : M.Path cond s ls t) (hstep : M.step t l u) (hcond : cond t l) :
    M.Path cond s (ls ++ [l]) u := by
  induction hpath with
  | nil => exact .cons hstep hcond (.nil _)
  | cons hfirst hfirst' _ ih => exact .cons hfirst hfirst' (ih hstep hcond)

theorem Path.invariant {P : S → Prop} (hstep : ∀ s l t, P s → M.step s l t → cond s l → P t) {t : S}
    (hpath : M.Path cond s ls t) (h : P s) : P t := by
  induction hpath with
  | nil => exact h
  | cons hfirst hcond _ ih => exact ih (hstep _ _ _ h hfirst hcond)

theorem Reachable.path {t : S} (hs : M.Reachable cond s) (hpath : M.Path cond s ls t) : M.Reachable cond t := by
  induction hpath with
  | nil => exact hs
  | cons hstep hcond _ ih => exact ih (.step hs hstep hcond)

variable (M) in
/-- A run from an initial state, with the states it has visited. -/
inductive Run (cond : S → L → Prop) : List S → S → Prop
  | start {s : S} : M.init s → Run cond [s] s
  | step {history : List S} {s t : S} {l : L} : Run cond history s → M.step s l t → cond s l →
      Run cond (t :: history) t

theorem Run.reachable {history : List S} (h : M.Run cond history s) : M.Reachable cond s := by
  induction h with
  | start hinit => exact .start hinit
  | step _ hstep hcond ih => exact .step ih hstep hcond

theorem Run.mem {history : List S} (h : M.Run cond history s) : s ∈ history := by
  cases h with
  | start _ => exact List.mem_cons_self
  | step _ _ _ => exact List.mem_cons_self

theorem Reachable.run (h : M.Reachable cond s) : ∃ history, M.Run cond history s := by
  induction h with
  | start hinit => exact ⟨_, .start hinit⟩
  | step _ hstep hcond ih =>
    obtain ⟨_, hrun⟩ := ih
    exact ⟨_, .step hrun hstep hcond⟩

end Lts

end Interaction
