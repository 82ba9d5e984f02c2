import FulfillHub.Library.Pool

/-!
# Running a system

A simulator carries out acts as steps of a system, so a list of acts is a run that can be computed. A
check may refuse steps. Existence of a reachable state with a decidable property is then a
computation.
-/

namespace Interaction

variable {S L A : Type} {M : Lts S L}

structure Simulator (M : Lts S L) (A : Type) where
  next : S → A → Option (L × S)
  sound : ∀ {s a l t}, next s a = some (l, t) → M.step s l t

/-- A check decides a condition on steps. -/
def Decides (M : Lts S L) (check : S → L → S → Bool) (cond : S → L → Prop) : Prop :=
  ∀ s l t, M.step s l t → check s l t = true → cond s l

namespace Simulator

/-- A system whose steps are computed from their labels simulates itself. -/
def ofStep (step : S → L → Option S) (h : ∀ {s l t}, step s l = some t → M.step s l t) : Simulator M L where
  next := fun s l => (step s l).map (l, ·)
  sound := by
    intro s l l' t hnext
    obtain ⟨_, hstep, heq⟩ := Option.map_eq_some_iff.mp hnext
    cases heq
    exact h hstep

variable (sim : Simulator M A)

/-- Carry out acts from a state, refusing steps that fail the check. -/
def run (check : S → L → S → Bool) : S → List A → Option S
  | s, [] => some s
  | s, a :: rest =>
    match sim.next s a with
    | some (l, t) => if check s l t then run check t rest else none
    | none => none

variable {sim} {check : S → L → S → Bool} {cond : S → L → Prop} {s t : S}

theorem path_of_run (hcheck : Decides M check cond) {acts : List A} (h : sim.run check s acts = some t) :
    ∃ ls, M.Path cond s ls t := by
  induction acts generalizing s with
  | nil =>
    cases h
    exact ⟨[], .nil _⟩
  | cons a rest ih =>
    simp only [run] at h
    split at h
    · rename_i l u hnext
      by_cases hpass : check s l u = true
      · rw [if_pos hpass] at h
        obtain ⟨ls, hpath⟩ := ih h
        exact ⟨l :: ls, .cons (sim.sound hnext) (hcheck _ _ _ (sim.sound hnext) hpass) hpath⟩
      · rw [if_neg hpass] at h
        cases h
    · cases h

variable (sim)

theorem exists_path_from {Q : S → Prop} [DecidablePred Q] (hcheck : Decides M check cond) (s : S) (acts : List A)
    (h : (sim.run check s acts).any (fun t => decide (Q t)) = true) : ∃ ls t, M.Path cond s ls t ∧ Q t := by
  cases hrun : sim.run check s acts with
  | none => simp [hrun] at h
  | some t =>
    obtain ⟨ls, hpath⟩ := path_of_run hcheck hrun
    exact ⟨ls, t, hpath, by simpa [hrun] using h⟩

/-- Acts that pass their checks and lead to a state with a property show that it is reachable. -/
theorem exists_reachable {Q : S → Prop} [DecidablePred Q] (hcheck : Decides M check cond)
    (hs : M.Reachable cond s) (acts : List A)
    (h : (sim.run check s acts).any (fun t => decide (Q t)) = true) : ∃ t, M.Reachable cond t ∧ Q t := by
  obtain ⟨_, t, hpath, hQ⟩ := sim.exists_path_from hcheck s acts h
  exact ⟨t, hs.path hpath, hQ⟩

theorem exists_path {Q : S → S → Prop} [∀ s t, Decidable (Q s t)] (hcheck : Decides M check cond)
    (hs : M.Reachable cond s) (before after : List A)
    (h : (sim.run check s before).any
      (fun s => (sim.run check s after).any (fun t => decide (Q s t))) = true) :
    ∃ s ls t, M.Reachable cond s ∧ M.Path cond s ls t ∧ Q s t := by
  cases hbefore : sim.run check s before with
  | none => simp [hbefore] at h
  | some u =>
    cases hafter : sim.run check u after with
    | none => simp [hbefore, hafter] at h
    | some t =>
      obtain ⟨_, hpath⟩ := path_of_run hcheck hbefore
      obtain ⟨ls, hpath'⟩ := path_of_run hcheck hafter
      exact ⟨u, ls, t, hs.path hpath, hpath', by simpa [hbefore, hafter] using h⟩

end Simulator

theorem decides_decide (cond : S → L → Prop) [∀ s l, Decidable (cond s l)] :
    Decides M (fun s l _ => decide (cond s l)) cond := fun _ _ _ _ h => of_decide_eq_true h

theorem decides_anyStep : Decides M (fun _ _ _ => true) Lts.anyStep := fun _ _ _ _ _ => trivial

namespace PoolSpec

variable {J C α : Type} {R : C → Type} (P : PoolSpec S J R α)

/-- Start a job, or have the shared state answer the call that is pending in a thread. -/
def schedule (answer : S → (c : C) → R c × S) (s : Pool S J R α) :
    J ⊕ Nat → Option (Pool.Label J R × Pool S J R α)
  | .inl job => some (.spawn job, ⟨s.shared, s.threads ++ [P.fresh job]⟩)
  | .inr i =>
    match s.threads[i]? with
    | some ⟨job, trace, .call c next⟩ =>
      some (.answer i c (answer s.shared c).1, ⟨(answer s.shared c).2,
        s.threads.set i ⟨job, trace ++ [⟨c, (answer s.shared c).1⟩], next (answer s.shared c).1⟩⟩)
    | _ => none

theorem step_of_schedule {answer : S → (c : C) → R c × S}
    (hanswer : ∀ s c, P.answers s c (answer s c).1 (answer s c).2) {s t : Pool S J R α} {a : J ⊕ Nat}
    {l : Pool.Label J R} (h : P.schedule answer s a = some (l, t)) : P.lts.step s l t := by
  cases a with
  | inl job =>
    cases h
    exact .spawn s job
  | inr i =>
    simp only [schedule] at h
    split at h
    · rename_i job trace c next hthread
      cases h
      exact .answer hthread (hanswer _ _)
    · cases h

/-- The scheduler of a pool whose shared state has one answer to every call. -/
def simulator (answer : S → (c : C) → R c × S) (h : ∀ s c, P.answers s c (answer s c).1 (answer s c).2) :
    Simulator P.lts (J ⊕ Nat) where
  next := P.schedule answer
  sound := P.step_of_schedule h

end PoolSpec

end Interaction
