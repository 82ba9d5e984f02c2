import FulfillHub.Library.Prog

/-!
# Interleaved programs

Any number of threads run programs over a shared state. A thread is started for a job, and from then
on one step of the system answers one pending call of one thread. Threads stay in the pool when they
have returned, with the exchanges they made, so the pool is its own history; a thread that is never
answered again models one that crashed.

Every statement about a run starts from the same two facts. `Step.thread_cases` says which threads a
step can touch, and `follows_of_reachable` that every thread is where its contract allows it to be.
-/

namespace Interaction

variable {S J C : Type} {R : C → Type} {α : Type}

structure Thread (J : Type) {C : Type} (R : C → Type) (α : Type) where
  job : J
  trace : Trace R
  prog : Prog C R α

structure Pool (S J : Type) {C : Type} (R : C → Type) (α : Type) where
  shared : S
  threads : List (Thread J R α)

namespace Pool

inductive Label (J : Type) {C : Type} (R : C → Type)
  | spawn (job : J)
  | answer (i : Nat) (c : C) (r : R c)

end Pool

/-- What the threads run, where the shared state starts, and how it answers calls. -/
structure PoolSpec (S J : Type) {C : Type} (R : C → Type) (α : Type) where
  program : J → Prog C R α
  start : S → Prop
  answers : S → (c : C) → R c → S → Prop

namespace PoolSpec

variable (P : PoolSpec S J R α)

/-- The thread a job is started as. -/
def fresh (job : J) : Thread J R α := ⟨job, [], P.program job⟩

inductive Step : Pool S J R α → Pool.Label J R → Pool S J R α → Prop
  | spawn (s : Pool S J R α) (job : J) :
      Step s (.spawn job) ⟨s.shared, s.threads ++ [P.fresh job]⟩
  | answer {s : Pool S J R α} {i : Nat} {job : J} {trace : Trace R} {c : C}
      {next : R c → Prog C R α} {r : R c} {shared : S}
      (hthread : s.threads[i]? = some ⟨job, trace, .call c next⟩)
      (hanswer : P.answers s.shared c r shared) :
      Step s (.answer i c r) ⟨shared, s.threads.set i ⟨job, trace ++ [⟨c, r⟩], next r⟩⟩

def lts : Lts (Pool S J R α) (Pool.Label J R) where
  init s := P.start s.shared ∧ s.threads = []
  step := P.Step

variable {P}

/-! ### The threads after a step -/

variable {j : Nat}

theorem getElem?_spawn {T : Type} {threads : List T} {t u : T} :
    (threads ++ [t])[j]? = some u ↔ threads[j]? = some u ∨ j = threads.length ∧ u = t := by
  rcases Nat.lt_trichotomy j threads.length with h | h | h
  · rw [List.getElem?_append_left h]
    constructor
    · exact Or.inl
    · rintro (h' | ⟨rfl, _⟩)
      · exact h'
      · omega
  · subst h
    simp [eq_comm]
  · have hnone : (threads ++ [t])[j]? = none := by
      rw [List.getElem?_eq_none_iff]
      simp
      omega
    have hnone' : threads[j]? = none := by
      rw [List.getElem?_eq_none_iff]
      omega
    rw [hnone, hnone']
    simp
    omega

theorem getElem?_answer {T : Type} {threads : List T} {t u v : T} {i : Nat} (ht : threads[i]? = some t) :
    (threads.set i u)[j]? = some v ↔ j = i ∧ v = u ∨ j ≠ i ∧ threads[j]? = some v := by
  have hi : i < threads.length := (List.getElem?_eq_some_iff.mp ht).1
  rw [List.getElem?_set]
  by_cases hij : i = j
  · subst hij
    simp [hi, eq_comm]
  · simp [hij, Ne.symm hij]

variable {s : Pool S J R α} {l : Pool.Label J R} {u : Thread J R α}

theorem Step.thread_cases {t : Pool S J R α} (h : P.Step s l t) (hu : t.threads[j]? = some u) :
    s.threads[j]? = some u ∨
      (∃ job, l = .spawn job ∧ j = s.threads.length ∧ u = P.fresh job) ∨
      ∃ (job : J) (trace : Trace R) (c : C) (next : R c → Prog C R α) (r : R c),
        l = .answer j c r ∧ s.threads[j]? = some ⟨job, trace, .call c next⟩ ∧
        P.answers s.shared c r t.shared ∧ u = ⟨job, trace ++ [⟨c, r⟩], next r⟩ := by
  cases h with
  | spawn job =>
    rcases getElem?_spawn.mp hu with hold | ⟨rfl, rfl⟩
    · exact .inl hold
    · exact .inr (.inl ⟨job, rfl, rfl, rfl⟩)
  | answer hthread hanswer =>
    rcases (getElem?_answer hthread).mp hu with ⟨rfl, rfl⟩ | ⟨_, hold⟩
    · exact .inr (.inr ⟨_, _, _, _, _, rfl, hthread, hanswer, rfl⟩)
    · exact .inl hold

variable {t : Thread J R α}

theorem mem_threads :
    t ∈ s.threads ↔ ∃ i : Nat, s.threads[i]? = some t := List.mem_iff_getElem?

theorem Step.getElem?_persists {t : Pool S J R α} (h : P.Step s l t) (hj : s.threads[j]? = some u) :
    ∃ v, t.threads[j]? = some v ∧ v.job = u.job ∧ ∀ a, u.prog = .ret a → v = u := by
  cases h with
  | spawn job => exact ⟨u, getElem?_spawn.mpr (.inl hj), rfl, fun _ _ => rfl⟩
  | @answer i job trace c next r shared hthread hanswer =>
    by_cases hij : j = i
    · subst hij
      rw [hthread] at hj
      cases hj
      refine ⟨_, (getElem?_answer hthread).mpr (.inl ⟨rfl, rfl⟩), rfl, fun a hret => ?_⟩
      cases hret
    · exact ⟨u, (getElem?_answer hthread).mpr (.inr ⟨hij, hj⟩), rfl, fun _ _ => rfl⟩

theorem Step.mem_of_returned {t : Pool S J R α} (h : P.Step s l t) (hu : u ∈ s.threads) {a : α}
    (hret : u.prog = .ret a) : u ∈ t.threads := by
  obtain ⟨j, hj⟩ := mem_threads.mp hu
  obtain ⟨v, hv, _, hsame⟩ := h.getElem?_persists hj
  exact mem_threads.mpr ⟨j, hsame a hret ▸ hv⟩

variable {cond : Pool S J R α → Pool.Label J R → Prop}

/-- A property of single threads that holds when they start and is kept by every answer holds of every
thread of every reachable pool. -/
theorem thread_invariant {Φ : Thread J R α → Prop} (hfresh : ∀ job, Φ (P.fresh job))
    (hanswer : ∀ job trace c (next : R c → Prog C R α) r, Φ ⟨job, trace, .call c next⟩ →
      Φ ⟨job, trace ++ [⟨c, r⟩], next r⟩)
    (hs : P.lts.Reachable cond s) (ht : t ∈ s.threads) : Φ t := by
  refine Lts.Reachable.invariant (P := fun s => ∀ t ∈ s.threads, Φ t) ?_ ?_ hs t ht
  · rintro s ⟨_, hnil⟩ t ht
    simp [hnil] at ht
  · intro s l s' _ ih hstep _ u hu
    obtain ⟨j, hj⟩ := mem_threads.mp hu
    rcases hstep.thread_cases hj with hold | ⟨job, _, _, rfl⟩ | ⟨job, trace, c, next, r, _, hold, _, rfl⟩
    · exact ih u (mem_threads.mpr ⟨j, hold⟩)
    · exact hfresh job
    · exact hanswer job trace c next r (ih _ (mem_threads.mpr ⟨j, hold⟩))

theorem calls_of_reachable {p : C → Prop} (hp : ∀ job, (P.program job).Calls p) (hs : P.lts.Reachable cond s)
    (ht : t ∈ s.threads) : t.prog.Calls p ∧ ∀ x ∈ t.trace, p x.1 := by
  refine thread_invariant (Φ := fun t => t.prog.Calls p ∧ ∀ x ∈ t.trace, p x.1) ?_ ?_ hs ht
  · exact fun job => ⟨hp job, List.forall_mem_nil _⟩
  · intro job trace c next r ⟨hcalls, htrace⟩
    refine ⟨hcalls.next r, fun x hx => ?_⟩
    rcases List.mem_append.mp hx with hx | hx
    · exact htrace x hx
    · rw [List.mem_singleton.mp hx]
      exact hcalls.head

/-- **The contract rule.** When every program follows the contract of its job, every thread of every
reachable pool is where its contract allows it to be. -/
theorem follows_of_reachable {K : J → Contract R α} (hK : ∀ job, (K job).Follows [] (P.program job))
    (hs : P.lts.Reachable cond s) (ht : t ∈ s.threads) : (K t.job).Follows t.trace t.prog :=
  thread_invariant (Φ := fun t => (K t.job).Follows t.trace t.prog) hK
    (fun _ _ _ _ r h => h.next r) hs ht

variable {x : Exchange R}

theorem allowed_of_reachable {K : J → Contract R α} (hK : ∀ job, (K job).Follows [] (P.program job))
    (hs : P.lts.Reachable cond s) (ht : t ∈ s.threads) (hx : x ∈ t.trace) :
    ∃ before after, t.trace = before ++ x :: after ∧ (K t.job).allowed before x.1 := by
  have hboth : (K t.job).Follows t.trace t.prog ∧ ∀ x ∈ t.trace, ∃ before after,
      t.trace = before ++ x :: after ∧ (K t.job).allowed before x.1 := by
    refine thread_invariant (Φ := fun t => (K t.job).Follows t.trace t.prog ∧ ∀ x ∈ t.trace,
      ∃ before after, t.trace = before ++ x :: after ∧ (K t.job).allowed before x.1) ?_ ?_ hs ht
    · exact fun job => ⟨hK job, by simp [fresh]⟩
    · rintro job trace c next r ⟨hfollows, hmade⟩
      refine ⟨hfollows.next r, fun x hx => ?_⟩
      rcases List.mem_append.mp hx with hx | hx
      · obtain ⟨before, after, heq, hallowed⟩ := hmade x hx
        exact ⟨before, after ++ [⟨c, r⟩], by simp [show trace = _ from heq], hallowed⟩
      · rw [List.mem_singleton.mp hx]
        exact ⟨trace, [], rfl, hfollows.allowed⟩
  exact hboth.2 x hx

theorem job_of_reachable {K : J → Prop} (hspawn : ∀ s job, cond s (.spawn job) → K job) (hs : P.lts.Reachable cond s)
    (ht : t ∈ s.threads) : K t.job := by
  refine Lts.Reachable.invariant (P := fun s => ∀ t ∈ s.threads, K t.job) ?_ ?_ hs t ht
  · rintro s ⟨_, hnil⟩ t ht
    simp [hnil] at ht
  · intro s l s' _ ih hstep hcond u hu
    obtain ⟨j, hj⟩ := mem_threads.mp hu
    rcases hstep.thread_cases hj with hold | ⟨job, rfl, _, rfl⟩ | ⟨job, trace, c, next, r, _, hold, _, rfl⟩
    · exact ih u (mem_threads.mpr ⟨j, hold⟩)
    · exact hspawn _ job hcond
    · exact ih ⟨job, trace, .call c next⟩ (mem_threads.mpr ⟨j, hold⟩)

/-! ### The history of exchanges -/

/-- Some thread has made this exchange. -/
def Exchanged (s : Pool S J R α) (x : Exchange R) : Prop := ∃ u ∈ s.threads, x ∈ u.trace

theorem Step.exchanged_iff {t : Pool S J R α} (h : P.Step s l t) :
    Exchanged t x ↔ Exchanged s x ∨ ∃ i, l = .answer i x.1 x.2 := by
  constructor
  · rintro ⟨u, hu, hx⟩
    obtain ⟨j, hj⟩ := mem_threads.mp hu
    rcases h.thread_cases hj with hold | ⟨job, _, _, rfl⟩ | ⟨job, trace, c, next, r, hl, hold, _, rfl⟩
    · exact .inl ⟨u, mem_threads.mpr ⟨j, hold⟩, hx⟩
    · simp [fresh] at hx
    · rcases List.mem_append.mp hx with hx | hx
      · exact .inl ⟨_, mem_threads.mpr ⟨j, hold⟩, hx⟩
      · rw [List.mem_singleton.mp hx]
        exact .inr ⟨j, hl⟩
  · rintro (⟨u, hu, hx⟩ | ⟨i, hl⟩)
    · obtain ⟨j, hj⟩ := mem_threads.mp hu
      cases h with
      | spawn job => exact ⟨u, List.mem_append_left _ hu, hx⟩
      | @answer i job trace c next r shared hthread hanswer =>
        by_cases hij : j = i
        · subst hij
          rw [hthread] at hj
          cases hj
          exact ⟨_, mem_threads.mpr ⟨j, (getElem?_answer hthread).mpr (.inl ⟨rfl, rfl⟩)⟩,
            List.mem_append_left _ hx⟩
        · exact ⟨u, mem_threads.mpr ⟨j, (getElem?_answer hthread).mpr (.inr ⟨hij, hj⟩)⟩, hx⟩
    · cases h with
      | spawn job => cases hl
      | @answer i job trace c next r shared hthread hanswer =>
        cases hl
        exact ⟨_, mem_threads.mpr ⟨i, (getElem?_answer hthread).mpr (.inl ⟨rfl, rfl⟩)⟩,
          List.mem_append_right _ (List.mem_singleton_self _)⟩

theorem exchange_invariant {Ψ : S → Exchange R → Prop}
    (hkeep : ∀ s i c r t x, P.lts.Reachable cond s → P.Step s (.answer i c r) t →
      cond s (.answer i c r) → Ψ s.shared x → Ψ t.shared x)
    (hnew : ∀ s i c r t, P.lts.Reachable cond s → P.Step s (.answer i c r) t →
      cond s (.answer i c r) → Ψ t.shared ⟨c, r⟩)
    (hs : P.lts.Reachable cond s) (hx : Exchanged s x) :
    Ψ s.shared x := by
  refine Lts.Reachable.invariant (P := fun s => ∀ x, Exchanged s x → Ψ s.shared x) ?_ ?_ hs x hx
  · rintro s ⟨_, hnil⟩ x ⟨u, hu, _⟩
    simp [hnil] at hu
  · intro s l t hreach ih hstep hcond x hx
    cases l with
    | spawn job =>
      have hshared : t.shared = s.shared := by cases hstep; rfl
      rw [hshared]
      rcases hstep.exchanged_iff.mp hx with hx | ⟨i, hl⟩
      · exact ih x hx
      · cases hl
    | answer i c r =>
      rcases hstep.exchanged_iff.mp hx with hx | ⟨j, hl⟩
      · exact hkeep s i c r t x hreach hstep hcond (ih x hx)
      · cases hl
        exact hnew s i _ _ t hreach hstep hcond

end PoolSpec

end Interaction
