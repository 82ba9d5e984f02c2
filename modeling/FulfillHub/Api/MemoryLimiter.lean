import FulfillHub.Commerce.Text

/-!
# The memory rate limiter

`internal/ratelimit/limiter.go`. A bucket for each key counts the calls of one window, and the first call after its
end opens the next one. The map of buckets is a function with the zero bucket where there is none. The count is a
natural number: it does not wrap after `2 ^ 63` calls in one window.
-/

namespace FulfillHub

structure Bucket where
  count : Nat
  reset : Time
  deriving DecidableEq

structure MemoryLimiter where
  limit : Int
  window : Time
  buckets : String → Bucket

def newMemoryLimiter (limit : Int) (window : Time) : MemoryLimiter := ⟨limit, window, fun _ => ⟨0, 0⟩⟩

/-- A call of `Allow` and its answer. -/
structure Decision where
  now : Time
  key : String
  allowed : Bool
  deriving DecidableEq

/-- The calls for the key from one instant to before the other that were allowed. -/
def Decision.admitted (key : String) (start stop : Time) (decisions : List Decision) : Nat :=
  decisions.countP fun d => d.key = key ∧ start ≤ d.now ∧ d.now < stop ∧ d.allowed = true

namespace MemoryLimiter

section Allow

variable (l : MemoryLimiter) (now : Time) (key : String)

/-- No window is open for the key. -/
def expired : Bool := Time.isZero (l.buckets key).reset || !decide (now < (l.buckets key).reset)

/-- The bucket of the key with the call counted in it. -/
def counted : Bucket :=
  let current := if l.expired now key then ⟨0, now + l.window⟩ else l.buckets key
  { current with count := current.count + 1 }

def allow : Bool × MemoryLimiter :=
  (decide (((l.counted now key).count : Int) ≤ l.limit),
    { l with buckets := Function.update l.buckets key (l.counted now key) })

/-- The answers to calls one after the other. -/
def decisions : MemoryLimiter → List (Time × String) → List Decision
  | _, [] => []
  | l, (now, key) :: calls => ⟨now, key, (l.allow now key).1⟩ :: decisions (l.allow now key).2 calls

/-- The limiter after the calls. -/
def after : MemoryLimiter → List (Time × String) → MemoryLimiter
  | l, [] => l
  | l, (now, key) :: calls => after (l.allow now key).2 calls

end Allow

/-! ### One call -/

variable {l l' : MemoryLimiter} {now start stop : Time} {key other : String} {calls : List (Time × String)}

@[simp] theorem allow_limit : (l.allow now key).2.limit = l.limit := rfl

@[simp] theorem allow_window : (l.allow now key).2.window = l.window := rfl

@[simp] theorem allow_buckets_self : (l.allow now key).2.buckets key = l.counted now key :=
  Function.update_self ..

theorem allow_buckets_of_ne (hne : key ≠ other) : (l.allow now other).2.buckets key = l.buckets key :=
  Function.update_of_ne hne ..

theorem allow_eq_true : (l.allow now key).1 = true ↔ ((l.counted now key).count : Int) ≤ l.limit :=
  decide_eq_true_iff

theorem expired_eq_false (hopen : now < (l.buckets key).reset) : l.expired now key = false := by
  have hpos : (l.buckets key).reset ≠ 0 := Nat.ne_of_gt (lt_of_le_of_lt (Nat.zero_le now) hopen)
  simp [expired, Time.isZero, hpos, hopen]

theorem counted_of_open (hopen : l.expired now key = false) :
    l.counted now key = ⟨(l.buckets key).count + 1, (l.buckets key).reset⟩ := by
  simp [counted, hopen]

theorem counted_of_expired (hexpired : l.expired now key = true) : l.counted now key = ⟨1, now + l.window⟩ := by
  simp [counted, hexpired]

/-! ### Sequences of calls -/

theorem after_limit (l : MemoryLimiter) (calls : List (Time × String)) :
    (l.after calls).limit = l.limit ∧ (l.after calls).window = l.window := by
  induction calls generalizing l with
  | nil => exact ⟨rfl, rfl⟩
  | cons call calls ih => exact ih (l.allow call.1 call.2).2

theorem call_of_mem_decisions {d : Decision} (hd : d ∈ l.decisions calls) : (d.now, d.key) ∈ calls := by
  induction calls generalizing l with
  | nil => contradiction
  | cons call calls ih =>
    rcases List.mem_cons.mp hd with rfl | hlater
    · exact List.mem_cons_self
    · exact List.mem_cons_of_mem _ (ih hlater)

theorem admitted_cons (l : MemoryLimiter) (now : Time) (other : String) (calls : List (Time × String)) :
    Decision.admitted key start stop (l.decisions ((now, other) :: calls)) =
      Decision.admitted key start stop ((l.allow now other).2.decisions calls) +
        if other = key ∧ start ≤ now ∧ now < stop ∧ (l.allow now other).1 = true then 1 else 0 := by
  simp [Decision.admitted, decisions, List.countP_cons]

theorem admitted_eq_zero (hlate : ∀ call ∈ calls, stop ≤ call.1) :
    Decision.admitted key start stop (l.decisions calls) = 0 := by
  apply List.countP_eq_zero.mpr
  intro d hd hadmitted
  have hbefore := (of_decide_eq_true hadmitted).2.2.1
  exact absurd hbefore (not_lt_of_ge (hlate _ (call_of_mem_decisions hd)))

/-- Until its window ends, a bucket admits what its count leaves of the limit. -/
theorem admitted_le_of_open (start : Time) (hclock : calls.Pairwise fun a b => a.1 ≤ b.1) (hstop : stop ≤ (l.buckets key).reset) :
    Decision.admitted key start stop (l.decisions calls) ≤ (l.limit - (l.buckets key).count).toNat := by
  induction calls generalizing l with
  | nil => exact Nat.zero_le _
  | cons call calls ih =>
    obtain ⟨now, other⟩ := call
    obtain ⟨hfirst, hrest⟩ := List.pairwise_cons.mp hclock
    rw [admitted_cons]
    by_cases hother : other = key
    · subst hother
      by_cases hnow : now < stop
      · have hcounted := counted_of_open (expired_eq_false (lt_of_lt_of_le hnow hstop))
        have hlater := ih hrest (l := (l.allow now other).2) (by simpa [hcounted] using hstop)
        rw [allow_limit, allow_buckets_self, hcounted] at hlater
        split
        · rename_i hadmitted
          have hle := allow_eq_true.mp hadmitted.2.2.2
          rw [hcounted] at hle
          simp only at hle hlater
          omega
        · simp only at hlater
          omega
      · have hnone : Decision.admitted other start stop ((l.allow now other).2.decisions calls) = 0 := by
          apply admitted_eq_zero
          intro later hlater
          exact le_trans (not_lt.mp hnow) (hfirst later hlater)
        rw [hnone, if_neg fun hadmitted => hnow hadmitted.2.2.1]
        exact Nat.zero_le _
    · have hbucket : (l.allow now other).2.buckets key = l.buckets key := allow_buckets_of_ne (Ne.symm hother)
      have hlater := ih hrest (l := (l.allow now other).2) (by rwa [hbucket])
      rw [allow_limit, hbucket] at hlater
      rw [if_neg fun hadmitted => hother hadmitted.1]
      exact hlater

theorem admitted_le_of_opened (start : Time) (hclock : ((now, key) :: calls).Pairwise fun a b => a.1 ≤ b.1)
    (hexpired : l.expired now key = true) (hstop : stop ≤ now + l.window) :
    Decision.admitted key start stop (l.decisions ((now, key) :: calls)) ≤ l.limit.toNat := by
  have hcounted := counted_of_expired hexpired
  have hreset : stop ≤ ((l.allow now key).2.buckets key).reset := by simpa [hcounted] using hstop
  have hlater := admitted_le_of_open start (List.pairwise_cons.mp hclock).2 hreset
  rw [allow_limit, allow_buckets_self, hcounted] at hlater
  rw [admitted_cons]
  simp only at hlater
  split
  · rename_i hadmitted
    have hle := allow_eq_true.mp hadmitted.2.2.2
    rw [hcounted] at hle
    simp only at hle
    omega
  · omega

/-- From any instant on, the open window and the next one cover a whole interval. -/
theorem admitted_le_of_from (l : MemoryLimiter) (key : String)
    (hclock : calls.Pairwise fun a b => a.1 ≤ b.1) (hfrom : ∀ call ∈ calls, start ≤ call.1) :
    Decision.admitted key start (start + l.window) (l.decisions calls) ≤
      (l.limit - (l.buckets key).count).toNat + l.limit.toNat := by
  induction calls generalizing l with
  | nil => exact Nat.zero_le _
  | cons call calls ih =>
    obtain ⟨now, other⟩ := call
    have hrest := (List.pairwise_cons.mp hclock).2
    have hlater := ih (l.allow now other).2 hrest fun later hmem => hfrom later (List.mem_cons_of_mem _ hmem)
    rw [allow_limit, allow_window] at hlater
    by_cases hother : other = key
    · subst hother
      cases hexpired : l.expired now other with
      | true =>
        have hstop : start + l.window ≤ now + l.window :=
          Nat.add_le_add_right (hfrom (now, other) List.mem_cons_self) _
        exact le_trans (admitted_le_of_opened start hclock hexpired hstop) (Nat.le_add_left _ _)
      | false =>
        have hcounted := counted_of_open hexpired
        rw [allow_buckets_self, hcounted] at hlater
        rw [admitted_cons]
        simp only at hlater
        split
        · rename_i hadmitted
          have hle := allow_eq_true.mp hadmitted.2.2.2
          rw [hcounted] at hle
          simp only at hle
          omega
        · omega
    · have hbucket : (l.allow now other).2.buckets key = l.buckets key := allow_buckets_of_ne (Ne.symm hother)
      rw [hbucket] at hlater
      rw [admitted_cons, if_neg fun hadmitted => hother hadmitted.1]
      exact hlater

theorem admitted_le_twice (l : MemoryLimiter) (key : String)
    (hclock : calls.Pairwise fun a b => a.1 ≤ b.1) (start : Time) :
    Decision.admitted key start (start + l.window) (l.decisions calls) ≤ 2 * l.limit.toNat := by
  induction calls generalizing l with
  | nil => exact Nat.zero_le _
  | cons call calls ih =>
    obtain ⟨now, other⟩ := call
    obtain ⟨hfirst, hrest⟩ := List.pairwise_cons.mp hclock
    by_cases hstart : start ≤ now
    · have hfrom : ∀ call ∈ (now, other) :: calls, start ≤ call.1 := by
        intro call hcall
        rcases List.mem_cons.mp hcall with rfl | hlater
        · exact hstart
        · exact le_trans hstart (hfirst call hlater)
      have hle := admitted_le_of_from l key hclock hfrom
      omega
    · rw [admitted_cons, if_neg fun hadmitted => hstart hadmitted.2.1]
      exact ih (l.allow now other).2 hrest

theorem decisions_filter (hlimit : l.limit = l'.limit) (hwindow : l.window = l'.window)
    (hbucket : l.buckets key = l'.buckets key) :
    (l.decisions calls).filter (fun d => d.key = key) = l'.decisions (calls.filter fun call => call.2 = key) := by
  induction calls generalizing l l' with
  | nil => rfl
  | cons call calls ih =>
    obtain ⟨now, other⟩ := call
    by_cases hother : other = key
    · subst hother
      have hcounted : l.counted now other = l'.counted now other := by
        unfold counted expired
        rw [hbucket, hwindow]
      have hallow : (l.allow now other).1 = (l'.allow now other).1 := by
        unfold allow
        rw [hcounted, hlimit]
      have hbuckets : (l.allow now other).2.buckets other = (l'.allow now other).2.buckets other := by
        simpa using hcounted
      have hsame : (l.allow now other).2.limit = (l'.allow now other).2.limit := hlimit
      have hrest := ih hsame hwindow hbuckets
      rw [List.filter_cons_of_pos (by simp), decisions, decisions, List.filter_cons_of_pos (by simp), hallow, hrest]
    · have hkept : (l.allow now other).2.buckets key = l'.buckets key := by
        rw [allow_buckets_of_ne (Ne.symm hother), hbucket]
      rw [List.filter_cons_of_neg (by simpa using hother), decisions, List.filter_cons_of_neg (by simpa using hother)]
      exact ih hlimit hwindow hkept

end MemoryLimiter

open MemoryLimiter

/-- **The rate limiter's bounds.** For every key: any half-open interval as long as the window admits at most twice
the limit, each window at most the limit; no call moves the end of the open window, a denied one included; and the
calls for other keys make no difference. -/
theorem memory_limiter_bounds (l : MemoryLimiter) (key : String) (calls : List (Time × String))
    (hclock : calls.Pairwise fun a b => a.1 ≤ b.1) :
    (∀ start, (Decision.admitted key start (start + l.window) (l.decisions calls) : Int) ≤ 2 * max l.limit 0) ∧
    (∀ before now rest, calls = before ++ (now, key) :: rest → (l.after before).expired now key = true →
      (Decision.admitted key now (now + l.window) ((l.after before).decisions ((now, key) :: rest)) : Int) ≤
        max l.limit 0) ∧
    (∀ before now rest, calls = before ++ (now, key) :: rest → ((l.after before).allow now key).1 = false →
      (l.after before).expired now key = false →
      (((l.after before).allow now key).2.buckets key).reset = ((l.after before).buckets key).reset) ∧
    (l.decisions calls).filter (fun d => d.key = key) = l.decisions (calls.filter fun call => call.2 = key) := by
  refine ⟨?_, ?_, ?_, decisions_filter rfl rfl rfl⟩
  · intro start
    have hle := admitted_le_twice l key hclock start
    omega
  · intro before now rest hcalls hexpired
    obtain ⟨hlimit, hwindow⟩ := after_limit l before
    rw [hcalls, List.pairwise_append] at hclock
    have hle := admitted_le_of_opened now hclock.2.1 hexpired (le_refl (now + (l.after before).window))
    rw [hlimit, hwindow] at hle
    omega
  · intro before now rest _ _ hopen
    rw [allow_buckets_self, counted_of_open hopen]

/-- A limiter of one call a second, with a second call in the first window. -/
theorem memory_limiter_bounds_one :
    ((newMemoryLimiter 1 Time.second).decisions [(5, "a"), (6, "b"), (7, "a"), (5 + Time.second, "a")]).map
      Decision.allowed = [true, true, false, true] ∧
    (Decision.admitted "a" 5 (5 + Time.second)
      ((newMemoryLimiter 1 Time.second).decisions [(5, "a"), (6, "b"), (7, "a"), (5 + Time.second, "a")]) : Int) ≤
        2 * max 1 0 :=
  ⟨by decide, (memory_limiter_bounds (newMemoryLimiter 1 Time.second) "a"
    [(5, "a"), (6, "b"), (7, "a"), (5 + Time.second, "a")] (by decide)).1 5⟩

end FulfillHub
