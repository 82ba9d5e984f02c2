import FulfillHub.Api.MemoryLimiter
import FulfillHub.Commerce.Model
import FulfillHub.Library.FixedWindow
import FulfillHub.Library.TimedCounters

/-!
# The Redis rate limiter

`internal/ratelimit/redis.go`. The script counts the calls for a key and gives a new counter the window as its time to
live, in whole milliseconds. Both limiters count in fixed windows. The memory limiter's last the configured window, and
the Redis limiter's what is left of it when the part below a millisecond is cut off.
-/

namespace FulfillHub

structure RedisLimiter where
  client : String → Option TimedCounter
  limit : Int
  window : Int

def newRedisLimiter (client : String → Option TimedCounter) (limit window : Int) : RedisLimiter :=
  ⟨client, limit, window⟩

/-- `redisLimiterScript`, which the server runs as one command. -/
def redisLimiterScript (client : String → Option TimedCounter) (now : Time) (key : String) (milliseconds : Int) :
    Int × (String → Option TimedCounter) :=
  let (current, client) := TimedCounter.incr client now key
  (current, if current = 1 then TimedCounter.pexpire client now key milliseconds else client)

/-- `Duration.Milliseconds`. -/
def milliseconds (window : Int) : Int := window.tdiv TimedCounter.millisecond

namespace RedisLimiter

def redisKey (key : String) : String := "rate_limit:" ++ key

def allow (l : RedisLimiter) (now : Time) (key : String) : Except Error Bool × RedisLimiter :=
  if l.window ≤ 0 then (.error (.plain "rate limit window must be positive"), l)
  else
    let (count, client) := redisLimiterScript l.client now (redisKey key) (milliseconds l.window)
    (.ok (decide (count ≤ l.limit)), { l with client })

/-- The answers to calls one after the other. -/
def decisions : RedisLimiter → List (Time × String) → List (Except Error Bool)
  | _, [] => []
  | l, (now, key) :: calls => (l.allow now key).1 :: decisions (l.allow now key).2 calls

theorem redisKey_injective : Function.Injective redisKey := by
  intro a b h
  have hlist := congrArg String.toList h
  simp only [redisKey, String.toList_append] at hlist
  exact String.toList_injective (List.append_cancel_left hlist)

/-! ### The windows of the Redis limiter -/

/-- What is left of a window when the part below a millisecond is cut off. -/
def wholeMilliseconds (window : Time) : Time := window / TimedCounter.millisecond * TimedCounter.millisecond

/-- From an instant on, the server has a counter for each key that has an open window, which expires as the window
ends. -/
structure Shows (now : Time) (client : String → Option TimedCounter) (windows : String → Option FixedWindow) :
    Prop where
  get_eq : ∀ later key, now ≤ later → TimedCounter.get client later (redisKey key) =
    (FixedWindow.current windows later key).map fun window => ⟨window.count, some window.stop⟩
  counted : ∀ key window, windows key = some window → 1 ≤ window.count

variable {l : RedisLimiter} {client : String → Option TimedCounter} {windows : String → Option FixedWindow}
  {now later : Time} {key : String} {calls : List (Time × String)}

theorem shows_none (now : Time) : Shows now (fun _ => none) (fun _ => none) :=
  ⟨fun _ _ _ => rfl, fun _ _ h => nomatch h⟩

theorem Shows.mono (h : Shows now client windows) (hle : now ≤ later) : Shows later client windows :=
  ⟨fun _ key hlater => h.get_eq _ key (le_trans hle hlater), h.counted⟩

theorem toNat_milliseconds (window : Time) :
    (milliseconds window).toNat * TimedCounter.millisecond = wholeMilliseconds window := rfl

theorem redisLimiterScript_of_missing {milliseconds : Int} (hget : TimedCounter.get client now key = none) :
    redisLimiterScript client now key milliseconds =
      (1, TimedCounter.pexpire (Function.update client key (some ⟨1, none⟩)) now key milliseconds) := by
  rw [redisLimiterScript, TimedCounter.incr_of_missing hget]
  rfl

theorem redisLimiterScript_of_get {milliseconds : Int} {value : Nat} {expiry : Option Time}
    (hget : TimedCounter.get client now key = some ⟨value, expiry⟩) (hpos : 1 ≤ value) :
    redisLimiterScript client now key milliseconds =
      (((value + 1 : Nat) : Int), Function.update client key (some ⟨value + 1, expiry⟩)) := by
  have hne : value + 1 ≠ 1 := by omega
  simp only [redisLimiterScript, TimedCounter.incr_of_get hget, if_neg hne]

theorem Shows.hit {client' : String → Option TimedCounter} {length : Nat} (h : Shows now client windows)
    (hself : ∀ later, now ≤ later → TimedCounter.get client' later (redisKey key) =
      ((some (FixedWindow.counted length windows now key)).filter fun window => decide (later < window.stop)).map
        fun window => ⟨window.count, some window.stop⟩)
    (hothers : ∀ later other, other ≠ redisKey key →
      TimedCounter.get client' later other = TimedCounter.get client later other) :
    Shows now client' (FixedWindow.hit length windows now key) := by
  constructor
  · intro later other hlater
    by_cases hother : other = key
    · subst hother
      rw [hself later hlater, FixedWindow.current, FixedWindow.hit_self]
    · rw [FixedWindow.current_hit_of_ne hother, ← h.get_eq later other hlater]
      apply hothers
      intro heq
      exact hother (redisKey_injective heq)
  · intro other found hfound
    by_cases hother : other = key
    · subst hother
      rw [FixedWindow.hit_self, Option.some.injEq] at hfound
      exact hfound ▸ FixedWindow.one_le_counted
    · rw [FixedWindow.hit_of_ne hother] at hfound
      exact h.counted other found hfound

theorem Shows.script (h : Shows now client windows) (window : Time) (key : String) :
    (redisLimiterScript client now (redisKey key) (milliseconds window)).1 =
      (FixedWindow.counted (wholeMilliseconds window) windows now key).count ∧
    Shows now (redisLimiterScript client now (redisKey key) (milliseconds window)).2
      (FixedWindow.hit (wholeMilliseconds window) windows now key) := by
  have hget := h.get_eq now key (le_refl now)
  cases hcurrent : FixedWindow.current windows now key with
  | none =>
    rw [hcurrent] at hget
    rw [redisLimiterScript_of_missing hget]
    refine ⟨by rw [FixedWindow.counted_of_ended hcurrent]; rfl, h.hit ?_ ?_⟩
    · intro later hlater
      rw [TimedCounter.get_pexpire_new hlater, toNat_milliseconds, FixedWindow.counted_of_ended hcurrent]
      by_cases hopen : later < now + wholeMilliseconds window
      · simp [Option.filter, hopen]
      · simp [Option.filter, hopen]
    · intro later other hother
      rw [TimedCounter.get_pexpire_of_ne hother, TimedCounter.get_update_of_ne hother]
  | some found =>
    rw [hcurrent] at hget
    have hpos := h.counted key found (Option.filter_eq_some_iff.mp hcurrent).1
    rw [redisLimiterScript_of_get hget hpos]
    refine ⟨by rw [FixedWindow.counted_of_open hcurrent], h.hit ?_ ?_⟩
    · intro later hlater
      rw [TimedCounter.get_update_self, FixedWindow.counted_of_open hcurrent]
      by_cases hopen : later < found.stop
      · simp [Option.filter, TimedCounter.live, hopen]
      · simp [Option.filter, TimedCounter.live, hopen]
    · intro later other hother
      exact TimedCounter.get_update_of_ne hother

theorem decisions_eq {window : Time} (hwindow : l.window = window) (hpos : 0 < window)
    (h : Shows now l.client windows) (hclock : calls.Pairwise fun a b => a.1 ≤ b.1)
    (hstart : ∀ call ∈ calls, now ≤ call.1) :
    l.decisions calls = (FixedWindow.counts (wholeMilliseconds window) windows calls).map fun (count : Nat) =>
      .ok (decide ((count : Int) ≤ l.limit)) := by
  induction calls generalizing l windows now with
  | nil => rfl
  | cons call calls ih =>
    obtain ⟨hfirst, hrest⟩ := List.pairwise_cons.mp hclock
    obtain ⟨hcount, hshows⟩ := (h.mono (hstart call List.mem_cons_self)).script window call.2
    have hallow : l.allow call.1 call.2 =
        (.ok (decide
            (((FixedWindow.counted (wholeMilliseconds window) windows call.1 call.2).count : Int) ≤ l.limit)),
          { l with client := (redisLimiterScript l.client call.1 (redisKey call.2) (milliseconds window)).2 }) := by
      have hadmitted : ¬ (window : Int) ≤ 0 := not_le.mpr (Int.natCast_pos.mpr hpos)
      rw [allow, hwindow, if_neg hadmitted, ← hcount]
    have hrun := ih (l := (l.allow call.1 call.2).2) (by rw [hallow]; exact hwindow) (by rw [hallow]; exact hshows)
      hrest hfirst
    rw [hallow] at hrun
    rw [decisions, hallow, FixedWindow.counts, List.map_cons, hrun]

end RedisLimiter

/-! ### The windows of the memory limiter -/

namespace MemoryLimiter

/-- The windows the buckets stand for. -/
def windows (l : MemoryLimiter) (key : String) : Option FixedWindow :=
  if Time.isZero (l.buckets key).reset then none else some ⟨(l.buckets key).count, (l.buckets key).reset⟩

variable {l : MemoryLimiter} {now : Time} {key : String}

theorem current_windows : FixedWindow.current l.windows now key =
    if l.expired now key then none else some ⟨(l.buckets key).count, (l.buckets key).reset⟩ := by
  by_cases hzero : (l.buckets key).reset = 0
  · simp [FixedWindow.current, windows, expired, Time.isZero, hzero]
  · by_cases hopen : now < (l.buckets key).reset
    · simp [FixedWindow.current, windows, expired, Time.isZero, hzero, hopen, Option.filter]
    · simp [FixedWindow.current, windows, expired, Time.isZero, hzero, hopen, Option.filter]

theorem counted_windows : FixedWindow.counted l.window l.windows now key =
    ⟨(l.counted now key).count, (l.counted now key).reset⟩ := by
  cases hexpired : l.expired now key with
  | true =>
    rw [FixedWindow.counted_of_ended (by rw [current_windows, hexpired]; rfl), counted_of_expired hexpired]
  | false =>
    rw [FixedWindow.counted_of_open (by rw [current_windows, hexpired]; rfl), counted_of_open hexpired]

theorem counted_reset_ne_zero (hpos : 0 < l.window) : (l.counted now key).reset ≠ 0 := by
  cases hexpired : l.expired now key with
  | true =>
    rw [counted_of_expired hexpired]
    exact Nat.ne_of_gt (Nat.add_pos_right now hpos)
  | false =>
    rw [counted_of_open hexpired]
    intro hzero
    have hclosed : l.expired now key = true := by simpa [expired, Time.isZero] using .inl hzero
    simp [hclosed] at hexpired

theorem windows_allow (hpos : 0 < l.window) :
    (l.allow now key).2.windows = FixedWindow.hit l.window l.windows now key := by
  funext other
  by_cases hother : other = key
  · subst hother
    rw [windows, allow_buckets_self, FixedWindow.hit_self, counted_windows]
    simp [Time.isZero, counted_reset_ne_zero hpos]
  · rw [windows, allow_buckets_of_ne hother, FixedWindow.hit_of_ne hother, windows]

theorem decisions_eq (l : MemoryLimiter) (hpos : 0 < l.window) (calls : List (Time × String)) :
    (l.decisions calls).map Decision.allowed =
      (FixedWindow.counts l.window l.windows calls).map fun (count : Nat) => decide ((count : Int) ≤ l.limit) := by
  induction calls generalizing l with
  | nil => rfl
  | cons call calls ih =>
    have hrun := ih (l.allow call.1 call.2).2 hpos
    rw [windows_allow hpos] at hrun
    rw [decisions, List.map_cons, hrun, FixedWindow.counts, counted_windows]
    rfl

end MemoryLimiter

/-! ### Both limiters -/

section Refinement

variable {limit : Int} {window : Time} {calls : List (Time × String)}

/-- The two limiters give the same answers to the calls. -/
def sameAnswers (limit : Int) (window : Time) (calls : List (Time × String)) : Prop :=
  (newRedisLimiter (fun _ => none) limit window).decisions calls =
    ((newMemoryLimiter limit window).decisions calls).map fun d => .ok d.allowed

/-- The limiters agree where the shortened windows count as the configured ones do, up to the limit. -/
theorem sameAnswers_iff (hpos : 0 < window) (hclock : calls.Pairwise fun a b => a.1 ≤ b.1) :
    sameAnswers limit window calls ↔
      (FixedWindow.counts (RedisLimiter.wholeMilliseconds window) (fun _ => none) calls).map
          (fun (count : Nat) => decide ((count : Int) ≤ limit)) =
        (FixedWindow.counts window (fun _ => none) calls).map fun (count : Nat) => decide ((count : Int) ≤ limit) := by
  have hredis := RedisLimiter.decisions_eq (l := newRedisLimiter (fun _ => none) limit window) rfl hpos
    (RedisLimiter.shows_none 0) hclock (fun call _ => Nat.zero_le call.1)
  have hmemory : ((newMemoryLimiter limit window).decisions calls).map Decision.allowed =
      (FixedWindow.counts window (fun _ => none) calls).map fun (count : Nat) => decide ((count : Int) ≤ limit) :=
    MemoryLimiter.decisions_eq (newMemoryLimiter limit window) hpos calls
  have hok : Function.Injective (Except.ok : Bool → Except Error Bool) := fun _ _ h => Except.ok.inj h
  have hmap : ((newMemoryLimiter limit window).decisions calls).map (fun d => (.ok d.allowed : Except Error Bool)) =
      (((newMemoryLimiter limit window).decisions calls).map Decision.allowed).map .ok := (List.map_map ..).symm
  rw [sameAnswers, hredis, hmap, hmemory, ← (List.map_injective_iff.mpr hok).eq_iff]
  rw [List.map_map, List.map_map]
  rfl

theorem decide_count_eq_false {length : Nat} (hlimit : limit ≤ 0) :
    (FixedWindow.counts length (fun _ => none) calls).map (fun (count : Nat) => decide ((count : Int) ≤ limit)) =
      List.replicate calls.length false := by
  apply List.eq_replicate_iff.mpr
  refine ⟨by simp, ?_⟩
  intro answer hanswer
  obtain ⟨count, hcount, rfl⟩ := List.mem_map.mp hanswer
  have hone := FixedWindow.one_le_of_mem_counts hcount
  apply decide_eq_false
  omega

/-- As many calls as the limit allows, and one more when the shortened window has ended. -/
def callsAcross (limit : Nat) (window : Time) : List (Time × String) :=
  List.replicate (limit + 1) (0, "a") ++ [(RedisLimiter.wholeMilliseconds window, "a")]

theorem callsAcross_clock (limit : Nat) (window : Time) :
    (callsAcross limit window).Pairwise fun a b => a.1 ≤ b.1 := by
  apply List.pairwise_append.mpr
  refine ⟨?_, List.pairwise_singleton .., ?_⟩
  · exact List.pairwise_replicate.mpr (.inr (le_refl 0))
  · intro early hearly late _
    rw [List.eq_of_mem_replicate hearly]
    exact Nat.zero_le late.1

theorem counts_callsAcross_short (limit : Nat) (window : Time) :
    (FixedWindow.counts (RedisLimiter.wholeMilliseconds window) (fun _ => none) (callsAcross limit window)).getLast? =
      some 1 := by
  have hended : FixedWindow.current (FixedWindow.afterHits (RedisLimiter.wholeMilliseconds window) (fun _ => none)
      (List.replicate (limit + 1) (0, "a"))) (RedisLimiter.wholeMilliseconds window) "a" = none := by
    apply FixedWindow.current_of_ended
    intro found hfound
    have hstop : found.stop ≤ 0 + RedisLimiter.wholeMilliseconds window := by
      refine FixedWindow.stop_afterHits_le _ (fun _ _ hnone => by cases hnone) ?_ hfound
      intro hit hhit
      rw [List.eq_of_mem_replicate hhit]
    rwa [Nat.zero_add] at hstop
  rw [callsAcross, FixedWindow.counts_append]
  simp [FixedWindow.counts, FixedWindow.counted_of_ended hended]

theorem counts_callsAcross (limit : Nat) (hcut : RedisLimiter.wholeMilliseconds window < window) :
    (FixedWindow.counts window (fun _ => none) (callsAcross limit window)).getLast? = some (limit + 2) := by
  have hopen : FixedWindow.current (FixedWindow.afterHits window (fun _ => none) (List.replicate (limit + 1) (0, "a")))
      (RedisLimiter.wholeMilliseconds window) "a" = some ⟨limit + 1, 0 + window⟩ := by
    apply FixedWindow.current_of_open
    · exact FixedWindow.afterHits_replicate (Nat.zero_lt_of_lt hcut) rfl limit
    · rwa [Nat.zero_add]
  rw [callsAcross, FixedWindow.counts_append]
  simp [FixedWindow.counts, FixedWindow.counted_of_open hopen]

theorem wholeMilliseconds_lt (hpart : window % TimedCounter.millisecond ≠ 0) :
    RedisLimiter.wholeMilliseconds window < window :=
  calc window / TimedCounter.millisecond * TimedCounter.millisecond
    _ < window / TimedCounter.millisecond * TimedCounter.millisecond + window % TimedCounter.millisecond :=
        Nat.lt_add_of_pos_right (Nat.pos_of_ne_zero hpart)
    _ = window := Nat.div_add_mod' ..

/-- A part of the window below a millisecond is a time in which the memory limiter denies and the Redis limiter
allows. -/
theorem not_sameAnswers (hlimit : 0 < limit) (hpart : window % TimedCounter.millisecond ≠ 0) :
    ¬ sameAnswers limit window (callsAcross (limit.toNat - 1) window) := by
  have hcut := wholeMilliseconds_lt hpart
  rw [sameAnswers_iff (Nat.zero_lt_of_lt hcut) (callsAcross_clock ..)]
  intro hsame
  have hlast := congrArg List.getLast? hsame
  rw [List.getLast?_map, List.getLast?_map, counts_callsAcross_short, counts_callsAcross _ hcut] at hlast
  have hallowed : (((1 : Nat) : Int) ≤ limit) := hlimit
  have hdenied : ¬ ((limit.toNat - 1 + 2 : Nat) : Int) ≤ limit := by omega
  simp only [Option.map_some, hallowed, hdenied, decide_true, decide_false, Option.some.injEq,
    Bool.true_eq_false] at hlast

end Refinement

/-- **The Redis limiter decides as the memory limiter does** when nothing is allowed at all, or when the window is a
whole number of milliseconds, and for no other limit and window. -/
theorem redis_limiter_refines_iff (limit : Int) (window : Time) (hwindow : 0 < window) :
    (∀ calls : List (Time × String), (calls.Pairwise fun a b => a.1 ≤ b.1) → sameAnswers limit window calls) ↔
      limit ≤ 0 ∨ window % TimedCounter.millisecond = 0 := by
  constructor
  · intro hsame
    by_contra hneither
    obtain ⟨hlimit, hpart⟩ := not_or.mp hneither
    exact not_sameAnswers (not_le.mp hlimit) hpart (hsame _ (callsAcross_clock ..))
  · intro heither calls hclock
    rw [sameAnswers_iff hwindow hclock]
    obtain hlimit | hwhole := heither
    · rw [decide_count_eq_false hlimit, decide_count_eq_false hlimit]
    · rw [RedisLimiter.wholeMilliseconds, Nat.div_mul_cancel (Nat.dvd_of_mod_eq_zero hwhole)]

/-- Two calls a minute, the window the API configures. -/
theorem redis_limiter_refines_minute :
    (∀ calls : List (Time × String), (calls.Pairwise fun a b => a.1 ≤ b.1) → sameAnswers 2 (60 * Time.second) calls) ↔
      (2 : Int) ≤ 0 ∨ (60 * Time.second) % TimedCounter.millisecond = 0 :=
  redis_limiter_refines_iff 2 (60 * Time.second) (by decide)

/-- One call in a window of half a millisecond: the memory limiter denies the second and the third call of an instant,
the Redis limiter allows all of them. In a window of one and a half milliseconds the limiters disagree after the
first. -/
theorem redis_limiter_cuts_window :
    ((newMemoryLimiter 1 500000).decisions [(7, "a"), (7, "a"), (7, "a")]).map Decision.allowed = [true, false, false] ∧
    (newRedisLimiter (fun _ => none) 1 500000).decisions [(7, "a"), (7, "a"), (7, "a")] =
      [.ok true, .ok true, .ok true] ∧
    ((newMemoryLimiter 1 1500000).decisions [(7, "a"), (1000007, "a")]).map Decision.allowed = [true, false] ∧
    (newRedisLimiter (fun _ => none) 1 1500000).decisions [(7, "a"), (1000007, "a")] = [.ok true, .ok true] := by
  refine ⟨by decide, by decide, by decide, by decide⟩

end FulfillHub
