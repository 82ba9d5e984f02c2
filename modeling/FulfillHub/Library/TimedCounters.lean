import Mathlib

/-!
# Counters with a time to live

The two commands of a Redis server that rate limiters are built from. `INCR` counts up from `0` where there is no key
and keeps the expiry of one that is there; `PEXPIRE` gives a key a time to live in milliseconds, and deletes it when
that is not positive. A key is gone from the instant its time to live ends. Instants are in nanoseconds, and a counter
does not overflow.
-/

structure TimedCounter where
  value : Nat
  expiry : Option Nat

namespace TimedCounter

/-- The nanoseconds of a millisecond. -/
def millisecond : Nat := 1000000

def live (now : Nat) (counter : TimedCounter) : Bool := counter.expiry.all fun expiry => decide (now < expiry)

section Commands

variable {K : Type} (keys : K → Option TimedCounter) (now : Nat) (key : K)

/-- The counter of the key, if it has not expired. -/
def get : Option TimedCounter := (keys key).filter (live now)

variable [DecidableEq K]

def incr : Nat × (K → Option TimedCounter) :=
  let counter := (get keys now key).getD ⟨0, none⟩
  (counter.value + 1, Function.update keys key (some { counter with value := counter.value + 1 }))

def pexpire (milliseconds : Int) : K → Option TimedCounter :=
  if milliseconds ≤ 0 then Function.update keys key none
  else Function.update keys key
    ((get keys now key).map fun counter => { counter with expiry := some (now + milliseconds.toNat * millisecond) })

end Commands

variable {K : Type} [DecidableEq K] {keys : K → Option TimedCounter} {now later : Nat} {key other : K}
  {counter : Option TimedCounter} {milliseconds : Int}

@[simp] theorem get_update_self : get (Function.update keys key counter) later key = counter.filter (live later) := by
  simp [get]

theorem get_update_of_ne (hne : other ≠ key) :
    get (Function.update keys key counter) later other = get keys later other := by
  simp [get, hne]

theorem incr_of_get {value : Nat} {expiry : Option Nat} (hget : get keys now key = some ⟨value, expiry⟩) :
    incr keys now key = (value + 1, Function.update keys key (some ⟨value + 1, expiry⟩)) := by
  simp [incr, hget]

theorem incr_of_missing (hget : get keys now key = none) :
    incr keys now key = (1, Function.update keys key (some ⟨1, none⟩)) := by
  simp [incr, hget]

theorem filter_live (value expiry : Nat) : (some (⟨value, some expiry⟩ : TimedCounter)).filter (live later) =
    if later < expiry then some ⟨value, some expiry⟩ else none := by
  by_cases hlive : later < expiry
  · simp [live, hlive]
  · simp [live, hlive]

/-- The time to live of a new counter ends the given time after now. It is over at once when that is no time. -/
theorem get_pexpire_new (hlater : now ≤ later) :
    get (pexpire (Function.update keys key (some ⟨1, none⟩)) now key milliseconds) later key =
      if later < now + milliseconds.toNat * millisecond then
        some ⟨1, some (now + milliseconds.toNat * millisecond)⟩
      else none := by
  unfold pexpire
  split
  · rename_i hnone
    have hended : ¬ later < now + milliseconds.toNat * millisecond := by
      rw [Int.toNat_of_nonpos hnone, Nat.zero_mul, Nat.add_zero]
      exact Nat.not_lt.mpr hlater
    simp [hended]
  · have hnew : get (Function.update keys key (some ⟨1, none⟩)) now key = some ⟨1, none⟩ := get_update_self
    rw [hnew, get_update_self, Option.map_some, filter_live]

theorem get_pexpire_of_ne (hne : other ≠ key) :
    get (pexpire keys now key milliseconds) later other = get keys later other := by
  unfold pexpire
  split
  · exact get_update_of_ne hne
  · exact get_update_of_ne hne

end TimedCounter
