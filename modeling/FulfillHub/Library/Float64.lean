import Mathlib

/-!
# Integers as binary64 numbers

The double nearest to an integer is an integer itself, so the conversions between integers, doubles and decimals can be
followed on the integers: `nearest` rounds to 53 significant bits, ties to even, and a shortest decimal of a double is
one that rounds to it and has the fewest significant digits, the closest of those.

An integer comes back from both conversions, `Exact`, if it is a double and no integer with fewer digits rounds to it.
Up to `2 ^ 53` every integer does.
-/

namespace Float64

/-! ### Rounding -/

/-- The distance of neighbouring doubles at a natural number of 53 bits or more. -/
def unit (n : ℕ) : ℕ := 2 ^ (Nat.log2 n - 52)

/-- Division with rounding, ties to even. -/
def roundDiv (n d : ℕ) : ℕ :=
  if 2 * (n % d) < d ∨ 2 * (n % d) = d ∧ n / d % 2 = 0 then n / d else n / d + 1

def nearestNat (n : ℕ) : ℕ := roundDiv n (unit n) * unit n

/-- The double nearest to an integer. -/
def nearest (n : ℤ) : ℤ := n.sign * nearestNat n.natAbs

theorem unit_of_lt {n : ℕ} (h : n < 2 ^ 53) : unit n = 1 := by
  have hlog : Nat.log2 n < 53 := by
    by_cases hzero : n = 0
    · rw [hzero, Nat.log2_zero]
      norm_num
    · exact (Nat.log2_lt hzero).mpr h
  rw [unit, Nat.sub_eq_zero_of_le (by omega), pow_zero]

theorem nearestNat_of_lt {n : ℕ} (h : n < 2 ^ 53) : nearestNat n = n := by
  simp [nearestNat, unit_of_lt h, roundDiv, Nat.mod_one]

theorem le_nearestNat {n : ℕ} (h : 2 ^ 53 ≤ n) : 2 ^ 53 ≤ nearestNat n := by
  have hne : n ≠ 0 := by omega
  have hlog : 53 ≤ Nat.log2 n := (Nat.le_log2 hne).mpr h
  have hpow : 2 ^ 52 * unit n ≤ n := by
    rw [unit, ← pow_add, Nat.add_sub_cancel' (by omega)]
    exact Nat.log2_self_le hne
  have hunit : 2 ≤ unit n := by
    rw [unit]
    exact Nat.le_self_pow (by omega) 2
  have hquotient : 2 ^ 52 ≤ roundDiv n (unit n) := by
    have hdiv : 2 ^ 52 ≤ n / unit n := (Nat.le_div_iff_mul_le (by omega)).mpr hpow
    unfold roundDiv
    split_ifs <;> omega
  calc 2 ^ 53 = 2 ^ 52 * 2 := by norm_num
    _ ≤ nearestNat n := Nat.mul_le_mul hquotient hunit

theorem nearest_of_lt {n : ℤ} (h : n.natAbs < 2 ^ 53) : nearest n = n := by
  rw [nearest, nearestNat_of_lt h, Int.sign_mul_natAbs]

/-- Below `2 ^ 53` no two integers round to the same double. -/
theorem eq_of_nearest_eq {m n : ℤ} (hn : n.natAbs < 2 ^ 53) (h : nearest m = n) : m = n := by
  by_cases hm : m.natAbs < 2 ^ 53
  · rwa [nearest_of_lt hm] at h
  · have hne : m ≠ 0 := by
      rintro rfl
      norm_num at hm
    have hnatAbs : n.natAbs = nearestNat m.natAbs := by
      rw [← h, nearest, Int.natAbs_mul, Int.natAbs_sign_of_ne_zero hne, one_mul, Int.natAbs_natCast]
    have hle := le_nearestNat (not_lt.mp hm)
    omega

/-! ### Decimals -/

/-- The number of significant digits. -/
def significantDigits (n : ℤ) : ℕ := ((Nat.digits 10 n.natAbs).dropWhile (· = 0)).length

/-- The decimal rounds to the double, and of the decimals that do it has the fewest digits and is the closest. -/
structure IsShortest (double decimal : ℤ) : Prop where
  rounds : nearest decimal = double
  fewest : ∀ other, nearest other = double → significantDigits decimal ≤ significantDigits other
  closest : ∀ other, nearest other = double → significantDigits other = significantDigits decimal →
    (decimal - double).natAbs ≤ (other - double).natAbs

/-- The integer is a double, and no integer with fewer digits rounds to it. -/
structure Exact (n : ℤ) : Prop where
  double : nearest n = n
  fewest : ∀ other, nearest other = n → significantDigits n ≤ significantDigits other

theorem exists_isShortest {double : ℤ} (h : nearest double = double) : ∃ decimal, IsShortest double decimal := by
  classical
  have hdigits : ∃ k d, nearest d = double ∧ significantDigits d = k := ⟨_, double, h, rfl⟩
  have hdistance : ∃ k d, (nearest d = double ∧ significantDigits d = Nat.find hdigits) ∧ (d - double).natAbs = k := by
    obtain ⟨d, hd⟩ := Nat.find_spec hdigits
    exact ⟨_, d, hd, rfl⟩
  obtain ⟨decimal, ⟨hrounds, hfewest⟩, hclosest⟩ := Nat.find_spec hdistance
  refine ⟨decimal, hrounds, ?_, ?_⟩
  · intro other hother
    rw [hfewest]
    exact Nat.find_min' hdigits ⟨other, hother, rfl⟩
  · intro other hother hsame
    rw [hclosest]
    exact Nat.find_min' hdistance ⟨other, ⟨hother, hsame.trans hfewest⟩, rfl⟩

/-- A shortest decimal of a double. -/
noncomputable def shortest (double : ℤ) : ℤ :=
  if h : nearest double = double then (exists_isShortest h).choose else double

theorem isShortest_shortest {double : ℤ} (h : nearest double = double) : IsShortest double (shortest double) := by
  rw [shortest, dif_pos h]
  exact (exists_isShortest h).choose_spec

theorem Exact.eq_of_isShortest {n decimal : ℤ} (h : Exact n) (hdecimal : IsShortest n decimal) : decimal = n := by
  have hsame : significantDigits n = significantDigits decimal :=
    le_antisymm (h.fewest decimal hdecimal.rounds) (hdecimal.fewest n h.double)
  have hclose := hdecimal.closest n h.double hsame
  omega

theorem exact_of_lt {n : ℤ} (h : n.natAbs < 2 ^ 53) : Exact n := by
  refine ⟨nearest_of_lt h, ?_⟩
  intro other hother
  rw [eq_of_nearest_eq h hother]

end Float64
