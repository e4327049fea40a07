import Mathlib
import PocketCalculator.Number.Decimal
import PocketCalculator.Proofs.Magnitudes

/-!
# PocketCalculator — rounding

The numbers that round to a rank form an interval between the midpoints to its two
neighbours, whose ends belong to it exactly when the rank is even. The intervals do not
overlap, and the rank that rounding finds has the number in its interval. So a number of
the interval of a finite rank rounds to this rank, however it is written.

* `Number.Rounds` — the interval of a rank.
* `Number.Rounds.le_of_le`, `Number.Rounds.unique` — rounding keeps the order, so no two intervals
  overlap.
* `Number.exists_rounds_nearest` — rounding finds the interval.
* `Number.Decimal.rank_eq`, `Number.Decimal.rounds_of_rank` — decimals round by their values.
-/

namespace PocketCalculator.Number

/-- Whether a number rounds to the magnitude of a rank. -/
structure Rounds (q : ℚ) (r : Nat) : Prop where
  low : (units (r - 1) + units r : ℚ) ≤ 2 * (q * unitsOfOne)
  high : 2 * (q * unitsOfOne) ≤ (units r + units (r + 1) : ℚ)
  even_low : 2 * (q * unitsOfOne) = (units (r - 1) + units r : ℚ) → r % 2 = 0
  even_high : 2 * (q * unitsOfOne) = (units r + units (r + 1) : ℚ) → r % 2 = 0

namespace Rounds

variable {q q' : ℚ} {r r' : Nat}

/-- Rounding keeps the order. -/
theorem le_of_le (h : Rounds q r) (h' : Rounds q' r') (hLess : q ≤ q') : r ≤ r' := by
  by_contra hMore
  -- if `r'` comes before `r`, the whole interval of `r'` is below that of `r`
  have hFirst : units r' ≤ units (r - 1) :=
    units_strictMono.monotone (by omega)
  have hSecond : units (r' + 1) ≤ units r :=
    units_strictMono.monotone (by omega)
  have hFirst' : (units r' : ℚ) ≤ units (r - 1) := Nat.cast_le.mpr hFirst
  have hSecond' : (units (r' + 1) : ℚ) ≤ units r := Nat.cast_le.mpr hSecond
  have hScaled : q * unitsOfOne ≤ q' * unitsOfOne :=
    mul_le_mul_of_nonneg_right hLess (Nat.cast_nonneg _)
  have hLow := h.low
  have hHigh := h'.high
  -- the intervals can only meet in a midpoint, which then belongs to neither or both
  have hEven := h.even_low (by linarith)
  have hEven' := h'.even_high (by linarith)
  -- then `r'` and `r` are neighbours and both even
  have hNext : (units (r' + 1) : ℚ) = units r := by linarith
  have hSame := units_strictMono.injective (Nat.cast_injective hNext)
  omega

/-- No number rounds to two ranks. -/
theorem unique (h : Rounds q r) (h' : Rounds q r') : r = r' :=
  Nat.le_antisymm (h.le_of_le h' le_rfl) (h'.le_of_le h le_rfl)

/-- The numbers that round to a rank have no gap. -/
theorem between {p : ℚ} (h : Rounds q r) (h' : Rounds q' r) (hLow : q ≤ p) (hHigh : p ≤ q') :
    Rounds p r := by
  have hLow' : q * unitsOfOne ≤ p * unitsOfOne :=
    mul_le_mul_of_nonneg_right hLow (Nat.cast_nonneg _)
  have hHigh' : p * unitsOfOne ≤ q' * unitsOfOne :=
    mul_le_mul_of_nonneg_right hHigh (Nat.cast_nonneg _)
  have hFirst := h.low
  have hLast := h'.high
  exact ⟨by linarith, by linarith, fun hMeets => h.even_low (by linarith),
    fun hMeets => h'.even_high (by linarith)⟩

end Rounds

-- ---------------------------------------------------------------------------
-- Rounding
-- ---------------------------------------------------------------------------

/-- Rounding half to even stays within half a step, and where the half is reached the result is
even. -/
theorem roundHalfEven_spec (num : Nat) {den : Nat} (hDen : 0 < den) :
    2 * (roundHalfEven num den * den) ≤ 2 * num + den ∧
      2 * num ≤ 2 * (roundHalfEven num den * den) + den ∧
      (2 * (roundHalfEven num den * den) = 2 * num + den → roundHalfEven num den % 2 = 0) ∧
      (2 * num = 2 * (roundHalfEven num den * den) + den → roundHalfEven num den % 2 = 0) := by
  -- the remainder decides: less than half of `den`, more, or exactly half
  have hSplit := Nat.div_add_mod' num den
  have hRest := Nat.mod_lt num hDen
  simp only [roundHalfEven]
  split
  · omega
  · rw [Nat.add_mul, Nat.one_mul]
    omega

/-- Rounding half to even does not pass a whole number from below. -/
theorem roundHalfEven_le {num den k : Nat} (hDen : 0 < den) (h : num ≤ k * den) :
    roundHalfEven num den ≤ k := by
  have hLow := (roundHalfEven_spec num hDen).1
  by_contra hMore
  -- one more than `k` would be more than half a step away
  have hMul := Nat.mul_le_mul_right den (Nat.lt_of_not_le hMore)
  rw [Nat.succ_mul] at hMul
  omega

/-- Nor from above. -/
theorem le_roundHalfEven {num den k : Nat} (hDen : 0 < den) (h : k * den ≤ num) :
    k ≤ roundHalfEven num den := by
  have hHigh := (roundHalfEven_spec num hDen).2.1
  by_contra hLess
  have hMul := Nat.mul_le_mul_right den (Nat.lt_of_not_le hLess)
  rw [Nat.succ_mul] at hMul
  omega

/-- Counted in the distance around it, a number has at most 53 binary digits in front of the
point, and exactly 53 where the distance is doubled. -/
theorem spacing_spec (num : Nat) {den : Nat} (hDen : 0 < den) :
    num * unitsOfOne < 2 * stride * (den * 2 ^ spacing num den) ∧
      (spacing num den = 0 ∨ stride * (den * 2 ^ spacing num den) ≤ num * unitsOfOne) := by
  -- both bounds are powers of two, so they are bounds on the binary logarithm of the quotient
  have hPower : ∀ k, stride * (den * 2 ^ k) = 2 ^ (k + 52) * den := by
    intro k
    rw [stride, Nat.pow_eq, Nat.pow_add, Nat.mul_comm den, ← Nat.mul_assoc, Nat.mul_comm (2 ^ 52)]
  have hDouble : ∀ k, 2 * stride * (den * 2 ^ k) = 2 ^ (k + 53) * den := by
    intro k
    rw [Nat.mul_assoc, hPower, ← Nat.mul_assoc, Nat.pow_succ' (n := k + 52)]
  rw [hPower, hDouble, ← Nat.div_lt_iff_lt_mul hDen, ← Nat.le_div_iff_mul_le hDen, spacing]
  generalize num * unitsOfOne / den = n
  constructor
  · exact Nat.lt_of_lt_of_le Nat.lt_log2_self (Nat.pow_le_pow_right (by decide) (by omega))
  · by_cases hSmall : n.log2 ≤ 52
    · exact Or.inl (by omega)
    · right
      rw [show n.log2 - 52 + 52 = n.log2 by omega]
      refine Nat.log2_self_le ?_
      rintro rfl
      exact hSmall (by decide)

/-- The interval of a rank in whole numbers, for fractions. -/
theorem rounds_div_iff {num den r : Nat} (hDen : 0 < den) :
    Rounds (num / den) r ↔
      (units (r - 1) + units r) * den ≤ 2 * (num * unitsOfOne) ∧
        2 * (num * unitsOfOne) ≤ (units r + units (r + 1)) * den ∧
        ((units (r - 1) + units r) * den = 2 * (num * unitsOfOne) ∨
          2 * (num * unitsOfOne) = (units r + units (r + 1)) * den → r % 2 = 0) := by
  have hDen' : (0 : ℚ) < den := Nat.cast_pos.mpr hDen
  -- all is multiplied by `den`, which keeps every comparison as it is
  have hTwice : 2 * ((num / den : ℚ) * unitsOfOne) = (2 * (num * unitsOfOne) : Nat) / den := by
    push_cast
    ring
  constructor
  · rintro ⟨hLow, hHigh, hEvenLow, hEvenHigh⟩
    rw [hTwice, le_div_iff₀ hDen'] at hLow
    rw [hTwice, div_le_iff₀ hDen'] at hHigh
    rw [hTwice, div_eq_iff hDen'.ne'] at hEvenLow hEvenHigh
    refine ⟨by exact_mod_cast hLow, by exact_mod_cast hHigh, ?_⟩
    rintro (hMeets | hMeets)
    · exact hEvenLow (by exact_mod_cast hMeets.symm)
    · exact hEvenHigh (by exact_mod_cast hMeets)
  · rintro ⟨hLow, hHigh, hEven⟩
    refine ⟨?_, ?_, fun h => hEven (Or.inl ?_), fun h => hEven (Or.inr ?_)⟩
    · rw [hTwice, le_div_iff₀ hDen']
      exact_mod_cast hLow
    · rw [hTwice, div_le_iff₀ hDen']
      exact_mod_cast hHigh
    · rw [hTwice, div_eq_iff hDen'.ne'] at h
      exact_mod_cast h.symm
    · rw [hTwice, div_eq_iff hDen'.ne'] at h
      exact_mod_cast h

/-- Strides in front do not change whether a number of steps is even. -/
theorem add_stride_even (s : Nat) {m : Nat} (h : m % 2 = 0) : (s * stride + m) % 2 = 0 := by
  simp only [stride, Nat.pow_eq]
  omega

section

variable {s m : Nat} (hUpper : m ≤ 2 * stride) (hLower : s = 0 ∨ stride ≤ m)
include hUpper hLower

/-- The midpoint below a magnitude is half a distance away. At the first magnitude of a doubling
it is nearer. -/
theorem midpoint_below :
    s * stride + m = 0 ∨
      units (s * stride + m - 1) + units (s * stride + m) + 2 ^ s = 2 * (m * 2 ^ s) ∨
      (s ≠ 0 ∧ m = stride ∧
        units (s * stride + m - 1) + units (s * stride + m) < 2 * (m * 2 ^ s)) := by
  have hStride := stride_pos
  rw [units_add hUpper hLower]
  -- within a doubling both neighbours are one step away; at its first magnitude the lower one
  -- is half a step away
  by_cases hFirst : s = 0 ∨ stride < m
  · by_cases hZero : s * stride + m = 0
    · exact Or.inl hZero
    · right
      left
      obtain ⟨k, rfl⟩ : ∃ k, m = k + 1 := by
        refine Nat.exists_eq_add_one_of_ne_zero ?_
        rintro rfl
        rcases hFirst with rfl | hPos
        · exact hZero (Nat.zero_mul stride)
        · exact Nat.not_lt_zero _ hPos
      -- the rank below has one step less at the same distance
      rw [Nat.add_succ_sub_one, units_add (by omega) (by omega), Nat.add_mul]
      omega
  · right
    right
    have hSame : m = stride := by omega
    refine ⟨by omega, hSame, ?_⟩
    -- the lower neighbour belongs to the doubling before, and all that matters of it is that it
    -- is smaller
    have hLess := units_lt_succ (s * stride + m - 1)
    rw [Nat.sub_add_cancel (by omega), units_add hUpper hLower] at hLess
    omega

/-- The midpoint above a magnitude is half a distance away. At the last magnitude of a doubling
it is farther. -/
theorem midpoint_above :
    units (s * stride + m) + units (s * stride + m + 1) = 2 * (m * 2 ^ s) + 2 ^ s ∨
      (m = 2 * stride ∧
        2 * (m * 2 ^ s) < units (s * stride + m) + units (s * stride + m + 1)) := by
  rw [units_add hUpper hLower]
  by_cases hLast : m = 2 * stride
  · right
    -- the upper neighbour belongs to the next doubling, and is larger in any case
    have hLess := units_lt_succ (s * stride + m)
    rw [units_add hUpper hLower] at hLess
    exact ⟨hLast, by omega⟩
  · left
    rw [Nat.add_assoc, units_add (by omega) (by omega), Nat.add_mul]
    omega

variable {n den : Nat} (hDen : 0 < den)
include hDen

/-- A number at most half a distance below a magnitude is not below the midpoint there. -/
theorem midpoint_below_le (hMany : s = 0 ∨ stride * (den * 2 ^ s) ≤ n)
    (hLow : 2 * (m * (den * 2 ^ s)) ≤ 2 * n + den * 2 ^ s)
    (hTie : 2 * (m * (den * 2 ^ s)) = 2 * n + den * 2 ^ s → m % 2 = 0) :
    (units (s * stride + m - 1) + units (s * stride + m)) * den ≤ 2 * n ∧
      ((units (s * stride + m - 1) + units (s * stride + m)) * den = 2 * n →
        s * stride + m = 0 ∨ m % 2 = 0) := by
  have hScale : 2 * (m * 2 ^ s) * den = 2 * (m * (den * 2 ^ s)) := by
    ring
  rcases midpoint_below hUpper hLower with hZero | hHalf | ⟨hs, rfl, hNear⟩
  · rw [hZero, Nat.zero_sub, units_zero, Nat.zero_add, Nat.zero_mul]
    exact ⟨Nat.zero_le _, fun _ => Or.inl rfl⟩
  · -- the half distance times `den` is the half step of the counted number
    have hScaled := congrArg (· * den) hHalf
    simp only [Nat.add_mul _ (2 ^ s), hScale, Nat.mul_comm (2 ^ s) den] at hScaled
    exact ⟨by omega, fun hMeets => Or.inr (hTie (by omega))⟩
  · -- no number that is counted in this distance is below the magnitude
    have hScaled := Nat.mul_lt_mul_of_pos_right hNear hDen
    have hFull := hMany.resolve_left hs
    rw [hScale] at hScaled
    omega

/-- A number at most half a distance above a magnitude is not above the midpoint there. -/
theorem le_midpoint_above (hFew : n < 2 * stride * (den * 2 ^ s))
    (hHigh : 2 * n ≤ 2 * (m * (den * 2 ^ s)) + den * 2 ^ s)
    (hTie : 2 * n = 2 * (m * (den * 2 ^ s)) + den * 2 ^ s → m % 2 = 0) :
    2 * n ≤ (units (s * stride + m) + units (s * stride + m + 1)) * den ∧
      (2 * n = (units (s * stride + m) + units (s * stride + m + 1)) * den → m % 2 = 0) := by
  have hScale : 2 * (m * 2 ^ s) * den = 2 * (m * (den * 2 ^ s)) := by
    ring
  rcases midpoint_above hUpper hLower with hHalf | ⟨rfl, hFar⟩
  · have hScaled := congrArg (· * den) hHalf
    simp only [Nat.add_mul _ (2 ^ s), hScale, Nat.mul_comm (2 ^ s) den] at hScaled
    exact ⟨by omega, fun hMeets => hTie (by omega)⟩
  · -- no number that is counted in this distance is above the magnitude
    have hScaled := Nat.mul_lt_mul_of_pos_right hFar hDen
    rw [hScale] at hScaled
    omega

end

/-- Rounding finds the interval of a number, or infinity if that is nearer than any finite
magnitude. -/
theorem exists_rounds_nearest (num : Nat) {den : Nat} (hDen : 0 < den) :
    ∃ n, Rounds (num / den) n ∧ nearest num den = min n infinity := by
  -- the number counted in the distance around it, and rounded to a whole number of steps
  obtain ⟨hFew, hMany⟩ := spacing_spec num hDen
  have hStep : 0 < den * 2 ^ spacing num den := Nat.mul_pos hDen (Nat.two_pow_pos _)
  have hUpper := roundHalfEven_le hStep (Nat.le_of_lt hFew)
  have hLower := hMany.imp_right (le_roundHalfEven hStep)
  obtain ⟨hLow, hHigh, hTieLow, hTieHigh⟩ := roundHalfEven_spec (num * unitsOfOne) hStep
  -- within half a step of these steps is within the midpoints around their magnitude
  obtain ⟨hBelow, hBelowEven⟩ := midpoint_below_le hUpper hLower hDen hMany hLow hTieLow
  obtain ⟨hAbove, hAboveEven⟩ := le_midpoint_above hUpper hLower hDen hFew hHigh hTieHigh
  refine ⟨_, (rounds_div_iff hDen).mpr ⟨hBelow, hAbove, fun hMeets => ?_⟩, rfl⟩
  -- the stride is even, so the last digit of a rank is that of its steps
  rcases hMeets.imp hBelowEven hAboveEven with (hZero | hEven) | hEven
  · rw [hZero]
  · exact add_stride_even _ hEven
  · exact add_stride_even _ hEven

/-- A number of the interval of a finite rank rounds to this rank. -/
theorem nearest_eq {num den r : Nat} (hDen : 0 < den) (h : Rounds (num / den) r)
    (hFinite : r < infinity) : nearest num den = r := by
  obtain ⟨n, hn, hNearest⟩ := exists_rounds_nearest num hDen
  rw [hNearest, hn.unique h, Nat.min_eq_left (Nat.le_of_lt hFinite)]

/-- What rounds to a finite rank is in the interval of this rank. -/
theorem rounds_nearest {num den : Nat} (hDen : 0 < den) (hFinite : nearest num den < infinity) :
    Rounds (num / den) (nearest num den) := by
  obtain ⟨n, hn, hNearest⟩ := exists_rounds_nearest num hDen
  -- below infinity the limit on the rank does not act
  have hSame : nearest num den = n := by omega
  rwa [hSame]

-- ---------------------------------------------------------------------------
-- Decimals
-- ---------------------------------------------------------------------------

/-- A number of at most half a unit rounds to zero. -/
theorem rounds_zero {q : ℚ} (hPos : 0 ≤ q) (hSmall : 2 * (q * unitsOfOne) ≤ 1) : Rounds q 0 := by
  have hZero : (units 0 : ℚ) = 0 := by
    rw [units_zero, Nat.cast_zero]
  have hOne : (units (0 + 1) : ℚ) = 1 := by
    rw [show units (0 + 1) = 1 by decide, Nat.cast_one]
  -- the interval of zero ends at half of the first magnitude, and begins at zero itself
  refine ⟨?_, ?_, fun _ => rfl, fun _ => rfl⟩
  · show (units 0 + units 0 : ℚ) ≤ _
    rw [hZero, add_zero]
    exact mul_nonneg zero_le_two (mul_nonneg hPos (Nat.cast_nonneg _))
  · rwa [hZero, hOne, zero_add]

/-- What rounds to a finite magnitude is not beyond infinity. -/
theorem Rounds.le_infinity {q : ℚ} {r : Nat} (h : Rounds q r) (hFinite : r < infinity) :
    q * unitsOfOne ≤ units infinity := by
  have hFirst : (units r : ℚ) ≤ units infinity :=
    Nat.cast_le.mpr (units_strictMono.monotone (Nat.le_of_lt hFinite))
  have hSecond : (units (r + 1) : ℚ) ≤ units infinity :=
    Nat.cast_le.mpr (units_strictMono.monotone hFinite)
  have hHigh := h.high
  generalize (unitsOfOne : ℚ) = one at *
  linarith

namespace Decimal

/-- The number that a decimal is. -/
def value (d : Decimal) : ℚ :=
  d.coefficient * 10 ^ d.exponent

/-- A zero at the end of a coefficient can be moved into the exponent. -/
theorem value_mul_ten (n : Nat) (e : Int) : value ⟨10 * n, e⟩ = value ⟨n, e + 1⟩ := by
  rw [value, value, zpow_add_one₀ (by norm_num)]
  push_cast
  ring

/-- The coefficient zero is zero at every exponent. -/
theorem rounds_zero_of_coefficient {d : Decimal} (h : d.coefficient = 0) : Rounds d.value 0 := by
  have hZero : d.value = 0 := by
    rw [value, h, Nat.cast_zero, zero_mul]
  refine rounds_zero (Eq.ge hZero) ?_
  rw [hZero, zero_mul, mul_zero]
  exact zero_le_one

/-- What rounds to another magnitude than zero has another coefficient than zero. -/
theorem coefficient_ne_zero {d : Decimal} {r : Nat} (h : Rounds d.value r) (hPos : 0 < r) :
    d.coefficient ≠ 0 :=
  fun hZero => hPos.ne ((rounds_zero_of_coefficient hZero).unique h)

variable (d : Decimal)

theorem value_nonneg : 0 ≤ d.value :=
  mul_nonneg (Nat.cast_nonneg _) (zpow_nonneg (by norm_num) _)

/-- A decimal is less than the power of ten at its point. -/
theorem value_lt : d.value < 10 ^ d.point := by
  -- a coefficient is less than ten to the number of its digits
  have hLength : d.coefficient < 10 ^ (digits d.coefficient).length :=
    (Nat.length_toDigits_le_iff (by decide) Nat.length_toDigits_pos).mp (Nat.le_refl _)
  have hLength' : (d.coefficient : ℚ) < 10 ^ (digits d.coefficient).length := by
    exact_mod_cast hLength
  rw [value, point, zpow_add₀ (by norm_num), zpow_natCast]
  gcongr

/-- Unless it is zero, a decimal is at least the power of ten one place behind its point. -/
theorem le_value (h : d.coefficient ≠ 0) : 10 ^ (d.point - 1) ≤ d.value := by
  -- the first digit of the coefficient stands at this place and is not zero
  obtain ⟨k, hk⟩ := Nat.exists_eq_add_one.mpr
    (Nat.length_toDigits_pos (b := 10) (n := d.coefficient))
  have hLength : 10 ^ k ≤ d.coefficient := by
    rcases Nat.eq_zero_or_pos k with rfl | hPos
    · exact Nat.one_le_iff_ne_zero.mpr h
    · rw [← Nat.not_lt, ← Nat.length_toDigits_le_iff (by decide) hPos]
      omega
  have hLength' : ((10 ^ k : Nat) : ℚ) ≤ d.coefficient := Nat.cast_le.mpr hLength
  have hPoint : d.point - 1 = k + d.exponent := by
    rw [point, digits, hk]
    push_cast
    ring
  rw [value, hPoint, zpow_add₀ (by norm_num), zpow_natCast]
  push_cast at hLength'
  gcongr

/-- A decimal as a fraction of whole numbers. -/
theorem value_eq_div :
    d.value = (d.coefficient * Nat.pow 10 d.exponent.toNat : Nat) /
      (Nat.pow 10 (-d.exponent).toNat : Nat) := by
  rw [value]
  obtain ⟨n, hn | hn⟩ := d.exponent.eq_nat_or_neg
  · simp [hn]
  · simp [hn, div_eq_mul_inv]

/-- No finite magnitude is `10 ^ 310` or more. -/
theorem point_le_of_rounds {r : Nat} (h : Rounds d.value r) (hFinite : r < infinity)
    (hNonzero : d.coefficient ≠ 0) : d.point ≤ 310 := by
  -- otherwise the number would be at least `10 ^ 310`, and that is beyond infinity
  by_contra hLarge
  have hLimit : units infinity < 10 ^ 310 * unitsOfOne := by
    decide +kernel
  have hPower : (10 : ℚ) ^ (310 : Nat) ≤ 10 ^ (d.point - 1) := by
    rw [← zpow_natCast]
    exact zpow_le_zpow_right₀ (by norm_num) (by omega)
  have hReached : ((10 ^ 310 * unitsOfOne : Nat) : ℚ) ≤ units infinity := by
    rw [Nat.cast_mul, Nat.cast_pow, Nat.cast_ofNat]
    calc (10 : ℚ) ^ (310 : Nat) * unitsOfOne
        ≤ d.value * unitsOfOne :=
          mul_le_mul_of_nonneg_right (hPower.trans (d.le_value hNonzero)) (Nat.cast_nonneg _)
      _ ≤ units infinity := h.le_infinity hFinite
  exact Nat.not_le.mpr hLimit (Nat.cast_le.mp hReached)

/-- Below `10 ^ -330` every decimal is nearer to zero than to any other magnitude. -/
theorem rounds_zero_of_point_lt (h : d.point < -330) : Rounds d.value 0 := by
  have hLimit : 2 * unitsOfOne ≤ 10 ^ 330 := by
    decide +kernel
  have hLimit' : 2 * (unitsOfOne : ℚ) ≤ 10 ^ (330 : Nat) := by
    have hCast : ((2 * unitsOfOne : Nat) : ℚ) ≤ (10 ^ 330 : Nat) := Nat.cast_le.mpr hLimit
    rwa [Nat.cast_mul, Nat.cast_pow, Nat.cast_ofNat, Nat.cast_ofNat] at hCast
  -- the number is at most `10 ^ -330`, and a unit is more than twice that
  have hPower : d.value ≤ (10 ^ (330 : Nat))⁻¹ := by
    rw [← zpow_natCast, ← zpow_neg]
    exact d.value_lt.le.trans (zpow_le_zpow_right₀ (by norm_num) (by omega))
  refine rounds_zero d.value_nonneg ?_
  calc 2 * (d.value * unitsOfOne)
      = d.value * (2 * unitsOfOne) := by ring
    _ ≤ (10 ^ (330 : Nat))⁻¹ * 10 ^ (330 : Nat) :=
        mul_le_mul hPower hLimit' (mul_nonneg zero_le_two (Nat.cast_nonneg _)) (by positivity)
    _ = 1 := inv_mul_cancel₀ (by positivity)

/-- **Decimals.** Decimals round by their values. -/
theorem rank_eq {r : Nat} (h : Rounds d.value r) (hFinite : r < infinity) : d.rank = r := by
  -- the three cases of the reader: no digit, a point too far to the right or to the left, and
  -- the rest
  rw [rank]
  split
  · rename_i hZero
    exact (rounds_zero_of_coefficient hZero).unique h
  · rename_i hNonzero
    rw [if_neg (Int.not_lt.mpr (d.point_le_of_rounds h hFinite hNonzero))]
    split
    · rename_i hSmall
      exact (d.rounds_zero_of_point_lt hSmall).unique h
    · refine nearest_eq (Nat.pow_pos (by decide)) ?_ hFinite
      rwa [← value_eq_div]

/-- A decimal that reads back as a finite magnitude other than zero rounds to it. -/
theorem rounds_of_rank {r : Nat} (h : d.rank = r) (hPos : 0 < r) (hFinite : r < infinity) :
    Rounds d.value r := by
  rw [rank] at h
  -- zero and infinity are excluded, so it was the fraction that was rounded
  split at h
  · exact absurd h hPos.ne
  · split at h
    · exact absurd h hFinite.ne'
    · split at h
      · exact absurd h hPos.ne
      · have hDen : 0 < Nat.pow 10 (-d.exponent).toNat := Nat.pow_pos (by decide)
        have hRounds := rounds_nearest hDen (h.symm ▸ hFinite)
        rwa [h, ← value_eq_div] at hRounds

end Decimal

end PocketCalculator.Number
