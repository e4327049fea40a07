import Mathlib
import PocketCalculator.Number.Rank

/-!
# PocketCalculator — the sizes of magnitudes

A rank is some strides and a rest below two strides, and its magnitude is that rest doubled
as many times as there are strides in front of it. Where one doubling ends the next begins
with the same magnitude, so magnitudes grow with their ranks.

* `Number.units_add` — the size of a magnitude by the parts of its rank.
* `Number.units_strictMono` — magnitudes grow with their ranks.
* `Number.units_succ_le_two_mul`, `Number.units_interval_lt` — but not by much.
-/

namespace PocketCalculator.Number

theorem stride_pos : 0 < stride := by
  decide

/-- All ranks of a stride but the first have the same distance to their neighbours. -/
theorem units_of_stride {k f : Nat} (hf : f < stride) :
    units ((k + 1) * stride + f) = (stride + f) * 2 ^ k := by
  have hLarge : ¬ (k + 1) * stride + f < stride := by
    rw [Nat.not_lt, Nat.succ_mul]
    omega
  have hDiv : ((k + 1) * stride + f) / stride = k + 1 := by
    rw [Nat.mul_comm, Nat.mul_add_div stride_pos, Nat.div_eq_of_lt hf, Nat.add_zero]
  have hMod : ((k + 1) * stride + f) % stride = f := by
    rw [Nat.mul_comm, Nat.mul_add_mod, Nat.mod_eq_of_lt hf]
  rw [units, if_neg hLarge, hDiv, hMod]
  rfl

/-- The magnitude at `m` steps into the distances that were doubled `s` times. -/
theorem units_add {s m : Nat} (hUpper : m ≤ 2 * stride) (hLower : s = 0 ∨ stride ≤ m) :
    units (s * stride + m) = m * 2 ^ s := by
  by_cases hSmall : m < stride
  · rw [hLower.resolve_right (Nat.not_le.mpr hSmall), Nat.zero_mul, Nat.zero_add,
      units_of_lt hSmall, Nat.pow_zero, Nat.mul_one]
  · obtain ⟨f, rfl⟩ := Nat.exists_eq_add_of_le (Nat.not_lt.mp hSmall)
    rcases Nat.lt_or_eq_of_le (show f ≤ stride by omega) with hf | rfl
    · have hPlace : s * stride + (stride + f) = (s + 1) * stride + f := by
        rw [Nat.succ_mul, Nat.add_assoc]
      rw [hPlace, units_of_stride hf]
    · -- the next doubling begins here
      have hPlace : s * stride + (stride + stride) = (s + 1 + 1) * stride + 0 := by
        rw [Nat.succ_mul, Nat.succ_mul, Nat.add_zero, Nat.add_assoc]
      rw [hPlace, units_of_stride stride_pos, Nat.pow_succ', ← Nat.mul_assoc, Nat.add_zero,
        Nat.mul_two]

/-- Every rank is some strides and a rest, which has a stride in it once there are strides in
front. -/
theorem exists_parts (r : Nat) :
    ∃ s m, r = s * stride + m ∧ m < 2 * stride ∧ (s = 0 ∨ stride ≤ m) := by
  refine ⟨r / stride - 1, r - (r / stride - 1) * stride, ?_⟩
  simp only [stride, Nat.pow_eq]
  omega

/-- Neighbouring magnitudes differ. -/
theorem units_lt_succ (r : Nat) : units r < units (r + 1) := by
  obtain ⟨s, m, rfl, hUpper, hLower⟩ := exists_parts r
  rw [Nat.add_assoc, units_add (Nat.le_of_lt hUpper) hLower,
    units_add hUpper (hLower.imp_right Nat.le_succ_of_le)]
  exact Nat.mul_lt_mul_of_pos_right (Nat.lt_succ_self m) (Nat.two_pow_pos s)

/-- Magnitudes grow with their ranks. -/
theorem units_strictMono : StrictMono units :=
  strictMono_nat_of_lt_succ units_lt_succ

theorem units_zero : units 0 = 0 :=
  units_of_lt stride_pos

/-- Above zero the next magnitude is not more than twice as large. -/
theorem units_succ_le_two_mul {r : Nat} (h : 0 < r) : units (r + 1) ≤ 2 * units r := by
  obtain ⟨s, m, rfl, hUpper, hLower⟩ := exists_parts r
  rw [Nat.add_assoc, units_add (Nat.le_of_lt hUpper) hLower,
    units_add hUpper (hLower.imp_right Nat.le_succ_of_le), ← Nat.mul_assoc]
  -- one step more is at most twice as many, since there is one already
  have hStep : 1 ≤ m := by
    rcases hLower with rfl | hLower
    · omega
    · exact Nat.le_trans stride_pos hLower
  exact Nat.mul_le_mul_right _ (by omega)

/-- From the tenth rank on, the midpoints around a magnitude differ by less than a ninth. -/
theorem units_interval_lt {r : Nat} (h : 10 ≤ r) :
    9 * (units r + units (r + 1)) < 10 * (units (r - 1) + units r) := by
  obtain ⟨s, m, hParts, hUpper, hLower⟩ := exists_parts (r - 1)
  obtain rfl : r = s * stride + (m + 1) := by omega
  -- nine steps or more, so one step is at most a ninth of what there is
  have hSteps : 9 ≤ m := by
    rcases hLower with rfl | hLower
    · omega
    · exact Nat.le_trans (by decide) hLower
  have hPos := Nat.two_pow_pos s
  have hSelf := units_add (s := s) (m := m + 1) hUpper (by omega)
  rw [hParts, units_add (Nat.le_of_lt hUpper) hLower, hSelf, Nat.add_assoc]
  rcases Nat.lt_or_eq_of_le (show m + 2 ≤ 2 * stride + 1 by omega) with hInside | hLast
  · rw [units_add (by omega) (by omega)]
    have hSum := Nat.mul_lt_mul_of_pos_right
      (show 9 * (m + 1 + (m + 1 + 1)) < 10 * (m + (m + 1)) by omega) hPos
    linarith
  · -- the next rank is the second of the next doubling
    have hNext : s * stride + (m + 1 + 1) = (s + 1) * stride + (stride + 1) := by
      rw [Nat.succ_mul]
      omega
    have hStride : 100 ≤ stride := by decide
    rw [hNext, units_add (by omega) (Or.inr (by omega)), Nat.pow_succ]
    have hSum := Nat.mul_lt_mul_of_pos_right
      (show 9 * (m + 1 + 2 * (stride + 1)) < 10 * (m + (m + 1)) by omega) hPos
    linarith

end PocketCalculator.Number
