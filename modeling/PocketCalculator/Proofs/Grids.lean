import PocketCalculator.Proofs.Ranks
import PocketCalculator.Proofs.Shortest

/-!
# PocketCalculator — grids of decimals

The multiples of one power of ten form a grid, and a magnitude lies between two of its points.
The numbers that round to the magnitude form an interval around it, so any point of the grid in
there has one of these two on its way to the magnitude. Hence a grid on which neither reads back
has no point that does, and of all points that do, what is found is the nearest.

* `Number.magnitude`, `Number.rounds_magnitude` — the magnitude of a rank as a number.
* `Number.exists_place` — where it lies on a grid.
* `Number.not_rounds_of_gridPoint?_eq_none`, `Number.isNearer_of_gridPoint?` — what is found on a
  grid, and what it means that nothing is.
-/

namespace PocketCalculator.Number

-- ---------------------------------------------------------------------------
-- Magnitudes among the numbers
-- ---------------------------------------------------------------------------

/-- The number that the magnitude of a finite rank is. -/
def magnitude (r : Nat) : ℚ :=
  significand r * 2 ^ exponent r

/-- A magnitude is as many units of the smallest one as its rank counts. -/
theorem magnitude_mul_unitsOfOne (r : Nat) : magnitude r * unitsOfOne = units r := by
  have hOne : (unitsOfOne : ℚ) = 2 ^ (1074 : ℤ) := by
    have hPower : unitsOfOne = 2 ^ 1074 := by
      decide +kernel
    rw [hPower, Nat.cast_pow]
    rfl
  -- the smallest ranks are the only ones without an implicit leading bit
  have hUnits : units r = significand r * 2 ^ (r / stride - 1) := by
    rw [units, significand]
    split
    · rename_i hSmall
      rw [Nat.div_eq_of_lt hSmall, Nat.zero_sub, Nat.pow_zero, Nat.mul_one]
    · rfl
  rw [magnitude, exponent, hOne, mul_assoc, ← zpow_add₀ (by norm_num), sub_add_cancel,
    zpow_natCast, hUnits]
  push_cast
  rfl

theorem cast_unitsOfOne_pos : (0 : ℚ) < unitsOfOne :=
  Nat.cast_pos.mpr unitsOfOne_pos

theorem cast_pointsOfOne_pos : (0 : ℚ) < pointsOfOne :=
  Nat.cast_pos.mpr pointsOfOne_pos

/-- A magnitude rounds to itself: it lies strictly inside its interval, so the ties do not
matter. Below rank zero there is no neighbour, and the interval is closed there. -/
theorem rounds_magnitude (r : Nat) : Rounds (magnitude r) r := by
  have hBelow : (units (r - 1) : ℚ) ≤ units r :=
    Nat.cast_le.mpr (units_strictMono.monotone (Nat.sub_le r 1))
  have hAbove : (units r : ℚ) < units (r + 1) :=
    Nat.cast_lt.mpr (units_lt_succ r)
  refine ⟨?_, ?_, fun hMeets => ?_, fun hMeets => ?_⟩ <;> rw [magnitude_mul_unitsOfOne] at *
  · linarith
  · linarith
  · -- the lower end is only met where the neighbour below is the magnitude itself, at rank zero
    have hSame : (units (r - 1) : ℚ) = units r := by linarith
    have hZero := units_strictMono.injective (Nat.cast_injective hSame)
    omega
  · linarith

-- ---------------------------------------------------------------------------
-- One grid
-- ---------------------------------------------------------------------------

theorem value_eq_mul (t c : Nat) : (gridDecimal t c).value = c * 10 ^ (t - 324 : ℤ) :=
  rfl

theorem step_pos (t : Nat) : (0 : ℚ) < 10 ^ (t - 324 : ℤ) :=
  zpow_pos (by norm_num) _

/-- Points of a grid are ordered as their numbers are. -/
theorem gridDecimal_le {t c c' : Nat} (h : c ≤ c') :
    (gridDecimal t c).value ≤ (gridDecimal t c').value := by
  have hStep := step_pos t
  rw [value_eq_mul, value_eq_mul]
  gcongr

/-- One step of a grid, counted in units and in points of one at once: the two sides of the
division by which `pointBelow` is found. -/
theorem cast_step (t : Nat) :
    (Nat.pow 10 t * unitsOfOne : Nat) =
      (10 : ℚ) ^ (t - 324 : ℤ) * (unitsOfOne * pointsOfOne) := by
  have hPoints := cast_pointsOfOne_pos.ne'
  rw [zpow_sub₀ (by norm_num), ← cast_pow_ten, ← cast_pointsOfOne, Nat.cast_mul]
  generalize (unitsOfOne : ℚ) = one
  generalize (pointsOfOne : ℚ) = points at *
  field_simp

/-- A magnitude lies less than a step above the point below it. -/
theorem exists_place (r t : Nat) :
    ∃ rest : ℚ, magnitude r = (gridDecimal t (pointBelow r t)).value + rest ∧
      0 ≤ rest ∧ rest < 10 ^ (t - 324 : ℤ) ∧
        (IsNearBelow r t ↔ 2 * rest < 10 ^ (t - 324 : ℤ)) := by
  have hScale : (0 : ℚ) < unitsOfOne * pointsOfOne :=
    mul_pos cast_unitsOfOne_pos cast_pointsOfOne_pos
  have hStep := cast_step t
  have hStepPos : 0 < Nat.pow 10 t * unitsOfOne :=
    Nat.mul_pos (Nat.pow_pos (by decide)) unitsOfOne_pos
  have hSplit := Nat.div_add_mod' (units r * pointsOfOne) (Nat.pow 10 t * unitsOfOne)
  have hRest := Nat.mod_lt (units r * pointsOfOne) hStepPos
  have hPlace : ((units r * pointsOfOne : Nat) : ℚ) = magnitude r * (unitsOfOne * pointsOfOne) := by
    rw [Nat.cast_mul, ← magnitude_mul_unitsOfOne, mul_assoc]
  -- everything is scaled by both ones, so that the division of `pointBelow` says where the
  -- point is
  rw [← pointBelow] at hSplit
  rw [IsNearBelow]
  generalize units r * pointsOfOne % (Nat.pow 10 t * unitsOfOne) = rest at *
  rw [← hSplit, Nat.cast_add, Nat.cast_mul, hStep] at hPlace
  -- from here on the scale is any positive number; its digits must not be computed
  generalize (unitsOfOne * pointsOfOne : ℚ) = scale at *
  refine ⟨rest / scale, ?_, div_nonneg (Nat.cast_nonneg _) hScale.le, ?_, ?_⟩
  · rw [value_eq_mul, ← mul_left_inj' hScale.ne', ← hPlace, add_mul, div_mul_cancel₀ _ hScale.ne',
      mul_assoc]
  · rw [div_lt_iff₀ hScale, ← hStep]
    exact_mod_cast hRest
  · rw [← mul_div_assoc, div_lt_iff₀ hScale, ← hStep]
    exact_mod_cast Iff.rfl

/-- The next point of a grid is one step further. -/
theorem value_succ (t c : Nat) :
    (gridDecimal t (c + 1)).value = (gridDecimal t c).value + 10 ^ (t - 324 : ℤ) := by
  rw [value_eq_mul, value_eq_mul, Nat.cast_succ, add_one_mul]

theorem value_add_step_le {t c c' : Nat} (h : c < c') :
    (gridDecimal t c).value + 10 ^ (t - 324 : ℤ) ≤ (gridDecimal t c').value := by
  rw [← value_succ]
  exact gridDecimal_le h

theorem gridDecimal_lt {t c c' : Nat} (h : c < c') :
    (gridDecimal t c).value < (gridDecimal t c').value :=
  lt_of_lt_of_le (lt_add_of_pos_right _ (step_pos t)) (value_add_step_le h)

section

variable {r t c : Nat}

/-- If any point of a grid reads back, so does the point next to the magnitude on its side. -/
theorem rounds_pointBelow (h : Rounds (gridDecimal t c).value r) (hBelow : c ≤ pointBelow r t) :
    Rounds (gridDecimal t (pointBelow r t)).value r := by
  obtain ⟨rest, hPlace, hRest, -⟩ := exists_place r t
  exact h.between (rounds_magnitude r) (gridDecimal_le hBelow) (by linarith)

/-- The same on the other side, where the point above the magnitude is between it and the one
that reads back. -/
theorem rounds_pointAbove (h : Rounds (gridDecimal t c).value r) (hAbove : pointBelow r t < c) :
    Rounds (gridDecimal t (pointBelow r t + 1)).value r := by
  obtain ⟨rest, hPlace, -, hRest, -⟩ := exists_place r t
  refine (rounds_magnitude r).between h ?_ (gridDecimal_le hAbove)
  rw [value_succ]
  linarith

/-- A grid on which nothing is found has no point that reads back, for one of the two next to
the magnitude would read back as well. -/
theorem not_rounds_of_gridPoint?_eq_none (h : gridPoint? r t = none) :
    ¬ Rounds (gridDecimal t c).value r := by
  rcases gridPoint?_cases r t with ⟨hFound, -⟩ | ⟨hFound, -⟩ | ⟨-, hBelow, hAbove⟩
  · cases h.symm.trans hFound
  · cases h.symm.trans hFound
  · intro hRounds
    rcases Nat.lt_or_ge (pointBelow r t) c with hMore | hLess
    · exact hAbove (rounds_pointAbove hRounds hMore)
    · exact hBelow (rounds_pointBelow hRounds hLess)

end

-- ---------------------------------------------------------------------------
-- Nearest points
-- ---------------------------------------------------------------------------

/-- How far a decimal is from a magnitude. -/
def distance (d : Decimal) (r : Nat) : ℚ :=
  |d.value - magnitude r|

/-- Whether a decimal is nearer to a magnitude than another one, or as near and above it. -/
def IsNearer (d d' : Decimal) (r : Nat) : Prop :=
  distance d r < distance d' r ∨ distance d r = distance d' r ∧ d'.value < d.value

/-- Of two decimals at most one is nearer. -/
theorem IsNearer.asymm {d d' : Decimal} {r : Nat} (h : IsNearer d d' r) : ¬ IsNearer d' d r := by
  rintro (hLess' | ⟨hSame', hLess'⟩) <;> rcases h with hLess | ⟨hSame, hLess⟩ <;> linarith

/-- At the same distance the larger decimal is the nearer one. -/
theorem isNearer_of_le {d d' : Decimal} {r : Nat} (h : distance d r ≤ distance d' r)
    (hValue : d'.value < d.value) : IsNearer d d' r :=
  (lt_or_eq_of_le h).imp_right fun hSame => ⟨hSame, hValue⟩

section

variable {r t c c' : Nat}

/-- Points up to the one below a magnitude are as far from it as it is above them. -/
theorem distance_of_le (h : c ≤ pointBelow r t) :
    distance (gridDecimal t c) r = magnitude r - (gridDecimal t c).value := by
  obtain ⟨rest, hPlace, hRest, -⟩ := exists_place r t
  have hLess := gridDecimal_le (t := t) h
  rw [distance, abs_sub_comm, abs_of_nonneg (by linarith)]

/-- Points from the one above a magnitude on are as far from it as they are above it. -/
theorem distance_of_lt (h : pointBelow r t < c) :
    distance (gridDecimal t c) r = (gridDecimal t c).value - magnitude r := by
  obtain ⟨rest, hPlace, -, hRest, -⟩ := exists_place r t
  have hMore := value_add_step_le (t := t) h
  rw [distance, abs_of_nonneg (by linarith)]

/-- The point that is found on a grid is the nearest one that reads back. -/
theorem isNearer_of_gridPoint? (hPoint : gridPoint? r t = some c)
    (hRounds : Rounds (gridDecimal t c').value r) (hOther : c' ≠ c) :
    IsNearer (gridDecimal t c) (gridDecimal t c') r := by
  obtain ⟨rest, hPlace, hLow, hHigh, hNear⟩ := exists_place r t
  -- found is the point below, the point above, or nothing; the other point lies on either side
  -- of it
  rcases gridPoint?_cases r t with ⟨hFound, -, hTie⟩ | ⟨hFound, -, hTie⟩ | ⟨hFound, -⟩
  · cases hPoint.symm.trans hFound
    refine Or.inl ?_
    rcases Nat.lt_or_gt_of_ne hOther with hBelow | hAbove
    · rw [distance_of_le le_rfl, distance_of_le hBelow.le]
      exact sub_lt_sub_left (gridDecimal_lt hBelow) _
    · -- beyond the magnitude the point above would read back as well, and then the one below is
      -- found only if it is nearer
      have hMore := value_add_step_le (t := t) hAbove
      have hCloser := hNear.mp (hTie (rounds_pointAbove hRounds hAbove))
      rw [distance_of_le le_rfl, distance_of_lt hAbove]
      linarith
  · cases hPoint.symm.trans hFound
    rcases Nat.lt_or_gt_of_ne hOther with hBelow | hAbove
    · have hBelow' := Nat.le_of_lt_succ hBelow
      have hLess := gridDecimal_le (t := t) hBelow'
      have hNext := value_succ t (pointBelow r t)
      -- symmetrically, the point below reads back as well and is not the nearer one
      have hFar := mt hNear.mpr (hTie (rounds_pointBelow hRounds hBelow'))
      refine isNearer_of_le ?_ (gridDecimal_lt hBelow)
      rw [distance_of_lt (Nat.lt_succ_self _), distance_of_le hBelow']
      linarith
    · refine Or.inl ?_
      rw [distance_of_lt (Nat.lt_succ_self _), distance_of_lt (by omega)]
      exact sub_lt_sub_right (gridDecimal_lt hAbove) _
  · cases hPoint.symm.trans hFound

end

end PocketCalculator.Number
