import PocketCalculator.Number.Shortest
import PocketCalculator.Proofs.Rounding

/-!
# PocketCalculator — the shortest decimal reads back

The search for the shortest decimal of a magnitude ends with a decimal that rounds to this
magnitude: the finest grid always has a point that reads back, since no interval is narrower
than the distance of its points.

* `Number.readsBack_iff` — reading back is rounding.
* `Number.gridPoint?_cases` — what is found on a grid.
* `Number.rank_shortest` — the shortest decimal reads back.
-/

namespace PocketCalculator.Number

theorem unitsOfOne_pos : 0 < unitsOfOne := by
  decide +kernel

theorem pointsOfOne_pos : 0 < pointsOfOne := by
  decide +kernel

theorem cast_pow_ten (k : Nat) : ((Nat.pow 10 k : Nat) : ℚ) = 10 ^ (k : ℤ) := by
  rw [Nat.pow_eq, zpow_natCast]
  push_cast
  rfl

/-- One is made of `10 ^ 324` points, so a point is `10 ^ (-324)`. -/
theorem cast_pointsOfOne : (pointsOfOne : ℚ) = 10 ^ (324 : ℤ) := by
  have hPower : pointsOfOne = 10 ^ 324 := by
    decide +kernel
  rw [hPower, Nat.cast_pow]
  rfl

/-- A point of the finest grid reads back as the magnitude that it rounds to. -/
theorem readsBack_iff {r points : Nat} :
    readsBack r points = true ↔ Rounds (points / pointsOfOne) r := by
  rw [rounds_div_iff pointsOfOne_pos]
  simp only [readsBack, Nat.mul_assoc 2]
  -- an even rank takes the ends of its interval in, an odd one does not
  split
  · rename_i hEven
    rw [decide_eq_true_iff]
    exact ⟨fun ⟨hLow, hHigh⟩ => ⟨hLow, hHigh, fun _ => hEven⟩,
      fun ⟨hLow, hHigh, _⟩ => ⟨hLow, hHigh⟩⟩
  · rw [decide_eq_true_iff]
    omega

/-- The points of the grid of `10 ^ t` points of the finest one. -/
def gridDecimal (t c : Nat) : Decimal :=
  ⟨c, t - 324⟩

theorem value_gridDecimal (t c : Nat) :
    (gridDecimal t c).value = (c * Nat.pow 10 t : Nat) / pointsOfOne := by
  rw [gridDecimal, Decimal.value, zpow_sub₀ (by norm_num), ← cast_pow_ten, ← cast_pointsOfOne,
    ← mul_div_assoc, ← Nat.cast_mul]

theorem readsBack_grid_iff {r t c : Nat} :
    readsBack r (c * Nat.pow 10 t) = true ↔ Rounds (gridDecimal t c).value r := by
  rw [readsBack_iff, value_gridDecimal]

/-- The last point of a grid that is not above a magnitude. -/
def pointBelow (r t : Nat) : Nat :=
  units r * pointsOfOne / (Nat.pow 10 t * unitsOfOne)

/-- Whether a magnitude is nearer to the point below it than to the point above it. -/
def IsNearBelow (r t : Nat) : Prop :=
  2 * (units r * pointsOfOne % (Nat.pow 10 t * unitsOfOne)) < Nat.pow 10 t * unitsOfOne

/-- What is found on a grid is the point below the magnitude or the one above it, if it reads back
and the other one does not or is not nearer. -/
theorem gridPoint?_cases (r t : Nat) :
    (gridPoint? r t = some (pointBelow r t) ∧ Rounds (gridDecimal t (pointBelow r t)).value r ∧
        (Rounds (gridDecimal t (pointBelow r t + 1)).value r → IsNearBelow r t)) ∨
      (gridPoint? r t = some (pointBelow r t + 1) ∧
        Rounds (gridDecimal t (pointBelow r t + 1)).value r ∧
        (Rounds (gridDecimal t (pointBelow r t)).value r → ¬ IsNearBelow r t)) ∨
      (gridPoint? r t = none ∧ ¬ Rounds (gridDecimal t (pointBelow r t)).value r ∧
        ¬ Rounds (gridDecimal t (pointBelow r t + 1)).value r) := by
  -- the cases are those of the definition: both read back, only one of them, or none
  simp only [← readsBack_grid_iff, pointBelow, IsNearBelow]
  generalize hFound : gridPoint? r t = found
  simp only [gridPoint?] at hFound
  split at hFound
  · rename_i hBelow hAbove
    split at hFound
    · rename_i hNear
      exact Or.inl ⟨hFound.symm, hBelow, fun _ => hNear⟩
    · rename_i hNear
      exact Or.inr (Or.inl ⟨hFound.symm, hAbove, fun _ => hNear⟩)
  · rename_i hBelow hAbove
    exact Or.inl ⟨hFound.symm, hBelow, fun h => absurd h (Bool.eq_false_iff.mp hAbove)⟩
  · rename_i hBelow hAbove
    exact Or.inr (Or.inl ⟨hFound.symm, hAbove, fun h => absurd h (Bool.eq_false_iff.mp hBelow)⟩)
  · rename_i hBelow hAbove
    exact Or.inr (Or.inr ⟨hFound.symm, Bool.eq_false_iff.mp hBelow, Bool.eq_false_iff.mp hAbove⟩)

/-- What is found on a grid reads back. -/
theorem rounds_of_gridPoint? {r t c : Nat} (h : gridPoint? r t = some c) :
    Rounds (gridDecimal t c).value r := by
  rcases gridPoint?_cases r t with ⟨hFound, hRounds, -⟩ | ⟨hFound, hRounds, -⟩ | ⟨hFound, -⟩
  · cases h.symm.trans hFound
    exact hRounds
  · cases h.symm.trans hFound
    exact hRounds
  · cases h.symm.trans hFound

/-- Less than a point of the finest grid lies between a magnitude and the point below it, which
is less than half of what lies between neighbours. -/
theorem rounds_pointBelow_zero {r : Nat} (h : 0 < r) :
    Rounds (gridDecimal 0 (pointBelow r 0)).value r := by
  have hPoint : 2 * unitsOfOne ≤ pointsOfOne := by
    decide +kernel
  -- both ends of the interval are more than a point away, so the ends themselves do not matter
  have hSplit := Nat.div_add_mod' (units r * pointsOfOne) unitsOfOne
  have hRest := Nat.mod_lt (units r * pointsOfOne) unitsOfOne_pos
  have hLower := units_lt_succ (r - 1)
  rw [Nat.sub_add_cancel h] at hLower
  have hLowerPoints := Nat.mul_le_mul_right pointsOfOne hLower
  have hUpperPoints := Nat.mul_lt_mul_of_pos_right (units_lt_succ r) pointsOfOne_pos
  rw [Nat.succ_mul] at hLowerPoints
  have hLow : (units (r - 1) + units r) * pointsOfOne <
      2 * (units r * pointsOfOne / unitsOfOne * unitsOfOne) := by
    rw [Nat.add_mul]
    omega
  have hHigh : 2 * (units r * pointsOfOne / unitsOfOne * unitsOfOne) <
      (units r + units (r + 1)) * pointsOfOne := by
    rw [Nat.add_mul]
    omega
  have hStep : pointBelow r 0 * Nat.pow 10 0 = units r * pointsOfOne / unitsOfOne := by
    rw [pointBelow, Nat.pow_eq, Nat.pow_zero, Nat.mul_one, Nat.one_mul]
  rw [value_gridDecimal, hStep, rounds_div_iff pointsOfOne_pos]
  exact ⟨hLow.le, hHigh.le, fun hMeets => absurd hMeets (not_or.mpr ⟨hLow.ne, hHigh.ne⟩)⟩

/-- On the finest grid something is always found. -/
theorem exists_gridPoint?_zero {r : Nat} (h : 0 < r) : ∃ c, gridPoint? r 0 = some c := by
  rcases gridPoint?_cases r 0 with ⟨hFound, -⟩ | ⟨hFound, -⟩ | ⟨-, hNot, -⟩
  · exact ⟨_, hFound⟩
  · exact ⟨_, hFound⟩
  · exact absurd (rounds_pointBelow_zero h) hNot

/-- The search ends with what is found on some grid, and nothing is found on the coarser grids that
are tried. -/
theorem exists_gridPoint?_coarsest {r : Nat} (h : 0 < r) (t : Nat) :
    ∃ s c, gridPoint? r s = some c ∧ coarsest r t = gridDecimal s c ∧
      ∀ u, s < u → u ≤ t → gridPoint? r u = none := by
  -- the grids are tried from `t` downwards, and the finest one succeeds
  induction t with
  | zero =>
    obtain ⟨c, hc⟩ := exists_gridPoint?_zero h
    exact ⟨0, c, hc, by rw [coarsest, hc]; rfl, by omega⟩
  | succ t ih =>
    rw [coarsest]
    cases hPoint : gridPoint? r (t + 1) with
    | some c => exact ⟨t + 1, c, hPoint, rfl, by omega⟩
    | none =>
      obtain ⟨s, c, hFound, hCoarsest, hCoarser⟩ := ih
      refine ⟨s, c, hFound, hCoarsest, fun u hu hTried => ?_⟩
      -- the induction hypothesis speaks of the grids below this one
      rcases Nat.lt_or_eq_of_le hTried with hLess | rfl
      · exact hCoarser u hu (by omega)
      · exact hPoint

/-- The shortest decimal rounds to the rank it is made from; for rank zero it is zero. -/
theorem rounds_shortest (r : Nat) : Rounds (shortest r).value r := by
  rw [shortest]
  split
  · rename_i hZero
    rw [hZero]
    exact Decimal.rounds_zero_of_coefficient rfl
  · rename_i hNonzero
    obtain ⟨s, c, hPoint, hShortest, -⟩ := exists_gridPoint?_coarsest (Nat.pos_of_ne_zero hNonzero)
      (digits (units r * pointsOfOne / unitsOfOne)).length
    rw [hShortest]
    exact rounds_of_gridPoint? hPoint

/-- **The shortest decimal.** The decimal that a finite magnitude is shown as reads back. -/
theorem rank_shortest {r : Nat} (hFinite : r < infinity) : (shortest r).rank = r :=
  (shortest r).rank_eq (rounds_shortest r) hFinite

end PocketCalculator.Number
