import PocketCalculator.Proofs.Grids

/-!
# PocketCalculator — the fewest digits

The search for the shortest decimal goes from coarse grids to fine ones, so no decimal with a
larger exponent than the one that it finds reads back. Between two decimals with their points
at different places there is a power of ten, which lies on a coarser grid than the larger one
unless this one has a single digit. So a decimal with fewer digits would have the larger
exponent, and one with as many lies on the same grid, where the nearest point was found.

A single digit is the exception: `9` on the grid below may read back where `1` does. Only the
intervals of the first few magnitudes are wide enough to hold both, and only one of them does.

* `Number.exponent_le_shortest` — no decimal on a coarser grid reads back.
* `Number.length_shortest_le`, `Number.eq_or_isNearer_shortest` — the fewest digits, and the
  nearest decimal that has as few.
* `Number.isShortest_shortest`, `Number.Decimal.IsShortest.unique` — the shortest decimal is the
  only one of this kind.
-/

namespace PocketCalculator.Number

/-- The decimal of the fewest digits among those that read back as a magnitude, and the
nearest of these. -/
structure Decimal.IsShortest (d : Decimal) (r : Nat) : Prop where
  reads_back : d.rank = r
  fewest : ∀ d' : Decimal, d'.rank = r →
    (digits d.coefficient).length ≤ (digits d'.coefficient).length
  nearest : ∀ d' : Decimal, d'.rank = r →
    (digits d'.coefficient).length = (digits d.coefficient).length → d' = d ∨ IsNearer d d' r

-- ---------------------------------------------------------------------------
-- The coarsest grid
-- ---------------------------------------------------------------------------

section

variable {r : Nat} (hPos : 0 < r)
include hPos

/-- All points but zero of the grids that are not tried are too large. -/
theorem not_rounds_gridDecimal {u c : Nat}
    (h : (digits (units r * pointsOfOne / unitsOfOne)).length < u) :
    ¬ Rounds (gridDecimal u c).value r := by
  intro hRounds
  -- zero is on every grid, but it does not read back as a positive rank
  have hPoint : c ≠ 0 := Decimal.coefficient_ne_zero hRounds hPos
  obtain ⟨t, rfl⟩ := Nat.exists_eq_add_one.mpr (Nat.zero_lt_of_lt h)
  have hSome : 0 < t :=
    Nat.lt_of_lt_of_le Nat.length_toDigits_pos (Nat.le_of_lt_succ h)
  have hPlace : units r * pointsOfOne < 10 ^ t * unitsOfOne := by
    rw [← Nat.div_lt_iff_lt_mul unitsOfOne_pos]
    exact (Nat.length_toDigits_le_iff (by decide) hSome).mp (Nat.le_of_lt_succ h)
  rw [value_gridDecimal, rounds_div_iff pointsOfOne_pos] at hRounds
  have hNext := Nat.mul_le_mul_right pointsOfOne (units_succ_le_two_mul hPos)
  have hHigh := hRounds.2.1
  -- the first point but zero is ten times a number above the magnitude, while the interval ends
  -- below twice the magnitude
  have hLarge : 10 * (10 ^ t * unitsOfOne) ≤ c * Nat.pow 10 (t + 1) * unitsOfOne := by
    rw [← Nat.mul_assoc, ← Nat.pow_succ']
    exact Nat.mul_le_mul_right _ (Nat.le_mul_of_pos_left _ (Nat.pos_of_ne_zero hPoint))
  rw [Nat.add_mul] at hHigh
  rw [Nat.mul_assoc] at hNext
  omega

/-- The shortest decimal is what is found on the coarsest grid with a point that reads back. -/
theorem exists_gridPoint?_shortest :
    ∃ t c, gridPoint? r t = some c ∧ shortest r = gridDecimal t c ∧
      ∀ u, t < u → ∀ c', ¬ Rounds (gridDecimal u c').value r := by
  obtain ⟨t, c, hPoint, hCoarsest, hNone⟩ := exists_gridPoint?_coarsest hPos
    (digits (units r * pointsOfOne / unitsOfOne)).length
  refine ⟨t, c, hPoint, by rw [shortest, if_neg hPos.ne', hCoarsest], fun u hu c' => ?_⟩
  -- a coarser grid has been tried without success or is beyond the first one that is tried
  rcases Nat.lt_or_ge (digits (units r * pointsOfOne / unitsOfOne)).length u with hLarge | hTried
  · exact not_rounds_gridDecimal hPos hLarge
  · exact not_rounds_of_gridPoint?_eq_none (hNone u hu hTried)

variable {d : Decimal} (hRounds : Rounds d.value r)
include hRounds

/-- No decimal that reads back has a larger exponent than the shortest one. -/
theorem exponent_le_shortest : d.exponent ≤ (shortest r).exponent := by
  obtain ⟨t, c, -, hShortest, hNone⟩ := exists_gridPoint?_shortest hPos
  rw [hShortest]
  change d.exponent ≤ t - 324
  by_contra hCoarser
  -- its grid would be one of the coarser ones, on which nothing reads back
  obtain ⟨u, hu⟩ := Int.eq_ofNat_of_zero_le (show 0 ≤ d.exponent + 324 by omega)
  refine hNone u (by omega) d.coefficient ?_
  rwa [gridDecimal, ← hu, add_sub_cancel_right]

/-- On its own grid no decimal is nearer than the shortest one. -/
theorem eq_or_isNearer_of_exponent_eq (h : d.exponent = (shortest r).exponent) :
    d = shortest r ∨ IsNearer (shortest r) d r := by
  obtain ⟨t, c, hPoint, hShortest, -⟩ := exists_gridPoint?_shortest hPos
  have hGrid : d = gridDecimal t d.coefficient := by
    rw [hShortest] at h
    rw [gridDecimal, ← show d.exponent = t - 324 from h]
  rw [hGrid] at hRounds
  rw [hShortest, hGrid]
  by_cases hSame : d.coefficient = c
  · exact Or.inl (by rw [hSame])
  · exact Or.inr (isNearer_of_gridPoint? hPoint hRounds hSame)

/-- Between decimals with their points at different places lies a power of ten, which is on a
coarser grid unless the larger one has one digit. -/
theorem length_eq_one_of_point_lt (h : d.point < (shortest r).point) :
    (digits (shortest r).coefficient).length = 1 ∧ Rounds (10 ^ (shortest r).exponent) r := by
  have hNonzero := Decimal.coefficient_ne_zero (rounds_shortest r) hPos
  -- the power of ten at the last decimal place of the shorter one lies between the two, so it
  -- reads back with them
  have hPower : Rounds (10 ^ ((shortest r).point - 1)) r := by
    refine hRounds.between (rounds_shortest r) ?_ (Decimal.le_value _ hNonzero)
    exact d.value_lt.le.trans (zpow_le_zpow_right₀ (by norm_num) (by omega))
  have hCoarser : (shortest r).point - 1 ≤ (shortest r).exponent := by
    refine exponent_le_shortest hPos (d := ⟨1, (shortest r).point - 1⟩) ?_
    rwa [Decimal.value, Nat.cast_one, one_mul]
  have hSome : 0 < (digits (shortest r).coefficient).length := Nat.length_toDigits_pos
  have hPoint : (shortest r).point =
      (digits (shortest r).coefficient).length + (shortest r).exponent := rfl
  -- the length is one because the exponent cannot be smaller than that of the power
  have hOne : (digits (shortest r).coefficient).length = 1 := by omega
  refine ⟨hOne, ?_⟩
  rwa [hPoint, hOne, Nat.cast_one, add_sub_cancel_left] at hPower

/-- No decimal that reads back has fewer digits than the shortest one. -/
theorem length_shortest_le :
    (digits (shortest r).coefficient).length ≤ (digits d.coefficient).length := by
  by_contra hFewer
  have hExponent := exponent_le_shortest hPos hRounds
  -- with fewer digits and no larger exponent its decimal point would be further left
  have hLower : d.point < (shortest r).point := by
    simp only [Decimal.point]
    omega
  have hSome : 0 < (digits d.coefficient).length := Nat.length_toDigits_pos
  have hOne := (length_eq_one_of_point_lt hPos hRounds hLower).1
  omega

end

/-- No digit can be dropped from the shortest decimal. -/
theorem coefficient_shortest_mod {r : Nat} (hPos : 0 < r) :
    (shortest r).coefficient % 10 ≠ 0 := by
  -- a zero at the end could be dropped, and the decimal would be on a coarser grid
  intro hZero
  obtain ⟨n, hn⟩ := Nat.dvd_of_mod_eq_zero hZero
  have hCoarser : Rounds (Decimal.value ⟨n, (shortest r).exponent + 1⟩) r := by
    rw [← Decimal.value_mul_ten, ← hn]
    exact rounds_shortest r
  have hExponent := exponent_le_shortest hPos hCoarser
  exact absurd hExponent (Int.not_le.mpr (Int.lt_succ _))

-- ---------------------------------------------------------------------------
-- Nearness
-- ---------------------------------------------------------------------------

/-- Only the intervals of the first few ranks hold nine tenths of a number that they hold. -/
theorem lt_ten_of_rounds {q : ℚ} {r : Nat} (hLow : Rounds (9 * q) r) (hHigh : Rounds (10 * q) r) :
    r < 10 := by
  by_contra hLarge
  have hNarrow := units_interval_lt (Nat.not_lt.mp hLarge)
  -- nine tenths of the upper end of the interval are already below its lower end
  have hNarrow' : (9 * (units r + units (r + 1)) : ℚ) < 10 * (units (r - 1) + units r) := by
    exact_mod_cast hNarrow
  have hFirst := hLow.low
  have hLast := hHigh.high
  generalize (unitsOfOne : ℚ) = one at *
  linarith

/-- A decimal of one digit on a finer grid is nine tenths of the coarser step at most. -/
theorem value_le_of_lt {d : Decimal} {e : Int} (hOne : (digits d.coefficient).length = 1)
    (h : d.exponent < e) : d.value ≤ 9 * 10 ^ (e - 1) := by
  have hDigit : d.coefficient ≤ 9 := by
    refine Nat.le_of_lt_succ ?_
    exact (Nat.length_toDigits_le_iff (k := 1) (by decide) (by decide)).mp hOne.le
  have hDigit' : (d.coefficient : ℚ) ≤ 9 := by exact_mod_cast hDigit
  have hPower : (10 : ℚ) ^ d.exponent ≤ 10 ^ (e - 1) :=
    zpow_le_zpow_right₀ (by norm_num) (by omega)
  exact mul_le_mul hDigit' hPower (zpow_nonneg (by norm_num) _) (by norm_num)

/-- Only one magnitude is shown as a power of ten nine tenths of which read back too. -/
theorem rank_eq_two {r : Nat} (hPos : 0 < r) (hOne : (digits (shortest r).coefficient).length = 1)
    (hPower : Rounds (10 ^ (shortest r).exponent) r)
    (hLess : Rounds (9 * 10 ^ ((shortest r).exponent - 1)) r) : r = 2 := by
  have hTen : (10 : ℚ) ^ (shortest r).exponent = 10 * 10 ^ ((shortest r).exponent - 1) := by
    rw [← zpow_one_add₀ (by norm_num), add_sub_cancel]
  have hSmall : r < 10 := lt_ten_of_rounds hLess (hTen ▸ hPower)
  -- nine ranks are left to look at, with the decimals that the search finds for them
  have hFew : ∀ r < 10, 0 < r → (digits (shortest r).coefficient).length = 1 →
      r = 1 ∧ (shortest r).exponent = -324 ∨ (shortest r).exponent = -323 := by
    decide +kernel
  -- `10 ^ (-324)` reads back as zero, so rank one is out; with `10 ^ (-323)` the nine tenths
  -- read back as rank two
  rcases hFew r hSmall hPos hOne with ⟨rfl, hExponent⟩ | hExponent
  · have hZero : readsBack 0 (1 * Nat.pow 10 0) = true := by decide +kernel
    rw [hExponent] at hPower
    have hSame := readsBack_grid_iff.mp hZero
    rw [value_eq_mul, Nat.cast_one, one_mul] at hSame
    exact absurd (hSame.unique hPower) (by decide)
  · have hNine : readsBack 2 (9 * Nat.pow 10 0) = true := by decide +kernel
    rw [hExponent] at hLess
    have hSame := readsBack_grid_iff.mp hNine
    rw [value_eq_mul] at hSame
    exact hLess.unique hSame

/-- The decimal on the finer grid is not the nearer one. -/
theorem isNearer_two {d : Decimal} (h : d.value ≤ (gridDecimal 0 9).value) :
    IsNearer (shortest 2) d 2 := by
  have hBelow : pointBelow 2 0 = 9 := by decide +kernel
  have hFar : ¬ IsNearBelow 2 0 := by
    rw [IsNearBelow]
    decide +kernel
  -- ten steps of the finest grid are one step of the next
  have hShortest : (shortest 2).value = (gridDecimal 0 10).value := by
    have hDecimal : shortest 2 = ⟨1, -324 + 1⟩ := by decide +kernel
    rw [hDecimal, ← Decimal.value_mul_ten]
    rfl
  obtain ⟨rest, hPlace, hRest, -, hNear⟩ := exists_place 2 0
  rw [hBelow] at hPlace
  -- the shortest decimal is the point above the magnitude, the other one is at most the point
  -- below
  have hUpper : distance (shortest 2) 2 = (gridDecimal 0 10).value - magnitude 2 := by
    rw [distance, hShortest]
    exact distance_of_lt (by rw [hBelow]; decide)
  have hLower : distance d 2 = magnitude 2 - d.value := by
    rw [distance, abs_sub_comm, abs_of_nonneg (by linarith only [hPlace, hRest, h])]
  have hValues : d.value < (shortest 2).value := by
    rw [hShortest]
    exact h.trans_lt (gridDecimal_lt (Nat.lt_succ_self 9))
  refine isNearer_of_le ?_ hValues
  rw [hUpper, hLower]
  have hTie := mt hNear.mpr hFar
  have hNext := value_succ 0 9
  -- the step is the same number on both sides and need not be computed
  generalize (10 : ℚ) ^ ((0 : Nat) - 324 : ℤ) = step at hTie hNext
  linarith only [h, hPlace, hTie, hNext]

/-- Of the decimals that read back and have as few digits, the shortest one is the nearest. -/
theorem eq_or_isNearer_shortest {d : Decimal} {r : Nat} (hPos : 0 < r) (hRounds : Rounds d.value r)
    (hLength : (digits d.coefficient).length = (digits (shortest r).coefficient).length) :
    d = shortest r ∨ IsNearer (shortest r) d r := by
  -- on its own grid it was compared with all others; on a finer grid both have a single digit,
  -- and that happens only for rank two
  rcases Int.lt_or_eq_of_le (exponent_le_shortest hPos hRounds) with hFiner | hSame
  · right
    have hLower : d.point < (shortest r).point := by
      rw [Decimal.point, Decimal.point, hLength]
      exact Int.add_lt_add_left hFiner _
    obtain ⟨hOne, hPower⟩ := length_eq_one_of_point_lt hPos hRounds hLower
    have hNine := value_le_of_lt (hLength.trans hOne) hFiner
    have hLess : Rounds (9 * 10 ^ ((shortest r).exponent - 1)) r := by
      refine hRounds.between hPower hNine ?_
      rw [← sub_add_cancel (shortest r).exponent 1, zpow_add_one₀ (by norm_num),
        sub_add_cancel, mul_comm]
      exact mul_le_mul_of_nonneg_left (by norm_num) (zpow_nonneg (by norm_num) _)
    obtain rfl := rank_eq_two hPos hOne hPower hLess
    refine isNearer_two (hNine.trans_eq ?_)
    have hExponent : (shortest 2).exponent = -323 := by decide +kernel
    rw [hExponent, value_eq_mul]
    rfl
  · exact eq_or_isNearer_of_exponent_eq hPos hRounds hSame

/-- **The shortest decimal.** No decimal that reads back has fewer digits than the shortest one, and
none that has as many is as near, unless it lies below as far as the shortest lies above. -/
theorem isShortest_shortest {r : Nat} (hPos : 0 < r) (hFinite : r < infinity) :
    (shortest r).IsShortest r where
  reads_back := rank_shortest hFinite
  fewest d h := length_shortest_le hPos (d.rounds_of_rank h hPos hFinite)
  nearest d h := eq_or_isNearer_shortest hPos (d.rounds_of_rank h hPos hFinite)

/-- At most one decimal is the shortest: of two such decimals each would be the nearer one. -/
theorem Decimal.IsShortest.unique {d d' : Decimal} {r : Nat} (h : d.IsShortest r)
    (h' : d'.IsShortest r) : d = d' := by
  have hLength := Nat.le_antisymm (h.fewest d' h'.reads_back) (h'.fewest d h.reads_back)
  rcases h.nearest d' h'.reads_back hLength.symm with hSame | hCloser
  · exact hSame.symm
  · rcases h'.nearest d h.reads_back hLength with hSame | hCloser'
    · exact hSame
    · exact absurd hCloser' hCloser.asymm

end PocketCalculator.Number
