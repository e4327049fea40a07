import PocketCalculator.Number.Decimal

/-!
# PocketCalculator — the shortest decimal

The decimal that a magnitude is shown as: of all decimals that read back as the
same double, one with the fewest digits, and of these the nearest.

The decimals that read back form an interval between the midpoints to the two
neighbours, whose ends belong to it exactly when the rank is even. The multiples
of one power of ten form a grid. The grids are tried from the coarsest to the
finest, and on each the two points around the magnitude: if any point of the grid
lies in the interval, so does one of these two. A point of the first grid with a
hit has the fewest digits, and no trailing zero, since it would otherwise lie on
the grid before.

The finest grid is that of `10 ^ -324`, which no interval is narrower than. A
number of its points and a number of units are compared by multiplying each with
the size of the other in the number one.
-/

namespace PocketCalculator.Number

/-- How many points of the finest grid there are in the number one: `10 ^ 324`. -/
def pointsOfOne : Nat := Nat.pow 10 324

/-- Whether a number of points of the finest grid reads back as the magnitude of a
rank. -/
def readsBack (rank points : Nat) : Bool :=
  -- everything is doubled, so that the midpoints are whole numbers
  let low := (units (rank - 1) + units rank) * pointsOfOne
  let high := (units rank + units (rank + 1)) * pointsOfOne
  let twice := 2 * points * unitsOfOne
  if rank % 2 = 0 then decide (low ≤ twice ∧ twice ≤ high)
  else decide (low < twice ∧ twice < high)

/-- The multiple of `10 ^ t` points that reads back as the magnitude of a rank, without
the factor. Of two such multiples around the magnitude it is the nearer, and the
upper one if both are equally near. -/
def gridPoint? (rank t : Nat) : Option Nat :=
  let step := Nat.pow 10 t * unitsOfOne
  let place := units rank * pointsOfOne
  let below := place / step
  match readsBack rank (below * Nat.pow 10 t), readsBack rank ((below + 1) * Nat.pow 10 t) with
  | true, true => some (if 2 * (place % step) < step then below else below + 1)
  | true, false => some below
  | false, true => some (below + 1)
  | false, false => none

/-- The decimal of the coarsest grid with a point that reads back, of those of `10 ^ t`
points or fewer. -/
def coarsest (rank : Nat) : Nat → Decimal
  | 0 => ⟨(gridPoint? rank 0).getD 0, -324⟩
  | t + 1 =>
    match gridPoint? rank (t + 1) with
    | some c => ⟨c, (t + 1 : Nat) - 324⟩
    | none => coarsest rank t

/-- The shortest decimal that reads back as the magnitude of a finite rank. No grid
coarser than the first power of ten above the magnitude needs trying. -/
def shortest (rank : Nat) : Decimal :=
  if rank = 0 then ⟨0, 0⟩
  else coarsest rank (digits (units rank * pointsOfOne / unitsOfOne)).length

end PocketCalculator.Number
