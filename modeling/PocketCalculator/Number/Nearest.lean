import PocketCalculator.Number.Rank

/-!
# PocketCalculator — the nearest double

Rounding of a positive fraction to the nearest magnitude of a double. A fraction
halfway between two neighbours goes to the one of even rank; from half a step
above the largest finite magnitude on, it is infinity.
-/

namespace PocketCalculator.Number

/-- A quotient rounded to the nearest natural number, a half to the even one. -/
def roundHalfEven (num den : Nat) : Nat :=
  let whole := num / den
  let twice := 2 * (num % den)
  if twice < den ∨ twice = den ∧ whole % 2 = 0 then whole else whole + 1

/-- How many times the distance between the magnitudes around `num / den` is doubled. The
count of steps of that distance in `num / den` then has 53 binary digits, or fewer
where the distance is not doubled at all. -/
def spacing (num den : Nat) : Nat :=
  (num * unitsOfOne / den).log2 - 52

/-- The rank of the magnitude nearest to `num / den`. The ranks of one spacing follow
each other without a gap and run on into those of the next, so the rank is the
rounded count of steps, moved up by a stride for every doubling. -/
def nearest (num den : Nat) : Nat :=
  let s := spacing num den
  min (s * stride + roundHalfEven (num * unitsOfOne) (den * Nat.pow 2 s)) infinity

end PocketCalculator.Number
