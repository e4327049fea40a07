import PocketCalculator.Number.Nearest

/-!
# PocketCalculator — decimals

A decimal is a natural number times a power of ten. Its rank is that of the
nearest double.
-/

namespace PocketCalculator.Number

/-- The number `coefficient · 10 ^ exponent`. -/
structure Decimal where
  coefficient : Nat
  exponent : Int
  deriving DecidableEq

/-- The decimal digits of a natural number, highest first. -/
def digits (n : Nat) : List Char :=
  Nat.toDigits 10 n

namespace Decimal

/-- The place of the decimal point after the first digit of the coefficient: the
decimal is at least `10 ^ (point - 1)` and below `10 ^ point`. -/
def point (d : Decimal) : Int :=
  (digits d.coefficient).length + d.exponent

/-- The rank of the double nearest to a decimal. From `10^310` on every decimal is
infinity and below `10^-330` every decimal is zero, so that no large power of
ten is computed for them. -/
def rank (d : Decimal) : Nat :=
  if d.coefficient = 0 then 0
  else if 310 < d.point then infinity
  else if d.point < -330 then 0
  else nearest (d.coefficient * Nat.pow 10 d.exponent.toNat) (Nat.pow 10 (-d.exponent).toNat)

end Decimal

end PocketCalculator.Number
