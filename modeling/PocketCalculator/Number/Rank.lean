/-!
# PocketCalculator — ranks of doubles

A double is a sign and a magnitude. The magnitudes, from zero through the
subnormal and the normal numbers to infinity, are listed in increasing order and
each is known by its place in that list, its *rank*. The rank is the bit pattern
without the sign bit, so ranks compare as magnitudes do and the neighbours of a
magnitude are one rank away. Ranks beyond infinity are not numbers.

`units` says how large the magnitude of a rank is, in the smallest subnormal
number as the unit, which measures every finite double exactly.
-/

namespace PocketCalculator.Number

-- ---------------------------------------------------------------------------
-- The list of magnitudes
-- ---------------------------------------------------------------------------

/-- How many ranks follow each other before the distance between neighbours doubles:
`2 ^ 52`. -/
def stride : Nat := Nat.pow 2 52

/-- How many units there are in the number one: `2 ^ 1074`. -/
def unitsOfOne : Nat := Nat.pow 2 1074

def infinity : Nat := 2047 * stride

/-- The rank of the quiet value that is not a number. -/
def notANumber : Nat := infinity + stride / 2

/-- How many units the magnitude of a rank has. Neighbours of the first two strides are
one unit apart; with each further stride the distance doubles. -/
def units (rank : Nat) : Nat :=
  if rank < stride then rank
  else (stride + rank % stride) * Nat.pow 2 (rank / stride - 1)

theorem units_of_lt {rank : Nat} (h : rank < stride) : units rank = rank :=
  if_pos h

-- ---------------------------------------------------------------------------
-- Signs and ranks of doubles
-- ---------------------------------------------------------------------------

/-- What the minus sign adds to a bit pattern: `2 ^ 63`. -/
def signBit : Nat := Nat.pow 2 63

/-- The rank of a double's magnitude. -/
def rank (v : Float) : Nat :=
  v.toBits.toNat % signBit

/-- Whether a double carries the minus sign; negative zero does. -/
def isNegative (v : Float) : Bool :=
  decide (signBit ≤ v.toBits.toNat)

/-- The double with a given sign and rank. -/
def ofRank (negative : Bool) (rank : Nat) : Float :=
  .ofBits (.ofNat (if negative then signBit + rank else rank))

end PocketCalculator.Number
