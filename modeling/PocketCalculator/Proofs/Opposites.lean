import Mathlib
import PocketCalculator.Operator

/-!
# PocketCalculator — numbers of opposite sign

A product or a quotient takes its sign from the signs of its operands and its magnitude from
their magnitudes, and rounding does not see the sign. So two numbers that differ in the
sign only still do when both are multiplied or divided by the same number.

Zero needs care: `0 - 0` is `0`, not `-0`, so subtracting a zero from zero need not change
its sign. Numbers are therefore called opposites if they differ in the sign or are both
zero. Which sign a zero has no longer shows once it is subtracted from zero again.

* `unpack_pack_neg` — rounding does not see the sign.
* `Opposite.apply` — products and quotients keep opposites.
* `Opposite.zero_sub` — opposites subtracted from zero.
-/

namespace PocketCalculator

open Float.Model Float.Model.UnpackedFloat

-- ---------------------------------------------------------------------------
-- Signs and rounding
-- ---------------------------------------------------------------------------

/-- Packing the opposite sign packs the opposite number: the sign has a field of its own. -/
theorem unpack_packComponents_neg (s : Sign) (exponent mantissa) :
    UnpackedFloat.unpack .binary64 (packComponents .binary64 (-s) exponent mantissa) =
      (UnpackedFloat.unpack .binary64 (packComponents .binary64 s exponent mantissa)).neg := by
  simp only [UnpackedFloat.unpack, unpackMantissa_packComponents, unpackExponent_packComponents,
    unpackSign_packComponents, Sign.ofBitVec_toBitVec]
  split
  · split <;> rfl
  · split
    · split <;> rfl
    · rfl

theorem unpack_pack_notANumber : (Float.Model.pack .notANumber).unpack = .notANumber :=
  unpack_packedNaN

theorem unpack_pack_zero (s : Sign) : (Float.Model.pack (.zero s)).unpack = .zero s :=
  unpack_packedZero

/-- Packing what was unpacked changes nothing. -/
theorem unpack_pack_unpack (x : Float.Model) : (Float.Model.pack x.unpack).unpack = x.unpack :=
  congrArg (UnpackedFloat.unpack .binary64) (pack_unpack_of_valid x.valid)

/-- Rounding does not see the sign. -/
theorem unpack_pack_neg (u : UnpackedFloat) :
    (Float.Model.pack u.neg).unpack = (Float.Model.pack u).unpack.neg := by
  cases u with
  | notANumber =>
    rw [UnpackedFloat.neg, unpack_pack_notANumber]
    rfl
  | infinity s | zero s => exact unpack_packComponents_neg s _ _
  | finite s m e h =>
    -- a finite number overflows, or is packed with its rounded significand; neither looks at
    -- the sign
    simp only [Float.Model.pack, Float.Model.unpack, UnpackedFloat.neg, UnpackedFloat.pack]
    split
    · exact unpack_packComponents_neg s _ _
    · split <;> exact unpack_packComponents_neg s _ _

theorem roundWithAccuracy_neg (s : Sign) (m : Nat) (e : Int) (a : Accuracy) :
    roundWithAccuracy .binary64 (-s) m e a = (roundWithAccuracy .binary64 s m e a).neg := by
  simp only [roundWithAccuracy]
  split <;> rfl

theorem sign_neg_mul (s t : Sign) : -s * t = -(s * t) := by
  cases s <;> cases t <;> rfl

theorem sign_neg_div (s t : Sign) : -s / t = -(s / t) := by
  cases s <;> cases t <;> rfl

/-- The opposite of an operand has the opposite product. -/
theorem unpacked_neg_mul (u w : UnpackedFloat) :
    UnpackedFloat.mul .binary64 u.neg w = (UnpackedFloat.mul .binary64 u w).neg := by
  cases u <;> cases w <;>
    simp only [UnpackedFloat.neg, UnpackedFloat.mul, sign_neg_mul, roundWithAccuracy_neg]

theorem unpacked_neg_div (u w : UnpackedFloat) :
    UnpackedFloat.div .binary64 u.neg w = (UnpackedFloat.div .binary64 u w).neg := by
  cases u <;> cases w <;>
    simp only [UnpackedFloat.neg, UnpackedFloat.div, sign_neg_div, roundWithAccuracy_neg]

-- ---------------------------------------------------------------------------
-- Opposites
-- ---------------------------------------------------------------------------

/-- Whether two numbers differ in the sign only. Two zeros count as opposites whatever their
signs are. -/
def Opposite (x y : Float) : Prop :=
  y.toModel.unpack = x.toModel.unpack.neg ∨
    ∃ s t, x.toModel.unpack = .zero s ∧ y.toModel.unpack = .zero t

namespace Opposite

variable {x y : Float}

/-- Opposites times the same number are opposites. -/
theorem mul (h : Opposite x y) (z : Float) : Opposite (x * z) (y * z) := by
  show Opposite
    ⟨Float.Model.pack (UnpackedFloat.mul .binary64 x.toModel.unpack z.toModel.unpack)⟩
    ⟨Float.Model.pack (UnpackedFloat.mul .binary64 y.toModel.unpack z.toModel.unpack)⟩
  rcases h with h | ⟨s, t, hx, hy⟩
  · left
    rw [h, unpacked_neg_mul, unpack_pack_neg]
  · rw [hx, hy]
    -- zeros times a finite number are zeros again, and times any other number they are no
    -- number
    cases z.toModel.unpack with
    | zero _ | finite _ => exact Or.inr ⟨_, _, unpack_pack_zero _, unpack_pack_zero _⟩
    | infinity _ | notANumber => exact Or.inl (unpack_pack_neg .notANumber)

/-- Opposites divided by the same number are opposites. -/
theorem div (h : Opposite x y) (z : Float) : Opposite (x / z) (y / z) := by
  show Opposite
    ⟨Float.Model.pack (UnpackedFloat.div .binary64 x.toModel.unpack z.toModel.unpack)⟩
    ⟨Float.Model.pack (UnpackedFloat.div .binary64 y.toModel.unpack z.toModel.unpack)⟩
  rcases h with h | ⟨s, t, hx, hy⟩
  · left
    rw [h, unpacked_neg_div, unpack_pack_neg]
  · rw [hx, hy]
    -- zeros divided by any number but zero are zeros again
    cases z.toModel.unpack with
    | infinity _ | finite _ => exact Or.inr ⟨_, _, unpack_pack_zero _, unpack_pack_zero _⟩
    | zero _ | notANumber => exact Or.inl (unpack_pack_neg .notANumber)

/-- The tight operators keep opposites. -/
theorem apply (h : Opposite x y) {op : Operator} (tight : op = .multiply ∨ op = .divide)
    (z : Float) : Opposite (op.apply x z) (op.apply y z) := by
  rcases tight with rfl | rfl
  · exact h.mul z
  · exact h.div z

end Opposite

-- ---------------------------------------------------------------------------
-- Subtraction from zero
-- ---------------------------------------------------------------------------

/-- Zero less a number is its opposite, except that zero less a zero is zero without the minus
sign. -/
theorem unpacked_zero_sub_cases (u : UnpackedFloat) :
    UnpackedFloat.sub .binary64 (.zero .positive) u = u.neg ∨
      UnpackedFloat.sub .binary64 (.zero .positive) u = .zero .positive ∧ ∃ s, u = .zero s := by
  cases u with
  | zero s => cases s <;> exact Or.inr ⟨rfl, _, rfl⟩
  | notANumber | infinity _ | finite _ => exact Or.inl rfl

/-- Packing keeps a difference from zero as it is. -/
theorem unpack_zero_sub (x : Float) :
    (0 - x).toModel.unpack =
      UnpackedFloat.sub .binary64 (.zero .positive) x.toModel.unpack := by
  show (Float.Model.pack (UnpackedFloat.sub .binary64 (.zero .positive) _)).unpack = _
  rcases unpacked_zero_sub_cases x.toModel.unpack with hNeg | ⟨hZero, -⟩
  · rw [hNeg, unpack_pack_neg, unpack_pack_unpack]
  · rw [hZero, unpack_pack_zero]

/-- A number and zero less it are opposites. -/
theorem opposite_zero_sub (x : Float) : Opposite x (0 - x) := by
  rw [Opposite, unpack_zero_sub]
  rcases unpacked_zero_sub_cases x.toModel.unpack with hNeg | ⟨hZero, s, hx⟩
  · exact Or.inl hNeg
  · exact Or.inr ⟨s, .positive, hx, hZero⟩

/-- Which opposite of a number is taken no longer shows once it is subtracted from zero. -/
theorem Opposite.zero_sub {x y : Float} (h : Opposite x y) : 0 - y = 0 - (0 - x) := by
  show Float.ofModel (Float.Model.pack (UnpackedFloat.sub .binary64 (.zero .positive) _)) =
    ⟨Float.Model.pack (UnpackedFloat.sub .binary64 (.zero .positive) (0 - x).toModel.unpack)⟩
  rw [unpack_zero_sub]
  rcases h with h | ⟨s, t, hx, hy⟩
  · rw [h]
    cases x.toModel.unpack with
    | zero s => cases s <;> rfl
    | notANumber | infinity _ | finite _ => rfl
  · rw [hx, hy]
    cases s <;> cases t <;> rfl

end PocketCalculator
