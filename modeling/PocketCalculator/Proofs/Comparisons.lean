import PocketCalculator.Proofs.Ranks

/-!
# PocketCalculator — comparing doubles

Doubles without the minus sign compare as their ranks do, infinity included: a larger rank
has a larger exponent, or the same exponent and a larger significand. So a condition on the
size of a double is one on its rank.

* `Number.compare_unpacked` — the order of doubles is that of their ranks.
* `Number.abs_eq` — the magnitude of a double.
* `Number.le_abs_iff`, `Number.abs_lt_iff`, `Number.beq_zero_iff` — conditions on magnitudes.
-/

open Float.Model Float.Model.UnpackedFloat

namespace PocketCalculator.Number

-- ---------------------------------------------------------------------------
-- The order of magnitudes
-- ---------------------------------------------------------------------------

/-- A rank by the exponent and the significand of its double. -/
theorem rank_eq_parts (r : Nat) : r = (r / stride - 1) * stride + significand r := by
  rw [significand]
  split
  · rename_i hSmall
    rw [Nat.div_eq_of_lt hSmall, Nat.zero_sub, Nat.zero_mul, Nat.zero_add]
  · simp only [stride, Nat.pow_eq] at *
    omega

/-- A larger rank has a larger exponent, or the same one and a larger significand. -/
theorem parts_lt {r r' : Nat} (h : r < r') :
    exponent r < exponent r' ∨ exponent r = exponent r' ∧ significand r < significand r' := by
  have hField : r / stride ≤ r' / stride := Nat.div_le_div_right (Nat.le_of_lt h)
  have hParts := rank_eq_parts r
  have hParts' := rank_eq_parts r'
  simp only [exponent]
  -- the two smallest exponent fields stand for the same exponent, so exponents are compared and
  -- not fields
  by_cases hSame : r / stride - 1 = r' / stride - 1
  · rw [hSame] at hParts ⊢
    exact Or.inr ⟨rfl, by omega⟩
  · exact Or.inl (by omega)

/-- Comparing exponents first and significands second is comparing ranks. -/
theorem compare_parts (r r' : Nat) :
    (compare (exponent r) (exponent r')).then (compare (significand r) (significand r')) =
      compare r r' := by
  rcases Nat.lt_trichotomy r r' with hLess | rfl | hMore
  · rw [Nat.compare_eq_lt.mpr hLess]
    rcases parts_lt hLess with hExponent | ⟨hExponent, hSignificand⟩
    · rw [Int.compare_eq_lt.mpr hExponent]
      rfl
    · rw [Int.compare_eq_eq.mpr hExponent, Nat.compare_eq_lt.mpr hSignificand]
      rfl
  · rw [Int.compare_eq_eq.mpr rfl, Nat.compare_eq_eq.mpr rfl, Nat.compare_eq_eq.mpr rfl]
    rfl
  · rw [Nat.compare_eq_gt.mpr hMore]
    rcases parts_lt hMore with hExponent | ⟨hExponent, hSignificand⟩
    · rw [Int.compare_eq_gt.mpr hExponent]
      rfl
    · rw [Int.compare_eq_eq.mpr hExponent.symm, Nat.compare_eq_gt.mpr hSignificand]
      rfl

/-- A rank up to that of infinity is infinite, zero or finite. -/
theorem unpacked_cases (s : Sign) {r : Nat} (h : r ≤ infinity) :
    (r = infinity ∧ unpacked s r = .infinity s) ∨ (r = 0 ∧ unpacked s r = .zero s) ∨
      (0 < r ∧ r < infinity ∧
        ∃ hPos, unpacked s r = .finite s (significand r) (exponent r) hPos) := by
  rw [unpacked, if_neg (Nat.not_lt.mpr h)]
  rcases Nat.lt_or_eq_of_le h with hFinite | hInfinite
  · rw [if_neg (Nat.ne_of_lt hFinite)]
    by_cases hZero : r = 0
    · exact Or.inr (Or.inl ⟨hZero, dif_pos hZero⟩)
    · exact Or.inr (Or.inr ⟨Nat.pos_of_ne_zero hZero, hFinite, significand_pos hZero,
        dif_neg hZero⟩)
  · exact Or.inl ⟨hInfinite, if_pos hInfinite⟩

/-- Doubles without the minus sign compare as their ranks do. -/
theorem compare_unpacked {r r' : Nat} (h : r ≤ infinity) (h' : r' ≤ infinity) :
    UnpackedFloat.compare (unpacked .positive r) (unpacked .positive r') =
      some (compare r r') := by
  -- nine pairs of kinds; only two finite ones need their parts compared
  rcases unpacked_cases .positive h with ⟨hr, hKind⟩ | ⟨hr, hKind⟩ | ⟨hr, hr', _, hKind⟩
  · rcases unpacked_cases .positive h' with ⟨hs, hOther⟩ | ⟨hs, hOther⟩ | ⟨hs, hs', _, hOther⟩
    · rw [hKind, hOther, Nat.compare_eq_eq.mpr (hr.trans hs.symm)]
      rfl
    · rw [hKind, hOther, Nat.compare_eq_gt.mpr (by rw [hr, hs]; decide)]
      rfl
    · rw [hKind, hOther, Nat.compare_eq_gt.mpr (hr ▸ hs')]
      rfl
  · rcases unpacked_cases .positive h' with ⟨hs, hOther⟩ | ⟨hs, hOther⟩ | ⟨hs, hs', _, hOther⟩
    · rw [hKind, hOther, Nat.compare_eq_lt.mpr (by rw [hr, hs]; decide)]
      rfl
    · rw [hKind, hOther, Nat.compare_eq_eq.mpr (hr.trans hs.symm)]
      rfl
    · rw [hKind, hOther, Nat.compare_eq_lt.mpr (hr ▸ hs)]
      rfl
  · rcases unpacked_cases .positive h' with ⟨hs, hOther⟩ | ⟨hs, hOther⟩ | ⟨hs, hs', _, hOther⟩
    · rw [hKind, hOther, Nat.compare_eq_lt.mpr (hs ▸ hr')]
      rfl
    · rw [hKind, hOther, Nat.compare_eq_gt.mpr (hs ▸ hr)]
      rfl
    · rw [hKind, hOther, ← compare_parts]
      rfl

-- ---------------------------------------------------------------------------
-- Magnitudes
-- ---------------------------------------------------------------------------

/-- The double of a bit pattern is what the pattern stands for. -/
theorem unpack_ofBits (b : UInt64) :
    (Float.ofBits b).toModel.unpack = UnpackedFloat.unpack .binary64 b.toBitVec := by
  show UnpackedFloat.unpack .binary64 (UnpackedFloat.pack .binary64 _) = _
  rw [pack_unpack]
  -- packing keeps every pattern but those that are not a number, of which it has one only
  split
  · rename_i hNaN
    obtain ⟨hExponent, hMantissa⟩ := of_decide_eq_true hNaN
    rw [unpack_packedNaN, UnpackedFloat.unpack]
    simp only [hExponent, if_pos, if_neg hMantissa]
  · rfl

/-- The pattern with a sign and a rank stands for that sign and rank. -/
theorem unpack_bits (negative : Bool) {r : Nat} (h : r < signBit) :
    UnpackedFloat.unpack .binary64
        (UInt64.ofNat (if negative then signBit + r else r)).toBitVec =
      unpacked (sign negative) r := by
  have hBound : signBit + r < UInt64.size := by
    simp only [signBit, UInt64.size, Nat.pow_eq] at h ⊢
    omega
  rw [unpack_toBitVec]
  cases negative with
  | false =>
    have hBits : (UInt64.ofNat r).toNat = r := UInt64.toNat_ofNat_of_lt' (by omega)
    rw [if_neg Bool.false_ne_true, hBits, Nat.mod_eq_of_lt h, decide_eq_false (Nat.not_le.mpr h)]
  | true =>
    have hBits : (UInt64.ofNat (signBit + r)).toNat = signBit + r :=
      UInt64.toNat_ofNat_of_lt' hBound
    rw [if_pos rfl, hBits, Nat.add_mod_left, Nat.mod_eq_of_lt h,
      decide_eq_true (Nat.le_add_right signBit r)]

theorem unpack_ofRank (negative : Bool) {r : Nat} (h : r < signBit) :
    (ofRank negative r).toModel.unpack = unpacked (sign negative) r := by
  rw [ofRank, unpack_ofBits, unpack_bits negative h]

/-- The magnitude of a double is the double of its rank without the minus sign. -/
theorem abs_eq (v : Float) : v.abs = ofRank false (rank v) := by
  -- taking the magnitude changes the sign only
  have hAbs : ∀ s r, (unpacked s r).abs = unpacked .positive r := by
    intro s r
    simp only [unpacked]
    split
    · rfl
    · split
      · rfl
      · split <;> rfl
  show Float.ofModel (Float.Model.pack v.toModel.unpack.abs) =
    Float.ofModel (Float.Model.pack (UnpackedFloat.unpack .binary64 _))
  rw [unpack_bits false (rank_lt_signBit v), unpack_eq, hAbs]
  rfl

-- ---------------------------------------------------------------------------
-- Conditions on magnitudes
-- ---------------------------------------------------------------------------

/-- What `≤` is by definition: not above, if the two can be compared at all. -/
theorem le_iff (x y : Float) :
    x ≤ y ↔ Option.any Ordering.isLE
      (UnpackedFloat.compare x.toModel.unpack y.toModel.unpack) = true :=
  decide_eq_true_iff

theorem lt_iff (x y : Float) :
    x < y ↔ (UnpackedFloat.compare x.toModel.unpack y.toModel.unpack == some .lt) = true :=
  decide_eq_true_iff

/-- Equal to zero are the two zeros. -/
theorem beq_zero_iff (v : Float) : (v == 0) = true ↔ rank v = 0 := by
  show (UnpackedFloat.compare v.toModel.unpack (.zero .positive) == some .eq) = true ↔ _
  rw [unpack_eq]
  -- what is not a number is equal to nothing, and its rank is not zero
  rcases Nat.lt_or_ge infinity (rank v) with hNaN | hNumber
  · have hNonzero : rank v ≠ 0 := Nat.ne_zero_of_lt hNaN
    rw [unpacked, if_pos hNaN]
    exact iff_of_false Bool.false_ne_true hNonzero
  · rcases unpacked_cases (sign (isNegative v)) hNumber with ⟨hr, hKind⟩ | ⟨hr, hKind⟩ |
      ⟨hr, -, _, hKind⟩
    · rw [hKind, hr]
      cases isNegative v <;> exact iff_of_false Bool.false_ne_true (by decide)
    · rw [hKind]
      exact iff_of_true rfl hr
    · rw [hKind]
      cases isNegative v <;> exact iff_of_false Bool.false_ne_true (Nat.ne_of_gt hr)

/-- Below zero is what carries the minus sign, but for zero and what is not a number. -/
theorem lt_zero_iff {v : Float} (h : rank v ≤ infinity) (hNonzero : rank v ≠ 0) :
    v < 0 ↔ isNegative v = true := by
  rw [lt_iff]
  show (UnpackedFloat.compare v.toModel.unpack (.zero .positive) == some .lt) = true ↔ _
  rw [unpack_eq]
  rcases unpacked_cases (sign (isNegative v)) h with ⟨-, hKind⟩ | ⟨hr, -⟩ | ⟨-, -, _, hKind⟩
  · rw [hKind]
    cases isNegative v <;> decide
  · exact absurd hr hNonzero
  · rw [hKind]
    cases isNegative v
    · exact iff_of_false Bool.false_ne_true Bool.false_ne_true
    · exact iff_of_true rfl rfl

section

variable {v w : Float} (hv : rank v ≤ infinity) (hw : rank w ≤ infinity)
  (hPositive : isNegative w = false)
include hv hw hPositive

/-- A double without the minus sign is at most a magnitude if its rank is. -/
theorem le_abs_iff : w ≤ v.abs ↔ rank w ≤ rank v := by
  rw [le_iff, abs_eq, unpack_ofRank false (rank_lt_signBit v), unpack_eq w, hPositive]
  show Option.any _ (UnpackedFloat.compare (unpacked .positive _) (unpacked .positive _)) = true ↔ _
  rw [compare_unpacked hw hv]
  exact Nat.isLE_compare

/-- A magnitude is below a double without the minus sign if its rank is. -/
theorem abs_lt_iff : v.abs < w ↔ rank v < rank w := by
  rw [lt_iff, abs_eq, unpack_ofRank false (rank_lt_signBit v), unpack_eq w, hPositive]
  show (UnpackedFloat.compare (unpacked .positive _) (unpacked .positive _) == _) = true ↔ _
  rw [compare_unpacked hv hw, beq_iff_eq, Option.some.injEq]
  exact Nat.compare_eq_lt

end

end PocketCalculator.Number
