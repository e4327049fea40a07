import Mathlib
import PocketCalculator.Number.Rank

/-!
# PocketCalculator — ranks and kinds of doubles

A double is determined by its sign and its rank. The stride divides a rank into its exponent
field and the rest, and all that a double is can be read off from these two: which kind it
has, and, if it is finite, how many steps of which size its magnitude is.

* `Number.unpack_eq` — a double by its sign and its rank.
* `Number.kind_of_rank` — the kinds, of which `Number.isNaN_iff_lt_rank` and
  `Number.isFinite_iff_rank_lt` tell two apart.
* `Number.ofRank_rank` — no two doubles share the sign and the rank.
-/

open Float.Model Float.Model.UnpackedFloat

namespace PocketCalculator.Number

/-- A rank leaves out the bit of the sign. -/
theorem rank_lt_signBit (v : Float) : rank v < signBit :=
  Nat.mod_lt _ (by decide)

-- ---------------------------------------------------------------------------
-- Doubles by sign and rank
-- ---------------------------------------------------------------------------

/-- How many steps a finite magnitude is, in the distance around it. -/
def significand (r : Nat) : Nat :=
  if r < stride then r else stride + r % stride

/-- The power of two that the distance around a finite magnitude is. -/
def exponent (r : Nat) : Int :=
  (r / stride - 1 : Nat) - 1074

/-- Only zero has no steps. -/
theorem significand_pos {r : Nat} (h : r ≠ 0) : 0 < significand r := by
  rw [significand]
  split
  · exact Nat.pos_of_ne_zero h
  · exact Nat.add_pos_left (by decide) _

def sign (negative : Bool) : Sign :=
  if negative then .negative else .positive

/-- What a double of some sign and rank is. -/
def unpacked (s : Sign) (r : Nat) : UnpackedFloat :=
  if infinity < r then .notANumber
  else if r = infinity then .infinity s
  else if h : r = 0 then .zero s
  else .finite s (significand r) (exponent r) (significand_pos h)

variable {r : Nat}

/-- With all bits of the exponent set, a double is infinite or not a number. -/
theorem unpacked_of_all (s : Sign) (h : r / stride = 2047) :
    unpacked s r = if r % stride = 0 then .infinity s else .notANumber := by
  have hSplit := Nat.div_add_mod' r stride
  rw [h] at hSplit
  by_cases hRest : r % stride = 0
  · rw [unpacked, if_neg (by rw [infinity]; omega), if_pos (by rw [infinity]; omega),
      if_pos hRest]
  · rw [unpacked, if_pos (by rw [infinity]; omega), if_neg hRest]

/-- With no bit of the exponent set, the rank itself counts the smallest steps. -/
theorem unpacked_of_lt (s : Sign) (h : r < stride) :
    unpacked s r =
      if h : r = 0 then .zero s else .finite s r (-1074) (Nat.pos_of_ne_zero h) := by
  have hFinite : r < infinity := Nat.lt_of_lt_of_le h (by decide)
  rw [unpacked, if_neg (Nat.lt_asymm hFinite), if_neg (Nat.ne_of_lt hFinite)]
  simp only [significand, exponent, if_pos h, Nat.div_eq_of_lt h]
  rfl

/-- With any other exponent a one stands in front of the bits of the rest. -/
theorem unpacked_of_le (s : Sign) (hLarge : stride ≤ r) (hFinite : r < infinity) :
    unpacked s r =
      .finite s (stride + r % stride) ((r / stride : Nat) - 1075)
        (Nat.add_pos_left (by decide) _) := by
  have hNonzero : r ≠ 0 := by
    rintro rfl
    exact absurd hLarge (by decide)
  -- the exponent field is not zero, so subtracting one from it does not stop at zero
  have hField : 1 ≤ r / stride := (Nat.one_le_div_iff (by decide)).mpr hLarge
  rw [unpacked, if_neg (Nat.lt_asymm hFinite), if_neg (Nat.ne_of_lt hFinite), dif_neg hNonzero]
  simp only [UnpackedFloat.finite.injEq, significand, exponent, if_neg (Nat.not_lt.mpr hLarge),
    true_and]
  omega

-- ---------------------------------------------------------------------------
-- Bit patterns
-- ---------------------------------------------------------------------------

variable (b : UInt64)

/-- The exponent field of a bit pattern is the quotient of its rank by the stride. -/
theorem toNat_unpackExponent :
    (@unpackExponent .binary64 b.toBitVec).toNat = b.toNat % signBit / stride := by
  show ((BitVec.extractLsb 62 52 b.toBitVec).cast _).toNat = _
  rw [BitVec.toNat_cast, BitVec.extractLsb_toNat, Nat.shiftRight_eq_div_pow,
    UInt64.toNat_toBitVec]
  show b.toNat / 2 ^ 52 % 2 ^ 11 = b.toNat % 2 ^ 63 / 2 ^ 52
  omega

/-- The other bits of a pattern are the remainder of its rank. -/
theorem toNat_unpackMantissa :
    (@unpackMantissa .binary64 b.toBitVec).toNat = b.toNat % signBit % stride := by
  show ((BitVec.extractLsb 51 0 b.toBitVec).cast _).toNat = _
  rw [BitVec.toNat_cast, BitVec.extractLsb_toNat, Nat.shiftRight_eq_div_pow,
    UInt64.toNat_toBitVec]
  show b.toNat / 2 ^ 0 % 2 ^ 52 = b.toNat % 2 ^ 63 % 2 ^ 52
  omega

/-- The sign of a bit pattern says whether it reaches the bit of the sign. -/
theorem ofBitVec_unpackSign :
    Sign.ofBitVec (@unpackSign .binary64 b.toBitVec) = sign (decide (signBit ≤ b.toNat)) := by
  have hBound := b.toNat_lt
  have hSign : (@unpackSign .binary64 b.toBitVec).toNat = b.toNat / signBit := by
    show ((BitVec.extractLsb 63 63 b.toBitVec).cast _).toNat = _
    rw [BitVec.toNat_cast, BitVec.extractLsb_toNat, Nat.shiftRight_eq_div_pow,
      UInt64.toNat_toBitVec]
    show b.toNat / 2 ^ 63 % 2 ^ 1 = b.toNat / 2 ^ 63
    omega
  have hPositive : @unpackSign .binary64 b.toBitVec = 0#1 ↔ b.toNat < signBit := by
    rw [← BitVec.toNat_inj, hSign]
    exact Nat.div_eq_zero_iff_lt (by decide)
  -- the bit of the sign is zero or one
  by_cases hLess : b.toNat < signBit
  · rw [Sign.ofBitVec, if_pos (hPositive.mpr hLess), decide_eq_false (Nat.not_le.mpr hLess)]
    rfl
  · rw [Sign.ofBitVec, if_neg (mt hPositive.mp hLess), decide_eq_true (Nat.not_lt.mp hLess)]
    rfl

/-- The first digit of a normal significand is not stored. -/
theorem first_digit_or {m : Nat} (h : m < stride) : (1#1).toNat <<< 52 ||| m = stride + m :=
  (Nat.two_pow_add_eq_or_of_lt (a := 1) h).symm

/-- A bit pattern by its sign bit and its rank. -/
theorem unpack_toBitVec :
    UnpackedFloat.unpack .binary64 b.toBitVec =
      unpacked (sign (decide (signBit ≤ b.toNat))) (b.toNat % signBit) := by
  have hExponent := toNat_unpackExponent b
  have hMantissa := toNat_unpackMantissa b
  have hRank : b.toNat % signBit < signBit := Nat.mod_lt _ (by decide)
  simp only [UnpackedFloat.unpack, ofBitVec_unpackSign, ← BitVec.toNat_inj, BitVec.toNat_append,
    hExponent, hMantissa]
  -- only that the rank is below the bit of the sign matters from here on
  generalize b.toNat % signBit = r at *
  generalize sign (decide (signBit ≤ b.toNat)) = s
  have hRest : r % stride < stride := Nat.mod_lt _ (by decide)
  -- the three cases of unpacking are those of the exponent field: all bits, none, and any other
  split
  · rename_i hAll
    rw [unpacked_of_all s hAll]
    rfl
  · rename_i hMissing
    split
    · rename_i hNone
      have hSmall : r < stride := (Nat.div_eq_zero_iff_lt (by decide)).mp hNone
      rw [unpacked_of_lt s hSmall]
      simp only [hNone, Nat.mod_eq_of_lt hSmall]
      rfl
    · rename_i hSome
      have hLarge : stride ≤ r := Nat.not_lt.mp fun hLess => hSome (Nat.div_eq_of_lt hLess)
      have hFinite : r < infinity := by
        change ¬ r / stride = 2047 at hMissing
        simp only [infinity, signBit, stride, Nat.pow_eq] at hRank hMissing ⊢
        omega
      rw [unpacked_of_le s hLarge hFinite]
      simp only [first_digit_or hRest]
      rfl

/-- A double by its sign and its rank. -/
theorem unpack_eq (v : Float) : v.toModel.unpack = unpacked (sign (isNegative v)) (rank v) :=
  unpack_toBitVec v.toBits

-- ---------------------------------------------------------------------------
-- Kinds
-- ---------------------------------------------------------------------------

variable (v : Float)

/-- The rank of a double tells its kind. -/
theorem kind_of_rank :
    (infinity < rank v ∧ v.isNaN = true ∧ v.isInf = false ∧ v.isFinite = false) ∨
      (rank v = infinity ∧ v.isNaN = false ∧ v.isInf = true ∧ v.isFinite = false) ∨
      (rank v < infinity ∧ v.isNaN = false ∧ v.isInf = false ∧ v.isFinite = true) := by
  have hNaN : v.isNaN = v.toModel.unpack.isNaN := rfl
  have hInf : v.isInf = v.toModel.unpack.isInf := rfl
  have hFinite : v.isFinite = v.toModel.unpack.isFinite := rfl
  rw [hNaN, hInf, hFinite, unpack_eq, unpacked]
  rcases Nat.lt_trichotomy (rank v) infinity with hLess | hSame | hMore
  · rw [if_neg (Nat.lt_asymm hLess), if_neg (Nat.ne_of_lt hLess)]
    split <;> exact Or.inr (Or.inr ⟨hLess, rfl, rfl, rfl⟩)
  · rw [if_neg (Nat.not_lt.mpr (Nat.le_of_eq hSame)), if_pos hSame]
    exact Or.inr (Or.inl ⟨hSame, rfl, rfl, rfl⟩)
  · rw [if_pos hMore]
    exact Or.inl ⟨hMore, rfl, rfl, rfl⟩

/-- Finite are the doubles of the ranks below infinity. -/
theorem isFinite_iff_rank_lt : v.isFinite = true ↔ rank v < infinity := by
  rcases kind_of_rank v with ⟨hRank, -, -, hKind⟩ | ⟨hRank, -, -, hKind⟩ | ⟨hRank, -, -, hKind⟩
  · simp [hKind, Nat.lt_asymm hRank]
  · simp [hKind, hRank]
  · simp [hKind, hRank]

/-- Not a number are the doubles of the ranks beyond infinity. -/
theorem isNaN_iff_lt_rank : v.isNaN = true ↔ infinity < rank v := by
  rcases kind_of_rank v with ⟨hRank, hKind, -⟩ | ⟨hRank, hKind, -⟩ | ⟨hRank, hKind, -⟩
  · simp only [hKind, hRank]
  · simp only [hKind, hRank, Nat.lt_irrefl, Bool.false_eq_true]
  · simp only [hKind, Nat.lt_asymm hRank, Bool.false_eq_true]

/-- A double has one kind. -/
theorem isNaN_isInf_of_isFinite {v : Float} (h : v.isFinite = true) :
    v.isNaN = false ∧ v.isInf = false := by
  rcases kind_of_rank v with ⟨-, -, -, hKind⟩ | ⟨-, -, -, hKind⟩ | ⟨-, hNaN, hInf, -⟩
  · simp [hKind] at h
  · simp [hKind] at h
  · exact ⟨hNaN, hInf⟩

-- ---------------------------------------------------------------------------
-- Doubles of given sign and rank
-- ---------------------------------------------------------------------------

/-- No two doubles share the sign and the rank. -/
theorem ofRank_rank : ofRank (isNegative v) (rank v) = v := by
  have hBound := v.toBits.toNat_lt
  -- what `isNegative` and `rank` split off is put together again
  have hBits : (if isNegative v then signBit + rank v else rank v) = v.toBits.toNat := by
    rw [isNegative, rank]
    split
    · rename_i hNegative
      have hLarge := of_decide_eq_true hNegative
      simp only [signBit, Nat.pow_eq] at hLarge ⊢
      omega
    · rename_i hPositive
      exact Nat.mod_eq_of_lt (Nat.not_le.mp (mt decide_eq_true hPositive))
  rw [ofRank, hBits, UInt64.ofNat_toNat, Float.ofBits_toBits]

end PocketCalculator.Number
