import PocketCalculator.Proofs.FewestDigits
import PocketCalculator.Proofs.Redisplay

/-!
# PocketCalculator — the layout of results

Whether a result has an exponent is decided by comparing it, and what is seen are the digits of
its shortest decimal. Both agree: rounding keeps the order, so magnitudes are in the order of
the decimals that they are shown as, and the two thresholds are shown as powers of ten. A decimal
reaches a power of ten if its point stands far enough to the right.

* `Number.value_shortest_strictMono` — the order of the shortest decimals.
* `isPlain_iff_point` — the results without an exponent, by their digits.
* `Number.exists_expansion` — plain texts have the zeros that they need and no others.
* `displayText_layout` — the text of every finite result other than zero.
-/

namespace PocketCalculator

namespace Number

-- ---------------------------------------------------------------------------
-- Thresholds
-- ---------------------------------------------------------------------------

/-- Magnitudes are in the order of the decimals that they are shown as. -/
theorem value_shortest_strictMono : StrictMono fun r => (shortest r).value := by
  intro r r' hLess
  by_contra hOrder
  exact Nat.not_le.mpr hLess ((rounds_shortest r').le_of_le (rounds_shortest r) (not_lt.mp hOrder))

/-- A decimal reaches a power of ten if its first digit stands for that power or a
larger one. -/
theorem Decimal.pow_le_value_iff {d : Decimal} (h : d.coefficient ≠ 0) {k : Int} :
    10 ^ k ≤ d.value ↔ k ≤ d.point - 1 := by
  constructor
  · intro hReached
    by_contra hLess
    have hBound : d.value < 10 ^ k :=
      d.value_lt.trans_le (zpow_le_zpow_right₀ (by norm_num) (by omega))
    exact absurd hReached (not_le.mpr hBound)
  · intro hPlace
    exact (zpow_le_zpow_right₀ (by norm_num) hPlace).trans (d.le_value h)

/-- The thresholds between the two ways to display, as numbers and as places of the
first digit. -/
theorem Decimal.between_thresholds_iff {d : Decimal} (h : d.coefficient ≠ 0) :
    1 / 1000 ≤ d.value ∧ d.value < 10000000 ↔ -3 ≤ d.point - 1 ∧ d.point - 1 ≤ 6 := by
  have hFrom : (10 : ℚ) ^ (-3 : ℤ) = 1 / 1000 := by norm_num
  have hBelow : (10 : ℚ) ^ (7 : ℤ) = 10000000 := by norm_num
  rw [← hFrom, ← hBelow, ← not_le, pow_le_value_iff h, pow_le_value_iff h]
  omega

/-- Whether a magnitude reaches one that is shown as a power of ten can be told from the digits. -/
theorem le_iff_of_shortest_eq {r r' : Nat} {k : Int} (hShortest : shortest r' = ⟨1, k⟩)
    (hPos : 0 < r) : r' ≤ r ↔ k ≤ (shortest r).point - 1 := by
  rw [← value_shortest_strictMono.le_iff_le]
  simp only [hShortest, Decimal.value, Nat.cast_one, one_mul]
  exact Decimal.pow_le_value_iff (Decimal.coefficient_ne_zero (rounds_shortest r) hPos)

end Number

/-- The results that are displayed without an exponent are those whose first digit stands at
most three places behind the point and at most seven in front of it. -/
theorem isPlain_iff_point {r : Nat} (hPos : 0 < r) :
    displayLayout.isPlain r = true ↔
      -3 ≤ (Number.shortest r).point - 1 ∧ (Number.shortest r).point - 1 ≤ 6 := by
  have hFrom : Number.shortest displayLayout.plainFrom = ⟨1, -3⟩ := by
    decide +kernel
  have hBelow : Number.shortest displayLayout.plainBelow = ⟨1, 7⟩ := by
    decide +kernel
  rw [Number.Layout.isPlain, decide_eq_true_iff, or_iff_right hPos.ne', ← Nat.not_le,
    Number.le_iff_of_shortest_eq hFrom hPos, Number.le_iff_of_shortest_eq hBelow hPos]
  omega

namespace Number

-- ---------------------------------------------------------------------------
-- Plain expansions
-- ---------------------------------------------------------------------------

/-- The two sides of the point in the plain expansion of digits, the first of which stands for the
power `e` of ten: zeros fill up the digits to the point and nothing else. -/
structure IsExpansion (ds : List Char) (e : Int) (whole fraction : List Char) : Prop where
  digits : ∀ c ∈ whole ++ fraction, c.isDigit = true
  whole_ne_nil : whole ≠ []
  fraction_ne_nil : fraction ≠ []
  place : ∃ m n, whole ++ fraction = List.replicate m '0' ++ ds ++ List.replicate n '0' ∧
    (whole.length : ℤ) = m + (e + 1)
  no_leading_zero : whole.head? = some '0' → whole = ['0']
  no_trailing_zero : fraction.getLast? = some '0' → fraction = ['0']

section

variable {ds : List Char} (hDigits : ∀ c ∈ ds, c.isDigit = true) (hSome : ds ≠ [])
include hDigits hSome

/-- Digits all of which stand in front of the point are filled up with zeros, and one stands
behind it. -/
theorem isExpansion_behind (hFirst : ds.head? ≠ some '0') {p : Nat} (hBehind : ds.length ≤ p) :
    IsExpansion ds (p - 1) (ds ++ List.replicate (p - ds.length) '0') ['0'] where
  digits := List.forall_mem_append.mpr ⟨List.forall_mem_append.mpr
    ⟨hDigits, fun _ => isDigit_of_mem_zeros⟩, fun _ => isDigit_of_mem_zeros (n := 1)⟩
  whole_ne_nil := List.append_ne_nil_of_left_ne_nil hSome _
  fraction_ne_nil := List.cons_ne_nil _ _
  place := by
    refine ⟨0, p - ds.length + 1, by simp [List.replicate_succ'], ?_⟩
    rw [List.length_append, List.length_replicate]
    omega
  no_leading_zero h := by
    rw [List.head?_append_of_ne_nil _ hSome] at h
    exact absurd h hFirst
  no_trailing_zero _ := rfl

/-- Digits all of which stand behind the point have zeros in front of them, and one in front of
the point. -/
theorem isExpansion_before (hLast : ds.getLast? ≠ some '0') (p : Nat) :
    IsExpansion ds (-p - 1) ['0'] (List.replicate p '0' ++ ds) where
  digits := List.forall_mem_append.mpr ⟨fun _ => isDigit_of_mem_zeros (n := 1),
    List.forall_mem_append.mpr ⟨fun _ => isDigit_of_mem_zeros, hDigits⟩⟩
  whole_ne_nil := List.cons_ne_nil _ _
  fraction_ne_nil := List.append_ne_nil_of_right_ne_nil _ hSome
  place := by
    refine ⟨p + 1, 0, by simp [List.replicate_succ], ?_⟩
    rw [List.length_singleton]
    omega
  no_leading_zero _ := rfl
  no_trailing_zero h := by
    rw [List.getLast?_append_of_ne_nil _ hSome] at h
    exact absurd h hLast

variable (hFirst : ds.head? ≠ some '0') (hLast : ds.getLast? ≠ some '0')
include hFirst hLast

/-- With digits on both sides no zeros are needed. -/
theorem isExpansion_inside {p : Nat} (hPos : p ≠ 0) (hInside : p < ds.length) :
    IsExpansion ds (p - 1) (ds.take p) (ds.drop p) where
  digits := by rwa [List.take_append_drop]
  whole_ne_nil := by
    rw [Ne, List.take_eq_nil_iff, not_or]
    exact ⟨hPos, hSome⟩
  fraction_ne_nil := by simpa using hInside
  place := by
    refine ⟨0, 0, by simp, ?_⟩
    rw [List.length_take_of_le hInside.le]
    omega
  no_leading_zero h := by
    rw [List.head?_take, if_neg hPos] at h
    exact absurd h hFirst
  no_trailing_zero h := by
    rw [List.getLast?_drop, if_neg (Nat.not_le.mpr hInside)] at h
    exact absurd h hLast

/-- A plain text is an expansion of its digits. -/
theorem exists_expansion (point : Int) :
    ∃ whole fraction, (plainText ds point).toList = whole ++ '.' :: fraction ∧
      IsExpansion ds (point - 1) whole fraction := by
  -- the expansion is one of the three above, by where the point stands
  rcases Int.lt_or_le 0 point with hPos | hNeg
  · obtain ⟨p, rfl⟩ := Int.eq_ofNat_of_zero_le hPos.le
    rcases Nat.lt_or_ge p ds.length with hInside | hBehind
    · exact ⟨_, _, toList_plainText_inside (Int.natCast_pos.mp hPos) hInside,
        isExpansion_inside hDigits hSome hFirst hLast (by omega) hInside⟩
    · exact ⟨_, _, toList_plainText_behind hSome hBehind,
        isExpansion_behind hDigits hSome hFirst hBehind⟩
  · obtain ⟨p, hp⟩ := Int.eq_ofNat_of_zero_le (Int.neg_nonneg_of_nonpos hNeg)
    obtain rfl : point = -(p : Int) := by
      omega
    exact ⟨_, _, toList_plainText_before hSome p, isExpansion_before hDigits hSome hLast p⟩

end

end Number

-- ---------------------------------------------------------------------------
-- Results
-- ---------------------------------------------------------------------------

section

variable {r : Nat} (hPos : 0 < r)
include hPos

/-- The digits of a shortest decimal neither begin nor end with a zero. -/
theorem Number.exists_digits_shortest :
    ∃ first others, Number.digits (Number.shortest r).coefficient = first :: others ∧
      first ≠ '0' ∧ (first :: others).getLast? ≠ some '0' := by
  have hFirst := Number.head?_digits_ne (Number.Decimal.coefficient_ne_zero
    (Number.rounds_shortest r) hPos)
  have hLast := Number.getLast?_digits_ne (Number.coefficient_shortest_mod hPos)
  cases hSplit : Number.digits (Number.shortest r).coefficient with
  | nil => exact absurd hSplit (Number.digits_ne_nil _)
  | cons first others =>
    rw [hSplit] at hFirst hLast
    exact ⟨first, others, rfl, fun hZero => hFirst (congrArg some hZero), hLast⟩

/-- The text of a magnitude by its digits: an expansion of them, or the first one, the point,
the others and the exponent. -/
theorem magnitudeText_layout (hFinite : r < Number.infinity) {first : Char} {others : List Char}
    (hSplit : Number.digits (Number.shortest r).coefficient = first :: others)
    (hFirst : first ≠ '0') (hLast : (first :: others).getLast? ≠ some '0') {e : Int}
    (he : e = (Number.shortest r).point - 1) :
    if -3 ≤ e ∧ e ≤ 6 then
      ∃ whole fraction, (displayLayout.magnitudeText r).toList = whole ++ '.' :: fraction ∧
        Number.IsExpansion (first :: others) e whole fraction
    else
      (displayLayout.magnitudeText r).toList =
        first :: '.' :: (if others = [] then ['0'] else others) ++ 'E' :: (toString e).toList := by
  have hDigits : ∀ c ∈ first :: others, c.isDigit = true := by
    rw [← hSplit]
    exact fun c => Number.isDigit_of_mem_digits
  have hPlain := isPlain_iff_point hPos
  rw [← he] at hPlain
  split
  · rename_i hPlace
    rw [Number.Layout.magnitudeText_of_isPlain (hPlain.mpr hPlace) hFinite, hSplit, he]
    exact Number.exists_expansion hDigits (List.cons_ne_nil _ _)
      (fun hZero => hFirst (Option.some.inj hZero)) hLast _
  · rename_i hPlace
    rw [Number.Layout.magnitudeText_of_not_isPlain (mt hPlain.mp hPlace) hFinite, hSplit, he]
    exact toList_scientificText first others _

end

/-- **The layout of results.** A finite result other than zero is displayed by the digits of its
shortest decimal: without an exponent if the first of them stands for a power of ten from `-3` to
`6`, and with this power as the exponent if not. Comparing the result with a thousandth and with ten
million decides the same. -/
theorem displayText_layout {v : Float} (hFinite : v.isFinite = true) (hNonzero : (v == 0) = false) :
    ∃ (d : Number.Decimal) (first : Char) (others : List Char) (e : Int) (text : String),
      (d.IsShortest (Number.rank v) ∧
        ∀ d' : Number.Decimal, d'.IsShortest (Number.rank v) → d' = d) ∧
      (Number.digits d.coefficient = first :: others ∧ d.exponent = e - others.length) ∧
      (first ≠ '0' ∧ (first :: others).getLast? ≠ some '0') ∧
      (0.001 ≤ v.abs ∧ v.abs < 10000000 ↔ -3 ≤ e ∧ e ≤ 6) ∧
      (1 / 1000 ≤ d.value ∧ d.value < 10000000 ↔ -3 ≤ e ∧ e ≤ 6) ∧
      displayText v = (if v < 0 then "-" else "") ++ text ∧
      (∃ d', Number.decimal? text.toList = some d' ∧ d'.value = d.value) ∧
      if -3 ≤ e ∧ e ≤ 6 then
        ∃ whole fraction, text.toList = whole ++ '.' :: fraction ∧
          Number.IsExpansion (first :: others) e whole fraction
      else
        text.toList = first :: '.' :: (if others = [] then ['0'] else others) ++
          'E' :: (toString e).toList := by
  -- `e` is the power of ten that the first digit of the shortest decimal stands for
  have hRank : Number.rank v < Number.infinity := (Number.isFinite_iff_rank_lt v).mp hFinite
  have hSome : Number.rank v ≠ 0 := by
    rwa [Ne, ← Number.beq_zero_iff, Bool.not_eq_true]
  have hPos := Nat.pos_of_ne_zero hSome
  have hShortest := Number.isShortest_shortest hPos hRank
  have hCompare := (isPlain_iff (Nat.le_of_lt hRank)).symm.trans (isPlain_iff_point hPos)
  rw [hNonzero, or_iff_right Bool.false_ne_true] at hCompare
  obtain ⟨first, others, hSplit, hFirst, hLast⟩ := Number.exists_digits_shortest hPos
  refine ⟨Number.shortest (Number.rank v), first, others,
    (Number.shortest (Number.rank v)).point - 1, displayLayout.magnitudeText (Number.rank v),
    ⟨hShortest, fun d' h' => h'.unique hShortest⟩, ⟨hSplit, ?_⟩, ⟨hFirst, hLast⟩, hCompare,
    Number.Decimal.between_thresholds_iff (Number.Decimal.coefficient_ne_zero
      (Number.rounds_shortest _) hPos), ?_,
    Number.exists_decimal?_magnitudeText hRank,
    magnitudeText_layout hPos hRank hSplit hFirst hLast rfl⟩
  · -- the exponent of the decimal counts from its last digit instead
    rw [Number.Decimal.point, hSplit, List.length_cons]
    push_cast
    ring
  · -- the minus sign of the text is a bit, which is the sign of a result other than zero
    rw [displayText_eq (Nat.le_of_lt hRank)]
    simp only [Number.lt_zero_iff (Nat.le_of_lt hRank) hSome]
    split
    · rfl
    · rw [String.empty_append]

/-- The last magnitude below ten million, with the minus sign. -/
theorem displayText_layout_last_plain :
    (Float.ofBits 0xC16312CFFFFFFFFF).isFinite = true ∧
      (Float.ofBits 0xC16312CFFFFFFFFF == 0) = false ∧
      ∃ (d : Number.Decimal) (text : String),
        d.IsShortest (Number.rank (Float.ofBits 0xC16312CFFFFFFFFF)) ∧ d.value < 10000000 ∧
          displayText (Float.ofBits 0xC16312CFFFFFFFFF) = "-" ++ text ∧
          ∃ d', Number.decimal? text.toList = some d' ∧ d'.value = d.value := by
  have hFinite : (Float.ofBits 0xC16312CFFFFFFFFF).isFinite = true := by
    decide
  have hNonzero : (Float.ofBits 0xC16312CFFFFFFFFF == 0) = false := by
    decide +kernel
  have hPlain : 0.001 ≤ (Float.ofBits 0xC16312CFFFFFFFFF).abs ∧
      (Float.ofBits 0xC16312CFFFFFFFFF).abs < 10000000 := by
    decide +kernel
  have hNegative : Float.ofBits 0xC16312CFFFFFFFFF < 0 := by
    decide +kernel
  obtain ⟨d, -, -, e, text, ⟨hShortest, -⟩, -, -, hCompare, hValue, hText, hRead, -⟩ :=
    displayText_layout hFinite hNonzero
  rw [if_pos hNegative] at hText
  exact ⟨hFinite, hNonzero, d, text, hShortest, (hValue.mpr (hCompare.mp hPlain)).2, hText, hRead⟩

end PocketCalculator
