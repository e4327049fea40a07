import PocketCalculator.Display
import PocketCalculator.Proofs.PlainTexts
import PocketCalculator.Proofs.Ranks

/-!
# PocketCalculator — reading results

A text with an exponent is a number text too: its digits have the point after the first of
them, and the exponent says how far to move it. So results read back whichever way they are
laid out, and the `-` in front of them is a sign of the number text. Since reading has one
result only, no two results are displayed alike.

* `Number.exponent?_toString` — exponents read back.
* `exists_decimal?_scientificText` — the value of a text with an exponent.
* `Number.exists_decimal?_magnitudeText` — the value of what is displayed for a magnitude.
* `read?_displayText` — results read back.
-/

namespace PocketCalculator

namespace Number

-- ---------------------------------------------------------------------------
-- Exponents
-- ---------------------------------------------------------------------------

theorem natural?_toString (n : Nat) : natural? (toString n).toList = some n := by
  have hText : (toString n).toList = digits n := Nat.toList_repr
  rw [hText, natural?_eq fun c => isDigit_of_mem_digits, if_neg (digits_ne_nil n), digits,
    Nat.ofDigitChars_ten_toDigits]

/-- The exponent of a result reads back, with the sign it may have. -/
theorem exponent?_toString {mark : Char} (hMark : mark = 'e' ∨ mark = 'E') (e : Int) :
    exponent? (mark :: (toString e).toList) = some e := by
  rw [exponent?, if_pos hMark]
  cases e with
  | ofNat n =>
    have hText : (toString (Int.ofNat n)).toList = (toString n).toList := rfl
    -- a natural number begins with a digit, so no sign is split off
    have hSign : splitSign (toString n).toList = (false, (toString n).toList) := by
      refine splitSign_of_head? fun c hc => ?_
      have hDigit := isDigit_of_mem_toString (List.mem_of_head? hc)
      constructor <;> rintro rfl <;> cases hDigit
    rw [hText, hSign]
    simp only [natural?_toString]
    rfl
  | negSucc m =>
    have hText : (toString (Int.negSucc m)).toList = '-' :: (toString (m + 1)).toList := by
      have hParts : toString (Int.negSucc m) = "-" ++ toString (m + 1) := rfl
      rw [hParts, String.toList_append]
      rfl
    rw [hText, splitSign]
    simp only [natural?_toString]
    rfl

end Number

-- ---------------------------------------------------------------------------
-- Texts with an exponent
-- ---------------------------------------------------------------------------

/-- The digits behind the point of a text with an exponent; there is always one. -/
def mantissaFraction (ds : List Char) : List Char :=
  if ds = [] then ['0'] else ds

/-- The digit that is added is a digit. -/
theorem isDigit_of_mem_mantissaFraction {ds : List Char} (h : ∀ c ∈ ds, c.isDigit = true) :
    ∀ c ∈ mantissaFraction ds, c.isDigit = true := by
  rw [mantissaFraction]
  split
  · exact List.forall_iff_forall_mem.mp (by decide)
  · exact h

/-- The characters of a text with an exponent. -/
theorem toList_scientificText (d : Char) (ds : List Char) (point : Int) :
    (displayLayout.scientificText (d :: ds) point).toList =
      d :: '.' :: mantissaFraction ds ++ 'E' :: (toString (point - 1)).toList := by
  by_cases hAlone : ds = [] <;>
    simp [Number.Layout.scientificText, displayLayout, mantissaFraction, hAlone]

/-- The digit that is added behind the point does not change the value. -/
theorem mantissa_value (d : Char) (ds : List Char) (point : Int) :
    (Nat.ofDigitChars 10 ([d] ++ mantissaFraction ds) 0 : ℚ) *
        10 ^ (point - 1 - (mantissaFraction ds).length) =
      Nat.ofDigitChars 10 (d :: ds) 0 * 10 ^ (point - (d :: ds).length) := by
  rw [mantissaFraction]
  -- only a single digit has one added behind the point, which is a zero
  split
  · rename_i hAlone
    subst hAlone
    have hZero : Nat.ofDigitChars 10 ['0'] (Nat.ofDigitChars 10 [d] 0) =
        10 * Nat.ofDigitChars 10 [d] 0 := Nat.ofDigitChars_replicate_zero (n := 1)
    have hPower : (10 : ℚ) ^ (point - 1) = 10 * 10 ^ (point - 1 - 1) := by
      rw [← zpow_one_add₀ (by norm_num), add_sub_cancel]
    rw [Nat.ofDigitChars_append, hZero, List.length_singleton, List.length_singleton,
      Nat.cast_one, hPower]
    push_cast
    ring
  · rw [List.singleton_append, List.length_cons]
    push_cast
    congr 2
    ring

/-- The value of a text with an exponent is that of its digits with the point among them. -/
theorem exists_decimal?_scientificText {ds : List Char} (hDigits : ∀ c ∈ ds, c.isDigit = true)
    (hSome : ds ≠ []) (point : Int) :
    ∃ d, Number.decimal? (displayLayout.scientificText ds point).toList = some d ∧
      d.value = Nat.ofDigitChars 10 ds 0 * (10 : ℚ) ^ (point - ds.length) := by
  obtain ⟨c, ds, rfl⟩ := List.exists_cons_of_ne_nil hSome
  obtain ⟨hFirst, hOthers⟩ := List.forall_mem_cons.mp hDigits
  have hWhole : ∀ c' ∈ [c], c'.isDigit = true := List.forall_mem_singleton.mpr hFirst
  have hFraction := isDigit_of_mem_mantissaFraction hOthers
  -- the fraction ends in front of the letter of the exponent
  have hEnd : ∀ c ∈ ('E' :: (toString (point - 1)).toList).head?, c.isDigit = false := by
    rintro c ⟨⟩
    rfl
  have hRead := Number.decimal?_point_append hWhole hFraction hEnd
  have hAll : ∀ c' ∈ [c] ++ mantissaFraction ds, c'.isDigit = true :=
    List.forall_mem_append.mpr ⟨hWhole, hFraction⟩
  rw [Number.natural?_eq hAll, if_neg (List.append_ne_nil_of_left_ne_nil (by simp) _),
    Number.exponent?_toString (Or.inr rfl)] at hRead
  rw [toList_scientificText]
  exact ⟨_, hRead, mantissa_value c ds point⟩

-- ---------------------------------------------------------------------------
-- Results
-- ---------------------------------------------------------------------------

namespace Number

/-- What is displayed for a magnitude is a numeral of its shortest decimal. -/
theorem exists_decimal?_magnitudeText {r : Nat} (hFinite : r < infinity) :
    ∃ d, decimal? (displayLayout.magnitudeText r).toList = some d ∧
      d.value = (shortest r).value := by
  have hDigits : ∀ c ∈ digits (shortest r).coefficient, c.isDigit = true := fun c =>
    isDigit_of_mem_digits
  have hSome := digits_ne_nil (shortest r).coefficient
  -- the digits and the point stand for the shortest decimal itself
  have hValue : (Nat.ofDigitChars 10 (digits (shortest r).coefficient) 0 : ℚ) *
      10 ^ ((shortest r).point - (digits (shortest r).coefficient).length) =
        (shortest r).value := by
    rw [Decimal.point, add_sub_cancel_left, digits, Nat.ofDigitChars_ten_toDigits, Decimal.value]
  rw [← hValue]
  by_cases hPlain : displayLayout.isPlain r = true
  · rw [Layout.magnitudeText_of_isPlain hPlain hFinite]
    exact exists_decimal?_plainText hDigits hSome _
  · rw [Layout.magnitudeText_of_not_isPlain hPlain hFinite]
    exact exists_decimal?_scientificText hDigits hSome _

/-- The text of a finite magnitude has a point, so it is none of the words for other numbers. -/
theorem point_mem_magnitudeText {r : Nat} (hFinite : r < infinity) :
    '.' ∈ (displayLayout.magnitudeText r).toList := by
  by_cases hPlain : displayLayout.isPlain r = true
  · rw [Layout.magnitudeText_of_isPlain hPlain hFinite]
    exact point_mem_plainText _ _
  · rw [Layout.magnitudeText_of_not_isPlain hPlain hFinite]
    obtain ⟨c, ds, hSplit⟩ :=
      List.exists_cons_of_ne_nil (digits_ne_nil (shortest r).coefficient)
    rw [hSplit, toList_scientificText]
    exact List.mem_cons_of_mem c List.mem_cons_self

/-- The text of a magnitude reads back as its rank. -/
theorem unsignedRank?_magnitudeText {r : Nat} (h : r ≤ infinity) :
    unsignedRank? (displayLayout.magnitudeText r).toList = some r := by
  rcases Nat.lt_or_eq_of_le h with hFinite | rfl
  · obtain ⟨d, hRead, hSame⟩ := exists_decimal?_magnitudeText hFinite
    have hRank : d.rank = r := d.rank_eq (hSame ▸ rounds_shortest r) hFinite
    rw [unsignedRank?, wordRank?_eq_none (point_mem_magnitudeText hFinite) rfl, hRead,
      Option.map_some, hRank]
    rfl
  · have hText : displayLayout.magnitudeText infinity = "Infinity" := if_pos rfl
    rw [hText]
    decide

end Number

/-- A result reads back with the sign that it has. -/
theorem read?_displayText_of_rank_le {v : Float} (h : Number.rank v ≤ Number.infinity) :
    Number.read? (displayText v) = some v := by
  obtain ⟨hPositive, hNegative⟩ :=
    Number.read?_of_unsignedRank? (Number.unsignedRank?_magnitudeText h)
  have hSame := Number.ofRank_rank v
  rw [displayText, Number.Layout.text, if_neg (Nat.not_lt.mpr h)]
  split
  · rename_i hMinus
    rw [hMinus] at hSame
    rw [hNegative, hSame]
  · rename_i hPlus
    rw [Bool.eq_false_iff.mpr hPlus] at hSame
    rw [hPositive, hSame]

/-- **Results read back.** The text of a result that is a number, infinite or not, is a numeral
of this result. So no two such results are displayed alike. -/
theorem read?_displayText {v : Float} (h : v.isNaN = false) :
    Number.read? (displayText v) = some v ∧
      ∀ w : Float, w.isNaN = false → displayText w = displayText v → w = v := by
  have hRead : ∀ u : Float, u.isNaN = false → Number.read? (displayText u) = some u := by
    intro u hu
    -- beyond infinity are only the ranks of what is not a number
    refine read?_displayText_of_rank_le (Nat.not_lt.mp fun hRank => ?_)
    rw [(Number.isNaN_iff_lt_rank u).mpr hRank] at hu
    cases hu
  refine ⟨hRead v h, fun w hw hSame => ?_⟩
  -- what reads back as both results is one of them only
  have hBoth := hRead w hw
  rw [hSame, hRead v h] at hBoth
  exact (Option.some.inj hBoth).symm

/-- The smallest magnitude with the minus sign, and negative zero. -/
theorem read?_displayText_subnormal :
    (Float.ofBits 0x8000000000000001).isNaN = false ∧ (-0.0 : Float).isNaN = false ∧
      Number.read? (displayText (Float.ofBits 0x8000000000000001)) =
        some (Float.ofBits 0x8000000000000001) ∧
      Number.read? (displayText (-0.0)) = some (-0.0) := by
  have hFirst : (Float.ofBits 0x8000000000000001).isNaN = false := by
    decide
  have hSecond : (-0.0 : Float).isNaN = false := by
    decide
  exact ⟨hFirst, hSecond, (read?_displayText hFirst).1, (read?_displayText hSecond).1⟩

end PocketCalculator
