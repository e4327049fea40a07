import PocketCalculator.Proofs.Layouts
import PocketCalculator.Proofs.Numerals
import PocketCalculator.Proofs.Shortest

/-!
# PocketCalculator — reading plain texts

A plain text is a number text with one point and digits on both sides of it. The zeros that
fill it up do not change its value, so what is laid out plainly is read as the decimal that
was laid out.

* `Number.exists_decimal?_plainText` — the value of a plain text.
* `Number.Layout.magnitudeText_of_isPlain`, `Number.Layout.magnitudeText_of_not_isPlain` — the
  two ways to lay out a magnitude.
-/

namespace PocketCalculator.Number

/-- The value of a number text by the digits on both sides of its point. -/
theorem exists_decimal?_sides {whole fraction : List Char}
    (hWhole : ∀ c ∈ whole, c.isDigit = true) (hFraction : ∀ c ∈ fraction, c.isDigit = true)
    (hSome : whole ++ fraction ≠ []) :
    ∃ d, decimal? (whole ++ '.' :: fraction) = some d ∧
      d.value = Nat.ofDigitChars 10 (whole ++ fraction) 0 * (10 : ℚ) ^ (-fraction.length : ℤ) := by
  have hDigits : ∀ c ∈ whole ++ fraction, c.isDigit = true := fun c hc =>
    (List.mem_append.mp hc).elim (hWhole c) (hFraction c)
  have hEnd : ∀ c ∈ ([] : List Char).head?, c.isDigit = false := by
    -- nothing follows the digits, in particular no exponent
    rintro c ⟨⟩
  have hRead := decimal?_point_append hWhole hFraction hEnd
  rw [List.append_nil, natural?_eq hDigits, if_neg hSome] at hRead
  refine ⟨⟨_, 0 - fraction.length⟩, hRead, ?_⟩
  rw [Decimal.value, Int.zero_sub]

variable {ds : List Char}

/-- The point stands between two digits. -/
theorem toList_plainText_inside {p : Nat} (hPos : 0 < p) (hInside : p < ds.length) :
    (plainText ds p).toList = ds.take p ++ '.' :: ds.drop p := by
  have hTake : ds.take p ≠ [] := by
    rw [Ne, List.take_eq_nil_iff, not_or]
    exact ⟨hPos.ne', List.ne_nil_of_length_pos (hPos.trans hInside)⟩
  have hDrop : ds.drop p ≠ [] := by
    simpa using hInside
  rw [plainText, String.toList_ofList, Int.toNat_natCast, Int.toNat_neg_natCast,
    Nat.sub_eq_zero_of_le hInside.le, List.replicate_zero, List.append_nil, List.nil_append,
    if_neg hTake, if_neg hDrop]

/-- Zeros fill up the digits to the point. -/
theorem toList_plainText_behind {p : Nat} (hSome : ds ≠ []) (hBehind : ds.length ≤ p) :
    (plainText ds p).toList = (ds ++ List.replicate (p - ds.length) '0') ++ '.' :: ['0'] := by
  rw [plainText, String.toList_ofList, Int.toNat_natCast, Int.toNat_neg_natCast,
    List.replicate_zero, List.nil_append, List.take_of_length_le hBehind,
    List.drop_of_length_le hBehind, if_neg (List.append_ne_nil_of_left_ne_nil hSome _),
    if_pos rfl]

/-- Zeros fill up the point to the digits. -/
theorem toList_plainText_before (hSome : ds ≠ []) (p : Nat) :
    (plainText ds (-p)).toList = ['0'] ++ '.' :: (List.replicate p '0' ++ ds) := by
  rw [plainText, String.toList_ofList, Int.toNat_neg_natCast, neg_neg, Int.toNat_natCast,
    List.take_zero, List.drop_zero, Nat.zero_sub, List.replicate_zero, List.append_nil, if_pos rfl,
    if_neg (List.append_ne_nil_of_right_ne_nil _ hSome)]

theorem isDigit_of_mem_zeros {n : Nat} {c : Char} (h : c ∈ List.replicate n '0') :
    c.isDigit = true := by
  rw [List.eq_of_mem_replicate h]
  rfl

/-- The value of a plain text is that of its digits with the point among them. -/
theorem exists_decimal?_plainText (hDigits : ∀ c ∈ ds, c.isDigit = true) (hSome : ds ≠ [])
    (point : Int) :
    ∃ d, decimal? (plainText ds point).toList = some d ∧
      d.value = Nat.ofDigitChars 10 ds 0 * (10 : ℚ) ^ (point - ds.length) := by
  -- the point is among the digits, behind them or in front of them
  rcases Int.lt_or_le 0 point with hPos | hNeg
  · obtain ⟨p, rfl⟩ := Int.eq_ofNat_of_zero_le hPos.le
    rcases Nat.lt_or_ge p ds.length with hInside | hBehind
    · obtain ⟨d, hRead, hValue⟩ := exists_decimal?_sides
        (fun c hc => hDigits c (List.mem_of_mem_take hc))
        (fun c hc => hDigits c (List.mem_of_mem_drop hc)) ((ds.take_append_drop p).symm ▸ hSome)
      rw [toList_plainText_inside (Int.natCast_pos.mp hPos) hInside]
      refine ⟨d, hRead, ?_⟩
      rw [hValue, List.take_append_drop, List.length_drop, Nat.cast_sub hInside.le, neg_sub]
    · obtain ⟨d, hRead, hValue⟩ := exists_decimal?_sides
        (fun c hc => (List.mem_append.mp hc).elim (hDigits c) isDigit_of_mem_zeros)
        (fun _ => isDigit_of_mem_zeros (n := 1)) (by simp [hSome])
      rw [toList_plainText_behind hSome hBehind]
      refine ⟨d, hRead, ?_⟩
      -- the digits are followed by as many zeros as the exponent says, and by one behind the
      -- point
      rw [hValue, Nat.ofDigitChars_append, Nat.ofDigitChars_append, Nat.ofDigitChars_replicate_zero,
        Nat.ofDigitChars_replicate_zero, List.length_replicate, ← Nat.cast_sub hBehind,
        zpow_natCast]
      push_cast
      ring
  · obtain ⟨p, hp⟩ := Int.eq_ofNat_of_zero_le (Int.neg_nonneg_of_nonpos hNeg)
    obtain rfl : point = -(p : Int) := by
      omega
    obtain ⟨d, hRead, hValue⟩ := exists_decimal?_sides (fun _ => isDigit_of_mem_zeros (n := 1))
      (fun c hc => (List.mem_append.mp hc).elim (isDigit_of_mem_zeros (n := p)) (hDigits c))
      (by simp)
    rw [toList_plainText_before hSome]
    refine ⟨d, hRead, ?_⟩
    -- zeros in front count for nothing, but they move the digits behind the point
    rw [hValue, Nat.ofDigitChars_append, Nat.ofDigitChars_append, Nat.ofDigitChars_replicate_zero,
      Nat.ofDigitChars_replicate_zero, Nat.mul_zero, List.length_append, List.length_replicate,
      Nat.cast_add, neg_add']

/-- A plain text is made of digits and points, all of which a number of an expression may
contain. -/
theorem isNumeral_of_mem_plainText (hDigits : ∀ c ∈ ds, c.isDigit = true) {point : Int} {c : Char}
    (h : c ∈ (plainText ds point).toList) : isNumeral c = true := by
  rcases mem_plainText h with hDigit | rfl | rfl
  · exact isNumeral_of_isDigit (hDigits c hDigit)
  · rfl
  · rfl

namespace Layout

variable {layout : Layout} {r : Nat}

theorem magnitudeText_of_isPlain (hPlain : layout.isPlain r = true) (hFinite : r < infinity) :
    layout.magnitudeText r = plainText (digits (shortest r).coefficient) (shortest r).point := by
  rw [magnitudeText, if_neg (Nat.ne_of_lt hFinite)]
  exact if_pos hPlain

theorem magnitudeText_of_not_isPlain (hPlain : ¬ layout.isPlain r = true)
    (hFinite : r < infinity) :
    layout.magnitudeText r =
      layout.scientificText (digits (shortest r).coefficient) (shortest r).point := by
  rw [magnitudeText, if_neg (Nat.ne_of_lt hFinite)]
  exact if_neg hPlain

/-- What is written plainly is made of characters of numbers. -/
theorem isNumeral_of_mem_magnitudeText (hPlain : layout.isPlain r = true) (hFinite : r < infinity)
    {c : Char} (h : c ∈ (layout.magnitudeText r).toList) : isNumeral c = true := by
  rw [magnitudeText_of_isPlain hPlain hFinite] at h
  exact isNumeral_of_mem_plainText (fun d => isDigit_of_mem_digits) h

end Layout

end PocketCalculator.Number
