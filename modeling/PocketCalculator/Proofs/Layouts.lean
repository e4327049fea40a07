import Mathlib.Data.List.Basic
import PocketCalculator.Number.Layout

/-!
# PocketCalculator — characters of laid out numbers

Whatever the layout, the text of a double is made of digits and of a few characters
that the layout fixes; and the text of a finite one has a decimal point or an exponent,
which tells it from the words for the others.

* `Number.Layout.isDigit_or_mem_marks` — the characters that a text can have.
* `Number.Layout.point_or_mark_mem` — what every text of a finite double has.
-/

namespace PocketCalculator.Number

-- ---------------------------------------------------------------------------
-- Digits
-- ---------------------------------------------------------------------------

theorem isDigit_of_mem_digits {n : Nat} {c : Char} (h : c ∈ digits n) : c.isDigit = true :=
  Nat.isDigit_of_mem_toDigits (by decide) (by decide) h

theorem digits_ne_nil (n : Nat) : digits n ≠ [] :=
  Nat.toDigits_ne_nil

/-- Only zero begins with the digit zero. -/
theorem head?_digits_ne {n : Nat} (h : n ≠ 0) : (digits n).head? ≠ some '0' := by
  -- by strong induction, since the first digit of a number is that of its tenth
  induction n using Nat.strongRecOn with
  | ind n ih =>
    rw [digits, Nat.toDigits_eq_if (by decide)]
    split
    · rw [List.head?_cons, Ne, Option.some.injEq, Nat.digitChar_eq_zero]
      exact h
    · rename_i hLarge
      have hSome : n / 10 ≠ 0 := by omega
      rw [List.head?_append_of_ne_nil _ Nat.toDigits_ne_nil]
      exact ih (n / 10) (by omega) hSome

/-- The last digit of a number is its remainder by ten. -/
theorem getLast?_digits (n : Nat) : (digits n).getLast? = some (n % 10).digitChar := by
  rw [digits, Nat.toDigits_eq_if (by decide)]
  split
  · rename_i hSmall
    rw [Nat.mod_eq_of_lt hSmall]
    rfl
  · exact List.getLast?_concat

/-- A number that ten does not divide does not end with the digit zero. -/
theorem getLast?_digits_ne {n : Nat} (h : n % 10 ≠ 0) : (digits n).getLast? ≠ some '0' := by
  rwa [getLast?_digits, Ne, Option.some.injEq, Nat.digitChar_eq_zero]

/-- A natural number is written with digits only. -/
theorem isDigit_of_mem_toString {n : Nat} {c : Char} (h : c ∈ (toString n).toList) :
    c.isDigit = true := by
  refine isDigit_of_mem_digits (n := n) ?_
  rw [digits, ← Nat.toList_repr]
  exact h

/-- An integer is written with digits and a `-`. -/
theorem mem_toString_int {n : Int} {c : Char} (h : c ∈ (toString n).toList) :
    c.isDigit = true ∨ c = '-' := by
  cases n with
  | ofNat m => exact Or.inl (isDigit_of_mem_toString (n := m) h)
  | negSucc m =>
    have hText : c ∈ ("-" ++ toString (m + 1)).toList := h
    rw [String.toList_append, List.mem_append] at hText
    rcases hText with hSign | hDigits
    · exact Or.inr (List.mem_singleton.mp hSign)
    · exact Or.inl (isDigit_of_mem_toString hDigits)

-- ---------------------------------------------------------------------------
-- Texts with and without an exponent
-- ---------------------------------------------------------------------------

/-- A plain text has the digits it is given, zeros and the point. -/
theorem mem_plainText {ds : List Char} {point : Int} {c : Char}
    (h : c ∈ (plainText ds point).toList) : c ∈ ds ∨ c = '0' ∨ c = '.' := by
  -- a side of the point that would be empty has a zero
  have hSide : ∀ side : List Char, c ∈ (if side = [] then ['0'] else side) →
      c = '0' ∨ c ∈ side := by
    intro side hMem
    split at hMem
    · exact Or.inl (List.mem_singleton.mp hMem)
    · exact Or.inr hMem
  rw [plainText, String.toList_ofList, List.mem_append, List.mem_cons] at h
  rcases h with hWhole | rfl | hFraction
  · rcases hSide _ hWhole with rfl | hMem
    · exact Or.inr (Or.inl rfl)
    · rcases List.mem_append.mp hMem with hDigit | hZero
      · exact Or.inl (List.mem_of_mem_take hDigit)
      · exact Or.inr (Or.inl (List.eq_of_mem_replicate hZero))
  · exact Or.inr (Or.inr rfl)
  · rcases hSide _ hFraction with rfl | hMem
    · exact Or.inr (Or.inl rfl)
    · rcases List.mem_append.mp hMem with hZero | hDigit
      · exact Or.inr (Or.inl (List.eq_of_mem_replicate hZero))
      · exact Or.inl (List.mem_of_mem_drop hDigit)

theorem point_mem_plainText (ds : List Char) (point : Int) :
    '.' ∈ (plainText ds point).toList := by
  rw [plainText, String.toList_ofList]
  exact List.mem_append_right _ List.mem_cons_self

namespace Layout

variable (layout : Layout)

/-- The characters other than digits that the texts of a layout can have. -/
def marks : List Char :=
  ['.', '-', layout.exponentMark] ++ layout.loneDigit.toList ++
    layout.notANumberWord.toList ++ layout.infinityWord.toList

variable {layout}

/-- A text with an exponent has the digits it is given, those of the exponent and marks. -/
theorem mem_scientificText {ds : List Char} {point : Int} {c : Char}
    (h : c ∈ (layout.scientificText ds point).toList) :
    c ∈ ds ∨ c.isDigit = true ∨ c ∈ layout.marks := by
  rw [scientificText] at h
  simp only [String.toList_append, List.mem_append, String.toList_ofList] at h
  -- the first digit, the others or the digit in their place, the mark, and the exponent
  rcases h with ((hFirst | hFraction) | hMark) | hExponent
  · exact Or.inl (List.mem_of_mem_take hFirst)
  · split at hFraction
    · exact Or.inr (Or.inr (by simp [marks, hFraction]))
    · rw [String.toList_ofList, List.mem_cons] at hFraction
      rcases hFraction with rfl | hRest
      · exact Or.inr (Or.inr (by simp [marks]))
      · exact Or.inl (List.mem_of_mem_drop hRest)
  · have hMark' : c = layout.exponentMark := by simpa using hMark
    exact Or.inr (Or.inr (by simp [marks, hMark']))
  · rcases mem_toString_int hExponent with hDigit | rfl
    · exact Or.inr (Or.inl hDigit)
    · exact Or.inr (Or.inr (by simp [marks]))

theorem mark_mem_scientificText (ds : List Char) (point : Int) :
    layout.exponentMark ∈ (layout.scientificText ds point).toList := by
  simp [scientificText]

-- ---------------------------------------------------------------------------
-- Texts of doubles
-- ---------------------------------------------------------------------------

/-- The text of a magnitude has digits and marks. -/
theorem mem_magnitudeText {r : Nat} {c : Char} (h : c ∈ (layout.magnitudeText r).toList) :
    c.isDigit = true ∨ c ∈ layout.marks := by
  rw [magnitudeText] at h
  split at h
  · exact Or.inr (by simp [marks, h])
  · simp only at h
    split at h
    · rcases mem_plainText h with hDigit | rfl | rfl
      · exact Or.inl (isDigit_of_mem_digits hDigit)
      · exact Or.inl rfl
      · exact Or.inr (by simp [marks])
    · rcases mem_scientificText h with hDigit | hOther
      · exact Or.inl (isDigit_of_mem_digits hDigit)
      · exact hOther

/-- **Characters.** The text of a double has digits and marks, whatever the double is. -/
theorem isDigit_or_mem_marks {v : Float} {c : Char} (h : c ∈ (layout.text v).toList) :
    c.isDigit = true ∨ c ∈ layout.marks := by
  rw [text] at h
  split at h
  · exact Or.inr (by simp [marks, h])
  · split at h
    · rw [String.toList_append, List.mem_append] at h
      rcases h with hSign | hMagnitude
      · have hSign' : c = '-' := List.mem_singleton.mp hSign
        exact Or.inr (by simp [marks, hSign'])
      · exact mem_magnitudeText hMagnitude
    · exact mem_magnitudeText h

/-- The text of a finite magnitude has a point or an exponent. -/
theorem point_or_mark_mem_magnitudeText {r : Nat} (h : r < infinity) :
    '.' ∈ (layout.magnitudeText r).toList ∨
      layout.exponentMark ∈ (layout.magnitudeText r).toList := by
  rw [magnitudeText, if_neg (Nat.ne_of_lt h)]
  simp only
  split
  · exact Or.inl (point_mem_plainText _ _)
  · exact Or.inr (mark_mem_scientificText _ _)

/-- **Finite doubles.** The text of a finite double has a point or an exponent, behind its sign
if it has one. -/
theorem point_or_mark_mem {v : Float} (h : rank v < infinity) :
    '.' ∈ (layout.text v).toList ∨ layout.exponentMark ∈ (layout.text v).toList := by
  rw [text, if_neg (Nat.lt_asymm h)]
  split
  · rw [String.toList_append, List.mem_append, List.mem_append]
    exact (point_or_mark_mem_magnitudeText h).imp Or.inr Or.inr
  · exact point_or_mark_mem_magnitudeText h

end Layout

end PocketCalculator.Number
