import Mathlib.Data.List.Basic
import PocketCalculator.Lexeme
import PocketCalculator.Number.Numeral

/-!
# PocketCalculator — reading numerals

The parts of a numeral, and which number texts of an expression are numerals. Such a text
consists of digits and points. It has no sign, no exponent and is no word, so all that can
be wrong with it is that it has a second point or no digit at all.

* `Number.decimal?_digits_append`, `Number.decimal?_point_append` — a numeral without a
  point and one with a point, told by their parts.
* `Number.read?_of_unsignedRank?` — a numeral with and without a `-`.
* `Number.read?_eq` — number texts are read as decimals.
* `Number.read?_eq_none_iff` — the number texts that are no numerals.
-/

namespace PocketCalculator.Number

/-- Whether a number text has two points or no digit. -/
def Malformed (text : String) : Prop :=
  2 ≤ text.toList.count '.' ∨ text.toList.any Char.isDigit = false

instance (text : String) : Decidable (Malformed text) :=
  inferInstanceAs (Decidable
    (2 ≤ text.toList.count '.' ∨ text.toList.any Char.isDigit = false))

theorem isNumeral_of_isDigit {c : Char} (h : c.isDigit = true) : isNumeral c = true := by
  rw [isNumeral, h, Bool.true_or]

-- ---------------------------------------------------------------------------
-- Parts of a numeral
-- ---------------------------------------------------------------------------

/-- A text that begins with neither sign has none. -/
theorem splitSign_of_head? {cs : List Char} (h : ∀ c ∈ cs.head?, c ≠ '+' ∧ c ≠ '-') :
    splitSign cs = (false, cs) := by
  unfold splitSign
  split
  · exact absurd rfl (h '+' rfl).1
  · exact absurd rfl (h '-' rfl).2
  · rfl

/-- Digits are a natural number unless there are none. -/
theorem natural?_eq {cs : List Char} (h : ∀ c ∈ cs, c.isDigit = true) :
    natural? cs = if cs = [] then none else some (Nat.ofDigitChars 10 cs 0) := by
  have hAll : cs.all Char.isDigit = true := List.all_eq_true.mpr h
  by_cases hNil : cs = [] <;> simp [natural?, hNil, hAll]

/-- Digits in front of something else are all that is taken of it. -/
theorem span_digits {ds rest : List Char} (hDigits : ∀ c ∈ ds, c.isDigit = true)
    (hRest : ∀ c ∈ rest.head?, c.isDigit = false) :
    (ds ++ rest).takeWhile Char.isDigit = ds ∧ (ds ++ rest).dropWhile Char.isDigit = rest := by
  rw [List.takeWhile_append_of_pos hDigits, List.dropWhile_append_of_pos hDigits]
  cases rest with
  | nil => exact ⟨List.append_nil ds, rfl⟩
  | cons c rest =>
    have hStop : ¬ c.isDigit = true := by
      simp [hRest c rfl]
    rw [List.takeWhile_cons_of_neg hStop, List.dropWhile_cons_of_neg hStop]
    exact ⟨List.append_nil ds, rfl⟩

/-- A numeral without a point. -/
theorem decimal?_digits_append {whole rest : List Char} (hWhole : ∀ c ∈ whole, c.isDigit = true)
    (hRest : ∀ c ∈ rest.head?, c.isDigit = false ∧ c ≠ '.') :
    decimal? (whole ++ rest) =
      (natural? whole).bind fun n => (exponent? rest).map fun e => ⟨n, e⟩ := by
  obtain ⟨hTake, hDrop⟩ := span_digits hWhole fun c hc => (hRest c hc).1
  -- without a point behind the whole part there is no fraction
  have hNoPoint : splitFraction rest = ([], rest) := by
    unfold splitFraction
    split
    · exact absurd rfl (hRest '.' rfl).2
    · rfl
  rw [decimal?, hTake, hDrop, hNoPoint]
  simp only [List.append_nil]
  cases natural? whole <;> cases exponent? rest <;> simp

/-- A numeral with a point. -/
theorem decimal?_point_append {whole fraction rest : List Char}
    (hWhole : ∀ c ∈ whole, c.isDigit = true) (hFraction : ∀ c ∈ fraction, c.isDigit = true)
    (hRest : ∀ c ∈ rest.head?, c.isDigit = false) :
    decimal? (whole ++ '.' :: (fraction ++ rest)) =
      (natural? (whole ++ fraction)).bind fun n =>
        (exponent? rest).map fun e => ⟨n, e - fraction.length⟩ := by
  have hPoint : ∀ c ∈ ('.' :: (fraction ++ rest)).head?, c.isDigit = false := by
    rintro c ⟨⟩
    rfl
  obtain ⟨hTake, hDrop⟩ := span_digits hWhole hPoint
  obtain ⟨hTake', hDrop'⟩ := span_digits hFraction hRest
  rw [decimal?, hTake, hDrop, splitFraction, hTake', hDrop']
  simp only
  cases natural? (whole ++ fraction) <;> cases exponent? rest <;> simp

-- ---------------------------------------------------------------------------
-- Signs
-- ---------------------------------------------------------------------------

/-- An unsigned numeral does not begin with a sign. -/
theorem unsignedRank?_cons_sign {c : Char} (h : c = '+' ∨ c = '-') (cs : List Char) :
    unsignedRank? (c :: cs) = none := by
  -- the words begin with a letter, and a sign stays what it is in lower case
  have hWord : wordRank? (c :: cs) = none := by
    have hOther : ∀ word : String, word.toList.head? = some 'i' ∨ word.toList.head? = some 'n' →
        String.ofList ((c :: cs).map Char.toLower) ≠ word := by
      rintro word hHead rfl
      rw [String.toList_ofList] at hHead
      rcases h with rfl | rfl <;> simp +decide at hHead
    rw [wordRank?]
    simp only [hOther "inf" (by decide), hOther "infinity" (by decide), hOther "nan" (by decide),
      or_self, if_false]
  -- no digit stands in front of a sign, and a decimal begins with a digit or with a point
  have hDecimal : decimal? (c :: cs) = none := by
    rcases h with rfl | rfl <;> simp [decimal?, splitFraction, natural?]
  rw [unsignedRank?, hWord, hDecimal]
  rfl

/-- A numeral without a sign is read as its magnitude, and behind a `-` as the negative one. -/
theorem read?_of_unsignedRank? {text : String} {r : Nat} (h : unsignedRank? text.toList = some r) :
    read? text = some (ofRank false r) ∧ read? ("-" ++ text) = some (ofRank true r) := by
  have hSign : splitSign text.toList = (false, text.toList) := by
    refine splitSign_of_head? fun c hc => not_or.mp fun hSign => ?_
    obtain ⟨cs, hText⟩ := List.head?_eq_some_iff.mp hc
    rw [hText, unsignedRank?_cons_sign hSign] at h
    cases h
  have hMinus : ("-" ++ text).toList = '-' :: text.toList := String.toList_append
  constructor
  · rw [read?, hSign]
    simp only [h, Option.map_some]
  · rw [read?, hMinus, splitSign]
    simp only [h, Option.map_some]

-- ---------------------------------------------------------------------------
-- Number texts
-- ---------------------------------------------------------------------------

/-- Digits and points have no upper case. -/
theorem toLower_of_isNumeral {c : Char} (h : isNumeral c = true) : c.toLower = c := by
  simp only [isNumeral, Char.isDigit, Bool.or_eq_true, Bool.and_eq_true, decide_eq_true_eq] at h
  rcases h with ⟨-, hNine⟩ | rfl
  · unfold Char.toLower
    split
    · grind
    · rfl
  · rfl

/-- A text with a digit or a point in it is none of the words. -/
theorem wordRank?_eq_none {cs : List Char} {c : Char} (hc : c ∈ cs) (h : isNumeral c = true) :
    wordRank? cs = none := by
  have hMem : c ∈ (String.ofList (cs.map Char.toLower)).toList := by
    rw [String.toList_ofList, ← toLower_of_isNumeral h]
    exact List.mem_map_of_mem hc
  -- each of the words is made of letters only
  have hOther : ∀ word ∈ ["inf", "infinity", "nan"],
      String.ofList (cs.map Char.toLower) ≠ word := by
    intro word hWord hSame
    have hLetters : ∀ word ∈ ["inf", "infinity", "nan"],
        word.toList.any isNumeral = false := by
      decide
    rw [hSame] at hMem
    exact List.any_eq_false.mp (hLetters word hWord) c hMem h
  simp only [List.mem_cons, List.not_mem_nil, or_false, forall_eq_or_imp, forall_eq] at hOther
  obtain ⟨hInf, hInfinity, hNaN⟩ := hOther
  simp [wordRank?, hInf, hInfinity, hNaN]

theorem notMem_of_digits {ds : List Char} (h : ∀ c ∈ ds, c.isDigit = true) : '.' ∉ ds :=
  fun hMem => Bool.false_ne_true (h '.' hMem)

/-- Digits of which none is a digit are none at all. -/
theorem eq_nil_of_digits {ds : List Char} (h : ∀ c ∈ ds, c.isDigit = true)
    (hNone : ∀ c ∈ ds, c.isDigit = false) : ds = [] := by
  refine List.eq_nil_iff_forall_not_mem.mpr fun c hc => ?_
  exact Bool.false_ne_true ((hNone c hc).symm.trans (h c hc))

/-- Digits and points are digits up to the first point. -/
theorem exists_digits_append {cs : List Char} (h : ∀ c ∈ cs, isNumeral c = true) :
    ∃ ds rest, (∀ c ∈ ds, c.isDigit = true) ∧ cs = ds ++ rest ∧
      (rest = [] ∨ ∃ r, rest = '.' :: r) := by
  induction cs with
  | nil => exact ⟨[], [], by simp, rfl, Or.inl rfl⟩
  | cons c cs ih =>
    obtain ⟨hc, hTail⟩ := List.forall_mem_cons.mp h
    by_cases hDigit : c.isDigit = true
    · -- a digit goes on with the run
      obtain ⟨ds, rest, hDigits, rfl, hRest⟩ := ih hTail
      exact ⟨c :: ds, rest, List.forall_mem_cons.mpr ⟨hDigit, hDigits⟩, rfl, hRest⟩
    · have hPoint : c = '.' := by
        simpa [isNumeral, hDigit] using hc
      exact ⟨[], c :: cs, by simp, rfl, Or.inr ⟨cs, by rw [hPoint]⟩⟩

/-- Digits with one point are a decimal if there is a digit at all, and with two points they
are none. -/
theorem decimal?_point_eq_none_iff {whole fraction rest : List Char}
    (hWhole : ∀ c ∈ whole, c.isDigit = true) (hFraction : ∀ c ∈ fraction, c.isDigit = true)
    (hRest : rest = [] ∨ ∃ r, rest = '.' :: r) :
    decimal? (whole ++ '.' :: (fraction ++ rest)) = none ↔
      rest ≠ [] ∨ whole ++ fraction = [] := by
  -- behind the fraction there is nothing or a second point, which is no exponent
  have hStop : ∀ c ∈ rest.head?, c.isDigit = false := by
    rcases hRest with rfl | ⟨r, rfl⟩
    · simp
    · intro c hc
      rw [← Option.some.inj hc]
      rfl
  have hDigits : ∀ c ∈ whole ++ fraction, c.isDigit = true := by
    intro c hc
    exact (List.mem_append.mp hc).elim (hWhole c) (hFraction c)
  rw [decimal?_point_append hWhole hFraction hStop, natural?_eq hDigits]
  rcases hRest with rfl | ⟨r, rfl⟩
  · by_cases hNil : whole ++ fraction = [] <;> simp [hNil, exponent?]
  · by_cases hNil : whole ++ fraction = [] <;> simp [hNil, exponent?]

/-- Digits and points are no decimal exactly if they have two points or no digit. -/
theorem decimal?_eq_none_iff {cs : List Char} (h : ∀ c ∈ cs, isNumeral c = true) :
    decimal? cs = none ↔ 2 ≤ cs.count '.' ∨ ∀ c ∈ cs, c.isDigit = false := by
  -- up to the first point, up to the second, and what is left decides
  obtain ⟨whole, rest, hWhole, rfl, rfl | ⟨cs, rfl⟩⟩ := exists_digits_append h
  · have hCount : (whole ++ []).count '.' = 0 := by
      rw [List.append_nil, List.count_eq_zero]
      exact notMem_of_digits hWhole
    have hNone : (∀ c ∈ whole, c.isDigit = false) ↔ whole = [] :=
      ⟨eq_nil_of_digits hWhole, fun hNil => by simp [hNil]⟩
    rw [decimal?_digits_append hWhole (by simp), natural?_eq hWhole, hCount, List.append_nil, hNone]
    by_cases hNil : whole = [] <;> simp [hNil, exponent?]
  · have hTail : ∀ c ∈ cs, isNumeral c = true := fun c hc =>
      h c (List.mem_append_right whole (List.mem_cons_of_mem '.' hc))
    obtain ⟨fraction, rest, hFraction, rfl, hRest⟩ := exists_digits_append hTail
    rw [decimal?_point_eq_none_iff hWhole hFraction hRest]
    have hCount : (whole ++ '.' :: (fraction ++ rest)).count '.' = rest.count '.' + 1 := by
      simp [List.count_eq_zero.mpr (notMem_of_digits hWhole),
        List.count_eq_zero.mpr (notMem_of_digits hFraction)]
    rw [hCount]
    rcases hRest with rfl | ⟨r, rfl⟩
    · -- one point: the text has no digit if both parts are empty
      have hNone : (∀ c ∈ whole ++ '.' :: (fraction ++ []), c.isDigit = false) ↔
          whole ++ fraction = [] := by
        constructor
        · intro hNone
          rw [eq_nil_of_digits hWhole fun c hc => hNone c (List.mem_append_left _ hc),
            eq_nil_of_digits hFraction fun c hc => hNone c (by simp [hc])]
          rfl
        · intro hNil
          obtain ⟨rfl, rfl⟩ := List.append_eq_nil_iff.mp hNil
          simp
      rw [hNone]
      simp
    · simp

/-- A text of digits and points has no sign and is no word. -/
theorem read?_eq {text : String} (h : ∀ c ∈ text.toList, isNumeral c = true) :
    read? text = (decimal? text.toList).map fun d => ofRank false d.rank := by
  -- neither a sign nor a word can be made of digits and points
  have hSign : splitSign text.toList = (false, text.toList) := by
    refine splitSign_of_head? fun c hc => ?_
    have hNumeral := h c (List.mem_of_head? hc)
    constructor <;> rintro rfl <;> cases hNumeral
  have hWord : wordRank? text.toList = none := by
    cases hText : text.toList with
    | nil => rfl
    | cons c cs => exact wordRank?_eq_none List.mem_cons_self (h c (hText ▸ List.mem_cons_self))
  rw [read?, hSign]
  simp only [unsignedRank?, hWord, Option.none_or, Option.map_map]
  rfl

/-- **Numerals.** A text of digits and points is a numeral unless it has two points or no
digit. -/
theorem read?_eq_none_iff {text : String} (h : ∀ c ∈ text.toList, isNumeral c = true) :
    read? text = none ↔ Malformed text := by
  rw [read?_eq h, Option.map_eq_none_iff, decimal?_eq_none_iff h, Malformed, List.any_eq_false]
  simp only [Bool.not_eq_true]

end PocketCalculator.Number
