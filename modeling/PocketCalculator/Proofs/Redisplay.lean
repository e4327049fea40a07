import PocketCalculator.Display
import PocketCalculator.Evaluation
import PocketCalculator.Proofs.Comparisons
import PocketCalculator.Proofs.Execution
import PocketCalculator.Proofs.ScientificTexts
import PocketCalculator.Proofs.Spelling

/-!
# PocketCalculator — results as expressions

A displayed result can be entered again. What is displayed plainly is a number, with a `-` in
front of it that is read as the negation of a group, so that its value is the result or zero
less its magnitude. Everything else that is displayed has letters in it that no expression
has, and is refused.

* `evaluate_numeral`, `evaluate_minus_numeral` — expressions of one number.
* `readTokens_scientificText` — no expression has an exponent.
* `evaluate_displayText` — what every result is as an expression.
-/

namespace PocketCalculator

-- ---------------------------------------------------------------------------
-- Expressions of one number
-- ---------------------------------------------------------------------------

section

variable {text : String} (hSome : text ≠ "") (hText : ∀ c ∈ text.toList, isNumeral c = true)
include hSome hText

/-- Characters of numbers are read as one number, whatever they are. -/
theorem readTokens_numeral : readTokens text = .ok [.number text] := by
  refine readTokens_of_spells ⟨[], [(.number text, [])], ?_, ?_, ?_, rfl, ?_⟩
  · exact fun c hc => absurd hc List.not_mem_nil
  · intro p hp
    rw [List.mem_singleton.mp hp]
    exact ⟨⟨hSome, hText⟩, fun c hc => absurd hc List.not_mem_nil⟩
  · exact List.isChain_singleton _
  · simp [spaced, Token.text]

variable {v : Float} (hRead : Number.read? text = some v) (settings : Settings)
include hRead

/-- One number as an expression. -/
theorem evaluate_numeral : evaluate settings text = settings.check v := by
  have hExecute : (Program.ofTokens [.number text]).execute = .ok v :=
    Program.execute_number hRead
  rw [evaluate_of_readTokens (readTokens_numeral hSome hText), hExecute]
  rfl

/-- A number behind a `-` as an expression: the `-` stands where an operand is missing, so it
negates. -/
theorem evaluate_minus_numeral : evaluate settings ("-" ++ text) = settings.check (0 - v) := by
  have hTokens : readTokens ("-" ++ text) = .ok [.operator .subtract, .number text] := by
    rw [readTokens_minus, readTokens_numeral hSome hText]
    rfl
  have hExecute : (Program.ofTokens [.operator .subtract, .number text]).execute = .ok (0 - v) :=
    Program.execute_negation (Program.execute_number hRead)
  rw [evaluate_of_readTokens hTokens, hExecute]
  rfl

end

-- ---------------------------------------------------------------------------
-- Texts with an exponent
-- ---------------------------------------------------------------------------

/-- The letter of the exponent does not continue the number in front of it. -/
theorem joins_E {c : Char} (h : isNumeral c = true) : Lexeme.joins c 'E' = false := by
  rw [Lexeme.joins, h, isAlpha_of_isNumeral h]
  rfl

/-- A text with an exponent is refused for the letter, which is the first run
without a meaning. -/
theorem readTokens_scientificText {ds : List Char} (hDigits : ∀ c ∈ ds, c.isDigit = true)
    (hSome : ds ≠ []) (point : Int) :
    readTokens (displayLayout.scientificText ds point) = .error (.unknownSymbol "E") := by
  obtain ⟨d, ds, rfl⟩ := List.exists_cons_of_ne_nil hSome
  obtain ⟨hFirst, hOthers⟩ := List.forall_mem_cons.mp hDigits
  have hFraction := isDigit_of_mem_mantissaFraction hOthers
  -- what stands in front of the exponent is a number
  have hFront : ∀ c ∈ d :: '.' :: mantissaFraction ds, isNumeral c = true :=
    List.forall_mem_cons.mpr ⟨Number.isNumeral_of_isDigit hFirst, List.forall_mem_cons.mpr
      ⟨rfl, fun c hc => Number.isNumeral_of_isDigit (hFraction c hc)⟩⟩
  have hTokens : readTokens (.ofList (d :: '.' :: mantissaFraction ds)) =
      .ok [.number (.ofList (d :: '.' :: mantissaFraction ds))] := by
    refine readTokens_numeral ?_ (by rwa [String.toList_ofList])
    rw [Ne, ← String.toList_eq_nil_iff, String.toList_ofList]
    exact List.cons_ne_nil _ _
  rw [readTokens, String.toList_ofList] at hTokens
  rw [readTokens, toList_scientificText]
  -- the run is the letter alone: it neither joins the digits in front of it nor what comes
  -- behind it
  refine Lexeme.tokens_split_unknown (w := ['E']) (List.isChain_singleton _) rfl hTokens ?_ ?_
  · rintro a ha b ⟨⟩
    exact joins_E (hFront a (List.mem_of_getLast? ha))
  · rintro a ⟨⟩ b hb
    -- an exponent begins with a digit or with its sign
    rcases Number.mem_toString_int (List.mem_of_head? hb) with hDigit | rfl
    · rw [Lexeme.joins_comm]
      exact joins_E (Number.isNumeral_of_isDigit hDigit)
    · rfl

-- ---------------------------------------------------------------------------
-- Results
-- ---------------------------------------------------------------------------

variable {v : Float}

/-- Which results are displayed without an exponent. -/
theorem isPlain_iff (h : Number.rank v ≤ Number.infinity) :
    displayLayout.isPlain (Number.rank v) = true ↔
      (v == 0) = true ∨ 0.001 ≤ v.abs ∧ v.abs < 10000000 := by
  have hFrom : Number.rank 0.001 = displayLayout.plainFrom := by
    decide +kernel
  have hBelow : Number.rank 10000000 = displayLayout.plainBelow := by
    decide +kernel
  have hFinite : displayLayout.plainFrom ≤ Number.infinity ∧
      displayLayout.plainBelow ≤ Number.infinity := by
    decide +kernel
  -- the thresholds are doubles themselves, so comparing with them is comparing ranks
  rw [Number.Layout.isPlain, decide_eq_true_iff, Number.beq_zero_iff,
    Number.le_abs_iff h (hFrom ▸ hFinite.1) (by decide +kernel),
    Number.abs_lt_iff h (hBelow ▸ hFinite.2) (by decide +kernel), hFrom, hBelow]

/-- A result that is a number is displayed as its magnitude, with a `-` if it is negative. -/
theorem displayText_eq (h : Number.rank v ≤ Number.infinity) :
    displayText v =
      if Number.isNegative v then "-" ++ displayLayout.magnitudeText (Number.rank v)
      else displayLayout.magnitudeText (Number.rank v) :=
  if_neg (Nat.not_lt.mpr h)

/-- What is displayed plainly is evaluated to the result, or to zero less its magnitude. -/
theorem evaluate_plain (hFinite : Number.rank v < Number.infinity)
    (hPlain : displayLayout.isPlain (Number.rank v) = true) :
    evaluate {} (displayText v) = .ok (if Number.isNegative v then 0 - v.abs else v) := by
  have hRead := (Number.read?_of_unsignedRank?
    (Number.unsignedRank?_magnitudeText (Nat.le_of_lt hFinite))).1
  have hText : ∀ c ∈ (displayLayout.magnitudeText (Number.rank v)).toList, isNumeral c = true :=
    fun c => Number.Layout.isNumeral_of_mem_magnitudeText hPlain hFinite
  have hSome : displayLayout.magnitudeText (Number.rank v) ≠ "" := by
    intro hEmpty
    rw [hEmpty] at hRead
    cases hRead
  rw [displayText_eq (Nat.le_of_lt hFinite)]
  -- the `-` of the text is read as an operator, so the sign of the result comes from a
  -- subtraction
  by_cases hNegative : Number.isNegative v = true
  · rw [if_pos hNegative, if_pos hNegative, evaluate_minus_numeral hSome hText hRead,
      ← Number.abs_eq]
    rfl
  · have hSame := Number.ofRank_rank v
    rw [Bool.eq_false_iff.mpr hNegative] at hSame
    rw [if_neg hNegative, if_neg hNegative, evaluate_numeral hSome hText hRead, hSame]
    rfl

/-- What is displayed with an exponent is refused for the letter in it. -/
theorem evaluate_scientific (hFinite : Number.rank v < Number.infinity)
    (hPlain : ¬ displayLayout.isPlain (Number.rank v) = true) :
    evaluate {} (displayText v) = .error (.unknownSymbol "E") := by
  have hMagnitude : readTokens (displayLayout.magnitudeText (Number.rank v)) =
      .error (.unknownSymbol "E") := by
    rw [Number.Layout.magnitudeText_of_not_isPlain hPlain hFinite]
    exact readTokens_scientificText (fun c => Number.isDigit_of_mem_digits)
      (Number.digits_ne_nil _) _
  have hTokens : readTokens (displayText v) = .error (.unknownSymbol "E") := by
    rw [displayText_eq (Nat.le_of_lt hFinite)]
    split
    · rw [readTokens_minus, hMagnitude]
      rfl
    · exact hMagnitude
  rw [evaluate, hTokens]

/-- What is displayed as a word is refused for that word. -/
theorem evaluate_infinity (h : Number.rank v = Number.infinity) :
    evaluate {} (displayText v) = .error (.unknownSymbol "Infinity") := by
  have hMagnitude : displayLayout.magnitudeText (Number.rank v) = "Infinity" := if_pos h
  rw [displayText_eq (Nat.le_of_eq h), hMagnitude]
  split <;> decide

/-- **Results as expressions.** A result that is displayed without an exponent has its value
again as an expression, or zero less its magnitude if it is negative. Every other result is
refused for the letters in it. -/
theorem evaluate_displayText (v : Float) :
    evaluate {} (displayText v) =
      if v.isNaN then .error (.unknownSymbol "NaN")
      else if v.isInf then .error (.unknownSymbol "Infinity")
      else if (v == 0) = true ∨ 0.001 ≤ v.abs ∧ v.abs < 10000000 then
        .ok (if Number.isNegative v then 0 - v.abs else v)
      else .error (.unknownSymbol "E") := by
  -- the kinds of a double, the finite ones by whether they are displayed plainly
  rcases Number.kind_of_rank v with ⟨hRank, hNaN, -⟩ | ⟨hRank, hNaN, hInf, -⟩ |
    ⟨hRank, hNaN, hInf, -⟩
  · have hText : displayText v = "NaN" := if_pos hRank
    rw [if_pos hNaN, hText]
    decide
  · rw [if_neg (Bool.eq_false_iff.mp hNaN), if_pos hInf]
    exact evaluate_infinity hRank
  · rw [if_neg (Bool.eq_false_iff.mp hNaN), if_neg (Bool.eq_false_iff.mp hInf)]
    split
    · rename_i hSize
      exact evaluate_plain hRank ((isPlain_iff (Nat.le_of_lt hRank)).mpr hSize)
    · rename_i hSize
      exact evaluate_scientific hRank (mt (isPlain_iff (Nat.le_of_lt hRank)).mp hSize)

end PocketCalculator
