import PocketCalculator.Proofs.Remaining

/-!
# PocketCalculator — missing operands

Where operands do not touch, an expression has a value if and only if no operand is
missing, which neighbouring tokens tell, and parentheses need not match.

If no operand is missing, there are at all times as many operands as operators wait,
and one more where an operand has just ended, so that none finds too few of them. If
one is missing, there are no more numbers than operators, so that nothing would be
left, which an execution that reaches its end cannot do.

* `Program.length_add_gaps_of_run` — a value and the gaps make one.
* `Converter.exists_run_program` — a complete expression runs to its end.
* `Program.execute_separated` — when there is a value, and what the error is.
-/

namespace PocketCalculator

namespace Program

/-- Operators and functions find their operands if there are more of these than operators. -/
theorem exists_run_of_lt {operands : List Float} {p : Program}
    (hNumbers : p.countP Token.isNumber = 0)
    (h : p.countP Token.isOperator < operands.length) : ∃ left, run operands p = .ok left := by
  -- one token at a time: an operator uses up one operand, a function and a parenthesis none
  induction p generalizing operands with
  | nil => exact ⟨operands, rfl⟩
  | cons t p ih =>
    rw [List.countP_cons] at hNumbers h
    obtain ⟨next, hNext⟩ : ∃ next, step operands t = .ok next := by
      match t, operands with
      | .number text, _ => simp [Token.isNumber] at hNumbers
      | .operator op, [] | .operator op, [_] => simp [Token.isOperator] at h
      | .operator op, right :: left :: rest => exact ⟨op.apply left right :: rest, rfl⟩
      | .function f, argument :: rest => exact ⟨f.apply argument :: rest, rfl⟩
      | .leftParen, operands | .rightParen, operands => exact ⟨operands, rfl⟩
    have hLength := length_of_step hNext
    rw [run, hNext]
    exact ih (by omega) (by omega)

end Program

namespace Converter

-- ---------------------------------------------------------------------------
-- Complete expressions
-- ---------------------------------------------------------------------------

/-- There are as many operands as operators wait, and one more where an operand has just
ended. -/
def Supplied (s : Converter) (operands : List Float) : Prop :=
  operands.length = s.flush.countP Token.isOperator + s.completed

/-- A number writes itself and a negation its `0`; no other token writes a number. -/
theorem countP_isNumber_written (s : Converter) (t : Token) :
    (s.written t).countP Token.isNumber =
      (if t.isNumber then 1 else 0) + (if s.negates t then 1 else 0) := by
  have hCount := countP_written_add_flush Token.isNumber rfl rfl s t
  have hZero : [Token.number "0"].countP Token.isNumber = 1 := rfl
  rwa [countP_isNumber_flush, countP_isNumber_flush, Nat.add_zero, Nat.zero_add, hZero,
    List.countP_singleton] at hCount

/-- What a token writes and what then waits hold the operators that waited, and the token if it
is one. -/
theorem countP_isOperator_written (s : Converter) (t : Token) :
    (s.written t).countP Token.isOperator + (s.next t).flush.countP Token.isOperator =
      s.flush.countP Token.isOperator + (if t.isOperator then 1 else 0) := by
  have hCount := countP_written_add_flush Token.isOperator rfl rfl s t
  have hZero : [Token.number "0"].countP Token.isOperator = 0 := rfl
  rwa [hZero, ite_self, Nat.add_zero, List.countP_singleton] at hCount

/-- Where an operand has just ended, what waits finds its operands. -/
theorem exists_run_waiting {s : Converter} {t : Token} {operands : List Float}
    (hSupplied : s.Supplied operands) (hExpects : s.expects = .operator)
    (ht : t.isNumber = false)
    (hLess : (s.written t).countP Token.isOperator ≤ s.flush.countP Token.isOperator) :
    ∃ left, Program.run operands (s.written t) = .ok left := by
  -- with an operator expected nothing negates, so no number is written and one operand is to
  -- spare
  have hNegates : s.negates t = false := by
    simp [negates, hExpects]
  have hCompleted : s.completed = 1 := if_pos hExpects
  have hNumbers := countP_isNumber_written s t
  rw [ht, hNegates] at hNumbers
  rw [Supplied, hCompleted] at hSupplied
  exact Program.exists_run_of_lt hNumbers (by omega)

/-- What is written for a token that leaves no gap finds its operands. -/
theorem exists_run_token {s : Converter} {a : Option Token} {t : Token} {operands : List Float}
    (hExpects : s.expects = expectedFrom a) (hSeparates : separates a (some t) = true)
    (hGap : isGap a (some t) = false)
    (hNumeral : ∀ text, t = .number text → (Number.read? text).isSome)
    (hSupplied : s.Supplied operands) :
    ∃ left, Program.run operands (s.written t) = .ok left := by
  have hOperators := countP_isOperator_written s t
  rw [isGap_eq_of_separates hSeparates, ← hExpects] at hGap
  cases t with
  | number text =>
    obtain ⟨v, hv⟩ := Option.isSome_iff_exists.mp (hNumeral text rfl)
    exact ⟨v :: operands, by rw [written, Program.run_singleton, Program.step, hv]⟩
  | function f | leftParen => exact ⟨operands, rfl⟩
  | rightParen =>
    have hExpected : s.expects = .operator := by
      simpa [beginsNoOperand] using hGap
    refine exists_run_waiting hSupplied hExpected rfl ?_
    simp only [Token.isOperator, Bool.false_eq_true, if_false] at hOperators
    omega
  | operator op =>
    by_cases hNegates : s.negates (.operator op) = true
    · rw [written_of_negates hNegates]
      exact ⟨_ :: operands, rfl⟩
    · have hExpected : s.expects = .operator := by
        -- a sign or a gap otherwise, and neither is the case here
        by_contra hOther
        have hSign : op ≠ .subtract := by
          intro hop
          exact hNegates (negates_operator_iff.mpr ⟨hop, hOther⟩)
        simp [beginsNoOperand, hSign, hOther] at hGap
      -- the operator itself waits now, so that it is not among those written
      have hWaits : 1 ≤ (s.next (.operator op)).flush.countP Token.isOperator := by
        rw [next_of_not_negates hNegates, flush, List.map_cons]
        simp [Waiting.token, Token.isOperator]
      refine exists_run_waiting hSupplied hExpected rfl ?_
      simp only [Token.isOperator, if_true] at hOperators
      omega

/-- A token that leaves no gap runs, and the operands stay as many as needed. -/
theorem exists_run_written {s : Converter} {a : Option Token} {t : Token}
    {operands : List Float} (hExpects : s.expects = expectedFrom a)
    (hSeparates : separates a (some t) = true) (hGap : isGap a (some t) = false)
    (hNumeral : ∀ text, t = .number text → (Number.read? text).isSome)
    (hSupplied : s.Supplied operands) :
    ∃ left, Program.run operands (s.written t) = .ok left ∧ (s.next t).Supplied left := by
  obtain ⟨left, hLeft⟩ := exists_run_token hExpects hSeparates hGap hNumeral hSupplied
  have hLength := Program.length_of_run hLeft
  have hBalance := balance_token hExpects hSeparates
  have hNumbers := countP_isNumber_written s t
  have hOperators := countP_isOperator_written s t
  refine ⟨left, hLeft, ?_⟩
  -- the lengths before and after, counted in waiting operators: all the counts are linear
  rw [Supplied] at hSupplied ⊢
  rw [hGap] at hBalance
  simp only [Bool.false_eq_true, if_false] at hBalance
  omega

/-- The program of tokens without gaps runs to its end. -/
theorem exists_run_program {s : Converter} {a : Option Token} {ts : List Token}
    {operands : List Float} (hExpects : s.expects = expectedFrom a)
    (hSeparated : (line a ts).IsChain fun a b => separates a b = true)
    (hComplete : (line a ts).IsChain fun a b => isGap a b = false)
    (hNumerals : ∀ text, .number text ∈ ts → (Number.read? text).isSome)
    (hSupplied : s.Supplied operands) :
    ∃ left, Program.run operands (s.program ts) = .ok left := by
  -- the invariant is that the operands are supplied, from any state
  induction ts generalizing s a operands with
  | nil =>
    have hEnd := balance_end hExpects (isChain_line_nil.mp hSeparated)
    rw [isChain_line_nil.mp hComplete] at hEnd
    rw [Supplied] at hSupplied
    rw [program_nil]
    simp only [Bool.false_eq_true, if_false] at hEnd
    exact Program.exists_run_of_lt (countP_isNumber_flush s) (by omega)
  | cons t ts ih =>
    obtain ⟨hSeparates, hSeparated⟩ := isChain_line_cons.mp hSeparated
    obtain ⟨hGap, hComplete⟩ := isChain_line_cons.mp hComplete
    obtain ⟨next, hNext, hSupplied⟩ :=
      exists_run_written hExpects hSeparates hGap
        (fun text ht => hNumerals text (ht ▸ List.mem_cons_self)) hSupplied
    obtain ⟨left, hLeft⟩ := ih (s := s.next t) rfl hSeparated hComplete
      (fun text hText => hNumerals text (List.mem_cons_of_mem t hText)) hSupplied
    exact ⟨left, by rw [program_cons, Program.run_append_of_ok hNext, hLeft]⟩

end Converter

namespace Program

-- ---------------------------------------------------------------------------
-- All expressions
-- ---------------------------------------------------------------------------

/-- What an execution leaves and the missing operands make one. -/
theorem length_add_gaps_of_run {ts : List Token} {left : List Float}
    (hSeparated : Separated ts) (h : run [] (ofTokens ts) = .ok left) :
    left.length + gaps none ts = 1 := by
  have hLength := length_add_binaryOperators_of_run h
  have hOperators :=
    Converter.negations_add_binaryOperators (s := Converter.start) (a := none) rfl ts
  have hBalance := Converter.balance (s := Converter.start) rfl hSeparated
  have hCompleted : Converter.start.completed = 0 := rfl
  omega

/-- A complete expression in which operands do not touch has a value. -/
theorem execute_of_complete {ts : List Token}
    (hNumerals : ∀ text, .number text ∈ ts → (Number.read? text).isSome)
    (hSeparated : Separated ts) (hComplete : Complete ts) :
    ∃ v, (ofTokens ts).execute = .ok v := by
  have hStart : Converter.start.Supplied [] := rfl
  obtain ⟨left, hLeft⟩ :=
    Converter.exists_run_program (a := none) rfl hSeparated hComplete hNumerals hStart
  have hLength := length_add_gaps_of_run hSeparated hLeft
  -- without a gap exactly one operand is left
  rw [gaps_eq_zero_iff.mpr hComplete, Nat.add_zero, List.length_eq_one_iff] at hLength
  obtain ⟨v, rfl⟩ := hLength
  exact ⟨v, by rw [execute, ofTokens, ← Converter.program, hLeft]; rfl⟩

/-- An expression of parentheses only leaves nothing. -/
theorem execute_of_parentheses {ts : List Token} (h : ∀ t ∈ ts, t.isParenthesis = true) :
    (ofTokens ts).execute = .error (.unbalanced 0) := by
  rw [execute, ← run_bare, bare_ofTokens_eq_nil_iff.mpr h]
  rfl

/-- With an operand missing an operator or a function fails, unless there are
parentheses only. -/
theorem execute_of_not_complete {ts : List Token}
    (hNumerals : ∀ text, .number text ∈ ts → (Number.read? text).isSome)
    (hSeparated : Separated ts) (hComplete : ¬ Complete ts)
    (hSome : ∃ t ∈ ts, t.isParenthesis = false) :
    ∃ t, (ofTokens ts).execute = .error (.missingOperand t) := by
  -- with a gap nothing could be left, and an execution with an operator or a number in it
  -- leaves something
  refine execute_of_nothing_left hNumerals hSome fun left hLeft => ?_
  have hLength := length_add_gaps_of_run hSeparated hLeft
  have hGaps : gaps none ts ≠ 0 := mt gaps_eq_zero_iff.mp hComplete
  exact List.length_eq_zero_iff.mp (by omega)

/-- **Acceptance.** Where operands do not touch, an expression has a value if and only if
no operand is missing. Otherwise an operator or a function fails, unless the expression
has parentheses only. -/
theorem execute_separated (ts : List Token)
    (hNumerals : ∀ text, .number text ∈ ts → (Number.read? text).isSome)
    (hSeparated : Separated ts) :
    ((∃ v, (ofTokens ts).execute = .ok v) ↔ Complete ts) ∧
      (¬ Complete ts →
        if ∀ t ∈ ts, t.isParenthesis = true then
          (ofTokens ts).execute = .error (.unbalanced 0)
        else ∃ t, (ofTokens ts).execute = .error (.missingOperand t)) := by
  have hError : ¬ Complete ts →
      if ∀ t ∈ ts, t.isParenthesis = true then
        (ofTokens ts).execute = .error (.unbalanced 0)
      else ∃ t, (ofTokens ts).execute = .error (.missingOperand t) := by
    intro hComplete
    split
    · rename_i hParentheses
      exact execute_of_parentheses hParentheses
    · rename_i hParentheses
      exact execute_of_not_complete hNumerals hSeparated hComplete (by simpa using hParentheses)
  refine ⟨⟨?_, execute_of_complete hNumerals hSeparated⟩, hError⟩
  -- the two outcomes exclude each other, so a value means that nothing is missing
  rintro ⟨v, hValue⟩
  by_contra hComplete
  have hFails := hError hComplete
  rw [hValue] at hFails
  split at hFails <;> simp at hFails

/-- The tokens of `2 ) + sqrt ( - 3`, and the same with `* )` after them. -/
theorem execute_separated_unmatched :
    (∃ v, (ofTokens [.number "2", .rightParen, .operator .add, .function .sqrt, .leftParen,
      .operator .subtract, .number "3"]).execute = .ok v) ∧
    ∃ t, (ofTokens [.number "2", .rightParen, .operator .add, .function .sqrt, .leftParen,
      .operator .subtract, .number "3", .operator .multiply, .rightParen]).execute =
        .error (.missingOperand t) := by
  have hRead : ∀ text ∈ ["2", "3"], (Number.read? text).isSome := by
    decide
  constructor
  · refine (execute_separated _ ?_ (by decide)).1.mpr (by decide)
    intro text hText
    exact hRead text (by simpa using hText)
  · have hFails := execute_separated [.number "2", .rightParen, .operator .add,
      .function .sqrt, .leftParen, .operator .subtract, .number "3", .operator .multiply,
      .rightParen] (fun text hText => hRead text (by simpa using hText)) (by decide)
    have hError := hFails.2 (by decide)
    rwa [if_neg (by decide)] at hError

end Program

end PocketCalculator
