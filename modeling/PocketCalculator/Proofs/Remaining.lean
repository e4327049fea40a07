import PocketCalculator.Evaluation
import PocketCalculator.Proofs.Execution
import PocketCalculator.Proofs.Neighbours

/-!
# PocketCalculator — remaining operands

Every number adds an operand, every operator between two operands takes one, and signs and
functions keep their number. So the counts of the tokens of an expression, in whatever
order they stand, tell how many operands an execution leaves if it reaches its end. An
execution of more than parentheses leaves something; where the counts leave nothing, it
cannot reach its end.

* `Program.length_of_run` — the number of operands a program leaves.
* `Program.ne_nil_of_run` — a program of more than parentheses leaves something.
* `Program.execute_remaining` — what the counts say about the outcome of an expression.
-/

namespace PocketCalculator

namespace Program

-- ---------------------------------------------------------------------------
-- The number of operands
-- ---------------------------------------------------------------------------

/-- A number adds an operand and an operator takes one; functions and parentheses keep their
number. -/
theorem length_of_step {operands left : List Float} {t : Token}
    (h : step operands t = .ok left) :
    left.length + (if t.isOperator then 1 else 0) =
      operands.length + (if t.isNumber then 1 else 0) := by
  rcases step_cases h with ⟨text, v, rfl, -, rfl⟩ | ⟨op, right, lower, rest, rfl, rfl, rfl⟩ |
    ⟨f, argument, rest, rfl, rfl, rfl⟩ | ⟨ht, rfl⟩
  · rfl
  · rfl
  · rfl
  · cases t with
    | leftParen | rightParen => rfl
    | number text | operator op | function f => simp [Token.isParenthesis] at ht

/-- Every number adds an operand and every operator takes one. -/
theorem length_of_run {operands left : List Float} {p : Program}
    (h : run operands p = .ok left) :
    left.length + p.countP Token.isOperator = operands.length + p.countP Token.isNumber := by
  induction p generalizing operands with
  | nil =>
    simp only [run, Except.ok.injEq] at h
    rw [h]
    rfl
  | cons t p ih =>
    obtain ⟨next, hNext, hRest⟩ := exists_of_run_cons h
    have hStep := length_of_step hNext
    have hLength := ih hRest
    rw [List.countP_cons, List.countP_cons]
    omega

-- ---------------------------------------------------------------------------
-- What is left and what fails
-- ---------------------------------------------------------------------------

/-- What is left after a token is nothing only if there was nothing and the token is a
parenthesis. -/
theorem ne_nil_of_step {operands left : List Float} {t : Token}
    (h : step operands t = .ok left) (hSome : operands ≠ [] ∨ t.isParenthesis = false) :
    left ≠ [] := by
  rcases step_cases h with ⟨text, v, -, -, rfl⟩ | ⟨op, right, lower, rest, -, -, rfl⟩ |
    ⟨f, argument, rest, -, -, rfl⟩ | ⟨ht, rfl⟩
  · exact List.cons_ne_nil v operands
  · exact List.cons_ne_nil _ rest
  · exact List.cons_ne_nil _ rest
  · rcases hSome with hSome | hSome
    · exact hSome
    · simp [ht] at hSome

/-- A program of more than parentheses leaves something behind. -/
theorem ne_nil_of_run {operands left : List Float} {p : Program} (h : run operands p = .ok left)
    (hSome : operands ≠ [] ∨ ∃ t ∈ p, t.isParenthesis = false) : left ≠ [] := by
  induction p generalizing operands with
  | nil =>
    simp only [run, Except.ok.injEq] at h
    rcases hSome with hSome | ⟨t, ht, -⟩
    · rwa [← h]
    · exact absurd ht List.not_mem_nil
  | cons t p ih =>
    obtain ⟨next, hNext, hRest⟩ := exists_of_run_cons h
    -- once something is on the stack it stays there, so it is enough that the head leaves
    -- something or the tail has such a token
    refine ih hRest ?_
    rcases hSome with hSome | ⟨u, hu, hSome⟩
    · exact Or.inl (ne_nil_of_step hNext (Or.inl hSome))
    · rcases List.mem_cons.mp hu with rfl | hu
      · exact Or.inl (ne_nil_of_step hNext (Or.inr hSome))
      · exact Or.inr ⟨u, hu, hSome⟩

/-- If all numbers are numerals, only a missing operand stops a program. -/
theorem missingOperand_of_run {operands : List Float} {p : Program} {e : EvaluationError}
    (hNumerals : ∀ text, .number text ∈ p → (Number.read? text).isSome)
    (h : run operands p = .error e) : ∃ t, e = .missingOperand t := by
  rcases run_error_cases h with ⟨text, hText, hv, -⟩ | ⟨t, -, rfl⟩
  · have hSome := hNumerals text hText
    simp [hv] at hSome
  · exact ⟨t, rfl⟩

-- ---------------------------------------------------------------------------
-- Expressions
-- ---------------------------------------------------------------------------

/-- What an execution leaves and the operators between two operands are as many as the
numbers. -/
theorem length_add_binaryOperators_of_run {ts : List Token} {left : List Float}
    (h : run [] (ofTokens ts) = .ok left) :
    left.length + binaryOperators none ts = ts.countP Token.isNumber := by
  have hLength := length_of_run h
  have hOperators :=
    Converter.negations_add_binaryOperators (s := Converter.start) (a := none) rfl ts
  have hNumber : [Token.number "0"].countP Token.isNumber = 1 := rfl
  have hOperator : [Token.number "0"].countP Token.isOperator = 0 := rfl
  -- the two counts of the program are those of the expression, signs adding a `0` and an
  -- operator each
  rw [countP_ofTokens Token.isNumber rfl rfl, countP_ofTokens Token.isOperator rfl rfl, hNumber,
    hOperator, List.length_nil] at hLength
  omega

/-- A program consists of parentheses if and only if its expression does. -/
theorem bare_ofTokens_eq_nil_iff {ts : List Token} :
    (ofTokens ts).bare = [] ↔ ∀ t ∈ ts, t.isParenthesis = true := by
  -- no parenthesis apart: a kind that the `0` of a negation belongs to
  have hCount := countP_ofTokens (fun t => !t.isParenthesis) rfl rfl ts
  have hNegations :=
    Converter.negations_add_binaryOperators (s := Converter.start) (a := none) rfl ts
  have hOperators : ts.countP Token.isOperator ≤ ts.countP fun t => !t.isParenthesis := by
    refine List.countP_mono_left fun t _ ht => ?_
    cases t <;> simp_all [Token.isOperator, Token.isParenthesis]
  have hZero : [Token.number "0"].countP (fun t => !t.isParenthesis) = 1 := rfl
  rw [hZero, Nat.mul_one] at hCount
  have hNone : (ts.countP fun t => !t.isParenthesis) = 0 ↔ ∀ t ∈ ts, t.isParenthesis = true := by
    simp [List.countP_eq_zero]
  -- a negation needs an operator, so with no other tokens there is no `0` either
  rw [← hNone, bare, ← List.length_eq_zero_iff, ← List.countP_eq_length_filter, hCount]
  omega

/-- An execution that could leave nothing at its end misses an operand before. -/
theorem execute_of_nothing_left {ts : List Token}
    (hNumerals : ∀ text, .number text ∈ ts → (Number.read? text).isSome)
    (hSome : ∃ t ∈ ts, t.isParenthesis = false)
    (hNothing : ∀ left, run [] (ofTokens ts) = .ok left → left = []) :
    ∃ t, (ofTokens ts).execute = .error (.missingOperand t) := by
  cases hRun : run [] (ofTokens ts) with
  | ok left =>
    -- the program reached its end with more than parentheses, so something is left, against the
    -- hypothesis
    have hBare : (ofTokens ts).bare ≠ [] := by
      rw [Ne, bare_ofTokens_eq_nil_iff]
      simpa using hSome
    obtain ⟨t, ht⟩ := List.exists_mem_of_ne_nil _ hBare
    simp only [bare, List.mem_filter, Bool.not_eq_true'] at ht
    exact absurd (hNothing left hRun) (ne_nil_of_run hRun (Or.inr ⟨t, ht⟩))
  | error e =>
    obtain ⟨t, rfl⟩ := missingOperand_of_run
      (fun text hText => isSome_read?_of_mem_ofTokens hNumerals hText) hRun
    exact ⟨t, by rw [execute, hRun]⟩

/-- **Remaining operands.** Only an expression with one number more than operators between
two operands has a value; what an unbalanced execution leaves is the surplus of numbers;
and where there are no more numbers than such operators, an operand is missing. So an
expression without a number has no value, whatever its numbers denote. -/
theorem execute_remaining (ts : List Token) :
    ((∀ text, .number text ∈ ts → (Number.read? text).isSome) →
      (∀ v, (ofTokens ts).execute = .ok v →
        ts.countP Token.isNumber = binaryOperators none ts + 1) ∧
      (∀ r, (ofTokens ts).execute = .error (.unbalanced r) →
        r + binaryOperators none ts = ts.countP Token.isNumber ∧ r ≠ 1) ∧
      (ts.countP Token.isNumber ≤ binaryOperators none ts →
        (∃ t ∈ ts, t.isParenthesis = false) →
        ∃ t, (ofTokens ts).execute = .error (.missingOperand t))) ∧
      ∀ settings source v, readTokens source = .ok ts → evaluate settings source = .ok v →
        ∃ text, .number text ∈ ts := by
  have hValue : ∀ v, (ofTokens ts).execute = .ok v →
      ts.countP Token.isNumber = binaryOperators none ts + 1 := by
    intro v hv
    have hLength := length_add_binaryOperators_of_run (run_of_execute hv [])
    rw [List.length_singleton] at hLength
    omega
  refine ⟨fun hNumerals => ⟨hValue, ?_, ?_⟩, ?_⟩
  · intro r hr
    obtain ⟨left, hLeft, rfl, hOne⟩ := run_of_unbalanced hr
    exact ⟨length_add_binaryOperators_of_run hLeft, hOne⟩
  · intro hFew hSome
    refine execute_of_nothing_left hNumerals hSome fun left hLeft => ?_
    have hLength := length_add_binaryOperators_of_run hLeft
    exact List.length_eq_zero_iff.mp (by omega)
  · intro settings source v hTokens hEvaluate
    -- a value needs one number more than operators, hence at least one
    have hCount := hValue v (execute_of_evaluate hTokens hEvaluate)
    obtain ⟨t, ht, hNumber⟩ := List.countP_pos_iff.mp (show 0 < ts.countP Token.isNumber by omega)
    match t, hNumber with
    | .number text, _ => exact ⟨text, ht⟩

/-- Two numbers and one operator between operands in `( 7 ) ( 4 ) - sqrt`, which is 5, and
one number too few in `- sqrt ( 5 +`. -/
theorem execute_remaining_disordered :
    ([.leftParen, .number "7", .rightParen, .leftParen, .number "4", .rightParen,
        .operator .subtract, .function .sqrt] : List Token).countP Token.isNumber =
      binaryOperators none [.leftParen, .number "7", .rightParen, .leftParen, .number "4",
        .rightParen, .operator .subtract, .function .sqrt] + 1 ∧
    ∃ t, (ofTokens [.operator .subtract, .function .sqrt, .leftParen, .number "5",
      .operator .add]).execute = .error (.missingOperand t) := by
  have hRead : ∀ text ∈ ["7", "4", "5"], (Number.read? text).isSome := by
    decide
  constructor
  · obtain ⟨hOutcomes, -⟩ := execute_remaining [.leftParen, .number "7", .rightParen,
      .leftParen, .number "4", .rightParen, .operator .subtract, .function .sqrt]
    obtain ⟨hValue, -, -⟩ := hOutcomes fun text hText => hRead text (by simp at hText ⊢; tauto)
    exact hValue 5.0 (by decide +kernel)
  · obtain ⟨hOutcomes, -⟩ := execute_remaining [.operator .subtract, .function .sqrt,
      .leftParen, .number "5", .operator .add]
    obtain ⟨-, -, hMissing⟩ := hOutcomes fun text hText => hRead text (by simp at hText ⊢; tauto)
    exact hMissing (by decide) (by decide)

end Program

end PocketCalculator
