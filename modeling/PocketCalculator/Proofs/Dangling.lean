import PocketCalculator.Proofs.Phrases

/-!
# PocketCalculator — dangling operators

A complete expression with an operator behind it has no value, since that operator has no
right operand. Execution does not notice this at the operator itself: it finds two operands
as long as a value to its left is there, be it one that another operator waits for. Only the
operator that is executed last finds one operand too few, and it is the one reported.

* `Converter.program_operator` — a phrase and the operator behind it.
* `AppliedLast` — which operator is executed last.
* `Phrase.execute_dangling` — the error of a complete expression with an operator behind it.
-/

namespace PocketCalculator

-- ---------------------------------------------------------------------------
-- Execution
-- ---------------------------------------------------------------------------

/-- An operator behind a program of one value misses an operand. -/
theorem Program.execute_append_operator {p : Program} {v : Float} (h : p.execute = .ok v)
    (op : Operator) :
    execute (p ++ [.operator op]) = .error (.missingOperand (.operator op)) := by
  rw [execute, run_append_of_ok (run_of_execute h [])]
  rfl

-- ---------------------------------------------------------------------------
-- Conversion
-- ---------------------------------------------------------------------------

namespace Converter

/-- An operator behind a phrase that binds at least as tightly waits until the phrase is written,
and then on what waited before the phrase. -/
theorem program_operator {s : Converter} {ts us : List Token} {op : Operator} {level : Nat}
    {p : Program} (h : s.Converts ts level p) (hLevel : op.precedence ≤ level)
    (hAdmits : s.Admits op.precedence) :
    s.program (ts ++ .operator op :: us) =
      p ++ (Converter.mk (.operator op :: s.stack) .operand).program us := by
  -- what the phrase left waiting is written by the operator, which no entry below yields to
  obtain ⟨waiting, hWaiting, hAfter, rfl⟩ := h
  obtain ⟨hWritten, hNext⟩ := step_operator
    (fun w hw => Nat.le_trans hLevel (hWaiting w hw)) fun w hw => (hAdmits w hw).1
  rw [program_append, hAfter, program_cons, hWritten, hNext, List.append_assoc]

/-- Behind a sum of several terms, a `*` or a `/` belongs to the last term, so that it is written
before the operator which joins that term. -/
theorem program_joined {s : Converter} {ts us : List Token} {l r : Expression}
    {join op : Operator} (hAdmits : s.Admits 1) (hLeft : s.Converts ts 1 l.postorder)
    (loose : join = .add ∨ join = .subtract) (right : Phrase .product us r)
    (tight : op = .multiply ∨ op = .divide) :
    s.program (ts ++ .operator join :: (us ++ [.operator op])) =
      (Expression.binary op l r).postorder ++ .operator join :: s.flush := by
  have hJoin := Phrase.precedence_of_loose loose
  have hOp := Phrase.precedence_of_tight tight
  have hBelow : (Converter.mk (.operator join :: s.stack) .operand).Admits 2 :=
    admits_cons (Nat.lt_of_le_of_lt hJoin.le (by decide)) (by simp) s.stack .operand
  -- first the join goes on the stack behind the left terms, then the operator above it behind
  -- the last one, and the end writes both from the top
  rw [program_operator hLeft hJoin.le (hAdmits.mono hJoin.ge),
    program_operator (converts_of_phrase right hBelow rfl) hOp.le (hBelow.mono hOp.ge)]
  simp [Expression.postorder, program_nil, flush, Waiting.token]

/-- A sum with an operator behind it is written as a tree and an operator that misses its right
operand, in front of what waited before. -/
theorem exists_program_sum {s : Converter} {ts : List Token} {e : Expression}
    (h : Phrase .sum ts e) (hAdmits : s.Admits 1) (hExpects : s.expects = .operand)
    (op : Operator) :
    ∃ (tree : Expression) (root : Operator),
      s.program (ts ++ [.operator op]) = tree.postorder ++ .operator root :: s.flush := by
  obtain ⟨hLower, hUpper⟩ := op.precedence_bounds
  -- where the operator binds no tighter than the phrase, it waits for all of it
  have hOperator : ∀ level, op.precedence ≤ level → s.Converts ts level e.postorder →
      s.program (ts ++ [.operator op]) = e.postorder ++ .operator op :: s.flush := by
    intro level hLevel hConverts
    exact program_operator hConverts hLevel (hAdmits.mono hLower)
  cases h with
  | oneProduct product =>
    exact ⟨e, op, hOperator 2 hUpper
      (converts_of_phrase product (hAdmits.mono (by decide)) hExpects)⟩
  | plus join loose left right =>
    -- a loose operator takes the whole sum, a tight one its last term only
    rcases op.loose_or_tight with hLoose | hTight
    · exact ⟨_, op, hOperator 1 (Phrase.precedence_of_loose hLoose).le
        (converts_of_phrase (.plus join loose left right) hAdmits hExpects)⟩
    · rw [List.append_assoc]
      exact ⟨_, join, program_joined hAdmits (converts_of_phrase left hAdmits hExpects) loose
        right hTight⟩

end Converter

-- ---------------------------------------------------------------------------
-- The operator executed last
-- ---------------------------------------------------------------------------

/-- Which operator is executed last when an operator stands behind a complete expression. -/
inductive AppliedLast (op : Operator) : List Token → Operator → Prop where
  /-- A leading `-` is applied to all that follows it. -/
  | leading {ts e} (sum : Phrase .sum ts e) : AppliedLast op (.operator .subtract :: ts) .subtract
  /-- A `*` or a `/` belongs to the last term of a sum, so that the operator which joins this
  term comes after it. -/
  | joining {ts us l r} (join : Operator) (loose : join = .add ∨ join = .subtract)
      (left : Phrase .openingSum ts l) (right : Phrase .product us r)
      (tight : op = .multiply ∨ op = .divide) : AppliedLast op (ts ++ .operator join :: us) join
  /-- A `+` or a `-` comes after all terms of a sum. -/
  | behindSum {ts e} (loose : op = .add ∨ op = .subtract) (sum : Phrase .openingSum ts e) :
      AppliedLast op ts op
  /-- A `*` or a `/` comes after all factors of a product. -/
  | behindProduct {ts e} (tight : op = .multiply ∨ op = .divide)
      (product : Phrase .openingProduct ts e) : AppliedLast op ts op

/-- Behind every complete expression an operator is executed last. -/
theorem Phrase.exists_appliedLast {ts : List Token} {e : Expression} (h : Phrase .group ts e)
    (op : Operator) : ∃ last, AppliedLast op ts last := by
  cases h with
  | negatedGroup sum => exact ⟨.subtract, .leading sum⟩
  | plainGroup sum =>
    rcases op.loose_or_tight with hLoose | hTight
    · exact ⟨op, .behindSum hLoose sum⟩
    · cases sum with
      | openingOne product => exact ⟨op, .behindProduct hTight product⟩
      | openingPlus join loose left right => exact ⟨join, .joining join loose left right hTight⟩

open Converter in
/-- All but the operator executed last make up the listing of a tree. -/
theorem AppliedLast.exists_ofTokens_eq {op last : Operator} {ts : List Token}
    (h : AppliedLast op ts last) :
    ∃ tree : Expression,
      Program.ofTokens (ts ++ [.operator op]) = tree.postorder ++ [.operator last] := by
  cases h with
  | @leading ts e sum =>
    obtain ⟨tree, root, hProgram⟩ := exists_program_sum (s := ⟨[.groupNegation], .operand⟩) sum
      (admits_cons (by decide) (by simp) [] .operand) rfl op
    -- the negation is written behind the tree, and its `0` in front of it
    refine ⟨.binary root (.number "0") tree, ?_⟩
    have hOpen : Program.ofTokens (.operator .subtract :: ts ++ [.operator op]) =
        .number "0" :: (Converter.mk [.groupNegation] .operand).program (ts ++ [.operator op]) :=
      rfl
    rw [hOpen, hProgram]
    simp [Expression.postorder, flush, Waiting.token]
  | @joining ts us l r _ loose left right tight =>
    refine ⟨.binary op l r, ?_⟩
    rw [List.append_assoc]
    exact program_joined (admits_start 1) (converts_of_phrase left (admits_start 1) trivial) loose
      right tight
  | @behindSum ts e loose sum =>
    exact ⟨e, program_operator (converts_of_phrase sum (admits_start 1) trivial)
      (Phrase.precedence_of_loose loose).le (admits_start _)⟩
  | @behindProduct ts e tight product =>
    exact ⟨e, program_operator (converts_of_phrase product (admits_start 2) trivial)
      (Phrase.precedence_of_tight tight).le (admits_start _)⟩

-- ---------------------------------------------------------------------------
-- Dangling operators
-- ---------------------------------------------------------------------------

namespace Phrase

open Program

/-- **Dangling operators.** A complete expression with an operator behind it misses an operand,
and the operator that is reported is the one executed last. -/
theorem execute_dangling {ts : List Token} {e : Expression} (h : Phrase .group ts e)
    (hNumerals : ∀ text, .number text ∈ ts → (Number.read? text).isSome) (op : Operator) :
    (∃ last, AppliedLast op ts last) ∧
      ∀ last, AppliedLast op ts last →
        (ofTokens (ts ++ [.operator op])).execute =
          .error (.missingOperand (.operator last)) := by
  refine ⟨h.exists_appliedLast op, ?_⟩
  intro last hLast
  obtain ⟨tree, hProgram⟩ := hLast.exists_ofTokens_eq
  -- the tree has the numbers of the expression and of signs, so it has a value
  have hGiven : ∀ text, .number text ∈ ts ++ [.operator op] → (Number.read? text).isSome := by
    simpa using hNumerals
  have hListed : ∀ text, .number text ∈ tree.postorder → (Number.read? text).isSome := by
    intro text hText
    apply isSome_read?_of_mem_ofTokens hGiven
    rw [hProgram]
    exact List.mem_append_left _ hText
  obtain ⟨v, hValue⟩ := Expression.exists_value hListed
  rw [hProgram]
  exact execute_append_operator (Expression.execute_postorder hValue) last

/-- `8 - 2 * - sqrt ( 9 ) /` misses an operand of the `-` between its terms. -/
theorem execute_dangling_terms :
    (ofTokens [.number "8", .operator .subtract, .number "2", .operator .multiply,
        .operator .subtract, .function .sqrt, .leftParen, .number "9", .rightParen,
        .operator .divide]).execute = .error (.missingOperand (.operator .subtract)) := by
  have hLeft : Phrase .openingSum [.number "8"] (.number "8") :=
    openingOne (openingAtom (number "8"))
  have hRoot : Phrase .factor [.function .sqrt, .leftParen, .number "9", .rightParen]
      (.call .sqrt (.number "9")) :=
    unsigned (call .sqrt (plainGroup (openingOne (openingAtom (number "9")))))
  have hRight : Phrase .product [.number "2", .operator .multiply, .operator .subtract,
      .function .sqrt, .leftParen, .number "9", .rightParen] _ :=
    times .multiply (Or.inl rfl) (oneFactor (unsigned (number "2"))) (signed hRoot)
  have hPhrase : Phrase .group [.number "8", .operator .subtract, .number "2",
      .operator .multiply, .operator .subtract, .function .sqrt, .leftParen, .number "9",
      .rightParen] _ :=
    plainGroup (openingPlus .subtract (Or.inr rfl) hLeft hRight)
  exact (execute_dangling hPhrase (by simp; decide) .divide).2 .subtract
    (.joining .subtract (Or.inr rfl) hLeft hRight (Or.inr rfl))

/-- The operator without a right operand is not always the one reported: `5 + 3 *` misses an
operand of the `+`. -/
theorem dangling_operator_unreported :
    ¬ ∀ (ts : List Token) (e : Expression) (op : Operator), Phrase .group ts e →
      (∀ text, .number text ∈ ts → (Number.read? text).isSome) →
        (ofTokens (ts ++ [.operator op])).execute =
          .error (.missingOperand (.operator op)) := by
  intro h
  have hPhrase : Phrase .group [.number "5", .operator .add, .number "3"] _ :=
    plainGroup (openingPlus .add (Or.inl rfl) (openingOne (openingAtom (number "5")))
      (oneFactor (unsigned (number "3"))))
  have hMultiply := h _ _ .multiply hPhrase (by simp; decide)
  have hAdd : (ofTokens [.number "5", .operator .add, .number "3",
      .operator .multiply]).execute = .error (.missingOperand (.operator .add)) := by
    decide +kernel
  exact absurd (hAdd.symm.trans hMultiply) (by simp)

end Phrase

end PocketCalculator
