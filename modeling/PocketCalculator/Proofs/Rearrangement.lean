import PocketCalculator.Proofs.Brackets
import PocketCalculator.Proofs.Neighbours

/-!
# PocketCalculator — programs as rearrangements

A program consists of the tokens of its expression. Numbers keep their order, since they
are written when they are read and nothing that waits is a number; operators and functions
change their places, but none is lost or written twice. Of the parentheses only the `(`
that are never closed are written, at the end. The only tokens that are added are the `0`
of signs.

* `Converter.filter_isNumber_program` — the numbers, in order.
* `Converter.isParenthesis_of_mem_output` — no parentheses before the end.
* `Program.length_ofTokens` — how long a program is.
* `Program.ofTokens_rearranges` — all of this together.
-/

namespace PocketCalculator

/-- The number of signs among some tokens. -/
def signs (previous : Option Token) : List Token → Nat
  | [] => 0
  | t :: ts => (if isSign previous t then 1 else 0) + signs (some t) ts

/-- The numbers among some tokens in order, with a `0` in the place of every sign. -/
def numbers (previous : Option Token) : List Token → List Token
  | [] => []
  | t :: ts =>
    (if isSign previous t then [.number "0"] else if t.isNumber then [t] else [])
      ++ numbers (some t) ts

namespace Converter

-- ---------------------------------------------------------------------------
-- Tokens that are written
-- ---------------------------------------------------------------------------

/-- The end of a group writes no token but a function that waited for it. -/
theorem mem_callOf {stack : List Waiting} {u : Token} (h : u ∈ callOf stack) :
    ∃ f, .function f ∈ stack ∧ u = .function f := by
  match stack, h with
  | .leftParen :: .function f :: _, h => exact ⟨f, by simp, List.mem_singleton.mp h⟩

/-- All that is written for a token: the token itself, the `0` of its negation, or something
that waited and is no `(`. -/
theorem mem_written {s : Converter} {t u : Token} (h : u ∈ s.written t) :
    (u = t ∧ t.isNumber = true) ∨ (s.negates t = true ∧ u = .number "0") ∨
      ∃ w ∈ s.stack, w ≠ .leftParen ∧ u = w.token := by
  -- what an operator or a `)` takes from the top stops in front of the innermost `(`
  have hTaken : ∀ test : Waiting → Bool, test .leftParen = false →
      u ∈ (s.stack.takeWhile test).map Waiting.token →
      ∃ w ∈ s.stack, w ≠ .leftParen ∧ u = w.token := by
    intro test hTest hMem
    obtain ⟨w, hw, rfl⟩ := List.mem_map.mp hMem
    refine ⟨w, (List.takeWhile_sublist test).subset hw, ?_, rfl⟩
    rintro rfl
    have hPassed := List.mem_takeWhile_imp hw
    simp [hTest] at hPassed
  cases t with
  | number text => exact Or.inl ⟨List.mem_singleton.mp h, rfl⟩
  | function f | leftParen => simp [written] at h
  | rightParen =>
    rw [written, List.mem_append] at h
    rcases h with hMem | hCall
    · exact Or.inr (Or.inr (hTaken _ isInside_leftParen hMem))
    · obtain ⟨f, hf, rfl⟩ := mem_callOf hCall
      exact Or.inr (Or.inr ⟨_, (List.dropWhile_sublist _).subset hf, by simp, rfl⟩)
  | operator op =>
    by_cases hNegates : s.negates (.operator op) = true
    · rw [written_of_negates hNegates] at h
      exact Or.inr (Or.inl ⟨hNegates, List.mem_singleton.mp h⟩)
    · rw [written_of_not_negates hNegates] at h
      exact Or.inr (Or.inr (hTaken _ (yieldsTo_leftParen op) h))

/-- A `(` that waits is passed over by all that is written, and a `)` never waits. -/
theorem isParenthesis_of_mem_written {s : Converter} {t u : Token} (h : u ∈ s.written t) :
    u.isParenthesis = false := by
  rcases mem_written h with ⟨rfl, hNumber⟩ | ⟨-, rfl⟩ | ⟨w, -, hw, rfl⟩
  · cases u <;> simp_all [Token.isNumber, Token.isParenthesis]
  · rfl
  · rw [Waiting.isParenthesis_token]
    exact decide_eq_false hw

/-- No parentheses are written before the end. -/
theorem isParenthesis_of_mem_output {s : Converter} {ts : List Token} {u : Token}
    (h : u ∈ s.output ts) : u.isParenthesis = false := by
  induction ts generalizing s with
  | nil => exact absurd h List.not_mem_nil
  | cons t ts ih =>
    rw [output, List.mem_append] at h
    rcases h with hWritten | hRest
    · exact isParenthesis_of_mem_written hWritten
    · exact ih hRest

-- ---------------------------------------------------------------------------
-- Numbers
-- ---------------------------------------------------------------------------

theorem filter_isNumber_flush (s : Converter) : s.flush.filter Token.isNumber = [] := by
  rw [← List.length_eq_zero_iff, ← List.countP_eq_length_filter, countP_isNumber_flush]

/-- A token writes the number that it is, or the `0` of the negation that it is. -/
theorem filter_isNumber_written (s : Converter) (t : Token) :
    (s.written t).filter Token.isNumber =
      if s.negates t then [.number "0"] else if t.isNumber then [t] else [] := by
  by_cases hNegates : s.negates t = true
  · rw [if_pos hNegates]
    cases t with
    | operator op =>
      rw [written_of_negates hNegates]
      rfl
    -- only an operator negates
    | number _ | function _ | leftParen | rightParen =>
      rw [negates_eq_false_of_ne_operator (by simp)] at hNegates
      cases hNegates
  · rw [if_neg hNegates]
    by_cases hNumber : t.isNumber = true
    · match t, hNumber with
      | .number text, _ => rfl
    · -- all that is written has waited
      rw [if_neg hNumber, List.filter_eq_nil_iff]
      intro u hu
      rcases mem_written hu with ⟨-, hNumber'⟩ | ⟨hNegates', -⟩ | ⟨w, -, -, rfl⟩
      · exact absurd hNumber' hNumber
      · exact absurd hNegates' hNegates
      · simp [Waiting.isNumber_token]

/-- The numbers of a program are those of its tokens in order, with a `0` for each sign. -/
theorem filter_isNumber_program {s : Converter} {a : Option Token}
    (hExpects : s.expects = expectedFrom a) (ts : List Token) :
    (s.program ts).filter Token.isNumber = numbers a ts := by
  induction ts generalizing s a with
  | nil => exact filter_isNumber_flush s
  | cons t ts ih =>
    -- nothing else is written between two numbers that is a number, so the order is that of
    -- reading
    rw [program_cons, List.filter_append, filter_isNumber_written, ih (a := some t) rfl, numbers,
      isSign_eq_negates hExpects]

/-- A sign is where the converter negates. -/
theorem signs_eq_negations {s : Converter} {a : Option Token}
    (hExpects : s.expects = expectedFrom a) (ts : List Token) : signs a ts = s.negations ts := by
  induction ts generalizing s a with
  | nil => rfl
  | cons t ts ih =>
    rw [signs, negations, isSign_eq_negates hExpects, ih (s := s.next t) rfl]

-- ---------------------------------------------------------------------------
-- Parentheses
-- ---------------------------------------------------------------------------

/-- The `(` that are written at the end are those that still wait. -/
theorem count_leftParen_flush (s : Converter) :
    s.flush.count .leftParen = s.stack.count .leftParen := by
  rw [flush, List.count, List.countP_map, List.count]
  refine List.countP_congr fun w _ => ?_
  simp [Waiting.token_eq_leftParen_iff]

theorem rightParen_notMem_flush (s : Converter) : .rightParen ∉ s.flush := by
  intro hMem
  obtain ⟨w, -, hw⟩ := List.mem_map.mp hMem
  cases w <;> cases hw

end Converter

namespace Program

variable (ts : List Token)

/-- No `)` is ever written. -/
theorem rightParen_notMem_ofTokens : .rightParen ∉ ofTokens ts := by
  rw [ofTokens, List.mem_append, not_or]
  -- not while tokens are read, and not at the end
  refine ⟨fun hMem => ?_, Converter.rightParen_notMem_flush _⟩
  cases Converter.isParenthesis_of_mem_output hMem

/-- The `(` of a program are those that are never closed. -/
theorem count_leftParen_ofTokens :
    (ofTokens ts).count .leftParen = (Brackets.ofTokens ts).opened := by
  have hOutput : (Converter.start.output ts).count .leftParen = 0 := by
    rw [List.count_eq_zero]
    intro hMem
    cases Converter.isParenthesis_of_mem_output hMem
  rw [ofTokens, List.count_append, hOutput, Nat.zero_add, Converter.count_leftParen_flush]
  -- those that wait at the end are those that bracket matching leaves open
  exact (Converter.opened_foldl (s := .start) rfl ts).symm

/-- Tokens are parentheses or not. -/
theorem length_eq_countP_add_count (us : List Token) :
    us.length = us.countP (fun t => !t.isParenthesis) + us.count .leftParen
      + us.count .rightParen := by
  induction us with
  | nil => rfl
  | cons u us ih =>
    cases u <;> simp [Token.isParenthesis, ih] <;> omega

/-- A program is as long as its expression with a `0` for each sign, less both parentheses of
each pair and the `)` without a partner. -/
theorem length_ofTokens :
    (ofTokens ts).length + 2 * (Brackets.ofTokens ts).matched + (Brackets.ofTokens ts).unmatched =
      ts.length + signs none ts := by
  have hProgram := length_eq_countP_add_count (ofTokens ts)
  have hTokens := length_eq_countP_add_count ts
  have hKept := countP_ofTokens (fun t => !t.isParenthesis) rfl rfl ts
  have hZero : [Token.number "0"].countP (fun t => !t.isParenthesis) = 1 := rfl
  have hLeft := Brackets.opened_add_matched_foldl .none ts
  have hRight := Brackets.matched_add_unmatched_foldl .none ts
  -- both lengths are split into parentheses and other tokens; of the others there are as many,
  -- and the `0` of signs
  rw [count_leftParen_ofTokens, List.count_eq_zero.mpr (rightParen_notMem_ofTokens ts), hKept,
    hZero] at hProgram
  rw [Converter.signs_eq_negations (s := .start) rfl]
  simp only [Brackets.none] at hLeft hRight
  simp only [Brackets.ofTokens, Brackets.none] at hProgram ⊢
  omega

/-- **Rearrangement.** A program has the numbers of its expression in their order, with a `0`
for every sign, all its operators and functions, none of its `)` and the `(` that are never
closed. -/
theorem ofTokens_rearranges :
    (ofTokens ts).filter Token.isNumber = numbers none ts ∧
      (∀ op, (ofTokens ts).count (.operator op) = ts.count (.operator op)) ∧
      (∀ f, (ofTokens ts).count (.function f) = ts.count (.function f)) ∧
      .rightParen ∉ ofTokens ts ∧
      (ofTokens ts).count .leftParen = (Brackets.ofTokens ts).opened ∧
      (ofTokens ts).length + 2 * (Brackets.ofTokens ts).matched
          + (Brackets.ofTokens ts).unmatched =
        ts.length + signs none ts := by
  refine ⟨Converter.filter_isNumber_program rfl ts, fun op => ?_, fun f => ?_,
    rightParen_notMem_ofTokens ts, count_leftParen_ofTokens ts, length_ofTokens ts⟩
  · exact countP_ofTokens (· == .operator op) rfl rfl ts
  · exact countP_ofTokens (· == .function f) rfl rfl ts

end Program

end PocketCalculator
