import PocketCalculator.Proofs.Failures
import PocketCalculator.Proofs.Numerals
import PocketCalculator.Proofs.Rearrangement
import PocketCalculator.Proofs.Spelling

/-!
# PocketCalculator — malformed numbers

Numbers are executed in the order in which they stand in the expression. So the first of
them that is malformed ends an evaluation, unless an operand is found missing before.

* `Program.findSome?_ofTokens` — the first malformed number of a program is that of its
  expression.
* `Program.execute_of_malformed` — nothing behind a malformed number is executed.
* `evaluate_malformed` — what an evaluation makes of malformed numbers.
-/

namespace PocketCalculator

/-- The text of a malformed number. -/
def Token.malformed? : Token → Option String
  | .number text => if Number.Malformed text then some text else none
  | _ => none

/-- The text of the first malformed number. -/
def firstMalformed? (ts : List Token) : Option String :=
  ts.findSome? Token.malformed?

namespace Token

/-- Only a number is malformed, and it is known by its text. -/
theorem malformed?_eq_some_iff {t : Token} {text : String} :
    t.malformed? = some text ↔ t = .number text ∧ Number.Malformed text := by
  cases t with
  | number other =>
    by_cases hMalformed : Number.Malformed other
    · simp only [malformed?, if_pos hMalformed, Option.some.injEq, Token.number.injEq]
      exact ⟨fun hText => ⟨hText, hText ▸ hMalformed⟩, And.left⟩
    · simp only [malformed?, if_neg hMalformed, reduceCtorEq, Token.number.injEq, false_iff]
      rintro ⟨rfl, hOther⟩
      exact hMalformed hOther
  | _ => simp [malformed?]

/-- What is no number is not malformed. -/
theorem malformed?_of_not_isNumber {t : Token} (h : ¬ t.isNumber = true) :
    t.malformed? = none := by
  cases t with
  | number text => exact absurd rfl h
  | _ => rfl

end Token

-- ---------------------------------------------------------------------------
-- The first malformed number
-- ---------------------------------------------------------------------------

/-- Whether numbers are malformed does not depend on what stands between them. -/
theorem firstMalformed?_filter (ts : List Token) :
    firstMalformed? (ts.filter Token.isNumber) = firstMalformed? ts := by
  induction ts with
  | nil => rfl
  | cons t ts ih =>
    by_cases hNumber : t.isNumber = true
    · rw [List.filter_cons_of_pos hNumber]
      simp only [firstMalformed?, List.findSome?_cons] at ih ⊢
      rw [ih]
    · rw [List.filter_cons_of_neg hNumber, ih]
      simp only [firstMalformed?, List.findSome?_cons, Token.malformed?_of_not_isNumber hNumber]

/-- Signs are no numbers, and the `0` of a sign is not malformed. -/
theorem firstMalformed?_numbers (a : Option Token) (ts : List Token) :
    firstMalformed? (numbers a ts) = firstMalformed? ts := by
  induction ts generalizing a with
  | nil => rfl
  | cons t ts ih =>
    -- a sign gives its `0`, which is a numeral, and the other tokens give themselves or nothing
    have hHead : ((if isSign a t then [.number "0"] else if t.isNumber then [t] else []).findSome?
        Token.malformed?) = t.malformed? := by
      by_cases hSign : isSign a t = true
      · have hOperator : ¬ t.isNumber = true := by
          cases t <;> simp_all [isSign, Token.isNumber]
        rw [if_pos hSign, Token.malformed?_of_not_isNumber hOperator]
        decide
      · by_cases hNumber : t.isNumber = true
        · rw [if_neg hSign, if_pos hNumber, List.findSome?_singleton]
        · rw [if_neg hSign, if_neg hNumber, Token.malformed?_of_not_isNumber hNumber]
          rfl
    have hTail := ih (some t)
    simp only [firstMalformed?] at hTail ⊢
    rw [numbers, List.findSome?_append, hHead, hTail, List.findSome?_cons]
    cases t.malformed? <;> rfl

namespace Program

theorem findSome?_ofTokens (ts : List Token) :
    firstMalformed? (ofTokens ts) = firstMalformed? ts := by
  rw [← firstMalformed?_filter, (ofTokens_rearranges ts).1, firstMalformed?_numbers]

/-- The numbers of a program are spelled as numbers are. -/
theorem wellSpelled_of_mem_ofTokens {ts : List Token} (h : ∀ t ∈ ts, t.WellSpelled) :
    ∀ t ∈ ofTokens ts, t.WellSpelled := by
  intro t ht
  cases t with
  | number text =>
    rcases number_mem_of_mem_ofTokens ht with hMem | rfl
    · exact h _ hMem
    · exact ⟨by decide, List.forall_iff_forall_mem.mp (by decide)⟩
  | _ => trivial

-- ---------------------------------------------------------------------------
-- Execution
-- ---------------------------------------------------------------------------

/-- A number that stops a program is malformed. -/
theorem malformed_of_run {operands : List Float} {p : Program} {text : String}
    (hSpelled : ∀ t ∈ p, t.WellSpelled) (h : run operands p = .error (.malformedNumber text)) :
    .number text ∈ p ∧ Number.Malformed text := by
  rcases run_error_cases h with ⟨_, hMem, hRead, he⟩ | ⟨_, -, he⟩
  · cases he
    exact ⟨hMem, (Number.read?_eq_none_iff (hSpelled _ hMem).2).mp hRead⟩
  · cases he

/-- A program does not get past a malformed number. -/
theorem execute_of_malformed {p : Program} {text : String} (hSpelled : ∀ t ∈ p, t.WellSpelled)
    (h : firstMalformed? p = some text) :
    p.execute = .error (.malformedNumber text) ∨ ∃ t, p.execute = .error (.missingOperand t) := by
  obtain ⟨before, _, after, rfl, hText, hBefore⟩ := List.findSome?_eq_some_iff.mp h
  obtain ⟨rfl, hMalformed⟩ := Token.malformed?_eq_some_iff.mp hText
  have hRead : Number.read? text = none :=
    (Number.read?_eq_none_iff (hSpelled (.number text) (by simp)).2).mpr hMalformed
  rw [execute, run_append]
  cases hRun : run [] before with
  | ok left =>
    -- the number is reached
    exact Or.inl (by simp [Except.bind, run, step, hRead])
  | error e =>
    have hSpelledBefore : ∀ t ∈ before, t.WellSpelled := fun t ht =>
      hSpelled t (List.mem_append_left _ ht)
    rcases run_error_cases hRun with ⟨other, -, -, rfl⟩ | ⟨t, -, rfl⟩
    · -- the part in front of the first malformed number has none of its own
      obtain ⟨hMem, hOther⟩ := malformed_of_run hSpelledBefore hRun
      have hNone := hBefore _ hMem
      rw [Token.malformed?_eq_some_iff.mpr ⟨rfl, hOther⟩] at hNone
      cases hNone
    · exact Or.inr ⟨t, rfl⟩

end Program

-- ---------------------------------------------------------------------------
-- Evaluation
-- ---------------------------------------------------------------------------

/-- **Malformed numbers.** Without malformed numbers none is reported. With one the evaluation
fails, with the first of them or with an operand that is missing. -/
theorem evaluate_malformed {source : String} {ts : List Token} (h : readTokens source = .ok ts)
    (settings : Settings) :
    (firstMalformed? ts = none →
        ∀ text, evaluate settings source ≠ .error (.malformedNumber text)) ∧
      ∀ text, firstMalformed? ts = some text →
        evaluate settings source = .error (.malformedNumber text) ∨
          ∃ t, evaluate settings source = .error (.missingOperand t) := by
  have hSpelled := Program.wellSpelled_of_mem_ofTokens (wellSpelled_of_readTokens h)
  refine ⟨fun hNone text hError => ?_, fun text hFirst => ?_⟩
  · -- a malformed number that was reported would be one of the program, and so of the
    -- expression
    rcases evaluate_error_cases hError with ⟨hRead, -⟩ | ⟨ts', hRead, hCases⟩
    · cases h.symm.trans hRead
    · cases h.symm.trans hRead
      rcases hCases with ⟨_, hMem, hText, he⟩ | ⟨_, -, he⟩ | ⟨_, he⟩ | ⟨-, _, he⟩
      · cases he
        have hMalformed := (Number.read?_eq_none_iff (hSpelled _ hMem).2).mp hText
        rw [← Program.findSome?_ofTokens] at hNone
        have hNot := List.findSome?_eq_none_iff.mp hNone _ hMem
        rw [Token.malformed?_eq_some_iff.mpr ⟨rfl, hMalformed⟩] at hNot
        cases hNot
      · cases he
      · cases he
      · cases he
  · rw [evaluate_of_readTokens h]
    rw [← Program.findSome?_ofTokens] at hFirst
    rcases Program.execute_of_malformed hSpelled hFirst with hExecute | ⟨t, hExecute⟩
    · exact Or.inl (by rw [hExecute]; rfl)
    · exact Or.inr ⟨t, by rw [hExecute]; rfl⟩

/-- In `1.2.3 + .` the first number has two points and the second no digit. -/
theorem evaluate_malformed_points :
    readTokens "1.2.3 + ." = .ok [.number "1.2.3", .operator .add, .number "."] ∧
      firstMalformed? [.number "1.2.3", .operator .add, .number "."] = some "1.2.3" ∧
      (evaluate {} "1.2.3 + ." = .error (.malformedNumber "1.2.3") ∨
        ∃ t, evaluate {} "1.2.3 + ." = .error (.missingOperand t)) := by
  have hRead : readTokens "1.2.3 + ." =
      .ok [.number "1.2.3", .operator .add, .number "."] := by
    decide
  have hFirst : firstMalformed? [.number "1.2.3", .operator .add, .number "."] =
      some "1.2.3" := by
    decide
  exact ⟨hRead, hFirst, (evaluate_malformed hRead {}).2 "1.2.3" hFirst⟩

end PocketCalculator
