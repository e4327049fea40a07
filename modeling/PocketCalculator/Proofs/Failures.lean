import PocketCalculator.Evaluation
import PocketCalculator.Proofs.Execution
import PocketCalculator.Proofs.Lexemes

/-!
# PocketCalculator — failures

Which stage of an evaluation fails with which error. Reading reports the first lexeme that
is unknown; execution reports a number that is no numeral, an operand that is missing or
surplus values; and only strict settings refuse a value.

* `Lexeme.unknown_of_tokens` — all that reading can report.
* `evaluate_error_cases` — all that an evaluation can report.
* `isFinite_of_evaluate`, `evaluate_ne_nonFinite` — what the settings decide.
* `evaluate_ne_unknownSymbol` — what reading decides.
-/

namespace PocketCalculator

/-- Reading fails with the text of an unknown lexeme. -/
theorem Lexeme.unknown_of_tokens {ws : List Lexeme} {e : EvaluationError}
    (h : tokens ws = .error e) :
    ∃ w ∈ ws, w.read = .unknown ∧ e = .unknownSymbol (.ofList w) := by
  obtain ⟨front, w, rest, ts, rfl, -, hUnknown⟩ := Lexeme.exists_unknown_of_tokens h
  exact ⟨w, by simp, hUnknown⟩

/-- Only strict settings refuse a value. -/
theorem Settings.check_error_cases {settings : Settings} {v : Float} {e : EvaluationError}
    (h : settings.check v = .error e) : settings.strict = true ∧ e = .nonFinite v := by
  refine ⟨?_, eq_nonFinite_of_check h⟩
  rw [check] at h
  split at h
  · rename_i hRefused
    exact (Bool.and_eq_true_iff.mp hRefused).1
  · cases h

/-- Strict settings accept finite values only. -/
theorem Settings.isFinite_of_check {settings : Settings} {v w : Float}
    (hStrict : settings.strict = true) (h : settings.check v = .ok w) : w.isFinite = true := by
  rw [← eq_of_check h]
  rw [check, hStrict, Bool.true_and] at h
  split at h
  · cases h
  · rename_i hFinite
    simpa using hFinite

/-- All that an evaluation can report: an unknown lexeme; else a number of the program that is
no numeral, a token of it without its operands, or how many values are left; else, with
strict settings, a value. -/
theorem evaluate_error_cases {settings : Settings} {source : String} {e : EvaluationError}
    (h : evaluate settings source = .error e) :
    (readTokens source = .error e ∧
        ∃ w ∈ Lexeme.split source.toList, w.read = .unknown ∧ e = .unknownSymbol (.ofList w)) ∨
      ∃ ts, readTokens source = .ok ts ∧
        ((∃ text, .number text ∈ Program.ofTokens ts ∧ Number.read? text = none ∧
            e = .malformedNumber text) ∨
          (∃ t ∈ Program.ofTokens ts, e = .missingOperand t) ∨
          (∃ remaining, e = .unbalanced remaining) ∨
          (settings.strict = true ∧ ∃ v, e = .nonFinite v)) := by
  -- the stages in their order, each of which can be the last
  cases hRead : readTokens source with
  | error e' =>
    simp only [evaluate, hRead, Except.error.injEq] at h
    subst h
    exact Or.inl ⟨rfl, Lexeme.unknown_of_tokens hRead⟩
  | ok ts =>
    refine Or.inr ⟨ts, rfl, ?_⟩
    rw [evaluate_of_readTokens hRead] at h
    cases hExecute : (Program.ofTokens ts).execute with
    | error e' =>
      rw [hExecute] at h
      cases h
      rcases Program.execute_error_cases hExecute with hRun | ⟨left, -, -, rfl⟩
      · exact (Program.run_error_cases hRun).imp_right Or.inl
      · exact Or.inr (Or.inr (Or.inl ⟨left.length, rfl⟩))
    | ok v =>
      rw [hExecute] at h
      obtain ⟨hStrict, he⟩ := Settings.check_error_cases h
      exact Or.inr (Or.inr (Or.inr ⟨hStrict, v, he⟩))

/-- With strict settings every value is finite. -/
theorem isFinite_of_evaluate {settings : Settings} {source : String} {v : Float}
    (hStrict : settings.strict = true) (h : evaluate settings source = .ok v) :
    v.isFinite = true := by
  cases hRead : readTokens source with
  | error e => simp [evaluate, hRead] at h
  | ok ts =>
    have hExecute := execute_of_evaluate hRead h
    rw [evaluate_of_readTokens hRead, hExecute] at h
    exact Settings.isFinite_of_check hStrict h

/-- Settings that are not strict refuse no value. -/
theorem evaluate_ne_nonFinite {settings : Settings} (hStrict : settings.strict = false)
    (source : String) (v : Float) : evaluate settings source ≠ .error (.nonFinite v) := by
  intro h
  -- of all errors only that of the settings is this one, and it needs them strict
  rcases evaluate_error_cases h with ⟨-, _, -, -, he⟩ | ⟨_, -, ⟨_, -, -, he⟩ | ⟨_, -, he⟩ |
    ⟨_, he⟩ | ⟨hStrict', -⟩⟩
  · cases he
  · cases he
  · cases he
  · cases he
  · rw [hStrict] at hStrict'
    cases hStrict'

/-- Only reading reports unknown symbols. -/
theorem evaluate_ne_unknownSymbol {settings : Settings} {source : String} {ts : List Token}
    (h : readTokens source = .ok ts) (symbol : String) :
    evaluate settings source ≠ .error (.unknownSymbol symbol) := by
  intro hError
  rcases evaluate_error_cases hError with ⟨hRead, -⟩ | ⟨_, -, ⟨_, -, -, he⟩ | ⟨_, -, he⟩ |
    ⟨_, he⟩ | ⟨-, _, he⟩⟩
  · rw [h] at hRead
    cases hRead
  · cases he
  · cases he
  · cases he
  · cases he

end PocketCalculator
