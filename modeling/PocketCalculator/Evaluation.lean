import PocketCalculator.Lexeme
import PocketCalculator.Program.Execution

/-!
# PocketCalculator — evaluation

From the text of an expression to its value.
-/

namespace PocketCalculator

/-- Which results are accepted. -/
structure Settings where
  /-- Whether a result that is infinite or not a number is an error. -/
  strict : Bool := false
  deriving DecidableEq

/-- Accepts or refuses a value. -/
def Settings.check (settings : Settings) (v : Float) : Except EvaluationError Float :=
  if settings.strict && !v.isFinite then .error (.nonFinite v) else .ok v

/-- The value of an expression. An unknown symbol anywhere is reported before any
operand is looked at. -/
def evaluate (settings : Settings) (source : String) : Except EvaluationError Float :=
  match readTokens source with
  | .error e => .error e
  | .ok tokens =>
    match (Program.ofTokens tokens).execute with
    | .error e => .error e
    | .ok v => settings.check v

/-- A value that is accepted is passed on as it is. -/
theorem Settings.eq_of_check {settings : Settings} {v w : Float}
    (h : settings.check v = .ok w) : v = w := by
  rw [check] at h
  split at h
  · cases h
  · exact Except.ok.inj h

/-- The only refusal names the value that is refused. -/
theorem Settings.eq_nonFinite_of_check {settings : Settings} {v : Float} {e : EvaluationError}
    (h : settings.check v = .error e) : e = .nonFinite v := by
  rw [check] at h
  split at h
  · exact (Except.error.inj h).symm
  · cases h

/-- Once a text is read as tokens, it has the value of their program if the settings accept
that. -/
theorem evaluate_of_readTokens {settings : Settings} {source : String} {tokens : List Token}
    (h : readTokens source = .ok tokens) :
    evaluate settings source = (Program.ofTokens tokens).execute.bind settings.check := by
  cases hExecute : (Program.ofTokens tokens).execute <;>
    simp [evaluate, h, hExecute, Except.bind]

/-- The value of an expression is that of its program. -/
theorem execute_of_evaluate {settings : Settings} {source : String} {tokens : List Token}
    {v : Float} (hTokens : readTokens source = .ok tokens)
    (h : evaluate settings source = .ok v) :
    (Program.ofTokens tokens).execute = .ok v := by
  rw [evaluate_of_readTokens hTokens] at h
  cases hExecute : (Program.ofTokens tokens).execute with
  | error e =>
    rw [hExecute] at h
    cases h
  | ok w =>
    rw [hExecute] at h
    rw [Settings.eq_of_check h]

end PocketCalculator
