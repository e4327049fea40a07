import Mathlib.Data.List.Chain
import PocketCalculator.Proofs.Conservation

/-!
# PocketCalculator — neighbouring tokens

Two conditions on an expression look at neighbouring tokens only, the start and the
end counted as neighbours too. `Separated` says that operands do not touch and that
every function has its `(`. `Complete` says that no operand is missing.

* `gaps_eq_zero_iff` — an expression is complete if it has no gap.
* `Converter.balance` — every gap is an operator that numbers and negations do not
  make up for.
* `Converter.negations_add_binaryOperators` — operators are signs or stand between two
  operands.
-/

namespace PocketCalculator

-- ---------------------------------------------------------------------------
-- Places between tokens
-- ---------------------------------------------------------------------------

-- in this section `none` is the start of an expression on the left of a place
-- and its end on the right

/-- Whether an operand has to begin after a token: at the start, after a `(` and after
an operator. -/
def wantsOperand : Option Token → Bool
  | none | some .leftParen | some (.operator _) => true
  | some (.number _) | some (.function _) | some .rightParen => false

/-- Whether no operand begins with a token: at the end, at a `)` and at an operator that
is no sign. -/
def beginsNoOperand : Option Token → Bool
  | none | some .rightParen => true
  | some (.operator op) => decide (op ≠ .subtract)
  | some (.number _) | some (.function _) | some .leftParen => false

/-- Whether an operand is missing between two neighbours. -/
def isGap (a b : Option Token) : Bool :=
  wantsOperand a && beginsNoOperand b

/-- Whether an operand has just ended with a token. -/
def endsOperand : Option Token → Bool
  | some (.number _) | some .rightParen => true
  | none | some (.operator _) | some (.function _) | some .leftParen => false

/-- Whether a token is a `-` with no operand on its left: at the start or right after a `(`,
an operator or a function. -/
def isSign (a : Option Token) (t : Token) : Bool :=
  decide (t = .operator .subtract) && !endsOperand a

/-- The number of operators in some tokens that are no signs. -/
def binaryOperators (previous : Option Token) : List Token → Nat
  | [] => 0
  | t :: ts =>
    (if t.isOperator && !isSign previous t then 1 else 0) + binaryOperators (some t) ts

/-- Whether an operand begins with a token, signs apart. -/
def beginsOperand : Option Token → Bool
  | some (.number _) | some (.function _) | some .leftParen => true
  | none | some (.operator _) | some .rightParen => false

/-- Whether two neighbours are neither two operands without an operator between them nor a
function without its `(`. -/
def separates (a b : Option Token) : Bool :=
  match a with
  | some (.function _) => decide (b = some .leftParen)
  | _ => !(endsOperand a && beginsOperand b)

/-- What comes before some tokens, the tokens, and the end. -/
def line (previous : Option Token) (ts : List Token) : List (Option Token) :=
  previous :: (ts.map some ++ [none])

/-- Operands do not touch, and every function is followed by a `(`. -/
def Separated (ts : List Token) : Prop :=
  (line none ts).IsChain fun a b => separates a b = true

/-- No operand is missing. -/
def Complete (ts : List Token) : Prop :=
  (line none ts).IsChain fun a b => isGap a b = false

instance (ts : List Token) : Decidable (Separated ts) :=
  inferInstanceAs (Decidable ((line none ts).IsChain fun a b => separates a b = true))

instance (ts : List Token) : Decidable (Complete ts) :=
  inferInstanceAs (Decidable ((line none ts).IsChain fun a b => isGap a b = false))

/-- A condition on neighbours, for no tokens: it holds between what comes before and the end. -/
theorem isChain_line_nil {r : Option Token → Option Token → Prop} {a : Option Token} :
    (line a []).IsChain r ↔ r a none :=
  List.isChain_pair

theorem isChain_line_cons {r : Option Token → Option Token → Prop} {a : Option Token}
    {t : Token} {ts : List Token} :
    (line a (t :: ts)).IsChain r ↔ r a (some t) ∧ (line (some t) ts).IsChain r :=
  List.isChain_cons_cons

-- ---------------------------------------------------------------------------
-- Gaps
-- ---------------------------------------------------------------------------

/-- The number of missing operands in some tokens and at the end after them. -/
def gaps (previous : Option Token) : List Token → Nat
  | [] => if isGap previous none then 1 else 0
  | t :: ts => (if isGap previous (some t) then 1 else 0) + gaps (some t) ts

/-- There is no gap exactly if no two neighbours have one between them. -/
theorem gaps_eq_zero_iff_isChain (previous : Option Token) (ts : List Token) :
    gaps previous ts = 0 ↔ (line previous ts).IsChain fun a b => isGap a b = false := by
  induction ts generalizing previous with
  | nil => simp [gaps, isChain_line_nil]
  | cons t ts ih => simp [gaps, isChain_line_cons, ih]

/-- An expression is complete if it has no gap. -/
theorem gaps_eq_zero_iff {ts : List Token} : gaps none ts = 0 ↔ Complete ts :=
  gaps_eq_zero_iff_isChain none ts

-- ---------------------------------------------------------------------------
-- The converter between neighbours
-- ---------------------------------------------------------------------------

/-- What the converter expects between a token and the next. -/
def expectedFrom : Option Token → Expectation
  | none => .group
  | some t => Converter.expectedAfter t

/-- Where operands do not touch, one is missing exactly where the converter still expects
one and none begins. -/
theorem isGap_eq_of_separates {a b : Option Token} (h : separates a b = true) :
    isGap a b = (beginsNoOperand b && decide (expectedFrom a ≠ .operator)) := by
  match a with
  | some (.function f) =>
    -- a function is followed by its `(`, at which an operand begins
    simp only [separates, decide_eq_true_eq] at h
    subst h
    rfl
  | none | some .leftParen | some (.operator op) | some (.number text) | some .rightParen =>
    cases hBegins : beginsNoOperand b <;>
      simp [isGap, wantsOperand, hBegins, expectedFrom, Converter.expectedAfter]

/-- Where operands do not touch, one begins only where the converter expects no operator. -/
theorem expectedFrom_ne_operator {a b : Option Token} (h : separates a b = true)
    (hBegins : beginsOperand b = true) : expectedFrom a ≠ .operator := by
  match a with
  | none | some .leftParen | some (.operator op) | some (.function f) =>
    simp [expectedFrom, Converter.expectedAfter]
  | some (.number text) | some .rightParen => simp [separates, endsOperand, hBegins] at h

namespace Converter

/-- What the converter expects is told by the last token. -/
theorem expects_after {s : Converter} {a : Option Token} (h : s.expects = expectedFrom a)
    (ts : List Token) : (s.after ts).expects = expectedFrom (ts.getLast?.or a) := by
  rcases List.eq_nil_or_concat' ts with rfl | ⟨init, t, rfl⟩
  · -- only the last token matters, whatever state it was read in
    exact h
  · rw [after_append, List.getLast?_concat]
    rfl

/-- One where an operand has just ended, so that an operator can take it. -/
def completed (s : Converter) : Nat :=
  if s.expects = .operator then 1 else 0

/-- A token ends an operand by its number, its negation, the operand before it or a gap,
and an operator takes one. -/
theorem balance_token {s : Converter} {a : Option Token} {t : Token}
    (hExpects : s.expects = expectedFrom a) (h : separates a (some t) = true) :
    (if t.isNumber then 1 else 0) + (if s.negates t then 1 else 0) + s.completed +
        (if isGap a (some t) then 1 else 0) =
      (if t.isOperator then 1 else 0) + (s.next t).completed := by
  rw [isGap_eq_of_separates h, ← hExpects]
  cases t with
  -- a `-` negates exactly where it neither takes an operand nor stands in a gap
  | operator op =>
    by_cases hExpected : s.expects = .operator <;> by_cases hSign : op = .subtract <;>
      simp [Token.isNumber, Token.isOperator, negates, completed, next, expectedAfter,
        beginsNoOperand, hExpected, hSign]
  | rightParen =>
    by_cases hExpected : s.expects = .operator <;>
      simp [Token.isNumber, Token.isOperator, negates, completed, next, expectedAfter,
        beginsNoOperand, hExpected]
  | number _ | function _ | leftParen =>
    -- operands do not touch, so none is complete where one begins
    have hOpen : s.expects ≠ .operator := by
      rw [hExpects]
      exact expectedFrom_ne_operator h rfl
    simp [Token.isNumber, Token.isOperator, negates, completed, next, expectedAfter,
      beginsNoOperand, hOpen]

/-- At the end an operand has just ended, or one is missing there. -/
theorem balance_end {s : Converter} {a : Option Token} (hExpects : s.expects = expectedFrom a)
    (h : separates a none = true) :
    s.completed + (if isGap a none then 1 else 0) = 1 := by
  rw [isGap_eq_of_separates h, ← hExpects, completed]
  by_cases hExpected : s.expects = .operator <;> simp [beginsNoOperand, hExpected]

/-- **Balance.** From a state on, the operands that begin with numbers and negations, the one
that has just ended and the gaps make up for all operators and the value left in the end. -/
theorem balance {s : Converter} {a : Option Token} {ts : List Token}
    (hExpects : s.expects = expectedFrom a)
    (h : (line a ts).IsChain fun a b => separates a b = true) :
    ts.countP Token.isNumber + s.negations ts + s.completed + gaps a ts =
      ts.countP Token.isOperator + 1 := by
  induction ts generalizing s a with
  | nil =>
    have hEnd := balance_end hExpects (isChain_line_nil.mp h)
    simp only [List.countP_nil, negations, gaps]
    -- one token at a time: the operand that the token ends is the one the rest starts with
    omega
  | cons t ts ih =>
    obtain ⟨hHead, hTail⟩ := isChain_line_cons.mp h
    have hToken := balance_token hExpects hHead
    have hRest := ih (s := s.next t) rfl hTail
    rw [List.countP_cons, List.countP_cons, negations, gaps]
    omega

/-- Whether a `-` is a sign can be told from the token before it: the converter negates exactly
there. -/
theorem isSign_eq_negates {s : Converter} {a : Option Token} (hExpects : s.expects = expectedFrom a)
    (t : Token) : isSign a t = s.negates t := by
  rw [isSign, negates, hExpects, Bool.decide_and]
  rcases a with _ | _ | _ | _ | _ | _ <;> rfl

/-- Every operator negates what follows it or stands between two operands. -/
theorem negations_add_binaryOperators {s : Converter} {a : Option Token}
    (hExpects : s.expects = expectedFrom a) (ts : List Token) :
    s.negations ts + binaryOperators a ts = ts.countP Token.isOperator := by
  induction ts generalizing s a with
  | nil => rfl
  | cons t ts ih =>
    have hRest := ih (s := s.next t) (a := some t) rfl
    rw [negations, binaryOperators, List.countP_cons, isSign_eq_negates hExpects, ← hRest]
    cases t with
    | operator op =>
      -- an operator is counted on one of the two sides
      by_cases hNegates : s.negates (.operator op) = true
      · simp only [hNegates, Token.isOperator, if_true, Bool.not_true, Bool.and_false,
          Bool.false_eq_true, if_false]
        omega
      · simp only [hNegates, Token.isOperator, if_true, Bool.not_false, Bool.and_true,
          Bool.false_eq_true, if_false]
        omega
    | number _ | function _ | leftParen | rightParen =>
      rw [negates_eq_false_of_ne_operator (by simp)]
      simp [Token.isOperator]

end Converter

end PocketCalculator
