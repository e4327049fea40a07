import PocketCalculator.Keypad
import PocketCalculator.Proofs.Leniency
import PocketCalculator.Proofs.Neighbours
import PocketCalculator.Proofs.Products

/-!
# PocketCalculator — the negation key

The key `±` puts `(-` in front of the text and a `)` behind it. The new `-` opens a group
and waits at the bottom, where no operator moves it; so what stands behind it is converted
as after an operator, and all of it is subtracted from zero.

After an operator a text is read as at its start, but for one thing: a `-` that it begins
with negates its first operand only, no longer the whole text. This makes no difference to
the program where all operators between operands stand in parentheses, and none to the
value where the rest of the text is a product.

* `Converter.ofTokens_minus` — the program of tokens behind a `-`.
* `Converter.program_resumed` — when tokens are converted alike at the start and after an
  operator.
* `Program.execute_minus` — the value of tokens behind a `-`.
* `Keypad.press_negate_equals` — the value after `±` and `=`.
-/

namespace PocketCalculator

/-- Whether every operator between two operands stands in parentheses. -/
def OperatorsEnclosed (ts : List Token) : Prop :=
  ∀ i (h : i < ts.length), ts[i].isOperator = true →
    isSign (ts.take i).getLast? ts[i] = false → (Brackets.ofTokens (ts.take i)).opened ≠ 0

instance (ts : List Token) : Decidable (OperatorsEnclosed ts) :=
  inferInstanceAs (Decidable (∀ i (h : i < ts.length), ts[i].isOperator = true →
    isSign (ts.take i).getLast? ts[i] = false → (Brackets.ofTokens (ts.take i)).opened ≠ 0))

/-- The condition on places, said of the parts in front of an operator and behind it. -/
theorem OperatorsEnclosed.opened_ne_zero {ts : List Token} (h : OperatorsEnclosed ts)
    {p q : List Token} {op : Operator} (hSplit : ts = p ++ .operator op :: q)
    (hSign : isSign p.getLast? (.operator op) = false) : (Brackets.ofTokens p).opened ≠ 0 := by
  subst hSplit
  have hPlace := h p.length (by simp)
  simp only [List.getElem_append_right (Nat.le_refl p.length), Nat.sub_self,
    List.getElem_cons_zero, List.take_left'] at hPlace
  exact hPlace rfl hSign

namespace Converter

/-- From a state whose tokens leave the entries below alone, these are written at the end. -/
theorem program_above {base : List Waiting} {s : Converter}
    (hBase : ∀ f, base.head? ≠ some (.function f)) {ts : List Token}
    (h : ∀ p t q, ts = p ++ t :: q → (s.after p).Spares base t) :
    (s.above base).program ts = s.program ts ++ base.map Waiting.token := by
  obtain ⟨hOutput, hAfter⟩ := above_run_of_spares hBase h
  rw [program, program, hOutput, hAfter, flush, flush, above, List.map_append, List.append_assoc]

-- ---------------------------------------------------------------------------
-- Tokens behind a `-`
-- ---------------------------------------------------------------------------

/-- The state after an operator with nothing waiting. -/
def resumed : Converter :=
  ⟨[], .operand⟩

/-- With all `)` matched, each finds its `(` on the stack after an operator as well. -/
theorem leftParen_mem_of_split {ts p q : List Token} {t : Token}
    (hMatched : (Brackets.ofTokens ts).unmatched = 0) (hSplit : ts = p ++ t :: q)
    (ht : t = .rightParen) : .leftParen ∈ (resumed.after p).stack := by
  subst ht hSplit
  have hOpened : Brackets.none.opened = resumed.stack.count .leftParen := rfl
  exact leftParen_mem_of_not_isUnmatched (isUnmatched_eq_false_of_split hOpened hMatched)

/-- A `-` at the start subtracts from zero all that stands behind it, which is converted as
after an operator. -/
theorem ofTokens_minus {ts : List Token} (hMatched : (Brackets.ofTokens ts).unmatched = 0) :
    Program.ofTokens (.operator .subtract :: ts) =
      .number "0" :: (resumed.program ts ++ [.operator .subtract]) := by
  -- the negation of a group at the bottom is moved by no operator and by no matched `)`
  have hSpares : ∀ p t q, ts = p ++ t :: q →
      (resumed.after p).Spares [.groupNegation] t := by
    intro p t q hSplit
    refine ⟨leftParen_mem_of_split hMatched hSplit, fun op _ _ => Or.inr ?_⟩
    intro w hw
    rw [← Option.some.inj hw]
    cases op <;> rfl
  have hAbove := program_above (by simp) hSpares
  rw [ofTokens_eq_program, program_cons]
  exact congrArg (.number "0" :: ·) hAbove

/-- After an operator, a `-` that negates its first operand only covers everything if all
operators between operands stand in parentheses. -/
theorem program_resumed_minus {ts : List Token}
    (hMatched : (Brackets.ofTokens ts).unmatched = 0)
    (hEnclosed : OperatorsEnclosed (.operator .subtract :: ts)) :
    resumed.program (.operator .subtract :: ts) =
      .number "0" :: (resumed.program ts ++ [.operator .subtract]) := by
  -- a tight negation at the bottom is moved by every operator outside parentheses, of which
  -- there is none
  have hSpares : ∀ p t q, ts = p ++ t :: q → (resumed.after p).Spares [.negation] t := by
    intro p t q hSplit
    refine ⟨leftParen_mem_of_split hMatched hSplit, ?_⟩
    -- whether the operator is a sign is told by the token in front of it, which may be the
    -- first `-`
    rintro op rfl hNegates
    have hExpects := expects_after (s := resumed) (a := some (.operator .subtract)) rfl p
    have hLast : (Token.operator .subtract :: p).getLast? =
        p.getLast?.or (some (.operator .subtract)) := by
      rw [List.getLast?_cons]
      cases p.getLast? <;> rfl
    have hOpened := hEnclosed.opened_ne_zero (congrArg (Token.operator .subtract :: ·) hSplit)
      (by rw [hLast, isSign_eq_negates hExpects, hNegates])
    have hCount : (Brackets.ofTokens p).opened = _ := opened_foldl (s := resumed) rfl p
    -- the operator stands in parentheses, so the `(` of these is on the stack and stops it
    refine Or.inl (List.count_pos_iff.mp ?_)
    rw [← hCount]
    exact Nat.pos_of_ne_zero hOpened
  have hAbove := program_above (by simp) hSpares
  rw [program_cons]
  exact congrArg (.number "0" :: ·) hAbove

/-- Where no `-` comes first it does not matter which operand is expected. -/
theorem program_of_head?_ne {ts : List Token} (h : ts.head? ≠ some (.operator .subtract)) :
    resumed.program ts = start.program ts := by
  match ts, h with
  | [], _ => rfl
  | .number _ :: ts, _ | .function _ :: ts, _ | .leftParen :: ts, _ | .rightParen :: ts, _ => rfl
  | .operator op :: ts, h =>
    have hOther : ∀ s : Converter, ¬ s.negates (.operator op) = true := by
      intro s
      rw [negates_operator_iff]
      rintro ⟨rfl, -⟩
      exact h rfl
    rw [program_cons, program_cons, written_of_not_negates (hOther _),
      written_of_not_negates (hOther _), next_of_not_negates (hOther _),
      next_of_not_negates (hOther _)]
    rfl

/-- When tokens are converted alike after an operator and at the start. -/
theorem program_resumed {ts : List Token} (hMatched : (Brackets.ofTokens ts).unmatched = 0)
    (hSign : ts.head? ≠ some (.operator .subtract) ∨ OperatorsEnclosed ts) :
    resumed.program ts = Program.ofTokens ts := by
  -- only a `-` in front makes a difference, and that one needs the operators enclosed
  by_cases hHead : ts.head? = some (.operator .subtract)
  · obtain ⟨us, rfl⟩ := List.head?_eq_some_iff.mp hHead
    have hRest : (Brackets.ofTokens us).unmatched = 0 := hMatched
    rw [program_resumed_minus hRest (hSign.resolve_left (absurd hHead)), ofTokens_minus hRest]
  · exact program_of_head?_ne hHead

end Converter

-- ---------------------------------------------------------------------------
-- Values
-- ---------------------------------------------------------------------------

/-- Whether tokens are a `-` and a product, once the `)` that are missing at the end are
there. -/
def IsSignedProduct (ts : List Token) : Prop :=
  ∃ us u n, ts ++ List.replicate n .rightParen = .operator .subtract :: us ∧ Product us u

/-- Whether a `-` that tokens begin with, if they do, may be read after an operator as well:
what it covers at the start is one operand or a product. -/
def KeepsSign (ts : List Token) : Prop :=
  ts.head? ≠ some (.operator .subtract) ∨ OperatorsEnclosed ts ∨ IsSignedProduct ts

namespace Program

/-- Missing `)` at the end may be added without any effect. -/
theorem execute_closed_at_end (ts : List Token) (n : Nat) :
    (ofTokens (ts ++ List.replicate n .rightParen)).execute = (ofTokens ts).execute :=
  execute_eq_of_bare_eq (Converter.bare_ofTokens_enclosed 0 n ts)

/-- A `-` in front of a signed product, closed at the end or not, subtracts its value
from zero. -/
theorem execute_minus_signedProduct {ts : List Token} {v : Float} (hProduct : IsSignedProduct ts)
    (h : (ofTokens ts).execute = .ok v) :
    (ofTokens (.operator .subtract :: ts)).execute = .ok (0 - v) := by
  obtain ⟨us, u, n, hClosed, hProduct⟩ := hProduct
  have hValue := hProduct.execute_minus
  -- the `)` added at the end close the product, and both values stay the same
  rw [← hClosed, execute_closed_at_end, h, Except.ok.injEq] at hValue
  rw [← execute_closed_at_end _ n, List.cons_append, hClosed, hProduct.execute_minus_signed,
    hValue]

/-- **Signs.** Tokens behind a `-` are subtracted from zero, if a `-` that they begin with
themselves may be read after an operator. -/
theorem execute_minus {ts : List Token} {v : Float}
    (hMatched : (Brackets.ofTokens ts).unmatched = 0) (hSign : KeepsSign ts)
    (h : (ofTokens ts).execute = .ok v) :
    (ofTokens (.operator .subtract :: ts)).execute = .ok (0 - v) := by
  -- either the program is the same after an operator, or it differs and only the values agree
  rcases or_assoc.mpr hSign with hAlike | hProduct
  · rw [Converter.ofTokens_minus hMatched, Converter.program_resumed hMatched hAlike]
    exact execute_negation h
  · exact execute_minus_signedProduct hProduct h

end Program

/-- The text that `±` makes has the tokens of the text before in parentheses, behind a `-`. -/
theorem readTokens_negated (source : String) :
    readTokens ("(-" ++ source ++ ")") = (readTokens source).map fun ts =>
      [.leftParen] ++ (.operator .subtract :: ts) ++ [.rightParen] := by
  have hText : "(-" ++ source ++ ")" =
      String.ofList (List.replicate 1 '(') ++ ("-" ++ source) ++
        String.ofList (List.replicate 1 ')') := by
    rw [← String.toList_inj]
    simp
  -- the `(-` is a `(` around the `-`, and the `-` is read as a token of its own
  rw [hText, readTokens_enclosed, readTokens_minus]
  cases readTokens source <;> rfl

/-- The value of a text in `(-` and `)`. -/
theorem evaluate_negated {source : String} {ts : List Token} {v : Float}
    (hTokens : readTokens source = .ok ts) (hMatched : (Brackets.ofTokens ts).unmatched = 0)
    (hSign : KeepsSign ts) (h : evaluate {} source = .ok v) :
    evaluate {} ("(-" ++ source ++ ")") = .ok (0 - v) := by
  have hNegated : readTokens ("(-" ++ source ++ ")") =
      .ok ([.leftParen] ++ (.operator .subtract :: ts) ++ [.rightParen]) := by
    rw [readTokens_negated, hTokens]
    rfl
  -- the `(` in front and the `)` behind have no effect, whatever stands between them
  have hBare : Program.bare (.ofTokens ([.leftParen] ++ (.operator .subtract :: ts) ++
      [.rightParen])) = (Program.ofTokens (.operator .subtract :: ts)).bare :=
    Converter.bare_ofTokens_enclosed 1 1 (.operator .subtract :: ts)
  have hExecute := Program.execute_minus hMatched hSign (execute_of_evaluate hTokens h)
  rw [evaluate_of_readTokens hNegated, Program.execute_eq_of_bare_eq hBare, hExecute]
  rfl

namespace Keypad

/-- **Negation.** On a keypad with default settings on which every `)` has its `(` and whose
text has the value `v`, the keys `±` and `=` give `0 - v`, unless the text begins with a
`-` that covers more than one operand or product. -/
theorem press_negate_equals {k : Keypad} {ts : List Token} {v : Float}
    (hSettings : k.settings = {}) (hTokens : readTokens k.input = .ok ts)
    (hMatched : (Brackets.ofTokens ts).unmatched = 0) (hSign : KeepsSign ts)
    (hValue : evaluate k.settings k.input = .ok v) :
    ((k.press .negate).press .equals).latest = some (.ok (0 - v)) := by
  rw [hSettings] at hValue
  show some (evaluate k.settings ("(-" ++ k.input ++ ")")) = _
  rw [hSettings, evaluate_negated hTokens hMatched hSign hValue]

/-- The texts `5+3`, `-sqrt(5+4` and `-5*sqrt(4`. -/
theorem press_negate_equals_root :
    ((((new {}).pressAll [.digit '5', .operator .add, .digit '3']).press .negate).press
        .equals).latest = some (.ok (0 - 8)) ∧
    ((((new {}).pressAll [.operator .subtract, .function .sqrt, .digit '5', .operator .add,
        .digit '4']).press .negate).press .equals).latest = some (.ok (0 - -3)) ∧
    ((((new {}).pressAll [.operator .subtract, .digit '5', .operator .multiply,
        .function .sqrt, .digit '4']).press .negate).press .equals).latest =
      some (.ok (0 - -10)) := by
  -- each of the three texts meets another one of the conditions
  refine ⟨?_, ?_, ?_⟩
  · have hTokens : readTokens ((new {}).pressAll [.digit '5', .operator .add,
        .digit '3']).input = .ok [.number "5", .operator .add, .number "3"] := by
      decide +kernel
    exact press_negate_equals rfl hTokens rfl (Or.inl (by decide)) (by decide +kernel)
  · have hTokens : readTokens ((new {}).pressAll [.operator .subtract, .function .sqrt,
        .digit '5', .operator .add, .digit '4']).input =
        .ok [.operator .subtract, .function .sqrt, .leftParen, .number "5", .operator .add,
          .number "4"] := by
      decide +kernel
    exact press_negate_equals rfl hTokens rfl (Or.inr (Or.inl (by decide))) (by decide +kernel)
  · have hTokens : readTokens ((new {}).pressAll [.operator .subtract, .digit '5',
        .operator .multiply, .function .sqrt, .digit '4']).input =
        .ok [.operator .subtract, .number "5", .operator .multiply, .function .sqrt, .leftParen,
          .number "4"] := by
      decide +kernel
    have hFive : Number.read? "5" = some 5 := by
      decide +kernel
    have hFour : (Program.ofTokens [.number "4"]).execute = .ok 4 := by
      decide +kernel
    have hProduct : Product [.number "5", .operator .multiply, .function .sqrt, .leftParen,
        .number "4", .rightParen] _ :=
      .times .multiply (Or.inl rfl) (.factor (.number hFive)) (.call .sqrt rfl hFour)
    exact press_negate_equals rfl hTokens rfl (Or.inr (Or.inr ⟨_, _, 1, rfl, hProduct⟩))
      (by decide +kernel)

/-- A `-` at the start of the text is read anew behind the `-` of the key: `-5+3` is -8, but
`(--5+3)` is 2. -/
theorem negate_rereads_minus :
    ¬ ∀ (keys : List Key) (ts : List Token) (v : Float),
      readTokens ((new {}).pressAll keys).input = .ok ts →
      (Brackets.ofTokens ts).unmatched = 0 →
      evaluate {} ((new {}).pressAll keys).input = .ok v →
      ((((new {}).pressAll keys).press .negate).press .equals).latest = some (.ok (0 - v)) := by
  intro h
  have hEight := h [.operator .subtract, .digit '5', .operator .add, .digit '3']
    [.operator .subtract, .number "5", .operator .add, .number "3"] (-8) (by decide +kernel) rfl
    (by decide +kernel)
  have hTwo : ((((new {}).pressAll [.operator .subtract, .digit '5', .operator .add,
      .digit '3']).press .negate).press .equals).latest = some (.ok 2) := by
    decide +kernel
  rw [hTwo, Option.some.injEq, Except.ok.injEq] at hEight
  exact absurd hEight (by decide +kernel)

end Keypad

end PocketCalculator
