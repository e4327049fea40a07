import PocketCalculator.Proofs.Groups

/-!
# PocketCalculator — signs and parentheses

A `-` right behind an operator negates the operand that comes next. The same can be said
with parentheses around the `-` and the operand, in which the `-` opens the group and so
negates all of it.

The two wait in different ways. The `-` behind the operator waits for whatever comes next
and is then written before all else, since it binds tighter than every operator; the `-`
in parentheses waits for its `)`. As the operand is followed by an operator, by a `)` or
by nothing, both are written at the same place.

* `Atom.exists_program` — an operand is written the same way wherever it stands.
* `Converter.program_behind_negation` — what comes next writes the `-` first.
* `Program.ofTokens_enclosed_sign` — the two ways to write a negative operand.
-/

namespace PocketCalculator

/-- The tokens of a single operand: a number, a closed group or a function of a closed group.
The groups may hold anything. -/
inductive Atom : List Token → Prop where
  | number (text : String) : Atom [.number text]
  | group {g} (balanced : Brackets.balanced g = true) :
      Atom (.leftParen :: (g ++ [.rightParen]))
  | call (f : NamedFunction) {g} (balanced : Brackets.balanced g = true) :
      Atom (.function f :: .leftParen :: (g ++ [.rightParen]))

/-- Wherever no function waits for them, tokens are written as one program and leave nothing
waiting. -/
def Converter.AlwaysWrites (ts : List Token) (p : Program) : Prop :=
  ∀ s : Converter, s.awaitsArgument = false →
    s.output ts = p ∧ s.after ts = ⟨s.stack, .operator⟩

open Converter in
/-- A single operand is written as one program in every state in which no function waits for a
group. -/
theorem Atom.exists_program {ts : List Token} (h : Atom ts) : ∃ p, AlwaysWrites ts p := by
  cases h with
  | number text => exact ⟨[.number text], fun s _ => ⟨rfl, rfl⟩⟩
  | group balanced => exact ⟨_, fun s hFree => run_group balanced hFree⟩
  | call f balanced => exact ⟨_, fun s _ => run_call balanced f s⟩

namespace Converter

-- ---------------------------------------------------------------------------
-- Behind an operator
-- ---------------------------------------------------------------------------

/-- No function waits where something else is on top of the stack. -/
theorem awaitsArgument_cons {w : Waiting} (h : ∀ f, w ≠ .function f) (stack : List Waiting)
    (x : Expectation) : (Converter.mk (w :: stack) x).awaitsArgument = false := by
  cases w with
  | function f => exact absurd rfl (h f)
  | operator op | leftParen | groupNegation | negation => rfl

/-- Right behind an operator an operand is expected, and no function waits for it. -/
theorem expects_next_operator (s : Converter) (op : Operator) :
    (s.next (.operator op)).expects = .operand ∧
      (s.next (.operator op)).awaitsArgument = false := by
  refine ⟨rfl, ?_⟩
  by_cases hNegates : s.negates (.operator op) = true
  · rw [next_of_negates hNegates]
    -- whichever of the two negations waits on top, it is no function
    refine awaitsArgument_cons (fun f => ?_) s.stack .operand
    unfold negationEntry
    split <;> simp
  · rw [next_of_not_negates hNegates]
    exact awaitsArgument_cons (by simp) _ .operand

/-- The same after any tokens that end with an operator. -/
theorem expects_after_operator {ts : List Token} {op : Operator}
    (h : ts.getLast? = some (.operator op)) (s : Converter) :
    (s.after ts).expects = .operand ∧ (s.after ts).awaitsArgument = false := by
  obtain ⟨init, rfl⟩ := List.getLast?_eq_some_iff.mp h
  rw [after_append]
  exact expects_next_operator (s.after init) op

-- ---------------------------------------------------------------------------
-- The two negations of an operand
-- ---------------------------------------------------------------------------

/-- Whether tokens do not go on with an operand: nothing comes, or an operator, or a `)`. -/
def EndsOperand (ts : List Token) : Prop :=
  ∀ t ∈ ts.head?, t = .rightParen ∨ t.isOperator = true

/-- A negation that covers one operand is written before all that comes behind this
operand. -/
theorem program_behind_negation {ts : List Token} (h : EndsOperand ts) (stack : List Waiting) :
    (Converter.mk (.negation :: stack) .operator).program ts =
      .operator .subtract :: (Converter.mk stack .operator).program ts := by
  match ts, h with
  | [], _ => rfl
  | .rightParen :: ts, _ => rfl
  | .operator op :: ts, _ =>
    have hBinary : ∀ stack : List Waiting,
        ¬ (Converter.mk stack .operator).negates (.operator op) = true := by
      intro stack
      rw [negates_operator_iff]
      exact fun hNegates => hNegates.2 rfl
    -- every operator, the `*` and the `/` too, makes the negation of one operand go first
    have hYields : Waiting.yieldsTo op .negation = true := by
      cases op <;> rfl
    rw [program_cons, program_cons, written_of_not_negates (hBinary _),
      written_of_not_negates (hBinary _), next_of_not_negates (hBinary _),
      next_of_not_negates (hBinary _), List.takeWhile_cons_of_pos hYields,
      List.dropWhile_cons_of_pos hYields]
    rfl
  | .number _ :: _, h | .function _ :: _, h | .leftParen :: _, h =>
    simp [EndsOperand, Token.isOperator] at h

/-- A sign and its operand are written as the `0`, the operand and the `-`. -/
theorem program_sign {s : Converter} {X B : List Token} {p : Program}
    (hExpects : s.expects = .operand) (hX : AlwaysWrites X p) (hB : EndsOperand B) :
    s.program (.operator .subtract :: (X ++ B)) =
      .number "0" :: (p ++ .operator .subtract :: (Converter.mk s.stack .operator).program B) := by
  have hNegates : s.negates (.operator .subtract) = true :=
    negates_operator_iff.mpr ⟨rfl, by simp [hExpects]⟩
  have hEntry : s.negationEntry = .negation := by
    rw [negationEntry, hExpects]
    rfl
  -- the operand is read with the negation on top, so no function waits for it
  obtain ⟨hOutput, hAfter⟩ := hX ⟨.negation :: s.stack, .operand⟩ rfl
  rw [program_cons, written_of_negates hNegates, next_of_negates hNegates, hEntry,
    program_append, hOutput, hAfter, program_behind_negation hB]
  rfl

/-- In parentheses as well. -/
theorem program_enclosed_sign {s : Converter} {X B : List Token} {p : Program}
    (hFree : s.awaitsArgument = false) (hX : AlwaysWrites X p) :
    s.program (.leftParen :: .operator .subtract :: (X ++ .rightParen :: B)) =
      .number "0" :: (p ++ .operator .subtract :: (Converter.mk s.stack .operator).program B) := by
  -- the operand is read inside the group, above the negation of the group
  obtain ⟨hOutput, hAfter⟩ := hX ⟨.groupNegation :: .leftParen :: s.stack, .operand⟩ rfl
  have hWritten : (Converter.mk (.groupNegation :: .leftParen :: s.stack) .operator).written
      .rightParen = .operator .subtract :: callOf (.leftParen :: s.stack) := rfl
  have hNext : (Converter.mk (.groupNegation :: .leftParen :: s.stack) .operator).next
      .rightParen = ⟨below (.leftParen :: s.stack), .operator⟩ := rfl
  have hOpen : s.program (.leftParen :: .operator .subtract :: (X ++ .rightParen :: B)) =
      .number "0" :: (Converter.mk (.groupNegation :: .leftParen :: s.stack) .operand).program
        (X ++ .rightParen :: B) := rfl
  rw [hOpen, program_append, hOutput, hAfter, program_cons, hWritten, hNext,
    callOf_of_not_awaitsArgument hFree, below_of_not_awaitsArgument hFree]
  rfl

end Converter

namespace Program

/-- **Signs.** Behind an operator, a `-` and an operand are converted as the same in
parentheses, if no further operand follows at once. -/
theorem ofTokens_enclosed_sign {A X B : List Token} {op : Operator}
    (hA : A.getLast? = some (.operator op)) (hX : Atom X)
    (hB : ∀ t ∈ B.head?, t = .rightParen ∨ t.isOperator = true) :
    ofTokens (A ++ [.operator .subtract] ++ X ++ B) =
      ofTokens (A ++ [.leftParen, .operator .subtract] ++ X ++ [.rightParen] ++ B) := by
  obtain ⟨p, hRun⟩ := hX.exists_program
  obtain ⟨hExpects, hFree⟩ := Converter.expects_after_operator hA Converter.start
  have hPlain : A ++ [.operator .subtract] ++ X ++ B =
      A ++ .operator .subtract :: (X ++ B) := by
    simp
  have hEnclosed : A ++ [.leftParen, .operator .subtract] ++ X ++ [.rightParen] ++ B =
      A ++ .leftParen :: .operator .subtract :: (X ++ .rightParen :: B) := by
    simp
  -- both lists go on behind `A` from the same state, in which an operand is expected
  rw [Converter.ofTokens_eq_program, Converter.ofTokens_eq_program, hPlain, hEnclosed,
    Converter.program_append, Converter.program_append,
    Converter.program_sign hExpects hRun hB, Converter.program_enclosed_sign hFree hRun]

/-- `- 2 * - - sqrt ( ( 3 ) - 4 ) ) / 5`, with the last sign as it stands and in parentheses. -/
theorem ofTokens_enclosed_sign_root :
    ofTokens [.operator .subtract, .number "2", .operator .multiply, .operator .subtract,
        .operator .subtract, .function .sqrt, .leftParen, .leftParen, .number "3", .rightParen,
        .operator .subtract, .number "4", .rightParen, .rightParen, .operator .divide,
        .number "5"] =
      ofTokens [.operator .subtract, .number "2", .operator .multiply, .operator .subtract,
        .leftParen, .operator .subtract, .function .sqrt, .leftParen, .leftParen, .number "3",
        .rightParen, .operator .subtract, .number "4", .rightParen, .rightParen, .rightParen,
        .operator .divide, .number "5"] := by
  have hRoot : Atom (.function .sqrt :: .leftParen :: ([.leftParen, .number "3", .rightParen,
      .operator .subtract, .number "4"] ++ [.rightParen])) :=
    .call .sqrt rfl
  have hSame := ofTokens_enclosed_sign (A := [.operator .subtract, .number "2",
    .operator .multiply, .operator .subtract]) (B := [.rightParen, .operator .divide, .number "5"])
    rfl hRoot (by simp)
  simpa only [List.cons_append, List.nil_append] using hSame

end Program

end PocketCalculator
