import Mathlib.Data.List.TakeWhile
import PocketCalculator.Program.Conversion

/-!
# PocketCalculator — steps of the converter

What each kind of token writes and leaves waiting, in the form that statements about
whole expressions use.
-/

namespace PocketCalculator

namespace Waiting

/-- Numbers never wait. -/
theorem isNumber_token (w : Waiting) : w.token.isNumber = false := by
  cases w <;> rfl

/-- Of the parentheses only a `(` waits. -/
theorem isParenthesis_token (w : Waiting) : w.token.isParenthesis = decide (w = .leftParen) := by
  cases w <;> rfl

/-- Of what waits, only a `(` is written as one. -/
theorem token_eq_leftParen_iff (w : Waiting) : w.token = .leftParen ↔ w = .leftParen := by
  cases w <;> simp [token]

end Waiting

namespace Converter

-- ---------------------------------------------------------------------------
-- Programs from a state on
-- ---------------------------------------------------------------------------

/-- All that is written from a state on: for the tokens read and at the end. -/
def program (s : Converter) (tokens : List Token) : Program :=
  s.output tokens ++ (s.after tokens).flush

theorem ofTokens_eq_program (ts : List Token) : Program.ofTokens ts = start.program ts :=
  rfl

theorem program_nil (s : Converter) : s.program [] = s.flush :=
  rfl

theorem program_cons (s : Converter) (t : Token) (ts : List Token) :
    s.program (t :: ts) = s.written t ++ (s.next t).program ts := by
  rw [program, output, List.append_assoc]
  rfl

/-- The program of a list in two parts: the second part is told by the state behind
the first. -/
theorem program_append (s : Converter) (ts us : List Token) :
    s.program (ts ++ us) = s.output ts ++ (s.after ts).program us := by
  rw [program, output_append, after_append, List.append_assoc, program]

-- ---------------------------------------------------------------------------
-- Negations and operators
-- ---------------------------------------------------------------------------

/-- The entry of a `-` that negates, in the state it is read in. -/
def negationEntry (s : Converter) : Waiting :=
  if s.expects = .group then .groupNegation else .negation

/-- Both negations are written as the operator of subtraction. -/
theorem token_negationEntry (s : Converter) :
    s.negationEntry.token = .operator .subtract := by
  unfold negationEntry
  split <;> rfl

/-- An operator negates if it is a `-` and no operator is expected. -/
theorem negates_operator_iff {s : Converter} {op : Operator} :
    s.negates (.operator op) = true ↔ op = .subtract ∧ s.expects ≠ .operator := by
  simp [negates]

/-- Only operators negate. -/
theorem negates_eq_false_of_ne_operator {s : Converter} {t : Token}
    (h : ∀ op, t ≠ .operator op) : s.negates t = false := by
  simp only [negates, decide_eq_false_iff_not]
  rintro ⟨rfl, -⟩
  exact h .subtract rfl

/-- A `-` that negates writes the `0` it subtracts from. -/
theorem written_of_negates {s : Converter} {op : Operator}
    (h : s.negates (.operator op) = true) : s.written (.operator op) = [.number "0"] := by
  rw [written, if_pos h]

/-- A `-` that negates goes on the stack as it is, over all that waits. -/
theorem next_of_negates {s : Converter} {op : Operator}
    (h : s.negates (.operator op) = true) :
    s.next (.operator op) = ⟨s.negationEntry :: s.stack, .operand⟩ := by
  rw [next, stackAfter, if_pos h]
  rfl

/-- An operator between two operands writes the entries on top of the stack that yield to it. -/
theorem written_of_not_negates {s : Converter} {op : Operator}
    (h : ¬ s.negates (.operator op) = true) :
    s.written (.operator op) = (s.stack.takeWhile (Waiting.yieldsTo op)).map Waiting.token := by
  rw [written, if_neg h]

/-- An operator between two operands takes the place of the entries that yield to it. -/
theorem next_of_not_negates {s : Converter} {op : Operator}
    (h : ¬ s.negates (.operator op) = true) :
    s.next (.operator op) =
      ⟨.operator op :: s.stack.dropWhile (Waiting.yieldsTo op), .operand⟩ := by
  rw [next, stackAfter, if_neg h]
  rfl

-- ---------------------------------------------------------------------------
-- The innermost open group
-- ---------------------------------------------------------------------------

theorem isInside_leftParen : Waiting.isInside .leftParen = false :=
  rfl

theorem yieldsTo_leftParen (op : Operator) : Waiting.yieldsTo op .leftParen = false := by
  cases op <;> rfl

/-- The entries from the innermost `(` down, if there is one. -/
theorem dropWhile_isInside_cases (stack : List Waiting) :
    (.leftParen ∉ stack ∧ stack.dropWhile Waiting.isInside = []) ∨
      (.leftParen ∈ stack ∧ ∃ rest, stack.dropWhile Waiting.isInside = .leftParen :: rest) := by
  induction stack with
  | nil => exact Or.inl ⟨List.not_mem_nil, rfl⟩
  | cons w stack ih =>
    by_cases hw : w = .leftParen
    · subst hw
      exact Or.inr ⟨List.mem_cons_self, stack, rfl⟩
    · -- the entry is above the innermost `(`, so it is dropped and the rest decides
      have hInside : w.isInside = true := by
        simp [Waiting.isInside, hw]
      rw [List.dropWhile_cons_of_pos hInside]
      rcases ih with ⟨hNot, hNil⟩ | ⟨hMem, hRest⟩
      · exact Or.inl ⟨by simp [hNot, Ne.symm hw], hNil⟩
      · exact Or.inr ⟨List.mem_cons_of_mem w hMem, hRest⟩

/-- Without a `(` all entries belong to the innermost group, the expression itself. -/
theorem takeWhile_isInside_of_notMem {stack : List Waiting} (h : .leftParen ∉ stack) :
    stack.takeWhile Waiting.isInside = stack := by
  rw [List.takeWhile_eq_self_iff]
  intro w hw
  simp only [Waiting.isInside, decide_eq_true_eq]
  rintro rfl
  exact h hw

/-- Without a `(` a `)` drops the whole stack. -/
theorem dropWhile_isInside_of_notMem {stack : List Waiting} (h : .leftParen ∉ stack) :
    stack.dropWhile Waiting.isInside = [] := by
  rcases dropWhile_isInside_cases stack with ⟨-, hNil⟩ | ⟨hMem, -⟩
  · exact hNil
  · exact absurd hMem h

section

variable {α : Type} {f : List Waiting → α}
  (hBlind : ∀ w rest, w ≠ .leftParen → f (w :: rest) = f rest)
include hBlind

/-- What the `(` of a stack alone decide stays the same when the entries that pass a test leave,
if no `(` passes it. -/
theorem apply_dropWhile {test : Waiting → Bool} (h : test .leftParen = false)
    (stack : List Waiting) : f (stack.dropWhile test) = f stack := by
  induction stack with
  | nil => rfl
  | cons w stack ih =>
    by_cases hw : test w = true
    · have hNe : w ≠ .leftParen := by
        rintro rfl
        simp [h] at hw
      rw [List.dropWhile_cons_of_pos hw, ih, hBlind w stack hNe]
    · rw [List.dropWhile_cons_of_neg hw]

/-- With its `(` a `)` takes at most a function, and what is left decides the same as all that
was below the `(`. -/
theorem apply_below (rest : List Waiting) : f (below (.leftParen :: rest)) = f rest := by
  match rest with
  | [] => rfl
  | .function g :: rest => exact (hBlind (.function g) rest nofun).symm
  | .operator _ :: _ | .leftParen :: _ | .groupNegation :: _ | .negation :: _ => rfl

end

-- ---------------------------------------------------------------------------
-- Stacks in two parts
-- ---------------------------------------------------------------------------

/-- If the lower part of a stack begins with an entry that fails a test, the entries that pass
are those of the upper part. -/
theorem takeWhile_append_of_head {test : Waiting → Bool} {base : List Waiting}
    (h : ∀ w ∈ base.head?, test w = false) (ws : List Waiting) :
    (ws ++ base).takeWhile test = ws.takeWhile test := by
  induction ws with
  | nil =>
    cases base with
    | nil => rfl
    | cons w base => exact List.takeWhile_cons_of_neg (by simp [h w rfl])
  | cons w ws ih => simp only [List.cons_append, List.takeWhile_cons, ih]

/-- The same for what is left when the entries that pass are dropped. -/
theorem dropWhile_append_of_head {test : Waiting → Bool} {base : List Waiting}
    (h : ∀ w ∈ base.head?, test w = false) (ws : List Waiting) :
    (ws ++ base).dropWhile test = ws.dropWhile test ++ base := by
  induction ws with
  | nil =>
    cases base with
    | nil => rfl
    | cons w base => exact List.dropWhile_cons_of_neg (by simp [h w rfl])
  | cons w ws ih =>
    simp only [List.cons_append, List.dropWhile_cons, ih]
    split <;> rfl

/-- Only the part above an entry that stops them is taken or left. -/
theorem takeWhile_append_of_mem {test : Waiting → Bool} {w : Waiting} (hw : test w = false)
    {ws : List Waiting} (h : w ∈ ws) (base : List Waiting) :
    (ws ++ base).takeWhile test = ws.takeWhile test := by
  induction ws with
  | nil => simp at h
  | cons v ws ih =>
    by_cases hv : test v = true
    · have hMem : w ∈ ws := by
        rcases List.mem_cons.mp h with rfl | hMem
        · simp [hw] at hv
        · exact hMem
      rw [List.cons_append, List.takeWhile_cons_of_pos hv, List.takeWhile_cons_of_pos hv,
        ih hMem]
    · rw [List.cons_append, List.takeWhile_cons_of_neg hv, List.takeWhile_cons_of_neg hv]

/-- Below an entry that stops the test nothing is dropped. -/
theorem dropWhile_append_of_mem {test : Waiting → Bool} {w : Waiting} (hw : test w = false)
    {ws : List Waiting} (h : w ∈ ws) (base : List Waiting) :
    (ws ++ base).dropWhile test = ws.dropWhile test ++ base := by
  -- what is taken is already known, and both splittings give the whole stack again
  have hSplit := List.takeWhile_append_dropWhile (p := test) (l := ws ++ base)
  rw [takeWhile_append_of_mem hw h] at hSplit
  have hWhole : ws.takeWhile test ++ (ws.dropWhile test ++ base) = ws ++ base := by
    rw [← List.append_assoc, List.takeWhile_append_dropWhile]
  exact List.append_cancel_left (hSplit.trans hWhole.symm)

end Converter

end PocketCalculator
