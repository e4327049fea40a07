import Mathlib.Control.Monad.Basic
import PocketCalculator.Expression

/-!
# PocketCalculator — what programs do to operands

A program works on the operands near the top of the stack and never looks below
them, so that a program which leaves one value can be replaced by a number of that
value wherever it stands.

* `step_cases` — all that a token can do to the operands.
* `run_eq_error_iff` — a program stops at the first token that cannot be executed.
* `run_error_cases`, `execute_error_cases` — all that can go wrong.
* `run_append_operands` — the operands below those a program works on stay as they are.
* `run_bare` — parentheses have no effect.
* `equivalent_number` — a program with a value acts as a number of that value.
* `execute_binary` — a program made up of the programs of two operands and an operator.
* `Expression.execute_postorder` — the listing of a tree has the value of the tree.
-/

namespace PocketCalculator

namespace Program

-- ---------------------------------------------------------------------------
-- Single tokens
-- ---------------------------------------------------------------------------

/-- All that a token can do to the operands. -/
theorem step_cases {operands left : List Float} {t : Token} (h : step operands t = .ok left) :
    (∃ text v, t = .number text ∧ Number.read? text = some v ∧ left = v :: operands) ∨
      (∃ op right lower rest, t = .operator op ∧ operands = right :: lower :: rest ∧
        left = op.apply lower right :: rest) ∨
      (∃ f argument rest, t = .function f ∧ operands = argument :: rest ∧
        left = f.apply argument :: rest) ∨
      (t.isParenthesis = true ∧ left = operands) := by
  cases t with
  | number text =>
    cases hv : Number.read? text with
    | none => simp [step, hv] at h
    | some v =>
      simp only [step, hv, Except.ok.injEq] at h
      exact Or.inl ⟨text, v, rfl, hv, h.symm⟩
  | operator op =>
    -- with fewer than two operands the operator fails, so only the third case is left
    rcases operands with _ | ⟨right, _ | ⟨lower, rest⟩⟩
    · simp [step] at h
    · simp [step] at h
    · exact Or.inr (Or.inl ⟨op, right, lower, rest, rfl, rfl, (Except.ok.inj h).symm⟩)
  | function f =>
    rcases operands with _ | ⟨argument, rest⟩
    · simp [step] at h
    · exact Or.inr (Or.inr (Or.inl ⟨f, argument, rest, rfl, rfl, (Except.ok.inj h).symm⟩))
  | leftParen | rightParen =>
    exact Or.inr (Or.inr (Or.inr ⟨rfl, (Except.ok.inj h).symm⟩))

/-- All that can be wrong with a token. -/
theorem step_error_cases {operands : List Float} {t : Token} {e : EvaluationError}
    (h : step operands t = .error e) :
    (∃ text, t = .number text ∧ Number.read? text = none ∧ e = .malformedNumber text) ∨
      e = .missingOperand t := by
  cases t with
  | number text =>
    cases hv : Number.read? text with
    | none =>
      simp only [step, hv, Except.error.injEq] at h
      exact Or.inl ⟨text, rfl, hv, h.symm⟩
    | some v => simp [step, hv] at h
  | operator op =>
    rcases operands with _ | ⟨right, _ | ⟨lower, rest⟩⟩
    · exact Or.inr (Except.error.inj h).symm
    · exact Or.inr (Except.error.inj h).symm
    · simp [step] at h
  | function f =>
    rcases operands with _ | ⟨argument, rest⟩
    · exact Or.inr (Except.error.inj h).symm
    · simp [step] at h
  | leftParen | rightParen => simp [step] at h

-- ---------------------------------------------------------------------------
-- Sequencing
-- ---------------------------------------------------------------------------

/-- A program that runs to its end hands its operands on to the next. -/
theorem run_append_of_ok {operands left : List Float} {p : Program}
    (h : run operands p = .ok left) (q : Program) :
    run operands (p ++ q) = run left q := by
  rw [run_append, h]
  rfl

theorem run_singleton (operands : List Float) (t : Token) :
    run operands [t] = step operands t := by
  rw [run]
  cases step operands t <;> rfl

/-- A program that reaches its end has executed its first token and then the others. -/
theorem exists_of_run_cons {operands left : List Float} {t : Token} {p : Program}
    (h : run operands (t :: p) = .ok left) :
    ∃ next, step operands t = .ok next ∧ run next p = .ok left := by
  rw [run] at h
  cases hs : step operands t with
  | ok next =>
    rw [hs] at h
    exact ⟨next, rfl, h⟩
  | error e => simp [hs] at h

/-- A program stops at the first token that cannot be executed. -/
theorem run_eq_error_iff {operands : List Float} {p : Program} {e : EvaluationError} :
    run operands p = .error e ↔
      ∃ before t after left, p = before ++ t :: after ∧ run operands before = .ok left ∧
        step left t = .error e := by
  constructor
  · intro h
    -- the head fails, or it leaves operands on which the others fail
    induction p generalizing operands with
    | nil => cases h
    | cons t p ih =>
      rw [run] at h
      cases hStep : step operands t with
      | error e' =>
        simp only [hStep, Except.error.injEq] at h
        exact ⟨[], t, p, operands, rfl, rfl, h ▸ hStep⟩
      | ok next =>
        simp only [hStep] at h
        obtain ⟨before, u, after, left, rfl, hRun, hStop⟩ := ih h
        exact ⟨t :: before, u, after, left, rfl, by rw [run, hStep]; exact hRun, hStop⟩
  · rintro ⟨before, t, after, left, rfl, hRun, hStop⟩
    rw [run_append_of_ok hRun, run, hStop]

/-- All that can stop a program: a number that is no numeral or an operand that is missing. -/
theorem run_error_cases {operands : List Float} {p : Program} {e : EvaluationError}
    (h : run operands p = .error e) :
    (∃ text, .number text ∈ p ∧ Number.read? text = none ∧ e = .malformedNumber text) ∨
      ∃ t ∈ p, e = .missingOperand t := by
  obtain ⟨before, t, after, left, rfl, -, hStop⟩ := run_eq_error_iff.mp h
  have hMem : t ∈ before ++ t :: after := List.mem_append_right before List.mem_cons_self
  rcases step_error_cases hStop with ⟨text, rfl, hRead, rfl⟩ | rfl
  · exact Or.inl ⟨text, hMem, hRead, rfl⟩
  · exact Or.inr ⟨t, hMem, rfl⟩

/-- An execution fails on its way, or at its end by the number of operands left. -/
theorem execute_error_cases {p : Program} {e : EvaluationError} (h : p.execute = .error e) :
    run [] p = .error e ∨
      ∃ left, run [] p = .ok left ∧ left.length ≠ 1 ∧ e = .unbalanced left.length := by
  rw [execute] at h
  cases hRun : run [] p with
  | error e' =>
    simp only [hRun, Except.error.injEq] at h
    exact Or.inl (congrArg _ h)
  | ok left =>
    simp only [hRun] at h
    -- what is left is no value for none and for more than one, not for one
    match left, h with
    | [], h => exact Or.inr ⟨[], rfl, by decide, (Except.error.inj h).symm⟩
    | [_], h => simp [result] at h
    | u :: v :: rest, h =>
      exact Or.inr ⟨u :: v :: rest, rfl, by simp, (Except.error.inj h).symm⟩

/-- An unbalanced execution leaves operands, but not one. -/
theorem run_of_unbalanced {p : Program} {r : Nat} (h : p.execute = .error (.unbalanced r)) :
    ∃ left, run [] p = .ok left ∧ left.length = r ∧ r ≠ 1 := by
  rcases execute_error_cases h with hRun | ⟨left, hLeft, hOne, hr⟩
  · rcases run_error_cases hRun with ⟨_, -, -, he⟩ | ⟨_, -, he⟩ <;> cases he
  · cases hr
    exact ⟨left, hLeft, rfl, hOne⟩

/-- A program that runs to its end with another number of operands than one is unbalanced. -/
theorem execute_of_run {p : Program} {left : List Float} (h : run [] p = .ok left)
    (hLength : left.length ≠ 1) : p.execute = .error (.unbalanced left.length) := by
  rw [execute, h]
  match left, hLength with
  | [], _ => rfl
  | [_], hLength => exact absurd rfl hLength
  | _ :: _ :: _, _ => rfl

/-- Two programs that do the same to all operands. -/
def Equivalent (p q : Program) : Prop :=
  ∀ operands : List Float, run operands p = run operands q

theorem Equivalent.refl (p : Program) : Equivalent p p :=
  fun _ => rfl

/-- Parts of a program can be replaced by programs that do the same. -/
theorem Equivalent.append {p p' q q' : Program} (hp : Equivalent p p')
    (hq : Equivalent q q') : Equivalent (p ++ q) (p' ++ q') := by
  intro operands
  rw [run_append, run_append, hp operands]
  cases run operands p' with
  | ok left => exact hq left
  | error e => rfl

theorem Equivalent.execute_eq {p q : Program} (h : Equivalent p q) :
    p.execute = q.execute := by
  rw [execute, execute, h []]

-- ---------------------------------------------------------------------------
-- Parentheses
-- ---------------------------------------------------------------------------

/-- A program without its parentheses. -/
def bare (p : Program) : Program :=
  p.filter fun t => !t.isParenthesis

theorem bare_append (p q : Program) : (p ++ q).bare = p.bare ++ q.bare :=
  List.filter_append p q

/-- A parenthesis leaves the operands as they are. -/
theorem step_of_isParenthesis {t : Token} (h : t.isParenthesis = true)
    (operands : List Float) : step operands t = .ok operands := by
  cases t with
  | leftParen | rightParen => rfl
  | number text | operator op | function f => simp [Token.isParenthesis] at h

/-- Parentheses have no effect: without them a program does the same to all operands. -/
theorem run_bare (operands : List Float) (p : Program) :
    run operands p.bare = run operands p := by
  induction p generalizing operands with
  | nil => rfl
  | cons t p ih =>
    by_cases ht : t.isParenthesis = true
    · have hBare : bare (t :: p) = bare p := by
        simp [bare, ht]
      rw [hBare, ih, run, step_of_isParenthesis ht]
    · have hBare : bare (t :: p) = t :: bare p := by
        simp [bare, ht]
      rw [hBare, run, run]
      cases step operands t with
      | ok left => exact ih left
      | error e => rfl

/-- Programs that differ in parentheses only have the same outcome. -/
theorem execute_eq_of_bare_eq {p q : Program} (h : p.bare = q.bare) :
    p.execute = q.execute := by
  have hEquivalent : Equivalent p q := by
    intro operands
    rw [← run_bare operands p, h, run_bare]
  exact hEquivalent.execute_eq

-- ---------------------------------------------------------------------------
-- Operands below
-- ---------------------------------------------------------------------------

/-- A token that does not fail does the same above other operands. -/
theorem step_append_operands {operands left : List Float} {t : Token}
    (h : step operands t = .ok left) (base : List Float) :
    step (operands ++ base) t = .ok (left ++ base) := by
  rcases step_cases h with ⟨text, v, rfl, hv, rfl⟩ | ⟨op, right, lower, rest, rfl, rfl, rfl⟩ |
    ⟨f, argument, rest, rfl, rfl, rfl⟩ | ⟨ht, rfl⟩
  · rw [step, hv]
    rfl
  · rfl
  · rfl
  · exact step_of_isParenthesis ht (left ++ base)

/-- **Frame.** A program that does not fail never looks below the operands it is given, so
others below them stay as they are. -/
theorem run_append_operands {operands left : List Float} {p : Program}
    (h : run operands p = .ok left) (base : List Float) :
    run (operands ++ base) p = .ok (left ++ base) := by
  induction p generalizing operands with
  | nil =>
    simp only [run, Except.ok.injEq] at h ⊢
    rw [h]
  | cons t p ih =>
    obtain ⟨next, hNext, hRest⟩ := exists_of_run_cons h
    rw [run, step_append_operands hNext base]
    exact ih hRest

/-- A program with a value leaves that value on top of any operands. -/
theorem run_of_execute {p : Program} {v : Float} (h : p.execute = .ok v)
    (operands : List Float) : run operands p = .ok (v :: operands) := by
  -- on no operands at all it leaves its value alone, and the frame adds those below
  have hRun : run [] p = .ok [v] := by
    unfold execute at h
    split at h
    · rename_i left hLeft
      rw [hLeft]
      unfold result at h
      split at h
      · simp only [Except.ok.injEq] at h ⊢
        rw [h]
      · simp at h
    · simp at h
  exact run_append_operands hRun operands

/-- A program with a value does what a number of that value does. -/
theorem equivalent_number {p : Program} {text : String} {v : Float}
    (h : p.execute = .ok v) (hText : Number.read? text = some v) :
    Equivalent p [.number text] := by
  intro operands
  rw [run_of_execute h, run_singleton, step, hText]

-- ---------------------------------------------------------------------------
-- Programs of several parts
-- ---------------------------------------------------------------------------

theorem execute_number {text : String} {v : Float} (h : Number.read? text = some v) :
    execute [.number text] = .ok v := by
  rw [execute, run_singleton, step, h]
  rfl

/-- The program of an argument and then a function has the function's value there. -/
theorem execute_call {p : Program} {v : Float} (h : p.execute = .ok v) (f : NamedFunction) :
    execute (p ++ [.function f]) = .ok (f.apply v) := by
  rw [execute, run_append_of_ok (run_of_execute h [])]
  rfl

/-- A program with a value and a function do what a number of the function's value does. -/
theorem equivalent_number_of_call {p : Program} {text : String} {v : Float}
    {f : NamedFunction} (h : p.execute = .ok v)
    (hText : Number.read? text = some (f.apply v)) :
    Equivalent (p ++ [.function f]) [.number text] :=
  equivalent_number (execute_call h f) hText

/-- The programs of two operands and then an operator have what the operator makes of the two
values. -/
theorem execute_binary {p q : Program} {u v : Float} (hp : p.execute = .ok u)
    (hq : q.execute = .ok v) (op : Operator) :
    execute (p ++ q ++ [.operator op]) = .ok (op.apply u v) := by
  -- the left operand waits on the stack while the right one is run above it
  rw [execute, List.append_assoc, run_append_of_ok (run_of_execute hp []),
    run_append_of_ok (run_of_execute hq [u])]
  rfl

/-- A negation subtracts from zero. -/
theorem execute_negation {p : Program} {v : Float} (h : p.execute = .ok v) :
    execute (.number "0" :: p ++ [.operator .subtract]) = .ok (0 - v) := by
  have hZero : Number.read? "0" = some 0 := by
    decide +kernel
  exact execute_binary (execute_number hZero) h .subtract

end Program

-- ---------------------------------------------------------------------------
-- Listings of trees
-- ---------------------------------------------------------------------------

namespace Expression

/-- The listing of a tree has the value of the tree. -/
theorem execute_postorder {e : Expression} {v : Float} (h : e.value? = some v) :
    e.postorder.execute = .ok v := by
  -- by the tree: each constructor is listed as its operands and then itself
  induction e generalizing v with
  | number text => exact Program.execute_number h
  | call f argument ih =>
    obtain ⟨a, ha, rfl⟩ := Option.map_eq_some_iff.mp h
    exact Program.execute_call (ih ha) f
  | binary op left right ihLeft ihRight =>
    obtain ⟨l, hl, h⟩ := Option.bind_eq_some_iff.mp h
    obtain ⟨r, hr, rfl⟩ := Option.map_eq_some_iff.mp h
    exact Program.execute_binary (ihLeft hl) (ihRight hr) op

/-- A tree whose numbers are all numerals has a value. -/
theorem exists_value {e : Expression}
    (h : ∀ text, .number text ∈ e.postorder → (Number.read? text).isSome) :
    ∃ v, e.value? = some v := by
  induction e with
  | number text => exact Option.isSome_iff_exists.mp (h text (by simp [postorder]))
  | call f argument ih =>
    obtain ⟨a, ha⟩ := ih fun text hText => h text (by simp [postorder, hText])
    exact ⟨f.apply a, by rw [value?, ha]; rfl⟩
  | binary op left right ihLeft ihRight =>
    obtain ⟨l, hl⟩ := ihLeft fun text hText => h text (by simp [postorder, hText])
    obtain ⟨r, hr⟩ := ihRight fun text hText => h text (by simp [postorder, hText])
    exact ⟨op.apply l r, by rw [value?, hl, hr]; rfl⟩

end Expression

end PocketCalculator
