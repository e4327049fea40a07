import PocketCalculator.Proofs.Brackets
import PocketCalculator.Proofs.Execution

/-!
# PocketCalculator — groups in parentheses

While a group is read, the converter neither reads nor moves the entries that waited
before its `(`. A group whose parentheses all have their partners is therefore
converted as if it stood alone, and in a program only its value matters.

* `above_run_of_spares` — entries below stay as they are while no token reaches them.
* `above_run` — entries below a `(` stay as they are until a `)` asks for that `(`.
* `output_group`, `after_group` — what a closed group writes and leaves.
-/

namespace PocketCalculator

namespace Converter

-- ---------------------------------------------------------------------------
-- Entries below a group
-- ---------------------------------------------------------------------------

/-- A stack that no operator and no `)` of the entries above it can reach: it is empty
or begins with a `(`. -/
def Sealed (base : List Waiting) : Prop :=
  ∀ w ∈ base.head?, w = .leftParen

/-- A state with more entries waiting below its own. -/
def above (s : Converter) (base : List Waiting) : Converter :=
  ⟨s.stack ++ base, s.expects⟩

/-- A `)` of the entries above stops at a sealed stack. -/
theorem Sealed.isInside {base : List Waiting} (h : Sealed base) :
    ∀ w ∈ base.head?, w.isInside = false := by
  intro w hw
  rw [h w hw]
  rfl

/-- No operator of the entries above moves anything of a sealed stack. -/
theorem Sealed.yieldsTo {base : List Waiting} (h : Sealed base) (op : Operator) :
    ∀ w ∈ base.head?, w.yieldsTo op = false := by
  intro w hw
  rw [h w hw]
  exact yieldsTo_leftParen op

/-- A sealed stack has no function on top that would take a group. -/
theorem Sealed.head?_ne_function {base : List Waiting} (h : Sealed base) (f : NamedFunction) :
    base.head? ≠ some (.function f) := by
  intro hHead
  exact absurd (h _ hHead) (by simp)

/-- What a closed group is the argument of can be told without the lower entries, unless the
topmost of these is a function. -/
theorem callOf_append {base : List Waiting} (h : ∀ f, base.head? ≠ some (.function f))
    (rest : List Waiting) : callOf (.leftParen :: rest ++ base) = callOf (.leftParen :: rest) := by
  match rest, base with
  | [], [] => rfl
  | [], .function f :: base => exact absurd rfl (h f)
  | [], .operator _ :: base | [], .leftParen :: base | [], .groupNegation :: base
  | [], .negation :: base => rfl
  | w :: rest, base => cases w <;> rfl

/-- What the end of a group takes away with its `(` is not among the lower entries either. -/
theorem below_append {base : List Waiting} (h : ∀ f, base.head? ≠ some (.function f))
    (rest : List Waiting) :
    below (.leftParen :: rest ++ base) = below (.leftParen :: rest) ++ base := by
  match rest, base with
  | [], [] => rfl
  | [], .function f :: base => exact absurd rfl (h f)
  | [], .operator _ :: base | [], .leftParen :: base | [], .groupNegation :: base
  | [], .negation :: base => rfl
  | w :: rest, base => cases w <;> rfl

/-- What a `-` means does not depend on what waits. -/
theorem negates_above (s : Converter) (base : List Waiting) (t : Token) :
    (s.above base).negates t = s.negates t :=
  rfl

/-- A `)` with a partner finds its `(` on the stack. -/
theorem leftParen_mem_of_not_isUnmatched {s : Converter}
    (h : s.isUnmatched .rightParen = false) : .leftParen ∈ s.stack := by
  simpa [isUnmatched] using h

/-- Whether a token read above other entries leaves these alone: a `)` finds its `(` above
them, and an operator stops above them or at the topmost of them. -/
def Spares (s : Converter) (base : List Waiting) (t : Token) : Prop :=
  (t = .rightParen → .leftParen ∈ s.stack) ∧
    ∀ op, t = .operator op → s.negates t = false →
      .leftParen ∈ s.stack ∨ ∀ w ∈ base.head?, w.yieldsTo op = false

/-- A sealed stack is left alone by every token but a `)` without its `(`. -/
theorem Sealed.spares {base : List Waiting} (h : Sealed base) {s : Converter} {t : Token}
    (hOpen : s.isUnmatched t = false) : s.Spares base t := by
  refine ⟨?_, fun op _ _ => Or.inr (h.yieldsTo op)⟩
  rintro rfl
  exact leftParen_mem_of_not_isUnmatched hOpen

variable {base : List Waiting} {s : Converter}

/-- What is written for a token that leaves the lower entries alone does not depend on them. -/
theorem written_above (hBase : ∀ f, base.head? ≠ some (.function f)) {t : Token}
    (h : s.Spares base t) : (s.above base).written t = s.written t := by
  cases t with
  | number text | function f | leftParen => rfl
  | operator op =>
    rw [written, written, negates_above, above]
    split
    · rfl
    · rename_i hNegates
      -- a `(` above them stops the operator, or the topmost of them does
      rcases h.2 op rfl (by simpa using hNegates) with hMem | hStop
      · rw [takeWhile_append_of_mem (yieldsTo_leftParen op) hMem]
      · rw [takeWhile_append_of_head hStop]
  | rightParen =>
    -- its `(` lies above the lower entries, so both cuts of the stack stay above them
    have hMem := h.1 rfl
    rw [written, written, above, takeWhile_append_of_mem isInside_leftParen hMem,
      dropWhile_append_of_mem isInside_leftParen hMem]
    rcases dropWhile_isInside_cases s.stack with ⟨hNot, -⟩ | ⟨-, rest, hRest⟩
    · exact absurd hMem hNot
    · rw [hRest, callOf_append hBase]

/-- Such a token leaves the lower entries where they were. -/
theorem next_above (hBase : ∀ f, base.head? ≠ some (.function f)) {t : Token}
    (h : s.Spares base t) : (s.above base).next t = (s.next t).above base := by
  cases t with
  | number text | function f | leftParen => rfl
  | operator op =>
    rw [next, next, stackAfter, stackAfter, negates_above, above, above]
    split
    · rfl
    · rename_i hNegates
      -- the operator takes from the stack what it writes, so it stops at the same entry
      rcases h.2 op rfl (by simpa using hNegates) with hMem | hStop
      · rw [dropWhile_append_of_mem (yieldsTo_leftParen op) hMem]
        rfl
      · rw [dropWhile_append_of_head hStop]
        rfl
  | rightParen =>
    have hMem := h.1 rfl
    rw [next, next, stackAfter, stackAfter, above, above,
      dropWhile_append_of_mem isInside_leftParen hMem]
    rcases dropWhile_isInside_cases s.stack with ⟨hNot, -⟩ | ⟨-, rest, hRest⟩
    · exact absurd hMem hNot
    · rw [hRest, below_append hBase]

-- ---------------------------------------------------------------------------
-- Runs above other entries
-- ---------------------------------------------------------------------------

/-- **Frame.** Tokens that leave the entries below alone are converted as if nothing waited
there. -/
theorem above_run_of_spares (hBase : ∀ f, base.head? ≠ some (.function f)) {ts : List Token}
    (h : ∀ p t q, ts = p ++ t :: q → (s.after p).Spares base t) :
    (s.above base).output ts = s.output ts ∧
      (s.above base).after ts = (s.after ts).above base := by
  -- one token at a time; what is known of the tail is known from the state after the head
  induction ts generalizing s with
  | nil => exact ⟨rfl, rfl⟩
  | cons t ts ih =>
    have hSpares : s.Spares base t := h [] t ts rfl
    obtain ⟨hOutput, hAfter⟩ := ih (s := s.next t) fun p u q hSplit =>
      h (t :: p) u q (by rw [hSplit, List.cons_append])
    constructor
    · rw [output, output, written_above hBase hSpares, next_above hBase hSpares, hOutput]
    · show ((s.above base).next t).after ts = ((s.next t).after ts).above base
      rw [next_above hBase hSpares, hAfter]

/-- Tokens in which every `)` finds its `(` leave a sealed stack below alone. -/
theorem above_run (hBase : Sealed base) {b : Brackets} {ts : List Token}
    (hOpened : b.opened = s.stack.count .leftParen)
    (hClosed : (ts.foldl Brackets.read b).unmatched = b.unmatched) :
    (s.above base).output ts = s.output ts ∧
      (s.above base).after ts = (s.after ts).above base := by
  refine above_run_of_spares hBase.head?_ne_function fun p t q hSplit => ?_
  rw [hSplit] at hClosed
  exact hBase.spares (isUnmatched_eq_false_of_split hOpened hClosed)

-- ---------------------------------------------------------------------------
-- Closed groups
-- ---------------------------------------------------------------------------

theorem start_opened : Brackets.none.opened = start.stack.count .leftParen :=
  rfl

theorem sealed_leftParen (stack : List Waiting) : Sealed (.leftParen :: stack) := by
  intro w hw
  exact (Option.some.inj hw).symm

/-- A `(` and the tokens of a balanced group write what these tokens write alone, and
leave what they leave alone above the `(`. -/
theorem above_group {g : List Token} (hg : Brackets.balanced g = true) (s : Converter) :
    s.output (.leftParen :: g) = start.output g ∧
      s.after (.leftParen :: g) = (start.after g).above (.leftParen :: s.stack) := by
  simp only [Brackets.balanced, decide_eq_true_eq] at hg
  -- the counting starts at nothing, since the `(` of the group is below
  obtain ⟨hOutput, hAfter⟩ :=
    above_run (sealed_leftParen s.stack) start_opened (hg.2.trans rfl)
  exact ⟨hOutput, hAfter⟩

/-- After balanced tokens no `(` waits. -/
theorem leftParen_notMem_of_balanced {g : List Token} (hg : Brackets.balanced g = true) :
    .leftParen ∉ (start.after g).stack := by
  simp only [Brackets.balanced, decide_eq_true_eq] at hg
  rw [← List.count_eq_zero, ← opened_foldl start_opened g]
  exact hg.1

/-- A closed group is written as the program of its tokens alone, and after it the
function that it is the argument of. -/
theorem output_group {g : List Token} (hg : Brackets.balanced g = true) (s : Converter) :
    s.output (.leftParen :: (g ++ [.rightParen])) =
      Program.ofTokens g ++ callOf (.leftParen :: s.stack) := by
  obtain ⟨hOutput, hAfter⟩ := above_group hg s
  -- nothing above the `(` of the group is a `(`, so the `)` takes all of it and then that one
  have hNot := leftParen_notMem_of_balanced hg
  rw [← List.cons_append, output_append, hOutput, hAfter, output, output, List.append_nil,
    written, above, takeWhile_append_of_head (sealed_leftParen s.stack).isInside,
    dropWhile_append_of_head (sealed_leftParen s.stack).isInside,
    takeWhile_isInside_of_notMem hNot, dropWhile_isInside_of_notMem hNot, List.nil_append,
    ← List.append_assoc]
  rfl

/-- A closed group leaves what its end leaves of the stack it stands on. -/
theorem after_group {g : List Token} (hg : Brackets.balanced g = true) (s : Converter) :
    s.after (.leftParen :: (g ++ [.rightParen])) =
      ⟨below (.leftParen :: s.stack), .operator⟩ := by
  obtain ⟨-, hAfter⟩ := above_group hg s
  have hNot := leftParen_notMem_of_balanced hg
  have hStack :
      ((start.after g).above (.leftParen :: s.stack)).stackAfter .rightParen =
        below (.leftParen :: s.stack) := by
    rw [stackAfter, above, dropWhile_append_of_head (sealed_leftParen s.stack).isInside,
      dropWhile_isInside_of_notMem hNot, List.nil_append]
  rw [← List.cons_append, after_append, hAfter]
  exact congrArg (Converter.mk · .operator) hStack

/-- A function and its closed argument are written as the program of the argument and
the function, and leave nothing waiting. -/
theorem run_call {g : List Token} (hg : Brackets.balanced g = true) (f : NamedFunction)
    (s : Converter) :
    s.output (.function f :: .leftParen :: (g ++ [.rightParen])) =
        Program.ofTokens g ++ [.function f] ∧
      s.after (.function f :: .leftParen :: (g ++ [.rightParen])) = ⟨s.stack, .operator⟩ := by
  constructor
  · rw [output, output_group hg]
    rfl
  · exact after_group hg (s.next (.function f))

/-- Whether a function waits above all other entries, so that the group that comes next
is taken as its argument. -/
def awaitsArgument (s : Converter) : Bool :=
  match s.stack with
  | .function _ :: _ => true
  | _ => false

/-- A group that no function waits for is followed by no function. -/
theorem callOf_of_not_awaitsArgument {s : Converter} (h : s.awaitsArgument = false) :
    callOf (.leftParen :: s.stack) = [] := by
  unfold awaitsArgument at h
  split at h
  · simp at h
  · rename_i hStack
    unfold callOf
    split
    · rename_i hCall
      exact absurd (List.cons.inj hCall).2 (hStack _ _)
    · rfl

/-- A group that no function waits for takes only its `(` away. -/
theorem below_of_not_awaitsArgument {s : Converter} (h : s.awaitsArgument = false) :
    below (.leftParen :: s.stack) = s.stack := by
  unfold awaitsArgument at h
  split at h
  · simp at h
  · rename_i hStack
    unfold below
    split
    · rename_i hCall
      exact absurd (List.cons.inj hCall).2 (hStack _ _)
    · rename_i hRest
      exact (List.cons.inj hRest).2.symm
    · rename_i hNil
      simp at hNil

/-- A closed group that is nobody's argument is written as the program of its tokens
alone, and leaves nothing waiting. -/
theorem run_group {g : List Token} (hg : Brackets.balanced g = true) {s : Converter}
    (h : s.awaitsArgument = false) :
    s.output (.leftParen :: (g ++ [.rightParen])) = Program.ofTokens g ∧
      s.after (.leftParen :: (g ++ [.rightParen])) = ⟨s.stack, .operator⟩ := by
  constructor
  · rw [output_group hg, callOf_of_not_awaitsArgument h, List.append_nil]
  · rw [after_group hg, below_of_not_awaitsArgument h]

end Converter

-- ---------------------------------------------------------------------------
-- Only the value of a group matters
-- ---------------------------------------------------------------------------

namespace Program

/-- Tokens that leave the converter as a number would and write what acts as this
number can be replaced by the number. -/
theorem execute_replace {A ts B : List Token} {text : String}
    (hAfter : (Converter.start.after A).after ts = ⟨(Converter.start.after A).stack, .operator⟩)
    (hOutput : Equivalent ((Converter.start.after A).output ts) [.number text]) :
    (ofTokens (A ++ ts ++ B)).execute = (ofTokens (A ++ [.number text] ++ B)).execute := by
  have hEquivalent : Equivalent (Converter.start.program (A ++ ts ++ B))
      (Converter.start.program (A ++ [.number text] ++ B)) := by
    -- the programs agree before the tokens, do the same for them, and go on from the same state
    rw [List.append_assoc, List.append_assoc, Converter.program_append,
      Converter.program_append, Converter.program_append, Converter.program_append, hAfter]
    exact (Equivalent.refl _).append (hOutput.append (Equivalent.refl _))
  exact hEquivalent.execute_eq

/-- **Only the value of a closed group matters.** In every context a balanced group with
a value can be replaced by a number of that value, unless a function waits to take the
group as its argument; and a call can be replaced by a number of the call's value. -/
theorem execute_closed_group {A B g : List Token} {v : Float}
    (hPrefix : ∀ p, p <+: g → p.count .rightParen ≤ p.count .leftParen)
    (hTotal : g.count .rightParen = g.count .leftParen) (hv : (ofTokens g).execute = .ok v) :
    ((Converter.start.after A).awaitsArgument = false →
      ∀ text, Number.read? text = some v →
        (ofTokens (A ++ [.leftParen] ++ g ++ [.rightParen] ++ B)).execute =
          (ofTokens (A ++ [.number text] ++ B)).execute) ∧
      ∀ f text, Number.read? text = some (f.apply v) →
        (ofTokens (A ++ [.function f, .leftParen] ++ g ++ [.rightParen] ++ B)).execute =
          (ofTokens (A ++ [.number text] ++ B)).execute := by
  -- the two conditions on counts are bracket matching in other words
  have hg : Brackets.balanced g = true :=
    (Brackets.balanced_iff_counts g).mpr ⟨hPrefix, hTotal⟩
  constructor
  · -- nobody waits for the group, so it leaves what a number in its place leaves
    intro hFree text hText
    obtain ⟨hOutput, hAfter⟩ := Converter.run_group hg hFree
    have hGroup : A ++ [.leftParen] ++ g ++ [.rightParen] ++ B =
        A ++ .leftParen :: (g ++ [.rightParen]) ++ B := by
      simp
    rw [hGroup]
    apply execute_replace hAfter
    rw [hOutput]
    exact equivalent_number hv hText
  · -- the call takes its function away with the group, whatever waits below
    intro f text hText
    obtain ⟨hOutput, hAfter⟩ := Converter.run_call hg f (Converter.start.after A)
    have hCall : A ++ [.function f, .leftParen] ++ g ++ [.rightParen] ++ B =
        A ++ .function f :: .leftParen :: (g ++ [.rightParen]) ++ B := by
      simp
    rw [hCall]
    apply execute_replace hAfter
    rw [hOutput]
    exact equivalent_number_of_call hv hText

/-- The group `(4) * 4` in `2 * (… ) - 1 +`, a context with an operator too many, and under
a root. -/
theorem execute_closed_group_sixteen :
    (ofTokens [.number "2", .operator .multiply, .leftParen, .leftParen, .number "4",
        .rightParen, .operator .multiply, .number "4", .rightParen, .operator .subtract,
        .number "1", .operator .add]).execute =
      (ofTokens [.number "2", .operator .multiply, .number "16", .operator .subtract,
        .number "1", .operator .add]).execute ∧
    (ofTokens [.number "2", .operator .multiply, .function .sqrt, .leftParen, .leftParen,
        .number "4", .rightParen, .operator .multiply, .number "4", .rightParen,
        .operator .subtract, .number "1", .operator .add]).execute =
      (ofTokens [.number "2", .operator .multiply, .number "4", .operator .subtract,
        .number "1", .operator .add]).execute := by
  obtain ⟨hPrefix, hTotal⟩ := (Brackets.balanced_iff_counts
    [.leftParen, .number "4", .rightParen, .operator .multiply, .number "4"]).mp (by decide)
  obtain ⟨hGroup, hCall⟩ := execute_closed_group
    (A := [.number "2", .operator .multiply])
    (B := [.operator .subtract, .number "1", .operator .add])
    (v := 16.0) hPrefix hTotal (by decide +kernel)
  exact ⟨hGroup (by decide) "16" (by decide +kernel), hCall .sqrt "4" (by decide +kernel)⟩

/-- A function that waits takes the next group even if numbers stand between: the root in
`sqrt 5 (4) +` is that of 4, but the root in `sqrt 5 4 +` is that of 9. -/
theorem waiting_function_takes_group :
    ¬ ∀ (A B g : List Token) (v : Float) (text : String),
      (∀ p, p <+: g → p.count .rightParen ≤ p.count .leftParen) →
      g.count .rightParen = g.count .leftParen → (ofTokens g).execute = .ok v →
      (∀ f, A.getLast? ≠ some (.function f)) → Number.read? text = some v →
        (ofTokens (A ++ [.leftParen] ++ g ++ [.rightParen] ++ B)).execute =
          (ofTokens (A ++ [.number text] ++ B)).execute := by
  intro h
  obtain ⟨hPrefix, hTotal⟩ := (Brackets.balanced_iff_counts [.number "4"]).mp (by decide)
  -- the root waits behind the `5`, so it takes the group but not the number in its place
  have hSame := h [.function .sqrt, .number "5"] [.operator .add] [.number "4"] 4.0 "4"
    hPrefix hTotal (by decide +kernel) (by simp) (by decide +kernel)
  have hGroup : (ofTokens ([.function .sqrt, .number "5"] ++ [.leftParen] ++ [.number "4"] ++
      [.rightParen] ++ [.operator .add])).execute = .ok 7.0 := by
    decide +kernel
  have hNumber : (ofTokens ([.function .sqrt, .number "5"] ++ [.number "4"] ++
      [.operator .add])).execute = .ok 3.0 := by
    decide +kernel
  rw [hGroup, hNumber, Except.ok.injEq] at hSame
  exact absurd hSame (by decide +kernel)

end Program

end PocketCalculator
