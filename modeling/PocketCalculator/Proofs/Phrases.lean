import PocketCalculator.Phrase
import PocketCalculator.Proofs.Conservation
import PocketCalculator.Proofs.Groups

/-!
# PocketCalculator — complete expressions

The program of a complete expression is the listing of the tree that it stands for, and
its value is the value of this tree.

The converter lags behind: when a phrase has been read, the last operators of its tree
still wait. What is proved by induction is therefore that the tokens written for a
phrase and the entries that it has left waiting make up the listing together
(`Converter.Converts`). Each kind of phrase is read on a stack whose top binds less
tightly than all operators of the phrase, and leaves only entries that bind at least as
tightly as the loosest of them; so the operator that comes next finds its left operand
complete, and the phrases below are not touched.

* `Converter.converts_of_phrase` — phrases of every kind, in every state they begin in.
* `Phrase.ofTokens_eq_postorder` — whole expressions.
-/

namespace PocketCalculator

namespace Converter

-- ---------------------------------------------------------------------------
-- Written and waiting parts of a program
-- ---------------------------------------------------------------------------

/-- Tokens leave entries above the stack they are read on that bind at least as tightly
as `level`, and what they write makes up a program with these entries. -/
def Converts (s : Converter) (ts : List Token) (level : Nat) (p : Program) : Prop :=
  ∃ waiting : List Waiting,
    (∀ w ∈ waiting, level ≤ w.precedence) ∧
    s.after ts = ⟨waiting ++ s.stack, .operator⟩ ∧
    s.output ts ++ waiting.map Waiting.token = p

/-- The top of the stack binds less tightly than `level` and does not await a group. -/
def Admits (s : Converter) (level : Nat) : Prop :=
  ∀ w ∈ s.stack.head?, w.precedence < level ∧ ∀ f, w ≠ .function f

/-- A stack that a phrase can stand on also serves phrases that bind more tightly. -/
theorem Admits.mono {s : Converter} {m n : Nat} (h : s.Admits m) (hmn : m ≤ n) :
    s.Admits n := by
  intro w hw
  exact ⟨Nat.lt_of_lt_of_le (h w hw).1 hmn, (h w hw).2⟩

/-- A group that begins above such a stack is nobody's argument. -/
theorem Admits.not_awaitsArgument {s : Converter} {level : Nat} (h : s.Admits level) :
    s.awaitsArgument = false := by
  unfold awaitsArgument
  split
  · rename_i hStack
    exact absurd rfl ((h _ (by rw [hStack]; rfl)).2 _)
  · rfl

theorem Converts.mono {s : Converter} {ts : List Token} {m n : Nat} {p : Program}
    (h : s.Converts ts n p) (hmn : m ≤ n) : s.Converts ts m p := by
  obtain ⟨waiting, hWaiting, hAfter, hOutput⟩ := h
  exact ⟨waiting, fun w hw => Nat.le_trans hmn (hWaiting w hw), hAfter, hOutput⟩

/-- From the start nothing lies below, so the end writes just what the tokens left waiting. -/
theorem Converts.ofTokens_eq {ts : List Token} {level : Nat} {p : Program}
    (h : start.Converts ts level p) : Program.ofTokens ts = p := by
  obtain ⟨waiting, -, hAfter, hOutput⟩ := h
  rw [Program.ofTokens, hAfter, ← hOutput, flush, start, List.append_nil]

/-- Tokens that leave the stack as it was write their program themselves. -/
theorem converts_of_run {s : Converter} {ts : List Token} {p : Program}
    (hOutput : s.output ts = p) (hAfter : s.after ts = ⟨s.stack, .operator⟩) (level : Nat) :
    s.Converts ts level p :=
  ⟨[], by simp, hAfter, by rw [hOutput, List.map_nil, List.append_nil]⟩

/-- A `-` that negates adds its `0` in front of the program and waits to follow it. -/
theorem converts_negation {s : Converter} {ts : List Token} {level : Nat} {p : Program}
    (hExpects : s.expects ≠ .operator) (hLevel : level ≤ s.negationEntry.precedence)
    (h : (Converter.mk (s.negationEntry :: s.stack) .operand).Converts ts level p) :
    s.Converts (.operator .subtract :: ts) level
      (.number "0" :: p ++ [.operator .subtract]) := by
  obtain ⟨waiting, hWaiting, hAfter, hOutput⟩ := h
  have hNegates : s.negates (.operator .subtract) = true :=
    negates_operator_iff.mpr ⟨rfl, hExpects⟩
  -- the negation waits below what its operand leaves, so it is written after all of that
  refine ⟨waiting ++ [s.negationEntry], ?_, ?_, ?_⟩
  · intro w hw
    rcases List.mem_append.mp hw with hw | hw
    · exact hWaiting w hw
    · rw [List.mem_singleton.mp hw]
      exact hLevel
  · show (s.next _).after ts = _
    rw [next_of_negates hNegates, hAfter, List.append_assoc]
    rfl
  · rw [output, written_of_negates hNegates, next_of_negates hNegates, List.map_append,
      ← hOutput, List.map_singleton, token_negationEntry]
    simp

/-- An operator completes the operand to its left and leaves the rest of the stack. -/
theorem step_operator {base waiting : List Waiting} {op : Operator}
    (hWaiting : ∀ w ∈ waiting, op.precedence ≤ w.precedence)
    (hBase : ∀ w ∈ base.head?, w.precedence < op.precedence) :
    let s : Converter := ⟨waiting ++ base, .operator⟩
    s.written (.operator op) = waiting.map Waiting.token ∧
      s.next (.operator op) = ⟨.operator op :: base, .operand⟩ := by
  intro s
  -- an operator is expected, so even a `-` takes the operand to its left
  have hNegates : ¬ s.negates (.operator op) = true := by
    rw [negates_operator_iff]
    exact fun h => h.2 rfl
  -- the entry below the operand stops the operator, and no entry of the operand does
  have hHead : ∀ w ∈ base.head?, w.yieldsTo op = false := by
    intro w hw
    simpa [Waiting.yieldsTo] using hBase w hw
  have hAll : ∀ w ∈ waiting, w.yieldsTo op = true := by
    intro w hw
    simpa [Waiting.yieldsTo] using hWaiting w hw
  constructor
  · rw [written_of_not_negates hNegates, takeWhile_append_of_head hHead,
      List.takeWhile_eq_self_iff.mpr hAll]
  · rw [next_of_not_negates hNegates, dropWhile_append_of_head hHead,
      List.dropWhile_eq_nil_iff.mpr hAll, List.nil_append]

/-- Two operands and an operator between them: the left one is completed by the operator, which
then waits below what the right one leaves. -/
theorem converts_binary {s : Converter} {ts us : List Token} {op : Operator} {m n : Nat}
    {p q : Program} (hAdmits : s.Admits op.precedence) (hLeft : s.Converts ts m p)
    (hm : op.precedence ≤ m)
    (hRight : (Converter.mk (.operator op :: s.stack) .operand).Converts us n q)
    (hn : op.precedence ≤ n) :
    s.Converts (ts ++ .operator op :: us) op.precedence (p ++ q ++ [.operator op]) := by
  obtain ⟨waiting, hWaiting, hAfter, rfl⟩ := hLeft
  obtain ⟨waiting', hWaiting', hAfter', rfl⟩ := hRight
  obtain ⟨hWritten, hNext⟩ := step_operator
    (fun w hw => Nat.le_trans hm (hWaiting w hw)) fun w hw => (hAdmits w hw).1
  -- what waits now is what the right operand left, and the operator below it
  refine ⟨waiting' ++ [.operator op], ?_, ?_, ?_⟩
  · intro w hw
    rcases List.mem_append.mp hw with hw | hw
    · exact Nat.le_trans hn (hWaiting' w hw)
    · rw [List.mem_singleton.mp hw]
      exact Nat.le_refl op.precedence
  · rw [after_append, hAfter, List.append_assoc]
    show (Converter.next _ _).after us = _
    rw [hNext, hAfter']
    rfl
  · rw [output_append, hAfter, output, hWritten, hNext]
    simp [Waiting.token]

end Converter

-- ---------------------------------------------------------------------------
-- Phrases
-- ---------------------------------------------------------------------------

namespace PhraseKind

/-- How tightly the entries bind that a phrase leaves waiting. -/
def level : PhraseKind → Nat
  | group => 0
  | openingSum | sum => 1
  | openingProduct | product => 2
  | factor | atom => 3

/-- All entries that bind less tightly than this can wait below a phrase. -/
def ceiling : PhraseKind → Nat
  | group | openingSum | sum => 1
  | openingProduct | product => 2
  | factor | atom => 4

/-- Where a phrase can begin: a `-` in front of it means its group or its first factor. -/
def begins : PhraseKind → Expectation → Prop
  | group, x => x = .group
  | sum, x | product, x | factor, x => x = .operand
  | openingSum, _ | openingProduct, _ | atom, _ => True

end PhraseKind

namespace Phrase

theorem precedence_of_tight {op : Operator} (h : op = .multiply ∨ op = .divide) :
    op.precedence = 2 := by
  rcases h with rfl | rfl <;> rfl

theorem precedence_of_loose {op : Operator} (h : op = .add ∨ op = .subtract) :
    op.precedence = 1 := by
  rcases h with rfl | rfl <;> rfl

/-- The parentheses of a phrase are balanced, wherever it stands. -/
theorem foldl_read {k : PhraseKind} {ts : List Token} {e : Expression} (h : Phrase k ts e)
    (b : Brackets) :
    (ts.foldl Brackets.read b).opened = b.opened ∧
      (ts.foldl Brackets.read b).unmatched = b.unmatched := by
  -- by the derivation: groups cancel their two parentheses, the other rules have none of their
  -- own
  induction h generalizing b with
  | number text => exact ⟨rfl, rfl⟩
  | parens inner ih | call f argument ih =>
    obtain ⟨hOpened, hUnmatched⟩ := ih (b.read .leftParen)
    exact Brackets.foldl_read_group hOpened hUnmatched
  | unsigned _ ih | signed _ ih | oneFactor _ ih | oneProduct _ ih | openingAtom _ ih
  | openingOne _ ih | plainGroup _ ih | negatedGroup _ ih => exact ih b
  | times _ _ _ _ ihLeft ihRight | plus _ _ _ _ ihLeft ihRight
  | openingTimes _ _ _ _ ihLeft ihRight | openingPlus _ _ _ _ ihLeft ihRight =>
    rw [List.foldl_append, List.foldl_cons]
    obtain ⟨hOpened, hUnmatched⟩ := ihLeft b
    obtain ⟨hOpened', hUnmatched'⟩ := ihRight _
    exact ⟨hOpened'.trans hOpened, hUnmatched'.trans hUnmatched⟩

/-- The parentheses of a phrase are balanced. -/
theorem balanced {k : PhraseKind} {ts : List Token} {e : Expression} (h : Phrase k ts e) :
    Brackets.balanced ts = true := by
  rw [Brackets.balanced, decide_eq_true_eq]
  exact h.foldl_read Brackets.none

end Phrase

namespace Converter

/-- At the start nothing waits that could stand in the way. -/
theorem admits_start (level : Nat) : start.Admits level := by
  intro w hw
  simp [start] at hw

/-- A stack admits what binds more tightly than its top, unless that is a function. -/
theorem admits_cons {w : Waiting} {level : Nat} (h : w.precedence < level)
    (hFunction : ∀ f, w ≠ .function f) (stack : List Waiting) (x : Expectation) :
    (Converter.mk (w :: stack) x).Admits level := by
  intro w' hw'
  rw [← Option.some.inj hw']
  exact ⟨h, hFunction⟩

/-- A chain grows by an operator and an operand that binds more tightly. -/
theorem converts_chain {s : Converter} {ts us : List Token} {op : Operator} {m n : Nat}
    {l r : Expression} (hOp : op.precedence = n) (hAdmits : s.Admits n)
    (hLeft : s.Converts ts n l.postorder) (hm : n < m)
    (hRight : ∀ u : Converter, u.Admits m → u.expects = .operand →
      u.Converts us (n + 1) r.postorder) :
    s.Converts (ts ++ .operator op :: us) n (Expression.binary op l r).postorder := by
  subst hOp
  -- the operator waits below the right operand, which therefore has to bind more tightly
  apply converts_binary hAdmits hLeft (Nat.le_refl _) ?_ (Nat.le_succ _)
  exact hRight _ (admits_cons hm (by simp) s.stack .operand) rfl

/-- **Phrases.** Every phrase, read in a state it can begin in, is converted to the listing
of its tree, up to entries that bind at least as tightly as the phrase. -/
theorem converts_of_phrase {k : PhraseKind} {ts : List Token} {e : Expression}
    (h : Phrase k ts e) {s : Converter} (hAdmits : s.Admits k.ceiling)
    (hBegins : k.begins s.expects) : s.Converts ts k.level e.postorder := by
  -- by the derivation, at any state: what is on the stack below changes with every rule
  induction h generalizing s with
  | number text => exact converts_of_run rfl rfl 3
  | parens inner ih =>
    -- the inside is balanced, so it is converted as if it stood alone: from the start
    obtain ⟨hOutput, hAfter⟩ := run_group inner.balanced hAdmits.not_awaitsArgument
    rw [(ih (admits_start 1) rfl).ofTokens_eq] at hOutput
    exact converts_of_run hOutput hAfter 3
  | call f argument ih =>
    obtain ⟨hOutput, hAfter⟩ := run_call argument.balanced f s
    rw [(ih (admits_start 1) rfl).ofTokens_eq] at hOutput
    exact converts_of_run hOutput hAfter 3
  | unsigned atom ih => exact ih hAdmits trivial
  | signed factor ih =>
    have hEntry : s.negationEntry = .negation := by
      -- behind an operator a sign waits as a tight negation, over its factor only
      rw [negationEntry, hBegins]
      rfl
    refine converts_negation (by simp [show s.expects = .operand from hBegins]) ?_ ?_
    · rw [hEntry]
      exact Nat.le_refl 3
    · rw [hEntry]
      exact ih (admits_cons (by decide) (by simp) s.stack .operand) rfl
  | oneFactor factor ih => exact (ih (hAdmits.mono (by decide)) hBegins).mono (by decide)
  | times op tight left right ihLeft ihRight =>
    exact converts_chain (Phrase.precedence_of_tight tight) hAdmits (ihLeft hAdmits hBegins)
      (by decide : _ < 4) fun _ hs hx => ihRight hs hx
  | oneProduct product ih => exact (ih (hAdmits.mono (by decide)) hBegins).mono (by decide)
  | plus op loose left right ihLeft ihRight =>
    exact converts_chain (Phrase.precedence_of_loose loose) hAdmits (ihLeft hAdmits hBegins)
      (by decide : _ < 2) fun _ hs hx => ihRight hs hx
  | openingAtom atom ih => exact (ih (hAdmits.mono (by decide)) trivial).mono (by decide)
  | openingTimes op tight left right ihLeft ihRight =>
    exact converts_chain (Phrase.precedence_of_tight tight) hAdmits (ihLeft hAdmits trivial)
      (by decide : _ < 4) fun _ hs hx => ihRight hs hx
  | openingOne product ih => exact (ih (hAdmits.mono (by decide)) trivial).mono (by decide)
  | openingPlus op loose left right ihLeft ihRight =>
    exact converts_chain (Phrase.precedence_of_loose loose) hAdmits (ihLeft hAdmits trivial)
      (by decide : _ < 2) fun _ hs hx => ihRight hs hx
  | plainGroup sum ih => exact (ih hAdmits trivial).mono (by decide)
  | negatedGroup sum ih =>
    -- at the start of a group a sign waits as the negation of the whole sum
    have hEntry : s.negationEntry = .groupNegation := by
      rw [negationEntry, hBegins]
      rfl
    refine converts_negation (by simp [show s.expects = .group from hBegins]) (Nat.zero_le _) ?_
    rw [hEntry]
    exact (ih (admits_cons (by decide) (by simp) s.stack .operand) rfl).mono (by decide)

end Converter

-- ---------------------------------------------------------------------------
-- Whole expressions
-- ---------------------------------------------------------------------------

namespace Phrase

variable {ts : List Token} {e : Expression}

/-- The program of a complete expression is the listing of its tree. -/
theorem ofTokens_eq (h : Phrase .group ts e) : Program.ofTokens ts = e.postorder :=
  (Converter.converts_of_phrase h (Converter.admits_start 1) rfl).ofTokens_eq

/-- **Complete expressions.** A complete expression is converted to the listing of its tree;
and if all its numbers are numerals, its program has a value, which is that of the tree. -/
theorem ofTokens_eq_postorder (h : Phrase .group ts e) :
    Program.ofTokens ts = e.postorder ∧
      ((∀ text, .number text ∈ ts → (Number.read? text).isSome) →
        ∃ v, e.value? = some v ∧ (Program.ofTokens ts).execute = .ok v) := by
  refine ⟨h.ofTokens_eq, ?_⟩
  intro hNumerals
  -- the numbers of the listing are those of the expression and the `0` of negations
  have hListed : ∀ text, .number text ∈ e.postorder → (Number.read? text).isSome := by
    intro text hText
    rw [← h.ofTokens_eq] at hText
    exact Program.isSome_read?_of_mem_ofTokens hNumerals hText
  obtain ⟨v, hValue⟩ := Expression.exists_value hListed
  refine ⟨v, hValue, ?_⟩
  rw [h.ofTokens_eq]
  exact Expression.execute_postorder hValue

/-- `- 2 * sqrt ( 9 ) - - ( 1 )` is `0 - (2 * sqrt 9 - (0 - 1))`. -/
theorem ofTokens_eq_postorder_signs :
    Program.ofTokens [.operator .subtract, .number "2", .operator .multiply, .function .sqrt,
        .leftParen, .number "9", .rightParen, .operator .subtract, .operator .subtract,
        .leftParen, .number "1", .rightParen] =
      [.number "0", .number "2", .number "9", .function .sqrt, .operator .multiply,
        .number "0", .number "1", .operator .subtract, .operator .subtract,
        .operator .subtract] ∧
    ∃ v, (Program.ofTokens [.operator .subtract, .number "2", .operator .multiply,
        .function .sqrt, .leftParen, .number "9", .rightParen, .operator .subtract,
        .operator .subtract, .leftParen, .number "1", .rightParen]).execute = .ok v := by
  have hRoot : Phrase .factor [.function .sqrt, .leftParen, .number "9", .rightParen]
      (.call .sqrt (.number "9")) :=
    unsigned (call .sqrt (plainGroup (openingOne (openingAtom (number "9")))))
  have hProduct : Phrase .product [.number "2", .operator .multiply, .function .sqrt,
      .leftParen, .number "9", .rightParen]
      (.binary .multiply (.number "2") (.call .sqrt (.number "9"))) :=
    times .multiply (Or.inl rfl) (oneFactor (unsigned (number "2"))) hRoot
  have hSigned : Phrase .factor [.operator .subtract, .leftParen, .number "1", .rightParen]
      (.negation (.number "1")) :=
    signed (unsigned (parens (plainGroup (openingOne (openingAtom (number "1"))))))
  have hPhrase : Phrase .group
      [.operator .subtract, .number "2", .operator .multiply, .function .sqrt,
        .leftParen, .number "9", .rightParen, .operator .subtract, .operator .subtract,
        .leftParen, .number "1", .rightParen] _ :=
    negatedGroup (plus .subtract (Or.inr rfl) (oneProduct hProduct) (oneFactor hSigned))
  obtain ⟨hProgram, hValue⟩ := ofTokens_eq_postorder hPhrase
  obtain ⟨v, -, hExecute⟩ := hValue (by simp; decide)
  exact ⟨hProgram, v, hExecute⟩

end Phrase

end PocketCalculator
