import PocketCalculator.Proofs.Opposites
import PocketCalculator.Proofs.Phrases

/-!
# PocketCalculator — signed products

A *factor* is a number, a closed group or a function of a closed group, with signs in front
or none; a *product* is factors joined by `*` and `/`. The groups in it may hold anything
that has a value.

A `-` in front of a product negates its first factor only where it is read after an
operator, and all of the product where it opens a group. The two values are opposites.

* `Product.converts` — a product is converted to a program of its value.
* `Product.exists_signed` — a product with a sign is a product of the opposite value.
* `Product.execute_minus` — a product behind the `-` that opens its group.
-/

namespace PocketCalculator

/-- The tokens of a factor and its value. -/
inductive Factor : List Token → Float → Prop where
  | number {text v} (numeral : Number.read? text = some v) : Factor [.number text] v
  | group {g v} (balanced : Brackets.balanced g = true)
      (value : (Program.ofTokens g).execute = .ok v) :
      Factor (.leftParen :: (g ++ [.rightParen])) v
  | call (f : NamedFunction) {g v} (balanced : Brackets.balanced g = true)
      (value : (Program.ofTokens g).execute = .ok v) :
      Factor (.function f :: .leftParen :: (g ++ [.rightParen])) (f.apply v)
  | signed {ts v} (factor : Factor ts v) : Factor (.operator .subtract :: ts) (0 - v)

/-- The tokens of a product and its value. -/
inductive Product : List Token → Float → Prop where
  | factor {ts v} (factor : Factor ts v) : Product ts v
  | times {ts us u v} (op : Operator) (tight : op = .multiply ∨ op = .divide)
      (left : Product ts u) (right : Factor us v) :
      Product (ts ++ .operator op :: us) (op.apply u v)

-- ---------------------------------------------------------------------------
-- Programs of products
-- ---------------------------------------------------------------------------

open Converter in
/-- The tokens of a factor are converted, behind an operator, to a program of its value. -/
theorem Factor.converts {ts : List Token} {v : Float} (h : Factor ts v) :
    ∃ p : Program, p.execute = .ok v ∧
      ∀ s : Converter, s.Admits 4 → s.expects = .operand → s.Converts ts 3 p := by
  induction h with
  | @number text v numeral =>
    refine ⟨[.number text], Program.execute_number numeral, ?_⟩
    intro s _ _
    exact converts_of_run rfl rfl 3
  | @group g v balanced value =>
    refine ⟨Program.ofTokens g, value, ?_⟩
    intro s hAdmits _
    obtain ⟨hOutput, hAfter⟩ := run_group balanced hAdmits.not_awaitsArgument
    exact converts_of_run hOutput hAfter 3
  | @call f g v balanced value =>
    refine ⟨Program.ofTokens g ++ [.function f], Program.execute_call value f, ?_⟩
    intro s _ _
    obtain ⟨hOutput, hAfter⟩ := run_call balanced f s
    exact converts_of_run hOutput hAfter 3
  | signed factor ih =>
    obtain ⟨p, hValue, hConverts⟩ := ih
    -- behind an operator every sign waits as a tight negation, so signs nest
    refine ⟨.number "0" :: p ++ [.operator .subtract], Program.execute_negation hValue, ?_⟩
    intro s _ hExpects
    have hEntry : s.negationEntry = .negation := by
      rw [negationEntry, hExpects]
      rfl
    refine converts_negation (by simp [hExpects]) (by rw [hEntry]; decide) ?_
    rw [hEntry]
    exact hConverts _ (admits_cons (by decide) (by simp) s.stack .operand) rfl

namespace Product

open Converter

variable {ts : List Token} {v : Float}

/-- The tokens of a product are converted, behind an operator, to a program of its value. -/
theorem converts (h : Product ts v) :
    ∃ p : Program, p.execute = .ok v ∧
      ∀ s : Converter, s.Admits 2 → s.expects = .operand → s.Converts ts 2 p := by
  induction h with
  | factor factor =>
    obtain ⟨p, hValue, hConverts⟩ := factor.converts
    refine ⟨p, hValue, ?_⟩
    intro s hAdmits hExpects
    exact (hConverts s (hAdmits.mono (by decide)) hExpects).mono (by decide)
  | @times ts us u v op tight left right ih =>
    obtain ⟨p, hLeft, hConverts⟩ := ih
    obtain ⟨q, hRight, hConverts'⟩ := right.converts
    refine ⟨p ++ q ++ [.operator op], Program.execute_binary hLeft hRight op, ?_⟩
    intro s hAdmits hExpects
    -- a factor binds more tightly than the `*` or `/` in front of it
    have hOp := Phrase.precedence_of_tight tight
    have hBelow : (Converter.mk (.operator op :: s.stack) .operand).Admits 4 :=
      admits_cons (Nat.lt_of_le_of_lt hOp.le (by decide)) (by simp) s.stack .operand
    have hBinary : s.Converts (ts ++ .operator op :: us) op.precedence
        (p ++ q ++ [.operator op]) :=
      converts_binary (hAdmits.mono hOp.ge) (hConverts s hAdmits hExpects) hOp.le
        (hConverts' _ hBelow rfl) (Nat.le_succ_of_le hOp.le)
    exact hBinary.mono hOp.ge

/-- Behind the `-` that opens its group, a product is subtracted from zero. -/
theorem execute_minus (h : Product ts v) :
    (Program.ofTokens (.operator .subtract :: ts)).execute = .ok (0 - v) := by
  obtain ⟨p, hValue, hConverts⟩ := h.converts
  -- behind the `-` of the group its operators are read as behind any operator
  have hBehind : (Converter.mk [.groupNegation] .operand).Converts ts 0 p :=
    (hConverts _ (admits_cons (by decide) (by simp) [] .operand) rfl).mono (by decide)
  have hWhole : start.Converts (.operator .subtract :: ts) 0
      (.number "0" :: p ++ [.operator .subtract]) :=
    converts_negation (by decide) (Nat.zero_le _) hBehind
  rw [hWhole.ofTokens_eq]
  exact Program.execute_negation hValue

/-- A sign in front of a product is a sign of its first factor. -/
theorem exists_signed (h : Product ts v) :
    ∃ w, Product (.operator .subtract :: ts) w ∧ Opposite v w := by
  -- the sign reaches the first factor; each further factor turns opposites into opposites
  induction h with
  | @factor ts v factor => exact ⟨0 - v, .factor factor.signed, opposite_zero_sub v⟩
  | @times ts us u v op tight left right ih =>
    obtain ⟨w, hSigned, hOpposite⟩ := ih
    exact ⟨op.apply w v, hSigned.times op tight right, hOpposite.apply tight v⟩

/-- One more `-` in front of a product behind the `-` of its group. -/
theorem execute_minus_signed (h : Product ts v) :
    (Program.ofTokens (.operator .subtract :: .operator .subtract :: ts)).execute =
      .ok (0 - (0 - v)) := by
  obtain ⟨w, hSigned, hOpposite⟩ := h.exists_signed
  rw [hSigned.execute_minus, hOpposite.zero_sub]

end Product

end PocketCalculator
