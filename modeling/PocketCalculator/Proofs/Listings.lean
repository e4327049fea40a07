import Mathlib.Data.List.Forall2
import Mathlib.Data.List.Induction
import PocketCalculator.Proofs.Execution

/-!
# PocketCalculator — programs as listings of trees

Every program that runs to its end lists trees, one after the other, and leaves their values.
The trees are those that the same program builds on a stack of trees: a number is a new leaf,
an operator and a function join the trees on top. A program lists its trees in one way only,
since the last token of a listing tells how its tree is made.

* `Program.run_eq_ok_iff` — a program leaves the values of the trees that it lists.
* `Expression.eq_of_postorder_append` — a program ends with the listing of one tree at most.
* `Program.step_eq_error_iff` — the tokens that cannot be executed on so many values.
* `Program.execute_eq_iff_lists` — the value or the error of every program by its trees.
-/

namespace PocketCalculator

-- ---------------------------------------------------------------------------
-- One listing, one tree
-- ---------------------------------------------------------------------------

namespace Expression

theorem postorder_ne_nil (e : Expression) : e.postorder ≠ [] := by
  cases e <;> simp [postorder]

/-- A program ends with the listing of one tree at most. -/
theorem eq_of_postorder_append {e e' : Expression} {p p' : Program}
    (h : p ++ e.postorder = p' ++ e'.postorder) : p = p' ∧ e = e' := by
  -- the last token of a listing tells the constructor and what it holds; what is left in front
  -- of it ends with the listings of the subtrees
  induction e generalizing e' p p' with
  | number text =>
    cases e' with
    | number text' =>
      obtain ⟨rfl, hToken⟩ := List.append_inj' h rfl
      cases hToken
      exact ⟨rfl, rfl⟩
    | call f a' => simp [postorder, ← List.append_assoc] at h
    | binary op l' r' => simp [postorder, ← List.append_assoc] at h
  | call f a ih =>
    cases e' with
    | number text' => simp [postorder, ← List.append_assoc] at h
    | call f' a' =>
      simp only [postorder, ← List.append_assoc] at h
      obtain ⟨hFront, hToken⟩ := List.append_inj' h rfl
      cases hToken
      obtain ⟨rfl, rfl⟩ := ih hFront
      exact ⟨rfl, rfl⟩
    | binary op l' r' => simp [postorder, ← List.append_assoc] at h
  | binary op l r ihLeft ihRight =>
    cases e' with
    | number text' => simp [postorder, ← List.append_assoc] at h
    | call f' a' => simp [postorder, ← List.append_assoc] at h
    | binary op' l' r' =>
      simp only [postorder, ← List.append_assoc] at h
      obtain ⟨hFront, hToken⟩ := List.append_inj' h rfl
      cases hToken
      -- the right subtree is listed last, so it is found before the left one
      obtain ⟨hFront', rfl⟩ := ihRight hFront
      obtain ⟨rfl, rfl⟩ := ihLeft hFront'
      exact ⟨rfl, rfl⟩

/-- No two trees have the same listing. -/
theorem postorder_injective {e e' : Expression} (h : e.postorder = e'.postorder) : e = e' :=
  (eq_of_postorder_append (congrArg ([] ++ ·) h)).2

/-- No two lists of trees have the same listing. -/
theorem eq_of_flatMap_postorder {es es' : List Expression}
    (h : es.flatMap postorder = es'.flatMap postorder) : es = es' := by
  -- from the right, since the end of a program tells its last tree
  induction es using List.reverseRecOn generalizing es' with
  | nil =>
    cases es' with
    | nil => rfl
    | cons e es' => simp [postorder_ne_nil] at h
  | append_singleton es e ih =>
    rcases List.eq_nil_or_concat es' with rfl | ⟨es', e', rfl⟩
    · simp [postorder_ne_nil] at h
    · rw [List.concat_eq_append, List.flatMap_append, List.flatMap_append, List.flatMap_singleton,
        List.flatMap_singleton] at h
      obtain ⟨hFront, rfl⟩ := eq_of_postorder_append h
      rw [ih hFront, List.concat_eq_append]

end Expression

namespace Program

-- ---------------------------------------------------------------------------
-- Programs that run to their end
-- ---------------------------------------------------------------------------

/-- A program that lists trees leaves their values. -/
theorem run_flatMap_postorder {trees : List Expression} {left : List Float}
    (h : List.Forall₂ (fun e v => e.value? = some v) trees left) :
    run [] (trees.reverse.flatMap Expression.postorder) = .ok left := by
  induction h with
  | nil => rfl
  | @cons e v trees left hValue _ ih =>
    -- the last tree listed is the first on the stack, and the others lie below its value
    rw [List.reverse_cons, List.flatMap_append, List.flatMap_singleton, run_append_of_ok ih]
    exact run_of_execute (Expression.execute_postorder hValue) left

/-- What a program leaves are the values of trees that it lists. The trees stand on a stack as
their values do, the last of them on top. -/
theorem exists_trees_of_run {q : Program} (hBare : ∀ t ∈ q, t.isParenthesis = false)
    {left : List Float} (h : run [] q = .ok left) :
    ∃ trees : List Expression, q = trees.reverse.flatMap Expression.postorder ∧
      List.Forall₂ (fun e v => e.value? = some v) trees left := by
  -- by the program from its end: the last token joins the trees that the tokens in front of it
  -- list
  induction q using List.reverseRecOn generalizing left with
  | nil =>
    cases h
    exact ⟨[], rfl, .nil⟩
  | append_singleton q t ih =>
    rw [run_append] at h
    cases hRun : run [] q with
    | error e =>
      rw [hRun] at h
      cases h
    | ok operands =>
      simp only [hRun, Except.bind, run_singleton] at h
      obtain ⟨trees, rfl, hTrees⟩ := ih (fun u hu => hBare u (List.mem_append_left _ hu)) hRun
      rcases step_cases h with ⟨text, v, rfl, hValue, rfl⟩ |
        ⟨op, right, lower, rest, rfl, rfl, rfl⟩ | ⟨f, argument, rest, rfl, rfl, rfl⟩ |
        ⟨hParenthesis, -⟩
      · exact ⟨.number text :: trees, by simp [Expression.postorder], .cons hValue hTrees⟩
      · -- the right operand is on top of the stack, so its tree is the one listed last
        obtain ⟨r, _, hRight, hOthers, rfl⟩ := List.forall₂_cons_right_iff.mp hTrees
        obtain ⟨l, trees, hLeft, hRest, rfl⟩ := List.forall₂_cons_right_iff.mp hOthers
        refine ⟨.binary op l r :: trees, by simp [Expression.postorder], .cons ?_ hRest⟩
        rw [Expression.value?, hLeft, hRight]
        rfl
      · obtain ⟨a, trees, hArgument, hRest, rfl⟩ := List.forall₂_cons_right_iff.mp hTrees
        refine ⟨.call f a :: trees, by simp [Expression.postorder], .cons ?_ hRest⟩
        rw [Expression.value?, hArgument]
        rfl
      · have hNot := hBare t (by simp)
        simp [hParenthesis] at hNot

/-- Whether a program lists trees one after the other and all its numbers are numerals. -/
structure Lists (q : Program) (es : List Expression) : Prop where
  listing : es.flatMap Expression.postorder = q
  numerals : ∀ text, .number text ∈ q → (Number.read? text).isSome = true

/-- A program that runs to its end has read all its numbers. -/
theorem isSome_read?_of_run {operands left : List Float} {q : Program}
    (h : run operands q = .ok left) {text : String} (hText : .number text ∈ q) :
    (Number.read? text).isSome = true := by
  induction q generalizing operands with
  | nil => cases hText
  | cons t q ih =>
    obtain ⟨next, hStep, hRun⟩ := exists_of_run_cons h
    rcases List.mem_cons.mp hText with rfl | hMem
    · cases hRead : Number.read? text with
      | some v => rfl
      | none => simp [step, hRead] at hStep
    · exact ih hRun hMem

/-- A program leaves the values of the trees that it lists. -/
theorem run_eq_ok_iff {q : Program} (hBare : ∀ t ∈ q, t.isParenthesis = false)
    (left : List Float) :
    run [] q = .ok left ↔
      ∃ es, Lists q es ∧
        List.Forall₂ (fun e v => e.value? = some v) es.reverse left := by
  constructor
  · intro h
    obtain ⟨trees, hListing, hTrees⟩ := exists_trees_of_run hBare h
    exact ⟨trees.reverse, ⟨hListing.symm, fun _ => isSome_read?_of_run h⟩,
      trees.reverse_reverse.symm ▸ hTrees⟩
  · rintro ⟨es, ⟨rfl, -⟩, hTrees⟩
    have hRun := run_flatMap_postorder hTrees
    rwa [List.reverse_reverse] at hRun

namespace Lists

variable {q : Program} {es es' : List Expression}

/-- A program lists its trees in one way only. -/
theorem unique (h : Lists q es) (h' : Lists q es') : es' = es :=
  Expression.eq_of_flatMap_postorder (h'.listing.trans h.listing.symm)

/-- Trees of numerals have values, so a program that lists such trees runs to its end. -/
theorem exists_run (h : Lists q es) : ∃ left, run [] q = .ok left ∧ left.length = es.length := by
  -- the default is never used, since every tree has a value
  have hValues : ∀ e ∈ es.reverse, e.value? = some (e.value?.getD 0) := by
    intro e he
    obtain ⟨v, hv⟩ := Expression.exists_value fun text hText => h.numerals text <|
      h.listing ▸ List.mem_flatMap.mpr ⟨e, List.mem_reverse.mp he, hText⟩
    rw [hv]
    rfl
  have hTrees : List.Forall₂ (fun e v => e.value? = some v) es.reverse
      (es.reverse.map fun e => e.value?.getD 0) :=
    List.forall₂_map_right_iff.mpr (List.forall₂_same.mpr hValues)
  have hRun := run_flatMap_postorder hTrees
  rw [List.reverse_reverse, h.listing] at hRun
  exact ⟨_, hRun, by rw [List.length_map, List.length_reverse]⟩

end Lists

-- ---------------------------------------------------------------------------
-- Programs that stop
-- ---------------------------------------------------------------------------

/-- Which tokens cannot be executed with `k` operands, and what is then reported. -/
inductive Blocks (k : Nat) : Token → EvaluationError → Prop where
  | number (text : String) (malformed : Number.read? text = none) :
      Blocks k (.number text) (.malformedNumber text)
  | operator (op : Operator) (few : k < 2) :
      Blocks k (.operator op) (.missingOperand (.operator op))
  | function (f : NamedFunction) (few : k < 1) :
      Blocks k (.function f) (.missingOperand (.function f))

/-- Whether a token can be executed depends on how many operands there are, not on
their values. -/
theorem step_eq_error_iff {operands : List Float} {t : Token} {e : EvaluationError} :
    step operands t = .error e ↔ Blocks operands.length t e := by
  constructor
  · intro h
    cases t with
    | number text =>
      cases hRead : Number.read? text with
      | some v => simp [step, hRead] at h
      | none =>
        simp only [step, hRead, Except.error.injEq] at h
        exact h ▸ .number text hRead
    | operator op =>
      -- none, one or more operands: the first two are too few
      rcases operands with _ | ⟨right, _ | ⟨lower, rest⟩⟩
      · exact Except.error.inj h ▸ .operator op (by simp)
      · exact Except.error.inj h ▸ .operator op (by simp)
      · cases h
    | function f =>
      rcases operands with _ | ⟨argument, rest⟩
      · exact Except.error.inj h ▸ .function f (by simp)
      · cases h
    | leftParen | rightParen => cases h
  · rintro (⟨text, hRead⟩ | ⟨op, hFew⟩ | ⟨f, hFew⟩)
    · rw [step, hRead]
    · rcases operands with _ | ⟨right, _ | ⟨lower, rest⟩⟩
      · rfl
      · rfl
      · simp only [List.length_cons] at hFew
        omega
    · rw [List.length_eq_zero_iff.mp (Nat.lt_one_iff.mp hFew)]
      rfl

/-- Whether a program lists trees up to a token that cannot be executed with their values. -/
def StopsAt (q before : Program) (t : Token) (e : EvaluationError) : Prop :=
  ∃ after es, q = before ++ t :: after ∧ Lists before es ∧ Blocks es.length t e

/-- A program stops with the error of the token at which its listing of trees ends. -/
theorem StopsAt.run_eq {q before : Program} {t : Token} {e : EvaluationError}
    (h : StopsAt q before t e) : run [] q = .error e := by
  obtain ⟨after, es, rfl, hLists, hBlocks⟩ := h
  -- the trees in front have their values on the stack, as many as there are trees
  obtain ⟨left, hRun, hLength⟩ := hLists.exists_run
  rw [run_append_of_ok hRun, run, step_eq_error_iff.mpr (hLength.symm ▸ hBlocks)]

/-- No token in front of the one at which a program stops cannot be executed. -/
theorem StopsAt.length_le {q before before' : Program} {t t' : Token} {e e' : EvaluationError}
    (h : StopsAt q before t e) (h' : StopsAt q before' t' e') :
    before.length ≤ before'.length := by
  obtain ⟨after, es, hq, hLists, -⟩ := h
  obtain ⟨after', es', hq', hLists', hBlocks'⟩ := h'
  by_contra hLess
  -- the program up to `t` would stop at `t'`
  have hShort : before' ++ [t'] <+: q := ⟨after', by rw [hq', List.append_assoc]; rfl⟩
  have hLong : before <+: q := ⟨t :: after, hq.symm⟩
  have hLength : (before' ++ [t']).length ≤ before.length := by
    rw [List.length_append, List.length_singleton]
    omega
  obtain ⟨rest, hRest⟩ := List.prefix_of_prefix_length_le hShort hLong hLength
  rw [List.append_assoc, List.singleton_append] at hRest
  have hStops : StopsAt before before' t' e' := ⟨rest, es', hRest.symm, hLists', hBlocks'⟩
  -- but up to `t` the program runs to its end
  obtain ⟨left, hRun, -⟩ := hLists.exists_run
  rw [hStops.run_eq] at hRun
  cases hRun

/-- A program that does not run to its end lists trees up to the token at which it stops. -/
theorem exists_stopsAt_of_run {q : Program} (hBare : ∀ t ∈ q, t.isParenthesis = false)
    {e : EvaluationError} (h : run [] q = .error e) : ∃ before t, StopsAt q before t e := by
  obtain ⟨before, t, after, left, rfl, hRun, hStop⟩ := run_eq_error_iff.mp h
  obtain ⟨es, hLists, hTrees⟩ :=
    (run_eq_ok_iff (fun u hu => hBare u (List.mem_append_left _ hu)) left).mp hRun
  have hLength := hTrees.length_eq
  rw [List.length_reverse] at hLength
  exact ⟨before, t, after, es, rfl, hLists, hLength ▸ step_eq_error_iff.mp hStop⟩

-- ---------------------------------------------------------------------------
-- Values and errors
-- ---------------------------------------------------------------------------

variable (p : Program)

theorem isParenthesis_of_mem_bare {p : Program} : ∀ t ∈ p.bare, t.isParenthesis = false := by
  intro t ht
  simpa using (List.mem_filter.mp ht).2

/-- A program has a value exactly if it lists one tree with this value, parentheses apart. -/
theorem execute_eq_ok_iff (v : Float) :
    p.execute = .ok v ↔ ∃ e : Expression, e.postorder = p.bare ∧ e.value? = some v := by
  constructor
  · intro h
    have hRun := run_of_execute h []
    rw [← run_bare] at hRun
    obtain ⟨trees, hListing, hTrees⟩ := exists_trees_of_run isParenthesis_of_mem_bare hRun
    -- one value is left, so one tree is listed
    obtain ⟨e, trees, hValue, hNone, rfl⟩ := List.forall₂_cons_right_iff.mp hTrees
    rw [List.forall₂_nil_right_iff.mp hNone] at hListing
    exact ⟨e, by simpa using hListing.symm, hValue⟩
  · rintro ⟨e, hListing, hValue⟩
    have hBare : p.bare.execute = p.execute := by
      rw [execute, execute, run_bare]
    rw [← hBare, ← hListing]
    exact e.execute_postorder hValue

/-- A program leaves another number of values than one exactly if it lists so many trees. -/
theorem execute_eq_unbalanced_iff (r : Nat) :
    p.execute = .error (.unbalanced r) ↔ r ≠ 1 ∧ ∃ es, Lists p.bare es ∧ es.length = r := by
  constructor
  · intro h
    obtain ⟨left, hRun, rfl, hr⟩ := run_of_unbalanced h
    rw [← run_bare] at hRun
    obtain ⟨es, hLists, hTrees⟩ := (run_eq_ok_iff isParenthesis_of_mem_bare left).mp hRun
    exact ⟨hr, es, hLists, by rw [← hTrees.length_eq, List.length_reverse]⟩
  · rintro ⟨hr, es, hLists, rfl⟩
    obtain ⟨left, hRun, hLength⟩ := hLists.exists_run
    rw [run_bare] at hRun
    rw [← hLength] at hr ⊢
    exact execute_of_run hRun hr

/-- The errors of programs that do not run to their end. -/
theorem execute_eq_error_iff (e : EvaluationError) :
    p.execute = .error e ∧ (∀ r, e ≠ .unbalanced r) ↔ ∃ before t, StopsAt p.bare before t e := by
  constructor
  · rintro ⟨h, hOther⟩
    rcases execute_error_cases h with hRun | ⟨left, -, -, he⟩
    · rw [← run_bare] at hRun
      exact exists_stopsAt_of_run isParenthesis_of_mem_bare hRun
    · exact absurd he (hOther left.length)
  · rintro ⟨before, t, hStops⟩
    have hRun := hStops.run_eq
    rw [run_bare] at hRun
    refine ⟨by rw [execute, hRun], ?_⟩
    rintro r rfl
    -- none of the tokens that cannot be executed reports what is left
    obtain ⟨_, _, -, -, hBlocks⟩ := hStops
    cases hBlocks

/-- **Programs by their trees.** A program has a value exactly if it lists one tree, and then it
has the value of this tree. It leaves another number of values than one exactly if it lists so
many trees. In every other case it stops at the first token that cannot be executed with the
values of the trees that are listed in front of it. -/
theorem execute_eq_iff_lists :
    (∀ v, p.execute = .ok v ↔
      ∃ e : Expression, e.postorder = p.bare ∧ e.value? = some v ∧
        ∀ e' : Expression, e'.postorder = p.bare → e' = e) ∧
    (∀ r, p.execute = .error (.unbalanced r) ↔
      r ≠ 1 ∧ ∃ es, Lists p.bare es ∧ es.length = r ∧ ∀ es', Lists p.bare es' → es' = es) ∧
    (∀ e, p.execute = .error e ∧ (∀ r, e ≠ .unbalanced r) ↔
      ∃ before t, StopsAt p.bare before t e ∧
        ∀ before' t' e', StopsAt p.bare before' t' e' → before.length ≤ before'.length) := by
  refine ⟨fun v => ?_, fun r => ?_, fun e => ?_⟩
  · rw [execute_eq_ok_iff]
    refine exists_congr fun e => and_congr_right fun hListing => ?_
    exact (and_iff_left fun e' hListing' =>
      Expression.postorder_injective (hListing'.trans hListing.symm)).symm
  · rw [execute_eq_unbalanced_iff]
    refine and_congr_right fun _ => exists_congr fun es => and_congr_right fun hLists => ?_
    exact (and_iff_left fun es' hLists' => hLists.unique hLists').symm
  · rw [execute_eq_error_iff]
    refine exists_congr fun before => exists_congr fun t => ?_
    exact ⟨fun hStops => ⟨hStops, fun _ _ _ => hStops.length_le⟩, And.left⟩

end Program

end PocketCalculator
