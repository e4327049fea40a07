import PocketCalculator.Proofs.Groups
import PocketCalculator.Proofs.Neighbours
import PocketCalculator.Proofs.Partners

/-!
# PocketCalculator — the order of waiting entries

What the stack of the converter looks like between any two tokens. An operator goes on the
stack only after all entries above it that hold at least as tightly have left, and the
negation of a group only where this group begins; since entries leave from the top alone,
neither is undone later. And a `(` leaves only when its `)` is read, so that the `(` on the
stack are those of the expression that have no partner yet.

* `Converter.Stacked.next`, `Converter.Stacked.after` — the order of entries, for one token
  and for any number of them.
* `Converter.belowParens_after` — the `(` on the stack.
* `Converter.inOrder_after` — every state of the converter.
-/

namespace PocketCalculator

open Brackets (unclosedPlaces)

namespace Waiting

/-- Which entry may wait right above which: an operator only above one that holds less tightly,
and the negation of a group only above the `(` of this group. -/
def StandsOn : Waiting → Waiting → Prop
  | .operator op, lower => lower.precedence < op.precedence
  | .groupNegation, lower => lower = .leftParen
  | .function _, _ | .leftParen, _ | .negation, _ => True

/-- No operator waits right above a negation, a `*` or a `/`. -/
theorem StandsOn.loose {op : Operator} {lower : Waiting} (h : StandsOn (.operator op) lower) :
    lower ≠ .negation ∧ lower ≠ .operator .multiply ∧ lower ≠ .operator .divide := by
  have hLower : lower.precedence < 2 := Nat.lt_of_lt_of_le h op.precedence_bounds.2
  refine ⟨?_, ?_, ?_⟩ <;> rintro rfl <;> exact absurd hLower (by decide)

/-- An operator that comes moves only operators and negations of one operand. -/
theorem holds_of_yieldsTo {op : Operator} {w : Waiting} (h : w.yieldsTo op = true) :
    w ≠ .leftParen ∧ w ≠ .groupNegation ∧ ∀ f, w ≠ .function f := by
  have hPositive : 0 < w.precedence :=
    Nat.lt_of_lt_of_le op.precedence_bounds.1 (of_decide_eq_true h)
  refine ⟨?_, ?_, fun f => ?_⟩ <;> rintro rfl <;> exact Nat.lt_irrefl 0 hPositive

end Waiting

namespace Converter

-- ---------------------------------------------------------------------------
-- Operators and negations
-- ---------------------------------------------------------------------------

/-- What the converter keeps of the order of entries. -/
structure Stacked (s : Converter) : Prop where
  order : s.stack.IsChain Waiting.StandsOn
  /-- A group begins with nothing waiting or right above its `(`. -/
  beginning : s.expects = .group → Sealed s.stack

/-- At the start nothing waits, so nothing is out of order. -/
theorem stacked_start : start.Stacked :=
  ⟨List.isChain_nil, fun _ _ h => by simp [start] at h⟩

/-- The end of a group leaves a lower part of the stack. -/
theorem below_suffix (stack : List Waiting) : below stack <:+ stack := by
  unfold below
  split
  · exact ⟨[_, _], rfl⟩
  · exact ⟨[_], rfl⟩
  · exact List.suffix_refl []

/-- The entry that an operator finds on top when all those that yield to it have left. -/
theorem precedence_lt_of_head? {op : Operator} {stack : List Waiting} {w : Waiting}
    (h : w ∈ (stack.dropWhile (Waiting.yieldsTo op)).head?) : w.precedence < op.precedence := by
  have hStop := List.head?_dropWhile_not (Waiting.yieldsTo op) stack
  rw [h] at hStop
  simpa [Waiting.yieldsTo] using hStop

/-- **One token.** Entries go on the stack where they may wait, and leave it from the
top only. -/
theorem Stacked.next {s : Converter} (h : s.Stacked) (t : Token) : (s.next t).Stacked := by
  cases t with
  | number text => exact ⟨h.order, nofun⟩
  | function f => exact ⟨List.isChain_cons.mpr ⟨fun _ _ => trivial, h.order⟩, nofun⟩
  | leftParen =>
    exact ⟨List.isChain_cons.mpr ⟨fun _ _ => trivial, h.order⟩, fun _ => sealed_leftParen s.stack⟩
  | rightParen =>
    exact ⟨h.order.suffix ((below_suffix _).trans (List.dropWhile_suffix _)), nofun⟩
  | operator op =>
    by_cases hNegates : s.negates (.operator op) = true
    · -- a sign that opens its group is read at the beginning of the group, so only a `(` can be
      -- below
      rw [next_of_negates hNegates]
      refine ⟨List.isChain_cons.mpr ⟨fun lower hLower => ?_, h.order⟩, nofun⟩
      unfold negationEntry
      split
      · rename_i hGroup
        exact h.beginning hGroup lower hLower
      · trivial
    · rw [next_of_not_negates hNegates]
      -- all that yielded has left, so what is below holds less tightly
      exact ⟨List.isChain_cons.mpr ⟨fun _ => precedence_lt_of_head?,
        h.order.suffix (List.dropWhile_suffix _)⟩, nofun⟩

/-- **Any tokens.** The order of entries holds in every state that begins with it. -/
theorem Stacked.after {s : Converter} (h : s.Stacked) (ts : List Token) :
    (s.after ts).Stacked := by
  induction ts generalizing s with
  | nil => exact h
  | cons t ts ih => exact ih (h.next t)

/-- Two neighbours on the stack stand on each other as they may. -/
theorem Stacked.standsOn {s : Converter} (h : s.Stacked) {above lower : List Waiting}
    {v w : Waiting} (hStack : s.stack = above ++ v :: w :: lower) : v.StandsOn w := by
  have hOrder := h.order
  rw [hStack, List.isChain_append_cons_cons] at hOrder
  exact hOrder.2.1

/-- What an operator that comes takes from the stack, and what it leaves there. -/
theorem stack_next_operator (s : Converter) (op : Operator) :
    ∃ entry moved kept, s.stack = moved ++ kept ∧
      (s.next (.operator op)).stack = entry :: kept ∧
      ∀ w ∈ moved, w ≠ .leftParen ∧ w ≠ .groupNegation ∧ ∀ f, w ≠ .function f := by
  by_cases hNegates : s.negates (.operator op) = true
  · rw [next_of_negates hNegates]
    exact ⟨s.negationEntry, [], s.stack, rfl, rfl, by simp⟩
  · rw [next_of_not_negates hNegates]
    exact ⟨.operator op, s.stack.takeWhile (Waiting.yieldsTo op),
      s.stack.dropWhile (Waiting.yieldsTo op), List.takeWhile_append_dropWhile.symm, rfl,
      fun w hw => Waiting.holds_of_yieldsTo (List.mem_takeWhile_imp hw)⟩

-- ---------------------------------------------------------------------------
-- Parentheses
-- ---------------------------------------------------------------------------

/-- What waits below each `(` of a stack, the topmost `(` first. -/
def belowParens : List Waiting → List (List Waiting)
  | [] => []
  | .leftParen :: rest => rest :: belowParens rest
  | _ :: rest => belowParens rest

/-- Only a `(` counts. -/
theorem belowParens_cons_of_ne (w : Waiting) (rest : List Waiting) (h : w ≠ .leftParen) :
    belowParens (w :: rest) = belowParens rest := by
  cases w with
  | leftParen => exact absurd rfl h
  | operator op | function f | groupNegation | negation => rfl

/-- Entries that leave without a `(` among them change nothing below the others. -/
theorem belowParens_dropWhile {test : Waiting → Bool} (h : test .leftParen = false)
    (stack : List Waiting) : belowParens (stack.dropWhile test) = belowParens stack :=
  apply_dropWhile belowParens_cons_of_ne h stack

/-- With its `(` a `)` takes at most a function, which is none. -/
theorem belowParens_below (rest : List Waiting) :
    belowParens (below (.leftParen :: rest)) = belowParens rest :=
  apply_below belowParens_cons_of_ne rest

/-- A `)` takes the topmost `(` from the stack. -/
theorem belowParens_rightParen (s : Converter) :
    belowParens (s.next .rightParen).stack = (belowParens s.stack).tail := by
  rw [next, stackAfter, ← belowParens_dropWhile isInside_leftParen s.stack]
  rcases dropWhile_isInside_cases s.stack with ⟨-, hNil⟩ | ⟨-, rest, hRest⟩
  · rw [hNil]
    rfl
  · rw [hRest, belowParens_below]
    rfl

/-- Tokens that are no parentheses leave every `(` where it is. -/
theorem belowParens_of_not_isParenthesis {t : Token} (h : t.isParenthesis = false)
    (s : Converter) : belowParens (s.next t).stack = belowParens s.stack := by
  cases t with
  | leftParen | rightParen => cases h
  | number text | function f => rfl
  | operator op =>
    by_cases hNegates : s.negates (.operator op) = true
    · rw [next_of_negates hNegates, belowParens_cons_of_ne]
      unfold negationEntry
      split <;> simp
    · rw [next_of_not_negates hNegates]
      exact belowParens_dropWhile (yieldsTo_leftParen op) s.stack

/-- The `(` on the stack, from the topmost down: first those that were read and have no partner,
each on what waited when it was read, and then those that waited before, of which every `)`
without a partner has taken one. -/
theorem belowParens_after (s : Converter) (ts : List Token) :
    belowParens (s.after ts).stack =
      ((unclosedPlaces ts).map fun i => (s.after (ts.take i)).stack).reverse ++
        (belowParens s.stack).drop (Brackets.ofTokens ts).unmatched := by
  -- by the first token, from any state: it decides what the others find on the stack
  induction ts generalizing s with
  | nil => rfl
  | cons t ts ih =>
    have hPlaces : ((unclosedPlaces ts).map (· + 1)).map
        (fun i => (s.after ((t :: ts).take i)).stack) =
          (unclosedPlaces ts).map fun i => ((s.next t).after (ts.take i)).stack := by
      rw [List.map_map]
      rfl
    rw [Brackets.unclosedPlaces_cons, List.map_append, hPlaces, List.reverse_append]
    refine (ih (s.next t)).trans ?_
    rw [List.append_assoc, List.append_right_inj]
    cases t with
    -- the new `(` is on top of the stack, and the first unmatched `)` behind it takes it
    | leftParen =>
      have hStack : belowParens (s.next .leftParen).stack = s.stack :: belowParens s.stack := rfl
      rw [hStack, Brackets.unmatched_cons_leftParen]
      cases (Brackets.ofTokens ts).unmatched with
      | zero => rfl
      | succ n => rfl
    -- without a partner, the `)` takes the topmost `(` of those that waited before
    | rightParen =>
      rw [belowParens_rightParen, Brackets.unmatched_cons_rightParen, List.drop_tail]
      rfl
    | number text | operator op | function f =>
      rw [belowParens_of_not_isParenthesis rfl, Brackets.ofTokens_cons_of_not_isParenthesis rfl]
      rfl

-- ---------------------------------------------------------------------------
-- States
-- ---------------------------------------------------------------------------

/-- The converter expects a group or an operator by the token it read last. -/
theorem expects_after_iff (ts : List Token) :
    ((start.after ts).expects = .group ↔ ts = [] ∨ ts.getLast? = some .leftParen) ∧
      ((start.after ts).expects = .operator ↔
        (∃ text, ts.getLast? = some (.number text)) ∨ ts.getLast? = some .rightParen) := by
  have hExpects := expects_after (s := start) (a := none) rfl ts
  rw [hExpects, Option.or_none, ← List.getLast?_eq_none_iff]
  rcases ts.getLast? with _ | t
  · simp [expectedFrom]
  · cases t <;> simp [expectedFrom, expectedAfter]

/-- What is known of the state of the converter when it has read tokens. -/
structure InOrder (ts : List Token) (s : Converter) : Prop where
  /-- An operator waits at the bottom or right above an entry that holds less tightly. -/
  operator_above : ∀ above op lower rest, s.stack = above ++ .operator op :: lower :: rest →
    lower.precedence < op.precedence ∧ lower ≠ .negation ∧
      lower ≠ .operator .multiply ∧ lower ≠ .operator .divide
  /-- The negation of a group waits at the bottom or right above a `(`. -/
  groupNegation_above : ∀ above lower rest, s.stack = above ++ .groupNegation :: lower :: rest →
    lower = .leftParen
  /-- The `(` that wait are, in their order, those without a partner among the tokens read, and
  each still stands on what waited when it was read. -/
  parens : (belowParens s.stack).reverse =
    (unclosedPlaces ts).map fun i => (start.after (ts.take i)).stack
  expects_group : s.expects = .group ↔ ts = [] ∨ ts.getLast? = some .leftParen
  expects_operator : s.expects = .operator ↔
    (∃ text, ts.getLast? = some (.number text)) ∨ ts.getLast? = some .rightParen
  /-- No operator that comes moves a `(`, a function or the negation of a group. -/
  moved : ∀ op, ∃ entry moved kept, s.stack = moved ++ kept ∧
    (s.next (.operator op)).stack = entry :: kept ∧
    ∀ w ∈ moved, w ≠ .leftParen ∧ w ≠ .groupNegation ∧ ∀ f, w ≠ .function f

/-- **Waiting entries.** Whatever tokens were read, the entries that wait are in order. -/
theorem inOrder_after (ts : List Token) : InOrder ts (start.after ts) := by
  have hStacked := stacked_start.after ts
  refine ⟨?_, ?_, ?_, ?_, ?_, stack_next_operator _⟩
  · intro above op lower rest hStack
    have hStands := hStacked.standsOn hStack
    exact ⟨hStands, hStands.loose⟩
  · intro above lower rest hStack
    exact hStacked.standsOn hStack
  · rw [belowParens_after, show belowParens start.stack = [] from rfl, List.drop_nil,
      List.append_nil, List.reverse_reverse]
  · exact (expects_after_iff ts).1
  · exact (expects_after_iff ts).2

end Converter

end PocketCalculator
