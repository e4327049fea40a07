import Mathlib.Data.List.Induction
import PocketCalculator.Brackets
import PocketCalculator.Proofs.Steps

/-!
# PocketCalculator — bracket matching and waiting parentheses

The `(` that wait on the stack of the converter are those that bracket matching counts
as open, and a `)` finds no `(` on the stack exactly when it has no partner.

* `balanced_iff_counts` — the counting view of balanced parentheses.
* `Converter.opened_foldl` — open parentheses wait on the stack, and no others.
-/

namespace PocketCalculator

-- ---------------------------------------------------------------------------
-- Matching and counting
-- ---------------------------------------------------------------------------

namespace Brackets

theorem read_rightParen_of_opened {b : Brackets} (h : b.opened ≠ 0) :
    b.read .rightParen = ⟨b.opened - 1, b.matched + 1, b.unmatched⟩ := by
  rw [read, if_neg h]

theorem read_rightParen_of_not_opened {b : Brackets} (h : b.opened = 0) :
    b.read .rightParen = ⟨b.opened, b.matched, b.unmatched + 1⟩ := by
  rw [read, if_pos h]

/-- A `)` stays unmatched, whatever is read after it. -/
theorem unmatched_le_read (b : Brackets) (t : Token) :
    b.unmatched ≤ (b.read t).unmatched := by
  cases t with
  | rightParen =>
    rw [read]
    split
    · exact Nat.le_succ b.unmatched
    · exact Nat.le_refl b.unmatched
  | number text | operator op | leftParen | function f => exact Nat.le_refl b.unmatched

/-- Reading on never lowers the number of unmatched `)`. -/
theorem unmatched_le_foldl (b : Brackets) (ts : List Token) :
    b.unmatched ≤ (ts.foldl read b).unmatched := by
  induction ts generalizing b with
  | nil => exact Nat.le_refl b.unmatched
  | cons t ts ih => exact Nat.le_trans (unmatched_le_read b t) (ih (b.read t))

/-- Every `)` that was read is matched or not. -/
theorem matched_add_unmatched_foldl (b : Brackets) (ts : List Token) :
    (ts.foldl read b).matched + (ts.foldl read b).unmatched =
      b.matched + b.unmatched + ts.count .rightParen := by
  induction ts generalizing b with
  | nil => rfl
  | cons t ts ih =>
    rw [List.foldl_cons, ih]
    cases t with
    | rightParen =>
      rw [List.count_cons_self, read]
      split
      · show b.matched + (b.unmatched + 1) + _ = _
        omega
      · show b.matched + 1 + b.unmatched + _ = _
        omega
    | number text | operator op | leftParen | function f => simp [read]

/-- Tokens that keep the matching keep it in parentheses as well. -/
theorem foldl_read_group {b : Brackets} {g : List Token}
    (hOpened : (g.foldl read (b.read .leftParen)).opened = b.opened + 1)
    (hUnmatched : (g.foldl read (b.read .leftParen)).unmatched = b.unmatched) :
    ((Token.leftParen :: g ++ [Token.rightParen]).foldl read b).opened = b.opened ∧
      ((Token.leftParen :: g ++ [Token.rightParen]).foldl read b).unmatched = b.unmatched := by
  have hPositive : (g.foldl read (b.read .leftParen)).opened ≠ 0 := by
    rw [hOpened]
    exact Nat.succ_ne_zero b.opened
  have hGroup : (Token.leftParen :: g ++ [Token.rightParen]).foldl read b =
      (g.foldl read (b.read .leftParen)).read .rightParen := by
    rw [List.foldl_append]
    rfl
  -- inside the group a `(` is open, so its `)` closes that one
  rw [hGroup, read_rightParen_of_opened hPositive]
  exact ⟨Nat.sub_eq_of_eq_add hOpened, hUnmatched⟩

/-- The difference of the open and the unmatched parentheses is that of all `(` and all
`)`. -/
theorem opened_add_count (ts : List Token) :
    (ofTokens ts).opened + ts.count .rightParen =
      (ofTokens ts).unmatched + ts.count .leftParen := by
  have hLeft := opened_add_matched_foldl none ts
  have hRight := matched_add_unmatched_foldl none ts
  simp only [none] at hLeft hRight
  simp only [ofTokens, none]
  omega

/-- The unmatched `)` before a last token are kept; the last is one more if it is a `)` and none
is open. -/
theorem unmatched_append_singleton (ts : List Token) (t : Token) :
    (ofTokens (ts ++ [t])).unmatched =
      (ofTokens ts).unmatched + if t = .rightParen ∧ (ofTokens ts).opened = 0 then 1 else 0 := by
  rw [ofTokens_append, List.foldl_cons, List.foldl_nil]
  cases t with
  | rightParen =>
    rw [read]
    split <;> simp_all
  | number text | operator op | leftParen | function f => simp [read]

/-- Every `)` has its partner exactly when no prefix has more `)` than `(`. -/
theorem unmatched_eq_zero_iff (ts : List Token) :
    (ofTokens ts).unmatched = 0 ↔
      ∀ p, p <+: ts → p.count .rightParen ≤ p.count .leftParen := by
  constructor
  · rintro h p ⟨rest, rfl⟩
    -- a prefix with more `)` than `(` has an unmatched one, and no token makes up for it
    have hMono := unmatched_le_foldl (ofTokens p) rest
    rw [ofTokens_append] at h
    have hCount := opened_add_count p
    omega
  · intro h
    -- by the last token: it is unmatched only if the whole list has too many `)`
    induction ts using List.reverseRecOn with
    | nil => rfl
    | append_singleton ts t ih =>
      have hInit := ih fun p hp => h p (hp.trans (List.prefix_append ts [t]))
      rw [unmatched_append_singleton, hInit, Nat.zero_add]
      split
      · rename_i hLast
        obtain ⟨rfl, hOpened⟩ := hLast
        have hWhole := h _ (List.prefix_refl _)
        have hCount := opened_add_count ts
        simp only [List.count_append, List.count_singleton] at hWhole
        simp at hWhole
        omega
      · rfl

/-- Parentheses are balanced exactly when no prefix has more `)` than `(` and the totals
are equal. -/
theorem balanced_iff_counts (ts : List Token) :
    balanced ts = true ↔
      (∀ p, p <+: ts → p.count .rightParen ≤ p.count .leftParen) ∧
        ts.count .rightParen = ts.count .leftParen := by
  have hCount := opened_add_count ts
  rw [← unmatched_eq_zero_iff, balanced, decide_eq_true_eq]
  constructor
  · rintro ⟨hOpened, hUnmatched⟩
    exact ⟨hUnmatched, by omega⟩
  · rintro ⟨hUnmatched, hTotal⟩
    exact ⟨by omega, hUnmatched⟩

end Brackets

namespace Converter

-- ---------------------------------------------------------------------------
-- Bracket matching and the stack
-- ---------------------------------------------------------------------------

/-- A test that no `(` passes drops none. -/
theorem count_dropWhile {test : Waiting → Bool} (h : test .leftParen = false)
    (stack : List Waiting) :
    (stack.dropWhile test).count .leftParen = stack.count .leftParen :=
  apply_dropWhile (f := List.count .leftParen) (fun _ _ hNe => List.count_cons_of_ne hNe) h stack

/-- What a `)` removes with its `(` holds no other `(`. -/
theorem count_below (rest : List Waiting) :
    (below (.leftParen :: rest)).count .leftParen = rest.count .leftParen :=
  apply_below (f := List.count .leftParen) (fun _ _ hNe => List.count_cons_of_ne hNe) rest

/-- The open `(` of a token list are those that wait on the stack. -/
theorem opened_read {s : Converter} {b : Brackets}
    (h : b.opened = s.stack.count .leftParen) (t : Token) :
    (b.read t).opened = (s.next t).stack.count .leftParen := by
  cases t with
  | number text => exact h
  | function f => simpa [Brackets.read, next, stackAfter] using h
  | leftParen => simpa [Brackets.read, next, stackAfter] using h
  | operator op =>
    rw [next, stackAfter]
    split
    · split <;> simpa [Brackets.read] using h
    · simpa [Brackets.read, count_dropWhile (yieldsTo_leftParen op)] using h
  | rightParen =>
    have hDrop := count_dropWhile isInside_leftParen s.stack
    -- the entries above the innermost `(` hold none, so dropping them keeps the count
    rw [← h] at hDrop
    rw [next, stackAfter, Brackets.read]
    rcases dropWhile_isInside_cases s.stack with ⟨-, hNil⟩ | ⟨-, rest, hRest⟩
    · rw [hNil, List.count_nil] at hDrop
      rw [if_pos hDrop.symm, hNil]
      -- no `(` is open: the `)` is unmatched and nothing waits any more
      exact hDrop.symm
    · rw [hRest, List.count_cons_self] at hDrop
      rw [if_neg (by omega), hRest, count_below]
      exact (Nat.eq_sub_of_add_eq hDrop).symm

/-- Open parentheses wait on the stack, and no others: after every token list the two counts
agree. -/
theorem opened_foldl {s : Converter} {b : Brackets}
    (h : b.opened = s.stack.count .leftParen) (ts : List Token) :
    (ts.foldl Brackets.read b).opened = (s.after ts).stack.count .leftParen := by
  induction ts generalizing s b with
  | nil => exact h
  | cons t ts ih => exact ih (opened_read h t)

/-- A `)` that finds no `(` on the stack is unmatched for bracket matching as well. -/
theorem unmatched_lt_of_isUnmatched {s : Converter} {b : Brackets}
    (h : b.opened = s.stack.count .leftParen) {t : Token}
    (hUnmatched : s.isUnmatched t = true) : b.unmatched < (b.read t).unmatched := by
  simp only [isUnmatched, decide_eq_true_eq] at hUnmatched
  obtain ⟨rfl, hNot⟩ := hUnmatched
  have hZero : b.opened = 0 := by
    rw [h, List.count_eq_zero]
    exact hNot
  rw [Brackets.read_rightParen_of_not_opened hZero]
  exact Nat.lt_succ_self b.unmatched

/-- Where no `)` is without a partner, each finds its `(` on the stack. -/
theorem isUnmatched_eq_false_of_split {s : Converter} {b : Brackets}
    (h : b.opened = s.stack.count .leftParen) {p q : List Token} {t : Token}
    (hClosed : ((p ++ t :: q).foldl Brackets.read b).unmatched = b.unmatched) :
    (s.after p).isUnmatched t = false := by
  rw [Bool.eq_false_iff]
  intro hUnmatched
  -- an unmatched `)` is counted at once, and what follows never takes it back
  have hLt := unmatched_lt_of_isUnmatched (opened_foldl h p) hUnmatched
  have hBefore := b.unmatched_le_foldl p
  have hRest := ((p.foldl Brackets.read b).read t).unmatched_le_foldl q
  rw [List.foldl_append, List.foldl_cons] at hClosed
  omega

end Converter

end PocketCalculator
