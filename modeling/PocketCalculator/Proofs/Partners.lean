import PocketCalculator.Proofs.Brackets

/-!
# PocketCalculator — partners

A `(` and a `)` are partners if all parentheses between them are balanced. Whether a
parenthesis has a partner is told from one side of it alone: a `)` has one unless the
tokens before it leave no `(` open, and a `(` has one unless the tokens behind it hold no
`)` that misses its own.

The counts of the matching therefore follow from the tokens on one side. What tokens do to
a matching that others began is what they do alone, except that the `(` opened before serve
the `)` that they miss (`Brackets.foldl_read_eq`).

* `Brackets.isUnmatched_iff`, `Brackets.isUnclosed_iff` — parentheses without a partner.
* `Brackets.length_unmatchedPlaces`, `Brackets.length_unclosedPlaces` — how many there are.
-/

namespace PocketCalculator

namespace Brackets

-- ---------------------------------------------------------------------------
-- Places of parentheses
-- ---------------------------------------------------------------------------

/-- Whether the `(` at one place and the `)` at another are partners: the parentheses
between them are balanced. -/
def Partners (ts : List Token) (i j : Nat) : Prop :=
  i < j ∧ ts[i]? = some .leftParen ∧ ts[j]? = some .rightParen ∧
    balanced ((ts.take j).drop (i + 1)) = true

instance (ts : List Token) (i j : Nat) : Decidable (Partners ts i j) :=
  inferInstanceAs (Decidable (_ ∧ _ ∧ _ ∧ _))

/-- Whether a place holds a `)` that has no partner. -/
def IsUnmatched (ts : List Token) (j : Nat) : Prop :=
  ts[j]? = some .rightParen ∧ ∀ i < j, ¬ Partners ts i j

instance (ts : List Token) (j : Nat) : Decidable (IsUnmatched ts j) :=
  inferInstanceAs (Decidable (_ ∧ ∀ i < j, ¬ Partners ts i j))

/-- Whether a place holds a `(` that has no partner. -/
def IsUnclosed (ts : List Token) (i : Nat) : Prop :=
  ts[i]? = some .leftParen ∧ ∀ j < ts.length, ¬ Partners ts i j

instance (ts : List Token) (i : Nat) : Decidable (IsUnclosed ts i) :=
  inferInstanceAs (Decidable (_ ∧ ∀ j < ts.length, ¬ Partners ts i j))

/-- The places of the `)` without a partner, from the first to the last. -/
def unmatchedPlaces (ts : List Token) : List Nat :=
  (List.range ts.length).filter (IsUnmatched ts ·)

/-- The places of the `(` without a partner, from the first to the last. -/
def unclosedPlaces (ts : List Token) : List Nat :=
  (List.range ts.length).filter (IsUnclosed ts ·)

-- ---------------------------------------------------------------------------
-- Matching begun by other tokens
-- ---------------------------------------------------------------------------

/-- What tokens do to a matching that others began: the `(` opened before serve the `)` that
the tokens themselves leave unmatched. -/
theorem foldl_read_eq (b : Brackets) (ts : List Token) :
    (ts.foldl read b).opened = b.opened - (ofTokens ts).unmatched + (ofTokens ts).opened ∧
      (ts.foldl read b).unmatched = b.unmatched + ((ofTokens ts).unmatched - b.opened) := by
  -- by the last token: what was opened before matters only once the tokens themselves have none
  -- open
  induction ts using List.reverseRecOn with
  | nil => simp [ofTokens, none]
  | append_singleton ts t ih =>
    obtain ⟨hOpened, hUnmatched⟩ := ih
    rw [ofTokens_append, List.foldl_append, List.foldl_cons, List.foldl_nil, List.foldl_cons,
      List.foldl_nil]
    cases t with
    | number text | operator op | function f => exact ⟨hOpened, hUnmatched⟩
    | leftParen =>
      simp only [read]
      omega
    | rightParen =>
      -- a `)` is served by the tokens' own `(`, else by one opened before, else by none
      by_cases hBefore : (ofTokens ts).opened = 0
      · rw [read_rightParen_of_not_opened hBefore]
        by_cases hSpare : (ts.foldl read b).opened = 0
        · rw [read_rightParen_of_not_opened hSpare]
          simp only
          omega
        · rw [read_rightParen_of_opened hSpare]
          simp only
          omega
      · rw [read_rightParen_of_opened hBefore, read_rightParen_of_opened (by omega)]
        simp only
        omega

/-- A `(` in front stays open if the tokens behind it have no `)` to spare. -/
theorem opened_cons (t : Token) (ts : List Token) :
    (ofTokens (t :: ts)).opened =
      (if t = .leftParen ∧ (ofTokens ts).unmatched = 0 then 1 else 0) + (ofTokens ts).opened := by
  rw [show ofTokens (t :: ts) = ts.foldl read (none.read t) from rfl, (foldl_read_eq _ ts).1]
  cases t with
  -- the tokens begin with one `(` open, which the first `)` that they miss a `(` for closes
  | leftParen =>
    simp only [read, none, true_and]
    split <;> omega
  | rightParen | number text | operator op | function f => simp [read, none]

/-- A `(` in front serves one of the `)` that the tokens behind it leave unmatched. -/
theorem unmatched_cons_leftParen (ts : List Token) :
    (ofTokens (.leftParen :: ts)).unmatched = (ofTokens ts).unmatched - 1 := by
  rw [show ofTokens (.leftParen :: ts) = ts.foldl read (none.read .leftParen) from rfl,
    (foldl_read_eq _ ts).2]
  simp [read, none]

/-- A `)` in front has no partner. -/
theorem unmatched_cons_rightParen (ts : List Token) :
    (ofTokens (.rightParen :: ts)).unmatched = (ofTokens ts).unmatched + 1 := by
  rw [show ofTokens (.rightParen :: ts) = ts.foldl read (none.read .rightParen) from rfl,
    (foldl_read_eq _ ts).2]
  simp [read, none, Nat.add_comm]

/-- What is no parenthesis does not count. -/
theorem ofTokens_cons_of_not_isParenthesis {t : Token} (h : t.isParenthesis = false)
    (ts : List Token) : ofTokens (t :: ts) = ofTokens ts := by
  cases t with
  | leftParen | rightParen => cases h
  | number text | operator op | function f => rfl

-- ---------------------------------------------------------------------------
-- Partners
-- ---------------------------------------------------------------------------

/-- The token at a place stands between those before it and those behind it. -/
theorem eq_append_cons {ts : List Token} {k : Nat} {t : Token} (h : ts[k]? = some t) :
    ts = ts.take k ++ t :: ts.drop (k + 1) := by
  obtain ⟨hk, rfl⟩ := List.getElem?_eq_some_iff.mp h
  rw [← List.drop_eq_getElem_cons hk, List.take_append_drop]

/-- Tokens with no parenthesis left on either side are balanced. -/
theorem balanced_of_counts {ts : List Token} (hOpened : (ofTokens ts).opened = 0)
    (hUnmatched : (ofTokens ts).unmatched = 0) : balanced ts = true :=
  decide_eq_true ⟨hOpened, hUnmatched⟩

/-- The first `)` that misses its `(` has balanced tokens before it. -/
theorem unmatched_ne_zero_iff (ts : List Token) :
    (ofTokens ts).unmatched ≠ 0 ↔
      ∃ k, ts[k]? = some .rightParen ∧ balanced (ts.take k) = true := by
  constructor
  · intro h
    -- by the last token: either it is the first unmatched one, or there was one before it
    induction ts using List.reverseRecOn with
    | nil => exact absurd rfl h
    | append_singleton ts t ih =>
      by_cases hBefore : (ofTokens ts).unmatched = 0
      · rw [unmatched_append_singleton, hBefore, Nat.zero_add, ite_ne_right_iff] at h
        obtain ⟨⟨rfl, hOpened⟩, -⟩ := h
        exact ⟨ts.length, by simp, by simpa using balanced_of_counts hOpened hBefore⟩
      · obtain ⟨k, hk, hBalanced⟩ := ih hBefore
        have hLt : k < ts.length := (List.getElem?_eq_some_iff.mp hk).1
        refine ⟨k, ?_, ?_⟩
        · rw [List.getElem?_append_left hLt, hk]
        · rw [List.take_append_of_le_length (Nat.le_of_lt hLt), hBalanced]
  · rintro ⟨k, hk, hBalanced⟩
    simp only [balanced, decide_eq_true_eq] at hBalanced
    -- the `)` finds nothing open, and what follows does not take it back
    have hMono := ((ofTokens (ts.take k)).read .rightParen).unmatched_le_foldl (ts.drop (k + 1))
    rw [eq_append_cons hk, ofTokens_append, List.foldl_cons]
    rw [read_rightParen_of_not_opened hBalanced.1] at hMono ⊢
    exact Nat.ne_of_gt (Nat.lt_of_lt_of_le (Nat.succ_pos _) hMono)

/-- The last `(` that misses its `)` has balanced tokens behind it. -/
theorem opened_ne_zero_iff (ts : List Token) :
    (ofTokens ts).opened ≠ 0 ↔
      ∃ i, ts[i]? = some .leftParen ∧ balanced (ts.drop (i + 1)) = true := by
  constructor
  · intro h
    -- by the first token: either it is the last open one, or there is one behind it
    induction ts with
    | nil => exact absurd rfl h
    | cons t ts ih =>
      by_cases hBehind : (ofTokens ts).opened = 0
      · rw [opened_cons, hBehind, Nat.add_zero, ite_ne_right_iff] at h
        obtain ⟨⟨rfl, hUnmatched⟩, -⟩ := h
        exact ⟨0, rfl, balanced_of_counts hBehind hUnmatched⟩
      · obtain ⟨i, hi, hBalanced⟩ := ih hBehind
        exact ⟨i + 1, hi, hBalanced⟩
  · rintro ⟨i, hi, hBalanced⟩
    simp only [balanced, decide_eq_true_eq] at hBalanced
    -- the tokens behind need no `(` and leave none open, so the `(` stays the one that is open
    rw [eq_append_cons hi, ofTokens_append, List.foldl_cons, (foldl_read_eq _ _).1,
      hBalanced.1, hBalanced.2]
    exact Nat.succ_ne_zero _

/-- A `)` has no partner exactly if no `(` is open in front of it. -/
theorem isUnmatched_iff (ts : List Token) (j : Nat) :
    IsUnmatched ts j ↔ ts[j]? = some .rightParen ∧ (ofTokens (ts.take j)).opened = 0 := by
  refine and_congr_right fun hj => ?_
  rw [← not_iff_not, ← ne_eq, opened_ne_zero_iff]
  push Not
  constructor
  · -- a partner is an open `(` of the tokens in front, for which what is between is what is
    -- behind
    rintro ⟨i, hij, -, hi, -, hBalanced⟩
    exact ⟨i, (List.getElem?_take_of_lt hij).trans hi, hBalanced⟩
  · rintro ⟨i, hi, hBalanced⟩
    have hij : i < j := by
      have hLt := (List.getElem?_eq_some_iff.mp hi).1
      exact Nat.lt_of_lt_of_le hLt (List.length_take_le j ts)
    exact ⟨i, hij, hij, (List.getElem?_take_of_lt hij).symm.trans hi, hj, hBalanced⟩

/-- A `(` has no partner exactly if the tokens behind it miss no `(`. -/
theorem isUnclosed_iff (ts : List Token) (i : Nat) :
    IsUnclosed ts i ↔ ts[i]? = some .leftParen ∧ (ofTokens (ts.drop (i + 1))).unmatched = 0 := by
  refine and_congr_right fun hi => ?_
  rw [← not_iff_not, ← ne_eq, unmatched_ne_zero_iff]
  push Not
  constructor
  · -- places behind the `(` are counted from it, so the distance takes the place of `j`
    rintro ⟨j, -, hij, -, hj, hBalanced⟩
    obtain ⟨k, rfl⟩ := Nat.exists_eq_add_of_lt hij
    refine ⟨k, ?_, ?_⟩
    · rw [List.getElem?_drop, Nat.add_right_comm]
      exact hj
    · rw [List.take_drop, Nat.add_right_comm]
      exact hBalanced
  · rintro ⟨k, hk, hBalanced⟩
    rw [List.getElem?_drop] at hk
    rw [List.take_drop] at hBalanced
    have hLt := (List.getElem?_eq_some_iff.mp hk).1
    exact ⟨i + 1 + k, hLt, by omega, hi, hk, hBalanced⟩

-- ---------------------------------------------------------------------------
-- Counts of places
-- ---------------------------------------------------------------------------

/-- A token behind others does not decide which `)` among these have partners. -/
theorem unmatchedPlaces_append_singleton (ts : List Token) (t : Token) :
    unmatchedPlaces (ts ++ [t]) =
      unmatchedPlaces ts ++
        if t = .rightParen ∧ (ofTokens ts).opened = 0 then [ts.length] else [] := by
  -- whether a place has a partner depends on the tokens in front of it only
  have hBefore : ∀ j ∈ List.range ts.length,
      decide (IsUnmatched (ts ++ [t]) j) = decide (IsUnmatched ts j) := by
    intro j hj
    have hLt := List.mem_range.mp hj
    rw [decide_eq_decide, isUnmatched_iff, isUnmatched_iff, List.getElem?_append_left hLt,
      List.take_append_of_le_length (Nat.le_of_lt hLt)]
  have hLast : IsUnmatched (ts ++ [t]) ts.length ↔
      t = .rightParen ∧ (ofTokens ts).opened = 0 := by
    simp [isUnmatched_iff]
  rw [unmatchedPlaces, List.length_append, List.length_singleton, List.range_succ,
    List.filter_append, List.filter_congr hBefore, List.filter_cons, List.filter_nil]
  simp only [hLast, decide_eq_true_eq]
  rfl

/-- There are as many places of unmatched `)` as bracket matching counts. -/
theorem length_unmatchedPlaces (ts : List Token) :
    (unmatchedPlaces ts).length = (ofTokens ts).unmatched := by
  induction ts using List.reverseRecOn with
  | nil => rfl
  | append_singleton ts t ih =>
    rw [unmatchedPlaces_append_singleton, unmatched_append_singleton, List.length_append, ih]
    split <;> rfl

/-- A token in front of others does not decide which `(` among these have partners. -/
theorem unclosedPlaces_cons (t : Token) (ts : List Token) :
    unclosedPlaces (t :: ts) =
      (if t = .leftParen ∧ (ofTokens ts).unmatched = 0 then [0] else []) ++
        (unclosedPlaces ts).map (· + 1) := by
  have hFirst : IsUnclosed (t :: ts) 0 ↔ t = .leftParen ∧ (ofTokens ts).unmatched = 0 := by
    simp [isUnclosed_iff]
  -- whether a `(` has a partner depends on the tokens behind it only
  have hBehind : ∀ i, IsUnclosed (t :: ts) (i + 1) ↔ IsUnclosed ts i := by
    intro i
    simp [isUnclosed_iff]
  rw [unclosedPlaces, List.length_cons, List.range_succ_eq_map, List.filter_cons,
    List.filter_map]
  simp only [hFirst, hBehind, Function.comp_def, decide_eq_true_eq]
  split <;> rfl

/-- There are as many places of open `(` as bracket matching counts. -/
theorem length_unclosedPlaces (ts : List Token) :
    (unclosedPlaces ts).length = (ofTokens ts).opened := by
  induction ts with
  | nil => rfl
  | cons t ts ih =>
    rw [unclosedPlaces_cons, opened_cons, List.length_append, List.length_map, ih]
    split <;> rfl

end Brackets

end PocketCalculator
