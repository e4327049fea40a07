import PocketCalculator.Proofs.Execution
import PocketCalculator.Proofs.Steps

/-!
# PocketCalculator — what conversion conserves

Conversion moves tokens about but makes and loses none, apart from parentheses and the
`0` that every negation starts with. This is said once, of the number of tokens of any
kind: what a token writes and what it leaves waiting count as much as what waited
before, the token, and the `0` of a negation.

* `Converter.bare_rightParen` — a `)` writes a part of what the end would write.
* `Converter.countP_written_add_flush` — one token.
* `Program.countP_ofTokens` — all tokens of an expression.
-/

namespace PocketCalculator

/-- Tokens of a kind that has no parentheses are counted without the parentheses. -/
theorem Program.countP_bare {kind : Token → Bool} (hLeft : kind .leftParen = false)
    (hRight : kind .rightParen = false) (p : Program) :
    p.bare.countP kind = p.countP kind := by
  rw [bare, List.countP_filter]
  refine List.countP_congr fun t _ => ?_
  cases t <;> simp [Token.isParenthesis, hLeft, hRight]

namespace Converter

-- ---------------------------------------------------------------------------
-- The end of a group
-- ---------------------------------------------------------------------------

/-- The end of a group writes or keeps all that waits from its `(` down, the `(` apart. -/
theorem bare_callOf_append_below (rest : List Waiting) :
    Program.bare (callOf (.leftParen :: rest) ++
        (below (.leftParen :: rest)).map Waiting.token) =
      Program.bare ((.leftParen :: rest).map Waiting.token) := by
  match rest with
  | [] => rfl
  | w :: rest => cases w <;> rfl

/-- A `)` writes a part of what the end would write, and leaves the others in place. -/
theorem bare_rightParen (s : Converter) :
    (s.written .rightParen ++ (s.next .rightParen).flush).bare = s.flush.bare := by
  rw [written, flush, next, stackAfter, flush, List.append_assoc, Program.bare_append]
  -- without a `(` everything is written; with one the stack is cut there into two parts
  rcases dropWhile_isInside_cases s.stack with ⟨hNot, hNil⟩ | ⟨-, rest, hRest⟩
  · rw [hNil, takeWhile_isInside_of_notMem hNot, ← Program.bare_append]
    exact congrArg Program.bare (List.append_nil _)
  · rw [hRest, bare_callOf_append_below, ← hRest, ← Program.bare_append, ← List.map_append,
      List.takeWhile_append_dropWhile]

-- ---------------------------------------------------------------------------
-- Counting
-- ---------------------------------------------------------------------------

/-- The number of tokens that negate what follows them, read from a state on. -/
def negations (s : Converter) : List Token → Nat
  | [] => 0
  | t :: ts => (if s.negates t then 1 else 0) + (s.next t).negations ts

variable (kind : Token → Bool)

/-- A stack cut in two holds the same tokens as the whole. -/
theorem countP_takeWhile_add_dropWhile (test : Waiting → Bool) (stack : List Waiting) :
    ((stack.takeWhile test).map Waiting.token).countP kind +
        ((stack.dropWhile test).map Waiting.token).countP kind =
      (stack.map Waiting.token).countP kind := by
  rw [← List.countP_append, ← List.map_append, List.takeWhile_append_dropWhile]

/-- A `)` neither makes nor loses a token of such a kind. -/
theorem countP_rightParen (hLeft : kind .leftParen = false) (hRight : kind .rightParen = false)
    (s : Converter) :
    (s.written .rightParen).countP kind + (s.next .rightParen).flush.countP kind =
      s.flush.countP kind := by
  rw [← List.countP_append, ← Program.countP_bare hLeft hRight, bare_rightParen,
    Program.countP_bare hLeft hRight]

/-- An operator is written or waits afterwards; if it negates, its `0` is written too. -/
theorem countP_operator (s : Converter) (op : Operator) :
    (s.written (.operator op)).countP kind + (s.next (.operator op)).flush.countP kind =
      s.flush.countP kind + [Token.operator op].countP kind +
        (if s.negates (.operator op) then [Token.number "0"].countP kind else 0) := by
  by_cases hNegates : s.negates (.operator op) = true
  · -- the sign waits on top of what waited, and its `0` is written at once
    obtain ⟨rfl, -⟩ := negates_operator_iff.mp hNegates
    rw [written_of_negates hNegates, next_of_negates hNegates, if_pos hNegates, flush,
      List.map_cons, token_negationEntry, flush]
    simp only [List.countP_cons, List.countP_nil]
    omega
  · -- the entries that yield are written, the others and the operator wait
    have hSplit :=
      countP_takeWhile_add_dropWhile kind (Waiting.yieldsTo op) s.stack
    rw [written_of_not_negates hNegates, next_of_not_negates hNegates, if_neg hNegates, flush,
      List.map_cons, Waiting.token, flush, ← hSplit]
    simp only [List.countP_cons, List.countP_nil]
    omega

/-- **One token.** What it writes and what then waits count as much as what waited before, the
token itself and, if it negates, its `0`. -/
theorem countP_written_add_flush (hLeft : kind .leftParen = false)
    (hRight : kind .rightParen = false) (s : Converter) (t : Token) :
    (s.written t).countP kind + (s.next t).flush.countP kind =
      s.flush.countP kind + [t].countP kind +
        (if s.negates t then [Token.number "0"].countP kind else 0) := by
  cases t with
  | operator op => exact countP_operator kind s op
  | number text =>
    rw [negates_eq_false_of_ne_operator (by simp), Nat.add_comm]
    rfl
  | function f =>
    rw [negates_eq_false_of_ne_operator (by simp), List.countP_singleton]
    simp [written, next, stackAfter, flush, Waiting.token, List.countP_cons]
  | leftParen =>
    rw [negates_eq_false_of_ne_operator (by simp), List.countP_singleton]
    simp [written, next, stackAfter, flush, Waiting.token, hLeft]
  | rightParen =>
    rw [negates_eq_false_of_ne_operator (by simp), countP_rightParen kind hLeft hRight,
      List.countP_singleton, hRight]
    rfl

/-- **From a state on.** A program counts what waited, the tokens and the `0` of
each negation. -/
theorem countP_program (hLeft : kind .leftParen = false) (hRight : kind .rightParen = false)
    (s : Converter) (ts : List Token) :
    (s.program ts).countP kind =
      s.flush.countP kind + ts.countP kind +
        s.negations ts * [Token.number "0"].countP kind := by
  induction ts generalizing s with
  | nil => simp [program_nil, negations]
  | cons t ts ih =>
    -- one token at a time: what waits after the head is what the tail starts with
    have hStep := countP_written_add_flush kind hLeft hRight s t
    have hTail : (t :: ts).countP kind = [t].countP kind + ts.countP kind := by
      rw [← List.countP_append, List.singleton_append]
    rw [program_cons, List.countP_append, ih, hTail, negations, Nat.add_mul]
    split at hStep
    · rename_i hNegates
      rw [if_pos hNegates]
      omega
    · rename_i hNegates
      rw [if_neg hNegates]
      omega

/-- No number waits. -/
theorem countP_isNumber_flush (s : Converter) : s.flush.countP Token.isNumber = 0 := by
  rw [List.countP_eq_zero]
  intro t ht
  obtain ⟨w, -, rfl⟩ := List.mem_map.mp ht
  simp [Waiting.isNumber_token]

end Converter

namespace Program

/-- **Conservation.** A program has as many tokens of any kind as its expression, the `0`
of each negation added, parentheses apart. -/
theorem countP_ofTokens (kind : Token → Bool) (hLeft : kind .leftParen = false)
    (hRight : kind .rightParen = false) (ts : List Token) :
    (ofTokens ts).countP kind =
      ts.countP kind + Converter.start.negations ts * [Token.number "0"].countP kind := by
  have hCount := Converter.countP_program kind hLeft hRight Converter.start ts
  rw [Converter.ofTokens_eq_program, hCount, show Converter.start.flush = [] from rfl,
    List.countP_nil, Nat.zero_add]

-- ---------------------------------------------------------------------------
-- Numerals
-- ---------------------------------------------------------------------------

/-- The numbers of a program are those of its expression and the `0` of negations. -/
theorem number_mem_of_mem_ofTokens {ts : List Token} {text : String}
    (h : .number text ∈ ofTokens ts) : .number text ∈ ts ∨ text = "0" := by
  -- a number that is neither is of a kind that no token and no `0` has, so it would be counted
  -- nought times
  by_contra hNot
  obtain ⟨hTokens, hZero⟩ := not_or.mp hNot
  have hCount := countP_ofTokens (fun t => decide (t = .number text)) rfl rfl ts
  have hNone : ts.countP (fun t => decide (t = .number text)) = 0 := by
    rw [List.countP_eq_zero]
    intro t ht hSame
    exact hTokens (of_decide_eq_true hSame ▸ ht)
  have hOther : [Token.number "0"].countP (fun t => decide (t = .number text)) = 0 := by
    simp [Ne.symm hZero]
  rw [hNone, hOther, Nat.mul_zero, List.countP_eq_zero] at hCount
  exact hCount _ h (decide_eq_true rfl)

/-- Whether a token is a number whose text is no numeral. -/
def isMalformed : Token → Bool
  | .number text => (Number.read? text).isNone
  | _ => false

/-- If every number of an expression is a numeral, so is every number of its program. -/
theorem isSome_read?_of_mem_ofTokens {ts : List Token}
    (h : ∀ text, .number text ∈ ts → (Number.read? text).isSome) {text : String}
    (hText : .number text ∈ ofTokens ts) : (Number.read? text).isSome := by
  -- numbers that are no numerals are a kind of tokens, of which there is none to begin with
  have hZero : [Token.number "0"].countP isMalformed = 0 := by
    decide
  have hTokens : ts.countP isMalformed = 0 := by
    rw [List.countP_eq_zero]
    intro t ht hMalformed
    cases t with
    | number text =>
      have hSome := h text ht
      simp only [isMalformed, Option.isNone_iff_eq_none] at hMalformed
      simp [hMalformed] at hSome
    | _ => simp [isMalformed] at hMalformed
  have hCount := countP_ofTokens isMalformed rfl rfl ts
  rw [hTokens, hZero, Nat.mul_zero, List.countP_eq_zero] at hCount
  have hGood := hCount _ hText
  simpa [isMalformed, Option.isSome_iff_ne_none] using hGood

end Program

end PocketCalculator
