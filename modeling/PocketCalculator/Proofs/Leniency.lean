import PocketCalculator.Evaluation
import PocketCalculator.Proofs.Conservation
import PocketCalculator.Proofs.Groups
import PocketCalculator.Proofs.Lexemes

/-!
# PocketCalculator — missing parentheses

A `(` that is never closed is closed at the end, and a `)` without a `(` closes all that
was read before it. So parentheses can be added in front of an expression and behind
it, any number of either, and its value or its error stays the same.

An added `(` waits at the bottom of the stack, where only a `)` without a partner finds
it, and then takes nothing but itself; an added `)` writes a part of what the end would
write, in the same order. The programs differ in parentheses only.

* `Converter.above_parens` — waiting `(` at the bottom change nothing that is written.
* `Converter.bare_program_closed` — nor do `)` at the end.
* `evaluate_enclosed` — the value of an expression in added parentheses.
-/

namespace PocketCalculator

namespace Converter

-- ---------------------------------------------------------------------------
-- Added `(`
-- ---------------------------------------------------------------------------

theorem sealed_replicate (m : Nat) : Sealed (List.replicate m .leftParen) := by
  intro w hw
  exact List.eq_of_mem_replicate (List.mem_of_head? hw)

/-- A `(` below a `(` is no function that waits for a group. -/
theorem callOf_replicate (m : Nat) : callOf (List.replicate m .leftParen) = [] := by
  match m with
  | 0 | 1 | _ + 2 => rfl

/-- A `)` takes one `(` of such a stack, if there is one. -/
theorem below_replicate (m : Nat) :
    below (List.replicate m .leftParen) = List.replicate (m - 1) .leftParen := by
  match m with
  | 0 | 1 | _ + 2 => rfl

/-- A `)` without a partner takes the topmost of the `(` at the bottom. -/
theorem above_unmatched {s : Converter} {t : Token} (h : s.isUnmatched t = true) (m : Nat) :
    (s.above (List.replicate m .leftParen)).written t = s.written t ∧
      (s.above (List.replicate m .leftParen)).next t =
        (s.next t).above (List.replicate (m - 1) .leftParen) := by
  simp only [isUnmatched, decide_eq_true_eq] at h
  obtain ⟨rfl, hNot⟩ := h
  -- no `(` waits above, so the `)` takes all that does and goes on to the `(` at the bottom
  have hTake := takeWhile_append_of_head (sealed_replicate m).isInside s.stack
  have hDrop := dropWhile_append_of_head (sealed_replicate m).isInside s.stack
  rw [dropWhile_isInside_of_notMem hNot, List.nil_append] at hDrop
  constructor
  · rw [written, written, above, hTake, hDrop, callOf_replicate,
      dropWhile_isInside_of_notMem hNot]
    rfl
  · rw [next, next, stackAfter, stackAfter, above, above, hDrop, below_replicate,
      dropWhile_isInside_of_notMem hNot]
    rfl

/-- **Added `(`.** Any number of `(` at the bottom changes nothing that is written, and nothing
that waits above them. -/
theorem above_parens (s : Converter) (m : Nat) (ts : List Token) :
    (s.above (List.replicate m .leftParen)).output ts = s.output ts ∧
      ∃ k, (s.above (List.replicate m .leftParen)).after ts =
        (s.after ts).above (List.replicate k .leftParen) := by
  -- one token at a time, for any number at the bottom, since each unmatched `)` takes one away
  induction ts generalizing s m with
  | nil => exact ⟨rfl, m, rfl⟩
  | cons t ts ih =>
    -- one `(` fewer is left below if `t` is a `)` that asks for it
    have hStep : ∃ k, (s.above (List.replicate m .leftParen)).written t = s.written t ∧
        (s.above (List.replicate m .leftParen)).next t =
          (s.next t).above (List.replicate k .leftParen) := by
      by_cases hUnmatched : s.isUnmatched t = true
      · exact ⟨m - 1, above_unmatched hUnmatched m⟩
      · rw [Bool.not_eq_true] at hUnmatched
        have hSpares := (sealed_replicate m).spares hUnmatched
        exact ⟨m, written_above (sealed_replicate m).head?_ne_function hSpares,
          next_above (sealed_replicate m).head?_ne_function hSpares⟩
    obtain ⟨k, hWritten, hNext⟩ := hStep
    obtain ⟨hOutput, k', hAfter⟩ := ih (s.next t) k
    constructor
    · rw [output, output, hWritten, hNext, hOutput]
    · refine ⟨k', ?_⟩
      show ((s.above _).next t).after ts = ((s.next t).after ts).above _
      rw [hNext, hAfter]

/-- A number of `(` at the start writes nothing and waits. -/
theorem start_replicate_leftParen (m : Nat) :
    start.output (List.replicate m .leftParen) = [] ∧
      start.after (List.replicate m .leftParen) =
        start.above (List.replicate m .leftParen) := by
  induction m with
  | zero => exact ⟨rfl, rfl⟩
  | succ m ih =>
    obtain ⟨hOutput, hAfter⟩ := ih
    rw [List.replicate_succ', output_append, after_append, hOutput, hAfter,
      List.replicate_succ]
    exact ⟨rfl, rfl⟩

-- ---------------------------------------------------------------------------
-- Added `)`
-- ---------------------------------------------------------------------------

/-- **Added `)`.** Parentheses apart, any number of `)` at the end writes what the end would
write without them. -/
theorem bare_program_closed (s : Converter) (n : Nat) :
    (s.program (List.replicate n .rightParen)).bare = s.flush.bare := by
  induction n generalizing s with
  | zero => rfl
  | succ n ih =>
    rw [List.replicate_succ, program_cons, Program.bare_append, ih, ← Program.bare_append,
      bare_rightParen]

/-- A `(` that waits at the bottom is written as a parenthesis. -/
theorem bare_flush_above (s : Converter) (m : Nat) :
    (s.above (List.replicate m .leftParen)).flush.bare = s.flush.bare := by
  have hParens : Program.bare (List.replicate m .leftParen) = [] := by
    rw [Program.bare, List.filter_eq_nil_iff]
    intro t ht
    rw [List.eq_of_mem_replicate ht]
    decide
  rw [flush, above, List.map_append, List.map_replicate, Program.bare_append]
  show _ ++ Program.bare (List.replicate m .leftParen) = _
  rw [hParens, List.append_nil]
  rfl

/-- Parentheses apart, an expression in added parentheses has the same program. -/
theorem bare_ofTokens_enclosed (m n : Nat) (ts : List Token) :
    (Program.ofTokens (List.replicate m .leftParen ++ ts ++
        List.replicate n .rightParen)).bare =
      (Program.ofTokens ts).bare := by
  obtain ⟨hNone, hParens⟩ := start_replicate_leftParen m
  obtain ⟨hOutput, k, hAfter⟩ := above_parens start m ts
  rw [ofTokens_eq_program, List.append_assoc, program_append, hNone, List.nil_append, hParens,
    program_append, hOutput, hAfter, Program.bare_append, bare_program_closed,
    bare_flush_above, ← Program.bare_append]
  rfl

end Converter

/-- **Leniency.** Any number of `(` in front of an expression and of `)` behind it, whether
they match or not, change neither its value nor its error. -/
theorem evaluate_enclosed (settings : Settings) (source : String) (m n : Nat) :
    evaluate settings (String.ofList (List.replicate m '(') ++ source ++
        String.ofList (List.replicate n ')')) =
      evaluate settings source := by
  rw [evaluate, evaluate, readTokens_enclosed]
  cases readTokens source with
  | error e => rfl
  | ok tokens =>
    have hExecute := Program.execute_eq_of_bare_eq (Converter.bare_ofTokens_enclosed m n tokens)
    simp only [Except.map, hExecute]

end PocketCalculator
