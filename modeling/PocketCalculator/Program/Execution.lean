import PocketCalculator.EvaluationError
import PocketCalculator.Number.Numeral
import PocketCalculator.Program.Conversion

/-!
# PocketCalculator — execution of programs

A program runs on a stack of operands. A number goes on the stack, an operator
takes its right and then its left operand from it, a function its one argument,
and both leave their value there. Parentheses have no effect. A program that
leaves exactly one value has that value.

* `Program.run_append` — a program runs on the operands that the program before it
  leaves.
-/

namespace PocketCalculator.Program

/-- The operands after a token is executed; the top of the stack comes first. -/
def step (operands : List Float) : Token → Except EvaluationError (List Float)
  | .number text =>
    match Number.read? text with
    | some v => .ok (v :: operands)
    | none => .error (.malformedNumber text)
  | .operator op =>
    match operands with
    | right :: left :: rest => .ok (op.apply left right :: rest)
    | _ => .error (.missingOperand (.operator op))
  | .function f =>
    match operands with
    | argument :: rest => .ok (f.apply argument :: rest)
    | [] => .error (.missingOperand (.function f))
  -- a `(` stands in a program only where its `)` was missing, a `)` never does
  | .leftParen | .rightParen => .ok operands

/-- The operands after a program is executed, or the first error. -/
def run (operands : List Float) : Program → Except EvaluationError (List Float)
  | [] => .ok operands
  | t :: rest =>
    match step operands t with
    | .ok operands => run operands rest
    | .error e => .error e

/-- A program runs on the operands that the program before it leaves, unless that one fails. -/
theorem run_append (operands : List Float) (p q : Program) :
    run operands (p ++ q) = (run operands p).bind fun left => run left q := by
  induction p generalizing operands with
  | nil => rfl
  | cons t p ih =>
    rw [List.cons_append, run, run]
    cases step operands t with
    | ok left => exact ih left
    | error e => rfl

/-- The value that the operands left in the end amount to. -/
def result : List Float → Except EvaluationError Float
  | [v] => .ok v
  | operands => .error (.unbalanced operands.length)

/-- The value of a program. -/
def execute (program : Program) : Except EvaluationError Float :=
  match run [] program with
  | .ok operands => result operands
  | .error e => .error e

end PocketCalculator.Program
