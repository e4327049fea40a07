import PocketCalculator.Token

/-!
# PocketCalculator — conversion to programs

The tokens of an expression are rearranged into a *program*, in which every
operator and function stands after its operands. The converter reads one token at
a time, writes tokens to the program, and keeps on a stack what has to wait.

* An operator waits until an operator that binds no tighter, or the end of its
  group, comes. All four operators therefore associate to the left.
* A function waits below the `(` of its argument until that group closes.
* A `-` where an operand is expected is a negation, `0 - x` with the `0` written at
  once. At the start of a group it waits until the group ends, so that it covers
  the whole group; elsewhere it binds tighter than any operator and covers one
  operand.

Conversion never fails. A `)` without its `(` closes the whole expression so far,
and a `(` without its `)` is written at the end, where it has no effect.

* `Converter.output_append` — what is written for a list of tokens depends on the
  tokens before it only through the state that these lead to.
-/

namespace PocketCalculator

/-- Tokens in the order of their execution. -/
abbrev Program := List Token

-- ---------------------------------------------------------------------------
-- Waiting entries
-- ---------------------------------------------------------------------------

/-- What waits on the stack of the converter. -/
inductive Waiting where
  | operator (op : Operator)
  | function (f : NamedFunction)
  | leftParen
  /-- A `-` that opens its group. -/
  | groupNegation
  /-- A `-` after an operator or a function. -/
  | negation
  deriving DecidableEq

namespace Waiting

/-- How tightly an entry holds against an operator that comes. Functions, groups and
the negation of a group are never moved by an operator. -/
def precedence : Waiting → Nat
  | operator op => op.precedence
  | function _ | leftParen | groupNegation => 0
  | negation => 3

/-- The token an entry is written as. -/
def token : Waiting → Token
  | operator op => .operator op
  | function f => .function f
  | leftParen => .leftParen
  | groupNegation | negation => .operator .subtract

/-- Whether an entry is written before an operator that comes goes on the stack. -/
def yieldsTo (op : Operator) (w : Waiting) : Bool :=
  decide (op.precedence ≤ w.precedence)

/-- Whether an entry is not the `(` of a group. The entries of the innermost open group
are those above the topmost `(`. -/
def isInside (w : Waiting) : Bool :=
  decide (w ≠ leftParen)

end Waiting

/-- What the converter expects next, which decides what a `-` means. -/
inductive Expectation where
  /-- A group, at the start of the expression or right after a `(`. -/
  | group
  /-- An operand, right after an operator, a negation or a function. -/
  | operand
  /-- An operator or the end of a group, right after a number or a `)`. -/
  | operator
  deriving DecidableEq

-- ---------------------------------------------------------------------------
-- The converter
-- ---------------------------------------------------------------------------

/-- The state of the converter between two tokens; the top of the stack comes first. -/
structure Converter where
  stack : List Waiting
  expects : Expectation
  deriving DecidableEq

namespace Converter

def start : Converter :=
  ⟨[], .group⟩

/-- What the end of the innermost group writes after the entries above its `(`: the
function that the group is the argument of. -/
def callOf : List Waiting → List Token
  | .leftParen :: .function f :: _ => [.function f]
  | _ => []

/-- What the end of the innermost group leaves of the stack, from its `(` down. -/
def below : List Waiting → List Waiting
  | .leftParen :: .function _ :: rest => rest
  | _ :: rest => rest
  | [] => []

/-- Whether a token is a `-` that negates what follows it. -/
def negates (s : Converter) (t : Token) : Bool :=
  decide (t = .operator .subtract ∧ s.expects ≠ .operator)

/-- Whether a token is a `)` whose `(` is missing. -/
def isUnmatched (s : Converter) (t : Token) : Bool :=
  decide (t = .rightParen ∧ .leftParen ∉ s.stack)

/-- The tokens written when a token is read. -/
def written (s : Converter) : Token → Program
  | .number text => [.number text]
  | .function _ | .leftParen => []
  -- a function that the group is the argument of is written behind all of the group
  | .rightParen =>
    (s.stack.takeWhile Waiting.isInside).map Waiting.token
      ++ callOf (s.stack.dropWhile Waiting.isInside)
  | .operator op =>
    -- the `0` is the left operand that the sign does not have
    if s.negates (.operator op) then [.number "0"]
    else (s.stack.takeWhile (Waiting.yieldsTo op)).map Waiting.token

def stackAfter (s : Converter) : Token → List Waiting
  | .number _ => s.stack
  | .function f => .function f :: s.stack
  | .leftParen => .leftParen :: s.stack
  -- the `(` goes, and with it the function that took the group
  | .rightParen => below (s.stack.dropWhile Waiting.isInside)
  | .operator op =>
    if s.negates (.operator op) then
      (if s.expects = .group then .groupNegation else .negation) :: s.stack
    else .operator op :: s.stack.dropWhile (Waiting.yieldsTo op)

def expectedAfter : Token → Expectation
  | .number _ | .rightParen => .operator
  | .leftParen => .group
  | .operator _ | .function _ => .operand

def next (s : Converter) (t : Token) : Converter :=
  ⟨s.stackAfter t, expectedAfter t⟩

def after (s : Converter) (tokens : List Token) : Converter :=
  tokens.foldl next s

/-- The tokens written while tokens are read in order. -/
def output (s : Converter) : List Token → Program
  | [] => []
  | t :: ts => s.written t ++ (s.next t).output ts

/-- The tokens written at the end: all that still waits, the latest first. -/
def flush (s : Converter) : Program :=
  s.stack.map Waiting.token

/-- The state after a list in two parts is reached through the state after the first part. -/
theorem after_append (s : Converter) (ts us : List Token) :
    s.after (ts ++ us) = (s.after ts).after us :=
  List.foldl_append

/-- What is written for a list in two parts: the second part is written from the state that the
first leaves. -/
theorem output_append (s : Converter) (ts us : List Token) :
    s.output (ts ++ us) = s.output ts ++ (s.after ts).output us := by
  induction ts generalizing s with
  | nil => rfl
  | cons t ts ih =>
    rw [List.cons_append, output, output, ih, List.append_assoc]
    rfl

end Converter

/-- The program of an expression. -/
def Program.ofTokens (tokens : List Token) : Program :=
  Converter.start.output tokens ++ (Converter.start.after tokens).flush

end PocketCalculator
