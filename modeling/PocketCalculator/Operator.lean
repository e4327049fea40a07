/-!
# PocketCalculator — operators

The four binary operators: the sign each is written with, how tightly it binds
and what it computes.

* `Operator.ofSymbol?_eq_some_iff` — a character is read as an operator exactly
  when it is the sign of that operator.
-/

namespace PocketCalculator

inductive Operator where
  | add
  | subtract
  | multiply
  | divide
  deriving DecidableEq

namespace Operator

def symbol : Operator → Char
  | add => '+'
  | subtract => '-'
  | multiply => '*'
  | divide => '/'

/-- The operator a sign stands for. -/
def ofSymbol? : Char → Option Operator
  | '+' => some add
  | '-' => some subtract
  | '*' => some multiply
  | '/' => some divide
  | _ => none

/-- The sign of an operator stands for it. -/
theorem ofSymbol?_symbol (op : Operator) : ofSymbol? op.symbol = some op := by
  cases op <;> rfl

/-- A character stands for an operator exactly when it is the operator's sign. -/
theorem ofSymbol?_eq_some_iff {c : Char} {op : Operator} :
    ofSymbol? c = some op ↔ c = op.symbol := by
  refine ⟨fun h => ?_, fun h => h ▸ ofSymbol?_symbol op⟩
  unfold ofSymbol? at h
  split at h <;> cases h <;> rfl

/-- How tightly an operator binds: products bind tighter than sums. -/
def precedence : Operator → Nat
  | add | subtract => 1
  | multiply | divide => 2

/-- Every operator binds tighter than what no operator moves and looser than a negation. -/
theorem precedence_bounds (op : Operator) : 0 < op.precedence ∧ op.precedence ≤ 2 := by
  cases op <;> decide

theorem loose_or_tight (op : Operator) :
    (op = add ∨ op = subtract) ∨ (op = multiply ∨ op = divide) := by
  cases op <;> simp

/-- What an operator computes. A quotient by zero is an infinity or not a number,
never a failure. -/
def apply : Operator → Float → Float → Float
  | add, left, right => left + right
  | subtract, left, right => left - right
  | multiply, left, right => left * right
  | divide, left, right => left / right

end Operator

end PocketCalculator
