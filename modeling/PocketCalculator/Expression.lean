import PocketCalculator.Program.Execution

/-!
# PocketCalculator — expression trees

What an expression means when all its parts are in place: a tree of numbers, calls
and operations. A tree has a value, computed from its leaves up, and a listing in
postorder, which is the program that computes this value.
-/

namespace PocketCalculator

/-- A complete expression. -/
inductive Expression where
  | number (text : String)
  | call (f : NamedFunction) (argument : Expression)
  | binary (op : Operator) (left right : Expression)
  deriving DecidableEq

namespace Expression

/-- A negation is a difference from zero. -/
def negation (e : Expression) : Expression :=
  binary .subtract (number "0") e

/-- The tokens of a tree, each after those of its operands. -/
def postorder : Expression → Program
  | number text => [.number text]
  | call f e => e.postorder ++ [.function f]
  | binary op left right => left.postorder ++ right.postorder ++ [.operator op]

/-- The value of a tree, if every number in it is a numeral. -/
def value? : Expression → Option Float
  | number text => Number.read? text
  | call f e => e.value?.map f.apply
  | binary op left right =>
    left.value?.bind fun l => right.value?.map fun r => op.apply l r

end Expression

end PocketCalculator
