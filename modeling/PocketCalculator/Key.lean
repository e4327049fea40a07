import PocketCalculator.NamedFunction
import PocketCalculator.Operator

/-!
# PocketCalculator — keys

The keys of the keypad and the labels they are named by.

* `Key.exists_ofLabel?_of_mem_labels` — every label of the keypad names a key.
-/

namespace PocketCalculator

inductive Key where
  /-- A key that types the digit it shows. -/
  | digit (c : Char)
  | dot
  | operator (op : Operator)
  | leftParen
  | rightParen
  | function (f : NamedFunction)
  /-- Puts `(-` in front of everything typed so far and `)` behind it. -/
  | negate
  /-- Empties the input and the display. -/
  | clear
  | equals
  deriving DecidableEq

namespace Key

/-- The labels of the keypad, row by row. -/
def labels : List String :=
  ["C", "(", ")", "/", "7", "8", "9", "*", "4", "5", "6", "-", "1", "2", "3", "+",
    "0", ".", "=", "±", "sin", "cos", "tan", "sqrt", "log"]

/-- The key that a single character labels. -/
def ofCharacter? : Char → Option Key
  | 'C' => some clear
  | '=' => some equals
  | '±' => some negate
  | '.' => some dot
  | '(' => some leftParen
  | ')' => some rightParen
  | c => if c.isDigit then some (digit c) else (Operator.ofSymbol? c).map operator

/-- The key that a label names. The key `±` has a second label, of ASCII characters
only: a plus, a slash and a minus. -/
def ofLabel? (label : String) : Option Key :=
  match label.toList with
  | [c] => ofCharacter? c
  | cs =>
    if cs = ['+', '/', '-'] then some negate else (NamedFunction.ofName? label).map function

/-- Every label of the keypad names a key. -/
theorem exists_ofLabel?_of_mem_labels {label : String} (h : label ∈ labels) :
    ∃ key, ofLabel? label = some key := by
  have hAll : labels.all (fun label => (ofLabel? label).isSome) = true := by decide
  exact Option.isSome_iff_exists.mp (List.all_eq_true.mp hAll label h)

end Key

end PocketCalculator
