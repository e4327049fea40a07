import PocketCalculator.Number.Layout
import PocketCalculator.Token

/-!
# PocketCalculator — evaluation errors

The reasons why an expression has no value, and how they are worded.
-/

namespace PocketCalculator

/-- Why an expression has no value. -/
inductive EvaluationError where
  /-- A number token whose text is no numeral. -/
  | malformedNumber (text : String)
  /-- A character or a word that no expression contains. -/
  | unknownSymbol (symbol : String)
  /-- An operator or a function that found too few operands. -/
  | missingOperand (token : Token)
  /-- Another number of values than one was left in the end. -/
  | unbalanced (remaining : Nat)
  /-- The value is infinite or not a number, and such values are refused. -/
  | nonFinite (value : Float)
  deriving DecidableEq

/-- Values inside messages are plain from a ten-thousandth up to `10^16`, and otherwise
written with `e` and no needless digit. -/
def messageLayout : Number.Layout where
  plainFrom := Number.nearest 1 10000
  plainBelow := Number.nearest (Nat.pow 10 16) 1
  exponentMark := 'e'
  loneDigit := ""
  notANumberWord := "NaN"
  infinityWord := "inf"

def EvaluationError.message : EvaluationError → String
  | malformedNumber text => "Malformed number '" ++ text ++ "'."
  | unknownSymbol symbol => "Unknown symbol '" ++ symbol ++ "'."
  | missingOperand token => "Missing operand for '" ++ token.text ++ "'."
  | unbalanced remaining =>
    "Expected exactly one result but " ++ toString remaining ++ " values remained."
  | nonFinite value => "Result is not a finite number: " ++ messageLayout.text value ++ "."

end PocketCalculator
