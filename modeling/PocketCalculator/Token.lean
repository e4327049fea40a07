import PocketCalculator.NamedFunction
import PocketCalculator.Operator

/-!
# PocketCalculator — tokens

The words of an expression. A number keeps the text it was written with: whether
that text denotes a value is decided only when the value is needed.
-/

namespace PocketCalculator

/-- A word of an expression. -/
inductive Token where
  | number (text : String)
  | operator (op : Operator)
  | leftParen
  | rightParen
  | function (f : NamedFunction)
  deriving DecidableEq

def Token.text : Token → String
  | .number text => text
  | .operator op => op.symbol.toString
  | .leftParen => "("
  | .rightParen => ")"
  | .function f => f.name

-- ---------------------------------------------------------------------------
-- Kinds of tokens
-- ---------------------------------------------------------------------------

namespace Token

def isNumber : Token → Bool
  | number _ => true
  | _ => false

def isOperator : Token → Bool
  | operator _ => true
  | _ => false

def isFunction : Token → Bool
  | function _ => true
  | _ => false

/-- Whether a token is a parenthesis. -/
def isParenthesis : Token → Bool
  | leftParen | rightParen => true
  | _ => false

end Token

end PocketCalculator
