import PocketCalculator.EvaluationError

/-!
# PocketCalculator — lexemes

An expression is cut into lexemes before its tokens are read: runs of digits and
points, runs of letters, and single characters. Two neighbouring characters stay
together exactly when both are numeral characters or both are letters, so every
run is as long as it can be.

A lexeme is a blank, a token, or unknown. A run of digits and points is always a
number token; a run of letters is a token only if it is the name of a function.
-/

namespace PocketCalculator

/-- Blanks separate tokens and mean nothing else: the space, the tab, the line feed,
the form feed and the carriage return. -/
def isBlank (c : Char) : Bool :=
  c = ' ' || c = '\t' || c = '\n' || c = '\x0c' || c = '\r'

/-- The characters of number tokens are the ASCII digits and the point. -/
def isNumeral (c : Char) : Bool :=
  c.isDigit || c = '.'

/-- A stretch of the source that is read as a whole. -/
abbrev Lexeme := List Char

namespace Lexeme

/-- Whether two neighbouring characters belong to one lexeme; letters are those of
ASCII. -/
def joins (a b : Char) : Bool :=
  isNumeral a && isNumeral b || a.isAlpha && b.isAlpha

def split (cs : List Char) : List Lexeme :=
  cs.splitBy joins

/-- The number of bytes that a lexeme takes. -/
def byteCount (w : Lexeme) : Nat :=
  (String.ofList w).utf8ByteSize

inductive Reading where
  | blank
  | token (t : Token)
  | unknown
  deriving DecidableEq

/-- The token that a sign stands for. -/
def sign? : Char → Option Token
  | '(' => some .leftParen
  | ')' => some .rightParen
  | c => (Operator.ofSymbol? c).map .operator

/-- Reads a lexeme, whose first character decides its kind. -/
def read : Lexeme → Reading
  | [] => .blank
  | c :: cs =>
    if isBlank c then .blank
    else if isNumeral c then .token (.number (.ofList (c :: cs)))
    else if c.isAlpha then
      match NamedFunction.ofName? (.ofList (c :: cs)) with
      | some f => .token (.function f)
      | none => .unknown
    else
      match sign? c with
      | some t => .token t
      | none => .unknown

/-- The tokens of a list of lexemes. The first unknown lexeme is reported. -/
def tokens : List Lexeme → Except EvaluationError (List Token)
  | [] => .ok []
  | w :: rest =>
    match w.read with
    | .blank => tokens rest
    | .token t => (tokens rest).map (t :: ·)
    | .unknown => .error (.unknownSymbol (.ofList w))

end Lexeme

/-- The tokens of an expression. -/
def readTokens (source : String) : Except EvaluationError (List Token) :=
  Lexeme.tokens (Lexeme.split source.toList)

end PocketCalculator
