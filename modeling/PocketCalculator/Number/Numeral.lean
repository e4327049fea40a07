import PocketCalculator.Number.Decimal

/-!
# PocketCalculator — numerals

The grammar of number texts and the double each denotes.

A numeral is an optional sign and then one of the words `inf`, `infinity` and
`nan` in letters of any case, or digits with at most one point among them and at
least one digit, followed by an optional exponent: `e` or `E`, an optional sign
and at least one digit. Nothing else may stand in the text, blanks included. The
value is the nearest double.
-/

namespace PocketCalculator.Number

/-- An optional sign, as whether it is a minus, and the text after it. -/
def splitSign : List Char → Bool × List Char
  | '+' :: rest => (false, rest)
  | '-' :: rest => (true, rest)
  | cs => (false, cs)

/-- The number that a text of at least one digit, and digits only, denotes. -/
def natural? (cs : List Char) : Option Nat :=
  if cs ≠ [] ∧ cs.all Char.isDigit then some (Nat.ofDigitChars 10 cs 0) else none

/-- The exponent that follows the digits; without an exponent it is zero. -/
def exponent? : List Char → Option Int
  | [] => some 0
  | mark :: rest =>
    if mark = 'e' ∨ mark = 'E' then
      let (negative, cs) := splitSign rest
      (natural? cs).map fun n => if negative then -(n : Int) else n
    else none

/-- The digits after an optional point, and the text after these. -/
def splitFraction : List Char → List Char × List Char
  | '.' :: rest => (rest.takeWhile Char.isDigit, rest.dropWhile Char.isDigit)
  | cs => ([], cs)

/-- The decimal that an unsigned numeral in digits denotes. -/
def decimal? (cs : List Char) : Option Decimal :=
  let whole := cs.takeWhile Char.isDigit
  let (fraction, rest) := splitFraction (cs.dropWhile Char.isDigit)
  match natural? (whole ++ fraction), exponent? rest with
  -- every digit behind the point counts for a tenth
  | some coefficient, some exponent => some ⟨coefficient, exponent - fraction.length⟩
  | _, _ => none

/-- The rank that an unsigned numeral in words denotes. -/
def wordRank? (cs : List Char) : Option Nat :=
  let word := String.ofList (cs.map Char.toLower)
  if word = "inf" ∨ word = "infinity" then some infinity
  else if word = "nan" then some notANumber
  else none

/-- The rank that an unsigned numeral denotes. -/
def unsignedRank? (cs : List Char) : Option Nat :=
  (wordRank? cs).or ((decimal? cs).map Decimal.rank)

/-- The double that a number text denotes, if it is a numeral. -/
def read? (text : String) : Option Float :=
  let (negative, cs) := splitSign text.toList
  (unsignedRank? cs).map (ofRank negative)

end PocketCalculator.Number
