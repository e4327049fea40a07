import PocketCalculator.Number.Shortest

/-!
# PocketCalculator — layouts

How the text of a double is laid out. Every layout shows the shortest digits that
read back; a `Layout` says which magnitudes are written plainly, how the others
are written with an exponent, and the words for what is no finite number.
-/

namespace PocketCalculator.Number

/-- The choices in which the texts of doubles differ. -/
structure Layout where
  /-- The rank from which magnitudes are written plainly; zero always is. -/
  plainFrom : Nat
  /-- The rank from which magnitudes are no longer written plainly. -/
  plainBelow : Nat
  /-- The letter in front of the exponent. -/
  exponentMark : Char
  /-- What follows a first digit that stands alone in front of an exponent. -/
  loneDigit : String
  notANumberWord : String
  infinityWord : String

/-- Digits without an exponent: the point stands after the first `point` of them,
zeros fill up to it, and each side of it has at least one digit. -/
def plainText (ds : List Char) (point : Int) : String :=
  let whole := ds.take point.toNat ++ List.replicate (point.toNat - ds.length) '0'
  let fraction := List.replicate (-point).toNat '0' ++ ds.drop point.toNat
  String.ofList ((if whole = [] then ['0'] else whole) ++ '.' ::
    (if fraction = [] then ['0'] else fraction))

namespace Layout

/-- Digits with an exponent: the point stands after the first one. -/
def scientificText (layout : Layout) (ds : List Char) (point : Int) : String :=
  let fraction :=
    if ds.drop 1 = [] then layout.loneDigit else String.ofList ('.' :: ds.drop 1)
  String.ofList (ds.take 1) ++ fraction ++ layout.exponentMark.toString
    ++ toString (point - 1)

/-- Whether the magnitude of a rank is written without an exponent. -/
def isPlain (layout : Layout) (rank : Nat) : Bool :=
  decide (rank = 0 ∨ layout.plainFrom ≤ rank ∧ rank < layout.plainBelow)

/-- The text of the magnitude of a rank. -/
def magnitudeText (layout : Layout) (rank : Nat) : String :=
  if rank = infinity then layout.infinityWord
  else
    let d := shortest rank
    if layout.isPlain rank then plainText (digits d.coefficient) d.point
    else layout.scientificText (digits d.coefficient) d.point

def text (layout : Layout) (v : Float) : String :=
  if infinity < rank v then layout.notANumberWord
  else if isNegative v then "-" ++ layout.magnitudeText (rank v)
  else layout.magnitudeText (rank v)

end Layout

end PocketCalculator.Number
