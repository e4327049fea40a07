import PocketCalculator.Number.Layout

/-!
# PocketCalculator — the display

What the display shows for a result.
-/

namespace PocketCalculator

/-- Results are plain from a thousandth up to ten million and otherwise written with
`E`; there is always a digit after the point. -/
def displayLayout : Number.Layout where
  plainFrom := Number.nearest 1 1000
  plainBelow := Number.nearest 10000000 1
  exponentMark := 'E'
  loneDigit := ".0"
  notANumberWord := "NaN"
  infinityWord := "Infinity"

/-- The text of a result. -/
def displayText (v : Float) : String :=
  displayLayout.text v

/-- What the display shows when there is no result. -/
def errorText : String := "Error"

end PocketCalculator
