/-!
# PocketCalculator — lines of input

How the bytes of the input divide into lines. A line ends with a line feed, or
with a carriage return and a line feed; neither belongs to the line. What follows
the last line feed is a line as it stands, unless it is empty.
-/

namespace PocketCalculator.CommandLine

/-- A line that ended with a line feed, without the carriage return before it. -/
def dropReturn (line : List UInt8) : List UInt8 :=
  if line.getLast? = some 13 then line.dropLast else line

/-- The lines of an input. -/
def lines (input : List UInt8) : List (List UInt8) :=
  let pieces := input.splitOn 10
  -- no line feed follows the last piece, so a carriage return at its end belongs to it
  pieces.dropLast.map dropReturn ++ (pieces.getLast?.toList.filter (· ≠ []))

/-- The text of a line, if its bytes are UTF-8. -/
def decode? (line : List UInt8) : Option String :=
  String.fromUTF8? (.mk line.toArray)

end PocketCalculator.CommandLine
