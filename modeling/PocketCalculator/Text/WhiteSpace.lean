/-!
# PocketCalculator — white space

The characters with the Unicode property `White_Space`, and the words that they
separate.
-/

namespace PocketCalculator.Text

/-- The characters with the Unicode property `White_Space`. -/
def whiteSpace : List Char :=
  ['\t', '\n', '\x0b', '\x0c', '\r', ' ', '\x85', '\xa0', '\u1680',
    '\u2000', '\u2001', '\u2002', '\u2003', '\u2004', '\u2005', '\u2006',
    '\u2007', '\u2008', '\u2009', '\u200a', '\u2028', '\u2029', '\u202f',
    '\u205f', '\u3000']

/-- Whether a character is white space. -/
def isWhiteSpace (c : Char) : Bool :=
  whiteSpace.contains c

/-- The words of a text: the longest stretches without white space. -/
def words (text : String) : List String :=
  ((text.toList.splitOnP isWhiteSpace).filter (· ≠ [])).map .ofList

/-- Whether a text has no other characters than white space. -/
def isAllWhiteSpace (text : String) : Bool :=
  text.toList.all isWhiteSpace

end PocketCalculator.Text
