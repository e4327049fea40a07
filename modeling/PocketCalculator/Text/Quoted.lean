import PocketCalculator.Text.Unprintable

/-!
# PocketCalculator — quoted text

How the journal quotes a text: between quotation marks, with escapes for the
backslash, the quotation mark itself and every character that is not printed.
-/

namespace PocketCalculator.Text

/-- The escape that names a character by its code point, in lower-case hexadecimal
digits. -/
def codePointEscape (c : Char) : List Char :=
  ['\\', 'u', '\x7b'] ++ Nat.toDigits 16 c.toNat ++ ['\x7d']

/-- A character as it is written between two of the given quotation marks. -/
def quotedChar (mark c : Char) : List Char :=
  if c = '\x00' then ['\\', '0']
  else if c = '\t' then ['\\', 't']
  else if c = '\n' then ['\\', 'n']
  else if c = '\r' then ['\\', 'r']
  else if c = '\\' ∨ c = mark then ['\\', c]
  else if isUnprintable c then codePointEscape c
  else [c]

/-- A text between quotation marks. -/
def quoted (mark : Char) (text : String) : String :=
  .ofList (mark :: text.toList.flatMap (quotedChar mark) ++ [mark])

end PocketCalculator.Text
