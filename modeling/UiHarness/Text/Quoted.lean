import UiHarness.Text.Printable

/-!
# Quotations

A quotation shows a text between quotes on one line, so that a message can hold it.  Single
quotes stand around it, unless the text has a single quote and no double quote; then double
quotes do.  Inside, the backslash and the quote in use are written behind a backslash, the tab and
the two line ends by their letters, and every other character that is not printable by its code
point in two, four or eight hexadecimal digits.
-/

namespace UiHarness.Text

/-- The hexadecimal digits of a number, lower case, padded with zeros to a width. -/
def hexPadded (width n : Nat) : Text :=
  let digits := Nat.toDigits 16 n
  List.replicate (width - digits.length) '0' ++ digits

/-- One character inside a quotation whose quote is `mark`. -/
def quotedChar (mark c : Char) : Text :=
  if c = mark ∨ c = '\\' then ['\\', c]
  else if c = '\t' then "\\t"
  else if c = '\n' then "\\n"
  else if c = '\r' then "\\r"
  else if isPrintable c then [c]
  else if c.toNat < 0x100 then "\\x" ++ hexPadded 2 c.toNat
  else if c.toNat < 0x10000 then "\\u" ++ hexPadded 4 c.toNat
  else "\\U" ++ hexPadded 8 c.toNat

/-- The quote that stands around a text. -/
def quoteMark (t : Text) : Char := if '\'' ∈ t ∧ '"' ∉ t then '"' else '\''

/-- The quotation of a text. -/
def quoted (t : Text) : Text :=
  quoteMark t :: t.flatMap (quotedChar (quoteMark t)) ++ [quoteMark t]

end UiHarness.Text
