import UiHarness.Text.Ranges

/-!
# Blanks and line boundaries

The blank characters are the white space of Unicode together with the four separators U+001C to
U+001F.  They are what is stripped from the ends of a text and what the patterns of this library
call white space.  A line ends at more places than at a line feed: at a carriage return, alone or
together with the line feed behind it, at the vertical tab and the form feed, at the first three
of the four separators, at U+0085, and at the line and paragraph separators.

* `strip`, `stripStart`: a text without the blanks at its ends.
* `lines`: the lines of a text, without their ends.
-/

namespace UiHarness.Text

/-! ## 1.  Blanks -/

/-- The ranges of the blank characters. -/
def blankRanges : List (Nat × Nat) :=
  [
    (0x9, 0xD), (0x1C, 0x20), (0x85, 0x85), (0xA0, 0xA0), (0x1680, 0x1680), (0x2000, 0x200A),
    (0x2028, 0x2029), (0x202F, 0x202F), (0x205F, 0x205F), (0x3000, 0x3000)]

/-- Whether a character is blank. -/
def isBlank (c : Char) : Bool := inRanges c.toNat blankRanges

/-- A text without the blanks at its start. -/
def stripStart (t : Text) : Text := t.dropWhile isBlank

/-- A text without the blanks at its ends. -/
def strip (t : Text) : Text := trimWhile isBlank t

/-- Whether a text holds nothing but blanks. -/
def isAllBlank (t : Text) : Bool := t.all isBlank

/-! ## 2.  Lines -/

/-- Whether a line ends at this character. -/
def isLineEnd (c : Char) : Bool :=
  c ∈ ['\n', '\r', '\x0b', '\x0c', '\x1c', '\x1d', '\x1e', '\u0085', '\u2028', '\u2029']

/-- The lines of a text without their ends.  A text that ends with a line end has no empty line
behind it, and the empty text has no line. -/
def lines : Text → List Text
  | [] => []
  | '\r' :: '\n' :: t => [] :: lines t
  | c :: t =>
    if isLineEnd c then [] :: lines t
    else
      match lines t with
      | line :: rest => (c :: line) :: rest
      | [] => [[c]]

end UiHarness.Text
