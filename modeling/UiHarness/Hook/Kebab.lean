import UiHarness.Text.Lowercase

/-!
# Names in lower case with hyphens

The name of a component is split into words at its capitals: `OtTable` is `ot-table`, and
`HTMLTable` is `html-table`, because the last capital of a row belongs to the word behind it.
Letters and digits are those of ASCII here; dots and underscores become hyphens too.
-/

namespace UiHarness.Hook

open Text

/-- Two or more capitals with a small letter behind them, cut before the last capital. -/
def acronym? (t : Text) : Option (Text × Text) :=
  match t.span isUpperAscii with
  | (capitals, c :: rest) =>
    match capitals.dropLast, capitals.getLast? with
    | a :: before, some last =>
      if isLowerAscii c then some (a :: before ++ ['-', last, c], rest) else none
    | _, _ => none
  | (_, []) => none

/-- A small letter or a digit with a capital behind it, cut between the two. -/
def wordEnd? : Text → Option (Text × Text)
  | a :: b :: rest =>
    if (isLowerAscii a || isDigitAscii a) && isUpperAscii b then some ([a, '-', b], rest) else none
  | _ => none

/-- A hyphen in place of a dot or an underscore. -/
def hyphenate (c : Char) : Char := if c = '.' ∨ c = '_' then '-' else c

/-- A name in lower case, its words joined by hyphens. -/
def kebab (name : Text) : Text :=
  lower ((substituteAll wordEnd? (substituteAll acronym? name)).map hyphenate)

/-- Where the identifier of a section stands in a pattern. -/
def sectionMark : Text := "\x7bid\x7d"

/-- The pattern for the identifiers of a component that has none of its own. -/
def defaultPattern (name : Text) : Text := sectionMark ++ '-' :: kebab name

end UiHarness.Hook
