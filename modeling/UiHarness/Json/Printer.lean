import UiHarness.Value

/-!
# Writing JSON

A value as JSON text in ASCII.  In a string every character that is not printable ASCII is written
by its UTF-16 units; the quote, the backslash and the usual control characters have short escapes.
On one line a comma is followed by a blank, and so is a colon; over several lines each member
stands on a line of its own, indented by two blanks for each level.
-/

namespace UiHarness.Json

/-- A UTF-16 unit as an escape. -/
def unitEscape (n : Nat) : Text := "\\u" ++ Text.hexPadded 4 n

/-- A character inside a string. -/
def escaped (c : Char) : Text :=
  if c = '"' then "\\\""
  else if c = '\\' then "\\\\"
  else if c = '\n' then "\\n"
  else if c = '\r' then "\\r"
  else if c = '\t' then "\\t"
  else if c = '\x08' then "\\b"
  else if c = '\x0c' then "\\f"
  else if ' ' ≤ c ∧ c ≤ '~' then [c]
  else if c.toNat < 0x10000 then unitEscape c.toNat
  else
    unitEscape (0xD800 + (c.toNat - 0x10000) / 0x400) ++
      unitEscape (0xDC00 + (c.toNat - 0x10000) % 0x400)

/-- A text as a string. -/
def quote (t : Text) : Text := '"' :: t.flatMap escaped ++ ['"']

/-- A floating point number; those that are no numbers of JSON have names. -/
def numeral : Binary64 → Text
  | .nan => "NaN"
  | .infinite false => "Infinity"
  | .infinite true => "-Infinity"
  | x => x.text

/-- A value that has no members. -/
def atom : Value → Text
  | .null => "null"
  | .bool b => if b then "true" else "false"
  | .int n => Text.ofInt n
  | .float x => numeral x
  | .text t => quote t
  | .moment _ t => quote t
  | .list _ => "[]"
  | .table _ => "\x7b\x7d"

/-! ## 1.  On one line -/

mutual

/-- A value on one line. -/
def compact : Value → Text
  | .list (v :: vs) => '[' :: compact v ++ compactMembers vs ++ [']']
  | .table ((k, v) :: es) =>
    '\x7b' :: quote k ++ ": " ++ compact v ++ compactEntries es ++ ['\x7d']
  | v => atom v

/-- Further members of a list. -/
def compactMembers : List Value → Text
  | [] => []
  | v :: vs => ", " ++ compact v ++ compactMembers vs

/-- Further entries of a table. -/
def compactEntries : List (Text × Value) → Text
  | [] => []
  | (k, v) :: es => ", " ++ quote k ++ ": " ++ compact v ++ compactEntries es

end

/-! ## 2.  Over several lines -/

/-- A new line at a level. -/
def newline (level : Nat) : Text := '\n' :: List.replicate (2 * level) ' '

mutual

/-- A value over several lines at a level. -/
def indented (level : Nat) : Value → Text
  | .list (v :: vs) =>
    '[' :: newline (level + 1) ++ indented (level + 1) v ++ indentedMembers (level + 1) vs ++
      newline level ++ [']']
  | .table ((k, v) :: es) =>
    '\x7b' :: newline (level + 1) ++ quote k ++ ": " ++ indented (level + 1) v ++
      indentedEntries (level + 1) es ++ newline level ++ ['\x7d']
  | v => atom v

/-- Further members of a list at a level. -/
def indentedMembers (level : Nat) : List Value → Text
  | [] => []
  | v :: vs => ',' :: newline level ++ indented level v ++ indentedMembers level vs

/-- Further entries of a table at a level. -/
def indentedEntries (level : Nat) : List (Text × Value) → Text
  | [] => []
  | (k, v) :: es =>
    ',' :: newline level ++ quote k ++ ": " ++ indented level v ++ indentedEntries level es

end

/-- A value over several lines. -/
def pretty (v : Value) : Text := indented 0 v

end UiHarness.Json
