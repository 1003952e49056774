import UiHarness.Text

/-!
# Reading TOML: blanks and comments

A reader says what it read and what is left of the text.  Blanks are the space and the tab; a
comment goes on to the end of its line and holds no control characters.
-/

namespace UiHarness.Toml

/-- Why a text was refused. -/
inductive Failure
  /-- The text does not follow the rules. -/
  | malformed
  /-- An integer of so many digits. -/
  | longInteger (digits : Nat)
  /-- Too many values inside each other. -/
  | tooDeep
  deriving DecidableEq, Repr

/-- The wording for too many values inside each other. -/
def depthMessage : Text := "maximum recursion depth exceeded"

/-- What was read and what is left of the text. -/
abbrev Reader (α : Type) := Text → Except Failure (α × Text)

/-- Whether a character is a blank inside a line. -/
def isBlank (c : Char) : Bool := c = ' ' || c = '\t'

/-- What is left behind blanks. -/
def skipBlanks (t : Text) : Text := t.dropWhile isBlank

/-- Whether a character is a control character that may not stand in a line. -/
def isControl (c : Char) : Bool := (c < ' ' && c ≠ '\t') || c = '\x7f'

/-- What is left behind a comment, if there is one. -/
def skipComment (t : Text) : Except Failure Text :=
  match t with
  | '#' :: r =>
    if (r.takeWhile (· ≠ '\n')).any isControl then .error .malformed
    else .ok (r.dropWhile (· ≠ '\n'))
  | _ => .ok t

/-- What is left behind blanks, line ends and comments, in at most `n` steps. -/
def skipWithin : Nat → Text → Except Failure Text
  | 0, t => .ok t
  | n + 1, t =>
    match t.dropWhile fun c => isBlank c || c = '\n' with
    | '#' :: r => do skipWithin n (← skipComment ('#' :: r))
    | r => .ok r

/-- What is left behind blanks, line ends and comments. -/
def skipLines (t : Text) : Except Failure Text := skipWithin (t.length + 1) t

end UiHarness.Toml
