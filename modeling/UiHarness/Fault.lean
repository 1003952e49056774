import UiHarness.Syntax.File
import UiHarness.Text.Bytes
import UiHarness.Json.Parser

/-!
# Faults

Everything that can go wrong, by cause.  The wording of a fault is what a report shows.
-/

namespace UiHarness

/-- Why the file system refuses something. -/
inductive Refusal
  | noEntry
  | exists
  | notDirectory
  | isDirectory
  /-- A name or a whole path is too long. -/
  | nameTooLong
  /-- A path with a null character is none. -/
  | nullCharacter
  deriving DecidableEq, Repr

/-- The number and the wording of a refusal. -/
def Refusal.message : Refusal → Text
  | noEntry => "[Errno 2] No such file or directory"
  | .exists => "[Errno 17] File exists"
  | notDirectory => "[Errno 20] Not a directory"
  | isDirectory => "[Errno 21] Is a directory"
  | nameTooLong => "[Errno 36] File name too long"
  | nullCharacter => "embedded null byte"

/-- What can go wrong. -/
inductive Fault
  /-- A source file cannot be read as source. -/
  | source (e : Syntax.SyntaxError)
  /-- The settings, the options or the files they name cannot be used together. -/
  | settings (message : Text)
  /-- The service that writes texts gives none; with the status and the text of its answer. -/
  | service (message : Text) (status : Option Int) (body : Option Text)
  /-- Sources of a unit have no path. -/
  | pathless (unit : Text) (keys : List Text)
  /-- A file that is to be read does not exist. -/
  | noFile (path : Text)
  /-- The file system refuses something for a path. -/
  | refused (why : Refusal) (path : Text)
  /-- Bytes are no text. -/
  | undecodable (u : Text.Undecodable)
  /-- A text is no JSON. -/
  | json (whole : Text) (f : Json.Failure)
  /-- A table has no entry of a key. -/
  | noKey (key : Text)
  /-- A value is of a kind that cannot be used so. -/
  | wrongKind (message : Text)
  /-- A value is asked for something that its kind does not have. -/
  | noProperty (message : Text)
  /-- A value is of the right kind but cannot be used. -/
  | badValue (message : Text)
  /-- Something fails for a reason of its own. -/
  | failure (message : Text)
  /-- The user stops the program. -/
  | interrupted

namespace Fault

/-- The wording of a fault. -/
def message : Fault → Text
  | source e => e.message
  | settings m => m
  | service m _ _ => m
  | pathless unit keys =>
    "Sources without a path in unit " ++ unit ++ ": " ++ Text.join ", " keys
  | noFile path => "File not found: " ++ path
  | refused .nullCharacter _ => Refusal.nullCharacter.message
  | refused why path => why.message ++ ": " ++ Text.quoted path
  | undecodable u => u.message
  | json whole f => f.message whole
  | noKey key => Text.quoted key
  | wrongKind m => m
  | noProperty m => m
  | badValue m => m
  | failure m => m
  | interrupted => []

/-- Whether a fault stops the whole program, whatever is done about others. -/
def stopsAll : Fault → Bool
  | interrupted => true
  | _ => false

end Fault

end UiHarness
