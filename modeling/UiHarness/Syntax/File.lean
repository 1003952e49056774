import UiHarness.Syntax.Automaton.Markup
import UiHarness.Syntax.Automaton.Plain
import UiHarness.Syntax.Outline
import UiHarness.Syntax.Reading

/-!
# Reading a source file

A file is read as a program in the form that its path tells.  A file that cannot be read without a
mistake is refused with the line and the wording of the first one.

* `read`: the nodes of a file.
* `textOf_of_read`: they make up the code of the file.
-/

namespace UiHarness.Syntax

/-- Why a file was refused. -/
structure SyntaxError where
  /-- The path of the file. -/
  file : Text
  /-- The line on which it is wrong, counted from one. -/
  line : Int
  /-- What is wrong there. -/
  detail : Text
  deriving DecidableEq, Repr

/-- The wording of a syntax error. -/
def SyntaxError.message (e : SyntaxError) : Text :=
  "Syntax error in " ++ e.file ++ " at line " ++ Text.ofInt e.line ++ ": " ++ e.detail

/-- The automaton for the form of the source in a file. -/
def Automaton.ofPath (path : Text) : Automaton :=
  if Text.endsWith path ".ts" then .plain else .markup

/-- How many characters of unexpected text are shown. -/
def shownLength : Nat := 40

/-- The wording of what is wrong. -/
def Finding.message : Finding → Text
  | missing token => "missing " ++ token
  | unexpected text => "unexpected " ++ Text.quoted (text.take shownLength)

/-- The error for the first mistake in the tree of a file.  A mistake that is not seen has no
line. -/
def Tree.error (path : Text) (root : Tree) : SyntaxError :=
  match root.finding? none 0 with
  | some (before, finding) => ⟨path, before + 1, finding.message⟩
  | none => ⟨path, 0, "unparseable source".toList⟩

/-- The outline of the tree of a file.  It is only used if it makes up the file; else the file is
kept as one token. -/
def nodesOf (code : Text) (root : Tree) : List Node :=
  if Node.textOf root.outline = code then root.outline else Node.blank code

/-- Reads a source file. -/
def read (path code : Text) : Except SyntaxError (List Node) :=
  match Tree.read? (Automaton.ofPath path) code with
  | none => .error ⟨path, 0, "unparseable source".toList⟩
  | some root => if root.cost = 0 then .ok (nodesOf code root) else .error (root.error path)

/-- An outline makes up the code of its file. -/
theorem textOf_nodesOf (code : Text) (root : Tree) : Node.textOf (nodesOf code root) = code := by
  unfold nodesOf
  split
  · assumption
  · exact Node.textOf_blank code

/-- A file that is read is not changed by it. -/
theorem textOf_of_read {path code : Text} {nodes : List Node} (h : read path code = .ok nodes) :
    Node.textOf nodes = code := by
  unfold read at h
  split at h
  · cases h
  · split at h
    · cases h
      exact textOf_nodesOf code _
    · cases h

end UiHarness.Syntax
