import UiHarness.Text.Blank

/-!
# Changes in a repository

A repository is asked through its command, which answers with an exit code and an output.  A list
of changed files has one line for each file: a status, a tab, and the path, or the old and the new
path with a tab between them.

* `Git.Changes.parse`: the changed files in such a list.
* `Git.answer`: what counts as the answer of a command.
-/

namespace UiHarness.Git

/-- Changed files by what happened to them. -/
structure Changes where
  added : List Text := []
  modified : List Text := []
  deleted : List Text := []
  /-- Renamed files, by their new paths. -/
  renamed : List Text := []
  deriving DecidableEq, Repr

/-- What happened to a file. -/
inductive Status
  | added
  | modified
  | deleted
  | renamed
  deriving DecidableEq, Repr

/-- The status of a mark in a list. -/
def Status.of? (mark : Text) : Option Status :=
  if mark = ['A'] then some .added
  else if mark = ['M'] then some .modified
  else if mark = ['D'] then some .deleted
  else if Text.startsWith mark ['R'] then some .renamed
  else none

/-- What a line says of a file: a rename counts for the new path. -/
def change? (line : Text) : Option (Status × Text) :=
  if Text.isAllBlank line then none
  else
    match Text.cut? ['\t'] line with
    | none => none
    | some (mark, rest) =>
      if rest.isEmpty then none
      else
        let paths := Text.splitAt '\t' rest
        match Status.of? mark with
        | some .renamed => some (.renamed, paths.getLastD [])
        | some status => some (status, paths.headD [])
        | none => none

/-- The paths of a status, in order. -/
def pathsOf (status : Status) (changes : List (Status × Text)) : List Text :=
  (changes.filter fun c => c.1 = status).map Prod.snd

/-- The changed files in a list. -/
def Changes.parse (output : Text) : Changes :=
  let changes := (Text.lines output).filterMap change?
  { added := pathsOf .added changes
    modified := pathsOf .modified changes
    deleted := pathsOf .deleted changes
    renamed := pathsOf .renamed changes }

/-- What a command says: its exit code and its output. -/
abbrev Answer := Int × Text

/-- What counts as the answer of a command: its output without the blanks at its ends, and nothing
if the command fails or cannot be started. -/
def answer : Option Answer → Text
  | some (0, output) => Text.strip output
  | _ => []

/-- The arguments that ask for the files changed since a branch. -/
def changesArguments (base : Text) : List Text :=
  ["diff", "--name-status", base ++ "...HEAD"]

/-- The arguments that ask for the name of the current branch. -/
def branchArguments : List Text := ["rev-parse", "--abbrev-ref", "HEAD"]

/-- The arguments that ask whether there is a repository. -/
def repositoryArguments : List Text := ["rev-parse", "--is-inside-work-tree"]

end UiHarness.Git
