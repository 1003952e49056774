import UiHarness.Command.Run
import UiHarness.Json.Parser
import UiHarness.Session.Conditions

/-!
# The command line

The program works on a session: it takes its arguments from the command line and the conditions of
the session, a JSON document, from the standard input.  The document is a table.

* `files`: the paths of the files that the program may read, which are read from the working
  directory;
* `directories`: the paths of directories that the program may find besides those of the files;
* `environment`: the variables of the environment;
* `repository`: what the repository's command answers to its arguments;
* `replies`: what the service replies, one request after the other;
* `looks`: what happens while the program watches.

What the program reports is printed, and the files that it wrote are saved.
-/

namespace UiHarness.Command

/-- A disk with a file that is read from a path. -/
def load (d : Disk) (path : Text) : IO Disk := do
  let bytes ← IO.FS.readBinFile (String.ofList path)
  let p := Path.ofText path
  match (d.makeDirectory p.parent).1.writeBytes p bytes with
  | .ok d => return d
  | .error _ => return d

/-- Saves a file, after making the directories above it. -/
def store (path : Text) (bytes : ByteArray) : IO Unit := do
  IO.FS.createDirAll (String.ofList (Path.ofText path).parent.text)
  IO.FS.writeBinFile (String.ofList path) bytes

/-- A disk with a text in a file, as a look tells it. -/
def saved (d : Disk) (v : Value) : Disk :=
  match v with
  | .list [.text path, .text t] => (d.save (.ofText path) t).1
  | _ => d

/-- Runs the program under some conditions: its exit code. -/
def runUnder (arguments : List Text) (conditions : Value) : IO Nat := do
  let part (key : Text) : Value := (conditions.get? key).getD .null
  let here := (Path.ofText (← IO.currentDir).toString.toList).parts
  let root : Disk := { here }
  let paths (key : Text) : List Text := (part key).elements.filterMap Value.text?
  let known := (paths "directories").foldl (fun d p => (d.makeDirectory (.ofText p)).1)
    (root.makeDirectory ⟨"/", here⟩).1
  let disk ← (paths "files").foldlM load known
  let session := Session.under disk (part "environment") (part "repository") (part "replies")
  let looks := Watch.Look.ofValues saved (.ofInt 0) (part "looks").elements
  let (result, after) := (Command.main arguments looks).outcome session
  IO.print (String.ofList (linesText after.lines))
  for (path, bytes) in after.disk.changedSince disk do
    store path bytes
  match result with
  | .ok code => return code
  | .error f =>
    IO.eprintln (String.ofList f.message)
    return 1

/-- Runs the program under the conditions in a document: its exit code. -/
def runDescribed (arguments : List Text) (document : Text) : IO Nat := do
  match Json.parse document with
  | .ok conditions => runUnder arguments conditions
  | .error failure =>
    IO.eprintln (String.ofList ("The conditions cannot be read: " ++ failure.message document))
    return 2

end UiHarness.Command

/-- The program. -/
def main (arguments : List String) : IO UInt32 := do
  let document ← (← IO.getStdin).readToEnd
  return .ofNat (← UiHarness.Command.runDescribed (arguments.map String.toList) document.toList)
