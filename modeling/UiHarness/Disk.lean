import UiHarness.Fault
import UiHarness.Path

/-!
# Files

A disk holds directories and files by their locations, the lists of names that lead to them from
the root.  A path is followed part by part from the root or from the working directory: every part
but the last must be a directory, and two dots lead back.

* `Disk.locate`: the location that a path leads to.
* `Disk.readText`, `Disk.readText?`: the text of a file, with line ends unified.
* `Disk.makeDirectory`: a disk with a directory and those above it.
* `Disk.save`: a disk with a file of the given text.
* `Disk.changedSince`: the files that were written.
-/

namespace UiHarness

/-- The names that lead from the root to a directory or a file. -/
abbrev Location := List Text

/-- A location as one text. -/
def Location.key (l : Location) : Text := '/' :: Text.join ['/'] l

/-- What can be at a location. -/
inductive Entry
  | directory
  | file (bytes : ByteArray)

/-- Directories and files, and the directory that relative paths start from. -/
structure Disk where
  /-- What is at each location. -/
  entries : Table Entry := Table.empty
  /-- The working directory. -/
  here : Location := []

namespace Disk

/-! ## 1.  Following paths -/

/-- What is at a location.  The root is always a directory. -/
def at? (d : Disk) (l : Location) : Option Entry :=
  if l.isEmpty then some .directory else d.entries.get? l.key

/-- The greatest number of bytes of a name. -/
def nameLimit : Nat := 255

/-- The number of bytes from which on a whole path is too long. -/
def pathLimit : Nat := 4096

/-- The location that some parts lead to from another one. -/
def walk (d : Disk) (start : Location) : List Text → Except Refusal Location
  | [] => .ok start
  | part :: parts =>
    match d.at? start with
    | none => .error .noEntry
    | some (.file _) => .error .notDirectory
    | some .directory =>
      if part = ("..".toList : Text) then d.walk start.dropLast parts
      else if nameLimit < part.byteSize then .error .nameTooLong
      else d.walk (start ++ [part]) parts

/-- The location that a path leads to.  There need not be anything. -/
def locate (d : Disk) (p : Path) : Except Refusal Location :=
  if '\x00' ∈ p.text then .error .nullCharacter
  else if pathLimit ≤ p.text.byteSize then .error .nameTooLong
  else d.walk (if p.isAbsolute then [] else d.here) p.parts

/-- What a path leads to. -/
def find (d : Disk) (p : Path) : Except Refusal Entry := do
  let l ← d.locate p
  match d.at? l with
  | some e => .ok e
  | none => .error .noEntry

/-- What a path leads to, if to anything.  Only a path with too long a name cannot be asked for. -/
def find? (d : Disk) (p : Path) : Except Fault (Option Entry) :=
  match d.find p with
  | .ok e => .ok (some e)
  | .error .nameTooLong => .error (.refused .nameTooLong p.text)
  | .error _ => .ok none

/-- Whether a path leads to anything. -/
def contains (d : Disk) (p : Path) : Except Fault Bool := do .ok (← d.find? p).isSome

/-- Whether a path leads to a directory. -/
def isDirectory (d : Disk) (p : Path) : Except Fault Bool := do
  match ← d.find? p with
  | some .directory => .ok true
  | _ => .ok false

/-- Whether a path leads to a file. -/
def isFile (d : Disk) (p : Path) : Except Fault Bool := do
  match ← d.find? p with
  | some (.file _) => .ok true
  | _ => .ok false

/-! ## 2.  Reading -/

/-- The bytes of a file. -/
def readBytes (d : Disk) (p : Path) : Except Fault ByteArray :=
  match d.find p with
  | .ok (.file bytes) => .ok bytes
  | .ok .directory => .error (.refused .isDirectory p.text)
  | .error why => .error (.refused why p.text)

/-- The text of a file. -/
def readText (d : Disk) (p : Path) : Except Fault Text := do
  let bytes ← d.readBytes p
  match Text.ofFile bytes with
  | .ok t => .ok t
  | .error u => .error (.undecodable u)

/-- The text of a file, if there is one that can be read.  Only a path with a null character cannot
be asked for. -/
def readText? (d : Disk) (p : Path) : Except Fault (Option Text) :=
  match d.readText p with
  | .ok t => .ok (some t)
  | .error (.refused .nullCharacter path) => .error (.refused .nullCharacter path)
  | .error _ => .ok none

/-- The text of a file that must exist. -/
def readExisting (d : Disk) (p : Path) : Except Fault Text := do
  if ← d.contains p then d.readText p else .error (.noFile p.text)

/-- Whether a text comes before another one, character by character. -/
def comesBefore : Text → Text → Bool
  | [], _ => true
  | _ :: _, [] => false
  | a :: s, b :: t => a < b || (a = b && comesBefore s t)

/-- Puts a name in its place among ordered names. -/
def putInOrder (name : Text) : List Text → List Text
  | [] => [name]
  | n :: ns => if comesBefore name n then name :: n :: ns else n :: putInOrder name ns

/-- The names in a directory, in order. -/
def names (d : Disk) (p : Path) : List Text :=
  match d.locate p with
  | .error _ => []
  | .ok l =>
    let front : Text := if l.isEmpty then ['/'] else Location.key l ++ ['/']
    let found := d.entries.keys.filterMap fun key =>
      match Text.after? front key with
      | some name => if name.isEmpty || '/' ∈ name then none else some name
      | none => none
    found.foldr putInOrder []

/-! ## 3.  Writing -/

/-- A disk with an entry at a location. -/
def put (d : Disk) (l : Location) (e : Entry) : Disk :=
  { d with entries := d.entries.insert l.key e }

/-- Makes a file of the given bytes in a directory that exists. -/
def writeBytes (d : Disk) (p : Path) (bytes : ByteArray) : Except Fault Disk :=
  match d.locate p with
  | .error why => .error (.refused why p.text)
  | .ok l =>
    match d.at? l, d.at? l.dropLast with
    | some .directory, _ => .error (.refused .isDirectory p.text)
    | _, some .directory => .ok (d.put l (.file bytes))
    | _, some (.file _) => .error (.refused .notDirectory p.text)
    | _, none => .error (.refused .noEntry p.text)

/-- Makes a file of the given text in a directory that exists. -/
def writeText (d : Disk) (p : Path) (t : Text) : Except Fault Disk :=
  d.writeBytes p (Text.encode t)

/-- Makes one directory in a directory that exists. -/
def makeOne (d : Disk) (p : Path) : Except Refusal Disk :=
  match d.locate p with
  | .error why => .error why
  | .ok l =>
    match d.at? l, d.at? l.dropLast with
    | some _, _ => .error .exists
    | none, some .directory => .ok (d.put l .directory)
    | none, some (.file _) => .error .notDirectory
    | none, none => .error .noEntry

/-- A refusal to make a directory does not matter if there is one. -/
def settle (d : Disk) (p : Path) (why : Refusal) : Except Fault Unit := do
  if ← d.isDirectory p then .ok () else .error (.refused why p.text)

/-- Makes a directory, unless there is one, and up to `n` directories above it.  Directories that
have been made stay, even if the attempt fails further down. -/
def makeWithin : Nat → Disk → Path → Disk × Except Fault Unit
  | 0, d, p => (d, .error (.refused .noEntry p.text))
  | n + 1, d, p =>
    match d.makeOne p with
    | .ok d' => (d', .ok ())
    | .error .noEntry =>
      if p.parts.isEmpty then (d, .error (.refused .noEntry p.text))
      else
        match makeWithin n d p.parent with
        | (d', .error f) => (d', .error f)
        | (d', .ok ()) =>
          match d'.makeOne p with
          | .ok d'' => (d'', .ok ())
          | .error why => (d', settle d' p why)
    | .error why => (d, settle d p why)

/-- Makes a directory with those above it, unless there is one. -/
def makeDirectory (d : Disk) (p : Path) : Disk × Except Fault Unit :=
  makeWithin (p.parts.length + 1) d p

/-- Writes a text to a file, after making the directories above it. -/
def save (d : Disk) (p : Path) (t : Text) : Disk × Except Fault Unit :=
  match d.makeDirectory p.parent with
  | (d', .error f) => (d', .error f)
  | (d', .ok ()) =>
    match d'.writeText p t with
    | .ok d'' => (d'', .ok ())
    | .error f => (d', .error f)

/-- Writes a text to a file, whether there is one already or not. -/
def overwrite (d : Disk) (p : Path) (t : Text) : Disk × Except Fault Unit :=
  match d.contains p with
  | .error f => (d, .error f)
  | .ok _ => d.save p t

/-- Writes a text to a file unless there is something already. -/
def saveNew (d : Disk) (p : Path) (t : Text) : Disk × Except Fault Bool :=
  match d.contains p with
  | .error f => (d, .error f)
  | .ok true => (d, .ok false)
  | .ok false =>
    match d.save p t with
    | (d', .ok ()) => (d', .ok true)
    | (d', .error f) => (d', .error f)

/-! ## 4.  Comparing -/

/-- Whether a file of these bytes is at a location. -/
def holds (d : Disk) (key : Text) (bytes : ByteArray) : Bool :=
  match d.entries.get? key with
  | some (.file old) => old.data = bytes.data
  | _ => false

/-- The files that an earlier disk does not hold, by their locations. -/
def changedSince (d earlier : Disk) : List (Text × ByteArray) :=
  d.entries.entries.filterMap fun (key, e) =>
    match e with
    | .file bytes => if earlier.holds key bytes then none else some (key, bytes)
    | .directory => none

/-- A file counts as changed exactly if it is there and was not there before. -/
theorem mem_changedSince {d earlier : Disk} {key : Text} {bytes : ByteArray} :
    (key, bytes) ∈ d.changedSince earlier ↔
      (key, Entry.file bytes) ∈ d.entries.entries ∧ earlier.holds key bytes = false := by
  simp only [changedSince, List.mem_filterMap]
  constructor
  · rintro ⟨⟨k, e⟩, h, eq⟩
    cases e with
    | directory => simp at eq
    | file b =>
      by_cases held : earlier.holds k b
      · simp [held] at eq
      · simp [held] at eq
        obtain ⟨rfl, rfl⟩ := eq
        exact ⟨h, by simpa using held⟩
  · rintro ⟨h, held⟩
    exact ⟨(key, .file bytes), h, by simp [held]⟩

end Disk

end UiHarness
