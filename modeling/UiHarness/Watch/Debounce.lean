import UiHarness.Fault
import UiHarness.Path

/-!
# Debouncing

A unit is usually written as several files.  The events of its files are grouped by a key, and a
group is handed over only when it has been quiet for some time: each event of a group puts its
latest file and the present time in the place of what was there.  What is handed over is no longer
pending, so every burst of events is handed over once.

* `Debounce.record`, `Debounce.receive`: an event.
* `Debounce.settled`, `Debounce.remaining`: what is handed over, and what stays pending.
-/

namespace UiHarness

/-- What happens to files and directories. -/
inductive FileEvent
  | created (path : Text)
  | directoryCreated (path : Text)
  | moved (source target : Text)
  | directoryMoved (source target : Text)
  deriving DecidableEq, Repr

/-- The path of the file that an event brings.  Directories bring none. -/
def FileEvent.file? : FileEvent → Option Text
  | created path => some path
  | moved _ target => some target
  | directoryCreated _ => none
  | directoryMoved _ _ => none

/-- The path of the file that an event brings, if its name has one of some ends. -/
def FileEvent.accepted? (ends : List Text) (e : FileEvent) : Option Text :=
  e.file?.filter fun path => ends.any (Text.endsWith path ·)

/-- The latest file of a group and the time of its event. -/
structure Burst where
  path : Path
  seen : Binary64
  deriving DecidableEq, Repr

/-- The groups that are waiting, by their keys. -/
abbrev Debounce := Table Burst

namespace Debounce

/-- Whether a time without events is long enough. -/
def isQuiet (quiet : Value) (elapsed : Binary64) : Except Fault Bool :=
  match quiet with
  | .float x => .ok (x.le elapsed)
  | .int n => .ok (Binary64.intLe n elapsed)
  | .bool b => .ok (Binary64.intLe (if b then 1 else 0) elapsed)
  | v =>
    .error (.wrongKind
      ("'>=' not supported between instances of 'float' and '" ++ v.kindName ++ ['\'']))

/-- An event for a group: its latest file and time are replaced. -/
def record (b : Debounce) (key : Text) (path : Path) (now : Binary64) : Debounce :=
  b.insert key ⟨path, now⟩

/-- Takes in an event: a file of interest is recorded in the group of its key. -/
def receive (ends : List Text) (keyOf : Path → Except Fault Text) (now : Binary64) (b : Debounce)
    (e : FileEvent) : Except Fault Debounce :=
  match e.accepted? ends with
  | none => .ok b
  | some path => do
    let p := Path.ofText path
    .ok (b.record (← keyOf p) p now)

/-- The keys of the groups that have been quiet for long enough. -/
def settledKeys (quiet : Value) (now : Binary64) : List (Text × Burst) → Except Fault (List Text)
  | [] => .ok []
  | (key, burst) :: rest => do
    let isSettled ← isQuiet quiet (now.sub burst.seen)
    let keys ← settledKeys quiet now rest
    .ok (if isSettled then key :: keys else keys)

/-- The files of the groups with some keys. -/
def settled (b : Debounce) (keys : List Text) : List Path :=
  (b.filter (· ∈ keys)).values.map Burst.path

/-- The groups without those of some keys. -/
def remaining (b : Debounce) (keys : List Text) : Debounce := b.filter (· ∉ keys)

/-- Hands over what has settled: its files, and what stays pending. -/
def flush (b : Debounce) (quiet : Value) (now : Binary64) :
    Except Fault (List Path × Debounce) := do
  let keys ← settledKeys quiet now b.entries
  .ok (b.settled keys, b.remaining keys)

/-- Every group is either handed over or stays pending. -/
theorem mem_keys_remaining_iff (b : Debounce) (keys : List Text) (key : Text) :
    key ∈ (b.remaining keys).keys ↔ key ∈ b.keys ∧ key ∉ keys := by
  simp [remaining, Table.keys_filter]

end Debounce

end UiHarness
