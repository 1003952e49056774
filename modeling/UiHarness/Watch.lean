import UiHarness.Detection
import UiHarness.Session
import UiHarness.Watch.Debounce

/-!
# Watching

In watch mode the roots of widgets and of pages are watched, and units are generated when their
files appear.  The files of one unit make one group of events.  The watcher looks again and again;
between two looks time passes, files are saved, and events come in.  When there is nothing more to
look at, the user has stopped it.

* `Watch.relative`: a path as the repository has it.
* `Watch.key`: the group that a file belongs to.
* `Watch.roots`: the directories that are watched.
* `Watch.run`: watching.
-/

namespace UiHarness.Watch

/-! ## 1.  Places -/

/-- A path as the repository has it: behind the root of the workspace, if it is inside.  With a null
character a path is inside of nothing. -/
def relative (s : Settings) (here : Location) (p : Path) : Except Fault Text := do
  let root := (← s.workspace?).getD ⟨"/", here⟩
  if '\x00' ∈ p.text ++ root.text then return p.text
  match (p.resolved here).relativeTo? (root.resolved here) with
  | some parts => .ok (Path.text ⟨[], parts⟩)
  | none => .ok p.text

/-- The group that a file belongs to: its unit, or the file alone. -/
def key (s : Settings) (here : Location) (p : Path) : Except Fault Text := do
  let path ← relative s here p
  .ok ((← Detection.unitRoot? s path).getD path)

/-- The directories that are watched. -/
def roots (s : Settings) (d : Disk) : Except Fault (List Path) := do
  let sections ← s.resolve s.sectionsRoot
  let pages ← s.resolve s.pagesRoot
  [sections, pages].filterM d.isDirectory

/-! ## 2.  Looks -/

/-- What happens before the watcher looks. -/
structure Look where
  /-- The time in seconds. -/
  now : Binary64
  /-- The time of day as it is shown. -/
  timeOfDay : Text := "HH:MM:SS"
  /-- What happens to the files. -/
  files : Disk → Disk := id
  events : List FileEvent := []

/-- Records an event in the group of its file. -/
def deliver (s : Settings) (here : Location) (now : Binary64) (b : Debounce) (e : FileEvent) :
    Except Fault Debounce :=
  b.receive Source.extensions (key s here) now e

/-- Takes up a unit by its latest file, and reports what came of it. -/
def takeUp (process : Path → Job Bool) (timeOfDay : Text) (p : Path) : Job Unit := do
  let stamp : Text := ['['] ++ timeOfDay ++ "] "
  Job.say (stamp ++ "Detected new files near " ++ p.text ++ " -> generating...")
  match ← Job.attempt (process p) with
  | .ok true => Job.say (stamp ++ "✓ Generation finished for " ++ p.parent.name)
  | .ok false => Job.say (stamp ++ "✗ Generation reported failures for " ++ p.parent.name)
  | .error f => Job.say (stamp ++ "✗ Error processing " ++ p.text ++ ": " ++ f.message)

/-- One look: the events are recorded, and what has settled is taken up. -/
def look (s : Settings) (process : Path → Job Bool) (b : Debounce) (l : Look) : Job Debounce := do
  Job.onDisk fun d => (l.files d, .ok ())
  let here := (← Job.disk).here
  let b ← Job.ofExcept (l.events.foldlM (deliver s here l.now) b)
  let (ready, b) ← Job.ofExcept (b.flush s.quietSeconds l.now)
  ready.forM (takeUp process l.timeOfDay)
  return b

/-- All looks, until the user stops. -/
def looks (s : Settings) (process : Path → Job Bool) : Debounce → List Look → Job Unit
  | _, [] => throw .interrupted
  | b, l :: ls => do
    let b ← look s process b l
    looks s process b ls

/-- Whether a job ends because the user stops the program. -/
def isStopped (job : Job Unit) : Job Bool :=
  ExceptT.mk fun session =>
    match job.outcome session with
    | (.ok (), after) => (.ok false, after)
    | (.error f, after) => (if f.stopsAll then .ok true else .error f, after)

/-- Watches, and takes up each unit that settles, until the user stops. -/
def run (s : Settings) (process : Path → Job Bool) (ls : List Look) : Job Unit := do
  let found ← Job.ofExcept (roots s (← Job.disk))
  if found.isEmpty then
    Job.say "Nothing to watch: neither the sections root nor the pages root exists."
  else
    found.forM fun root => Job.observe (.root root.text)
    Job.say
      ("Watching " ++ Text.join ", " (found.map Path.text) ++ " for new widgets and pages...")
    Job.say "Press Ctrl+C to stop watching."
    Job.say []
    Job.observe .start
    if ← isStopped (looks s process Table.empty ls) then
      Job.say "\n\nStopping watch mode..."
      Job.observe .stop
    Job.observe .join
    Job.say "Watch mode stopped."

end UiHarness.Watch
