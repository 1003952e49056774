import UiHarness.Command.Options
import UiHarness.Command.Summary
import UiHarness.Detection.Branch
import UiHarness.Settings.File
import UiHarness.UnitsFile
import UiHarness.Watch

/-!
# Running commands

A command is run with the settings of the settings file, which the options override.  It ends with
an exit code: zero if all went well or the user stopped the program, and one otherwise.

* `Options.run`: a command, with everything that can go wrong.
* `Options.exitCode`: the exit code of a command; what went wrong is reported.
* `Command.main`: the program, from its arguments on.
-/

namespace UiHarness

/-! ## 1.  Settings -/

/-- A setting that an option may switch on. -/
def Value.orSwitched (v : Value) (isOn : Bool) : Value := if v.isTrue then v else .bool isOn

/-- A text that is chosen and not empty. -/
def Options.given (c : Choice) : Option Text := c.join.filter fun t => !t.isEmpty

/-- The settings with what the options override. -/
def Options.override (o : Options) (s : Settings) : Settings :=
  { s with
    baseBranch := ((Options.given o.baseBranch).map Value.text).getD s.baseBranch
    verbose := .orSwitched s.verbose o.verbose
    dryRun := .orSwitched s.dryRun o.dryRun
    skipsHooks := .orSwitched s.skipsHooks o.skipsHooks }

/-- The settings of the settings file with what the options override. -/
def Options.settings (o : Options) : Job Settings := do
  let d ← Job.disk
  let path := ((Options.given o.config).map Path.ofText).getD ⟨"/", d.here⟩
  return o.override (← Job.ofExcept (Settings.read d path))

/-! ## 2.  Commands -/

/-- Generates for some units and reports what came of them. -/
def Generation.reported (s : Settings) (us : List UiUnit) : Job (List Generation) := do
  if us.isEmpty then
    Job.say "No widgets or pages to process."
    return []
  Job.say ("Generating tests for " ++ Text.ofNat us.length ++ " unit(s)...\n")
  let gs ← Generation.ofUnits s us
  (Generation.summaryLines gs s.isDryRun).forM Job.say
  return gs

/-- Saves detected units in a file. -/
def UnitsFile.save (found : Detection) (path : Path) : Job Unit := do
  Job.onDisk fun d => d.save path (UnitsFile.text found)
  Job.say ("\nSaved unit info to " ++ path.text)

/-- Reports the branch that is worked on. -/
def Settings.reportBranch (s : Settings) : Job Unit := do
  let directory ← Job.ofExcept s.workspace?
  if ← Job.hasRepository directory then
    let branch ← Job.currentBranch directory
    Job.say ("Branch: " ++ branch ++ " (base: " ++ s.baseBranch.display ++ [')'])
  else Job.say "Warning: not inside a git repository; no changes will be detected."

/-- Generates for the unit of a file that has appeared: whether all went well. -/
def Generation.ofFile (s : Settings) (p : Path) : Job Bool := do
  let path ← Job.ofExcept (Watch.relative s (← Job.disk).here p)
  let found ← Detection.ofFiles s [path]
  let gs ← Generation.reported s found.units
  return gs.all Generation.succeeded

/-- The units that a command is to generate for. -/
def Options.units (o : Options) (s : Settings) : Job (List UiUnit) := do
  match Options.given o.unitsFile with
  | some path =>
    return (← Job.ofExcept (UnitsFile.read (← Job.disk) (.ofText path))).map UnitEntry.toUnit
  | none => return (← Detection.ofBranch s).units

/-- Runs a command: its exit code. -/
def Options.run (o : Options) (looks : List Watch.Look) : Job Nat := do
  let s ← o.settings
  if s.isVerbose then s.reportBranch
  match o.command with
  | .detect =>
    let found ← Detection.ofBranch s
    (found.lines s.isVerbose).forM Job.say
    match Options.given o.outputFile with
    | some path => UnitsFile.save found (.ofText path)
    | none => pure ()
    return 0
  | .generate =>
    let gs ← Generation.reported s (← o.units s)
    return if gs.all Generation.succeeded then 0 else 1
  | .watch =>
    Watch.run s (Generation.ofFile s) looks
    return 0

/-! ## 3.  Exit codes -/

/-- The exit code of a command; what went wrong is reported. -/
def Options.exitCode (o : Options) (looks : List Watch.Look) : Job Nat :=
  tryCatch (o.run looks) fun f =>
    match f with
    | .interrupted => return 0
    | .settings m => do
      Job.say ("Error: " ++ m)
      return 1
    | f => do
      Job.say ("Unexpected error: " ++ f.message)
      return 1

/-- The exit code of a program that stops before its work. -/
def EarlyEnd.exitCode : EarlyEnd → Job Nat
  | .help => return 0
  | .version => do
    Job.say Options.version
    return 0
  | .misuse => return 2

/-- The program, from its arguments on: its exit code. -/
def Command.main (arguments : List Text) (looks : List Watch.Look) : Job Nat :=
  match Options.parse arguments with
  | .ok o => o.exitCode looks
  | .error e => e.exitCode

end UiHarness
