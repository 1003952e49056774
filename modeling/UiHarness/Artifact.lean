import UiHarness.Settings
import UiHarness.UiUnit
import UiHarness.UnitName

/-!
# Artifacts

For each unit an interactor and a test are generated.  Where they go follows from the settings and
from the name and the category of the unit.  When they are written, the sources that got hooks are
written back too, and before them.
-/

namespace UiHarness.Artifact

/-- Where the generated files of a unit go. -/
structure Paths where
  interactor : Path
  test : Path
  deriving DecidableEq, Repr

/-- Where the generated files of a unit go. -/
def pathsOf (s : Settings) (u : UiUnit) : Except Fault Paths := do
  if u.isPage then
    let interactors ← s.resolve s.pageInteractorRoot
    let tests ← s.resolve s.pageTestRoot
    .ok {
      interactor := (interactors.child u.category).child (UnitName.interactorStem u.name ++ ".ts")
      test := (tests.child u.category).child (UnitName.lowerFirst u.name ++ ".spec.ts") }
  else
    let interactors ← s.resolve s.interactorRoot
    let tests ← s.resolve s.testRoot
    .ok {
      interactor := (interactors.child u.name).child (UnitName.lowerFirst u.name ++ "Section.ts")
      test := (tests.child u.category).child (Text.lower u.name ++ ".spec.ts") }

/-- Whether one of the generated files of a unit exists. -/
def exist (d : Disk) (s : Settings) (u : UiUnit) : Except Fault Bool := do
  let paths ← pathsOf s u
  if ← d.contains paths.interactor then .ok true else d.contains paths.test

/-! ## 1.  Examples -/

/-- Files that show what generated code looks like. -/
structure Examples where
  interactor : Text := []
  test : Text := []
  fixtures : Text := []
  deriving DecidableEq, Repr

/-- The examples for a unit; a file that cannot be read shows nothing. -/
def examplesFor (d : Disk) (s : Settings) (u : UiUnit) : Except Fault Examples := do
  let read (p : Path) : Except Fault Text := do .ok ((← d.readText? p).getD [])
  if u.isPage then
    let interactors ← s.resolve s.pageInteractorRoot
    let tests ← s.resolve s.pageTestRoot
    .ok {
      interactor := ← read ((interactors.child "target").child "target.ts")
      test := ← read ((tests.child "target").child "targetPage.spec.ts") }
  else
    let interactors ← s.resolve s.interactorRoot
    let tests ← s.resolve s.testRoot
    let fixtures ← s.resolve s.fixturesPath
    .ok {
      interactor := ← read ((interactors.child "KnownDrugs").child "knownDrugsSection.ts")
      test := ← read ((tests.child "drug").child "drugIndications.spec.ts")
      fixtures := ← read fixtures }

/-! ## 2.  Writing -/

/-- The first key of a table with a value. -/
def keyOf? (value : Text) : List (Text × Text) → Option Text
  | [] => none
  | (k, v) :: rest => if v = value then some k else keyOf? value rest

/-- Writes texts to files, one after the other, up to the first failure. -/
def saveAll (d : Disk) : List (Path × Text) → Disk × Except Fault Unit
  | [] => (d, .ok ())
  | (p, t) :: rest =>
    match d.overwrite p t with
    | (d', .ok ()) => saveAll d' rest
    | (d', .error f) => (d', .error f)

/-- The text of the source that a path belongs to: the first one of that path. -/
def sourceAt (u : UiUnit) (path : Text) : Except Fault (Option Text) :=
  match keyOf? path u.paths.entries with
  | none => .ok none
  | some key =>
    match u.sources.get? key with
    | some t => .ok (some t)
    | none => .error (.noKey key)

/-- Writes back the sources of the given paths, one after the other, up to the first failure. -/
def saveSources (d : Disk) (u : UiUnit) : List Text → Disk × Except Fault Unit
  | [] => (d, .ok ())
  | path :: rest =>
    match sourceAt u path with
    | .error f => (d, .error f)
    | .ok none => saveSources d u rest
    | .ok (some t) =>
      match d.overwrite (.ofText path) t with
      | (d', .ok ()) => saveSources d' u rest
      | (d', .error f) => (d', .error f)

/-- Writes the generated files of a unit and its changed sources, unless nothing is to be
written. -/
def write (d : Disk) (s : Settings) (u : UiUnit) (interactor test : Text) (modified : List Text) :
    Disk × Except Fault Paths :=
  match pathsOf s u with
  | .error f => (d, .error f)
  | .ok paths =>
    if s.isDryRun then (d, .ok paths)
    else
      match saveSources d u modified with
      | (d', .error f) => (d', .error f)
      | (d', .ok ()) =>
        match saveAll d' [(paths.interactor, interactor), (paths.test, test)] with
        | (d'', .error f) => (d'', .error f)
        | (d'', .ok ()) => (d'', .ok paths)

end UiHarness.Artifact
