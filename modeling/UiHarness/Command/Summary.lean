import UiHarness.Generation
import UiHarness.Detection

/-!
# What commands report

The lines that tell of detected units and of generated files.
-/

namespace UiHarness

/-! ## 1.  Detected units -/

/-- The lines for a detected unit. -/
def UiUnit.lines (u : UiUnit) (verbose : Bool) : List Text :=
  let first : Text := "  + " ++ u.name ++ " (" ++ u.kind.text ++ ", " ++ u.category ++ [')']
  if verbose then
    let more : List Text := [
      "      Path:  " ++ u.root,
      "      Files: " ++ Text.join ", " u.sources.keys]
    let route : List Text :=
      match u.route with
      | some (c :: r) => ["      Route: " ++ c :: r]
      | _ => []
    first :: more ++ route
  else [first]

/-- The lines for detected units. -/
def Detection.lines (found : Detection) (verbose : Bool) : List Text :=
  if found.units.isEmpty then ["No new widgets or pages detected."]
  else
    ("Found " ++ Text.ofNat found.widgets.length ++ " new widget(s) and " ++
      Text.ofNat found.pages.length ++ " new page(s):\n") ::
      found.units.flatMap (UiUnit.lines · verbose)

/-! ## 2.  Generated files -/

namespace Generation

/-- How many hooks the sources of a unit got. -/
def hooksGiven (g : Generation) : Nat :=
  match g.outcome with
  | .ok served => served.hooks.applied
  | .error _ => 0

/-- The lines for the files of a unit. -/
def fileLines (g : Generation) : List Text :=
  match g.outcome with
  | .ok served => [
      "  ✓ " ++ g.unit.name ++ ": " ++ served.paths.interactor.text,
      "  ✓ " ++ g.unit.name ++ ": " ++ served.paths.test.text]
  | .error _ => []

/-- The line for a unit that was not served. -/
def failureLine (g : Generation) : Text :=
  "  ✗ " ++ g.unit.name ++ " (" ++ g.unit.category ++ "): " ++ g.error

/-- The lines for all units. -/
def summaryLines (gs : List Generation) (trial : Bool) : List Text :=
  let served := gs.filter succeeded
  let failed := gs.filter fun g => !g.succeeded
  let counts : List Text := [
    "\nWidgetSmith Batch Summary",
    "─────────────────────────",
    "Processed " ++ Text.ofNat gs.length ++ " unit(s)" ++
      (if trial then (" [DRY RUN]" : Text) else []),
    "Succeeded: " ++ Text.ofNat served.length,
    "Test hooks added: " ++ Text.ofNat (served.foldl (fun n g => n + g.hooksGiven) 0)]
  let errors : List Text :=
    if failed.isEmpty then [] else ["Errors:    " ++ Text.ofNat failed.length ++ " unit(s) failed"]
  let files : List Text :=
    if served.isEmpty then [] else ("\nGenerated:" : Text) :: served.flatMap fileLines
  let failures : List Text :=
    if failed.isEmpty then [] else ("\nFailures:" : Text) :: failed.map failureLine
  counts ++ errors ++ files ++ failures

end Generation

end UiHarness
