import UiHarness.Fence
import UiHarness.Prompt.Analysis
import UiHarness.Prompt.Interactor
import UiHarness.Prompt.Test
import UiHarness.Session

/-!
# Generation

For a unit an analysis is asked for, its sources are given hooks, and then an interactor and a test
are asked for, which are written at the end together with the changed sources.  A step that fails
ends the work on its unit: nothing is written unless all steps before the writing have succeeded.
Units are taken one after the other, and the failure of one does not touch the others.

* `Generation.analyze`: the analysis of a unit.
* `Generation.serve`: all steps for one unit.
* `Generation.ofUnit`: what comes of a unit.
* `Generation.ofUnits`: what comes of several units.
-/

namespace UiHarness

/-- An analysis of a unit. -/
inductive Analysis
  | widget (a : WidgetAnalysis)
  | page (a : PageAnalysis)

/-- What is told of an analysis in a result. -/
def Analysis.summary : Analysis → Value
  | widget a => a.summary
  | page a => a.summary

/-- Whether an analysis was made from words that the sources hold. -/
def Analysis.isFromWords : Analysis → Bool
  | widget a => a.reasoning = Payload.keywordReasoning
  | page a => a.reasoning = Payload.keywordReasoning

/-- The payload of an analysis. -/
def Analysis.toPayload : Analysis → Value
  | widget a => a.toPayload
  | page a => a.toPayload

/-- What was made for a unit. -/
structure Served where
  analysis : Analysis
  hooks : Hook.Summary
  paths : Artifact.Paths

/-- What came of a unit. -/
structure Generation where
  unit : UiUnit
  outcome : Except Fault Served

namespace Generation

/-- Whether a unit was served. -/
def succeeded (g : Generation) : Bool :=
  match g.outcome with
  | .ok _ => true
  | .error _ => false

/-- Why a unit was not served; empty if it was. -/
def error (g : Generation) : Text :=
  match g.outcome with
  | .ok _ => []
  | .error f => f.message

/-! ## 1.  Analyses -/

/-- The analysis that a reply tells, or else the one from words. -/
def analysisOf (u : UiUnit) (reply : Text) : Except Fault Analysis := do
  let payload := (← Fence.json reply).getD .null
  if u.isPage then
    match ← PageAnalysis.ofPayload? payload with
    | some a => .ok (.page a)
    | none => .ok (.page (.ofWords u u.allText))
  else
    match WidgetAnalysis.ofPayload? payload with
    | some a => .ok (.widget a)
    | none => .ok (.widget (.ofWords u.allText))

/-- The analysis of a unit. -/
def analyze (m : ModelSettings) (u : UiUnit) : Job Analysis := do
  let reply ← Job.request m (Prompt.analysisRole u) (Prompt.analysis u) m.analysisMaxTokens
  Job.ofExcept (analysisOf u reply)

/-- A truth value in a report. -/
def shown (b : Bool) : Text := (Value.bool b).display

/-- Reports an analysis. -/
def reportAnalysis : Analysis → Job Unit
  | .page a => do
    Job.say
      ("  Analysis: tabs=" ++ shown a.hasTabs ++ ", externalLinks=" ++ shown a.hasExternalLinks)
    if a.tabs.isEmpty then return
    Job.say ("  Tabs: " ++ (← Job.ofExcept (Value.joined ", " (a.tabs.map Tab.name))))
  | .widget a =>
    Job.say ("  Analysis: table=" ++ shown a.hasTable ++ ", chart=" ++ shown a.hasChart)

/-! ## 2.  Hooks -/

/-- Gives the sources of a unit their hooks, unless the settings say not to. -/
def giveHooks (s : Settings) (u : UiUnit) : Job (UiUnit × Hook.Summary) := do
  if s.skipsHooks.isTrue then return (u, {})
  Job.ofExcept (u.check .hooks)
  let (u', summary, reports) ← Job.report (Hook.inject u s.isDryRun s.isVerbose)
  if reports.any (0 < ·.suggestions) then Job.ofExcept (u.check .hookIds)
  Job.sayIf (s.isVerbose && 0 < summary.applied)
    ("  Added " ++ Text.ofNat summary.applied ++ " data-testid(s) in " ++
      Text.ofNat summary.modified.length ++ " file(s)")
  return (u', summary)

/-! ## 3.  Interactors and tests -/

/-- The language of generated code. -/
def language : Text := "typescript"

/-- Code from the service. -/
def code (m : ModelSettings) (role prompt : Text) : Job Text := do
  return Fence.code language (← Job.request m role prompt .null)

/-- The interactor of a unit. -/
def interactor (m : ModelSettings) (u : UiUnit) (examples : Artifact.Examples) :
    Analysis → Job Text
  | .page a => code m Prompt.pageInteractorRole (Prompt.pageInteractor u a examples)
  | .widget a => code m Prompt.widgetInteractorRole (Prompt.widgetInteractor u a examples)

/-- The test of a unit. -/
def test (m : ModelSettings) (u : UiUnit) (interactor : Text) (examples : Artifact.Examples) :
    Analysis → Job Text
  | .page a => code m Prompt.pageTestRole (Prompt.pageTest u a interactor examples)
  | .widget a => code m Prompt.widgetTestRole (Prompt.widgetTest u a interactor examples)

/-! ## 4.  Units -/

/-- All steps for a unit. -/
def serve (s : Settings) (u : UiUnit) : Job Served := do
  Job.ofExcept (u.check .analysis)
  let analysis ← analyze s.model u
  if analysis.isFromWords then Job.ofExcept (u.check .words)
  if s.isVerbose then reportAnalysis analysis
  let (u, hooks) ← giveHooks s u
  let examples ← Job.ofExcept (Artifact.examplesFor (← Job.disk) s u)
  Job.sayIf (u.isPage && s.isVerbose) "  Generating interactor..."
  let interactor ← interactor s.model u examples analysis
  Job.sayIf (u.isPage && s.isVerbose) "  Generating tests..."
  Job.ofExcept (u.check .test)
  let test ← test s.model u interactor examples analysis
  Job.ofExcept (u.check .writing)
  let paths ← Job.onDisk fun d => Artifact.write d s u interactor test hooks.modified
  if s.isVerbose && !s.isDryRun then
    Job.say ("  Written: " ++ paths.interactor.text)
    Job.say ("  Written: " ++ paths.test.text)
  return { analysis, hooks, paths }

/-- What comes of a unit. -/
def ofUnit (s : Settings) (u : UiUnit) : Job Generation := do
  match ← Job.attempt (serve s u) with
  | .ok served => return { unit := u, outcome := .ok served }
  | .error f =>
    Job.sayIf s.isVerbose ("  Error processing " ++ u.name ++ ": " ++ f.message)
    return { unit := u, outcome := .error f }

/-- What comes of a unit that is one of several, with its number. -/
def ofNumbered (s : Settings) (count number : Nat) (u : UiUnit) : Job Generation := do
  let label : Text := if u.isPage then "page" else "widget"
  Job.say
    ("[" ++ Text.ofNat number ++ ['/'] ++ Text.ofNat count ++ "] Generating tests for " ++ label ++
      " " ++ u.name ++ " (" ++ u.category ++ ")...")
  let g ← ofUnit s u
  Job.say
    (if g.succeeded then "  ✓ " ++ u.name else "  ✗ " ++ u.name ++ ": " ++ g.error)
  return g

/-- What comes of units from a number on. -/
def ofUnitsFrom (s : Settings) (count : Nat) : Nat → List UiUnit → Job (List Generation)
  | _, [] => return []
  | number, u :: us => do
    let g ← ofNumbered s count number u
    return g :: (← ofUnitsFrom s count (number + 1) us)

/-- What comes of several units, one after the other. -/
def ofUnits (s : Settings) (us : List UiUnit) : Job (List Generation) :=
  ofUnitsFrom s us.length 1 us

end Generation

end UiHarness
