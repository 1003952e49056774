import UiHarness.Fault

/-!
# Reports

A step may report lines to the user while it works, and may fail.  What was reported before a
failure stays reported.
-/

namespace UiHarness

/-- A step that reports lines and may fail. -/
abbrev Reporting (α : Type) := ExceptT Fault (StateM (List Text)) α

namespace Reporting

/-- Reports a line. -/
def say (line : Text) : Reporting Unit := modify fun lines => lines ++ [line]

/-- Reports a line if a condition holds. -/
def sayIf (condition : Bool) (line : Text) : Reporting Unit :=
  if condition then say line else pure ()

/-- The lines that a step reports, and its result. -/
def outcome {α : Type} (step : Reporting α) : List Text × Except Fault α :=
  let (result, lines) := step.run.run []
  (lines, result)

/-- A result without lines. -/
def ofExcept {α : Type} (result : Except Fault α) : Reporting α := ExceptT.mk (pure result)

end Reporting

/-- Lines as they are written. -/
def linesText (lines : List Text) : Text := lines.flatMap (· ++ ['\n'])

end UiHarness
