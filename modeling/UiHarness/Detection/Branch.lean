import UiHarness.Detection
import UiHarness.Session

/-!
# Detection on a branch

The new units of a branch are those of the files that were added since the base branch.
-/

namespace UiHarness.Detection

/-- The new units for added files, in a session. -/
def ofFiles (s : Settings) (added : List Text) : Job Detection := do
  let d ← Job.disk
  Job.report (fromFiles d s added)

/-- The new units of the current branch. -/
def ofBranch (s : Settings) : Job Detection := do
  let directory ← Job.ofExcept s.workspace?
  let changes ← Job.changes s.baseBranch.display directory
  ofFiles s changes.added

end UiHarness.Detection
