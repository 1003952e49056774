import UiHarness.Main
import UiHarness.Proofs.Generation.Placement
import UiHarness.Proofs.Generation.Sharing
import UiHarness.Proofs.Syntax.Edit
import UiHarness.Proofs.Hook.Identifier
import UiHarness.Proofs.Hook.Rereading
import UiHarness.Proofs.Hook.Progress
import UiHarness.Proofs.Hook.Repetition
import UiHarness.Proofs.Artifact.Failure
import UiHarness.Proofs.Generation.Effects
import UiHarness.Proofs.Generation.Analysis
import UiHarness.Proofs.Generation.Delivery
import UiHarness.Proofs.Hook.Clashes
import UiHarness.Proofs.Watch.Debounce
import UiHarness.Proofs.Detection.Grouping
import UiHarness.Proofs.Detection.Exactness
import UiHarness.Proofs.Generation.Idempotence
import UiHarness.Proofs.Generation.Isolation
import UiHarness.Proofs.Generation.Prompts
import UiHarness.Proofs.UnitsFile
import UiHarness.Proofs.Hook.Naming
import UiHarness.Proofs.Hook.Account
import UiHarness.Proofs.Hook.Broken
import UiHarness.Proofs.Hook.Alias
import UiHarness.Proofs.Generation.Fenced
import UiHarness.Proofs.Generation.Marks
import UiHarness.Proofs.Analysis.Retraction
import UiHarness.Proofs.UnitsFile.Outcome
import UiHarness.Proofs.Settings.Outcome
import UiHarness.Proofs.Source.Widget
import UiHarness.Proofs.Source.Resolution
import UiHarness.Proofs.Source.Kept
import UiHarness.Proofs.Watch.Callback
import UiHarness.Proofs.Imports.Occurrences
import UiHarness.Proofs.Git
import UiHarness.Proofs.Hook.Kebab
import UiHarness.Proofs.Detection.Declared
import UiHarness.Proofs.Syntax.Insertions
import UiHarness.Proofs.Syntax.Visits
import UiHarness.Proofs.Hook.Once
import UiHarness.Proofs.Prompt.Sections
