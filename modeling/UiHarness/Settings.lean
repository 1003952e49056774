import UiHarness.Disk
import UiHarness.Value

/-!
# Settings

The settings say where the parts of a workspace are, which units there are, and how texts are
generated.  Each has a default.  A settings file can give any of them any value: a value of an
unexpected kind is kept as it is, and only the step that uses it finds that it cannot.

* `Settings`, `ModelSettings`: the settings, as values.
* `Settings.ofEntries`: settings from a table.
* `Settings.resolve`: a path from the settings, in the workspace.
-/

namespace UiHarness

/-- How texts are generated. -/
structure ModelSettings where
  /-- The model that writes. -/
  model : Value := .text "claude-sonnet-4-20250514"
  /-- The greatest length of generated code. -/
  maxTokens : Value := .int 4096
  /-- The greatest length of an analysis. -/
  analysisMaxTokens : Value := .int 2048
  /-- How freely the model writes. -/
  temperature : Value := .float (.ofDecimal false 2 (-1))
  /-- The environment variable that holds the key of the service. -/
  keyVariable : Value := .text "ANTHROPIC_API_KEY"

/-- The kinds of entities that widgets can belong to. -/
def defaultEntities : List String :=
  ["target", "disease", "drug", "evidence", "variant", "study", "credibleSet"]

/-- The settings of a workspace. -/
structure Settings where
  /-- The directory that the other paths start from. -/
  workspaceRoot : Value := .null
  /-- Where widgets are. -/
  sectionsRoot : Value := .text "packages/sections/src"
  /-- Where the shared UI package is. -/
  packageRoot : Value := .text "packages/ui/src"
  /-- Where the interactors of widgets go. -/
  interactorRoot : Value := .text "packages/platform-test/POM/objects/widgets"
  /-- Where the tests of widgets go. -/
  testRoot : Value := .text "packages/platform-test/e2e/pages"
  /-- The fixtures of the tests. -/
  fixturesPath : Value := .text "packages/platform-test/fixtures/testConfig.ts"
  /-- Where pages are. -/
  pagesRoot : Value := .text "apps/platform/src/pages"
  /-- Where the interactors of pages go. -/
  pageInteractorRoot : Value := .text "packages/platform-test/POM/page"
  /-- Where the tests of pages go. -/
  pageTestRoot : Value := .text "packages/platform-test/e2e/pages"
  /-- The kinds of entities that widgets can belong to. -/
  entities : Value := .list (defaultEntities.map fun e => .text e.toList)
  /-- The branch that changes are compared with. -/
  baseBranch : Value := .text "main"
  /-- Whether sources are left without hooks. -/
  skipsHooks : Value := .bool false
  /-- Whether nothing is written. -/
  dryRun : Value := .bool false
  /-- Whether progress is reported. -/
  verbose : Value := .bool false
  /-- How long a unit must be quiet before it is taken up. -/
  quietSeconds : Value := .float (.ofDecimal false 2 0)
  /-- How texts are generated. -/
  model : ModelSettings := {}

namespace ModelSettings

/-- Settings for a model from a table; other entries are ignored. -/
def ofEntries (es : List (Text × Value)) : ModelSettings :=
  let d : ModelSettings := {}
  let pick (key : Text) (default : Value) : Value := (Table.lookup key es).getD default
  { model := pick "model" d.model
    maxTokens := pick "max_tokens" d.maxTokens
    analysisMaxTokens := pick "analysis_max_tokens" d.analysisMaxTokens
    temperature := pick "temperature" d.temperature
    keyVariable := pick "api_key_env_var" d.keyVariable }

end ModelSettings

namespace Settings

/-- Settings from a table and those for a model; other entries are ignored. -/
def ofEntries (es : List (Text × Value)) (model : ModelSettings) : Settings :=
  let d : Settings := {}
  let pick (key : Text) (default : Value) : Value := (Table.lookup key es).getD default
  { workspaceRoot := pick "workspace_root" d.workspaceRoot
    sectionsRoot := pick "sections_root" d.sectionsRoot
    packageRoot := pick "ui_package_root" d.packageRoot
    interactorRoot := pick "interactor_root" d.interactorRoot
    testRoot := pick "test_root" d.testRoot
    fixturesPath := pick "fixtures_path" d.fixturesPath
    pagesRoot := pick "pages_root" d.pagesRoot
    pageInteractorRoot := pick "page_interactor_root" d.pageInteractorRoot
    pageTestRoot := pick "page_test_root" d.pageTestRoot
    entities := pick "entity_types" d.entities
    baseBranch := pick "base_branch" d.baseBranch
    skipsHooks := pick "skip_test_hooks" d.skipsHooks
    dryRun := pick "dry_run" d.dryRun
    verbose := pick "verbose" d.verbose
    quietSeconds := pick "watch_quiet_seconds" d.quietSeconds
    model }

/-- Whether progress is reported. -/
def isVerbose (s : Settings) : Bool := s.verbose.isTrue

/-- Whether nothing is written. -/
def isDryRun (s : Settings) : Bool := s.dryRun.isTrue

/-! ## 1.  Paths -/

/-- A value as a path. -/
def pathOf : Value → Except Fault Path
  | .text t => .ok (.ofText t)
  | v =>
    .error (.wrongKind
      ("expected str, bytes or os.PathLike object, not " ++ v.shortKindName))

/-- The directory of the workspace, if the settings name one. -/
def workspace? (s : Settings) : Except Fault (Option Path) :=
  if s.workspaceRoot.isTrue then do .ok (some (← pathOf s.workspaceRoot)) else .ok none

/-- A path in the workspace; an absolute one is not changed. -/
def inWorkspace (s : Settings) (p : Path) : Except Fault Path :=
  if p.isAbsolute then .ok p
  else do
    match ← s.workspace? with
    | some root => .ok (root.join p)
    | none => .ok p

/-- A path from the settings, in the workspace. -/
def resolve (s : Settings) (v : Value) : Except Fault Path := do
  let p ← pathOf v
  s.inWorkspace p

/-- Whether a value is one of those that another value holds. -/
def holds (v : Value) (entity : Text) : Except Fault Bool :=
  match v with
  | .list vs => .ok (vs.any fun v => v.text? = some entity)
  | .table es => .ok (es.any fun e => e.1 = entity)
  | .text t => .ok (Text.contains t entity)
  | v => .error (.wrongKind ("argument of type '" ++ v.kindName ++ "' is not iterable"))

end Settings

end UiHarness
