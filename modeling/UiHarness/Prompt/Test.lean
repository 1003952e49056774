import UiHarness.Artifact
import UiHarness.Prompt.Section
import UiHarness.Text.Word

/-!
# Prompts for tests

What the service is told and asked when it is to write the test of a unit, and the name of the
class that the test has to use.
-/

namespace UiHarness.Prompt

/-! ## 1.  Widgets -/

/-- What the service is told about tests of widgets. -/
def widgetTestRole : Text :=
  lines [
    "You are an expert QA engineer specializing in Playwright end-to-end testing.",
    "Write comprehensive, maintainable test suites.",
    "",
    "CRITICAL RULES:",
    "- ONLY write tests for UI elements that ACTUALLY EXIST",
    "- Import test and expect from \"../../../fixtures\" (NOT from @playwright/test)",
    "- Use testConfig fixture for entity IDs"]

/-- What is asked for the test of a widget. -/
def widgetTest (u : UiUnit) (a : WidgetAnalysis) (interactor : Text)
    (examples : Artifact.Examples) : Text :=
  paragraphs [
    titled "Task"
      "Generate a Playwright test file. ONLY include tests for features that exist.",
    widgetInfo u,
    widgetFindings a,
    titled "Widget Source Code" <| widgetSources u,
    titled "Generated Interactor" <| fenced "typescript" interactor,
    titled "Example Test (reference only)" <| fenced "typescript" examples.test,
    titled "Test Config Fixtures" <| fenced "typescript" examples.fixtures,
    "Generate the TypeScript test file:"]

/-! ## 2.  Classes -/

/-- The name of an exported class. -/
def exportedClass? (t : Text) : Option (Text × Text) := do
  let r ← Text.after? "export class " t
  match r.span Text.isWord with
  | ([], _) => none
  | found => some found

/-- The name of the first class that some code exports. -/
def className (code default : Text) : Text :=
  match Text.findFirst? exportedClass? code with
  | some (name, _) => name
  | none => default

/-! ## 3.  Pages -/

/-- What the service is told about tests of pages. -/
def pageTestRole : Text :=
  lines [
    "You are an expert at generating Playwright test suites.",
    "Generate comprehensive, well-organized TypeScript test code.",
    "Follow existing patterns and best practices for Playwright tests.",
    "Use the Page Object Model pattern with interactors."]

/-- The example that is shown if the workspace has none. -/
def pageTestExample : Text :=
  lines [
    "import \x7b expect, test \x7d from \"../../../fixtures\";",
    "import \x7b ExamplePage \x7d from \"../../../POM/page/example/example\";",
    "",
    "test.describe(\"Example Page\", () => \x7b",
    "  test.beforeEach(async (\x7b page, baseURL, testConfig \x7d) => \x7b",
    "    const id = testConfig.example?.primary || \"default-id\";",
    "    await page.goto(`$\x7bbaseURL\x7d/example/$\x7bid\x7d`);",
    "  \x7d);",
    "",
    "  test(\"page loads successfully\", async (\x7b page \x7d) => \x7b",
    "    const examplePage = new ExamplePage(page);",
    "    await examplePage.waitForPageLoad();",
    "    const isLoaded = await examplePage.isPageLoaded();",
    "    expect(isLoaded).toBe(true);",
    "  \x7d);",
    "\x7d);"]

/-- What the test of a page must be like. -/
def pageTestRules (u : UiUnit) (interactor : Text) : Text :=
  let entity := if u.category.isEmpty then Text.lower u.name else u.category
  lines [
    "## Requirements",
    "1. Import test and expect from fixtures: `import \x7b expect, test \x7d from \"../../../fixtures\";`",
    "2. Import the interactor class: `import \x7b "] ++ className interactor u.name ++
  " \x7d from \"../../../POM/page/" ++ entity ++ ['/'] ++ UnitName.interactorStem u.name ++
  lines [
    "\";`",
    "3. Use testConfig to get entity IDs (e.g., testConfig.target?.primary)",
    "4. Include test.describe blocks for logical groupings:",
    "   - \"Page Header\" - tests for title, name, loading",
    "   - \"External Links\" - tests for each type of external link (if hasExternalLinks)",
    "   - \"Tab Navigation\" - tests for tab switching (if hasTabs)",
    "   - \"Direct Navigation\" - tests for direct URL access",
    "   - \"Page Title and Meta\" - tests for document title",
    "5. Use beforeEach to navigate to the page",
    "6. Create instances of the interactor in each test",
    "7. Use expect assertions from Playwright",
    "8. Handle optional elements gracefully (check visibility before assertions)",
    "9. Use testConfig for entity IDs, with fallback defaults"]

/-- What is asked for the test of a page. -/
def pageTest (u : UiUnit) (a : PageAnalysis) (interactor : Text)
    (examples : Artifact.Examples) : Text :=
  let example_ := if examples.test.isEmpty then pageTestExample else examples.test
  paragraphs [
    titled "Task"
      "Generate a Playwright test suite for the following page.",
    pageInfo u false,
    pageFindings a false,
    titled "Generated Interactor" <| fenced "typescript" interactor,
    titled "Example Test (follow this pattern)" <| fenced "typescript" example_,
    pageTestRules u interactor,
    titled "Output" "Generate ONLY the TypeScript test code, no explanations:"]

end UiHarness.Prompt
