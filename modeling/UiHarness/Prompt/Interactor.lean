import UiHarness.Artifact
import UiHarness.Prompt.Section

/-!
# Prompts for interactors

What the service is told and asked when it is to write the interactor of a unit.
-/

namespace UiHarness.Prompt

/-! ## 1.  Widgets -/

/-- What the service is told about interactors of widgets. -/
def widgetInteractorRole : Text :=
  lines [
    "You are an expert TypeScript developer specializing in Playwright Page Object Model (POM) patterns.",
    "Generate clean, well-documented interactor classes for UI testing.",
    "",
    "CRITICAL RULES:",
    "- ONLY generate methods for UI elements that ACTUALLY EXIST in the widget",
    "- If there is NO table, do NOT generate table methods",
    "- If there is NO search, do NOT generate search methods",
    "- Base your interactor ONLY on the provided analysis"]

/-- What is asked for the interactor of a widget. -/
def widgetInteractor (u : UiUnit) (a : WidgetAnalysis) (examples : Artifact.Examples) : Text :=
  paragraphs [
    titled "Task"
      "Generate a Playwright interactor class. ONLY include methods for elements that exist.",
    widgetInfo u,
    widgetFindings a,
    titled "Widget Source Code" <| widgetSources u,
    titled "Example Interactor (reference only)" <| fenced "typescript" examples.interactor,
    "Generate the TypeScript interactor class:"]

/-! ## 2.  Pages -/

/-- What the service is told about interactors of pages. -/
def pageInteractorRole : Text :=
  lines [
    "You are an expert at generating Playwright Page Object Model (POM) classes.",
    "Generate clean, well-documented TypeScript code for page interactors.",
    "Follow the existing patterns and conventions in the codebase.",
    "Use proper Playwright locators and methods."]

/-- The example that is shown if the workspace has none. -/
def pageInteractorExample : Text :=
  lines [
    "import type \x7b Locator, Page \x7d from \"@playwright/test\";",
    "",
    "export class ExamplePage \x7b",
    "  page: Page;",
    "",
    "  constructor(page: Page) \x7b",
    "    this.page = page;",
    "  \x7d",
    "",
    "  async goToPage(id: string): Promise<void> \x7b",
    "    await this.page.goto(`/example/$\x7bid\x7d`);",
    "    await this.page.waitForLoadState(\"networkidle\");",
    "  \x7d",
    "",
    "  getHeader(): Locator \x7b",
    "    return this.page.locator(\"[data-testid='header']\");",
    "  \x7d",
    "",
    "  async waitForPageLoad(): Promise<void> \x7b",
    "    await this.page.waitForLoadState(\"networkidle\");",
    "  \x7d",
    "\x7d"]

/-- What the interactor of a page must be like. -/
def pageInteractorRules (name : Text) : Text :=
  lines [
    "## Requirements",
    "1. Create a class named `"] ++ name ++
  lines [
    "` (e.g., TargetPage, DiseasePage)",
    "2. Include navigation methods (goTo\x7bPageName\x7d)",
    "3. Include tab navigation methods if page has tabs",
    "4. Include methods for external links if present",
    "5. Include methods for header elements",
    "6. Include waitForPageLoad and isPageLoaded methods",
    "7. Use proper TypeScript types",
    "8. Add JSDoc comments for all methods",
    "9. Use data-testid selectors when available, fall back to role/text selectors",
    "10. Return Locator objects for element getters, use async methods for actions"]

/-- What is asked for the interactor of a page. -/
def pageInteractor (u : UiUnit) (a : PageAnalysis) (examples : Artifact.Examples) : Text :=
  let example_ :=
    if examples.interactor.isEmpty then pageInteractorExample else examples.interactor
  paragraphs [
    titled "Task"
      "Generate a Playwright Page Object Model (POM) interactor class for the following page.",
    pageInfo u false,
    pageFindings a true,
    titled "Example Interactor (follow this pattern)" <| fenced "typescript" example_,
    pageInteractorRules u.name,
    titled "Output" "Generate ONLY the TypeScript code, no explanations:"]

end UiHarness.Prompt
