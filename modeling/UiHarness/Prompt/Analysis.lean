import UiHarness.Prompt.Section

/-!
# Prompts for analyses

What the service is told and asked when it is to say what the sources of a unit hold.
-/

namespace UiHarness.Prompt

/-! ## 1.  Widgets -/

/-- What the service is told about analyses of widgets. -/
def widgetAnalysisRole : Text :=
  lines [
    "You are an expert code analyst specializing in React components and UI testing.",
    "Your task is to carefully analyze React component code and identify exactly what UI elements are present.",
    "Be precise and thorough. Do NOT assume elements exist if they are not explicitly in the code.",
    "IMPORTANT: Analyze ALL provided source files including imported local components."]

/-- How an analysis of a widget is to be given. -/
def widgetAnalysisForm : Text :=
  lines [
    "## Instructions",
    "Analyze ALL provided source files and output JSON:",
    "",
    "```json",
    "\x7b",
    "  \"uiComponents\": [\"list\", \"of\", \"all\", \"components\", \"found\"],",
    "  \"hasTable\": true/false,",
    "  \"hasChart\": true/false,",
    "  \"hasSearch\": true/false,",
    "  \"hasPagination\": true/false,",
    "  \"hasExternalLinks\": true/false,",
    "  \"hasDownloader\": true/false,",
    "  \"customInteractions\": [\"list\", \"of\", \"interactions\"],",
    "  \"existingTestIds\": [\"list\", \"of\", \"existing\", \"testids\"],",
    "  \"reasoning\": \"Brief explanation of your analysis\"",
    "\x7d",
    "```"]

/-- What is asked about a widget. -/
def widgetAnalysis (u : UiUnit) : Text :=
  paragraphs [
    titled "Task"
      "Carefully analyze the following React widget/section code and ALL its imported local components.",
    widgetInfo u,
    titled "Widget Source Code" <| widgetSources u,
    widgetAnalysisForm]

/-! ## 2.  Pages -/

/-- What the service is told about analyses of pages. -/
def pageAnalysisRole : Text :=
  lines [
    "You are an expert at analyzing React page components for test generation.",
    "Your task is to analyze page source code and identify:",
    "1. Navigation patterns (tabs, routes)",
    "2. External links",
    "3. GraphQL queries",
    "4. URL parameters",
    "5. Header elements",
    "6. Existing data-testid attributes",
    "",
    "Be precise and thorough in your analysis."]

/-- How an analysis of a page is to be given. -/
def pageAnalysisForm : Text :=
  lines [
    "## Instructions",
    "Analyze the page code and output JSON:",
    "",
    "```json",
    "\x7b",
    "  \"components\": [\"list\", \"of\", \"imported\", \"components\"],",
    "  \"hasTabs\": true/false,",
    "  \"tabs\": [",
    "    \x7b \"name\": \"Profile\", \"route\": \"/target/:id\", \"label\": \"Profile\" \x7d,",
    "    \x7b \"name\": \"Associations\", \"route\": \"/target/:id/associations\", \"label\": \"Associated diseases\" \x7d",
    "  ],",
    "  \"hasExternalLinks\": true/false,",
    "  \"hasQuery\": true/false,",
    "  \"urlParams\": [\"ensgId\", \"efoId\"],",
    "  \"headerElements\": [\"symbol\", \"name\", \"external links\"],",
    "  \"routePattern\": \"/target/:ensgId\",",
    "  \"entityType\": \"target\",",
    "  \"existingTestIds\": [\"data-testid-1\", \"data-testid-2\"],",
    "  \"reasoning\": \"Brief explanation of your analysis\"",
    "\x7d",
    "```",
    "",
    "Focus on:",
    "1. Tab navigation (look for Tabs, Tab components and Route definitions)",
    "2. External links in the header (identifiers.org, ensembl, uniprot, etc.)",
    "3. GraphQL queries (useQuery imports)",
    "4. URL parameters (useParams)",
    "5. Header content (title, subtitle, external links section)"]

/-- What is asked about a page. -/
def pageAnalysis (u : UiUnit) : Text :=
  paragraphs [
    titled "Task"
      "Analyze the following React page component and extract information for test generation.",
    pageInfo u true,
    titled "Page Source Files" <| pageSources u,
    pageAnalysisForm]

/-! ## 3.  Units -/

/-- What the service is told about analyses of a unit. -/
def analysisRole (u : UiUnit) : Text := if u.isPage then pageAnalysisRole else widgetAnalysisRole

/-- What is asked about a unit. -/
def analysis (u : UiUnit) : Text := if u.isPage then pageAnalysis u else widgetAnalysis u

end UiHarness.Prompt
