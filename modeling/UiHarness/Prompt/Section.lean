import UiHarness.Analysis.Page
import UiHarness.Analysis.Widget
import UiHarness.Json.Printer
import UiHarness.Source.Reader

/-!
# Sections of prompts

A prompt is a row of paragraphs.  Those here occur in several prompts: what is known of a unit, its
sources, and what an analysis found.  Every source stands in a fenced block below its name.
-/

namespace UiHarness.Prompt

/-- Lines of a text. -/
def lines (ls : List String) : Text := Text.join ['\n'] (ls.map String.toList)

/-- A text below a title. -/
def titled (title body : Text) : Text := "## " ++ title ++ ['\n'] ++ body

/-- Paragraphs with empty lines between them. -/
def paragraphs (ps : List Text) : Text := Text.join "\n\n" ps

/-- A block of code in a language. -/
def fenced (language code : Text) : Text := "```" ++ language ++ ['\n'] ++ code ++ "\n```"

/-- A block of code below a heading. -/
def headed (heading language code : Text) : Text :=
  heading ++ ['\n'] ++ fenced language code ++ "\n\n"

/-! ## 1.  Units -/

/-- What is known of a widget. -/
def widgetInfo (u : UiUnit) : Text :=
  "## Widget Information\n- **Name**: " ++ u.name ++ "\n- **Entity**: " ++ u.category ++
    "\n- **Section ID**: " ++ u.sectionId

/-- A text, or a word if it is empty. -/
def known (t : Text) : Text := if t.isEmpty then "unknown" else t

/-- What is known of a page, with or without its path. -/
def pageInfo (u : UiUnit) (withPath : Bool) : Text :=
  let front : List Text := ["## Page Information", "- **Name:** " ++ u.name]
  let path : List Text := if withPath then ["- **Path:** " ++ u.root] else []
  let back : List Text :=
    ["- **Route:** " ++ known (u.route.getD []), "- **Entity Type:** " ++ known u.category]
  Text.join ['\n'] (front ++ path ++ back)

/-! ## 2.  Sources -/

/-- A group of sources below a heading; nothing if there are none. -/
def group (heading : Text) (sources : List (Text × Text)) (show_ : Text × Text → Text) : Text :=
  if sources.isEmpty then [] else heading ++ "\n\n" ++ sources.flatMap show_

/-- The sources of a widget: its main files, the components nearby, those of the shared UI package,
and the queries. -/
def widgetSources (u : UiUnit) : Text :=
  let all := u.sources.entries
  let main := Source.mainFiles.filterMap fun name => (u.sources.get? name).map fun t => (name, t)
  let nearby := all.filter fun e =>
    e.1 ∉ Source.mainFiles && !Bucket.isQuery e.1 && !isPackageSource e.1
  let fromPackage := all.filter fun e => isPackageSource e.1
  let queries := all.filter fun e => Bucket.isQuery e.1
  main.flatMap (fun e => headed ("### " ++ e.1 ++ ".tsx") "typescript" e.2) ++
    group "### Imported Local Components" nearby
      (fun e => headed ("#### " ++ e.1 ++ ".tsx") "typescript" e.2) ++
    group "### UI Package Components" fromPackage
      (fun e => headed ("#### " ++ e.1.drop packageMark.length) "typescript" e.2) ++
    group "### GraphQL Queries" queries (fun e => headed ("#### " ++ e.1) "graphql" e.2)

/-- The sources of a page. -/
def pageSources (u : UiUnit) : Text :=
  if u.sources.entries.isEmpty then "No source files available."
  else u.sources.entries.flatMap fun e => headed ("### " ++ e.1) "tsx" e.2

/-! ## 3.  Analyses -/

/-- A flag as a word. -/
def yesNo (b : Bool) : Text := if b then "YES" else "NO"

/-- What an analysis of a widget found. -/
def widgetFindings (a : WidgetAnalysis) : Text :=
  paragraphs [
    titled "Widget Analysis" <| fenced "json" (Json.pretty a.toPayload),
    Text.join ['\n'] [
      "## What to include based on analysis:",
      "- Table methods: " ++ yesNo a.hasTable,
      "- Search methods: " ++ yesNo a.hasSearch,
      "- Pagination methods: " ++ yesNo a.hasPagination,
      "- Chart methods: " ++ yesNo a.hasChart,
      "- External link methods: " ++ yesNo a.hasExternalLinks,
      "- Download methods: " ++ yesNo a.hasDownloader]]

/-- What an analysis of a page found, with or without the hooks that exist. -/
def pageFindings (a : PageAnalysis) (withHooks : Bool) : Text :=
  let found : List Text := [
    "## Analysis Results",
    "- **Has Tabs:** " ++ Json.compact (.bool a.hasTabs),
    "- **Tabs:** " ++ Json.compact (.list (a.tabs.map Tab.toValue)),
    "- **Has External Links:** " ++ Json.compact (.bool a.hasExternalLinks),
    "- **Has Query:** " ++ Json.compact (.bool a.hasQuery),
    "- **URL Parameters:** " ++ Json.compact (Payload.ofTexts a.parameters),
    "- **Header Elements:** " ++ Json.compact (Payload.ofTexts a.headerElements)]
  let hooks : List Text :=
    if withHooks then
      ["- **Existing Test IDs:** " ++ Json.compact (Payload.ofTexts a.existingHooks)]
    else []
  Text.join ['\n'] (found ++ hooks)

end UiHarness.Prompt
