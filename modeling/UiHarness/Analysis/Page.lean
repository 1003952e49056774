import UiHarness.Analysis.Payload
import UiHarness.Imports.Scan
import UiHarness.UnitEntry

/-!
# Analyses of pages

An analysis of a page says what its sources hold and how the page is reached.  It is told in a
payload, which counts only if it has all flags; without one the analysis is made from words that
the sources hold and from what is known of the page.

* `PageAnalysis.ofPayload?`, `PageAnalysis.toPayload`: reading and writing payloads.
* `PageAnalysis.ofWords`: the analysis from words.
-/

namespace UiHarness

/-- What the sources of a page hold. -/
structure PageAnalysis where
  hasTabs : Bool
  hasExternalLinks : Bool
  hasQuery : Bool
  tabs : List Tab := []
  components : List Text := []
  /-- The parameters of the address of the page. -/
  parameters : List Text := []
  headerElements : List Text := []
  route : Text := []
  /-- The type of entity that the page shows. -/
  entity : Text := []
  /-- The hooks that the sources have already. -/
  existingHooks : List Text := []
  reasoning : Text := []
  deriving Repr

namespace PageAnalysis

/-! ## 1.  Payloads -/

/-- The tab that a member of a payload tells; it must have a name. -/
def tab? (v : Value) : Option Tab :=
  match v.get? "name" with
  | some (.text name) =>
    some {
      name := .text name
      route := .text ((v.get? "route").getD (.text [])).display
      label := .text ((v.get? "label").getD (.text name)).display }
  | _ => none

/-- The tabs that a payload tells.  What is nothing or empty tells none; what has no members
cannot be gone through. -/
def tabsOf (p : Value) : Except Fault (List Tab) := do
  let v := (p.get? "tabs").getD .null
  if v.isTrue then .ok ((← v.members).filterMap tab?) else .ok []

/-- The analysis that a payload tells, if it has all flags. -/
def ofPayload? (p : Value) : Except Fault (Option PageAnalysis) :=
  match Payload.flag? p "hasTabs", Payload.flag? p "hasExternalLinks",
      Payload.flag? p "hasQuery" with
  | some hasTabs, some hasExternalLinks, some hasQuery => do
    let tabs ← tabsOf p
    .ok (some {
      hasTabs, hasExternalLinks, hasQuery, tabs
      components := Payload.texts p "components"
      parameters := Payload.texts p "urlParams"
      headerElements := Payload.texts p "headerElements"
      route := Payload.text p "routePattern"
      entity := Payload.text p "entityType"
      existingHooks := Payload.texts p "existingTestIds"
      reasoning := Payload.text p "reasoning" })
  | _, _, _ => .ok none

/-- The payload of an analysis. -/
def toPayload (a : PageAnalysis) : Value :=
  .table [
    ("components", Payload.ofTexts a.components),
    ("hasTabs", .bool a.hasTabs),
    ("tabs", .list (a.tabs.map Tab.toValue)),
    ("hasExternalLinks", .bool a.hasExternalLinks),
    ("hasQuery", .bool a.hasQuery),
    ("urlParams", Payload.ofTexts a.parameters),
    ("headerElements", Payload.ofTexts a.headerElements),
    ("routePattern", .text a.route),
    ("entityType", .text a.entity),
    ("existingTestIds", Payload.ofTexts a.existingHooks),
    ("reasoning", .text a.reasoning)]

/-! ## 2.  Words -/

/-- The inside of braces that are assigned from the parameters of the address. -/
def assigned? (t : Text) : Option (Text × Text) :=
  match t with
  | '\x7b' :: t =>
    match t.span (· ≠ '\x7d') with
    | (inside, _ :: r) => do
      let r ← Text.after? ['='] (Text.stripStart r)
      let r ← Text.after? "useParams" (Text.stripStart r)
      some (inside, r)
    | _ => none
  | _ => none

/-- The names between braces: before a colon, if there is one. -/
def assignedNames (inside : Text) : List Text :=
  ((Text.splitAt ',' inside).map fun part => Text.strip (part.takeWhile (· ≠ ':'))).filter
    (!·.isEmpty)

/-- The analysis of a page from the words that its sources hold. -/
def ofWords (page : UiUnit) (sources : Text) : PageAnalysis :=
  let holds (word : Text) : Bool := Text.contains sources word
  { hasTabs := holds "<Tabs" || holds "<Tab "
    hasExternalLinks := holds "Link external" || holds "ExternalLink"
    hasQuery := holds "useQuery"
    tabs := page.tabs
    parameters := Scan.distinct ((Text.findAll assigned? sources).flatMap assignedNames)
    route := page.route.getD []
    entity := page.category
    reasoning := Payload.keywordReasoning }

/-- What is told of an analysis in a result. -/
def summary (a : PageAnalysis) : Value :=
  .table [
    ("hasTabs", .bool a.hasTabs),
    ("tabs", .list (a.tabs.map Tab.name)),
    ("hasExternalLinks", .bool a.hasExternalLinks),
    ("urlParams", Payload.ofTexts a.parameters)]

end PageAnalysis

end UiHarness
