import UiHarness.Analysis.Payload

/-!
# Analyses of widgets

An analysis of a widget says which kinds of elements its sources hold.  It is told in a payload,
which counts only if it has all flags; without one the analysis is made from words that the sources
hold.

* `WidgetAnalysis.ofPayload?`, `WidgetAnalysis.toPayload`: reading and writing payloads.
* `WidgetAnalysis.ofWords`: the analysis from words.
-/

namespace UiHarness

/-- What the sources of a widget hold. -/
structure WidgetAnalysis where
  hasTable : Bool
  hasChart : Bool
  hasSearch : Bool
  hasPagination : Bool
  hasExternalLinks : Bool
  hasDownloader : Bool
  components : List Text := []
  interactions : List Text := []
  /-- The hooks that the sources have already. -/
  existingHooks : List Text := []
  reasoning : Text := []
  deriving DecidableEq, Repr

namespace WidgetAnalysis

/-- The analysis that a payload tells, if it has all flags. -/
def ofPayload? (p : Value) : Option WidgetAnalysis := do
  .some {
    hasTable := ← Payload.flag? p "hasTable"
    hasChart := ← Payload.flag? p "hasChart"
    hasSearch := ← Payload.flag? p "hasSearch"
    hasPagination := ← Payload.flag? p "hasPagination"
    hasExternalLinks := ← Payload.flag? p "hasExternalLinks"
    hasDownloader := ← Payload.flag? p "hasDownloader"
    components := Payload.texts p "uiComponents"
    interactions := Payload.texts p "customInteractions"
    existingHooks := Payload.texts p "existingTestIds"
    reasoning := Payload.text p "reasoning" }

/-- The payload of an analysis. -/
def toPayload (a : WidgetAnalysis) : Value :=
  .table [
    ("uiComponents", Payload.ofTexts a.components),
    ("hasTable", .bool a.hasTable),
    ("hasChart", .bool a.hasChart),
    ("hasSearch", .bool a.hasSearch),
    ("hasPagination", .bool a.hasPagination),
    ("hasExternalLinks", .bool a.hasExternalLinks),
    ("hasDownloader", .bool a.hasDownloader),
    ("customInteractions", Payload.ofTexts a.interactions),
    ("existingTestIds", Payload.ofTexts a.existingHooks),
    ("reasoning", .text a.reasoning)]

/-- The analysis of sources from the words that they hold. -/
def ofWords (sources : Text) : WidgetAnalysis :=
  let holds (word : Text) : Bool := Text.contains sources word
  { hasTable := holds "OtTable" || holds "<Table"
    hasChart := holds "Chart" || holds "Plot"
    hasSearch := holds "showGlobalFilter" || holds "Search"
    hasPagination := holds "pagination"
    hasExternalLinks := holds "Link external"
    hasDownloader := holds "dataDownloader"
    reasoning := Payload.keywordReasoning }

/-- What is told of an analysis in a result. -/
def summary (a : WidgetAnalysis) : Value :=
  .table [
    ("hasTable", .bool a.hasTable),
    ("hasChart", .bool a.hasChart),
    ("hasSearch", .bool a.hasSearch),
    ("hasPagination", .bool a.hasPagination),
    ("customInteractions", Payload.ofTexts a.interactions)]

end WidgetAnalysis

end UiHarness
