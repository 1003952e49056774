import UiHarness.Proofs.Fence.Json
import UiHarness.Proofs.Generation.Analysis
import UiHarness.Proofs.Generation.Isolation
import UiHarness.Proofs.UnitsFile

/-!
# Analyses in fenced blocks

An analysis is told in a payload with all flags, so it is read back from its payload as it was.  In
a reply the payload stands in a block, and this block ends with the next mark.  The keys of a
payload have no backticks, but its texts are what was found in sources, and these can show anything:
a reasoning that quotes a block of code is enough.  Then the payload is cut off, nothing is read,
and the words of the sources decide, as if the reply had told no analysis.

* `Analysis.texts`: the texts that an analysis tells.
* `Analysis.ofPayload_toPayload`: an analysis is read back from its payload.
* `Analysis.shows_toPayload_iff`: which backticks its payload shows.
* `Generation.Yields`: a reply gives a unit an analysis.
* `Generation.Fenced`, `Generation.fenced_analysis`: what becomes of an analysis in a block.
-/

namespace UiHarness

/-! ## 1.  Payloads -/

namespace Payload

theorem plain_ofTexts (depth : Nat) (ts : List Text) : Json.Plain (depth + 1) (ofTexts ts) := by
  refine .list fun v hv => ?_
  obtain ⟨t, -, rfl⟩ := List.mem_map.1 hv
  exact .text t

@[simp] theorem shows_ofTexts {m : Text} {ts : List Text} :
    (ofTexts ts).Shows m ↔ ∃ t ∈ ts, m <:+: t := by
  simp [ofTexts]

end Payload

namespace Tab

/-- A tab has texts. -/
def IsTold (t : Tab) : Prop := t.name.IsText ∧ t.route.IsText ∧ t.label.IsText

/-- The texts of a tab. -/
def texts (t : Tab) : List Text := [t.name.display, t.route.display, t.label.display]

theorem tab?_toValue {t : Tab} (h : t.IsTold) : PageAnalysis.tab? t.toValue = some t := by
  obtain ⟨⟨name, hname⟩, ⟨route, hroute⟩, label, hlabel⟩ := h
  obtain ⟨_, _, _⟩ := t
  obtain ⟨rfl, rfl, rfl⟩ := And.intro hname (And.intro hroute hlabel)
  rfl

theorem shows_toValue_iff {m : Text} (hm : Json.IsTicks m) {t : Tab} (h : t.IsTold) :
    t.toValue.Shows m ↔ ∃ s ∈ t.texts, m <:+: s := by
  obtain ⟨⟨name, hname⟩, ⟨route, hroute⟩, label, hlabel⟩ := h
  rw [toValue, Json.shows_table_iff_of_keys hm]
  · simp [texts, hname, hroute, hlabel, Value.display]
  · exact (by decide : ∀ key ∈ keys, '`' ∉ key)

end Tab

namespace WidgetAnalysis

variable {a : WidgetAnalysis}

/-- The texts of an analysis. -/
def texts (a : WidgetAnalysis) : List Text :=
  a.components ++ (a.interactions ++ (a.existingHooks ++ [a.reasoning]))

theorem ofPayload?_toPayload (a : WidgetAnalysis) : ofPayload? a.toPayload = some a := by
  have hread : ofPayload? a.toPayload = some { a with
      components := (a.components.map .text).filterMap Payload.memberText?
      interactions := (a.interactions.map .text).filterMap Payload.memberText?
      existingHooks := (a.existingHooks.map .text).filterMap Payload.memberText? } := rfl
  rw [hread, Payload.filterMap_memberText?, Payload.filterMap_memberText?,
    Payload.filterMap_memberText?]

/-- The keys of a payload. -/
def keys : List Text :=
  ["uiComponents", "hasTable", "hasChart", "hasSearch", "hasPagination", "hasExternalLinks",
    "hasDownloader", "customInteractions", "existingTestIds", "reasoning"]

theorem plain_toPayload (depth : Nat) (a : WidgetAnalysis) :
    Json.Plain (depth + 2) a.toPayload := by
  refine .table (by decide : keys.Nodup) ?_
  simp only [List.forall_mem_cons]
  exact ⟨Payload.plain_ofTexts _ _, .bool _, .bool _, .bool _, .bool _, .bool _, .bool _,
    Payload.plain_ofTexts _ _, Payload.plain_ofTexts _ _, .text _,
    fun _ h => absurd h List.not_mem_nil⟩

theorem shows_toPayload_iff {m : Text} (hm : Json.IsTicks m) :
    a.toPayload.Shows m ↔ ∃ t ∈ a.texts, m <:+: t := by
  rw [toPayload, Json.shows_table_iff_of_keys hm]
  · simp [texts, or_and_right, exists_or]
  · exact (by decide : ∀ key ∈ keys, '`' ∉ key)

end WidgetAnalysis

namespace PageAnalysis

variable {a : PageAnalysis}

/-- The texts of an analysis. -/
def texts (a : PageAnalysis) : List Text :=
  a.components ++ (a.tabs.flatMap Tab.texts ++ (a.parameters ++ (a.headerElements ++
    ([a.route, a.entity] ++ (a.existingHooks ++ [a.reasoning])))))

theorem filterMap_tab? {tabs : List Tab} (h : ∀ t ∈ tabs, t.IsTold) :
    (tabs.map Tab.toValue).filterMap tab? = tabs := by
  rw [List.filterMap_map]
  exact (List.filterMap_congr fun t ht => Tab.tab?_toValue (h t ht)).trans List.filterMap_some

theorem tabsOf_toPayload (h : ∀ t ∈ a.tabs, t.IsTold) : tabsOf a.toPayload = .ok a.tabs := by
  have hread : tabsOf a.toPayload = if (Value.list (a.tabs.map Tab.toValue)).isTrue then
      .ok ((a.tabs.map Tab.toValue).filterMap tab?) else .ok [] := rfl
  rw [hread, filterMap_tab? h]
  split
  · rfl
  · rename_i hempty
    have hnil : a.tabs = [] := by
      cases htabs : a.tabs with
      | nil => rfl
      | cons t tabs => exact absurd (by rw [htabs]; rfl) hempty
    rw [hnil]

theorem ofPayload?_toPayload (h : ∀ t ∈ a.tabs, t.IsTold) :
    ofPayload? a.toPayload = .ok (some a) := by
  have hread : ofPayload? a.toPayload = tabsOf a.toPayload >>= fun tabs => .ok (some { a with
      tabs
      components := (a.components.map .text).filterMap Payload.memberText?
      parameters := (a.parameters.map .text).filterMap Payload.memberText?
      headerElements := (a.headerElements.map .text).filterMap Payload.memberText?
      existingHooks := (a.existingHooks.map .text).filterMap Payload.memberText? }) := rfl
  rw [hread, tabsOf_toPayload h, Payload.filterMap_memberText?, Payload.filterMap_memberText?,
    Payload.filterMap_memberText?, Payload.filterMap_memberText?]
  rfl

/-- The keys of a payload. -/
def keys : List Text :=
  ["components", "hasTabs", "tabs", "hasExternalLinks", "hasQuery", "urlParams", "headerElements",
    "routePattern", "entityType", "existingTestIds", "reasoning"]

theorem plain_toPayload (depth : Nat) (h : ∀ t ∈ a.tabs, t.IsTold) :
    Json.Plain (depth + 3) a.toPayload := by
  refine .table (by decide : keys.Nodup) ?_
  simp only [List.forall_mem_cons]
  exact ⟨Payload.plain_ofTexts _ _, .bool _, UnitsFile.plain_tabs h, .bool _, .bool _,
    Payload.plain_ofTexts _ _, Payload.plain_ofTexts _ _, .text _, .text _,
    Payload.plain_ofTexts _ _, .text _, fun _ h => absurd h List.not_mem_nil⟩

theorem shows_tabs_iff {m : Text} (hm : Json.IsTicks m) {tabs : List Tab}
    (h : ∀ t ∈ tabs, t.IsTold) :
    (Value.list (tabs.map Tab.toValue)).Shows m ↔ ∃ s ∈ tabs.flatMap Tab.texts, m <:+: s := by
  have htab : ∀ t ∈ tabs, (t.toValue.Shows m ↔ ∃ s ∈ t.texts, m <:+: s) :=
    fun t ht => Tab.shows_toValue_iff hm (h t ht)
  simp only [Value.shows_list, List.mem_map, exists_exists_and_eq_and, List.mem_flatMap]
  constructor
  · rintro ⟨t, ht, hshows⟩
    obtain ⟨s, hs, hms⟩ := (htab t ht).1 hshows
    exact ⟨s, ⟨t, ht, hs⟩, hms⟩
  · rintro ⟨s, ⟨t, ht, hs⟩, hms⟩
    exact ⟨t, ht, (htab t ht).2 ⟨s, hs, hms⟩⟩

theorem shows_toPayload_iff {m : Text} (hm : Json.IsTicks m) (h : ∀ t ∈ a.tabs, t.IsTold) :
    a.toPayload.Shows m ↔ ∃ t ∈ a.texts, m <:+: t := by
  rw [toPayload, Json.shows_table_iff_of_keys hm]
  · have htabs := shows_tabs_iff hm h
    simp only [texts, List.mem_append, or_and_right, exists_or, ← htabs]
    simp [or_and_right, exists_or, or_assoc]
  · exact (by decide : ∀ key ∈ keys, '`' ∉ key)

end PageAnalysis

namespace Analysis

variable {a : Analysis} {u : UiUnit}

/-- The texts that an analysis tells. -/
def texts : Analysis → List Text
  | widget a => a.texts
  | page a => a.texts

/-- The tabs of an analysis have texts. -/
def IsTold : Analysis → Prop
  | widget _ => True
  | page a => ∀ t ∈ a.tabs, t.IsTold

theorem plain_toPayload (h : a.IsTold) : Json.Plain Json.depthLimit a.toPayload := by
  cases a with
  | widget a => exact a.plain_toPayload 983
  | page a => exact PageAnalysis.plain_toPayload 982 h

/-- **The backticks of a payload** are those of the texts of the analysis. -/
theorem shows_toPayload_iff {m : Text} (hm : Json.IsTicks m) (h : a.IsTold) :
    a.toPayload.Shows m ↔ ∃ t ∈ a.texts, m <:+: t := by
  cases a with
  | widget a => exact WidgetAnalysis.shows_toPayload_iff hm
  | page a => exact PageAnalysis.shows_toPayload_iff hm h

/-- **An analysis is read back** from its payload. -/
theorem ofPayload_toPayload (hkind : a.isPage = u.isPage) (h : a.IsTold) :
    Generation.ofPayload u a.toPayload = .ok a := by
  unfold Generation.ofPayload
  rw [← hkind]
  cases a with
  | widget a =>
    rw [isPage, if_neg Bool.false_ne_true, toPayload, WidgetAnalysis.ofPayload?_toPayload]
  | page a =>
    rw [isPage, if_pos rfl, toPayload, PageAnalysis.ofPayload?_toPayload h]
    rfl

end Analysis

/-! ## 2.  Replies -/

namespace Generation

open Fence

variable {u : UiUnit} {a : Analysis}

/-- A reply gives a unit an analysis. -/
structure Yields (u : UiUnit) (reply : Text) (a : Analysis) : Prop where
  read : analysisOf u reply = .ok a
  /-- It is what comes of the step that asks for an analysis and gets this reply. -/
  analyzed : ∀ m session session', (askAnalysis m u).outcome session = (.ok reply, session') →
    (analyze m u).outcome session = (.ok a, session')
  /-- It is what the unit is served with if this is the first reply. -/
  served : ∀ s session g served, ((ofUnit s u).outcome session).1 = .ok g →
    g.outcome = .ok served → (session.reply 0).text = .ok reply → served.analysis = a

theorem yields_of_analysisOf {reply : Text} (h : analysisOf u reply = .ok a) :
    Yields u reply a where
  read := h
  analyzed m session session' hask := by
    rw [askAnalysis] at hask
    rw [analyze, Job.outcome_bind, hask]
    change (analysisOf u reply, session') = _
    rw [h]
  served s session g served hg hserved hreply := by
    obtain ⟨calls, hcourse⟩ := course s u session
    obtain ⟨-, first, _, _, hfirst, -, -, hanalysis, -⟩ := hcourse.served g served hg hserved
    rw [hreply] at hfirst
    rw [← Except.ok.inj hfirst, h] at hanalysis
    exact (Except.ok.inj hanalysis).symm

/-- What becomes of an analysis in a reply. -/
structure Fenced (u : UiUnit) (a : Analysis) (reply : Text) : Prop where
  /-- Its payload is decoded exactly if none of its texts has a mark. -/
  decoded_iff : Fence.json reply = .ok (some a.toPayload) ↔ ∀ t ∈ a.texts, ¬ mark <:+: t
  /-- Then the unit has this analysis. -/
  kept : (∀ t ∈ a.texts, ¬ mark <:+: t) → Yields u reply a
  /-- Otherwise nothing is decoded, and the words of the sources decide. -/
  lost : (∃ t ∈ a.texts, mark <:+: t) → Fence.json reply = .ok none ∧ Yields u reply (wordsOf u)

/-- **What becomes of an analysis in a fenced block**, with anything behind the block and anything
without a mark in front of it. -/
theorem fenced_analysis (hkind : a.isPage = u.isPage) (htold : a.IsTold) {before : Text}
    (hbefore : ¬ mark <:+: before) (after : Text) :
    Fenced u a (withJson before a.toPayload after) := by
  have hplain := Analysis.plain_toPayload htold
  have hshows := Analysis.shows_toPayload_iff isTicks_mark htold
  have hkept : (∀ t ∈ a.texts, ¬ mark <:+: t) →
      Fence.json (withJson before a.toPayload after) = .ok (some a.toPayload) := fun hfree =>
    json_of_not_shows hbefore hplain
      (fun h => (hshows.1 h).elim fun t ht => hfree t ht.1 ht.2) after
  have hlost : (∃ t ∈ a.texts, mark <:+: t) →
      Fence.json (withJson before a.toPayload after) = .ok none := fun hmark =>
    json_of_shows hbefore hplain (hshows.2 hmark) after
  refine ⟨⟨fun h t ht hmark => ?_, hkept⟩, fun hfree => yields_of_analysisOf ?_,
    fun hmark => ⟨hlost hmark, yields_of_analysisOf ?_⟩⟩
  · rw [hlost ⟨t, ht, hmark⟩] at h
    cases h
  · rw [analysisOf_eq, hkept hfree]
    exact Analysis.ofPayload_toPayload hkind htold
  · rw [analysisOf_eq, hlost hmark]
    exact ofPayload_words (not_hasFlags_null u)

/-- An analysis with a table, and with code in its reasoning. -/
def quotingAnalysis : Analysis := .widget {
  hasTable := true
  hasChart := false
  hasSearch := false
  hasPagination := false
  hasExternalLinks := false
  hasDownloader := false
  reasoning := "It shows ```tsx``` code." }

/-- A reply that tells it in a block. -/
def quotingReply : Text := withJson "Here it is:\n" quotingAnalysis.toPayload "\n"

/-- The case of this reply: the analysis is lost, and so is the table. -/
theorem fenced_analysis_quoting : Fenced (bareWidget "A") quotingAnalysis quotingReply ∧
    Fence.json quotingReply = .ok none ∧
    ∃ a, Yields (bareWidget "A") quotingReply (.widget a) ∧ a.hasTable = false := by
  have hfenced : Fenced (bareWidget "A") quotingAnalysis quotingReply :=
    fenced_analysis (a := quotingAnalysis) rfl trivial (isTicks_mark.not_infix (by decide)) "\n"
  have hmark : mark <:+: ("It shows ```tsx``` code.".toList : Text) :=
    ⟨"It shows ".toList, "tsx``` code.".toList, rfl⟩
  obtain ⟨hnone, hwords⟩ := hfenced.lost ⟨_, List.mem_singleton.2 rfl, hmark⟩
  exact ⟨hfenced, hnone, _, hwords, by decide⟩

end Generation

end UiHarness
