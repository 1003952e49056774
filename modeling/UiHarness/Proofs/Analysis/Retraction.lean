import UiHarness.Proofs.Generation.Fenced

/-!
# Payloads as a form of analyses

A payload can be untidy.  It has keys that no analysis knows, numbers and truth values among the
texts of a list, members that no text stands for, tabs without a label, and values of another kind
where a list or a text is due.  Reading it tidies all of this up, and the payload of the analysis
that was read tells the same as the untidy one.  Read once more it gives the same analysis: reading
after writing changes nothing, so that what is written is a form that every payload can be brought
to, and stays in.

That an analysis is read back as it was holds for each whose tabs have texts.  Those that are told
in a payload have, whatever the payload gives for their routes and labels; of an analysis from
words they are those of the page.

* `Payload.Agree`: payloads that tell the same.
* `WidgetAnalysis.agree_of_ofPayload?`, `PageAnalysis.agree_of_ofPayload?`: what reading keeps.
* `WidgetAnalysis.ofPayload?_eq_none_iff`: which payloads tell nothing.
* `Payload.retraction`: reading is a retraction.
-/

namespace UiHarness

/-! ## 1.  Payloads that tell the same -/

namespace Payload

/-- The keys of a payload by what is read under them: a truth value, texts, or a text. -/
structure Form where
  flags : List Text
  lists : List Text
  texts : List Text

/-- Two payloads tell the same under the keys of a form. -/
structure Agree (form : Form) (p q : Value) : Prop where
  flags : ∀ key ∈ form.flags, p.get? key = q.get? key
  lists : ∀ key ∈ form.lists, Payload.texts p key = Payload.texts q key
  texts : ∀ key ∈ form.texts, Payload.text p key = Payload.text q key

/-- Texts that were written are read. -/
theorem texts_of_get? {p : Value} {key : Text} {ts : List Text}
    (h : p.get? key = some (ofTexts ts)) : texts p key = ts := by
  rw [Payload.texts, h]
  exact filterMap_memberText? ts

end Payload

/-! ## 2.  Widgets -/

namespace WidgetAnalysis

variable {p : Value} {a : WidgetAnalysis}

/-- The form of the payloads of widgets. -/
def form : Payload.Form where
  flags := flags
  lists := ["uiComponents", "customInteractions", "existingTestIds"]
  texts := ["reasoning"]

/-- The payload of an analysis tells what it was read from tells. -/
theorem agree_of_ofPayload? (h : ofPayload? p = some a) : Payload.Agree form p a.toPayload := by
  simp only [ofPayload?, Option.bind_eq_bind, Option.bind_eq_some_iff, Payload.flag?_eq_some] at h
  obtain ⟨_, h₁, _, h₂, _, h₃, _, h₄, _, h₅, _, h₆, ha⟩ := h
  obtain rfl := Option.some.inj ha
  constructor
  · exact forall_mem_flags.2 ⟨h₁, h₂, h₃, h₄, h₅, h₆⟩
  · simp only [form, List.forall_mem_cons]
    exact ⟨(Payload.texts_of_get? rfl).symm, (Payload.texts_of_get? rfl).symm,
      (Payload.texts_of_get? rfl).symm, fun _ h => absurd h List.not_mem_nil⟩
  · exact List.forall_mem_singleton.2 rfl

/-- **Which payloads tell nothing**: those that are no table, and those that lack a flag or have
something else than a truth value in its place. -/
theorem ofPayload?_eq_none_iff : ofPayload? p = none ↔
    ¬ p.IsTable ∨ ∃ key ∈ flags, ∀ b, p.get? key ≠ some (.bool b) := by
  have hnone : ofPayload? p = none ↔ ¬ Payload.HasFlags p flags := by
    refine ⟨fun h hflags => ?_, ofPayload?_eq_none⟩
    obtain ⟨a, ha, -⟩ := exists_ofPayload? hflags
    rw [ha] at h
    cases h
  -- what is no table has no entries at all, so it lacks the first flag
  have htable : ¬ p.IsTable → ∃ key ∈ flags, ∀ b, p.get? key ≠ some (.bool b) := by
    intro hp
    refine ⟨_, List.mem_cons_self .., fun b hb => ?_⟩
    cases p with
    | table es => exact hp ⟨es, rfl⟩
    | _ => cases hb
  rw [hnone, or_iff_right_of_imp htable, Payload.HasFlags]
  push Not
  exact Iff.rfl

end WidgetAnalysis

/-! ## 3.  Pages -/

namespace PageAnalysis

variable {p : Value} {a : PageAnalysis}

/-- The form of the payloads of pages, their tabs apart. -/
def form : Payload.Form where
  flags := flags
  lists := ["components", "urlParams", "headerElements", "existingTestIds"]
  texts := ["routePattern", "entityType", "reasoning"]

/-- A tab that a payload tells has texts, whatever stands there. -/
theorem isTold_of_tab? {v : Value} {t : Tab} (h : tab? v = some t) : t.IsTold := by
  rw [tab?] at h
  split at h
  · obtain rfl := Option.some.inj h
    exact ⟨⟨_, rfl⟩, ⟨_, rfl⟩, _, rfl⟩
  · cases h

theorem isTold_of_tabsOf {tabs : List Tab} (h : tabsOf p = .ok tabs) : ∀ t ∈ tabs, t.IsTold := by
  unfold tabsOf at h
  dsimp only at h
  split at h
  · obtain ⟨vs, -, hvs⟩ := Except.bind_eq_ok.1 h
    obtain rfl := Except.ok.inj hvs
    intro t ht
    obtain ⟨v, -, hv⟩ := List.mem_filterMap.1 ht
    exact isTold_of_tab? hv
  · obtain rfl := Except.ok.inj h
    exact fun t ht => absurd ht List.not_mem_nil

/-- The payload of an analysis tells what it was read from tells, and so do its tabs. -/
theorem agree_of_ofPayload? (h : ofPayload? p = .ok (some a)) :
    Payload.Agree form p a.toPayload ∧ tabsOf p = .ok a.tabs := by
  unfold ofPayload? at h
  split at h
  · rename_i h₁ h₂ h₃
    obtain ⟨tabs, htabs, ha⟩ := Except.bind_eq_ok.1 h
    obtain rfl := Option.some.inj (Except.ok.inj ha)
    refine ⟨⟨?_, ?_, ?_⟩, htabs⟩
    · exact forall_mem_flags.2 ⟨Payload.flag?_eq_some.1 h₁, Payload.flag?_eq_some.1 h₂,
        Payload.flag?_eq_some.1 h₃⟩
    · simp only [form, List.forall_mem_cons]
      exact ⟨(Payload.texts_of_get? rfl).symm, (Payload.texts_of_get? rfl).symm,
        (Payload.texts_of_get? rfl).symm, (Payload.texts_of_get? rfl).symm,
        fun _ h => absurd h List.not_mem_nil⟩
    · simp only [form, List.forall_mem_cons]
      exact ⟨rfl, rfl, rfl, fun _ h => absurd h List.not_mem_nil⟩
  · cases h

end PageAnalysis

/-! ## 4.  Reading what was written -/

namespace Payload

/-- **Reading is a retraction.**  What is read from any payload of a widget or of a page tells the
same as the payload, and is read from its own payload again as it is; so is what is made from words,
for a page whose tabs have texts.  The payload of a widget tells nothing exactly if it is no table
or if one of the flags is missing or no truth value, whatever the other keys hold. -/
theorem retraction :
    (∀ p a, WidgetAnalysis.ofPayload? p = some a →
      Agree WidgetAnalysis.form p a.toPayload ∧ WidgetAnalysis.ofPayload? a.toPayload = some a) ∧
    (∀ p a, PageAnalysis.ofPayload? p = .ok (some a) →
      Agree PageAnalysis.form p a.toPayload ∧ PageAnalysis.tabsOf p = .ok a.tabs ∧
        PageAnalysis.ofPayload? a.toPayload = .ok (some a)) ∧
    (∀ sources, WidgetAnalysis.ofPayload? (WidgetAnalysis.ofWords sources).toPayload =
      some (WidgetAnalysis.ofWords sources)) ∧
    (∀ (page : UiUnit) sources, (∀ t ∈ page.tabs, t.IsTold) →
      PageAnalysis.ofPayload? (PageAnalysis.ofWords page sources).toPayload =
        .ok (some (PageAnalysis.ofWords page sources))) ∧
    ∀ p, WidgetAnalysis.ofPayload? p = none ↔ ¬ p.IsTable ∨
      ∃ key ∈ WidgetAnalysis.flags, ∀ b, p.get? key ≠ some (.bool b) := by
  refine ⟨fun p a h => ?_, fun p a h => ?_, fun sources => ?_, fun page sources h => ?_,
    fun p => WidgetAnalysis.ofPayload?_eq_none_iff⟩
  · exact ⟨WidgetAnalysis.agree_of_ofPayload? h, WidgetAnalysis.ofPayload?_toPayload a⟩
  · obtain ⟨hagree, htabs⟩ := PageAnalysis.agree_of_ofPayload? h
    have htold := PageAnalysis.isTold_of_tabsOf htabs
    exact ⟨hagree, htabs, PageAnalysis.ofPayload?_toPayload htold⟩
  · exact WidgetAnalysis.ofPayload?_toPayload _
  · exact PageAnalysis.ofPayload?_toPayload h

/-- An untidy payload of a widget: a number and nothing among the texts, a key that is not known,
and a number in the place of a text. -/
def untidyWidget : Value :=
  .table [("hasTable", .bool true), ("hasChart", .bool false), ("hasSearch", .bool false),
    ("hasPagination", .bool false), ("hasExternalLinks", .bool true),
    ("hasDownloader", .bool false), ("customInteractions", .list [.text "sort", .int 3, .null]), ("other", .int 1),
    ("reasoning", .int 7)]

/-- An untidy payload of a page: of its tabs, one has neither a label nor a text for its route, and
one is none. -/
def untidyPage : Value :=
  .table [("hasTabs", .bool true), ("hasExternalLinks", .bool false), ("hasQuery", .bool true),
    ("tabs", .list [.table [("name", .text "Profile"), ("route", .int 5)], .text "junk"])]

/-- A page with a tab. -/
def tabbedPage : UiUnit :=
  .ofFiles { kind := .page, name := "P", category := "target", root := "/p"
             tabs := [⟨.text "Profile", .text "/t", .text "Profile"⟩] } .empty

/-- The case of two untidy payloads, and of a page with a tab. -/
theorem retraction_untidy : ∃ a b,
    WidgetAnalysis.ofPayload? untidyWidget = some a ∧
    a.interactions = ["sort".toList, "3".toList] ∧ a.reasoning = [] ∧
    WidgetAnalysis.ofPayload? a.toPayload = some a ∧
    PageAnalysis.ofPayload? untidyPage = .ok (some b) ∧
    b.tabs = [⟨.text "Profile", .text "5", .text "Profile"⟩] ∧
    PageAnalysis.ofPayload? b.toPayload = .ok (some b) ∧
    PageAnalysis.ofPayload? (PageAnalysis.ofWords tabbedPage "<Tabs/>").toPayload =
      .ok (some (PageAnalysis.ofWords tabbedPage "<Tabs/>")) := by
  obtain ⟨hwidget, hpage, -, hwords, -⟩ := retraction
  have hread : ∃ a, WidgetAnalysis.ofPayload? untidyWidget = some a ∧
      a.interactions = ["sort".toList, "3".toList] ∧ a.reasoning = [] := ⟨_, rfl, by decide, rfl⟩
  have hread' : ∃ b, PageAnalysis.ofPayload? untidyPage = .ok (some b) ∧
      b.tabs = [⟨.text "Profile", .text "5", .text "Profile"⟩] := ⟨_, rfl, rfl⟩
  obtain ⟨a, ha, hinteractions, hreasoning⟩ := hread
  obtain ⟨b, hb, htabs⟩ := hread'
  exact ⟨a, b, ha, hinteractions, hreasoning, (hwidget _ _ ha).2, hb, htabs, (hpage _ _ hb).2.2,
    hwords tabbedPage _ (List.forall_mem_singleton.2 ⟨⟨_, rfl⟩, ⟨_, rfl⟩, _, rfl⟩)⟩

end Payload

end UiHarness
