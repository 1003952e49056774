import UiHarness.Proofs.Generation.Calls

/-!
# Hooks in the prompts for interactors

The hooks are given to a unit before its interactor is asked for, so that the interactor can rely on
them.  The prompt for a widget shows every source with its hooks, whichever group the source belongs
to.  The prompt for a page shows no source at all: what the service is told of a page is what its
analysis found, and that was made before the hooks.  So it is the prompt of the page without them.

* `Prompt.infix_widgetSources`: every source of a widget is shown.
* `Prompt.pageInteractor_updated`: what is shown of a page does not depend on its sources.
* `Generation.interactor_prompt`: what the prompt for an interactor shows of the hooks.
-/

namespace UiHarness

open Service (Request)

namespace Prompt

/-! ## 1.  What prompts show -/

theorem infix_left {p s : Text} (h : p <:+: s) (t : Text) : p <:+: s ++ t :=
  h.trans (List.prefix_append s t).isInfix

theorem infix_right {p t : Text} (h : p <:+: t) (s : Text) : p <:+: s ++ t :=
  h.trans (List.suffix_append s t).isInfix

theorem infix_join (sep : Text) {p : Text} {ps : List Text} (h : p ∈ ps) :
    p <:+: Text.join sep ps := by
  induction ps with
  | nil => cases h
  | cons q ps ih =>
    by_cases hps : ps = []
    · subst hps
      obtain rfl := List.mem_singleton.1 h
      exact (Text.join_singleton sep p).symm ▸ List.infix_refl p
    · rw [Text.join_cons sep q hps]
      rcases List.mem_cons.1 h with rfl | h
      · exact infix_left (List.infix_refl _) _
      · exact infix_right (infix_right (ih h) sep) q

theorem infix_flatMap {α : Type} {show_ : α → Text} {p : Text} {a : α} {l : List α} (ha : a ∈ l)
    (h : p <:+: show_ a) : p <:+: l.flatMap show_ :=
  h.trans (List.infix_of_mem_flatten (List.mem_map_of_mem ha))

theorem infix_headed (heading language code : Text) : code <:+: headed heading language code := by
  have hfenced : code <:+: fenced language code := ⟨"```" ++ language ++ ['\n'], "\n```", rfl⟩
  exact hfenced.trans ⟨heading ++ ['\n'], "\n\n", rfl⟩

/-- What is shown of a source in a group is shown of the group. -/
theorem infix_group {p heading : Text} {sources : List (Text × Text)} {show_ : Text × Text → Text}
    {e : Text × Text} (he : e ∈ sources) (h : p <:+: show_ e) :
    p <:+: group heading sources show_ := by
  have hne : sources.isEmpty = false := by
    rw [← Bool.not_eq_true, List.isEmpty_iff]
    exact List.ne_nil_of_mem he
  rw [group, hne, if_neg Bool.false_ne_true]
  exact infix_right (infix_flatMap he h) _

/-- **Every source of a widget is shown**, in the group that it belongs to. -/
theorem infix_widgetSources {u : UiUnit} {name code : Text}
    (h : u.sources.get? name = some code) : code <:+: widgetSources u := by
  have hmem : (name, code) ∈ u.sources.entries := Table.get?_eq_some.1 h
  unfold widgetSources
  by_cases hmain : name ∈ Source.mainFiles
  · have hentry : (name, code) ∈ Source.mainFiles.filterMap
        fun name => (u.sources.get? name).map fun t => (name, t) :=
      List.mem_filterMap.2 ⟨name, hmain, by rw [h, Option.map_some]⟩
    refine infix_left (infix_left (infix_left ?_ _) _) _
    exact infix_flatMap hentry (infix_headed _ _ code)
  · by_cases hquery : Bucket.isQuery name = true
    · have hentry : (name, code) ∈ u.sources.entries.filter fun e => Bucket.isQuery e.1 :=
        List.mem_filter.2 ⟨hmem, hquery⟩
      exact infix_right (infix_group hentry (infix_headed _ _ code)) _
    · by_cases hpackage : isPackageSource name = true
      · have hentry : (name, code) ∈ u.sources.entries.filter fun e => isPackageSource e.1 :=
          List.mem_filter.2 ⟨hmem, hpackage⟩
        exact infix_left (infix_right (infix_group hentry (infix_headed _ _ code)) _) _
      · have hentry : (name, code) ∈ u.sources.entries.filter fun e =>
            e.1 ∉ Source.mainFiles && !Bucket.isQuery e.1 && !isPackageSource e.1 := by
          refine List.mem_filter.2 ⟨hmem, ?_⟩
          simp only [hmain, hquery, hpackage, not_false_eq_true, decide_true, Bool.not_false,
            Bool.and_self]
        refine infix_left (infix_left (infix_right ?_ _) _) _
        exact infix_group hentry (infix_headed _ _ code)

theorem infix_widgetInteractor {u : UiUnit} {name code : Text}
    (h : u.sources.get? name = some code) (a : WidgetAnalysis) (examples : Artifact.Examples) :
    code <:+: widgetInteractor u a examples := by
  refine (infix_widgetSources h).trans ?_
  have htitled : widgetSources u <:+: titled "Widget Source Code" (widgetSources u) :=
    infix_right (List.infix_refl _) _
  exact htitled.trans (infix_join _ (by simp))

/-- **What is shown of a page** does not depend on its sources. -/
theorem pageInteractor_updated (u : UiUnit) (updates : Table Text) (a : PageAnalysis)
    (examples : Artifact.Examples) :
    pageInteractor (u.updated updates) a examples = pageInteractor u a examples := rfl

end Prompt

namespace Generation

/-! ## 2.  The request for an interactor -/

variable {s : Settings} {u : UiUnit}

/-- What the prompt for an interactor shows of the hooks that the sources of a unit were given.  Of a
unit that is no page it shows every changed source, with its hooks; the prompt for a page is that
of the page without hooks. -/
structure ShowsHooks (u : UiUnit) (p : Hook.Progress) (prompt : Text) : Prop where
  widget : u.isPage = false → ∀ name path t, Hook.Rewritten u name path t →
    p.updates.get? name = some t.code →
    t.code <:+: prompt ∧ ∀ id ∈ t.ids, Hook.attributeText id <:+: prompt
  page : u.isPage = true → ∃ examples a, prompt = Prompt.pageInteractor u a examples

/-- The unit with its hooks has every changed source. -/
theorem showsHooks_of_prompt {p : Hook.Progress} {examples : Artifact.Examples} {a : Analysis}
    (ha : a.isPage = u.isPage) :
    ShowsHooks u p (interactorPrompt (u.updated p.updates) examples a) := by
  cases a with
  | page a =>
    refine ⟨fun hwidget => ?_, fun _ => ⟨examples, a, Prompt.pageInteractor_updated ..⟩⟩
    rw [hwidget] at ha
    cases ha
  | widget a =>
    refine ⟨fun _ name path t ht hcode => ?_, fun hpage => ?_⟩
    · obtain ⟨old, hold, -⟩ := ht.source
      have hnew : (u.updated p.updates).sources.get? name = some t.code := by
        rw [Hook.get?_updated, hold, Option.map_some, hcode, Option.getD_some]
      have hshown := Prompt.infix_widgetInteractor hnew a examples
      refine ⟨hshown, fun id hid => List.IsInfix.trans ?_ hshown⟩
      refine (ht.scattered hold).infix_of_mem ?_
      obtain ⟨suggestion, hs, rfl⟩ := List.mem_map.1 hid
      exact List.mem_map_of_mem hs
    · rw [hpage] at ha
      cases ha

/-- **What the prompt for an interactor shows of the hooks.**  If the hooks are given, the second
request for a unit is the one for its interactor.  The unit has its hooks then, and a prompt for a
widget shows all of them; but a prompt for a page shows none that was given. -/
theorem interactor_prompt {session : Session} {calls : List Request} {call : Request}
    (hskips : s.skipsHooks.isTrue = false)
    (hasked : session.Asked ((ofUnit s u).outcome session).2 calls)
    (hcall : calls[1]? = some call) :
    ∃ p, Hook.result u s.isDryRun = .ok p ∧ call.role = interactorRole u ∧
      ShowsHooks u p call.prompt := by
  obtain ⟨calls', hcalls⟩ := asks_serve s u session
  obtain rfl := (mirrors_ofUnit hcalls.mirrors).asked.unique hasked
  obtain ⟨cue, hcue, hanswers⟩ := hcalls.part.answers hcall
  obtain rfl : interactorCue s u = cue := Option.some.inj hcue
  obtain ⟨u', hooks, examples, a, hhooks, ha, hprompt⟩ := hanswers.prompt
  rcases hhooks with ⟨hskips', -, -⟩ | ⟨-, p, hp, rfl, -⟩
  · rw [hskips] at hskips'
    cases hskips'
  · exact ⟨p, hp, hanswers.role, hprompt ▸ showsHooks_of_prompt ha⟩

/-- A page with one element that gets a hook. -/
def hookedPage : UiUnit :=
  { kind := .page, name := "P", category := "e", root := "p", declaredId := none
    displayName := none, sources := .ofList [("P", "import {A} from \"ui\";<A/>")]
    paths := .ofList [("P", "p/P.tsx")], route := none, tabs := []
    located := by decide }

/-- The case of a page whose hook is not shown. -/
theorem interactor_prompt_page : ∃ calls call p,
    shortSession.Asked ((ofUnit shortSettings hookedPage).outcome shortSession).2 calls ∧
    calls[1]? = some call ∧ Hook.result hookedPage false = .ok p ∧
    p.updates.entries = [("P".toList, "import {A} from \"ui\";<A data-testid=\"p-a\"/>".toList)] ∧
    ShowsHooks hookedPage p call.prompt ∧ ¬ "data-testid=\"p-a\"".toList <:+: call.prompt := by
  have hupdates : ((Hook.result hookedPage false).toOption.any fun p => p.updates.entries =
      [("P".toList, "import {A} from \"ui\";<A data-testid=\"p-a\"/>".toList)]) = true := by
    decide +kernel
  have hprompt : (((ofUnit shortSettings hookedPage).outcome shortSession).2.requests[1]?.any
      fun call => ¬ "data-testid=\"p-a\"".toList <:+: call.prompt) = true := by
    decide +kernel
  obtain ⟨calls, hcalls⟩ := asks_serve shortSettings hookedPage shortSession
  have hasked := (mirrors_ofUnit hcalls.mirrors).asked
  rw [hasked.requests, show shortSession.requests = [] from rfl, List.nil_append] at hprompt
  obtain ⟨call, hcall, hhidden⟩ := (Option.any_eq_true _ _).1 hprompt
  obtain ⟨p, hp, -, hshows⟩ := interactor_prompt (s := shortSettings) rfl hasked hcall
  obtain ⟨p', hp', hentries⟩ := Except.exists_of_any hupdates
  obtain rfl : p = p' := Except.ok.inj (hp.symm.trans hp')
  exact ⟨calls, call, p, hasked, hcall, hp, of_decide_eq_true hentries, hshows,
    of_decide_eq_true hhidden⟩

end Generation

end UiHarness
