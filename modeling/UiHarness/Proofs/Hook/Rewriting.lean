import UiHarness.Proofs.Hook.Injection
import UiHarness.Proofs.Hook.Rereading
import UiHarness.Proofs.Syntax.Names

/-!
# Sources with hooks

The hooks of a unit are put into its sources as text, with the identifiers between double quotes as
they are.  So there are two questions about a source that was changed: which nodes the new text
stands for, and whether the parser finds them in it.

The first has one answer for all identifiers.  The new text is the text of the old nodes with the
hooks among them, and in these nodes there are the old elements with their old attributes, each
planned one with its identifier (`Hook.Faithful`).  The second is up to the identifiers: an identifier
with a quote ends where the quote stands, and one with an ampersand may not be read at all.  The
part of an identifier that is chosen freely is the one of the unit, which no step before checks for
these characters.

* `Hook.rewritten_sources`: what has become of each source that was changed.
-/

namespace UiHarness.Hook

open Syntax

/-! ## 1.  Identifiers that may stand in quotes -/

/-- Given patterns that may stand in quotes make identifiers that may. -/
theorem quotable_of_patterns {nodes : List Node} {sectionId : Text} {policies : Table Policy}
    (hid : Quotable sectionId)
    (hpatterns : ∀ name p pattern, policies.get? name = some p → p.pattern = some pattern →
      Quotable pattern) : ∀ s ∈ plan { nodes } sectionId policies, Quotable s.id := by
  refine quotable_of_mem_plan hid fun e _ component pattern ht => ?_
  obtain ⟨-, -, p, hp, hpattern, -⟩ := target?_eq_some ht
  exact hpatterns component p pattern hp hpattern

/-- The names of components are written without quotes and ampersands, so patterns that are made
from them make identifiers that may stand in quotes. -/
theorem quotable_of_read {path code : Text} {nodes : List Node} {sectionId : Text} {b : Bucket}
    (hread : Syntax.read path code = .ok nodes) (hid : Quotable sectionId) :
    ∀ s ∈ plan { nodes } sectionId (Policy.table libraryOverrides b), Quotable s.id := by
  have hquote : ∀ e ∈ Element.list nodes, ∀ name ∈ e.component?, '"' ∉ name :=
    not_mem_component (by decide) (by decide) (by decide) (by decide) hread
  have hampersand : ∀ e ∈ Element.list nodes, ∀ name ∈ e.component?, '&' ∉ name :=
    not_mem_component (by decide) (by decide) (by decide) (by decide) hread
  refine quotable_of_mem_plan hid fun e he component pattern ht => ?_
  obtain ⟨hcomponent, -, p, hp, hpattern, -⟩ := target?_eq_some ht
  exact quotable_of_table hp hpattern
    ⟨hquote e he component hcomponent, hampersand e he component hcomponent⟩

/-! ## 2.  The sources of a unit -/

/-- What stands in the file of a changed source, and which hooks are new in it. -/
theorem Rewritten.planned {u : UiUnit} {name path code : Text} {t : Transform} {nodes : List Node}
    (h : Rewritten u name path t) (hcode : u.sources.get? name = some code)
    (hread : Syntax.read path code = .ok nodes) :
    t.suggestions = plan { nodes } u.sectionId (policiesOf u) ∧
      t.code = Text.weave (textAt (plan { nodes } u.sectionId (policiesOf u))) 0 code := by
  obtain ⟨code', hcode', ht⟩ := h.source
  rw [hcode] at hcode'
  obtain rfl := Option.some.inj hcode'
  rw [transform_eq hread] at ht
  obtain rfl := Except.ok.inj ht
  refine ⟨rfl, ?_⟩
  rw [if_neg Bool.false_ne_true]

/-- **What has become of a source that was changed.**  Its text is that of the old nodes with the
planned hooks, which are faithful to the plan.  If the identifier of the unit may stand in quotes,
the nodes read in the new text are so, too. -/
theorem rewritten_sources {u u' : UiUnit} {trial verbose : Bool} {summary : Summary}
    {reports : List SourceReport} {name code code' : Text}
    (h : (inject u trial verbose).outcome.2 = .ok (u', summary, reports))
    (hcode : u.sources.get? name = some code) (hcode' : u'.sources.get? name = some code')
    (hchanged : code' ≠ code) :
    ∃ path nodes ss, u.paths.get? name = some path ∧ path ∈ summary.modified ∧
      Syntax.read path code = .ok nodes ∧ ss = plan { nodes } u.sectionId (policiesOf u) ∧
      ss ≠ [] ∧ code' = Node.textOf (withHooks ss nodes) ∧
      Faithful ss nodes (withHooks ss nodes) ∧
      (Quotable u.sectionId → ReadsBack path nodes ss →
        ∃ nodes', Syntax.read path code' = .ok nodes' ∧ Faithful ss nodes nodes') := by
  obtain ⟨p, hp, rfl, rfl, -⟩ := inject_eq_ok.1 h
  obtain ⟨new, hnew, hcases⟩ := (kept_of_result hp).outcome.sources name code hcode
  rw [hcode'] at hnew
  obtain rfl := Option.some.inj hnew
  obtain ⟨path, t, ht, rfl, hpath⟩ := hcases.resolve_left hchanged
  obtain ⟨old, hold, htransform⟩ := ht.source
  rw [hcode] at hold
  obtain rfl := Option.some.inj hold
  obtain ⟨nodes, hread⟩ := read_of_transform htransform
  obtain ⟨hplanned, htext⟩ := ht.planned hcode hread
  have hnodes : Node.textOf (withHooks (plan { nodes } u.sectionId (policiesOf u)) nodes) =
      t.code := by
    rw [textOf_withHooks mem_list_of_mem_plan, textOf_of_read hread, htext]
  refine ⟨path, nodes, _, ht.located, hpath, hread, rfl, hplanned ▸ ht.suggestions_ne_nil,
    hnodes.symm, faithful_of_alike ⟨rfl, rfl⟩, fun hid hback => ?_⟩
  rw [htext]
  exact exists_faithful hread (quotable_of_read hread hid) hback

/-- A source with one element. -/
def shortCode : Text := "import A from \"ui\"; <A/>"

/-- A unit with this source. -/
def shortUnit : UiUnit := {
  kind := .widget
  name := "Foo"
  category := "target"
  root := "foo"
  declaredId := none
  displayName := none
  sources := Table.ofList [("Body".toList, shortCode)]
  paths := Table.ofList [("Body".toList, "foo/Body.tsx".toList)]
  route := none
  tabs := []
  located := by decide }

theorem quotable_shortUnit : Quotable shortUnit.sectionId := by decide +kernel

/-- The source of the unit is read, and its nodes with hooks are read back. -/
theorem exists_read_shortCode : ∃ nodes, Syntax.read "foo/Body.tsx" shortCode = .ok nodes ∧
    ReadsBack "foo/Body.tsx" nodes
      (plan { nodes } shortUnit.sectionId (policiesOf shortUnit)) := by
  have h : (Syntax.read "foo/Body.tsx" shortCode).toOption.any (fun nodes =>
      ReadsBack "foo/Body.tsx" nodes
        (plan { nodes } shortUnit.sectionId (policiesOf shortUnit))) = true := by
    decide +kernel
  obtain ⟨nodes, hread, hback⟩ := Except.exists_of_any h
  exact ⟨nodes, hread, of_decide_eq_true hback⟩

/-- The element of the unit is given a hook. -/
theorem exists_inject_shortUnit : ∃ u' summary reports code',
    (inject shortUnit false false).outcome.2 = .ok (u', summary, reports) ∧ summary.applied = 1 ∧
      u'.sources.get? "Body" = some code' ∧ code' ≠ shortCode := by
  have h : (inject shortUnit false false).outcome.2.toOption.any (fun r => r.2.1.applied = 1 ∧
      ∃ code' ∈ r.1.sources.get? "Body", code' ≠ shortCode) = true := by
    decide +kernel
  obtain ⟨⟨u', summary, reports⟩, hinject, hr⟩ := Except.exists_of_any h
  obtain ⟨happlied, code', hcode', hchanged⟩ := of_decide_eq_true hr
  exact ⟨u', summary, reports, code', hinject, happlied, hcode', hchanged⟩

/-- The case of a unit with one element in one source. -/
theorem rewritten_sources_short : ∃ u' summary reports code' path nodes ss nodes',
    (inject shortUnit false false).outcome.2 = .ok (u', summary, reports) ∧
      shortUnit.sources.get? "Body" = some shortCode ∧
      u'.sources.get? "Body" = some code' ∧ code' ≠ shortCode ∧
      Syntax.read path shortCode = .ok nodes ∧
      ss = plan { nodes } shortUnit.sectionId (policiesOf shortUnit) ∧ ss ≠ [] ∧
      Syntax.read path code' = .ok nodes' ∧ Faithful ss nodes nodes' := by
  have hcode : shortUnit.sources.get? "Body" = some shortCode := by decide
  have hbody : shortUnit.paths.get? "Body" = some "foo/Body.tsx".toList := by decide
  obtain ⟨u', summary, reports, code', hinject, -, hcode', hchanged⟩ := exists_inject_shortUnit
  obtain ⟨path, nodes, ss, hpath, -, hread, rfl, hplanned, -, -, hagain⟩ :=
    rewritten_sources hinject hcode hcode' hchanged
  obtain rfl := Option.some.inj (hbody.symm.trans hpath)
  obtain ⟨nodes₁, hread₁, hback⟩ := exists_read_shortCode
  rw [hread] at hread₁
  obtain rfl := Except.ok.inj hread₁
  obtain ⟨nodes', hread', hfaithful⟩ := hagain quotable_shortUnit hback
  exact ⟨u', summary, reports, code', _, nodes, _, nodes', hinject, hcode, hcode', hchanged, hread,
    rfl, hplanned, hread', hfaithful⟩

/-- A quote in the identifier of a unit ends the hook early: what is left of the identifier stands in
the tag, and the new text cannot be read. -/
example : (transform linkPolicies "a\"b" "a.tsx" false "<A/>").toOption.any (fun t =>
    (Syntax.read "a.tsx" t.code).toOption.isNone) = true := by
  decide +kernel

end UiHarness.Hook
