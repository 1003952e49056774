import UiHarness.Proofs.Hook.Rewriting
import UiHarness.Proofs.Imports.Buckets

/-!
# Giving hooks twice

A second run on what a first one made reads the new texts, derives the policies from them anew, and
plans again.  The argument that it has nothing to do goes from one file to all:

* In a file with the planned hooks, read as nodes that say so, each element that was planned has a
  hook, and each other one is what it was (`Hook.plan_eq_nil_of_hooked`).
* The imports are what they were, so the policies are, for a file on its own
  (`Hook.transformAlone_again`) and for a unit (`Hook.policiesOf_updated`).
* Each source that the first run changed is such a file (`Hook.Rewritten.again`); what the first
  run found nothing to do at, the second one passes over as well (`Hook.Seen.passed`).

`Hook.hooks_idempotent` says it for files with given policies, for files on their own, and for
units.  A trial run changes nothing, so it counts as a first run only if the second one is a trial
run, too.
-/

namespace UiHarness

/-- The bindings of a file that can be read. -/
theorem Binding.ofSource_of_read {path code : Text} {nodes : List Syntax.Node}
    (h : Syntax.read path code = .ok nodes) :
    Binding.ofSource path code = Syntax.Node.bindingsOf nodes := by
  unfold Binding.ofSource
  rw [h]

namespace Hook

open Syntax

/-! ## 1.  Files -/

/-- Where nothing is planned, nothing is done. -/
theorem transform_of_plan_eq_nil {policies : Table Policy} {sectionId path code : Text}
    {nodes : List Node} (hread : Syntax.read path code = .ok nodes)
    (hnone : plan { nodes } sectionId policies = []) (trial : Bool) :
    transform policies sectionId path trial code = .ok {
      code, suggestions := [], applied := 0, isModified := false } := by
  have hself : Text.weave (textAt []) 0 code = code := Text.weave_eq_self code fun _ _ => rfl
  rw [transform_eq hread trial, hnone, hself]
  cases trial with
  | true => rfl
  | false => rfl

/-- A file that cannot be read. -/
theorem transform_of_error {policies : Table Policy} {sectionId path code : Text}
    {e : SyntaxError} (hread : Syntax.read path code = .error e) (trial : Bool) :
    transform policies sectionId path trial code = .error (.source e) := by
  unfold transform
  rw [hread]

/-- What a first run makes of a file that can be read. -/
theorem exists_transform {policies : Table Policy} {sectionId path code : Text}
    {nodes : List Node} (hread : Syntax.read path code = .ok nodes) :
    ∃ t, transform policies sectionId path false code = .ok t ∧
      t.code = Text.weave (textAt (plan { nodes } sectionId policies)) 0 code := by
  refine ⟨_, transform_eq hread false, ?_⟩
  rw [if_neg Bool.false_ne_true]

/-- **A second run on a file has nothing to do**, and finds the imports that the first one found. -/
theorem transform_again {policies : Table Policy} {sectionId path code : Text} {nodes : List Node}
    (hread : Syntax.read path code = .ok nodes)
    (hids : ∀ s ∈ plan { nodes } sectionId policies, Quotable s.id)
    (hback : ReadsBack path nodes (plan { nodes } sectionId policies)) :
    ∃ t, transform policies sectionId path false code = .ok t ∧
      Binding.ofSource path t.code = Binding.ofSource path code ∧
      ∀ trial, transform policies sectionId path trial t.code = .ok {
        code := t.code, suggestions := [], applied := 0, isModified := false } := by
  obtain ⟨nodes', hread', hfaithful⟩ := exists_faithful hread hids hback
  obtain ⟨t, ht, hcode⟩ : ∃ t, transform policies sectionId path false code = .ok t ∧
    t.code = Text.weave (textAt (plan { nodes } sectionId policies)) 0 code := exists_transform hread
  rw [← hcode] at hread'
  have hsame : Binding.ofSource path t.code = Binding.ofSource path code := by
    rw [Binding.ofSource_of_read hread, Binding.ofSource_of_read hread', hfaithful.imports]
  exact ⟨t, ht, hsame, transform_of_plan_eq_nil hread' (plan_eq_nil_of_hooked hfaithful.elements)⟩

/-- **A second run on a file on its own has nothing to do**, though its policies are derived from
the new text. -/
theorem transformAlone_again {sectionId path code : Text} {nodes : List Node}
    (hread : Syntax.read path code = .ok nodes) (hid : Quotable sectionId)
    (hback : ReadsBack path nodes (plan { nodes } sectionId (Policy.ofFile path code))) :
    ∃ t, transformAlone sectionId path false code = .ok t ∧
      ∀ trial, transformAlone sectionId path trial t.code = .ok {
        code := t.code, suggestions := [], applied := 0, isModified := false } := by
  obtain ⟨t, ht, hbindings, hagain⟩ :=
    transform_again hread (quotable_of_read hread hid) hback
  have hpolicies : Policy.ofFile path t.code = Policy.ofFile path code := by
    rw [Policy.ofFile, Bucket.ofFile, hbindings, Policy.ofFile, Bucket.ofFile]
  refine ⟨t, ht, fun trial => ?_⟩
  rw [transformAlone, hpolicies]
  exact hagain trial

/-! ## 2.  Units -/

/-- What is taken for granted of the parser on the sources of a unit. -/
def Dependable (u : UiUnit) : Prop :=
  ∀ name path code nodes, u.paths.get? name = some path → u.sources.get? name = some code →
    Syntax.read path code = .ok nodes →
      ReadsBack path nodes (plan { nodes } u.sectionId (policiesOf u))

/-- A source that was changed has its imports, and nothing is to be done to it any more. -/
theorem Rewritten.again {u : UiUnit} {name path code : Text} {t : Transform}
    (h : Rewritten u name path t) (hid : Quotable u.sectionId) (hu : Dependable u)
    (hcode : u.sources.get? name = some code) :
    Binding.ofSource path t.code = Binding.ofSource path code ∧
      ∀ trial, transform (policiesOf u) u.sectionId path trial t.code = .ok {
        code := t.code, suggestions := [], applied := 0, isModified := false } := by
  obtain ⟨code', hcode', ht⟩ := h.source
  rw [hcode] at hcode'
  obtain rfl := Option.some.inj hcode'
  obtain ⟨nodes, hread⟩ := read_of_transform ht
  have hids : ∀ s ∈ plan { nodes } u.sectionId (policiesOf u), Quotable s.id :=
    quotable_of_read hread hid
  obtain ⟨t', ht', hagain⟩ :=
    transform_again hread hids (hu name path code nodes h.located hcode hread)
  rw [ht] at ht'
  obtain rfl := Except.ok.inj ht'
  exact hagain

/-- Sources with other texts have the bindings that they had if each of them has. -/
theorem ofSources_mapKeyed {sources paths : Table Text} {f : Text → Text → Text}
    (h : ∀ e ∈ sources.entries, Bucket.ofFile ((paths.get? e.1).getD e.1) (f e.1 e.2) =
      Bucket.ofFile ((paths.get? e.1).getD e.1) e.2) :
    Bucket.ofSources (sources.mapKeyed f) paths = Bucket.ofSources sources paths := by
  have hfiles : Gathering.filesOf paths (sources.mapKeyed f).entries =
      Gathering.filesOf paths sources.entries := by
    rw [Table.mapKeyed, Gathering.filesOf, Gathering.filesOf, List.filter_map, List.map_map]
    refine List.map_congr_left fun e he => ?_
    rw [Function.comp_apply]
    exact h e (List.mem_of_mem_filter he)
  rw [Bucket.ofSources_eq, Bucket.ofSources_eq, hfiles]

/-- **A unit has the policies that it had** if its new texts have the imports of the old ones. -/
theorem policiesOf_updated {u : UiUnit} {updates : Table Text}
    (h : ∀ name path code code', u.paths.get? name = some path →
      u.sources.get? name = some code → updates.get? name = some code' →
        Binding.ofSource path code' = Binding.ofSource path code) :
    policiesOf (u.updated updates) = policiesOf u := by
  have hsources : (u.updated updates).sources =
      u.sources.mapKeyed fun key t => (updates.get? key).getD t := rfl
  have hpaths : (u.updated updates).paths = u.paths := rfl
  rw [policiesOf, policiesOf, hsources, hpaths, Table.filter_mapKeyed, ofSources_mapKeyed]
  intro e he
  have hmem : e ∈ u.sources.entries := List.mem_of_mem_filter he
  obtain ⟨path, hpath⟩ := Option.isSome_iff_exists.1 (u.located e.1 (List.mem_map_of_mem hmem))
  cases hcode' : updates.get? e.1 with
  | none => rw [Option.getD_none]
  | some code' =>
    rw [Option.getD_some, hpath, Option.getD_some, Bucket.ofFile, Bucket.ofFile,
      h e.1 path e.2 code' hpath (Table.get?_of_mem hmem) hcode']

theorem primarySources_updated (u : UiUnit) (updates : Table Text) :
    primarySources (u.updated updates) = primarySources u := by
  have hcontains : (u.updated updates).sources.contains u.name = u.sources.contains u.name := by
    rw [Table.contains, get?_updated, Option.isSome_map, Table.contains]
  change (if u.isPage then
    if (u.updated updates).sources.contains u.name then [u.name] else ["index".toList]
    else widgetSources.map String.toList) = _
  rw [hcontains, primarySources]

/-- Without new texts, a unit stays as it is. -/
theorem updated_empty (u : UiUnit) : u.updated Table.empty = u := by
  have hsources : (u.sources.mapKeyed fun key t => ((Table.empty : Table Text).get? key).getD t) =
      u.sources := by
    obtain ⟨entries, hnodup⟩ := u.sources
    simp only [Table.mapKeyed, Table.mk.injEq]
    exact List.map_id' entries
  unfold UiUnit.updated
  obtain ⟨⟩ := u
  simp only [UiUnit.mk.injEq, true_and, and_true]
  exact hsources

/-! ## 3.  A second run on a unit -/

/-- Progress in which nothing was done. -/
structure Clean (p : Progress) : Prop where
  summary : p.summary = { method := .fromSyntax }
  updates : p.updates = Table.empty

/-- What comes of a source where nothing is done; only a trial run may have planned something. -/
structure Idle (trial : Bool) (t : Transform) : Prop where
  applied : t.applied = 0
  isModified : t.isModified = false
  suggestions : trial = true ∨ t.suggestions = []

/-- What comes of a source where nothing was planned. -/
theorem idle_unchanged (trial : Bool) (code : Text) :
    Idle trial { code, suggestions := [], applied := 0, isModified := false } :=
  ⟨rfl, rfl, .inr rfl⟩

theorem Clean.add {p : Progress} (h : Clean p) {trial : Bool} {t : Transform} (ht : Idle trial t)
    (name path : Text) : Clean (p.add trial name path t) := by
  have hfailed : (if trial then 0 else 0 + (t.suggestions.length - 0)) = 0 := by
    rcases ht.suggestions with rfl | hnone
    · rfl
    · rw [hnone]
      exact ite_self 0
  refine ⟨?_, ?_⟩
  · simp only [Progress.add, ht.applied, ht.isModified, h.summary, Bool.false_eq_true, if_false,
      hfailed]
  · simp only [Progress.add, ht.isModified, h.updates, Bool.false_eq_true, if_false]

/-- A source at which nothing is done. -/
def Passed (u : UiUnit) (trial required : Bool) (name : Text) : Prop :=
  ((u.sources.get? name).getD [] = [] ∨ (u.paths.get? name).getD [] = []) ∨
    (required = false ∧ ∃ e, transform (policiesOf u) u.sectionId ((u.paths.get? name).getD []) trial
      ((u.sources.get? name).getD []) = .error (.source e)) ∨
    ∃ t, transform (policiesOf u) u.sectionId ((u.paths.get? name).getD []) trial
      ((u.sources.get? name).getD []) = .ok t ∧ Idle trial t

theorem Clean.after {u : UiUnit} {trial required : Bool} {p : Progress} {name : Text}
    (h : Clean p) (hpassed : Passed u trial required name) :
    ∃ p', p.after u trial required name = .ok p' ∧ Clean p' := by
  unfold Progress.after
  dsimp only
  split
  · exact ⟨p, rfl, h⟩
  · rename_i hempty
    rw [Bool.or_eq_true, List.isEmpty_iff, List.isEmpty_iff] at hempty
    rcases hpassed with hmissing | ⟨rfl, e, ht⟩ | ⟨t, ht, hidle⟩
    · exact absurd hmissing hempty
    · rw [ht]
      exact ⟨p, rfl, h⟩
    · rw [ht]
      dsimp only
      split
      · exact ⟨p, rfl, h⟩
      · exact ⟨_, rfl, h.add hidle _ _⟩

/-- What a first run found at a source, by its result. -/
def Seen (u : UiUnit) (trial required : Bool) (name : Text) (p : Progress) : Prop :=
  ((u.sources.get? name).getD [] = [] ∨ (u.paths.get? name).getD [] = []) ∨
    ∃ path code, u.paths.get? name = some path ∧ u.sources.get? name = some code ∧
      ((required = false ∧ ∃ e,
          transform (policiesOf u) u.sectionId path trial code = .error (.source e)) ∨
        ∃ t, transform (policiesOf u) u.sectionId path trial code = .ok t ∧
          (t.isModified = true → p.updates.get? name = some t.code))

theorem seen_of_after {u : UiUnit} {trial required : Bool} {p p' : Progress} {name : Text}
    (h : p.after u trial required name = .ok p') : Seen u trial required name p' := by
  rcases after_cases h with ⟨hmissing, -⟩ | ⟨path, code, hpath, hcode, hrest⟩
  · exact .inl hmissing
  · refine .inr ⟨path, code, hpath, hcode, ?_⟩
    rcases hrest with ⟨hrequired, -, he⟩ | ⟨t, ht, ⟨hnone, -⟩ | rfl⟩
    · exact .inl ⟨hrequired, he⟩
    · refine .inr ⟨t, ht, fun hm => ?_⟩
      obtain ⟨rfl, -⟩ := transform_scattered ht hm
      exact absurd hnone (Rewritten.suggestions_ne_nil ⟨hpath, ⟨code, hcode, ht⟩, hm⟩)
    · refine .inr ⟨t, ht, fun hm => ?_⟩
      simp only [Progress.add, hm, if_true, Table.get?_insert]

/-- What was found at a source stays so, since each source is changed in one way only. -/
theorem Seen.after {u : UiUnit} {trial required required' : Bool} {p p' : Progress}
    {name name' : Text} (h : Seen u trial required name p)
    (hp : p.after u trial required' name' = .ok p') : Seen u trial required name p' := by
  rcases h with hmissing | ⟨path, code, hpath, hcode, hunreadable | ⟨t, ht, hupdate⟩⟩
  · exact .inl hmissing
  · exact .inr ⟨path, code, hpath, hcode, .inl hunreadable⟩
  · refine .inr ⟨path, code, hpath, hcode, .inr ⟨t, ht, fun hm => ?_⟩⟩
    rcases after_cases hp with ⟨-, rfl⟩ | ⟨path', code', hpath', hcode', hrest⟩
    · exact hupdate hm
    · rcases hrest with ⟨-, rfl, -⟩ | ⟨t', ht', ⟨-, rfl⟩ | rfl⟩
      · exact hupdate hm
      · exact hupdate hm
      · rw [Progress.add]
        dsimp only
        split
        · rw [Table.get?_insert]
          split
          · rename_i hm' hname
            obtain ⟨rfl, -⟩ := transform_scattered ht hm
            have hunique := Rewritten.unique ⟨hpath, ⟨code, hcode, ht⟩, hm⟩
              ⟨hname ▸ hpath', ⟨code', hname ▸ hcode', ht'⟩, hm'⟩
            rw [hunique.2]
          · exact hupdate hm
        · exact hupdate hm

/-- What was found at all sources that a run comes to. -/
theorem seen_of_result {u : UiUnit} {trial : Bool} {p : Progress} (h : result u trial = .ok p) :
    (∀ name ∈ primarySources u, Seen u trial true name p) ∧
      ∀ name ∈ u.sources.keys.filter (isComponentSource (primarySources u)),
        Seen u trial false name p := by
  obtain ⟨p', hprimary, hothers⟩ := Except.bind_eq_ok.1 h
  refine ⟨fun name hname => ?_, ?_⟩
  · have hseen := Except.foldlM_forall (P := fun name p => Seen u trial true name p)
      (fun _ _ _ _ hstep => seen_of_after hstep)
      (fun _ _ _ _ _ hseen hstep => hseen.after hstep) hprimary name hname
    exact Except.foldlM_induction (fun _ _ _ _ hseen hstep => hseen.after hstep) hseen hothers
  · exact Except.foldlM_forall (fun _ _ _ _ hstep => seen_of_after hstep)
      (fun _ _ _ _ _ hseen hstep => hseen.after hstep) hothers

/-- **What a first run found, a second one passes over.** -/
theorem Seen.passed {u : UiUnit} {trial trial' required : Bool} {name : Text} {p : Progress}
    (hid : Quotable u.sectionId) (hu : Dependable u) (hkept : Kept u p)
    (htrial : trial = true → trial' = true) (h : Seen u trial required name p)
    (hpolicies : policiesOf (u.updated p.updates) = policiesOf u) :
    Passed (u.updated p.updates) trial' required name := by
  have hpaths : (u.updated p.updates).paths = u.paths := rfl
  have hsection : (u.updated p.updates).sectionId = u.sectionId := rfl
  rw [Passed, hpolicies, hpaths, hsection, get?_updated]
  cases hupdate : p.updates.get? name with
  | some code' =>
    obtain ⟨path, t, ht, rfl, -⟩ := hkept.updates name code' hupdate
    obtain ⟨code, hcode, -⟩ := ht.source
    refine .inr (.inr ⟨_, ?_, idle_unchanged trial' t.code⟩)
    rw [ht.located, hcode, Option.map_some, Option.getD_some, Option.getD_some, Option.getD_some]
    exact (ht.again hid hu hcode).2 trial'
  | none =>
    have hsame : (u.sources.get? name).map (fun code => (none : Option Text).getD code) =
        u.sources.get? name := by
      cases u.sources.get? name with
      | none => rfl
      | some code => rfl
    rw [hsame]
    rcases h with hmissing | ⟨path, code, hpath, hcode, ⟨hrequired, e, ht⟩ | ⟨t, ht, hm⟩⟩
    · exact .inl hmissing
    · refine .inr (.inl ⟨hrequired, ?_⟩)
      rw [hpath, hcode, Option.getD_some, Option.getD_some]
      cases hread : Syntax.read path code with
      | error e' => exact ⟨e', transform_of_error hread trial'⟩
      | ok nodes =>
        rw [transform_eq hread] at ht
        cases ht
    · refine .inr (.inr ?_)
      rw [hpath, hcode, Option.getD_some, Option.getD_some]
      obtain ⟨nodes, hread⟩ := read_of_transform ht
      cases trial' with
      | true => exact ⟨_, transform_eq hread true, rfl, rfl, .inl rfl⟩
      | false =>
        have hfirst : trial = false := by
          cases trial with
          | false => rfl
          | true => exact (htrial rfl).symm
        rw [hfirst, transform_eq hread] at ht
        obtain rfl := Except.ok.inj ht
        have hnone : plan { nodes } u.sectionId (policiesOf u) = [] := by
          cases hplan : plan { nodes } u.sectionId (policiesOf u) with
          | nil => rfl
          | cons s ss =>
            have hupdate' := hm (by rw [hplan]; rfl)
            rw [hupdate] at hupdate'
            cases hupdate'
        exact ⟨_, transform_of_plan_eq_nil hread hnone false, idle_unchanged false code⟩

/-- **A second run on a unit has nothing to do.** -/
theorem inject_again {u u' : UiUnit} {trial verbose : Bool} {summary : Summary}
    {reports : List SourceReport} (hid : Quotable u.sectionId) (hu : Dependable u)
    (h : (inject u trial verbose).outcome.2 = .ok (u', summary, reports)) {trial' : Bool}
    (htrial : trial = true → trial' = true) (verbose' : Bool) :
    ∃ reports', (inject u' trial' verbose').outcome.2 =
      .ok (u', { method := .fromSyntax }, reports') := by
  obtain ⟨p, hp, rfl, -, -⟩ := inject_eq_ok.1 h
  have hkept := kept_of_result hp
  have hpolicies : policiesOf (u.updated p.updates) = policiesOf u := by
    refine policiesOf_updated fun name path code code' hpath hcode hcode' => ?_
    obtain ⟨path', t, ht, rfl, -⟩ := hkept.updates name code' hcode'
    have hsame := ht.located
    rw [hpath] at hsame
    obtain rfl := Option.some.inj hsame
    exact (ht.again hid hu hcode).1
  have hkeys : (u.updated p.updates).sources.keys = u.sources.keys := Table.keys_mapKeyed _ _
  obtain ⟨hprimary, hothers⟩ := seen_of_result hp
  obtain ⟨p', hp', hclean'⟩ := Except.exists_foldlM (P := Clean)
    (f := Progress.after (u.updated p.updates) trial' true) (l := primarySources u) (b := {})
    (fun name hname q hq => hq.after
      ((hprimary name hname).passed hid hu hkept htrial hpolicies)) ⟨rfl, rfl⟩
  obtain ⟨p'', hp'', hclean''⟩ := Except.exists_foldlM (P := Clean)
    (f := Progress.after (u.updated p.updates) trial' false)
    (l := u.sources.keys.filter (isComponentSource (primarySources u))) (b := p')
    (fun name hname q hq => hq.after
      ((hothers name hname).passed hid hu hkept htrial hpolicies)) hclean'
  have hresult : result (u.updated p.updates) trial' = .ok p'' := by
    rw [result, primarySources_updated, hkeys]
    exact Except.bind_eq_ok.2 ⟨p', hp', hp''⟩
  refine ⟨p''.reports, inject_eq_ok.2 ⟨p'', hresult, ?_, hclean''.summary.symm, rfl⟩⟩
  rw [hclean''.updates, updated_empty]

/-- **Giving hooks is idempotent.**  With given policies whose patterns may stand in quotes, with the
policies of the file on its own, and for the sources of a unit: a second run on what the first one
made plans nothing, applies nothing, and gives back what it got. -/
theorem hooks_idempotent :
    (∀ (policies : Table Policy) (sectionId path code : Text) (nodes : List Node),
      Syntax.read path code = .ok nodes → Quotable sectionId →
      (∀ name p pattern, policies.get? name = some p → p.pattern = some pattern →
        Quotable pattern) →
      ReadsBack path nodes (plan { nodes } sectionId policies) →
      ∃ t, transform policies sectionId path false code = .ok t ∧
        ∀ trial, transform policies sectionId path trial t.code = .ok {
          code := t.code, suggestions := [], applied := 0, isModified := false }) ∧
    (∀ (sectionId path code : Text) (nodes : List Node),
      Syntax.read path code = .ok nodes → Quotable sectionId →
      ReadsBack path nodes (plan { nodes } sectionId (Policy.ofFile path code)) →
      ∃ t, transformAlone sectionId path false code = .ok t ∧
        ∀ trial, transformAlone sectionId path trial t.code = .ok {
          code := t.code, suggestions := [], applied := 0, isModified := false }) ∧
    (∀ (u u' : UiUnit) (trial verbose : Bool) (summary : Summary) (reports : List SourceReport),
      Quotable u.sectionId → Dependable u →
      (inject u trial verbose).outcome.2 = .ok (u', summary, reports) →
      ∀ trial' verbose', (trial = true → trial' = true) →
        ∃ reports', (inject u' trial' verbose').outcome.2 =
          .ok (u', { method := .fromSyntax }, reports')) := by
  refine ⟨fun policies sectionId path code nodes hread hid hpatterns hback => ?_,
    fun sectionId path code nodes => transformAlone_again,
    fun u u' trial verbose summary reports hid hu h trial' verbose' htrial =>
      inject_again hid hu h htrial verbose'⟩
  obtain ⟨t, ht, -, hagain⟩ :=
    transform_again hread (quotable_of_patterns hid hpatterns) hback
  exact ⟨t, ht, hagain⟩

/-- The case of files with one element, and of a unit with one of them. -/
theorem hooks_idempotent_short :
    (∃ t, transform linkPolicies "s" "a.tsx" false "<A/>" = .ok t ∧ t.isModified = true ∧
      ∀ trial, transform linkPolicies "s" "a.tsx" trial t.code = .ok {
        code := t.code, suggestions := [], applied := 0, isModified := false }) ∧
    (∃ t, transformAlone "s" "a.tsx" false shortCode = .ok t ∧ t.isModified = true ∧
      ∀ trial, transformAlone "s" "a.tsx" trial t.code = .ok {
        code := t.code, suggestions := [], applied := 0, isModified := false }) ∧
    ∃ u' summary reports, (inject shortUnit false false).outcome.2 = .ok (u', summary, reports) ∧
      summary.applied = 1 ∧ ∀ trial verbose, ∃ reports',
        (inject u' trial verbose).outcome.2 = .ok (u', { method := .fromSyntax }, reports') := by
  refine ⟨?_, ?_, ?_⟩
  · have hread : (Syntax.read "a.tsx" "<A/>").toOption.any
        (fun nodes => ReadsBack "a.tsx" nodes (plan { nodes } "s" linkPolicies)) = true := by
      decide +kernel
    have hpatterns : ∀ e ∈ linkPolicies.entries, ∀ pattern ∈ e.2.pattern, Quotable pattern := by
      decide +kernel
    have hfirst : (transform linkPolicies "s" "a.tsx" false "<A/>").toOption.any
        Transform.isModified = true := by
      decide +kernel
    obtain ⟨nodes, hread, hback⟩ := Except.exists_of_any hread
    obtain ⟨t, ht, hagain⟩ := hooks_idempotent.1 linkPolicies "s" "a.tsx" "<A/>" nodes hread
      (by decide) (fun name p pattern hp hpattern =>
        hpatterns (name, p) (Table.get?_eq_some.1 hp) pattern hpattern) (of_decide_eq_true hback)
    rw [ht] at hfirst
    exact ⟨t, ht, hfirst, hagain⟩
  · have hread : (Syntax.read "a.tsx" shortCode).toOption.any (fun nodes =>
        ReadsBack "a.tsx" nodes (plan { nodes } "s" (Policy.ofFile "a.tsx" shortCode))) = true := by
      decide +kernel
    have hfirst : (transformAlone "s" "a.tsx" false shortCode).toOption.any
        Transform.isModified = true := by
      decide +kernel
    obtain ⟨nodes, hread, hback⟩ := Except.exists_of_any hread
    obtain ⟨t, ht, hagain⟩ := hooks_idempotent.2.1 "s" "a.tsx" shortCode nodes hread (by decide)
      (of_decide_eq_true hback)
    rw [ht] at hfirst
    exact ⟨t, ht, hfirst, hagain⟩
  · obtain ⟨u', summary, reports, -, hinject, happlied, -⟩ := exists_inject_shortUnit
    obtain ⟨nodes', hnodes', hback⟩ := exists_read_shortCode
    have hdependable : Dependable shortUnit := by
      intro name path code nodes hpath hcode hnodes
      obtain ⟨rfl, rfl⟩ := Prod.mk.inj (List.mem_singleton.1 (Table.get?_eq_some.1 hcode))
      obtain ⟨-, rfl⟩ := Prod.mk.inj (List.mem_singleton.1 (Table.get?_eq_some.1 hpath))
      rw [hnodes] at hnodes'
      obtain rfl := Except.ok.inj hnodes'
      exact hback
    refine ⟨u', summary, reports, hinject, happlied, fun trial verbose => ?_⟩
    exact hooks_idempotent.2.2 shortUnit u' false false summary reports quotable_shortUnit
      hdependable hinject trial verbose fun h => by cases h

end Hook

end UiHarness
