import UiHarness.Proofs.Hook.Account
import UiHarness.Proofs.Hook.Recognition
import UiHarness.Proofs.Hook.Rewriting

/-!
# Components that cannot be read

A component that is not primary may be broken: it cannot be read.  It takes part in a run over the
unit in two places, where the imports of all sources are put together and where the sources are
given their hooks, and in both it counts for nothing.  So a run over the unit without its broken
components comes to the same.

* `UiUnit.Without`: a unit without some of its sources.
* `Hook.Broken`: a component that cannot be read.
* `Hook.policiesOf_without`: broken components add nothing to the policies.
* `Hook.result_without`: the progress of a run is the same without them.
* `Hook.broken_invisible`: so is what comes of the unit, and only a primary source stops a run.
-/

namespace UiHarness

/-- Entries that give nothing can be left out. -/
theorem flatMap_filter_of_nil {α β : Type} {p : α → Bool} {f : α → List β} {l : List α}
    (h : ∀ a ∈ l, p a = false → f a = []) : (l.filter p).flatMap f = l.flatMap f := by
  induction l with
  | nil => rfl
  | cons a l ih =>
    have ih := ih fun b hb => h b (List.mem_cons_of_mem _ hb)
    rw [List.flatMap_cons, List.filter_cons]
    split
    · rw [List.flatMap_cons, ih]
    · rename_i hp
      rw [h a (List.mem_cons_self ..) (Bool.not_eq_true _ ▸ hp), List.nil_append, ih]

/-! ## 1.  Units with fewer sources -/

namespace UiUnit

/-- The unit `u₀` is the unit `u` without the sources of some keys.  Whether it still knows their
paths does not matter. -/
structure Without (keys : List Text) (u u₀ : UiUnit) : Prop where
  kind : u₀.kind = u.kind
  name : u₀.name = u.name
  category : u₀.category = u.category
  root : u₀.root = u.root
  declaredId : u₀.declaredId = u.declaredId
  displayName : u₀.displayName = u.displayName
  route : u₀.route = u.route
  tabs : u₀.tabs = u.tabs
  misfits : u₀.misfits = u.misfits
  sources : u₀.sources = u.sources.filter (· ∉ keys)
  paths : ∀ key ∉ keys, u₀.paths.get? key = u.paths.get? key

/-- A unit with its paths, without the sources of some keys. -/
def leaveOut (keys : List Text) (u : UiUnit) : UiUnit :=
  { u with
    sources := u.sources.filter (· ∉ keys)
    located := fun key hk => u.located key (by
      rw [Table.keys_filter] at hk
      exact List.mem_of_mem_filter hk) }

theorem without_leaveOut (keys : List Text) (u : UiUnit) : Without keys u (u.leaveOut keys) :=
  ⟨rfl, rfl, rfl, rfl, rfl, rfl, rfl, rfl, rfl, rfl, fun _ _ => rfl⟩

variable {keys : List Text} {u u₀ : UiUnit}

theorem Without.sectionId (h : Without keys u u₀) : u₀.sectionId = u.sectionId := by
  rw [UiUnit.sectionId, UiUnit.sectionId, h.declaredId, h.name]

theorem Without.get? (h : Without keys u u₀) {key : Text} (hkey : key ∉ keys) :
    u₀.sources.get? key = u.sources.get? key := by
  rw [h.sources, Table.get?_filter, if_pos (decide_eq_true hkey)]

theorem Without.get?_of_mem (h : Without keys u u₀) {key : Text} (hkey : key ∈ keys) :
    u₀.sources.get? key = none := by
  have hout : ¬ decide (key ∉ keys) = true := fun hnot => (of_decide_eq_true hnot) hkey
  rw [h.sources, Table.get?_filter, if_neg hout]

/-- With the same new texts, the one unit is still the other without these sources. -/
theorem Without.updated (h : Without keys u u₀) (updates : Table Text) :
    Without keys (u.updated updates) (u₀.updated updates) := by
  have hsources : u₀.sources.mapKeyed (fun key t => (updates.get? key).getD t) =
      (u.sources.mapKeyed fun key t => (updates.get? key).getD t).filter (· ∉ keys) := by
    rw [h.sources, Table.filter_mapKeyed]
  exact ⟨h.kind, h.name, h.category, h.root, h.declaredId, h.displayName, h.route, h.tabs,
    h.misfits, hsources, h.paths⟩

end UiUnit

namespace Hook

open Syntax
open UiUnit (Without)

/-- A component of a unit that cannot be read. -/
structure Broken (u : UiUnit) (key : Text) : Prop where
  /-- It is neither primary nor a source without components, a query or from the shared package. -/
  component : isComponentSource (primarySources u) key = true
  unreadable : ∃ code path e, u.sources.get? key = some code ∧ u.paths.get? key = some path ∧
    Syntax.read path code = .error e

variable {keys : List Text} {u u₀ : UiUnit}

/-! ## 2.  The policies -/

/-- A broken component imports nothing. -/
theorem Broken.ofSource {e : Text × Text} (h : Broken u e.1) (he : e ∈ u.sources.entries) :
    Binding.ofSource ((u.paths.get? e.1).getD e.1) e.2 = [] := by
  obtain ⟨code, path, mistake, hcode, hpath, hread⟩ := h.unreadable
  rw [Table.get?_of_mem he, Option.some.injEq] at hcode
  rw [hpath, Option.getD_some, hcode]
  unfold Binding.ofSource
  rw [hread]

/-- What a unit imports from the UI library is imported by the sources that can be read. -/
theorem libraryBindings_without (h : Without keys u u₀) (hbroken : ∀ key ∈ keys, Broken u key) :
    libraryBindings u₀ = libraryBindings u := by
  have hentries : u₀.sources.entries = u.sources.entries.filter fun e => e.1 ∉ keys := by
    rw [h.sources]
    rfl
  rw [libraryBindings, libraryBindings, hentries, List.filter_comm]
  refine Eq.trans (List.flatMap_congr fun e he => ?_) (flatMap_filter_of_nil fun e he hkey => ?_)
  · rw [h.paths e.1 (of_decide_eq_true (List.mem_filter.1 he).2)]
  · have hkey : e.1 ∈ keys := Classical.not_not.1 (of_decide_eq_false hkey)
    rw [(hbroken e.1 hkey).ofSource (List.mem_of_mem_filter he), List.filter_nil]

/-- **The policies** of a unit are those that it has without its broken components. -/
theorem policiesOf_without (h : Without keys u u₀) (hbroken : ∀ key ∈ keys, Broken u key) :
    policiesOf u₀ = policiesOf u := by
  rw [policiesOf_eq, policiesOf_eq, libraryBindings_without h hbroken]

/-! ## 3.  The sources -/

theorem Broken.not_primary {key : Text} (h : Broken u key) : key ∉ primarySources u := by
  have hcomponent := h.component
  simp only [isComponentSource, Bool.and_eq_true, decide_eq_true_eq] at hcomponent
  exact hcomponent.1.1.1

/-- Nothing is read of a broken component but its mistake. -/
theorem Broken.look {key : Text} (h : Broken u key) (nodes : List Node) :
    look u key ≠ some (.ok nodes) := by
  intro hlook
  obtain ⟨code, path, e, hcode, hpath, hread⟩ := h.unreadable
  obtain ⟨code', path', hcode', hpath', -, -, hread'⟩ := look_eq_some_iff.1 hlook
  obtain rfl := Option.some.inj (hcode.symm.trans hcode')
  obtain rfl := Option.some.inj (hpath.symm.trans hpath')
  rw [hread] at hread'
  cases hread'

theorem Broken.not_reported {key : Text} (h : Broken u key) : key ∉ reported u := fun hmem =>
  let ⟨nodes, hlook⟩ := look_of_mem_reported hmem
  h.look nodes hlook

theorem primarySources_without (h : Without keys u u₀) (hbroken : ∀ key ∈ keys, Broken u key) :
    primarySources u₀ = primarySources u := by
  have hpage : u₀.isPage = u.isPage := by
    rw [UiUnit.isPage, UiUnit.isPage, h.kind]
  have hmain : u.isPage = true → u₀.sources.contains u.name = u.sources.contains u.name := by
    intro hp
    by_cases hkey : u.name ∈ keys
    · have hnot := (hbroken u.name hkey).not_primary
      rw [primarySources, if_pos hp] at hnot
      have hno : u.sources.contains u.name = false := by
        cases hc : u.sources.contains u.name with
        | false => rfl
        | true =>
          rw [if_pos hc] at hnot
          exact absurd (List.mem_singleton.2 rfl) hnot
      rw [Table.contains, h.get?_of_mem hkey, hno]
      rfl
    · rw [Table.contains, h.get? hkey, Table.contains]
  rw [primarySources, primarySources, hpage, h.name]
  split
  · rename_i hp
    rw [hmain hp]
  · rfl

theorem look_without (h : Without keys u u₀) {key : Text} (hkey : key ∉ keys) :
    look u₀ key = look u key := by
  rw [look, look, h.get? hkey, h.paths key hkey]

theorem hooksOf_without (h : Without keys u u₀) (hbroken : ∀ key ∈ keys, Broken u key) {key : Text}
    (hkey : key ∉ keys) : hooksOf u₀ key = hooksOf u key := by
  rw [hooksOf, hooksOf, look_without h hkey, h.sectionId, policiesOf_without h hbroken]

theorem note_without (h : Without keys u u₀) (hbroken : ∀ key ∈ keys, Broken u key) {key : Text}
    (hkey : key ∉ keys) (trial : Bool) (p : Progress) :
    p.note u₀ trial key = p.note u trial key := by
  rw [Progress.note, Progress.note, hooked, hooked, h.get? hkey, h.paths key hkey,
    hooksOf_without h hbroken hkey]

theorem isReported_without (h : Without keys u u₀) (hbroken : ∀ key ∈ keys, Broken u key)
    {key : Text} (hkey : key ∉ keys) (required : Bool) :
    isReported u₀ required key = isReported u required key := by
  rw [isReported, isReported, look_without h hkey, hooksOf_without h hbroken hkey]

/-- The sources that are reported are the same. -/
theorem reported_without (h : Without keys u u₀) (hbroken : ∀ key ∈ keys, Broken u key) :
    reported u₀ = reported u := by
  have hprimary : (primarySources u).filter (isReported u₀ true) =
      (primarySources u).filter (isReported u true) :=
    List.filter_congr fun key hmem => isReported_without h hbroken
      (fun hkey => (hbroken key hkey).not_primary hmem) true
  have hcomponents : (componentSources u₀).filter (isReported u₀ false) =
      (componentSources u).filter (isReported u false) := by
    rw [componentSources, componentSources, h.sources, Table.keys_filter,
      primarySources_without h hbroken, List.filter_filter, List.filter_filter, List.filter_filter]
    refine List.filter_congr fun key _ => ?_
    by_cases hkey : key ∈ keys
    · have hnot : isReported u false key = false := by
        rw [isReported]
        split
        · rename_i nodes hlook
          exact absurd hlook ((hbroken key hkey).look nodes)
        · rfl
      rw [hnot, decide_eq_false fun hnotin => hnotin hkey, Bool.and_false, Bool.false_and]
    · rw [isReported_without h hbroken hkey, decide_eq_true hkey, Bool.and_true]
  rw [reported, reported, primarySources_without h hbroken, hprimary, hcomponents]

/-- **The progress of a run** is the same without broken components. -/
theorem result_without (h : Without keys u u₀) (hbroken : ∀ key ∈ keys, Broken u key)
    (trial : Bool) : result u₀ trial = result u trial := by
  have hmistakes : (primarySources u).findSome? (mistake? u₀) =
      (primarySources u).findSome? (mistake? u) := by
    rw [← List.head?_filterMap, ← List.head?_filterMap]
    refine congrArg List.head? (List.filterMap_congr fun key hmem => ?_)
    rw [mistake?, mistake?, look_without h fun hkey => (hbroken key hkey).not_primary hmem]
  have hnotes : (reported u).foldl (Progress.note u₀ trial) {} =
      (reported u).foldl (Progress.note u trial) {} :=
    List.foldl_ext _ _ _ fun p key hmem => note_without h hbroken
      (fun hkey => (hbroken key hkey).not_reported hmem) trial p
  rw [result_eq, result_eq, primarySources_without h hbroken, hmistakes,
    reported_without h hbroken, hnotes]

/-! ## 4.  What comes of the unit -/

/-- What comes of a unit and of the unit without some of its sources is the same. -/
structure SameWithout (keys : List Text) (u : UiUnit)
    (r r₀ : Except Fault (UiUnit × Summary × List SourceReport)) : Prop where
  fails : ∀ f, r = .error f ↔ r₀ = .error f
  /-- The accounts are equal, and so are the texts of all remaining sources; the others stay. -/
  gives : ∀ u' summary reports, r = .ok (u', summary, reports) →
    ∃ u₀', r₀ = .ok (u₀', summary, reports) ∧ Without keys u' u₀' ∧
      ∀ key ∈ keys, u'.sources.get? key = u.sources.get? key

/-- A broken component stays as it is. -/
theorem Broken.kept {key : Text} (h : Broken u key) {trial : Bool} {p : Progress}
    (hp : result u trial = .ok p) :
    (u.updated p.updates).sources.get? key = u.sources.get? key := by
  rw [result_eq] at hp
  split at hp
  · cases hp
  · obtain rfl := Except.ok.inj hp
    have hnone : ((reported u).foldl (Progress.note u trial) {}).updates.get? key = none := by
      rw [updates_foldl_note, if_neg fun hmem => h.not_reported hmem.1]
      rfl
    rw [get?_updated, hnone]
    simp only [Option.getD_none, Option.map_id']

theorem sameWithout_inject (h : Without keys u u₀) (hbroken : ∀ key ∈ keys, Broken u key)
    (trial verbose : Bool) :
    SameWithout keys u (inject u trial verbose).outcome.2 (inject u₀ trial verbose).outcome.2 := by
  rw [(inject_ends u trial verbose).outcome, (inject_ends u₀ trial verbose).outcome,
    result_without h hbroken]
  cases hresult : result u trial with
  | error f => exact ⟨fun f' => .rfl, fun u' summary reports h => (by cases h)⟩
  | ok p =>
    refine ⟨fun f => ⟨fun h => (by cases h), fun h => (by cases h)⟩, ?_⟩
    intro u' summary reports hok
    obtain ⟨rfl, rfl, rfl⟩ := by simpa only [Prod.mk.injEq] using Except.ok.inj hok
    exact ⟨_, rfl, h.updated p.updates, fun key hkey => (hbroken key hkey).kept hresult⟩

/-- A mistake in a source stops a run exactly if the source is primary. -/
theorem inject_fails_iff (u : UiUnit) (trial verbose : Bool) :
    (∃ e, (inject u trial verbose).outcome.2 = .error (.source e)) ↔
      ∃ name ∈ primarySources u, ∃ code path e, u.sources.get? name = some code ∧
        u.paths.get? name = some path ∧ code ≠ [] ∧ path ≠ [] ∧
          Syntax.read path code = .error e := by
  have hmistake : ((primarySources u).findSome? (mistake? u)).isSome ↔
      ∃ name ∈ primarySources u, ∃ code path e, u.sources.get? name = some code ∧
        u.paths.get? name = some path ∧ code ≠ [] ∧ path ≠ [] ∧
          Syntax.read path code = .error e := by
    rw [List.findSome?_isSome_iff]
    simp only [Option.isSome_iff_exists, mistake?_eq_some_iff, look_eq_some_iff]
    refine exists_congr fun name => and_congr_right fun _ => ?_
    constructor
    · rintro ⟨e, code, path, h⟩
      exact ⟨code, path, e, h⟩
    · rintro ⟨code, path, e, h⟩
      exact ⟨e, code, path, h⟩
  rw [← hmistake, inject_eq]
  cases (primarySources u).findSome? (mistake? u) with
  | none => exact ⟨fun ⟨e, he⟩ => (by cases he), fun h => (by cases h)⟩
  | some e => exact ⟨fun _ => rfl, fun _ => ⟨e, rfl⟩⟩

/-- **Broken components are invisible**: a run over a unit comes to what it comes to without any of
them.  A mistake is told only if it is in a primary source. -/
theorem broken_invisible (u : UiUnit) (trial verbose : Bool) :
    (∀ keys u₀, Without keys u u₀ → (∀ key ∈ keys, Broken u key) →
      SameWithout keys u (inject u trial verbose).outcome.2
        (inject u₀ trial verbose).outcome.2) ∧
    ((∃ e, (inject u trial verbose).outcome.2 = .error (.source e)) ↔
      ∃ name ∈ primarySources u, ∃ code path e, u.sources.get? name = some code ∧
        u.paths.get? name = some path ∧ code ≠ [] ∧ path ≠ [] ∧
          Syntax.read path code = .error e) :=
  ⟨fun _ _ h hbroken => sameWithout_inject h hbroken trial verbose,
    inject_fails_iff u trial verbose⟩

/-- The unit with one source, with a component whose tag is cut off. -/
def brokenUnit : UiUnit := { shortUnit with
  sources := shortUnit.sources.insert "Rows" "<A"
  paths := shortUnit.paths.insert "Rows" "foo/Rows.tsx"
  located := by decide }

theorem without_shortUnit : Without ["Rows"] brokenUnit shortUnit := by
  refine ⟨rfl, rfl, rfl, rfl, rfl, rfl, rfl, rfl, rfl, rfl, fun key hkey => ?_⟩
  have hne : ¬ "Rows".toList = key := fun h => hkey (List.mem_singleton.2 h.symm)
  have hpaths : brokenUnit.paths = shortUnit.paths.insert "Rows" "foo/Rows.tsx" := rfl
  rw [hpaths, Table.get?_insert, if_neg hne]

theorem broken_rows : Broken brokenUnit "Rows" := by
  have hread : (Syntax.read "foo/Rows.tsx" "<A").toOption.isNone = true := by decide +kernel
  cases hresult : Syntax.read "foo/Rows.tsx" "<A" with
  | ok nodes =>
    rw [hresult] at hread
    cases hread
  | error e =>
    exact ⟨by decide, "<A".toList, "foo/Rows.tsx".toList, e, by decide, by decide, hresult⟩

/-- The case of this unit: its main source is given a hook as if there were no component. -/
theorem broken_invisible_rows : Broken brokenUnit "Rows" ∧
    SameWithout ["Rows"] brokenUnit (inject brokenUnit false false).outcome.2
      (inject shortUnit false false).outcome.2 ∧
    ∃ u' summary reports,
      (inject brokenUnit false false).outcome.2 = .ok (u', summary, reports) ∧
        summary.applied = 1 := by
  have hsame : SameWithout ["Rows"] brokenUnit (inject brokenUnit false false).outcome.2
      (inject shortUnit false false).outcome.2 := by
    refine (broken_invisible brokenUnit false false).1 _ _ without_shortUnit fun key hkey => ?_
    rw [List.mem_singleton.1 hkey]
    exact broken_rows
  refine ⟨broken_rows, hsame, ?_⟩
  obtain ⟨u₀', summary₀, reports₀, -, hinject₀, happlied, -⟩ := exists_inject_shortUnit
  cases hresult : (inject brokenUnit false false).outcome.2 with
  | error f =>
    have hfails := (hsame.fails f).1 hresult
    rw [hinject₀] at hfails
    cases hfails
  | ok r =>
    obtain ⟨u', summary, reports⟩ := r
    obtain ⟨u₁', hinject₁, -⟩ := hsame.gives u' summary reports hresult
    rw [hinject₀] at hinject₁
    obtain ⟨-, rfl, -⟩ := by simpa only [Prod.mk.injEq] using Except.ok.inj hinject₁
    exact ⟨u', summary₀, reports, rfl, happlied⟩

end Hook

end UiHarness
