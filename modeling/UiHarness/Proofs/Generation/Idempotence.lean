import UiHarness.Proofs.Detection.Faults
import UiHarness.Proofs.Detection.Rescan

/-!
# Units are not found twice

With the default roots, a run over the units that were found for added files leaves nothing to find
for the same files: what is found afterwards was found before, and a unit that was served is not
found again, for its generated files exist.  So nothing is found if all units were served.

This is said of a search that has a result.  A search fails if the import of a widget has too long a
name, and the run can bring this about: the name is looked up only once the directories in front of
it exist, and these can be those of the generated files.

* `Generation.exist_of_served`: the generated files of a unit that was served exist.
* `Generation.found_before`: what is found after a run was found before.
* `Generation.not_found_again`: units that were served are not found again.
-/

namespace UiHarness.Generation

open Artifact Detection Disk

variable {d : Disk} {s : Settings} {us : List UiUnit} {session session' : Session}
  {gs : List Generation} {added : List Text} {found again : UiHarness.Detection} {u v : UiUnit}

/-! ## 1.  Units that were served -/

theorem succeeded_iff {g : Generation} : g.succeeded = true ↔ ∃ served, g.outcome = .ok served := by
  rw [succeeded]
  cases g.outcome with
  | ok served => exact ⟨fun _ => ⟨served, rfl⟩, fun _ => rfl⟩
  | error f => exact ⟨fun h => (by cases h), fun ⟨_, h⟩ => (by cases h)⟩

/-- **The generated files of a unit that was served exist.** -/
theorem exist_of_served (hdry : s.isDryRun = false)
    (hrun : (ofUnits s us).outcome session = (.ok gs, session')) {g : Generation} (hg : g ∈ gs)
    (hok : g.succeeded = true) : exist session'.disk s g.unit = .ok true := by
  obtain ⟨k, hk⟩ := List.mem_iff_getElem?.1 hg
  obtain ⟨served, hserved⟩ := succeeded_iff.1 hok
  obtain ⟨u, between, -, -, hat⟩ := ofUnitsFrom_at hrun hk
  change At s session.disk u g ((trace s us session).drop k) session'.disk between at hat
  obtain ⟨w, hw⟩ := wrote_of_serve (hat.outcome.symm.trans hserved)
  have hmem : (served.paths.interactor, w.interactor) ∈ ((trace s us session).drop k).flatten := by
    refine List.mem_flatten.2 ⟨_, List.mem_of_mem_head? hat.first, ?_⟩
    rw [hw.made, hdry, if_neg Bool.false_ne_true]
    exact List.mem_append_right _ (List.mem_cons_self ..)
  obtain ⟨l, hl⟩ := hat.wrote.located _ hmem
  obtain ⟨text, htext⟩ := isSome_lastAt? hmem (leadsTo_of_locate (.refl _) hl)
  have hfile := hat.wrote.files l
  rw [htext, Option.map_some, Option.some_or] at hfile
  have hpaths := hw.paths
  rw [pathsOf_of_outcome hw.outcome] at hpaths
  rw [hat.unit]
  exact Except.bind_eq_ok.2 ⟨_, hpaths, Except.bind_eq_ok.2
    ⟨true, contains_of_locate hl (fileAt?_eq_some.1 hfile), rfl⟩⟩

/-! ## 2.  Units that are found after a run -/

/-- The disk after a run over the units that were found, if there were any. -/
theorem extends_of_units (hs : s.HasDefaultRoots)
    (hfound : (fromFiles session.disk s added).outcome.2 = .ok found) (hu : u ∈ found.units)
    (hrun : (ofUnits s found.units).outcome session = (.ok gs, session')) :
    ∃ base start, s.base = .ok base ∧ Extends session.disk session'.disk base start := by
  have hunits : ∀ v ∈ found.units, Found session.disk s Path.Clean v :=
    fun v hv => found_of_units hfound hv
  obtain ⟨base, hbase, -⟩ := (hunits u hu).exists_base hs
  obtain ⟨start, hwalk, hdirectory⟩ := (rooting_of_mem hs hbase hfound hu).exists_start
  exact ⟨base, start, hbase, extends_of_run hs hbase hunits hwalk hdirectory hrun⟩

/-- **What is found after a run was found before.** -/
theorem found_before (hs : s.HasDefaultRoots) (htree : session.disk.IsTree)
    (hfound : (fromFiles session.disk s added).outcome.2 = .ok found)
    (hrun : (ofUnits s found.units).outcome session = (.ok gs, session'))
    (hagain : (fromFiles session'.disk s added).outcome.2 = .ok again) (hu : u ∈ again.units) :
    ∃ v ∈ found.units, v.root = u.root := by
  by_cases hnone : found.units = []
  · -- nothing was done
    rw [hnone] at hrun
    obtain ⟨-, rfl⟩ := Prod.mk.inj hrun
    obtain rfl := Except.ok.inj (hfound.symm.trans hagain)
    exact ⟨u, hu, rfl⟩
  obtain ⟨w, hw⟩ := List.exists_mem_of_ne_nil _ hnone
  obtain ⟨base, start, hbase, hextends⟩ := extends_of_units hs hfound hw hrun
  obtain ⟨hwidgets, hpages, -⟩ := fromFiles_eq_ok.1 hfound
  obtain ⟨hwidgets', hpages', -⟩ := fromFiles_eq_ok.1 hagain
  rcases List.mem_append.1 hu with hu | hu
  · obtain ⟨p, hp, hnew⟩ := (Search.mem_iff (faithful_widgetSearch _ s) hwidgets').1 hu
    obtain ⟨file, -, hplace⟩ := (widgetSearch session'.disk s).mem_places.1 hp
    obtain ⟨-, hknown, -⟩ := (Search.find_eq_ok (faithful_widgetSearch _ s)).1 hwidgets
    obtain ⟨before, hbefore⟩ := hknown p hp
    obtain ⟨hnow, hroot⟩ := of_new?_widgetSearch hnew
    obtain ⟨hwas, hroot'⟩ := of_new?_widgetSearch hbefore
    obtain ⟨v, rfl⟩ := Option.isSome_iff_exists.1
      (hextends.isNewWidget hs htree hbase hplace hwas hnow)
    refine ⟨v, List.mem_append_left _ ?_, Except.ok.inj ((hroot' v rfl).symm.trans (hroot u rfl))⟩
    exact (Search.mem_iff (faithful_widgetSearch _ s) hwidgets).2 ⟨p, hp, hbefore⟩
  · obtain ⟨p, hp, hnew⟩ := (Search.mem_iff (faithful_pageSearch _ s) hpages').1 hu
    obtain ⟨file, -, hplace⟩ := (pageSearch session'.disk s).mem_places.1 hp
    obtain ⟨-, hknown, -⟩ := (Search.find_eq_ok (faithful_pageSearch _ s)).1 hpages
    obtain ⟨before, hbefore⟩ := hknown p hp
    obtain ⟨hnow, hroot⟩ := of_new?_pageSearch hnew
    obtain ⟨hwas, hroot'⟩ := of_new?_pageSearch hbefore
    obtain ⟨v, rfl⟩ := Option.isSome_iff_exists.1
      (hextends.isNewPage hs hbase hplace hwas hnow)
    refine ⟨v, List.mem_append_right _ ?_, Except.ok.inj ((hroot' v rfl).symm.trans (hroot u rfl))⟩
    exact (Search.mem_iff (faithful_pageSearch _ s) hpages).2 ⟨p, hp, hbefore⟩

/-- **A unit that was served is not found again.** -/
theorem root_ne_of_served (hs : s.HasDefaultRoots) (hdry : s.isDryRun = false)
    (hfound : (fromFiles session.disk s added).outcome.2 = .ok found)
    (hrun : (ofUnits s found.units).outcome session = (.ok gs, session'))
    (hagain : (fromFiles session'.disk s added).outcome.2 = .ok again) (hu : u ∈ again.units)
    {g : Generation} (hg : g ∈ gs) (hok : g.succeeded = true) : g.unit.root ≠ u.root := by
  intro hroot
  have hmem : g.unit ∈ found.units := units_ofUnitsFrom hrun ▸ List.mem_map_of_mem hg
  have hnew := found_of_units hagain hu
  obtain ⟨base, hbase, -⟩ := hnew.exists_base hs
  obtain ⟨hpage, hname, hcategory⟩ := (rooting_of_mem hs hbase hfound hmem).eq_of_root_eq
    (rooting_of_mem hs hbase hagain hu) hroot
  have hexist := exist_of_served hdry hrun hg hok
  have hpaths : pathsOf s g.unit = pathsOf s u := by
    rw [pathsOf, pathsOf, hpage, hname, hcategory]
  have hnone := hnew.new
  rw [exist, ← hpaths] at hnone
  rw [exist] at hexist
  rw [hnone] at hexist
  cases hexist

/-! ## 3.  Searches that fail -/

/-- With the default roots, all settings that say where files are fit, if the workspace does. -/
theorem resolves_of_defaultRoots (hs : s.HasDefaultRoots)
    (hroot : ∃ root, s.workspace? = .ok root) : s.Resolves :=
  ⟨hroot, ⟨_, hs.package⟩, ⟨_, hs.interactors⟩, ⟨_, hs.tests⟩, ⟨_, hs.pageInteractors⟩,
    ⟨_, hs.pageTests⟩⟩

/-- If the directory of a unit is known, that of the workspace is. -/
theorem exists_workspace (hs : s.HasDefaultRoots) {v : Value} {b path : Path} {names : List Text}
    {root : Text} (hr : IsRoot v b names root) (hv : v = s.sectionsRoot ∨ v = s.pagesRoot)
    (h : s.inWorkspace (.ofText root) = .ok path) : ∃ root, s.workspace? = .ok root := by
  have hpath : ∃ parts, Settings.pathOf v = .ok ⟨[], parts⟩ := by
    rcases hv with rfl | rfl
    · exact ⟨_, pathOf_sectionsRoot hs⟩
    · exact ⟨_, pathOf_pagesRoot hs⟩
  obtain ⟨parts, hparts⟩ := hpath
  rw [hr.inWorkspace hparts] at h
  obtain ⟨base, hbase, -⟩ := Except.map_eq_ok.1 h
  obtain ⟨root, hroot, -⟩ := Except.bind_eq_ok.1 hbase
  exact ⟨root, hroot⟩

/-- A search that knows the places of the files fails as it does at a place, if there is one. -/
theorem failsOnly_find_again {π : Type} [DecidableEq π] {σ : Search π} {P : Fault → Prop}
    {d : Disk} (hσ : σ.Faithful) (hplaces : ∀ file ∈ added, ∃ place, σ.place? file = .ok place)
    (hnew : ∀ q ∈ σ.places added, ∀ p, Except.FailsOnly P (σ.new? d s p)) :
    Except.FailsOnly P (σ.find d s [] added) := by
  cases hnone : σ.places added with
  | nil =>
    have hempty : σ.find d s [] added = .ok [] := by
      refine (Search.find_eq_ok hσ).2 ⟨hplaces, fun p hp => ?_, ?_⟩
      · rw [hnone] at hp
        cases hp
      · rw [hnone]
        rfl
    rw [hempty]
    exact Except.failsOnly_ok []
  | cons q qs =>
    have hq : q ∈ σ.places added := hnone ▸ List.mem_cons_self ..
    exact Search.failsOnly_find
      (fun file hf => Except.failsOnly_of_exists (hplaces file hf)) (hnew q hq) []

/-- **A search for files that were searched before** fails for too long a name only. -/
theorem failsOnly_fromFiles (hs : s.HasDefaultRoots)
    (hfound : (fromFiles d s added).outcome.2 = .ok found) (d' : Disk) :
    Except.FailsOnly Fault.IsTooLong (fromFiles d' s added).outcome.2 := by
  obtain ⟨hwidgets, hpages, -⟩ := fromFiles_eq_ok.1 hfound
  obtain ⟨hwfiles, hwknown, -⟩ := (Search.find_eq_ok (faithful_widgetSearch d s)).1 hwidgets
  obtain ⟨hpfiles, hpknown, -⟩ := (Search.find_eq_ok (faithful_pageSearch d s)).1 hpages
  have hw : Except.FailsOnly Fault.IsTooLong ((widgetSearch d' s).find d' s [] added) := by
    refine failsOnly_find_again (faithful_widgetSearch d' s) hwfiles fun q hq p => ?_
    obtain ⟨file, -, hplace⟩ := (widgetSearch d' s).mem_places.1 hq
    obtain ⟨b, hr⟩ := isRoot_of_widgetPlace? hplace
    obtain ⟨new, hnew⟩ := hwknown q hq
    obtain ⟨path, hpath, -⟩ := Except.bind_eq_ok.1 (of_new?_widgetSearch hnew).1
    exact failsOnly_new?_widgetSearch
      (resolves_of_defaultRoots hs (exists_workspace hs hr (.inl rfl) hpath)) d' p
  have hp : Except.FailsOnly Fault.IsTooLong ((pageSearch d' s).find d' s [] added) := by
    refine failsOnly_find_again (faithful_pageSearch d' s) hpfiles fun q hq p => ?_
    obtain ⟨file, -, hplace⟩ := (pageSearch d' s).mem_places.1 hq
    obtain ⟨b, hr⟩ := isRoot_of_pagePlace? hplace
    obtain ⟨new, hnew⟩ := hpknown q hq
    obtain ⟨path, hpath, -⟩ := Except.bind_eq_ok.1 (of_new?_pageSearch hnew).1
    exact failsOnly_new?_pageSearch
      (resolves_of_defaultRoots hs (exists_workspace hs hr (.inr rfl) hpath)) d' p
  rw [(ends_fromFiles d' s added).outcome]
  exact hw.bind fun _ _ => hp.bind fun _ _ => Except.failsOnly_ok _

/-! ## 4.  Looking for units after a run -/

/-- **Units are not found twice.**  The units that are found for added files are taken up, with the
default roots and on a disk on which whatever there is, is in a directory.  If the same files are
searched again afterwards, all that is found was found before, and no unit that was served is among
it; so nothing is found if all were served.  The second search fails for too long a name only. -/
theorem not_found_again (hs : s.HasDefaultRoots) (hdry : s.isDryRun = false) (htree : d.IsTree)
    (hfound : (fromFiles d s added).outcome.2 = .ok found) (hdisk : session.disk = d)
    (hrun : (ofUnits s found.units).outcome session = (.ok gs, session')) :
    (∀ again, (fromFiles session'.disk s added).outcome.2 = .ok again →
      (∀ u ∈ again.units, (∃ v ∈ found.units, v.root = u.root) ∧
        ∀ g ∈ gs, g.succeeded = true → g.unit.root ≠ u.root) ∧
      ((∀ g ∈ gs, g.succeeded = true) → again.widgets = [] ∧ again.pages = [])) ∧
    ∀ f, (fromFiles session'.disk s added).outcome.2 = .error f → f.IsTooLong := by
  subst hdisk
  refine ⟨fun again hagain => ?_, failsOnly_fromFiles hs hfound session'.disk⟩
  have hroots : ∀ u ∈ again.units, (∃ v ∈ found.units, v.root = u.root) ∧
      ∀ g ∈ gs, g.succeeded = true → g.unit.root ≠ u.root := fun u hu =>
    ⟨found_before hs htree hfound hrun hagain hu,
      fun g hg hok => root_ne_of_served hs hdry hfound hrun hagain hu hg hok⟩
  refine ⟨hroots, fun hall => List.append_eq_nil_iff.1 ?_⟩
  rw [List.eq_nil_iff_forall_not_mem]
  intro u hu
  obtain ⟨⟨v, hv, hroot⟩, hne⟩ := hroots u hu
  obtain ⟨g, hg, rfl⟩ := List.mem_map.1 (units_ofUnitsFrom hrun ▸ hv)
  exact hne g hg (hall g hg) hroot

/-- A workspace with a widget whose body has an import from the directory of the interactors, which
is not there yet.  The name is too long: it has 64 characters of four bytes each. -/
def importDisk : Disk :=
  { entries := Table.ofList [("/packages", .directory), ("/packages/sections", .directory),
      ("/packages/sections/src", .directory), ("/packages/sections/src/drug", .directory),
      ("/packages/sections/src/drug/W", .directory),
      ("/packages/sections/src/drug/W/index.ts", .file (Text.encode "")),
      ("/packages/sections/src/drug/W/Body.tsx", .file (Text.encode
        ("import X from '../../../../platform-test/POM/objects/widgets/".toList ++
          List.replicate 64 '𝕟' ++ ['\''])))] }

/-- A session in that workspace. -/
def importSession : Session :=
  { disk := importDisk, environment := [("ANTHROPIC_API_KEY", "k")]
    replies := [.blocks [{ kind := none, text := some "\x7b\x7d" }],
      .blocks [{ kind := none, text := some "x" }], .blocks [{ kind := none, text := some "y" }]] }

/-- **The second search fails although the only unit was served**: the interactor has made the
directory in which the name of the import is looked up. -/
theorem not_found_again_of_import : ∃ found gs session' f,
    (fromFiles importDisk {} ["packages/sections/src/drug/W/Body.tsx"]).outcome.2 = .ok found ∧
    found.units ≠ [] ∧ (ofUnits {} found.units).outcome importSession = (.ok gs, session') ∧
    (∀ g ∈ gs, g.succeeded = true) ∧
    (fromFiles session'.disk {} ["packages/sections/src/drug/W/Body.tsx"]).outcome.2 = .error f ∧
    f.IsTooLong := by
  have hserved : ((fromFiles importDisk {}
      ["packages/sections/src/drug/W/Body.tsx"]).outcome.2.toOption.any fun found =>
        !found.units.isEmpty && ((ofUnits {} found.units).outcome importSession).1.toOption.any
          fun gs => gs.all succeeded && (fromFiles ((ofUnits {} found.units).outcome
            importSession).2.disk {}
              ["packages/sections/src/drug/W/Body.tsx"]).outcome.2.toOption.isNone) = true := by
    decide +kernel
  have htree : importDisk.IsTree := isTree_of_keys (by decide +kernel)
  obtain ⟨found, hfound, hserved⟩ := Except.exists_of_any hserved
  rw [Bool.and_eq_true] at hserved
  obtain ⟨gs, hrun, hagain⟩ := Except.exists_of_any hserved.2
  rw [Bool.and_eq_true] at hagain
  have hmain := not_found_again ⟨rfl, rfl, rfl, rfl, rfl, rfl, rfl⟩ rfl htree hfound rfl
    (Prod.ext hrun rfl)
  cases hend : (fromFiles ((ofUnits {} found.units).outcome importSession).2.disk {}
      ["packages/sections/src/drug/W/Body.tsx"]).outcome.2 with
  | ok again =>
    rw [hend] at hagain
    cases hagain.2
  | error f =>
    exact ⟨found, gs, _, f, hfound, by simpa using hserved.1, Prod.ext hrun rfl,
      List.all_eq_true.1 hagain.1, hend, hmain.2 f hend⟩

end UiHarness.Generation
