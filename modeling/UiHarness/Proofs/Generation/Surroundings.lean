import UiHarness.Proofs.Artifact.Places
import UiHarness.Proofs.Generation.Additions
import UiHarness.Proofs.Generation.Placement

/-!
# What a run leaves as it was

With the default roots, all generated files are in the directory of the test platform, which is next
to that of the widgets and apart from that of the pages.  So a run over units that were found adds
nothing outside of it, but for the directory of the packages that both are in.  Files outside of it
are still there, and as texts: a source that was written back was a text before.

* `Artifact.InPlatform`: what is in the directory of the test platform, or above it.
* `Artifact.Place.OnPlatform.of_prefix`: what is on the way of a generated file.
* `Generation.Extends`: a disk that came of another one by generating files in a workspace.
* `Generation.extends_of_run`: the disk after a run over units that were found.
-/

namespace UiHarness

open Disk

namespace Artifact

/-! ## 1.  The directory of the test platform -/

/-- The directory of the packages. -/
def packages : Location := ["packages"]

/-- The directory of the test platform. -/
def platform : Location := ["packages", "platform-test"]

/-- In a workspace, what is in the directory of the test platform, and the directory of the
packages. -/
def InPlatform (t : Location) : Prop := t = packages ∨ t.take 2 = platform

instance (t : Location) : Decidable (InPlatform t) :=
  inferInstanceAs (Decidable (t = packages ∨ t.take 2 = platform))

/-- A place in the directory of the test platform. -/
structure Place.OnPlatform (p : Place) : Prop extends Plain p where
  within : p.root.take 2 = platform
  deep : 3 ≤ p.root.length

theorem onPlatform_interactorPlace {u : UiUnit} (h : Named u) : (interactorPlace u).OnPlatform := by
  refine ⟨plain_interactorPlace h, ?_, ?_⟩
  · rw [interactorPlace]
    split
    · rfl
    · rfl
  · rw [interactorPlace]
    split
    · exact show 3 ≤ pageRoot.length by decide
    · exact show 3 ≤ widgetRoot.length by decide

theorem onPlatform_testPlace {u : UiUnit} (h : Named u) : (testPlace u).OnPlatform :=
  ⟨plain_testPlace h, rfl, show 3 ≤ testRoot.length by decide⟩

/-- **What is on the way of a place** in a workspace. -/
theorem Place.OnPlatform.of_prefix {p : Place} (h : p.OnPlatform) {front : List Text}
    (hfront : front <+: p.parts) (start : Location) :
    ∃ t, Path.normalized start front = start ++ t ∧ (∀ part ∈ t, Path.IsPart part) ∧
      (t = [] ∨ InPlatform t) := by
  have hroot : p.root = platform ++ p.root.drop 2 := by
    rw [← h.within, List.take_append_drop]
  have hpart : ∀ part ∈ platform, Path.IsPart part := by decide
  have hcount : (p.directory ++ [p.file]).count "..".toList ≤ (p.root.drop 2).length := by
    have hdeep := h.deep
    have hsingle : p.directory.count "..".toList ≤ 1 :=
      Nat.le_trans List.count_le_length h.single
    rw [List.count_append, List.count_eq_zero.2 h.not_mem_file, List.length_drop]
    omega
  have hdots : "..".toList ∉ platform ++ p.root.drop 2 := hroot ▸ h.not_mem_root
  rw [Place.parts, List.append_assoc, hroot, List.append_assoc] at hfront
  rcases Path.normalized_of_prefix hdots hcount hfront with ⟨hkept, hnorm⟩ | ⟨t, ht, hnorm⟩
  · refine ⟨front, hnorm start, fun part hm => hpart part (hkept.subset hm), ?_⟩
    rcases List.prefix_cons_iff.1 hkept with rfl | ⟨more, rfl, hmore⟩
    · exact .inl rfl
    · rcases List.prefix_cons_iff.1 hmore with rfl | ⟨more, rfl, -⟩
      · exact .inr (.inl rfl)
      · exact .inr (.inr rfl)
  · refine ⟨platform ++ t, hnorm start, fun part hm => ?_, .inr (.inr rfl)⟩
    rcases List.mem_append.1 hm with hm | hm
    · exact hpart part hm
    · rcases List.mem_append.1 (ht part hm) with hm | hm
      · exact (h.named part (List.drop_subset _ _ hm)).1
      · rcases List.mem_append.1 hm with hm | hm
        · exact h.directory part hm
        · exact List.mem_singleton.1 hm ▸ h.file.1

end Artifact

namespace Generation

open Artifact Detection

variable {d d' : Disk} {s : Settings} {base : Path} {start l : Location} {p : Place}

/-- **On the way of a generated file** there are locations where something is, and locations in the
directory of the test platform. -/
theorem of_onWay_place (hp : p.OnPlatform) (hwalk : d.walk (d.startOf base) base.parts = .ok start)
    (hdirectory : d.at? start = some .directory) (h : OnWay d (base.below p.parts) l) :
    d.at? l ≠ none ∨ ∃ t, (start ++ t).Same l ∧ (∀ part ∈ t, Path.IsPart part) ∧ InPlatform t := by
  have hthere : d.at? start ≠ none := by
    rw [hdirectory]
    exact Option.some_ne_none _
  obtain ⟨front, ⟨back, hback⟩, hs⟩ := h
  change front ++ back = base.parts ++ p.parts at hback
  change Location.Same (Path.normalized (d.startOf base) front) l at hs
  rcases List.append_eq_append_iff.1 hback with ⟨rest, hbase, -⟩ | ⟨rest, rfl, hrest⟩
  · rw [← at?_of_same hs]
    exact .inl (at?_of_walk hwalk hthere ⟨rest, hbase.symm⟩)
  · obtain ⟨t, ht, hnames, hcases⟩ := hp.of_prefix ⟨back, hrest.symm⟩ start
    rw [Path.normalized_append, ← eq_normalized_of_walk hwalk, ht] at hs
    rcases hcases with rfl | hin
    · rw [List.append_nil] at hs
      rw [← at?_of_same hs]
      exact .inl hthere
    · exact .inr ⟨t, hs, hnames, hin⟩

/-- **A generated file** is in the directory of the test platform. -/
theorem of_leadsTo_place (hp : p.OnPlatform)
    (hwalk : d.walk (d.startOf base) base.parts = .ok start)
    (h : d.leadsTo (base.below p.parts) l = true) :
    ∃ t, (start ++ t).Same l ∧ (∀ part ∈ t, Path.IsPart part) ∧ (t = [] ∨ InPlatform t) := by
  obtain ⟨l', hl', hs⟩ := leadsTo_iff.1 h
  have hend : l' = Path.normalized (d.startOf base) (base.parts ++ p.parts) :=
    eq_normalized_of_walk (walk_of_locate hl')
  obtain ⟨t, ht, hnames, hcases⟩ := hp.of_prefix (List.prefix_refl _) start
  rw [Path.normalized_append, ← eq_normalized_of_walk hwalk, ht] at hend
  exact ⟨t, hend ▸ hs, hnames, hcases⟩

/-! ## 2.  After a run -/

/-- A disk that came of another one by generating files in a workspace: the directory of the
workspace was there, nothing is new outside of the test platform, and what is a text there was a
text before. -/
structure Extends (d d' : Disk) (base : Path) (start : Location) : Prop where
  grown : Grown d d'
  walk : d.walk (d.startOf base) base.parts = .ok start
  directory : d.at? start = some .directory
  old : ∀ t, (∀ part ∈ t, Path.IsPart part) → ¬ InPlatform t → Old d d' (start ++ t)
  text : ∀ t raw, (∀ part ∈ t, Path.IsPart part) → ¬ InPlatform t →
    d'.fileAt? (start ++ t) = some (Text.encode raw) →
      ∃ before, d.fileAt? (start ++ t) = some (Text.encode before)

/-- Where the generated files of a unit that was found go. -/
theorem exists_places {u : UiUnit} (hs : s.HasDefaultRoots) (hbase : s.base = .ok base)
    (hu : Found d s Path.Clean u) {paths : Paths} (hpaths : pathsOf s u = .ok paths) :
    ∃ p q : Place, p.OnPlatform ∧ q.OnPlatform ∧ paths.interactor = base.below p.parts ∧
      paths.test = base.below q.parts := by
  obtain ⟨base', hbase', hpaths'⟩ := hu.exists_base hs
  obtain rfl := Except.ok.inj (hbase.symm.trans hbase')
  obtain rfl := Except.ok.inj (hpaths.symm.trans hpaths')
  exact ⟨_, _, onPlatform_interactorPlace hu.named_places, onPlatform_testPlace hu.named_places,
    rfl, rfl⟩

/-- **The disk after a run over units that were found.** -/
theorem extends_of_run {us : List UiUnit} {session session' : Session} {gs : List Generation}
    (hs : s.HasDefaultRoots) (hbase : s.base = .ok base)
    (hus : ∀ u ∈ us, Found session.disk s Path.Clean u)
    (hwalk : session.disk.walk (session.disk.startOf base) base.parts = .ok start)
    (hdirectory : session.disk.at? start = some .directory)
    (hrun : (ofUnits s us).outcome session = (.ok gs, session')) :
    Extends session.disk session'.disk base start := by
  have hwrote := ofUnitsFrom_wrote hrun
  have hadded := added_ofUnitsFrom hus (Grown.refl _) hrun
  have hgrown := hwrote.toGrown
  refine ⟨hgrown, hwalk, hdirectory, fun t ht hout hat => ?_, fun t raw ht hout hfile => ?_⟩
  · intro hnone
    obtain ⟨u, hu, paths, hpaths, hway⟩ := hadded _ hnone hat
    obtain ⟨p, q, hp, hq, hinteractor, htest⟩ := exists_places hs hbase (hus u hu) hpaths
    have hplace : ∃ t', (start ++ t').Same (start ++ t) ∧ (∀ part ∈ t', Path.IsPart part) ∧
        InPlatform t' := by
      rw [hinteractor, htest] at hway
      rcases hway with hway | hway
      · exact (of_onWay_place hp hwalk hdirectory hway).resolve_left fun h => h hnone
      · exact (of_onWay_place hq hwalk hdirectory hway).resolve_left fun h => h hnone
    obtain ⟨t', hsame, ht', hin⟩ := hplace
    obtain rfl := Location.eq_of_key_append ht' ht hsame.1
    exact hout hin
  · have hfiles := hwrote.files (start ++ t)
    rw [hfile] at hfiles
    cases hlast : session'.disk.lastAt? (start ++ t) (trace s us session).flatten with
    | none =>
      change _ = ((session'.disk.lastAt? (start ++ t) (trace s us session).flatten).map _).or _
        at hfiles
      rw [hlast, Option.map_none, Option.none_or] at hfiles
      exact ⟨raw, hfiles.symm⟩
    | some last =>
      obtain ⟨j, v, -, hwrite⟩ := exists_lastWrite (k := 0) hlast
      obtain ⟨ws, hws, htext⟩ := hwrite.text
      obtain ⟨v', between, hv', rfl⟩ := of_traceFrom hws
      have hv := hus v' (List.mem_of_getElem? hv')
      rcases source_or_generated hv hgrown htext with
        ⟨w, paths, -, hpaths, hleads⟩ | ⟨key, path, l', before, hat, hsame, -⟩
      · -- no generated file is outside of the test platform
        obtain ⟨p, q, hp, hq, hinteractor, htest⟩ := exists_places hs hbase hv hpaths
        have hwalk' : session'.disk.walk (session'.disk.startOf base) base.parts = .ok start := by
          rw [startOf, hgrown.here]
          exact walk_of_grown hgrown hwalk
        have hplace : ∃ t', (start ++ t').Same (start ++ t) ∧ (∀ part ∈ t', Path.IsPart part) ∧
            (t' = [] ∨ InPlatform t') := by
          rw [hinteractor, htest] at hleads
          rcases hleads with ⟨hleads, -⟩ | ⟨hleads, -⟩
          · exact of_leadsTo_place hp hwalk' hleads
          · exact of_leadsTo_place hq hwalk' hleads
        obtain ⟨t', hsame, ht', hcases⟩ := hplace
        obtain rfl := Location.eq_of_key_append ht' ht hsame.1
        rcases hcases with rfl | hin
        · rw [List.append_nil, fileAt?_eq_some, hgrown.directory start hdirectory] at hfile
          cases hfile
        · exact absurd hin hout
      · exact ⟨before, (fileAt?_of_same hsame).trans hat.file⟩

end Generation

end UiHarness
