import UiHarness.Proofs.Detection
import UiHarness.Proofs.Generation

/-!
# What a unit writes back

A source that was found is the text of its file, but with unified line ends.  What a unit leaves at
a place on the disk is the text of a source that was read from there, with its hooks or without, or
one of its generated files.

* `Detection.SourceAt`: a source, its path, its location and the text of its file.
* `Detection.Found.changed`: a changed path belongs to a source that was given hooks.
* `Generation.source_or_generated`: what a unit leaves at a location.
-/

namespace UiHarness

namespace Detection

/-! ## 1.  Sources and their files -/

/-- A source of a unit whose file is on a disk: its path, where it is, and what the file holds. -/
structure SourceAt (d : Disk) (u : UiUnit) (key : Text) (path : Path) (l : Location) (raw : Text) :
    Prop where
  listed : u.paths.get? key = some path.text
  names : path.Clean ∧ path.NamesFile
  located : d.locate path = .ok l
  file : d.fileAt? l = some (Text.encode raw)
  text : u.sources.get? key = some (Text.unifyLineEnds raw)

/-- The sources of a unit that was found are on the disk. -/
theorem Found.sourceAt {d : Disk} {s : Settings} {P : Path → Prop} {u : UiUnit}
    (h : Found d s P u) (hP : ∀ p, P p → p.Clean) {key text : Text}
    (hk : u.sources.get? key = some text) : ∃ path l raw, SourceAt d u key path l raw := by
  obtain ⟨path, hpath, hread⟩ := h.source hk
  obtain ⟨l, raw, hl, hfile, rfl⟩ := Disk.of_readText? hread.text
  exact ⟨path, l, raw, hpath, ⟨hP _ hread.property, hread.namesFile⟩, hl,
    Disk.fileAt?_eq_some.2 hfile, hk⟩

/-- A path is read from its text. -/
theorem SourceAt.ofText {d : Disk} {u : UiUnit} {key : Text} {path : Path} {l : Location}
    {raw : Text} (h : SourceAt d u key path l raw) : Path.ofText path.text = path :=
  Path.ofText_text h.names.1

/-- Sources at one place have the same text. -/
theorem SourceAt.raw_eq {d : Disk} {u u' : UiUnit} {key key' : Text} {path path' : Path}
    {l l' : Location} {raw raw' : Text} (h : SourceAt d u key path l raw)
    (h' : SourceAt d u' key' path' l' raw') (hs : l.Same l') : raw' = raw := by
  have hfile := h.file
  rw [Disk.fileAt?_of_same hs, h'.file] at hfile
  exact Text.encode_injective (Option.some.inj hfile)

/-- Sources of a unit at one place get the same hooks. -/
theorem SourceAt.rewritten {d : Disk} {u : UiUnit} {key key' : Text} {path path' : Path}
    {l l' : Location} {raw raw' : Text} {t : Hook.Transform} (h : SourceAt d u key path l raw)
    (h' : SourceAt d u key' path' l' raw') (hs : l.Same l')
    (ht : Hook.Rewritten u key path.text t) : Hook.Rewritten u key' path'.text t := by
  obtain ⟨code, hcode, htransform⟩ := ht.source
  rw [h.text] at hcode
  obtain rfl := Option.some.inj hcode
  have hends : Text.endsWith path.text ".ts" = Text.endsWith path'.text ".ts" :=
    Disk.endsWith_text_of_same h.names h'.names h.located h'.located hs (by decide)
  refine ⟨h'.listed, ⟨_, h'.text, ?_⟩, ht.changed⟩
  rw [h.raw_eq h' hs]
  exact Hook.transform_of_endsWith hends htransform

/-! ## 2.  What is written back -/

/-- The units that are found have sources at paths of names. -/
theorem found_of_units {d : Disk} {s : Settings} {added : List Text}
    {found : UiHarness.Detection} {u : UiUnit}
    (h : (fromFiles d s added).outcome.2 = .ok found) (hu : u ∈ found.units) :
    Found d s Path.Clean u :=
  found_of_mem (fun _ _ hp h => Settings.clean_inWorkspace hp h) (fun _ t hp => hp.child t) h hu

variable {d : Disk} {s : Settings} {u u' : UiUnit} {modified : List Text}

/-- A changed path belongs to a source that was given hooks. -/
theorem Found.changed (h : Found d s Path.Clean u) (ho : Hook.Outcome u u' modified) {p : Text}
    (hp : p ∈ modified) : ∃ name path l raw t, path.text = p ∧ SourceAt d u name path l raw ∧
      Hook.Rewritten u name path.text t := by
  obtain ⟨name, t, hr, -⟩ := ho.rewritten p hp
  obtain ⟨code, hcode, -⟩ := hr.source
  obtain ⟨path, l, raw, hat⟩ := h.sourceAt (fun _ hp => hp) hcode
  have hlisted := hat.listed
  rw [hr.located] at hlisted
  obtain rfl := Option.some.inj hlisted
  exact ⟨name, path, l, raw, t, rfl, hat, hr⟩

/-- What is written back for a changed path. -/
theorem Found.sourceAt_of_mem (h : Found d s Path.Clean u) (ho : Hook.Outcome u u' modified)
    {p : Text} (hp : p ∈ modified) :
    ∃ key path l raw t, path.text = p ∧ SourceAt d u key path l raw ∧
      Artifact.sourceAt u' p = .ok (some t) ∧
      (t = Text.unifyLineEnds raw ∨ ∃ r, Hook.Rewritten u key p r ∧ t = r.code) := by
  obtain ⟨name, r, hr, -⟩ := ho.rewritten p hp
  obtain ⟨key, code, t, hkey, hcode, ht, hcases⟩ :=
    Artifact.sourceAt_eq ho (fun _ _ hk => h.source_of_path hk) hr.located
  obtain ⟨path, l, raw, hsource⟩ := h.sourceAt (fun _ hp => hp) hcode
  have hlisted := hsource.listed
  rw [hkey] at hlisted
  have htext := hsource.text
  rw [hcode] at htext
  exact ⟨key, path, l, raw, t, (Option.some.inj hlisted).symm, hsource, ht,
    Option.some.inj htext ▸ hcases⟩

/-- A source that is written back goes to the file that it was read from. -/
theorem Found.of_mem_sourceWrites (h : Found d s Path.Clean u) (ho : Hook.Outcome u u' modified)
    {w : Disk.Write} (hw : w ∈ Artifact.sourceWrites u' modified) :
    ∃ key l raw, SourceAt d u key w.1 l raw ∧
      (w.2 = Text.unifyLineEnds raw ∨ ∃ r, Hook.Rewritten u key w.1.text r ∧ w.2 = r.code) := by
  obtain ⟨p, hp, hpath, hsource⟩ := Artifact.of_mem_sourceWrites hw
  obtain ⟨key, path, l, raw, t, rfl, hat, ht, hcases⟩ := h.sourceAt_of_mem ho hp
  rw [hat.ofText] at hpath
  rw [hsource] at ht
  obtain rfl := Option.some.inj (Except.ok.inj ht)
  exact ⟨key, l, raw, hpath ▸ hat, hpath ▸ hcases⟩

/-- Every changed path is written back. -/
theorem Found.exists_mem_sourceWrites (h : Found d s Path.Clean u)
    (ho : Hook.Outcome u u' modified) {p : Text} (hp : p ∈ modified) :
    ∃ t, (Path.ofText p, t) ∈ Artifact.sourceWrites u' modified := by
  have hall : ∀ p ∈ modified, ∃ t, Artifact.sourceAt u' p = .ok (some t) := by
    intro p hp
    obtain ⟨_, _, _, _, t, _, _, ht, _⟩ := h.sourceAt_of_mem ho hp
    exact ⟨t, ht⟩
  obtain ⟨t, ht⟩ := hall p hp
  exact ⟨t, Artifact.mem_sourceWrites hall hp ht⟩

end Detection

namespace Generation

open Detection Disk

/-- A generated file of a unit at a location. -/
def Generated (s : Settings) (u : UiUnit) (d' : Disk) (l : Location) (text : Text) : Prop :=
  ∃ w paths, (prepare s u).Gives w ∧ Artifact.pathsOf s u = .ok paths ∧
    ((d'.leadsTo paths.interactor l = true ∧ text = w.interactor) ∨
      (d'.leadsTo paths.test l = true ∧ text = w.test))

/-- **What a unit leaves at a location** is a generated file or the text of a source that was read
from there, with its hooks or without. -/
theorem source_or_generated {d d' : Disk} {s₀ s : Settings} {u : UiUnit} {session : Session}
    {l : Location} {text : Text} (hu : Found d s₀ Path.Clean u) (hgrown : Grown d d')
    (h : d'.lastAt? l (madeBy s u session) = some text) :
    Generated s u d' l text ∨ ∃ key path l' raw, SourceAt d u key path l' raw ∧ l.Same l' ∧
      (text = Text.unifyLineEnds raw ∨ ∃ r, Hook.Rewritten u key path.text r ∧ text = r.code) := by
  obtain ⟨p, hmem, hleads⟩ := exists_of_lastAt? h
  obtain ⟨w, hw, houtcome, hsource | ⟨paths, hpaths, hx⟩⟩ := of_mem_madeBy hmem
  · obtain ⟨key, l', raw, hat, hcases⟩ := hu.of_mem_sourceWrites houtcome hsource
    exact .inr ⟨key, p, l', raw, hat, (same_of_leadsTo hgrown hat.located hleads).symm, hcases⟩
  · refine .inl ⟨w, paths, ⟨session, _, Prod.ext hw rfl⟩, hpaths, ?_⟩
    rcases hx with hx | hx
    · obtain ⟨rfl, rfl⟩ := Prod.mk.inj hx
      exact .inl ⟨hleads, rfl⟩
    · obtain ⟨rfl, rfl⟩ := Prod.mk.inj hx
      exact .inr ⟨hleads, rfl⟩

end Generation

end UiHarness
