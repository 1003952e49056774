import UiHarness.Proofs.Generation.Sources
import UiHarness.Proofs.Hook.Bytes

/-!
# What a run leaves of the files that it changes

A source is read with unified line ends, and its text with hooks is written back as it is.  So a
file keeps its bytes around the hooks if it has no carriage returns, and only then.  A second
condition is that the text with hooks is what is written: a file can be known under several names,
and it is written back under the first name that has its path.

* `Generation.Afterwards`: what becomes of the file of a source.
* `Generation.preserved_iff`: when a file that was changed is preserved.
-/

namespace UiHarness.Generation

open Detection Disk

/-- What the file at a location holds after a unit was served, if anything was written there. -/
theorem fileAt?_of_serve {s : Settings} {u : UiUnit} {session : Session} {served : Served}
    {w : Prepared} (hw : Wrote s u session served w) (hdry : s.isDryRun = false) {d' : Disk}
    (hd' : d' = ((serve s u).outcome session).2.disk) (l : Location) :
    d'.fileAt? l = (((if d'.leadsTo served.paths.test l then some w.test else none).or
      ((if d'.leadsTo served.paths.interactor l then some w.interactor else none).or
        (d'.lastAt? l (Artifact.sourceWrites w.unit w.hooks.modified)))).map Text.encode).or
      (session.disk.fileAt? l) := by
  have hfiles := (serve_wrote s u session).files l
  rw [← hd', hw.made, hdry, if_neg Bool.false_ne_true, lastAt?_append, lastAt?, lastAt?, lastAt?,
    Option.none_or, Option.or_assoc] at hfiles
  exact hfiles

/-- The text that was last written back to the place of a changed source: its text, with or without
its hooks. -/
theorem lastAt?_sourceWrites {d d' : Disk} {s₀ : Settings} {u u' : UiUnit} {modified : List Text}
    (hu : Found d s₀ Path.Clean u) (ho : Hook.Outcome u u' modified) (hgrown : Grown d d')
    {name : Text} {path : Path} {l : Location} {raw : Text} {t : Hook.Transform}
    (hat : SourceAt d u name path l raw) (hr : Hook.Rewritten u name path.text t)
    (hp : path.text ∈ modified) :
    ∃ last, d'.lastAt? l (Artifact.sourceWrites u' modified) = some last ∧
      (last = t.code ∨ last = Text.unifyLineEnds raw) := by
  obtain ⟨first, hfirst⟩ := hu.exists_mem_sourceWrites ho hp
  rw [hat.ofText] at hfirst
  obtain ⟨last, hlast⟩ := isSome_lastAt? hfirst (leadsTo_of_locate hgrown hat.located)
  refine ⟨last, hlast, ?_⟩
  obtain ⟨path', hmem, hleads⟩ := exists_of_lastAt? hlast
  obtain ⟨key, l', raw', hat', hcases⟩ := hu.of_mem_sourceWrites ho hmem
  have hsame := same_of_leadsTo hgrown hat'.located hleads
  rcases hcases with hcode | ⟨r, hr', hcode⟩
  · rw [hat.raw_eq hat' hsame.symm] at hcode
    exact .inr hcode
  · exact .inl ((hr'.unique (hat.rewritten hat' hsame.symm hr)).2 ▸ hcode)

/-- What becomes of the file of a source when its unit is served.  The source has a name, a path and
a location, its file holds a raw text, and what the hooks make of it is `t`. -/
structure Afterwards (d : Disk) (s : Settings) (u : UiUnit) (session session' : Session)
    (served : Served) (w : Prepared) (name : Text) (path : Path) (l : Location) (raw : Text)
    (t : Hook.Transform) : Prop where
  prepared : ((prepare s u).outcome session).1 = .ok w
  source : SourceAt d u name path l raw
  hooks : Hook.Rewritten u name path.text t
  /-- If no generated file takes its place, the file is preserved under two conditions. -/
  kept : session'.disk.leadsTo served.paths.interactor l = false →
    session'.disk.leadsTo served.paths.test l = false →
    ((∃ after, session'.disk.fileAt? l = some after ∧
      Hook.Preserved t.ids (Text.encode raw) after) ↔
      '\r' ∉ raw ∧ session'.disk.lastAt? l
        (Artifact.sourceWrites w.unit served.hooks.modified) = some t.code)
  /-- Otherwise the generated file is there. -/
  replaced : session'.disk.leadsTo served.paths.interactor l = true ∨
    session'.disk.leadsTo served.paths.test l = true →
    session'.disk.fileAt? l = some (Text.encode w.interactor) ∨
      session'.disk.fileAt? l = some (Text.encode w.test)

/-- **When a file that was changed is preserved.**  For a unit that was found on a disk and served
there, each changed path belongs to a source that was given hooks.  Unless a generated file takes
the place of the file, the file afterwards has its bytes with these hooks put in exactly if it had
no carriage return before and the text with hooks is the last one that was written back there. -/
theorem preserved_iff {d : Disk} {s₀ s : Settings} {added : List Text}
    {found : UiHarness.Detection} {u : UiUnit} {session session' : Session} {g : Generation}
    {served : Served} {p : Text} (hfound : (fromFiles d s₀ added).outcome.2 = .ok found)
    (hu : u ∈ found.units) (hdisk : session.disk = d) (hdry : s.isDryRun = false)
    (hrun : (ofUnit s u).outcome session = (.ok g, session')) (hg : g.outcome = .ok served)
    (hp : p ∈ served.hooks.modified) :
    ∃ w name path l raw t, path.text = p ∧
      Afterwards d s u session session' served w name path l raw t := by
  have hunit := found_of_units hfound hu
  have hserve : ((serve s u).outcome session).1 = .ok served := by
    rw [← (outcome_ofUnit (congrArg Prod.fst hrun)).2, hg]
  have hd' : session'.disk = ((serve s u).outcome session).2.disk := by
    rw [← disk_ofUnit, hrun]
  obtain ⟨w, hw⟩ := wrote_of_serve hserve
  rw [hw.hooks] at hp
  obtain ⟨name, path, l, raw, t, rfl, hat, hr⟩ := hunit.changed hw.outcome hp
  have hgrown : Grown d session'.disk := by
    rw [hd', ← hdisk]
    exact (serve_wrote s u session).toGrown
  obtain ⟨last, hlast, hcases⟩ := lastAt?_sourceWrites hunit hw.outcome hgrown hat hr hp
  have hfile := fileAt?_of_serve hw hdry hd' l
  have hscattered : Scattered (t.ids.map Hook.attributeText) (Text.unifyLineEnds raw) t.code := by
    have hins := hr.scattered hat.text
    rwa [Hook.Transform.ids, List.map_map]
  have hids : t.ids ≠ [] := fun h => hr.suggestions_ne_nil (List.map_eq_nil_iff.1 h)
  rw [hlast] at hfile
  refine ⟨w, name, path, l, raw, t, rfl, hw.prepared, hat, hr, fun hi ht => ?_, fun hart => ?_⟩
  · rw [hi, ht, if_neg Bool.false_ne_true, Option.none_or, if_neg Bool.false_ne_true,
      Option.none_or, Option.map_some, Option.some_or] at hfile
    rw [hw.hooks, hlast, Option.some.injEq, ← Hook.preserved_hooks_iff hscattered]
    constructor
    · rintro ⟨after, hafter, hpreserved⟩
      rw [hfile] at hafter
      obtain rfl := Option.some.inj hafter
      rcases hcases with rfl | rfl
      · exact ⟨hpreserved, rfl⟩
      · exact absurd hpreserved (Hook.not_preserved_unhooked hids)
    · rintro ⟨hpreserved, rfl⟩
      exact ⟨_, hfile, hpreserved⟩
  · by_cases ht : session'.disk.leadsTo served.paths.test l = true
    · rw [ht, if_pos rfl, Option.some_or, Option.map_some, Option.some_or] at hfile
      exact .inr hfile
    · have hi := hart.resolve_right ht
      rw [if_neg ht, hi, if_pos rfl, Option.none_or, Option.some_or, Option.map_some,
        Option.some_or] at hfile
      exact .inl hfile

/-- The settings of the case that follows. -/
def shortSettings : Settings :=
  { sectionsRoot := .text "s", entities := .list [.text "e"], packageRoot := .text "p"
    interactorRoot := .text "i", testRoot := .text "t", fixturesPath := .text "f" }

/-- A workspace with one widget. -/
def shortDisk : Disk :=
  { entries := Table.ofList [("/s", .directory), ("/s/e", .directory), ("/s/e/W", .directory),
      ("/s/e/W/index.ts", .file (Text.encode "")),
      ("/s/e/W/Body.tsx", .file (Text.encode "import {A} from \"ui\";<A/>"))] }

/-- A session in that workspace. -/
def shortSession : Session :=
  { disk := shortDisk, environment := [("ANTHROPIC_API_KEY", "k")]
    replies := [.blocks [{ kind := none, text := some "{}" }],
      .blocks [{ kind := none, text := some "x" }], .blocks [{ kind := none, text := some "y" }]] }

/-- The case of a widget with one element. -/
theorem preserved_iff_widget : ∃ found u g session' served w name path l raw t,
    (fromFiles shortDisk shortSettings ["s/e/W/Body.tsx"]).outcome.2 = .ok found ∧
    u ∈ found.units ∧ (ofUnit shortSettings u).outcome shortSession = (.ok g, session') ∧
    g.outcome = .ok served ∧ path.text = "s/e/W/Body.tsx".toList ∧
    Afterwards shortDisk shortSettings u shortSession session' served w name path l raw t := by
  have hserved : ((fromFiles shortDisk shortSettings ["s/e/W/Body.tsx"]).outcome.2.toOption.any
      fun found => found.units.any fun u =>
        ((ofUnit shortSettings u).outcome shortSession).1.toOption.any fun g =>
          g.outcome.toOption.any fun served =>
            "s/e/W/Body.tsx".toList ∈ served.hooks.modified) = true := by
    decide +kernel
  obtain ⟨found, hfound, hserved⟩ := Except.exists_of_any hserved
  obtain ⟨u, hu, hserved⟩ := List.any_eq_true.1 hserved
  obtain ⟨g, hrun, hserved⟩ := Except.exists_of_any hserved
  obtain ⟨served, hg, hp⟩ := Except.exists_of_any hserved
  obtain ⟨w, name, path, l, raw, t, hpath, hafter⟩ := preserved_iff hfound hu rfl rfl
    (Prod.ext hrun rfl) hg (of_decide_eq_true hp)
  exact ⟨found, u, g, _, served, w, name, path, l, raw, t, hfound, hu, Prod.ext hrun rfl, hg,
    hpath, hafter⟩

end UiHarness.Generation
