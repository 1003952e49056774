import UiHarness.Proofs.Generation.Preservation

/-!
# Hooks in files that several units share

The sources of a unit are read when the unit is found, and written back when it is served.  If
several units have the same file among their sources, each writes back its own copy, which has the
hooks of this unit and not those of the units that were served before it.  So a file has, after a
run over several units, the hooks of the last unit that wrote it back.

* `Generation.Copy`: a copy of a file that a unit writes back, and the hooks that it has.
* `Generation.Fate`: what becomes of a file that a unit gave hooks to, in a run over several units.
* `Generation.hooks_kept_iff`: when all hooks of a unit are in the file afterwards.
-/

namespace UiHarness.Generation

open Detection Disk

/-! ## 1.  Copies -/

/-- A copy of the file at a location that a unit writes back, and the identifiers of the hooks in
it: those that the unit gave to it, or none. -/
inductive Copy (d : Disk) (u : UiUnit) (l : Location) (raw : Text) : List Text → Text → Prop
  | plain {key : Text} {path : Path} {l' : Location} :
      SourceAt d u key path l' raw → l.Same l' → Copy d u l raw [] (Text.unifyLineEnds raw)
  | hooked {key : Text} {path : Path} {l' : Location} {t : Hook.Transform} :
      SourceAt d u key path l' raw → l.Same l' → Hook.Rewritten u key path.text t →
        Copy d u l raw t.ids t.code

variable {d : Disk} {u : UiUnit} {l : Location} {raw text : Text} {ids : List Text}

/-- A copy is the text of the file with its hooks put in. -/
theorem Copy.scattered (h : Copy d u l raw ids text) :
    Scattered (ids.map Hook.attributeText) (Text.unifyLineEnds raw) text := by
  cases h with
  | plain _ _ => exact .refl _
  | hooked hat _ hr =>
    rw [Hook.Transform.ids, List.map_map]
    exact hr.scattered hat.text

/-- The own copies of a unit have all of its hooks or none. -/
theorem Copy.own (h : Copy d u l raw ids text) {name : Text} {path : Path} {t : Hook.Transform}
    (hat : SourceAt d u name path l raw) (hr : Hook.Rewritten u name path.text t) :
    ids = t.ids ∨ ids = [] := by
  cases h with
  | plain _ _ => exact .inr rfl
  | hooked hat' hs hr' =>
    have ht := (hat.rewritten hat' hs hr).unique hr'
    exact .inl (by rw [ht.2])

/-- A text that was written to the place of a source is a copy of it or a generated file. -/
theorem copy_or_generated {s₀ s : Settings} {d' : Disk} {v : UiUnit} {session : Session}
    {name : Text} {path : Path} (hv : Found d s₀ Path.Clean v) (hgrown : Grown d d')
    (hat : SourceAt d u name path l raw)
    (h : d'.lastAt? l (madeBy s v session) = some text) :
    Generated s v d' l text ∨ ∃ ids, Copy d v l raw ids text := by
  rcases source_or_generated hv hgrown h with hgenerated | ⟨key, path', l', raw', hat', hs, hcases⟩
  · exact .inl hgenerated
  · obtain rfl : raw' = raw := hat.raw_eq hat' hs
    rcases hcases with rfl | ⟨r, hr, rfl⟩
    · exact .inr ⟨[], .plain hat' hs⟩
    · exact .inr ⟨r.ids, .hooked hat' hs hr⟩

/-! ## 2.  Runs over several units -/

/-- What becomes of a file, at the location `l`, that a unit gave the hooks of `t` to: in the run,
the unit `v` with the number `j` was the last one that wrote to its place, and left `last` there. -/
structure Fate (d : Disk) (s : Settings) (us : List UiUnit) (session session' : Session)
    (u : UiUnit) (name : Text) (path : Path) (l : Location) (raw : Text) (t : Hook.Transform)
    (j : Nat) (v : UiUnit) (last : Text) : Prop where
  source : SourceAt d u name path l raw
  hooks : Hook.Rewritten u name path.text t
  written : LastWrite s us session session'.disk l j v last
  file : session'.disk.fileAt? l = some (Text.encode last)
  origin : Generated s v session'.disk l last ∨ ∃ ids, Copy d v l raw ids last
  /-- The own copies of the unit have all of its hooks or none. -/
  own : ∀ ids, Copy d v l raw ids last → v = u → ids = t.ids ∨ ids = []
  /-- The hooks of the unit are there if the last copy has them. -/
  kept : ∀ ids, Copy d v l raw ids last → t.ids ⊆ ids → Hook.Present t.ids (Text.encode last)
  /-- Hooks of plain identifiers that the file did not have before are there only then. -/
  kept_iff : ∀ ids, Copy d v l raw ids last → (∀ id ∈ t.ids, Hook.IsPlain id) →
    (∀ id ∈ ids, Hook.IsPlain id) →
    (∀ id ∈ t.ids, ¬ Hook.Present [id] (Text.encode (Text.unifyLineEnds raw))) →
    ((∃ after, session'.disk.fileAt? l = some after ∧ Hook.Present t.ids after) ↔ t.ids ⊆ ids)

/-- **When the hooks of a unit are kept** in a run over several units that were found on a disk.
Each path that was changed for a unit belongs to a source of it, and some unit from this one on was
the last one that wrote to the place of the source.  Unless it is a generated file that was written
there, it is the own copy of that unit, read from the disk at the beginning; and the hooks of the
first unit are in the file afterwards exactly if the last unit has given them to it too. -/
theorem hooks_kept_iff {d : Disk} {s₀ s : Settings} {added : List Text}
    {found : UiHarness.Detection} {us : List UiUnit} {session session' : Session}
    {gs : List Generation} {k : Nat} {g : Generation} {served : Served} {p : Text}
    (hfound : (fromFiles d s₀ added).outcome.2 = .ok found) (hus : ∀ u ∈ us, u ∈ found.units)
    (hdisk : session.disk = d) (hdry : s.isDryRun = false)
    (hrun : (ofUnits s us).outcome session = (.ok gs, session')) (hg : gs[k]? = some g)
    (hserved : g.outcome = .ok served) (hp : p ∈ served.hooks.modified) :
    ∃ u name path l raw t j v last, us[k]? = some u ∧ path.text = p ∧ k ≤ j ∧
      Fate d s us session session' u name path l raw t j v last := by
  obtain ⟨u, between, hu, -, hat⟩ := ofUnitsFrom_at hrun hg
  have hunits : ∀ {i : Nat} {v : UiUnit}, us[i]? = some v → Found d s₀ Path.Clean v :=
    fun hv => found_of_units hfound (hus _ (List.mem_of_getElem? hv))
  obtain ⟨w, hw⟩ := wrote_of_serve (hat.outcome.symm.trans hserved)
  rw [hw.hooks] at hp
  obtain ⟨name, path, l, raw, t, rfl, hsource, hr⟩ := (hunits hu).changed hw.outcome hp
  have hgrown : Grown d session'.disk := hdisk ▸ hat.grown.trans hat.wrote.toGrown
  -- the unit itself has written to the place of the source
  obtain ⟨first, hfirst⟩ := (hunits hu).exists_mem_sourceWrites hw.outcome hp
  rw [hsource.ofText] at hfirst
  have hmade : (path, first) ∈ ((trace s us session).drop k).flatten := by
    refine List.mem_flatten.2 ⟨madeBy s u between, List.mem_of_mem_head? hat.first, ?_⟩
    rw [hw.made, hdry, if_neg Bool.false_ne_true]
    exact List.mem_append_left _ hfirst
  obtain ⟨last, hlast⟩ := isSome_lastAt? hmade (leadsTo_of_locate hgrown hsource.located)
  obtain ⟨j, v, hj, hwrite⟩ := exists_lastWrite hlast
  have hfile : session'.disk.fileAt? l = some (Text.encode last) := by
    have hfiles := hat.wrote.files l
    rwa [← trace, hlast, Option.map_some, Option.some_or] at hfiles
  have horigin : Generated s v session'.disk l last ∨ ∃ ids, Copy d v l raw ids last := by
    obtain ⟨ws, hws, htext⟩ := hwrite.text
    obtain ⟨v', between', hv', rfl⟩ := of_traceFrom hws
    rw [hwrite.unit] at hv'
    obtain rfl := Option.some.inj hv'
    exact copy_or_generated (hunits hwrite.unit) hgrown hsource htext
  refine ⟨u, name, path, l, raw, t, j, v, last, hu, rfl, hj, hsource, hr, hwrite, hfile, horigin,
    fun ids hcopy hvu => ?_, fun ids hcopy hsub id hid => ?_, fun ids hcopy hplain hplain' hnew => ?_⟩
  · subst hvu
    exact hcopy.own hsource hr
  · exact (Hook.preserved_of_scattered hcopy.scattered).infix_of_mem
      (List.mem_map.2 ⟨id, hsub hid, rfl⟩)
  · rw [← Hook.present_iff hcopy.scattered hplain hplain' hnew, hfile]
    exact ⟨fun ⟨_, hafter, hpresent⟩ => Option.some.inj hafter ▸ hpresent, fun h => ⟨_, rfl, h⟩⟩

/-- A workspace with two widgets whose bodies import one component. -/
def sharedDisk : Disk :=
  { entries := Table.ofList [("/s", .directory), ("/s/e", .directory),
      ("/s/e/C.tsx", .file (Text.encode "import {A} from \"ui\";<A/>")), ("/s/e/V", .directory),
      ("/s/e/V/index.ts", .file (Text.encode "")),
      ("/s/e/V/Body.tsx", .file (Text.encode "import C from \"../C\"")), ("/s/e/W", .directory),
      ("/s/e/W/index.ts", .file (Text.encode "")),
      ("/s/e/W/Body.tsx", .file (Text.encode "import C from \"../C\""))] }

/-- A session in that workspace. -/
def sharedSession : Session :=
  { shortSession with disk := sharedDisk, replies := shortSession.replies ++ shortSession.replies }

/-- The case of two widgets that share a component: the hooks of the first one are lost. -/
theorem hooks_kept_iff_widgets : ∃ found gs session' g served u name path l raw t j v last,
    (fromFiles sharedDisk shortSettings ["s/e/V/Body.tsx", "s/e/W/Body.tsx"]).outcome.2 =
      .ok found ∧
    (ofUnits shortSettings found.units).outcome sharedSession = (.ok gs, session') ∧
    gs[0]? = some g ∧ g.outcome = .ok served ∧ "s/e/V/../C.tsx".toList ∈ served.hooks.modified ∧
    session'.disk.fileAt? ["s", "e", "C.tsx"] =
      some (Text.encode "import {A} from \"ui\";<A data-testid=\"w-a\"/>") ∧
    found.units[0]? = some u ∧ path.text = "s/e/V/../C.tsx".toList ∧ 0 ≤ j ∧
    Fate sharedDisk shortSettings found.units sharedSession session' u name path l raw t j v
      last := by
  have hserved : ((fromFiles sharedDisk shortSettings
      ["s/e/V/Body.tsx", "s/e/W/Body.tsx"]).outcome.2.toOption.any fun found =>
        let r := (ofUnits shortSettings found.units).outcome sharedSession
        r.1.toOption.any fun gs => gs[0]?.any fun g => g.outcome.toOption.any fun served =>
          "s/e/V/../C.tsx".toList ∈ served.hooks.modified &&
            (r.2.disk.fileAt? ["s", "e", "C.tsx"]).any fun after => after.data.toList ==
              Text.bytes "import {A} from \"ui\";<A data-testid=\"w-a\"/>") = true := by
    decide +kernel
  obtain ⟨found, hfound, hserved⟩ := Except.exists_of_any hserved
  obtain ⟨gs, hrun, hserved⟩ := Except.exists_of_any hserved
  obtain ⟨g, hg, hserved⟩ := (Option.any_eq_true _ _).1 hserved
  obtain ⟨served, hok, hserved⟩ := Except.exists_of_any hserved
  rw [Bool.and_eq_true, decide_eq_true_eq] at hserved
  obtain ⟨hp, hserved⟩ := hserved
  obtain ⟨after, hafter, hbytes⟩ := (Option.any_eq_true _ _).1 hserved
  have hfile := Text.encode_eq_of_bytes (eq_of_beq hbytes).symm
  obtain ⟨u, name, path, l, raw, t, j, v, last, hu, hpath, hj, hfate⟩ := hooks_kept_iff hfound
    (fun _ hu => hu) rfl rfl (Prod.ext hrun rfl) hg hok hp
  exact ⟨found, gs, _, g, served, u, name, path, l, raw, t, j, v, last, hfound, Prod.ext hrun rfl,
    hg, hok, hp, hafter.trans (congrArg some hfile.symm), hu, hpath, hj, hfate⟩

end UiHarness.Generation
