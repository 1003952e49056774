import UiHarness.Proofs.Artifact.Places
import UiHarness.Proofs.Generation.Preservation

/-!
# Generated files at the end of a run over several units

What was generated for a unit is at its place after the run, unless a later unit has the same
place.  A source of a later unit can be written to the place of a generated file only if a pair of
dots leads there: otherwise the file would have been there before, and a unit whose generated files
exist is not found.

* `Generation.Stands`: what is at the place of a generated file after a run.
* `Generation.stands_of_lastAt?`: it is what was generated, as far as the unit itself goes.
* `Generation.places_of_units`: the places of all units that are found together, and what is there
  after a run over them.
-/

namespace UiHarness

open Artifact Disk

/-! ## 1.  Units that are found -/

namespace Detection

variable {d d' : Disk} {s : Settings} {P : Path → Prop} {u : UiUnit}

/-- Units that are found have names without slashes. -/
theorem Found.named_places (h : Found d s P u) : Named u := by
  obtain ⟨hname, ⟨-, hcategory⟩ | ⟨-, hcategory⟩⟩ := h.named
  · exact ⟨hname, hcategory.2⟩
  · exact ⟨hname, hcategory ▸ UnitName.not_mem_entityType hname.2⟩

/-- The paths of the generated files of a unit that was found. -/
theorem Found.exists_base (h : Found d s P u) (hs : s.HasDefaultRoots) : ∃ base, s.base = .ok base ∧
    pathsOf s u = .ok ⟨base.below (interactorPlace u).parts, base.below (testPlace u).parts⟩ := by
  have hpaths := pathsOf_eq hs h.named_places
  cases hbase : s.base with
  | error f =>
    have hnew := h.new
    rw [exist, hpaths, hbase] at hnew
    cases hnew
  | ok base =>
    rw [hbase] at hpaths
    exact ⟨base, rfl, hpaths⟩

/-- Neither of the generated files of a unit that was found was there. -/
theorem Found.contains (h : Found d s P u) {paths : Paths} (hpaths : pathsOf s u = .ok paths) :
    d.contains paths.interactor = .ok false ∧ d.contains paths.test = .ok false := by
  have hnew := h.new
  rw [exist, hpaths, Except.bind_eq_ok] at hnew
  obtain ⟨_, hp, hnew⟩ := hnew
  obtain rfl := Except.ok.inj hp
  rw [Except.bind_eq_ok] at hnew
  obtain ⟨there, hthere, hnew⟩ := hnew
  cases there with
  | true => cases hnew
  | false => exact ⟨hthere, hnew⟩

/-- The directory of the workspace can be reached. -/
theorem Found.walk_base (h : Found d s P u) (hs : s.HasDefaultRoots) {base : Path}
    (hbase : s.base = .ok base) : ∃ l, d.walk (d.startOf base) base.parts = .ok l := by
  obtain ⟨root, path, l, ⟨v, p, hv, hp, hroot⟩, hpath, hl⟩ := h.placed
  have hrelative : p.root = [] := by
    rcases hv with rfl | rfl
    · rw [hs.sections] at hp
      exact Except.ok.inj hp ▸ rfl
    · rw [hs.pages] at hp
      exact Except.ok.inj hp ▸ rfl
  rw [Settings.inWorkspace_eq (hroot.trans hrelative), hbase] at hpath
  obtain rfl := Except.ok.inj hpath
  obtain ⟨l', hl', -⟩ := exists_walk_of_append hl
  exact ⟨l', hl'⟩

/-- A file at a place without pairs of dots that can be reached later has always been there. -/
theorem Found.contains_place (h : Found d s P u) (hs : s.HasDefaultRoots) (htree : d.IsTree)
    (hgrown : Grown d d') {base : Path} (hbase : s.base = .ok base) {place : Place}
    (hplain : place.Plain) (hdots : place.directory ≠ ["..".toList]) {l : Location}
    (hl : d'.locate (base.below place.parts) = .ok l) {bytes : ByteArray}
    (hfile : d.fileAt? l = some bytes) : d.contains (base.below place.parts) = .ok true := by
  have hat := fileAt?_eq_some.1 hfile
  obtain ⟨l', hl', hrest⟩ := exists_walk_of_append (walk_of_locate hl)
  obtain ⟨l'', hl''⟩ := h.walk_base hs hbase
  have hsame : l'' = l' := by
    have hwalk := walk_of_grown hgrown hl''
    rw [startOf, ← hgrown.here] at hwalk
    exact Except.ok.inj (hwalk.symm.trans hl')
  refine contains_of_locate (locate_of_walk hl ?_) hat
  change d.walk (d.startOf base) (base.parts ++ place.parts) = .ok l
  rw [walk_append, hl'', hsame]
  exact walk_of_isTree htree (hplain.not_mem_parts hdots) hrest
    (by rw [hat]; exact Option.some_ne_none _)

end Detection

namespace Generation

open Detection

/-! ## 2.  One place -/

/-- Places whose parts lead to one location are reached in the same way. -/
theorem reached_eq_of_leadsTo {d : Disk} {base : Path} {p q : Place} (hp : p.Plain) (hq : q.Plain)
    {l : Location} (hl : d.locate (base.below p.parts) = .ok l)
    (hleads : d.leadsTo (base.below q.parts) l = true) : p.reached = q.reached := by
  obtain ⟨l', hl', hs⟩ := leadsTo_iff.1 hleads
  obtain ⟨k, hk, hrest⟩ := exists_walk_of_append (walk_of_locate hl)
  obtain ⟨k', hk', hrest'⟩ := exists_walk_of_append (walk_of_locate hl')
  obtain rfl : k = k' := Except.ok.inj (hk.symm.trans hk')
  rw [eq_normalized_of_walk hrest, eq_normalized_of_walk hrest', hp.normalized, hq.normalized] at hs
  exact Location.eq_of_key_append (fun _ hm => hp.isPart_of_mem_reached hm)
    (fun _ hm => hq.isPart_of_mem_reached hm) hs.1.symm

variable {d : Disk} {s : Settings} {us : List UiUnit} {session session' : Session}

/-- A later unit of several has a source at a location. -/
def SourceLater (d : Disk) (us : List UiUnit) (k : Nat) (l : Location) : Prop :=
  ∃ j v key path l' raw, k < j ∧ us[j]? = some v ∧ SourceAt d v key path l' raw ∧ l.Same l'

/-- What is at the place of a generated file of one of several units after a run: what was generated
for the unit, unless a later unit shares the place.  If a pair of dots leads there, or if something
is not in a directory, it can be a source of a later unit too. -/
def Stands (d : Disk) (us : List UiUnit) (k : Nat) (d' : Disk) (place : Place) (path : Path)
    (text : Text) (shared : UiUnit → Prop) : Prop :=
  ∃ l, d'.locate path = .ok l ∧ (d'.fileAt? l = some (Text.encode text) ∨
    (∃ j v, k < j ∧ us[j]? = some v ∧ shared v) ∨
    (SourceLater d us k l ∧ (d.IsTree → place.directory = ["..".toList])))

/-- **What was generated for a unit stands at its place**, if it is what the unit itself has written
there last. -/
theorem stands_of_lastAt? (hs : s.HasDefaultRoots) (hus : ∀ u ∈ us, Found d s Path.Clean u)
    {k : Nat} {u : UiUnit} {g : Generation} {between : Session} (hu : u ∈ us)
    (hat : At s d u g ((trace s us session).drop k) session'.disk between) {base : Path}
    (hbase : s.base = .ok base) {place : Place} (hplain : place.Plain)
    (hnew : d.contains (base.below place.parts) = .ok false) {l : Location}
    (hl : session'.disk.locate (base.below place.parts) = .ok l) {text : Text}
    (hown : session'.disk.lastAt? l (madeBy s u between) = some text) {shared : UiUnit → Prop}
    (hshared : ∀ v ∈ us, (interactorPlace v).reached = place.reached ∨
      (testPlace v).reached = place.reached → shared v) :
    Stands d us k session'.disk place (base.below place.parts) text shared := by
  have hgrown : Grown d session'.disk := hat.grown.trans hat.wrote.toGrown
  obtain ⟨last, hlast⟩ : ∃ last,
      session'.disk.lastAt? l ((trace s us session).drop k).flatten = some last := by
    obtain ⟨p, hp, hleads⟩ := exists_of_lastAt? hown
    exact isSome_lastAt? (List.mem_flatten.2 ⟨_, List.mem_of_mem_head? hat.first, hp⟩) hleads
  have hfile := hat.wrote.files l
  obtain ⟨j, v, hj, hwrite⟩ := exists_lastWrite hlast
  obtain ⟨ws, hws, htext⟩ := hwrite.text
  rw [hlast, Option.map_some, Option.some_or] at hfile
  refine ⟨l, hl, ?_⟩
  rcases Nat.eq_or_lt_of_le hj with rfl | hlater
  · -- the unit itself has written there last
    have hfirst := hat.first
    rw [List.head?_drop, hws] at hfirst
    obtain rfl := Option.some.inj hfirst
    rw [hown] at htext
    obtain rfl := Option.some.inj htext
    exact .inl hfile
  · have hv := hus v (List.mem_of_getElem? hwrite.unit)
    obtain ⟨v', between, hv', rfl⟩ := of_traceFrom hws
    rw [hwrite.unit] at hv'
    obtain rfl := Option.some.inj hv'
    rcases source_or_generated hv hgrown htext with
      ⟨w, paths, -, hpaths, hleads⟩ | ⟨key, path, l', raw, hat, hsame, -⟩
    · refine .inr (.inl ⟨j, v, hlater, hwrite.unit, hshared v (List.mem_of_getElem? hwrite.unit) ?_⟩)
      obtain ⟨base', hbase', hpaths'⟩ := hv.exists_base hs
      rw [hbase] at hbase'
      obtain rfl := Except.ok.inj hbase'
      rw [hpaths] at hpaths'
      obtain rfl := Except.ok.inj hpaths'
      rcases hleads with ⟨hleads, -⟩ | ⟨hleads, -⟩
      · have hinteractor := plain_interactorPlace hv.named_places
        exact .inl (reached_eq_of_leadsTo hplain hinteractor hl hleads).symm
      · have htest := plain_testPlace hv.named_places
        exact .inr (reached_eq_of_leadsTo hplain htest hl hleads).symm
    · refine .inr (.inr ⟨⟨j, v, key, path, l', raw, hlater, hwrite.unit, hat, hsame⟩,
        fun htree => Classical.byContradiction fun hdots => ?_⟩)
      have hthere := (hus u hu).contains_place hs htree hgrown hbase hplain hdots hl
        ((fileAt?_of_same hsame).trans hat.file)
      rw [hnew] at hthere
      cases hthere

/-- The paths of two units that were found. -/
theorem paths_of_found (hs : s.HasDefaultRoots) {u v : UiUnit} (hu : Found d s Path.Clean u)
    (hv : Found d s Path.Clean v) : ∃ a b, pathsOf s u = .ok a ∧ pathsOf s v = .ok b ∧
      (a.interactor = b.interactor ↔ SameInteractor u v) ∧ (a.test = b.test ↔ SameTest u v) ∧
      a.interactor ≠ b.test := by
  obtain ⟨base, hbase, ha⟩ := hu.exists_base hs
  obtain ⟨base', hbase', hb⟩ := hv.exists_base hs
  rw [hbase] at hbase'
  obtain rfl := Except.ok.inj hbase'
  refine ⟨_, _, ha, hb, ?_, ?_, fun h => ?_⟩
  · rw [Path.below_inj]
    exact interactorPlace_parts_iff hu.named_places hv.named_places
  · rw [Path.below_inj]
    exact testPlace_parts_iff hu.named_places hv.named_places
  · exact interactorPlace_parts_ne hu.named_places hv.named_places (Path.below_inj.1 h)

/-- The generated files of one of several units stand at their places. -/
theorem stands_of_served (hs : s.HasDefaultRoots) (hus : ∀ u ∈ us, Found d s Path.Clean u)
    (hdry : s.isDryRun = false) {k : Nat} {u : UiUnit} {g : Generation} {between : Session}
    {served : Served} {w : Prepared} (hu : u ∈ us)
    (hat : At s d u g ((trace s us session).drop k) session'.disk between)
    (hw : Wrote s u between served w) : pathsOf s u = .ok served.paths ∧
      Stands d us k session'.disk (interactorPlace u) served.paths.interactor w.interactor
        (SameInteractor u) ∧
      Stands d us k session'.disk (testPlace u) served.paths.test w.test (SameTest u) := by
  have hnamed := (hus u hu).named_places
  obtain ⟨base, hbase, hpaths⟩ := (hus u hu).exists_base hs
  obtain ⟨hnewi, hnewt⟩ := (hus u hu).contains hpaths
  have hserved := hw.paths
  rw [pathsOf_of_outcome hw.outcome] at hserved
  have hplaces := Except.ok.inj (hserved.symm.trans hpaths)
  have hmade := hw.made
  rw [hdry, if_neg Bool.false_ne_true, hplaces] at hmade
  have hlocated : ∀ x ∈ madeBy s u between, ∃ l, session'.disk.locate x.1 = .ok l :=
    fun x hx => hat.wrote.located x (List.mem_flatten.2 ⟨_, List.mem_of_mem_head? hat.first, hx⟩)
  rw [hmade] at hlocated
  obtain ⟨li, hli⟩ := hlocated _ (List.mem_append_right _ (List.mem_cons_self ..))
  obtain ⟨lt, hlt⟩ := hlocated _ (List.mem_append_right _
    (List.mem_cons_of_mem _ (List.mem_singleton_self _)))
  -- the test does not take the place of the interactor
  have hapart : session'.disk.leadsTo (base.below (testPlace u).parts) li = false := by
    rw [← Bool.not_eq_true]
    intro hleads
    exact interactorPlace_reached_ne u u (reached_eq_of_leadsTo (plain_interactorPlace hnamed)
      (plain_testPlace hnamed) hli hleads)
  rw [hplaces]
  refine ⟨hpaths, ?_, ?_⟩
  · refine stands_of_lastAt? hs hus hu hat hbase (plain_interactorPlace hnamed) hnewi hli ?_ ?_
    · rw [hmade, lastAt?_append, lastAt?, lastAt?, lastAt?, hapart, if_neg Bool.false_ne_true,
        Option.none_or, Option.none_or, leadsTo_of_locate (.refl _) hli, if_pos rfl,
        Option.some_or]
    · rintro v hv (h | h)
      · exact interactorPlace_eq_iff.1
          (interactorPlace_eq_of_reached hnamed (hus v hv).named_places h.symm)
      · exact absurd h.symm (interactorPlace_reached_ne u v)
  · refine stands_of_lastAt? hs hus hu hat hbase (plain_testPlace hnamed) hnewt hlt ?_ ?_
    · rw [hmade, lastAt?_append, lastAt?, lastAt?, lastAt?, Option.none_or,
        leadsTo_of_locate (.refl _) hlt, if_pos rfl, Option.some_or, Option.some_or]
    · rintro v hv (h | h)
      · exact absurd h (interactorPlace_reached_ne v u)
      · exact testPlace_eq_iff.1 (testPlace_eq_of_reached hnamed (hus v hv).named_places h.symm)

/-! ## 3.  All places -/

/-- **Where the generated files of units go**, with the default roots.  Of any units that are found
together, the paths of the interactors are equal exactly for widgets of one name and for pages of
one category and stem, the paths of the tests exactly for units of one category and stem, and no
interactor has the path of a test.  After a run over such units, what was prepared for a unit in
the session in which it was served is at its place, unless a later unit shares the place. -/
theorem places_of_units {d : Disk} {s : Settings} {added : List Text}
    {found : UiHarness.Detection} (hs : s.HasDefaultRoots)
    (hfound : (fromFiles d s added).outcome.2 = .ok found) :
    (∀ u ∈ found.units, ∀ v ∈ found.units, ∃ a b, pathsOf s u = .ok a ∧ pathsOf s v = .ok b ∧
      (a.interactor = b.interactor ↔ SameInteractor u v) ∧ (a.test = b.test ↔ SameTest u v) ∧
      a.interactor ≠ b.test) ∧
    (∀ us session session' gs, (∀ u ∈ us, u ∈ found.units) → session.disk = d →
      s.isDryRun = false → (ofUnits s us).outcome session = (.ok gs, session') →
      ∀ (k : Nat) g served, gs[k]? = some g → g.outcome = .ok served →
        ∃ u between w, us[k]? = some u ∧ (sessions s us session)[k]? = some between ∧
          ((prepare s u).outcome between).1 = .ok w ∧ pathsOf s u = .ok served.paths ∧
          Stands d us k session'.disk (interactorPlace u) served.paths.interactor w.interactor
            (SameInteractor u) ∧
          Stands d us k session'.disk (testPlace u) served.paths.test w.test (SameTest u)) := by
  have hunits : ∀ u ∈ found.units, Found d s Path.Clean u := fun u hu => found_of_units hfound hu
  refine ⟨fun u hu v hv => paths_of_found hs (hunits u hu) (hunits v hv), ?_⟩
  intro us session session' gs hus hdisk hdry hrun k g served hg hok
  subst hdisk
  obtain ⟨u, between, hu, hbetween, hat⟩ := ofUnitsFrom_at hrun hg
  obtain ⟨w, hw⟩ := wrote_of_serve (hat.outcome.symm.trans hok)
  exact ⟨u, between, w, hu, hbetween, hw.prepared,
    stands_of_served hs (fun v hv => hunits v (hus v hv)) hdry (List.mem_of_getElem? hu) hat hw⟩

/-- A workspace with two widgets of one name, of different entities. -/
def twinDisk : Disk :=
  { entries := Table.ofList [("/packages", .directory), ("/packages/sections", .directory),
      ("/packages/sections/src", .directory), ("/packages/sections/src/drug", .directory),
      ("/packages/sections/src/drug/W", .directory),
      ("/packages/sections/src/drug/W/index.ts", .file (Text.encode "")),
      ("/packages/sections/src/study", .directory),
      ("/packages/sections/src/study/W", .directory),
      ("/packages/sections/src/study/W/index.ts", .file (Text.encode ""))] }

/-- The files of the two widgets. -/
def twinFiles : List Text :=
  ["packages/sections/src/drug/W/index.ts", "packages/sections/src/study/W/index.ts"]

/-- A session in that workspace. -/
def twinSession : Session :=
  { shortSession with disk := twinDisk, replies := shortSession.replies ++ shortSession.replies }

/-- The two widgets are found, have one path for their interactors, and are served. -/
theorem twins_served : ((fromFiles twinDisk {} twinFiles).outcome.2.toOption.any fun found =>
    (found.units.any fun u => found.units.any fun v => u.root ≠ v.root &&
      (pathsOf {} u).toOption.any fun a => (pathsOf {} v).toOption.any fun b =>
        a.interactor = b.interactor) &&
    ((ofUnits {} found.units).outcome twinSession).1.toOption.any fun gs =>
      gs[0]?.any fun g => g.outcome.toOption.isSome) = true := by
  decide +kernel

/-- **Two widgets of one name have one path for their interactors.** -/
theorem twins_collide : ∃ found u v a b, (fromFiles twinDisk {} twinFiles).outcome.2 = .ok found ∧
    u ∈ found.units ∧ v ∈ found.units ∧ u.root ≠ v.root ∧ pathsOf {} u = .ok a ∧
    pathsOf {} v = .ok b ∧ a.interactor = b.interactor := by
  obtain ⟨found, hfound, h⟩ := Except.exists_of_any twins_served
  obtain ⟨u, hu, h⟩ := List.any_eq_true.1 (Bool.and_eq_true_iff.1 h).1
  obtain ⟨v, hv, h⟩ := List.any_eq_true.1 h
  obtain ⟨hroots, h⟩ := Bool.and_eq_true_iff.1 h
  obtain ⟨a, ha, h⟩ := Except.exists_of_any h
  obtain ⟨b, hb, h⟩ := Except.exists_of_any h
  exact ⟨found, u, v, a, b, hfound, hu, hv, of_decide_eq_true hroots, ha, hb, of_decide_eq_true h⟩

/-- The case of these two widgets. -/
theorem places_of_twins : ∃ found gs session' g served u between w,
    (fromFiles twinDisk {} twinFiles).outcome.2 = .ok found ∧
    (ofUnits {} found.units).outcome twinSession = (.ok gs, session') ∧ gs[0]? = some g ∧
    g.outcome = .ok served ∧ found.units[0]? = some u ∧
    (sessions {} found.units twinSession)[0]? = some between ∧
    ((prepare {} u).outcome between).1 = .ok w ∧
    Stands twinDisk found.units 0 session'.disk (interactorPlace u) served.paths.interactor
      w.interactor (SameInteractor u) ∧
    Stands twinDisk found.units 0 session'.disk (testPlace u) served.paths.test w.test
      (SameTest u) := by
  obtain ⟨found, hfound, h⟩ := Except.exists_of_any twins_served
  obtain ⟨gs, hrun, h⟩ := Except.exists_of_any (Bool.and_eq_true_iff.1 h).2
  obtain ⟨g, hg, h⟩ := (Option.any_eq_true _ _).1 h
  cases hok : g.outcome with
  | error f =>
    rw [hok] at h
    cases h
  | ok served =>
    obtain ⟨u, between, w, hu, hbetween, hw, -, hi, ht⟩ :=
      (places_of_units ⟨rfl, rfl, rfl, rfl, rfl, rfl, rfl⟩ hfound).2 found.units twinSession _ gs
        (fun _ hu => hu) rfl rfl (Prod.ext hrun rfl) 0 g served hg hok
    exact ⟨found, gs, _, g, served, u, between, w, hfound, Prod.ext hrun rfl, hg, hok, hu,
      hbetween, hw, hi, ht⟩

end Generation

end UiHarness
