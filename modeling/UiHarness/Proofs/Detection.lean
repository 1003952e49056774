import UiHarness.Detection
import UiHarness.Proofs.Disk
import UiHarness.Proofs.Source

/-!
# What is known of the units that are found

A unit that is found among added files was read from the disk as it stands: each of its sources is
the text of the file at the path of the source, and neither of its generated files exists.

* `Detection.Found`: what is known of a unit that was found.
* `Detection.found_of_mem`: it is known of all units that are found.
* `Detection.Found.source`: a source is the text of the file at its path.
-/

namespace UiHarness

namespace Path

/-! ## 1.  Parts below a root -/

theorem append_of_stepsBehind? {p t rest : List Text} (h : stepsBehind? p t = some rest) :
    p ++ rest = t := by
  induction p generalizing t with
  | nil => exact (Option.some.inj h).symm
  | cons a p ih =>
    cases t with
    | nil => cases h
    | cons b t =>
      rw [stepsBehind?] at h
      split at h
      · rename_i hab
        rw [hab, List.cons_append, ih h]
      · cases h

/-- What stands behind another path consists of parts. -/
theorem mem_of_relativeTo? {p base : Path} {rest : List Text} {part : Text}
    (h : p.relativeTo? base = some rest) (hm : part ∈ rest) : part ∈ p.parts := by
  rw [relativeTo?] at h
  split at h
  · cases h
  · rename_i hbase
    have happ := append_of_stepsBehind? h
    by_cases hroot : p.root.isEmpty = true
    · rw [show p.steps = p.parts from if_pos hroot] at happ
      exact happ ▸ List.mem_append_right _ hm
    · -- the root of an absolute path belongs to the steps of the other one
      rw [show p.steps = p.root :: p.parts from if_neg hroot] at happ
      cases hb : base.steps with
      | nil =>
        refine absurd ?_ hbase
        rw [hb, List.isEmpty_nil, Bool.true_and, isAbsolute, Bool.not_eq_true', ← Bool.not_eq_true]
        exact hroot
      | cons a more =>
        rw [hb, List.cons_append] at happ
        exact (List.cons.inj happ).2 ▸ List.mem_append_right _ hm

end Path

namespace Settings

theorem clean_pathOf {v : Value} {p : Path} (h : pathOf v = .ok p) : p.Clean := by
  unfold pathOf at h
  split at h
  · exact Except.ok.inj h ▸ Path.clean_ofText _
  · cases h

theorem clean_workspace? {s : Settings} {root : Path} (h : s.workspace? = .ok (some root)) :
    root.Clean := by
  rw [workspace?] at h
  split at h
  · rw [Except.bind_eq_ok] at h
    obtain ⟨w, hw, h⟩ := h
    obtain rfl := Option.some.inj (Except.ok.inj h)
    exact clean_pathOf hw
  · cases h

/-- The directory of the workspace keeps paths of names. -/
theorem clean_inWorkspace {s : Settings} {p q : Path} (hp : p.Clean)
    (h : s.inWorkspace p = .ok q) : q.Clean := by
  rw [inWorkspace] at h
  split at h
  · exact Except.ok.inj h ▸ hp
  · rw [Except.bind_eq_ok] at h
    obtain ⟨root, hroot, h⟩ := h
    cases root with
    | none => exact Except.ok.inj h ▸ hp
    | some root => exact Except.ok.inj h ▸ (clean_workspace? hroot).join hp

end Settings

namespace Detection

/-! ## 2.  Places -/

theorem isPart_of_partsBelow {file : Text} {root : Value} {parts : List Text}
    (h : partsBelow file root = .ok (some parts)) : ∀ part ∈ parts, Path.IsPart part := by
  rw [partsBelow, Except.bind_eq_ok] at h
  obtain ⟨base, -, h⟩ := h
  exact fun part hm => (Path.clean_ofText file).parts part
    (Path.mem_of_relativeTo? (Except.ok.inj h) hm)

/-- A path that starts where one of the roots of units does. -/
def StartsAt (s : Settings) (path : Path) : Prop :=
  ∃ v root, (v = s.sectionsRoot ∨ v = s.pagesRoot) ∧ Settings.pathOf v = .ok root ∧
    path.root = root.root

theorem of_widgetPlace? {s : Settings} {file entity name root : Text}
    (h : widgetPlace? s file = .ok (some (entity, name, root))) :
    Path.IsPart entity ∧ Path.IsPart name ∧ StartsAt s (.ofText root) := by
  rw [widgetPlace?, Except.bind_eq_ok] at h
  obtain ⟨parts, hparts, h⟩ := h
  split at h
  · rename_i e n more
    rw [Except.bind_eq_ok] at h
    obtain ⟨known, -, h⟩ := h
    have hall := isPart_of_partsBelow hparts
    cases known with
    | false => cases h
    | true =>
      rw [if_pos rfl, Except.bind_eq_ok] at h
      obtain ⟨base, hbase, h⟩ := h
      cases h
      have hentity : Path.IsPart entity := hall _ (by simp)
      have hname : Path.IsPart name := hall _ (by simp)
      refine ⟨hentity, hname, _, base, .inl rfl, hbase, ?_⟩
      rw [Path.ofText_text (((Settings.clean_pathOf hbase).child _).child _),
        Path.child_of_isPart _ hname, Path.child_of_isPart _ hentity]
  · cases h

theorem of_pagePlace? {s : Settings} {file name root : Text}
    (h : pagePlace? s file = .ok (some (name, root))) :
    Path.IsPart name ∧ StartsAt s (.ofText root) := by
  rw [pagePlace?, Except.bind_eq_ok] at h
  obtain ⟨parts, hparts, h⟩ := h
  split at h
  · have hall := isPart_of_partsBelow hparts
    rw [Except.bind_eq_ok] at h
    obtain ⟨base, hbase, h⟩ := h
    cases h
    have hname : Path.IsPart name := hall _ (by simp)
    refine ⟨hname, _, base, .inr rfl, hbase, ?_⟩
    rw [Path.ofText_text ((Settings.clean_pathOf hbase).child _), Path.child_of_isPart _ hname]
  · cases h

/-! ## 3.  Units -/

/-- What is known of a unit that was found: its kind and its names, that its directory can be
reached, that its sources were read at paths of a property, and that its generated files do not
exist. -/
structure Found (d : Disk) (s : Settings) (P : Path → Prop) (u : UiUnit) : Prop where
  named : Path.IsPart u.name ∧ ((u.kind = .widget ∧ Path.IsPart u.category) ∨
    (u.kind = .page ∧ u.category = UnitName.entityType u.name))
  placed : ∃ root path l, StartsAt s root ∧ s.inWorkspace root = .ok path ∧
    d.walk (d.startOf path) path.parts = .ok l
  read : ∃ files, Source.Sound d P files ∧ u.sources = Source.texts files ∧
    u.paths = Source.paths files
  new : Artifact.exist d s u = .ok false

variable {d : Disk} {s : Settings} {P : Path → Prop}

/-- **A source is the text of the file at its path.** -/
theorem Found.source {u : UiUnit} (h : Found d s P u) {key text : Text}
    (hk : u.sources.get? key = some text) :
    ∃ path, u.paths.get? key = some path.text ∧ Source.IsRead d P ⟨text, path⟩ := by
  obtain ⟨files, hsound, hs, hp⟩ := h.read
  rw [hs, Source.texts, Table.get?_map, Option.map_eq_some_iff] at hk
  obtain ⟨f, hf, rfl⟩ := hk
  exact ⟨f.path, by rw [hp, Source.paths, Table.get?_map, hf, Option.map_some], hsound key f hf⟩

/-- Every path belongs to a source. -/
theorem Found.source_of_path {u : UiUnit} (h : Found d s P u) {key p : Text}
    (hk : u.paths.get? key = some p) : ∃ text, u.sources.get? key = some text := by
  obtain ⟨files, -, hs, hp⟩ := h.read
  rw [hp, Source.paths, Table.get?_map, Option.map_eq_some_iff] at hk
  obtain ⟨f, hf, -⟩ := hk
  exact ⟨f.text, by rw [hs, Source.texts, Table.get?_map, hf, Option.map_some]⟩

theorem of_unlessServed {skipped : Text} {found : Option UiUnit} {us : List UiUnit} {u : UiUnit}
    (h : (unlessServed d s skipped found).Gives us) (hu : u ∈ us) :
    found = some u ∧ Artifact.exist d s u = .ok false := by
  cases found with
  | none =>
    obtain rfl := Reporting.gives_pure.1 h
    cases hu
  | some v =>
    obtain ⟨served, hserved, h⟩ := h.bind
    cases served with
    | true =>
      obtain ⟨-, -, h⟩ := h.bind
      obtain rfl := Reporting.gives_pure.1 h
      cases hu
    | false =>
      obtain rfl := Reporting.gives_pure.1 h
      obtain rfl := List.mem_singleton.1 hu
      exact ⟨rfl, Reporting.gives_ofExcept.1 hserved⟩

/-- A unit with an entry file has a directory that can be reached. -/
theorem walk_of_entryFile? {unit path : Path} (h : entryFile? d unit = .ok (some path)) :
    ∃ l, d.walk (d.startOf unit) unit.parts = .ok l := by
  obtain ⟨hm, hfile⟩ := Except.of_findM? h
  obtain ⟨l, hl⟩ := Disk.exists_locate_of_isFile hfile
  have hwalk := Disk.walk_of_locate hl
  have hchild : ∀ name ∈ entryFiles, unit.child name = ⟨unit.root, unit.parts ++ [name]⟩ := by
    intro name hname
    refine Path.child_of_isPart unit ?_
    rw [entryFiles, List.mem_cons, List.mem_singleton] at hname
    rcases hname with rfl | rfl
    · exact ⟨by decide, by decide⟩
    · exact ⟨by decide, by decide⟩
  obtain ⟨name, hname, rfl⟩ := List.mem_map.1 hm
  rw [hchild name hname] at hwalk
  obtain ⟨l', hl', -⟩ := Disk.exists_walk_of_append hwalk
  exact ⟨l', hl'⟩

variable (hbase : ∀ p q, p.Clean → s.inWorkspace p = .ok q → P q)
  (hchild : ∀ p t, P p → P (p.child t))

include hbase hchild

theorem found_of_widgetAt? {entity name root : Text} {u : UiUnit}
    (hentity : Path.IsPart entity) (hname : Path.IsPart name) (hstart : StartsAt s (.ofText root))
    (h : widgetAt? d s entity name root = .ok (some u)) (hnew : Artifact.exist d s u = .ok false) :
    Found d s P u := by
  rw [widgetAt?, Except.bind_eq_ok] at h
  obtain ⟨path, hpath, h⟩ := h
  rw [Except.bind_eq_ok] at h
  obtain ⟨entry, hentry, h⟩ := h
  split at h
  · cases h
  · rename_i hsome
    obtain ⟨file, rfl⟩ : ∃ file, entry = some file := by
      cases entry with
      | none => exact absurd rfl hsome
      | some file => exact ⟨file, rfl⟩
    obtain ⟨l, hl⟩ := walk_of_entryFile? hentry
    rw [Except.bind_eq_ok] at h
    obtain ⟨facts, -, h⟩ := h
    dsimp only at h
    rw [Except.bind_eq_ok] at h
    obtain ⟨packageRoot, hroot, h⟩ := h
    rw [Except.bind_eq_ok] at h
    obtain ⟨files, hfiles, h⟩ := h
    cases h
    rw [Settings.resolve, Except.bind_eq_ok] at hroot
    obtain ⟨p, hp, hroot⟩ := hroot
    have hpackage : ∀ q ∈ some packageRoot, P q := by
      intro q hq
      obtain rfl := Option.some.inj hq
      exact hbase p _ (Settings.clean_pathOf hp) hroot
    exact ⟨⟨hname, .inl ⟨rfl, hentity⟩⟩, ⟨_, path, l, hstart, hpath, hl⟩,
      ⟨files, Source.sound_ofWidget hchild
      (hbase _ path (Path.clean_ofText root) hpath) hpackage hfiles, rfl, rfl⟩, hnew⟩

theorem found_of_pageAt? {name root : Text} {u : UiUnit} (hname : Path.IsPart name)
    (hstart : StartsAt s (.ofText root)) (h : pageAt? d s name root = .ok (some u)) (hnew : Artifact.exist d s u = .ok false) :
    Found d s P u := by
  rw [pageAt?, Except.bind_eq_ok] at h
  obtain ⟨path, hpath, h⟩ := h
  rw [Except.bind_eq_ok] at h
  obtain ⟨isDirectory, hdirectory, h⟩ := h
  split at h
  · rename_i htrue
    rw [htrue] at hdirectory
    obtain ⟨l, hl⟩ := Disk.exists_locate_of_isDirectory hdirectory
    rw [Except.bind_eq_ok] at h
    obtain ⟨files, hfiles, h⟩ := h
    split at h
    · cases h
    · cases h
      exact ⟨⟨hname, .inr ⟨rfl, rfl⟩⟩, ⟨_, path, l, hstart, hpath, Disk.walk_of_locate hl⟩,
        ⟨files, Source.sound_ofPage hchild
        (hbase _ path (Path.clean_ofText root) hpath) hfiles, rfl, rfl⟩, hnew⟩
  · cases h

theorem found_of_mem_widgetsFrom {seen files : List Text} {us : List UiUnit}
    (h : (widgetsFrom d s seen files).Gives us) : ∀ u ∈ us, Found d s P u := by
  induction files generalizing seen us with
  | nil =>
    obtain rfl := Reporting.gives_pure.1 h
    exact fun u hu => absurd hu List.not_mem_nil
  | cons file files ih =>
    rw [widgetsFrom] at h
    obtain ⟨place, hplace, h⟩ := h.bind
    cases place with
    | none => exact ih h
    | some place =>
      obtain ⟨entity, name, root⟩ := place
      obtain ⟨hentity, hname, hstart⟩ := of_widgetPlace? (Reporting.gives_ofExcept.1 hplace)
      dsimp only at h
      split at h
      · exact ih h
      · obtain ⟨found, hfound, h⟩ := h.bind
        obtain ⟨here, hhere, h⟩ := h.bind
        obtain ⟨rest, hrest, h⟩ := h.bind
        obtain rfl := Reporting.gives_pure.1 h
        intro u hu
        rcases List.mem_append.1 hu with hu | hu
        · obtain ⟨rfl, hnew⟩ := of_unlessServed hhere hu
          exact found_of_widgetAt? hbase hchild hentity hname hstart
            (Reporting.gives_ofExcept.1 hfound) hnew
        · exact ih hrest u hu

theorem found_of_mem_pagesFrom {seen files : List Text} {us : List UiUnit}
    (h : (pagesFrom d s seen files).Gives us) : ∀ u ∈ us, Found d s P u := by
  induction files generalizing seen us with
  | nil =>
    obtain rfl := Reporting.gives_pure.1 h
    exact fun u hu => absurd hu List.not_mem_nil
  | cons file files ih =>
    rw [pagesFrom] at h
    obtain ⟨place, hplace, h⟩ := h.bind
    cases place with
    | none => exact ih h
    | some place =>
      obtain ⟨name, root⟩ := place
      obtain ⟨hname, hstart⟩ := of_pagePlace? (Reporting.gives_ofExcept.1 hplace)
      dsimp only at h
      split at h
      · exact ih h
      · obtain ⟨found, hfound, h⟩ := h.bind
        obtain ⟨here, hhere, h⟩ := h.bind
        obtain ⟨rest, hrest, h⟩ := h.bind
        obtain rfl := Reporting.gives_pure.1 h
        intro u hu
        rcases List.mem_append.1 hu with hu | hu
        · obtain ⟨rfl, hnew⟩ := of_unlessServed hhere hu
          exact found_of_pageAt? hbase hchild hname hstart
            (Reporting.gives_ofExcept.1 hfound) hnew
        · exact ih hrest u hu

/-- **What is known of the units that are found.** -/
theorem found_of_mem {added : List Text} {found : UiHarness.Detection} {u : UiUnit}
    (h : (fromFiles d s added).outcome.2 = .ok found) (hu : u ∈ found.units) : Found d s P u := by
  have h := Reporting.gives_of_outcome h
  obtain ⟨widgets, hwidgets, h⟩ := h.bind
  obtain ⟨pages, hpages, h⟩ := h.bind
  obtain rfl := Reporting.gives_pure.1 h
  rcases List.mem_append.1 hu with hu | hu
  · exact found_of_mem_widgetsFrom hbase hchild hwidgets u hu
  · exact found_of_mem_pagesFrom hbase hchild hpages u hu

end Detection

end UiHarness
