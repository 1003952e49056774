import UiHarness.Proofs.Detection
import UiHarness.Proofs.Detection.Search

/-!
# The places of files

A file belongs to a widget or to a page by the names behind one of the roots in the settings.  The
root of a unit is handed on as a text, and so is its directory, but both are texts of paths of
names: neither a root nor a directory is shared by two places.

* `Path.relativeTo?_eq_some`: what stands behind a relative path.
* `Detection.widgetPlace?_eq_some`, `Detection.pagePlace?_eq_some`: the places of files.
* `Detection.widgetSearch`, `Detection.pageSearch`: looking for widgets and for pages.
* `Detection.isNewWidget`, `Detection.isNewPage`: whether there is a new unit at a place.
* `Detection.faithful_widgetSearch`, `Detection.rooted_widgetSearch` and those for pages: places
  are told apart by their roots, and by the directories of their units.
-/

namespace UiHarness

namespace Path

/-! ## 1.  Parts behind a path -/

theorem stepsBehind?_eq_some {p t rest : List Text} :
    stepsBehind? p t = some rest ↔ p ++ rest = t := by
  refine ⟨append_of_stepsBehind?, ?_⟩
  rintro rfl
  induction p with
  | nil => rfl
  | cons a p ih => rw [List.cons_append, stepsBehind?, if_pos rfl, ih]

/-- **What stands behind a relative path.** -/
theorem relativeTo?_eq_some {p base : Path} (hb : base.root = []) {rest : List Text} :
    p.relativeTo? base = some rest ↔ (base.parts = [] → p.root = []) ∧
      base.parts ++ rest = p.steps := by
  have hsteps : base.steps = base.parts := by rw [steps, hb, List.isEmpty_nil, if_pos rfl]
  have hguard : (base.parts.isEmpty && p.isAbsolute) = true ↔
      ¬ (base.parts = [] → p.root = []) := by
    rw [Bool.and_eq_true, List.isEmpty_iff, isAbsolute, Bool.not_eq_true', ← Bool.not_eq_true,
      List.isEmpty_iff, Classical.not_imp]
  rw [relativeTo?, hsteps]
  by_cases hg : base.parts = [] → p.root = []
  · rw [if_neg fun h => hguard.1 h hg, stepsBehind?_eq_some, and_iff_right hg]
  · rw [if_pos (hguard.2 hg)]
    exact ⟨fun h => (by cases h), fun h => absurd h.1 hg⟩

theorem Clean.below {p : Path} (h : p.Clean) {parts : List Text}
    (hparts : ∀ part ∈ parts, IsPart part) : (p.below parts).Clean :=
  ⟨h.root, fun part hm => (List.mem_append.1 hm).elim (h.parts part) (hparts part)⟩

/-- Paths of names have a text of their own. -/
theorem Clean.eq_of_text_eq {p q : Path} (hp : p.Clean) (hq : q.Clean) (h : p.text = q.text) :
    p = q := by
  rw [← ofText_text hp, h, ofText_text hq]

end Path

namespace Settings

theorem exists_text_of_pathOf {v : Value} {p : Path} (h : pathOf v = .ok p) :
    ∃ t, v = .text t := by
  unfold pathOf at h
  split at h
  · exact ⟨_, rfl⟩
  · cases h

/-- In the workspace, paths that start in the same way are as different as they were. -/
theorem inWorkspace_inj {s : Settings} {p q a : Path} (hroot : p.root = q.root)
    (hp : s.inWorkspace p = .ok a) (hq : s.inWorkspace q = .ok a) : p = q := by
  rw [inWorkspace] at hp hq
  have habs : q.isAbsolute = p.isAbsolute := by rw [Path.isAbsolute, Path.isAbsolute, hroot]
  rw [habs] at hq
  by_cases h : p.isAbsolute = true
  · rw [if_pos h] at hp hq
    exact (Except.ok.inj hp).trans (Except.ok.inj hq).symm
  · rw [if_neg h] at hp hq
    rw [Except.bind_eq_ok] at hp hq
    obtain ⟨root, hw, hp⟩ := hp
    obtain ⟨root', hw', hq⟩ := hq
    rw [hw] at hw'
    obtain rfl := Except.ok.inj hw'
    cases root with
    | none => exact (Except.ok.inj hp).trans (Except.ok.inj hq).symm
    | some root =>
      have heq := (Except.ok.inj hp).trans (Except.ok.inj hq).symm
      rw [Path.join, Path.join, habs, if_neg h, if_neg h, Path.mk.injEq,
        List.append_cancel_left_eq] at heq
      obtain ⟨proot, pparts⟩ := p
      exact Path.mk.injEq .. ▸ ⟨hroot, heq.2⟩

end Settings

namespace Detection

variable {d : Disk} {s : Settings} {file : Text}

/-! ## 2.  Places -/

theorem partsBelow_eq_ok {root : Value} {parts : Option (List Text)} :
    partsBelow file root = .ok parts ↔
      ∃ base, Settings.pathOf root = .ok base ∧ (Path.ofText file).relativeTo? base = parts := by
  rw [partsBelow, Except.bind_eq_ok]
  exact exists_congr fun base => and_congr_right fun _ => ⟨Except.ok.inj, congrArg _⟩

/-- The place of a file at a widget: the first two names behind the root, of which the first one is
a known entity. -/
theorem widgetPlace?_eq_some {entity name root : Text} :
    widgetPlace? s file = .ok (some (entity, name, root)) ↔
      ∃ base rest, Settings.pathOf s.sectionsRoot = .ok base ∧
        (Path.ofText file).relativeTo? base = some (entity :: name :: rest) ∧
        Settings.holds s.entities entity = .ok true ∧
        root = ((base.child entity).child name).text := by
  rw [widgetPlace?, Except.bind_eq_ok]
  constructor
  · rintro ⟨parts, hparts, h⟩
    obtain ⟨base, hbase, hrest⟩ := partsBelow_eq_ok.1 hparts
    split at h
    · rename_i e n rest
      obtain ⟨known, hknown, h⟩ := Except.bind_eq_ok.1 h
      cases known with
      | false => cases h
      | true =>
        rw [if_pos rfl, hbase] at h
        cases h
        exact ⟨base, rest, hbase, hrest, hknown, rfl⟩
    · cases h
  · rintro ⟨base, rest, hbase, hrest, hknown, rfl⟩
    refine ⟨_, partsBelow_eq_ok.2 ⟨base, hbase, hrest⟩, ?_⟩
    dsimp only
    rw [hknown, hbase]
    rfl

/-- The place of a file at a page: the first name behind the root, if there are more. -/
theorem pagePlace?_eq_some {name root : Text} :
    pagePlace? s file = .ok (some (name, root)) ↔
      ∃ base next rest, Settings.pathOf s.pagesRoot = .ok base ∧
        (Path.ofText file).relativeTo? base = some (name :: next :: rest) ∧
        root = (base.child name).text := by
  rw [pagePlace?, Except.bind_eq_ok]
  constructor
  · rintro ⟨parts, hparts, h⟩
    obtain ⟨base, hbase, hrest⟩ := partsBelow_eq_ok.1 hparts
    split at h
    · rename_i n next rest
      rw [hbase] at h
      cases h
      exact ⟨base, next, rest, hbase, hrest, rfl⟩
    · cases h
  · rintro ⟨base, next, rest, hbase, hrest, rfl⟩
    refine ⟨_, partsBelow_eq_ok.2 ⟨base, hbase, hrest⟩, ?_⟩
    dsimp only
    rw [hbase]
    rfl

/-- The root of a unit: the text of a root in the settings with some names behind it. -/
structure IsRoot (v : Value) (base : Path) (names : List Text) (root : Text) : Prop where
  read : Settings.pathOf v = .ok base
  clean : (base.below names).Clean
  text : root = (base.below names).text

theorem IsRoot.ofText {v : Value} {base : Path} {names : List Text} {root : Text}
    (h : IsRoot v base names root) : Path.ofText root = base.below names := by
  rw [h.text, Path.ofText_text h.clean]

/-- A file at a widget has the root of the widget. -/
theorem isRoot_of_widgetPlace? {entity name root : Text}
    (h : widgetPlace? s file = .ok (some (entity, name, root))) :
    ∃ base, IsRoot s.sectionsRoot base [entity, name] root := by
  obtain ⟨hentity, hname, -⟩ := of_widgetPlace? h
  obtain ⟨base, rest, hbase, -, -, rfl⟩ := widgetPlace?_eq_some.1 h
  have hnames : (base.child entity).child name = base.below [entity, name] := by
    rw [Path.child_of_isPart _ hname, Path.child_of_isPart _ hentity, Path.below,
      List.append_assoc, List.singleton_append]
  refine ⟨base, hbase, (Settings.clean_pathOf hbase).below ?_, by rw [hnames]⟩
  rintro part (_ | ⟨_, _ | ⟨_, ⟨⟩⟩⟩)
  · exact hentity
  · exact hname

/-- A file at a page has the root of the page. -/
theorem isRoot_of_pagePlace? {name root : Text}
    (h : pagePlace? s file = .ok (some (name, root))) :
    ∃ base, IsRoot s.pagesRoot base [name] root := by
  obtain ⟨hname, -⟩ := of_pagePlace? h
  obtain ⟨base, next, rest, hbase, -, rfl⟩ := pagePlace?_eq_some.1 h
  exact ⟨base, hbase, (Settings.clean_pathOf hbase).below fun part hm =>
    List.mem_singleton.1 hm ▸ hname, by rw [Path.child_of_isPart _ hname, Path.below]⟩

/-! ## 3.  Searches -/

/-- Looking for widgets. -/
def widgetSearch (d : Disk) (s : Settings) : Search (Text × Text × Text) where
  place? := widgetPlace? s
  root p := p.2.2
  unit? p := widgetAt? d s p.1 p.2.1 p.2.2
  skipped p := "Skipping " ++ p.2.1 ++ " (" ++ p.1 ++ "): tests already exist"

/-- Looking for pages. -/
def pageSearch (d : Disk) (s : Settings) : Search (Text × Text) where
  place? := pagePlace? s
  root p := p.2
  unit? p := pageAt? d s p.1 p.2
  skipped p := "Skipping page " ++ p.1 ++ ": tests already exist"

theorem widgetsFrom_eq (d : Disk) (s : Settings) (seen files : List Text) :
    widgetsFrom d s seen files = (widgetSearch d s).run d s seen files := by
  induction files generalizing seen with
  | nil => rfl
  | cons file files ih =>
    rw [widgetsFrom, Search.run]
    refine bind_congr fun place => ?_
    cases place with
    | none => exact ih seen
    | some p =>
      dsimp only
      rw [ih, ih]
      rfl

theorem pagesFrom_eq (d : Disk) (s : Settings) (seen files : List Text) :
    pagesFrom d s seen files = (pageSearch d s).run d s seen files := by
  induction files generalizing seen with
  | nil => rfl
  | cons file files ih =>
    rw [pagesFrom, Search.run]
    refine bind_congr fun place => ?_
    cases place with
    | none => exact ih seen
    | some p =>
      dsimp only
      rw [ih, ih]
      rfl

/-! ## 4.  Units at places -/

/-- A unit of which only is known what its generated files are named for. -/
def bareUnit (kind : UnitKind) (name category : Text) : UiUnit :=
  UiUnit.ofFiles { kind, name, category, root := [] } Table.empty

/-- Whether the generated files of a unit exist depends on its kind and its names only. -/
theorem exist_eq_bareUnit (d : Disk) (s : Settings) (u : UiUnit) :
    Artifact.exist d s u = Artifact.exist d s (bareUnit u.kind u.name u.category) := by
  have hpaths : Artifact.pathsOf s u = Artifact.pathsOf s (bareUnit u.kind u.name u.category) := rfl
  rw [Artifact.exist, Artifact.exist, hpaths]

/-- The directory of a unit with a root. -/
def directory (s : Settings) (root : Text) : Except Fault Text :=
  (s.inWorkspace (.ofText root)).map Path.text

/-- Whether there is a new widget at a place: whether its directory has an entry file, and neither
of its generated files exists. -/
def isNewWidget (d : Disk) (s : Settings) (p : Text × Text × Text) : Except Fault Bool := do
  let path ← s.inWorkspace (.ofText p.2.2)
  if (← entryFile? d path).isNone then .ok false
  else
    let served ← Artifact.exist d s (bareUnit .widget p.2.1 p.1)
    .ok !served

/-- Whether there is a new page at a place: whether it is a directory with a source that is not a
query, and neither of its generated files exists. -/
def isNewPage (d : Disk) (s : Settings) (p : Text × Text) : Except Fault Bool := do
  let path ← s.inWorkspace (.ofText p.2)
  if ← d.isDirectory path then
    let files ← Source.ofPage d path
    if files.keys.all Bucket.isQuery then .ok false
    else
      let served ← Artifact.exist d s (bareUnit .page p.1 (UnitName.entityType p.1))
      .ok !served
  else .ok false

/-- A unit that has been found at a place, or none, and whether it is new. -/
theorem unserved_eq_ok {found new : Option UiUnit} (h : unserved d s found = .ok new) :
    (∀ u, new = some u → found = some u) ∧ (found = none → new = none) ∧
      ∀ u, found = some u → Artifact.exist d s (bareUnit u.kind u.name u.category) =
        .ok (!new.isSome) := by
  cases found with
  | none =>
    obtain rfl := Except.ok.inj h
    exact ⟨fun _ h => h, fun _ => rfl, fun _ h => (by cases h)⟩
  | some u =>
    obtain ⟨served, hserved, h⟩ := Except.bind_eq_ok.1 h
    rw [exist_eq_bareUnit] at hserved
    cases served with
    | false =>
      obtain rfl := Except.ok.inj h
      exact ⟨fun _ h => h, fun h => (by cases h), fun v hv => Option.some.inj hv ▸ hserved⟩
    | true =>
      obtain rfl := Except.ok.inj h
      exact ⟨fun _ h => (by cases h), fun _ => rfl, fun v hv => Option.some.inj hv ▸ hserved⟩

/-- What is known of the widget at a place. -/
theorem widgetAt?_eq_ok {entity name root : Text} {found : Option UiUnit}
    (h : widgetAt? d s entity name root = .ok found) :
    ∃ path entry, s.inWorkspace (.ofText root) = .ok path ∧ entryFile? d path = .ok entry ∧
      entry.isSome = found.isSome ∧ ∀ u ∈ found,
        u.kind = .widget ∧ u.name = name ∧ u.category = entity ∧ u.root = path.text := by
  rw [widgetAt?, Except.bind_eq_ok] at h
  obtain ⟨path, hpath, h⟩ := h
  obtain ⟨entry, hentry, h⟩ := Except.bind_eq_ok.1 h
  refine ⟨path, entry, hpath, hentry, ?_⟩
  cases entry with
  | none =>
    obtain rfl := Except.ok.inj h
    exact ⟨rfl, fun _ h => (by cases h)⟩
  | some file =>
    obtain ⟨facts, -, h⟩ := Except.bind_eq_ok.1 h
    obtain ⟨packageRoot, -, h⟩ := Except.bind_eq_ok.1 h
    obtain ⟨files, -, h⟩ := Except.bind_eq_ok.1 h
    obtain rfl := Except.ok.inj h
    refine ⟨rfl, fun u hu => ?_⟩
    obtain rfl := Option.some.inj hu
    exact ⟨rfl, rfl, rfl, rfl⟩

/-- What is known of the page at a place. -/
theorem pageAt?_eq_ok {name root : Text} {found : Option UiUnit}
    (h : pageAt? d s name root = .ok found) :
    ∃ path isDirectory, s.inWorkspace (.ofText root) = .ok path ∧
      d.isDirectory path = .ok isDirectory ∧ (isDirectory = false → found = none) ∧
      (isDirectory = true → ∃ files, Source.ofPage d path = .ok files ∧
        found.isSome = !files.keys.all Bucket.isQuery) ∧
      ∀ u ∈ found, u.kind = .page ∧ u.name = name ∧ u.category = UnitName.entityType name ∧
        u.root = path.text := by
  rw [pageAt?, Except.bind_eq_ok] at h
  obtain ⟨path, hpath, h⟩ := h
  obtain ⟨isDirectory, hdirectory, h⟩ := Except.bind_eq_ok.1 h
  refine ⟨path, isDirectory, hpath, hdirectory, ?_⟩
  cases isDirectory with
  | false =>
    obtain rfl := Except.ok.inj h
    exact ⟨fun _ => rfl, fun h => (by cases h), fun _ h => (by cases h)⟩
  | true =>
    obtain ⟨files, hfiles, h⟩ := Except.bind_eq_ok.1 h
    refine ⟨fun h => (by cases h), fun _ => ⟨files, hfiles, ?_⟩, ?_⟩
    · split at h
      · rename_i hall
        obtain rfl := Except.ok.inj h
        rw [hall]
        rfl
      · rename_i hall
        obtain rfl := Except.ok.inj h
        rw [Bool.eq_false_iff.2 hall]
        rfl
    · split at h
      · obtain rfl := Except.ok.inj h
        exact fun _ h => (by cases h)
      · obtain rfl := Except.ok.inj h
        intro u hu
        obtain rfl := Option.some.inj hu
        exact ⟨rfl, rfl, rfl, rfl⟩

/-- **Where there is a new widget**, and in which directory. -/
theorem of_new?_widgetSearch {p : Text × Text × Text} {new : Option UiUnit}
    (h : (widgetSearch d s).new? d s p = .ok new) :
    isNewWidget d s p = .ok new.isSome ∧ ∀ u ∈ new, directory s p.2.2 = .ok u.root := by
  obtain ⟨found, hfound, h⟩ := Except.bind_eq_ok.1 h
  obtain ⟨hmem, hnone, hsome⟩ := unserved_eq_ok h
  obtain ⟨path, entry, hpath, hentry, hiff, hfacts⟩ := widgetAt?_eq_ok hfound
  refine ⟨Except.bind_eq_ok.2 ⟨path, hpath, Except.bind_eq_ok.2 ⟨entry, hentry, ?_⟩⟩, ?_⟩
  · cases found with
    | none =>
      rw [if_pos (Option.isSome_eq_false_iff.1 hiff), hnone rfl]
      rfl
    | some u =>
      obtain ⟨hkind, hname, hcategory, -⟩ := hfacts u rfl
      have hserved := hsome u rfl
      rw [hkind, hname, hcategory] at hserved
      obtain ⟨file, rfl⟩ := Option.isSome_iff_exists.1 hiff
      rw [Option.isNone_some, if_neg Bool.false_ne_true]
      refine Except.bind_eq_ok.2 ⟨_, hserved, ?_⟩
      rw [Bool.not_not]
  · intro u hu
    obtain ⟨-, -, -, hroot⟩ := hfacts u (hmem u hu)
    rw [directory, hpath, hroot]
    rfl

/-- **Where there is a new page**, and in which directory. -/
theorem of_new?_pageSearch {p : Text × Text} {new : Option UiUnit}
    (h : (pageSearch d s).new? d s p = .ok new) :
    isNewPage d s p = .ok new.isSome ∧ ∀ u ∈ new, directory s p.2 = .ok u.root := by
  obtain ⟨found, hfound, h⟩ := Except.bind_eq_ok.1 h
  obtain ⟨hmem, hnone, hsome⟩ := unserved_eq_ok h
  obtain ⟨path, isDirectory, hpath, hdirectory, hno, hyes, hfacts⟩ := pageAt?_eq_ok hfound
  refine ⟨Except.bind_eq_ok.2 ⟨path, hpath, Except.bind_eq_ok.2 ⟨isDirectory, hdirectory, ?_⟩⟩, ?_⟩
  · cases isDirectory with
    | false =>
      rw [hnone (hno rfl)]
      rfl
    | true =>
      obtain ⟨files, hfiles, hcode⟩ := hyes rfl
      refine Except.bind_eq_ok.2 ⟨files, hfiles, ?_⟩
      cases found with
      | none =>
        rw [if_pos (by simpa using hcode), hnone rfl]
        rfl
      | some u =>
        obtain ⟨hkind, hname, hcategory, -⟩ := hfacts u rfl
        have hserved := hsome u rfl
        rw [hkind, hname, hcategory] at hserved
        rw [if_neg (by simpa using hcode)]
        refine Except.bind_eq_ok.2 ⟨_, hserved, ?_⟩
        rw [Bool.not_not]
  · intro u hu
    obtain ⟨-, -, -, hroot⟩ := hfacts u (hmem u hu)
    rw [directory, hpath, hroot]
    rfl

/-- **Units of one kind are told apart by their directories.** -/
theorem eq_of_directory_eq {v : Value} {base base' : Path} {names names' : List Text}
    {root root' t : Text} (h : IsRoot v base names root) (h' : IsRoot v base' names' root')
    (hd : directory s root = .ok t) (hd' : directory s root' = .ok t) :
    names = names' ∧ root = root' := by
  obtain rfl : base = base' := Except.ok.inj (h.read.symm.trans h'.read)
  rw [directory, h.ofText] at hd
  rw [directory, h'.ofText] at hd'
  obtain ⟨a, ha, rfl⟩ := Except.map_eq_ok.1 hd
  obtain ⟨b, hb, htext⟩ := Except.map_eq_ok.1 hd'
  obtain rfl := (Settings.clean_inWorkspace h'.clean hb).eq_of_text_eq
    (Settings.clean_inWorkspace h.clean ha) htext
  have hnames := Path.below_inj.1 (Settings.inWorkspace_inj (by rw [Path.below, Path.below]) ha hb)
  exact ⟨hnames, by rw [h.text, h'.text, hnames]⟩

/-- Units of one kind are told apart by their roots. -/
theorem IsRoot.eq_of_eq {v : Value} {base base' : Path} {names names' : List Text} {root : Text}
    (h : IsRoot v base names root) (h' : IsRoot v base' names' root) : names = names' := by
  obtain rfl : base = base' := Except.ok.inj (h.read.symm.trans h'.read)
  exact Path.below_inj.1 (h.ofText.symm.trans h'.ofText)

theorem faithful_widgetSearch (d : Disk) (s : Settings) : (widgetSearch d s).Faithful := by
  rintro f g ⟨e, n, r⟩ ⟨e', n', r'⟩ hp hq hroot
  obtain rfl : r = r' := hroot
  obtain ⟨_, hp⟩ := isRoot_of_widgetPlace? hp
  obtain ⟨_, hq⟩ := isRoot_of_widgetPlace? hq
  cases hp.eq_of_eq hq
  rfl

theorem faithful_pageSearch (d : Disk) (s : Settings) : (pageSearch d s).Faithful := by
  rintro f g ⟨n, r⟩ ⟨n', r'⟩ hp hq hroot
  obtain rfl : r = r' := hroot
  obtain ⟨_, hp⟩ := isRoot_of_pagePlace? hp
  obtain ⟨_, hq⟩ := isRoot_of_pagePlace? hq
  cases hp.eq_of_eq hq
  rfl

/-- A new unit at a place is what the search has there. -/
theorem Search.new?_of_newUnit {π : Type} {σ : Search π} {p : π} {u : UiUnit}
    (h : σ.newUnit d s p = some u) : σ.new? d s p = .ok (some u) := by
  rw [Search.newUnit] at h
  cases hnew : σ.new? d s p with
  | error f =>
    rw [hnew] at h
    cases h
  | ok new =>
    rw [hnew] at h
    exact congrArg _ h

/-- The units that are found are the new ones at the places of the files. -/
theorem Search.mem_iff {π : Type} [DecidableEq π] {σ : Search π} (hσ : σ.Faithful)
    {files : List Text} {us : List UiUnit} {u : UiUnit} (h : σ.find d s [] files = .ok us) :
    u ∈ us ↔ ∃ p ∈ σ.places files, σ.new? d s p = .ok (some u) := by
  obtain ⟨-, -, rfl⟩ := (Search.find_eq_ok hσ).1 h
  rw [List.mem_filterMap]
  refine exists_congr fun p => ?_
  rw [List.mem_eraseDups]
  refine and_congr_right fun _ => ⟨Search.new?_of_newUnit, fun h => ?_⟩
  rw [Search.newUnit, h]
  rfl

theorem rooted_widgetSearch (d : Disk) (s : Settings) : (widgetSearch d s).Rooted d s := by
  rintro f g ⟨e, n, r⟩ ⟨e', n', r'⟩ u v hp hq hu hv hroot
  obtain ⟨_, hp⟩ := isRoot_of_widgetPlace? hp
  obtain ⟨_, hq⟩ := isRoot_of_widgetPlace? hq
  have hu := (of_new?_widgetSearch (Search.new?_of_newUnit hu)).2 u rfl
  have hv := (of_new?_widgetSearch (Search.new?_of_newUnit hv)).2 v rfl
  obtain ⟨hnames, rfl⟩ := eq_of_directory_eq hp hq hu (hroot ▸ hv)
  cases hnames
  rfl

theorem rooted_pageSearch (d : Disk) (s : Settings) : (pageSearch d s).Rooted d s := by
  rintro f g ⟨n, r⟩ ⟨n', r'⟩ u v hp hq hu hv hroot
  obtain ⟨_, hp⟩ := isRoot_of_pagePlace? hp
  obtain ⟨_, hq⟩ := isRoot_of_pagePlace? hq
  have hu := (of_new?_pageSearch (Search.new?_of_newUnit hu)).2 u rfl
  have hv := (of_new?_pageSearch (Search.new?_of_newUnit hv)).2 v rfl
  obtain ⟨hnames, rfl⟩ := eq_of_directory_eq hp hq hu (hroot ▸ hv)
  cases hnames
  rfl

end Detection

end UiHarness
