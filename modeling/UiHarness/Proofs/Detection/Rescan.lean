import UiHarness.Proofs.Detection.Places
import UiHarness.Proofs.Generation.Surroundings
import UiHarness.Proofs.Source.Page

/-!
# Looking for units again

After files have been generated in a workspace with the default roots, the same files are looked
through for units once more.  Nothing is new on the ways of the directories of widgets and pages and
of the files in them, so a unit that is new now was new before.

* `Detection.Rooting`: the directory of a unit is where its root says, and can be reached.
* `Detection.Rooting.eq_of_root_eq`: of units that are found, the root tells the kind and the names.
* `Generation.Extends.isNewWidget`, `Generation.Extends.isNewPage`: what is new now was new before.
-/

namespace UiHarness

open Disk

namespace Detection

variable {d d' : Disk} {s : Settings} {base : Path} {files : List Text} {u v : UiUnit}
  {found again : UiHarness.Detection}

/-! ## 1.  Units and their directories -/

/-- Where widgets are. -/
def widgetParts : List Text := ["packages", "sections", "src"]

/-- Where pages are. -/
def pageParts : List Text := ["apps", "platform", "src", "pages"]

/-- The parts that lead from the workspace to the directory of a unit. -/
def unitParts (u : UiUnit) : List Text :=
  if u.isPage then pageParts ++ [u.name] else widgetParts ++ [u.category, u.name]

theorem pathOf_sectionsRoot (hs : s.HasDefaultRoots) :
    Settings.pathOf s.sectionsRoot = .ok ⟨[], widgetParts⟩ := hs.sections ▸ rfl

theorem pathOf_pagesRoot (hs : s.HasDefaultRoots) :
    Settings.pathOf s.pagesRoot = .ok ⟨[], pageParts⟩ := hs.pages ▸ rfl

/-- The directory of a unit is in the workspace. -/
theorem IsRoot.inWorkspace {v : Value} {names parts : List Text} {root : Text}
    (h : IsRoot v base names root) (hv : Settings.pathOf v = .ok ⟨[], parts⟩) :
    s.inWorkspace (.ofText root) = s.base.map fun base => base.below (parts ++ names) := by
  obtain rfl := Except.ok.inj (h.read.symm.trans hv)
  rw [h.ofText]
  exact Settings.inWorkspace_eq rfl

/-- The search for units ends with what the two searches find. -/
theorem ends_fromFiles (d : Disk) (s : Settings) (files : List Text) : (fromFiles d s files).Ends
    ((widgetSearch d s).find d s [] files >>= fun widgets =>
      (pageSearch d s).find d s [] files >>= fun pages => .ok ⟨widgets, pages, files⟩) := by
  rw [fromFiles, widgetsFrom_eq, pagesFrom_eq]
  exact (Search.ends_run _ d s [] files).bind fun widgets =>
    (Search.ends_run _ d s [] files).bind fun pages => Reporting.ends_pure _

/-- **What is found among files**: what the two searches find. -/
theorem fromFiles_eq_ok : (fromFiles d s files).outcome.2 = .ok found ↔
    (widgetSearch d s).find d s [] files = .ok found.widgets ∧
      (pageSearch d s).find d s [] files = .ok found.pages ∧ found.added = files := by
  rw [(ends_fromFiles d s files).outcome, Except.bind_eq_ok]
  constructor
  · rintro ⟨widgets, hwidgets, h⟩
    obtain ⟨pages, hpages, h⟩ := Except.bind_eq_ok.1 h
    obtain rfl := Except.ok.inj h
    exact ⟨hwidgets, hpages, rfl⟩
  · rintro ⟨hwidgets, hpages, rfl⟩
    exact ⟨_, hwidgets, Except.bind_eq_ok.2 ⟨_, hpages, rfl⟩⟩

/-- A unit whose root is that of a directory that can be reached. -/
def InDirectory (d : Disk) (s : Settings) (root : Text) (u : UiUnit) : Prop :=
  ∃ path l, s.inWorkspace (.ofText root) = .ok path ∧ u.root = path.text ∧
    d.walk (d.startOf path) path.parts = .ok l

/-- What is known of a new widget at a place. -/
theorem facts_of_widgetSearch {p : Text × Text × Text}
    (h : (widgetSearch d s).new? d s p = .ok (some u)) :
    u.kind = .widget ∧ u.name = p.2.1 ∧ u.category = p.1 ∧ InDirectory d s p.2.2 u := by
  obtain ⟨found, hfound, h⟩ := Except.bind_eq_ok.1 h
  obtain rfl := (unserved_eq_ok h).1 u rfl
  obtain ⟨path, entry, hpath, hentry, hsome, hfacts⟩ := widgetAt?_eq_ok hfound
  obtain ⟨hkind, hname, hcategory, hroot⟩ := hfacts u rfl
  obtain ⟨file, rfl⟩ := Option.isSome_iff_exists.1 hsome
  obtain ⟨l, hl⟩ := walk_of_entryFile? hentry
  exact ⟨hkind, hname, hcategory, path, l, hpath, hroot, hl⟩

/-- What is known of a new page at a place. -/
theorem facts_of_pageSearch {p : Text × Text} (h : (pageSearch d s).new? d s p = .ok (some u)) :
    u.kind = .page ∧ u.name = p.1 ∧ u.category = UnitName.entityType p.1 ∧
      InDirectory d s p.2 u := by
  obtain ⟨found, hfound, h⟩ := Except.bind_eq_ok.1 h
  obtain rfl := (unserved_eq_ok h).1 u rfl
  obtain ⟨path, isDirectory, hpath, hdirectory, hno, -, hfacts⟩ := pageAt?_eq_ok hfound
  obtain ⟨hkind, hname, hcategory, hroot⟩ := hfacts u rfl
  cases isDirectory with
  | false => cases hno rfl
  | true =>
    obtain ⟨l, hl⟩ := exists_locate_of_isDirectory hdirectory
    exact ⟨hkind, hname, hcategory, path, l, hpath, hroot, walk_of_locate hl⟩

/-- What is known of the directory of a unit that was found: its path is that of the root, and it
can be reached. -/
structure Rooting (d : Disk) (base : Path) (u : UiUnit) : Prop where
  clean : (base.below (unitParts u)).Clean
  root : u.root = (base.below (unitParts u)).text
  walk : ∃ l, d.walk (d.startOf base) (base.parts ++ unitParts u) = .ok l
  category : u.isPage = true → u.category = UnitName.entityType u.name

/-- A unit in the directory of its root. -/
theorem IsRoot.rooting {v : Value} {b : Path} {names parts : List Text} {root : Text}
    (h : IsRoot v b names root) (hbase : s.base = .ok base)
    (hv : Settings.pathOf v = .ok ⟨[], parts⟩) (hu : InDirectory d s root u)
    (hparts : unitParts u = parts ++ names)
    (hcategory : u.isPage = true → u.category = UnitName.entityType u.name) :
    Rooting d base u := by
  have hpath := h.inWorkspace (s := s) hv
  rw [hbase, ← hparts] at hpath
  obtain ⟨path, l, hp, hroot, hl⟩ := hu
  obtain rfl := Except.ok.inj (hpath.symm.trans hp)
  exact ⟨Settings.clean_inWorkspace (Path.clean_ofText root) hp, hroot, ⟨l, hl⟩, hcategory⟩

/-- **The root of a unit that was found** is the text of its directory. -/
theorem rooting_of_mem (hs : s.HasDefaultRoots) (hbase : s.base = .ok base)
    (h : (fromFiles d s files).outcome.2 = .ok found) (hu : u ∈ found.units) :
    Rooting d base u := by
  obtain ⟨hwidgets, hpages, -⟩ := fromFiles_eq_ok.1 h
  rcases List.mem_append.1 hu with hu | hu
  · obtain ⟨⟨e, n, r⟩, hp, hnew⟩ := (Search.mem_iff (faithful_widgetSearch d s) hwidgets).1 hu
    obtain ⟨file, -, hplace⟩ := (widgetSearch d s).mem_places.1 hp
    obtain ⟨b, hr⟩ := isRoot_of_widgetPlace? hplace
    obtain ⟨hkind, hname, hcategory, hdirectory⟩ := facts_of_widgetSearch hnew
    have hpage : u.isPage = false := by rw [UiUnit.isPage, hkind]; rfl
    refine hr.rooting hbase (pathOf_sectionsRoot hs) hdirectory ?_ fun h => ?_
    · rw [unitParts, hpage, if_neg Bool.false_ne_true, hname, hcategory]
    · exact absurd (hpage.symm.trans h) Bool.false_ne_true
  · obtain ⟨⟨n, r⟩, hp, hnew⟩ := (Search.mem_iff (faithful_pageSearch d s) hpages).1 hu
    obtain ⟨file, -, hplace⟩ := (pageSearch d s).mem_places.1 hp
    obtain ⟨b, hr⟩ := isRoot_of_pagePlace? hplace
    obtain ⟨hkind, hname, hcategory, hdirectory⟩ := facts_of_pageSearch hnew
    have hpage : u.isPage = true := by rw [UiUnit.isPage, hkind]; rfl
    refine hr.rooting hbase (pathOf_pagesRoot hs) hdirectory ?_ fun _ => ?_
    · rw [unitParts, if_pos hpage, hname]
    · rw [hcategory, hname]

/-- The directory of the workspace is there if that of a unit can be reached. -/
theorem Rooting.exists_start (h : Rooting d base u) : ∃ start,
    d.walk (d.startOf base) base.parts = .ok start ∧ d.at? start = some .directory := by
  obtain ⟨l, hl⟩ := h.walk
  obtain ⟨part, rest, hparts⟩ : ∃ part rest, unitParts u = part :: rest := by
    rw [unitParts]
    split
    · exact ⟨_, _, rfl⟩
    · exact ⟨_, _, rfl⟩
  rw [hparts] at hl
  obtain ⟨start, hstart, -⟩ := exists_walk_of_append hl
  refine ⟨start, hstart, ?_⟩
  rw [eq_normalized_of_walk hstart]
  exact directory_of_visited hl rfl

/-- **The root of a unit tells its kind and its names.** -/
theorem Rooting.eq_of_root_eq (hu : Rooting d base u) (hv : Rooting d' base v)
    (h : u.root = v.root) :
    u.isPage = v.isPage ∧ u.name = v.name ∧ u.category = v.category := by
  rw [hu.root, hv.root] at h
  have hparts := Path.below_inj.1 (hu.clean.eq_of_text_eq hv.clean h)
  have hheads : ∀ names names', pageParts ++ names ≠ widgetParts ++ names' := by
    intro names names' h
    exact absurd (List.cons.inj h).1 (by decide)
  rw [unitParts, unitParts] at hparts
  by_cases hup : u.isPage = true
  · rw [if_pos hup] at hparts
    by_cases hvp : v.isPage = true
    · rw [if_pos hvp] at hparts
      have hname := (List.cons.inj (List.append_cancel_left hparts)).1
      exact ⟨hup.trans hvp.symm, hname, by rw [hu.category hup, hv.category hvp, hname]⟩
    · rw [if_neg hvp] at hparts
      exact absurd hparts (hheads _ _)
  · rw [if_neg hup] at hparts
    by_cases hvp : v.isPage = true
    · rw [if_pos hvp] at hparts
      exact absurd hparts.symm (hheads _ _)
    · rw [if_neg hvp] at hparts
      have hnames := List.cons.inj (List.append_cancel_left hparts)
      exact ⟨by rw [Bool.eq_false_iff.2 hup, Bool.eq_false_iff.2 hvp],
        (List.cons.inj hnames.2).1, hnames.1⟩

end Detection

namespace Artifact

/-! ## 2.  Generated files that exist -/

theorem exist_eq_false {d : Disk} {s : Settings} {u : UiUnit} : exist d s u = .ok false ↔
    ∃ paths, pathsOf s u = .ok paths ∧ d.contains paths.interactor = .ok false ∧
      d.contains paths.test = .ok false := by
  rw [exist, Except.bind_eq_ok]
  refine exists_congr fun paths => and_congr_right fun _ => ?_
  rw [Except.bind_eq_ok]
  constructor
  · rintro ⟨there, hthere, h⟩
    cases there with
    | true => cases h
    | false => exact ⟨hthere, h⟩
  · rintro ⟨hinteractor, htest⟩
    exact ⟨false, hinteractor, htest⟩

/-- Generated files that exist stay. -/
theorem exist_ne_false_of_grown {d d' : Disk} {s : Settings} {u : UiUnit} (hg : Grown d d')
    (h : exist d s u = .ok true) : exist d' s u ≠ .ok false := by
  intro hnone
  obtain ⟨paths, hpaths, hinteractor, htest⟩ := exist_eq_false.1 hnone
  obtain ⟨paths', hpaths', h⟩ := Except.bind_eq_ok.1 h
  obtain rfl := Except.ok.inj (hpaths.symm.trans hpaths')
  obtain ⟨there, hthere, h⟩ := Except.bind_eq_ok.1 h
  cases there with
  | true =>
    rw [contains_of_grown hg hthere] at hinteractor
    cases hinteractor
  | false =>
    rw [contains_of_grown hg h] at htest
    cases htest

end Artifact

/-! ## 3.  What is listed in a directory -/

/-- A name that is listed in a directory was listed before if nothing is new on its way. -/
theorem Disk.OldWay.mem_names {d d' : Disk} {p : Path} {name : Text}
    (h : OldWay d d' (p.child name)) (hg : Grown d d') (hname : Path.IsPart name)
    (hdots : name ≠ "..".toList) (hp : d.isDirectory p = .ok true) (hlisted : name ∈ d'.names p) :
    name ∈ d.names p := by
  obtain ⟨l, hl⟩ := exists_locate_of_isDirectory hp
  obtain ⟨hne, hslash, hthere⟩ := (Disk.mem_names (locate_of_grown hg hl)).1 hlisted
  refine (Disk.mem_names hl).2 ⟨hne, hslash, ?_⟩
  rw [Path.child_of_isPart _ hname] at h
  have hlast : Old d d' (Path.normalized (d.startOf p) (p.parts ++ [name])) :=
    h _ (List.prefix_refl _)
  rw [Path.normalized_append, Path.normalized, if_neg hdots, Path.normalized,
    ← eq_normalized_of_walk (walk_of_locate hl)] at hlast
  exact hlast hthere

namespace Generation.Extends

open Artifact Detection

variable {d d' : Disk} {base : Path} {start : Location}

/-! ## 4.  Ways of units -/

/-- Nothing is new on the way of a path in the workspace if nothing is new on the way behind the
directory of the workspace. -/
theorem oldWay (h : Extends d d' base start) {parts : List Text}
    (hold : ∀ front, front <+: parts → Old d d' (Path.normalized start front)) :
    OldWay d d' (base.below parts) := by
  rintro front ⟨back, hback⟩
  change front ++ back = base.parts ++ parts at hback
  change Old d d' (Path.normalized (d.startOf base) front)
  have hthere : d.at? start ≠ none := by
    rw [h.directory]
    exact Option.some_ne_none _
  rcases List.append_eq_append_iff.1 hback with ⟨rest, hbase, -⟩ | ⟨rest, rfl, hrest⟩
  · exact fun _ => at?_of_walk h.walk hthere ⟨rest, hbase.symm⟩
  · rw [Path.normalized_append, ← eq_normalized_of_walk h.walk]
    exact hold rest ⟨back, hrest.symm⟩

/-- Where the directory of a page leads, or a file in it, if the names are followed one by one. -/
theorem exists_normalized_pageParts {rest front : List Text}
    (hrest : ∀ part ∈ rest, Path.IsPart part) (hlength : rest.length ≤ 2)
    (hfront : front <+: pageParts ++ rest) :
    ∃ t, (∀ start, Path.normalized start front = start ++ t) ∧ (∀ part ∈ t, Path.IsPart part) ∧
      ¬ InPlatform t := by
  have happs : front <+: ["apps".toList] ++ (["platform".toList, "src".toList, "pages".toList] ++
    rest) := hfront
  have hcount : rest.count "..".toList ≤ ["platform".toList, "src".toList, "pages".toList].length :=
    Nat.le_trans (Nat.le_trans List.count_le_length hlength) (by decide)
  have hpart : ∀ part ∈ pageParts, Path.IsPart part := by decide
  rcases Path.normalized_of_prefix (by decide) hcount happs with ⟨hkept, hnorm⟩ | ⟨t, ht, hnorm⟩
  · rcases List.prefix_cons_iff.1 hkept with rfl | ⟨more, rfl, hmore⟩
    · exact ⟨[], hnorm, fun _ hm => absurd hm List.not_mem_nil, by decide⟩
    · obtain rfl := List.prefix_nil.1 hmore
      exact ⟨_, hnorm, by decide, by decide⟩
  · refine ⟨_, hnorm, fun part hm => ?_, ?_⟩
    · rcases List.mem_cons.1 hm with rfl | hm
      · exact hpart _ (List.mem_cons_self ..)
      · rcases List.mem_append.1 (ht part hm) with hm | hm
        · exact hpart part (List.mem_cons_of_mem _ hm)
        · exact hrest part hm
    · rintro (heq | heq)
      · exact absurd (List.cons.inj heq).1 (by decide)
      · exact absurd (List.cons.inj heq).1 (by decide)

/-- **Nothing is new on the ways of pages** and of what is in their directories. -/
theorem oldWay_page (h : Extends d d' base start) {rest : List Text}
    (hrest : ∀ part ∈ rest, Path.IsPart part) (hlength : rest.length ≤ 2) :
    OldWay d d' (base.below (pageParts ++ rest)) := by
  refine h.oldWay fun front hfront => ?_
  obtain ⟨t, ht, hnames, hout⟩ := exists_normalized_pageParts hrest hlength hfront
  rw [ht]
  exact h.old t hnames hout

/-- Where the directory of a widget leads, or a file in it, if the names are followed one by one. -/
theorem normalized_widgetParts {e n file : Text} {front : List Text} (hfile : file ≠ "..".toList)
    (hfront : front <+: [e, n, file]) :
    (∃ t, Path.normalized widgetParts front = "packages".toList :: "sections".toList :: t) ∨
      Path.normalized widgetParts front = packages ∨
      Path.normalized widgetParts front = ["packages".toList, file] := by
  by_cases hdots : e = "..".toList ∧ n = "..".toList
  · obtain ⟨rfl, rfl⟩ := hdots
    rcases List.prefix_cons_iff.1 hfront with rfl | ⟨more, rfl, hmore⟩
    · exact .inl ⟨_, rfl⟩
    · rcases List.prefix_cons_iff.1 hmore with rfl | ⟨last, rfl, hlast⟩
      · exact .inl ⟨_, rfl⟩
      · rcases List.prefix_cons_iff.1 hlast with rfl | ⟨none, rfl, hnone⟩
        · exact .inr (.inl rfl)
        · obtain rfl := List.prefix_nil.1 hnone
          have hlast : Path.normalized packages [file] = packages ++ [file] := by
            rw [Path.normalized, if_neg hfile, Path.normalized]
          exact .inr (.inr hlast)
  · have hall : [e, n, file].count "..".toList ≤ 1 := by
      have hend : [file].count "..".toList = 0 := by
        rw [List.count_cons_of_ne hfile, List.count_nil]
      by_cases he : e = "..".toList
      · have hn : n ≠ "..".toList := fun hn => hdots ⟨he, hn⟩
        rw [List.count_cons, List.count_cons_of_ne hn, hend]
        split
        · exact Nat.le_refl 1
        · exact Nat.zero_le 1
      · rw [List.count_cons_of_ne he, List.count_cons, hend]
        split
        · exact Nat.le_refl 1
        · exact Nat.zero_le 1
    have hcount : front.count "..".toList ≤ ["src".toList].length :=
      Nat.le_trans (hfront.sublist.count_le _) hall
    have hnorm : Path.normalized (["packages".toList, "sections".toList] ++ ["src".toList]) front =
        ["packages".toList, "sections".toList] ++ Path.normalized ["src".toList] front :=
      Path.normalized_append_left hcount
    exact .inl ⟨_, hnorm⟩

/-- The parts on the way of a file in the directory of a widget are names, and so is what is left of
them. -/
theorem isPart_of_mem_widgetParts {rest front : List Text} (hrest : ∀ part ∈ rest, Path.IsPart part)
    (hfront : front <+: rest) : ∀ part ∈ Path.normalized widgetParts front, Path.IsPart part := by
  have hparts : ∀ part ∈ widgetParts, Path.IsPart part := by decide
  intro part hm
  rcases Path.mem_of_mem_normalized hm with hm | hm
  · exact hparts part hm
  · exact hrest part (hfront.subset hm)

/-- Nothing is new next to the test platform, in the directory that the widgets are in. -/
theorem old_sections (h : Extends d d' base start) {t : Location}
    (ht : ∀ part ∈ "packages".toList :: "sections".toList :: t, Path.IsPart part) :
    Old d d' (start ++ "packages".toList :: "sections".toList :: t) := by
  refine h.old _ ht ?_
  rintro (heq | heq)
  · exact absurd (List.cons.inj heq).2 (List.cons_ne_nil _ _)
  · exact absurd (List.cons.inj (List.cons.inj heq).2).1 (by decide)

/-- The directory of the packages was there if that of the widgets is. -/
theorem old_packages (h : Extends d d' base start) (htree : d.IsTree)
    (hat : d'.at? (start ++ ["packages".toList, "sections".toList]) ≠ none) :
    Old d d' (start ++ packages) := by
  have hsections := h.old_sections (t := []) (by decide) hat
  have hpackages : d.at? (start ++ packages) = some .directory :=
    htree (start ++ packages) "sections" (by rwa [List.append_assoc])
  exact fun _ => by
    rw [hpackages]
    exact Option.some_ne_none _

/-- The directory of the packages was there if a path leads through that of the widgets. -/
theorem old_packages_of_locate (h : Extends d d' base start) (htree : d.IsTree)
    {rest : List Text} {l : Location} (hl : d'.locate (base.below (widgetParts ++ rest)) = .ok l) :
    Old d d' (start ++ packages) := by
  refine h.old_packages htree ?_
  have hwalk := walk_of_locate hl
  have hstart : d'.startOf (base.below (widgetParts ++ rest)) = d.startOf base := by
    rw [startOf, startOf, h.grown.here]
    rfl
  rw [hstart] at hwalk
  have hvisited := directory_of_visited hwalk (List.append_assoc base.parts
    ["packages".toList, "sections".toList] ("src".toList :: rest)).symm
  rw [Path.normalized_append, ← eq_normalized_of_walk h.walk,
    Path.normalized_of_not_mem (by decide)] at hvisited
  rw [hvisited]
  exact Option.some_ne_none _

/-- Nothing is new on the way to the directory of the widgets if that of the packages was there. -/
theorem old_widgetParts (h : Extends d d' base start) (hpackages : Old d d' (start ++ packages))
    {front : List Text} (hfront : front <+: widgetParts) : Old d d' (start ++ front) := by
  have hnames : ∀ part ∈ widgetParts, Path.IsPart part := by decide
  rcases List.prefix_cons_iff.1 hfront with rfl | ⟨second, rfl, hsecond⟩
  · exact h.old [] (fun _ hm => absurd hm List.not_mem_nil) (by decide)
  · rcases List.prefix_cons_iff.1 hsecond with rfl | ⟨third, rfl, -⟩
    · exact hpackages
    · exact h.old_sections fun part hm => hnames part (hfront.subset hm)

/-- **Nothing is new on the way of the entry file of a widget.** -/
theorem oldWay_entry (h : Extends d d' base start) (htree : d.IsTree) {e n file : Text}
    (he : Path.IsPart e) (hn : Path.IsPart n) (hfile : file ∈ entryFiles) {l : Location}
    (hl : d'.locate (base.below (widgetParts ++ [e, n, file])) = .ok l) :
    OldWay d d' (base.below (widgetParts ++ [e, n, file])) := by
  have hentry : ∀ file ∈ entryFiles, Path.IsPart file ∧ file ≠ "..".toList ∧
      ¬ InPlatform ["packages".toList, file] := by decide
  obtain ⟨hpart, hne, hout⟩ := hentry file hfile
  have hrest : ∀ part ∈ [e, n, file], Path.IsPart part := by
    rintro part (_ | ⟨_, _ | ⟨_, _ | ⟨_, ⟨⟩⟩⟩⟩)
    · exact he
    · exact hn
    · exact hpart
  have hpackages := h.old_packages_of_locate htree hl
  have hdots : "..".toList ∉ widgetParts := by decide
  refine h.oldWay fun front hfront => ?_
  obtain ⟨back, hback⟩ := hfront
  rcases List.append_eq_append_iff.1 hback with ⟨more, hparts, -⟩ | ⟨rest, rfl, hbehind⟩
  · have hsub : front <+: widgetParts := ⟨more, hparts.symm⟩
    rw [Path.normalized_of_not_mem fun hm => hdots (hsub.subset hm)]
    exact h.old_widgetParts hpackages hsub
  · have hprefix : rest <+: [e, n, file] := ⟨back, hbehind.symm⟩
    have hnames := isPart_of_mem_widgetParts hrest hprefix
    have hcount : rest.count "..".toList ≤ widgetParts.length :=
      Nat.le_trans List.count_le_length hprefix.length_le
    rw [Path.normalized_append, Path.normalized_of_not_mem hdots,
      Path.normalized_append_left hcount]
    rcases normalized_widgetParts hne hprefix with ⟨t, ht⟩ | ht | ht
    · rw [ht] at hnames ⊢
      exact h.old_sections hnames
    · rw [ht]
      exact hpackages
    · rw [ht] at hnames ⊢
      exact h.old _ hnames hout

variable {s : Settings} {file e n root : Text} {b : Bool}

/-! ## 5.  Looking again -/

/-- **A widget that is new now was new before.** -/
theorem isNewWidget (h : Extends d d' base start) (hs : s.HasDefaultRoots) (htree : d.IsTree)
    (hbase : s.base = .ok base) (hplace : widgetPlace? s file = .ok (some (e, n, root)))
    (hbefore : Detection.isNewWidget d s (e, n, root) = .ok b)
    (hnow : Detection.isNewWidget d' s (e, n, root) = .ok true) : b = true := by
  obtain ⟨he, hn, -⟩ := of_widgetPlace? hplace
  obtain ⟨_, hr⟩ := isRoot_of_widgetPlace? hplace
  have hpath := hr.inWorkspace (s := s) (pathOf_sectionsRoot hs)
  rw [hbase] at hpath
  change s.inWorkspace (.ofText root) = .ok (base.below (widgetParts ++ [e, n])) at hpath
  obtain ⟨path, hp, hnow⟩ := Except.bind_eq_ok.1 hnow
  obtain rfl := Except.ok.inj (hpath.symm.trans hp)
  obtain ⟨path, hp, hbefore⟩ := Except.bind_eq_ok.1 hbefore
  obtain rfl := Except.ok.inj (hpath.symm.trans hp)
  obtain ⟨entry, hentry, hnow⟩ := Except.bind_eq_ok.1 hnow
  obtain ⟨entry', hentry', hbefore⟩ := Except.bind_eq_ok.1 hbefore
  cases entry with
  | none => cases hnow
  | some f =>
    obtain ⟨served, hserved, hnow⟩ := Except.bind_eq_ok.1 hnow
    obtain rfl : served = false := by simpa using hnow
    -- the entry file was there
    obtain ⟨hmem, hisFile⟩ := Except.of_findM? hentry
    have hthere : d.isFile f = .ok true := by
      obtain ⟨name, hname, rfl⟩ := List.mem_map.1 hmem
      have hparts : ∀ name ∈ entryFiles, Path.IsPart name := by decide
      rw [Path.child_below (hparts name hname)] at hisFile ⊢
      obtain ⟨l, hl⟩ := exists_locate_of_isFile hisFile
      exact (h.oldWay_entry htree he hn hname hl).isFile h.grown hisFile
    cases entry' with
    | none =>
      rw [Except.of_findM?_none hentry' hmem] at hthere
      cases hthere
    | some f' =>
      obtain ⟨served', hserved', hbefore⟩ := Except.bind_eq_ok.1 hbefore
      cases served' with
      | false => simpa using hbefore.symm
      | true => exact absurd hserved (exist_ne_false_of_grown h.grown hserved')

/-- **A file in the directory of a page** that can be a source now could be one before. -/
theorem isCode (h : Extends d d' base start) {name : Text} (hn : Path.IsPart n)
    (hdirectory : d'.isDirectory (base.below (pageParts ++ [n])) = .ok true)
    (hcode : Source.IsCode d' (base.below (pageParts ++ [n])) name) :
    Source.IsCode d (base.below (pageParts ++ [n])) name := by
  have hname : Path.IsPart name :=
    isPart_of_isFile_child hdirectory (of_mem_names hcode.listed).2 hcode.isFile
  have hchild : (base.below (pageParts ++ [n])).child name = base.below (pageParts ++ [n, name]) :=
    Path.child_below hname
  have hpage : ∀ part ∈ [n], Path.IsPart part := fun part hm => List.mem_singleton.1 hm ▸ hn
  have hboth : ∀ part ∈ [n, name], Path.IsPart part := by
    rintro part (_ | ⟨_, _ | ⟨_, ⟨⟩⟩⟩)
    · exact hn
    · exact hname
  have hway := h.oldWay_page hboth (Nat.le_refl 2)
  obtain ⟨t, ht⟩ := hcode.read
  obtain ⟨l, raw, hl, hat, -⟩ := of_readText? ht
  rw [hchild] at hl
  obtain ⟨hlocate, -⟩ := hway.locate h.grown hl
  refine ⟨?_, hcode.suffix, ?_, ?_⟩
  · have hdots : name ≠ "..".toList := by
      have hends : ∀ e ∈ Source.extensions, e ≠ [] := by decide
      obtain ⟨front, last, hparts, hlast⟩ := Path.namesFile_of_suffix (hends _ hcode.suffix)
      rw [Path.child_of_isPart _ hname] at hparts
      rwa [(List.cons.inj (List.append_inj' hparts rfl).2).1]
    exact (hchild ▸ hway).mem_names h.grown hname hdots
      ((h.oldWay_page hpage (Nat.le_succ 1)).isDirectory h.grown hdirectory) hcode.listed
  · rw [hchild]
    exact hway.isFile h.grown (hchild ▸ hcode.isFile)
  · rw [hchild]
    have hend := eq_normalized_of_walk (walk_of_locate hlocate)
    obtain ⟨t, ht, hnames, hout⟩ := exists_normalized_pageParts hboth (Nat.le_refl 2)
      (List.prefix_refl _)
    change l = Path.normalized (d.startOf base) (base.parts ++ (pageParts ++ [n, name])) at hend
    rw [Path.normalized_append, ← eq_normalized_of_walk h.walk, ht] at hend
    obtain ⟨before, hbefore⟩ := h.text t raw hnames hout (hend ▸ fileAt?_eq_some.2 hat)
    exact ⟨_, readText?_of_fileAt? hlocate (hend ▸ hbefore)⟩

/-- **A page that is new now was new before.** -/
theorem isNewPage (h : Extends d d' base start) (hs : s.HasDefaultRoots)
    (hbase : s.base = .ok base) (hplace : pagePlace? s file = .ok (some (n, root)))
    (hbefore : Detection.isNewPage d s (n, root) = .ok b)
    (hnow : Detection.isNewPage d' s (n, root) = .ok true) : b = true := by
  obtain ⟨hn, -⟩ := of_pagePlace? hplace
  obtain ⟨_, hr⟩ := isRoot_of_pagePlace? hplace
  have hpath := hr.inWorkspace (s := s) (pathOf_pagesRoot hs)
  rw [hbase] at hpath
  change s.inWorkspace (.ofText root) = .ok (base.below (pageParts ++ [n])) at hpath
  obtain ⟨path, hp, hnow⟩ := Except.bind_eq_ok.1 hnow
  obtain rfl := Except.ok.inj (hpath.symm.trans hp)
  obtain ⟨path, hp, hbefore⟩ := Except.bind_eq_ok.1 hbefore
  obtain rfl := Except.ok.inj (hpath.symm.trans hp)
  obtain ⟨isDirectory, hdirectory, hnow⟩ := Except.bind_eq_ok.1 hnow
  obtain ⟨wasDirectory, hdirectory', hbefore⟩ := Except.bind_eq_ok.1 hbefore
  cases isDirectory with
  | false => cases hnow
  | true =>
    have hpage : ∀ part ∈ [n], Path.IsPart part := fun part hm => List.mem_singleton.1 hm ▸ hn
    have hwas := (h.oldWay_page hpage (Nat.le_succ 1)).isDirectory h.grown hdirectory
    obtain rfl := Except.ok.inj (hwas.symm.trans hdirectory')
    obtain ⟨files, hfiles, hnow⟩ := Except.bind_eq_ok.1 hnow
    obtain ⟨files', hfiles', hbefore⟩ := Except.bind_eq_ok.1 hbefore
    split at hnow
    · cases hnow
    · rename_i hcodes
      obtain ⟨served, hserved, hnow⟩ := Except.bind_eq_ok.1 hnow
      obtain rfl : served = false := by simpa using hnow
      -- a source that is no query was one before
      obtain ⟨key, hkey, hquery⟩ : ∃ key ∈ files.keys, Bucket.isQuery key = false := by
        simpa using hcodes
      obtain ⟨name, hcode, hstem⟩ := (Source.exists_key_iff hdirectory hfiles hquery).1 hkey
      have hkey' := (Source.exists_key_iff hwas hfiles' hquery).2
        ⟨name, h.isCode hn hdirectory hcode, hstem⟩
      have hcodes' : ¬ files'.keys.all Bucket.isQuery = true := fun hall =>
        absurd ((List.all_eq_true.1 hall key hkey').symm.trans hquery) (by decide)
      rw [if_neg hcodes'] at hbefore
      obtain ⟨served', hserved', hbefore⟩ := Except.bind_eq_ok.1 hbefore
      cases served' with
      | false => simpa using hbefore.symm
      | true => exact absurd hserved (exist_ne_false_of_grown h.grown hserved')

end Generation.Extends

end UiHarness
