import UiHarness.Proofs.Detection.Faults
import UiHarness.Watch

/-!
# Groups of files

The watcher groups files by the root of their unit, and of a group it hands over one file.  That
root is found on a way of its own, so that the group and the units found for its files agree is
something to prove.  It holds if neither root of units lies inside the other: then no file is at a widget and
at a page, no widget has the root of a page, and a root names one place.

* `Detection.Apart`: roots of units, neither of which lies inside the other.
* `Detection.unitRoot?_eq_some`: the root of the unit of a file.
* `Detection.Group`: files of one place.
* `Detection.Alike`: searches that report the same and find the same.
* `Detection.Group.alike`: the files of a group are searched alike, all together or one by one.
-/

namespace UiHarness

namespace Detection

variable {d : Disk} {s : Settings} {sections pages : Path}

/-! ## 1.  Roots apart -/

/-- The roots of units are relative paths, and neither lies inside the other.  A path lies inside
another one if it can be written relative to it; so does a path inside itself. -/
structure Apart (s : Settings) (sections pages : Path) : Prop where
  sectionsRoot : Settings.pathOf s.sectionsRoot = .ok sections
  pagesRoot : Settings.pathOf s.pagesRoot = .ok pages
  relative : sections.root = [] ∧ pages.root = []
  outside : sections.relativeTo? pages = none ∧ pages.relativeTo? sections = none

/-- A path lies inside a relative one if it continues its parts. -/
theorem relativeTo?_of_append {p q : Path} (hp : p.root = []) (hq : q.root = []) {rest : List Text}
    (h : p.parts = q.parts ++ rest) : p.relativeTo? q = some rest := by
  refine (Path.relativeTo?_eq_some hq).2 ⟨fun _ => hp, ?_⟩
  rw [Path.steps, hp, List.isEmpty_nil, if_pos rfl, h]

/-- No path lies inside both roots. -/
theorem Apart.not_both (h : Apart s sections pages) {p : Path} {rest rest' : List Text}
    (hs : p.relativeTo? sections = some rest) (hp : p.relativeTo? pages = some rest') : False := by
  have hsteps := ((Path.relativeTo?_eq_some h.relative.1).1 hs).2
  rw [← ((Path.relativeTo?_eq_some h.relative.2).1 hp).2] at hsteps
  rcases List.append_eq_append_iff.1 hsteps with ⟨more, hmore, -⟩ | ⟨more, hmore, -⟩
  · have hin := relativeTo?_of_append h.relative.2 h.relative.1 hmore
    rw [h.outside.2] at hin
    cases hin
  · have hin := relativeTo?_of_append h.relative.1 h.relative.2 hmore
    rw [h.outside.1] at hin
    cases hin

/-- A file of a widget belongs to no page. -/
theorem Apart.pagePlace?_of_widget (h : Apart s sections pages) {file : Text}
    {p : Text × Text × Text} (hw : widgetPlace? s file = .ok (some p)) :
    pagePlace? s file = .ok none := by
  obtain ⟨t, ht⟩ : ∃ t, s.pagesRoot = .text t := Settings.exists_text_of_pathOf h.pagesRoot
  obtain ⟨place, hplace⟩ := exists_pagePlace? ⟨t, ht⟩ file
  cases place with
  | none => exact hplace
  | some q =>
    obtain ⟨base, rest, hbase, hrest, -⟩ := widgetPlace?_eq_some.1 hw
    obtain ⟨base', next, rest', hbase', hrest', -⟩ := pagePlace?_eq_some.1 hplace
    obtain rfl : sections = base := Except.ok.inj (h.sectionsRoot.symm.trans hbase)
    obtain rfl : pages = base' := Except.ok.inj (h.pagesRoot.symm.trans hbase')
    exact (h.not_both hrest hrest').elim

/-- No widget has the root of a page. -/
theorem Apart.root_ne (h : Apart s sections pages) {f g entity name page root : Text}
    (hw : widgetPlace? s f = .ok (some (entity, name, root)))
    (hp : pagePlace? s g = .ok (some (page, root))) : False := by
  obtain ⟨base, hbase⟩ := isRoot_of_widgetPlace? hw
  obtain ⟨base', hbase'⟩ := isRoot_of_pagePlace? hp
  obtain rfl : sections = base := Except.ok.inj (h.sectionsRoot.symm.trans hbase.read)
  obtain rfl : pages = base' := Except.ok.inj (h.pagesRoot.symm.trans hbase'.read)
  -- behind the root of widgets stand two names, behind that of pages one
  have hparts : (sections.parts ++ [entity]) ++ [name] = pages.parts ++ [page] := by
    rw [List.append_assoc]
    exact congrArg Path.parts (hbase.ofText.symm.trans hbase'.ofText)
  have hin := relativeTo?_of_append h.relative.2 h.relative.1 (List.append_inj' hparts rfl).1.symm
  rw [h.outside.2] at hin
  cases hin

/-! ## 2.  The root of a file's unit -/

/-- **The root of the unit of a file** is that of a widget, or else that of a page. -/
theorem unitRoot?_eq_some {file root : Text} : unitRoot? s file = .ok (some root) ↔
    (∃ entity name, widgetPlace? s file = .ok (some (entity, name, root))) ∨
      (widgetPlace? s file = .ok none ∧ ∃ name, pagePlace? s file = .ok (some (name, root))) := by
  rw [unitRoot?, Except.bind_eq_ok]
  constructor
  · rintro ⟨place, hplace, h⟩
    cases place with
    | some p =>
      obtain ⟨entity, name, r⟩ := p
      obtain rfl := Option.some.inj (Except.ok.inj h)
      exact .inl ⟨entity, name, hplace⟩
    | none =>
      obtain ⟨page, hpage, h⟩ := Except.bind_eq_ok.1 h
      obtain ⟨⟨name, r⟩, rfl, rfl⟩ := Option.map_eq_some_iff.1 (Except.ok.inj h)
      exact .inr ⟨hplace, name, hpage⟩
  · rintro (⟨entity, name, h⟩ | ⟨hnone, name, h⟩)
    · exact ⟨_, h, rfl⟩
    · exact ⟨_, hnone, Except.bind_eq_ok.2 ⟨_, h, rfl⟩⟩

theorem unitRoot?_eq_none {file : Text} : unitRoot? s file = .ok none ↔
    widgetPlace? s file = .ok none ∧ pagePlace? s file = .ok none := by
  rw [unitRoot?, Except.bind_eq_ok]
  constructor
  · rintro ⟨place, hplace, h⟩
    cases place with
    | some p => cases h
    | none =>
      obtain ⟨page, hpage, h⟩ := Except.bind_eq_ok.1 h
      obtain rfl := Option.map_eq_none_iff.1 (Except.ok.inj h)
      exact ⟨hplace, hpage⟩
  · exact fun ⟨hw, hp⟩ => ⟨none, hw, Except.bind_eq_ok.2 ⟨none, hp, rfl⟩⟩

/-- Files of the unit with a root: all at one widget and at no page, or all at one page and at no
widget. -/
inductive Group (s : Settings) (root : Text) (files : List Text) : Prop
  | widget (entity name : Text)
    (at_widget : ∀ file ∈ files, widgetPlace? s file = .ok (some (entity, name, root)))
    (at_page : ∀ file ∈ files, pagePlace? s file = .ok none)
  | page (name : Text) (at_widget : ∀ file ∈ files, widgetPlace? s file = .ok none)
    (at_page : ∀ file ∈ files, pagePlace? s file = .ok (some (name, root)))

theorem Group.mono {root : Text} {xs files : List Text} (h : Group s root files) (hx : xs ⊆ files) :
    Group s root xs := by
  cases h with
  | widget entity name hw hp =>
    exact .widget entity name (fun file hf => hw file (hx hf)) fun file hf => hp file (hx hf)
  | page name hw hp =>
    exact .page name (fun file hf => hw file (hx hf)) fun file hf => hp file (hx hf)

/-- **Files whose units have one root are at one place.** -/
theorem Apart.group (h : Apart s sections pages) {root : Text} {files : List Text}
    (hall : ∀ file ∈ files, unitRoot? s file = .ok (some root)) : Group s root files := by
  cases files with
  | nil =>
    exact .widget [] [] (fun _ hf => absurd hf List.not_mem_nil)
      fun _ hf => absurd hf List.not_mem_nil
  | cons first rest =>
    rcases unitRoot?_eq_some.1 (hall first (List.mem_cons_self ..)) with
      ⟨entity, name, hfirst⟩ | ⟨-, name, hfirst⟩
    · have hw : ∀ file ∈ first :: rest,
          widgetPlace? s file = .ok (some (entity, name, root)) := by
        intro file hf
        rcases unitRoot?_eq_some.1 (hall file hf) with ⟨e, n, hfile⟩ | ⟨-, n, hfile⟩
        · rw [hfile, faithful_widgetSearch {} s file first _ _ hfile hfirst rfl]
        · exact (h.root_ne hfirst hfile).elim
      exact .widget entity name hw fun file hf => h.pagePlace?_of_widget (hw file hf)
    · have hp : ∀ file ∈ first :: rest, widgetPlace? s file = .ok none ∧
          pagePlace? s file = .ok (some (name, root)) := by
        intro file hf
        rcases unitRoot?_eq_some.1 (hall file hf) with ⟨e, n, hfile⟩ | ⟨hnone, n, hfile⟩
        · exact (h.root_ne hfile hfirst).elim
        · rw [hfile, faithful_pageSearch {} s file first _ _ hfile hfirst rfl]
          exact ⟨hnone, rfl⟩
      exact .page name (fun file hf => (hp file hf).1) fun file hf => (hp file hf).2

/-! ## 3.  Searching a group -/

/-- Searches that report the same lines, and find the same widgets and pages or fail alike. -/
def Alike (x y : Reporting UiHarness.Detection) : Prop :=
  x.outcome.1 = y.outcome.1 ∧
    x.outcome.2.map (fun found => (found.widgets, found.pages)) =
      y.outcome.2.map fun found => (found.widgets, found.pages)

/-- The widgets and the pages for files. -/
def unitsOf (d : Disk) (s : Settings) (files : List Text) :
    Reporting (List UiUnit × List UiUnit) := do
  let widgets ← widgetsFrom d s [] files
  let pages ← pagesFrom d s [] files
  return (widgets, pages)

theorem outcome_fromFiles (d : Disk) (s : Settings) (files : List Text) :
    (fromFiles d s files).outcome = ((unitsOf d s files).outcome.1,
      (unitsOf d s files).outcome.2.map fun r => ⟨r.1, r.2, files⟩) := by
  have hmap : fromFiles d s files = (fun r => ⟨r.1, r.2, files⟩) <$> unitsOf d s files := by
    simp only [fromFiles, unitsOf, map_bind, map_pure]
  rw [hmap]
  exact Reporting.outcome_map ..

/-- Files whose widgets and pages are searched in one way are searched alike. -/
theorem alike_of_eq {xs ys : List Text} (h : unitsOf d s xs = unitsOf d s ys) :
    Alike (fromFiles d s xs) (fromFiles d s ys) := by
  have hfst : ∀ files, (fromFiles d s files).outcome.2.map
      (fun found => (found.widgets, found.pages)) = (unitsOf d s files).outcome.2 := by
    intro files
    rw [outcome_fromFiles]
    cases (unitsOf d s files).outcome.2 with
    | error f => rfl
    | ok r => rfl
  exact ⟨by rw [outcome_fromFiles, outcome_fromFiles, h], by rw [hfst, hfst, h]⟩

theorem unitsOf_widget {files : List Text} {p : Text × Text × Text} (hne : files ≠ [])
    (hw : ∀ file ∈ files, widgetPlace? s file = .ok (some p))
    (hp : ∀ file ∈ files, pagePlace? s file = .ok none) :
    unitsOf d s files = (fun us => (us, [])) <$> (widgetSearch d s).runAt d s p := by
  have hwidgets : (widgetSearch d s).run d s [] files = (widgetSearch d s).runAt d s p :=
    Search.run_of_place hne hw
  rw [unitsOf, widgetsFrom_eq, pagesFrom_eq, hwidgets, Search.run_of_none hp]
  simp only [pure_bind, map_eq_pure_bind]

theorem unitsOf_page {files : List Text} {p : Text × Text} (hne : files ≠ [])
    (hw : ∀ file ∈ files, widgetPlace? s file = .ok none)
    (hp : ∀ file ∈ files, pagePlace? s file = .ok (some p)) :
    unitsOf d s files = (fun us => ([], us)) <$> (pageSearch d s).runAt d s p := by
  have hpages : (pageSearch d s).run d s [] files = (pageSearch d s).runAt d s p :=
    Search.run_of_place hne hp
  rw [unitsOf, widgetsFrom_eq, pagesFrom_eq, hpages, Search.run_of_none hw]
  simp only [pure_bind, map_eq_pure_bind]

/-- **The files of a group are searched alike**, all together, one by one, or some of them. -/
theorem Group.alike {root : Text} {files xs ys : List Text} (h : Group s root files)
    (hx : xs ≠ [] ∧ xs ⊆ files) (hy : ys ≠ [] ∧ ys ⊆ files) :
    Alike (fromFiles d s xs) (fromFiles d s ys) := by
  refine alike_of_eq ?_
  cases h with
  | widget entity name hw hp =>
    rw [unitsOf_widget hx.1 (fun file hf => hw file (hx.2 hf)) fun file hf => hp file (hx.2 hf),
      unitsOf_widget hy.1 (fun file hf => hw file (hy.2 hf)) fun file hf => hp file (hy.2 hf)]
  | page name hw hp =>
    rw [unitsOf_page hx.1 (fun file hf => hw file (hx.2 hf)) fun file hf => hp file (hx.2 hf),
      unitsOf_page hy.1 (fun file hf => hw file (hy.2 hf)) fun file hf => hp file (hy.2 hf)]

/-- The new unit at a place, if there is one, is in a directory. -/
theorem of_mem_new {π : Type} {σ : Search π} {p : π} {root : Text} {us : List UiUnit}
    (hnew : ∀ new, σ.new? d s p = .ok new → ∀ u ∈ new, directory s root = .ok u.root)
    (h : (σ.new? d s p).map Option.toList = .ok us) :
    us.length ≤ 1 ∧ ∀ u ∈ us, directory s root = .ok u.root := by
  obtain ⟨new, hp, rfl⟩ := Except.map_eq_ok.1 h
  refine ⟨?_, fun u hu => hnew new hp u (Option.mem_toList.1 hu)⟩
  cases new with
  | none => exact Nat.zero_le 1
  | some u => exact Nat.le_refl 1

/-- **A group has one unit at most**, in the directory of the root that its files have. -/
theorem Group.found {root : Text} {files : List Text} (h : Group s root files) (hne : files ≠ [])
    {found : UiHarness.Detection} (hfound : (fromFiles d s files).outcome.2 = .ok found) :
    found.units.length ≤ 1 ∧ ∀ u ∈ found.units, directory s root = .ok u.root := by
  rw [outcome_fromFiles] at hfound
  obtain ⟨r, hr, rfl⟩ := Except.map_eq_ok.1 hfound
  cases h with
  | widget entity name hw hp =>
    rw [unitsOf_widget hne hw hp, Reporting.outcome_map, (Search.ends_runAt _).outcome] at hr
    obtain ⟨us, hus, rfl⟩ := Except.map_eq_ok.1 hr
    rw [UiHarness.Detection.units, List.append_nil]
    exact of_mem_new (fun new h => (of_new?_widgetSearch h).2) hus
  | page name hw hp =>
    rw [unitsOf_page hne hw hp, Reporting.outcome_map, (Search.ends_runAt _).outcome] at hr
    obtain ⟨us, hus, rfl⟩ := Except.map_eq_ok.1 hr
    rw [UiHarness.Detection.units, List.nil_append]
    exact of_mem_new (fun new h => (of_new?_pageSearch h).2) hus

/-! ## 4.  The watcher -/

/-- The group of a file is the root of its unit. -/
theorem unitRoot?_of_key {here : Location} {p : Path} {file key : Text}
    (hfile : Watch.relative s here p = .ok file) (hkey : Watch.key s here p = .ok key)
    (hne : unitRoot? s file ≠ .ok none) : unitRoot? s file = .ok (some key) := by
  rw [Watch.key, Except.bind_eq_ok] at hkey
  obtain ⟨file', hfile', hkey⟩ := hkey
  obtain rfl : file = file' := Except.ok.inj (hfile.symm.trans hfile')
  obtain ⟨root, hroot, hkey⟩ := Except.bind_eq_ok.1 hkey
  cases root with
  | none => exact absurd hroot hne
  | some root => rw [hroot, ← Except.ok.inj hkey, Option.getD_some]

/-- **The watcher's groups agree with what is found**, if neither root of units lies inside the
other.  Files with one root of a unit are searched alike; at most one unit is found for them, in the
directory of that root; and for a file without a unit nothing is found.  So the files of units that
make one group of the watcher are searched like any one of them. -/
theorem grouping_agrees (d : Disk) (s : Settings) {sections pages : Path}
    (h : Apart s sections pages) :
    (∀ f g root, unitRoot? s f = .ok (some root) → unitRoot? s g = .ok (some root) →
      Alike (fromFiles d s [f]) (fromFiles d s [g])) ∧
    (∀ f root found, unitRoot? s f = .ok (some root) → (fromFiles d s [f]).outcome.2 = .ok found →
      found.units.length ≤ 1 ∧ ∀ u ∈ found.units, directory s root = .ok u.root) ∧
    (∀ f, unitRoot? s f = .ok none → (fromFiles d s [f]).outcome = ([], .ok ⟨[], [], [f]⟩)) ∧
    (∀ here key (group : List (Path × Text)), (∀ e ∈ group,
        Watch.relative s here e.1 = .ok e.2 ∧ Watch.key s here e.1 = .ok key ∧
        unitRoot? s e.2 ≠ .ok none) →
      ∀ e ∈ group, Alike (fromFiles d s (group.map Prod.snd)) (fromFiles d s [e.2])) := by
  refine ⟨fun f g root hf hg => ?_, fun f root found hf hfound => ?_, fun f hf => ?_, ?_⟩
  · have hgroup : Group s root [f, g] := h.group fun file hm => by
      rcases List.mem_cons.1 hm with rfl | hm
      · exact hf
      · exact List.mem_singleton.1 hm ▸ hg
    exact hgroup.alike ⟨List.cons_ne_nil _ _, by simp⟩ ⟨List.cons_ne_nil _ _, by simp⟩
  · have hgroup : Group s root [f] := h.group fun file hm => List.mem_singleton.1 hm ▸ hf
    exact hgroup.found (List.cons_ne_nil _ _) hfound
  · obtain ⟨hw, hp⟩ := unitRoot?_eq_none.1 hf
    have hwidgets : (widgetSearch d s).run d s [] [f] = pure [] :=
      Search.run_of_none fun file hm => List.mem_singleton.1 hm ▸ hw
    have hpages : (pageSearch d s).run d s [] [f] = pure [] :=
      Search.run_of_none fun file hm => List.mem_singleton.1 hm ▸ hp
    rw [outcome_fromFiles, unitsOf, widgetsFrom_eq, pagesFrom_eq, hwidgets, hpages]
    rfl
  · intro here key group hgroup e he
    have hall : Group s key (group.map Prod.snd) := h.group fun file hm => by
      obtain ⟨e', he', rfl⟩ := List.mem_map.1 hm
      obtain ⟨hfile, hkey, hne⟩ := hgroup e' he'
      exact unitRoot?_of_key hfile hkey hne
    have hfile : e.2 ∈ group.map Prod.snd := List.mem_map.2 ⟨e, he, rfl⟩
    exact hall.alike ⟨List.ne_nil_of_mem hfile, fun _ hx => hx⟩
      ⟨List.cons_ne_nil _ _, fun x hx => List.mem_singleton.1 hx ▸ hfile⟩

/-- A workspace with a widget of two files. -/
def pairDisk : Disk :=
  { entries := Table.ofList [("/s", .directory), ("/s/e", .directory), ("/s/e/W", .directory),
      ("/s/e/W/index.ts", .file (Text.encode "")), ("/s/e/W/Body.tsx", .file (Text.encode ""))] }

/-- Settings for that workspace. -/
def pairSettings : Settings :=
  { sectionsRoot := .text "s", pagesRoot := .text "g", entities := .list [.text "e"]
    packageRoot := .text "p", interactorRoot := .text "i", testRoot := .text "t" }

/-- The two files of the widget are searched alike, and the widget is found for each of them. -/
theorem grouping_agrees_pair :
    Apart pairSettings ⟨[], ["s"]⟩ ⟨[], ["g"]⟩ ∧
    unitRoot? pairSettings "s/e/W/index.ts" = .ok (some "s/e/W") ∧
    unitRoot? pairSettings "s/e/W/Body.tsx" = .ok (some "s/e/W") ∧
    Alike (fromFiles pairDisk pairSettings ["s/e/W/index.ts"])
      (fromFiles pairDisk pairSettings ["s/e/W/Body.tsx"]) ∧
    ∃ found, (fromFiles pairDisk pairSettings ["s/e/W/Body.tsx"]).outcome.2 = .ok found ∧
      found.units.map UiUnit.root = ["s/e/W".toList] ∧
      ∀ u ∈ found.units, directory pairSettings "s/e/W" = .ok u.root := by
  have hapart : Apart pairSettings ⟨[], ["s"]⟩ ⟨[], ["g"]⟩ :=
    ⟨rfl, rfl, ⟨rfl, rfl⟩, ⟨by decide, by decide⟩⟩
  have hfound : ((fromFiles pairDisk pairSettings ["s/e/W/Body.tsx"]).outcome.2.toOption.any
      fun found => found.units.map UiUnit.root = ["s/e/W".toList]) = true := by decide +kernel
  obtain ⟨halike, hone, -⟩ := grouping_agrees pairDisk pairSettings hapart
  obtain ⟨found, hok, hroots⟩ := Except.exists_of_any hfound
  exact ⟨hapart, rfl, rfl, halike _ _ _ rfl rfl, found, hok, of_decide_eq_true hroots,
    (hone _ _ found rfl hok).2⟩

end Detection

end UiHarness
