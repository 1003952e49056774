import UiHarness.Artifact
import UiHarness.Proofs.Path
import UiHarness.Proofs.Steps
import UiHarness.Proofs.UnitName

/-!
# Where generated files go

With the default roots, a generated file is in a directory of the workspace, in a subdirectory that
has the name or the category of its unit.  Interactors and tests have directories of their own, so
none takes the place of the other.  But the interactor of a widget does not tell its category, and
the test of a unit tells neither its kind nor, in the case of a widget, the case of its name.

* `Artifact.Place`: a root, a subdirectory and the name of a file.
* `Artifact.Place.reached`: the location of a place, which a pair of dots can change.
* `Artifact.pathsOf_eq`: the paths of the generated files of a unit.
* `Artifact.interactorPlace_eq_iff`, `Artifact.testPlace_eq_iff`: which units share a place.
* `Artifact.eq_of_reached_eq`: places that are reached at one location are one place.
-/

namespace UiHarness

namespace Settings

/-! ## 1.  Roots -/

/-- All roots have their defaults.  The workspace can be anywhere. -/
structure HasDefaultRoots (s : Settings) : Prop where
  sections : s.sectionsRoot = ({} : Settings).sectionsRoot
  package : s.packageRoot = ({} : Settings).packageRoot
  pages : s.pagesRoot = ({} : Settings).pagesRoot
  interactors : s.interactorRoot = ({} : Settings).interactorRoot
  tests : s.testRoot = ({} : Settings).testRoot
  pageInteractors : s.pageInteractorRoot = ({} : Settings).pageInteractorRoot
  pageTests : s.pageTestRoot = ({} : Settings).pageTestRoot

/-- The directory of the workspace, which is the working directory if none is named. -/
def base (s : Settings) : Except Fault Path := do
  let root ← s.workspace?
  .ok (root.getD {})

/-- A relative path is below the directory of the workspace. -/
theorem inWorkspace_eq {s : Settings} {p : Path} (hp : p.root = []) :
    s.inWorkspace p = s.base.map fun base => base.below p.parts := by
  obtain ⟨root, parts⟩ := p
  obtain rfl : root = [] := hp
  rw [inWorkspace, if_neg (by simp [Path.isAbsolute]), base]
  cases s.workspace? with
  | error f => rfl
  | ok root =>
    cases root with
    | none => rfl
    | some root => rfl

theorem resolve_eq {s : Settings} {v : Value} {parts : List Text}
    (hv : pathOf v = .ok ⟨[], parts⟩) : s.resolve v = s.base.map fun base => base.below parts := by
  rw [resolve, hv]
  exact inWorkspace_eq (p := ⟨[], parts⟩) rfl

end Settings

namespace Artifact

/-! ## 2.  Places -/

/-- A place for a file: the parts of a root, those of a subdirectory, and the name of the file. -/
structure Place where
  root : List Text
  directory : List Text
  file : Text

namespace Place

/-- The parts that lead to a place. -/
def parts (p : Place) : List Text := p.root ++ p.directory ++ [p.file]

/-- The parts that lead to a place without pairs of dots. -/
def reached (p : Place) : List Text :=
  (if p.directory = ["..".toList] then p.root.dropLast else p.root ++ p.directory) ++ [p.file]

/-- A place with at most one subdirectory, in which only this can be a pair of dots. -/
structure Plain (p : Place) : Prop where
  rooted : p.root ≠ []
  named : ∀ part ∈ p.root, Path.IsPart part ∧ part ≠ "..".toList
  single : p.directory.length ≤ 1
  directory : ∀ part ∈ p.directory, Path.IsPart part
  file : Path.IsPart p.file ∧ p.file ≠ "..".toList

theorem Plain.not_mem_root {p : Place} (h : p.Plain) : "..".toList ∉ p.root :=
  fun hm => (h.named _ hm).2 rfl

/-- Only a subdirectory can be a pair of dots. -/
theorem Plain.not_mem_directory {p : Place} (h : p.Plain) (hdots : p.directory ≠ ["..".toList]) :
    "..".toList ∉ p.directory := by
  intro hm
  obtain ⟨name, hname⟩ := List.length_eq_one_iff.1
    (Nat.le_antisymm h.single (List.length_pos_of_mem hm))
  rw [hname, List.mem_singleton] at hm
  exact hdots (by rw [hname, hm])

theorem Plain.not_mem_file {p : Place} (h : p.Plain) : "..".toList ∉ [p.file] :=
  fun hm => h.file.2 (List.mem_singleton.1 hm).symm

theorem Plain.not_mem_parts {p : Place} (h : p.Plain) (hdots : p.directory ≠ ["..".toList]) :
    "..".toList ∉ p.parts := by
  rw [parts, List.mem_append, List.mem_append, not_or, not_or]
  exact ⟨⟨h.not_mem_root, h.not_mem_directory hdots⟩, h.not_mem_file⟩

/-- **What the parts of a place lead to.** -/
theorem Plain.normalized {p : Place} (h : p.Plain) (before : List Text) :
    Path.normalized before p.parts = before ++ p.reached := by
  rw [parts, reached, Path.normalized_append, Path.normalized_append,
    Path.normalized_of_not_mem h.not_mem_root, Path.normalized_of_not_mem h.not_mem_file,
    ← List.append_assoc]
  split
  · rename_i hdots
    rw [hdots, Path.normalized, if_pos rfl, Path.normalized,
      List.dropLast_append_of_ne_nil h.rooted]
  · rename_i hdots
    rw [Path.normalized_of_not_mem (h.not_mem_directory hdots), List.append_assoc before]

/-- The parts of a place decide what is reached. -/
theorem Plain.reached_congr {p q : Place} (hp : p.Plain) (hq : q.Plain) (h : p.parts = q.parts) :
    p.reached = q.reached := by
  have hreached := hp.normalized []
  rw [h, hq.normalized, List.nil_append, List.nil_append] at hreached
  exact hreached.symm

/-- Without pairs of dots, the parts of a place are names. -/
theorem Plain.isPart_of_mem_reached {p : Place} (h : p.Plain) {part : Text}
    (hm : part ∈ p.reached) : Path.IsPart part := by
  rw [reached, List.mem_append, List.mem_singleton] at hm
  rcases hm with hm | rfl
  · split at hm
    · exact (h.named part (List.dropLast_subset _ hm)).1
    · rcases List.mem_append.1 hm with hm | hm
      · exact (h.named part hm).1
      · exact h.directory part hm
  · exact h.file.1

/-- Below one root, places that are reached in the same way are one place. -/
theorem Plain.eq_of_reached_eq {p q : Place} (hp : p.Plain) (hq : q.Plain)
    (hroot : p.root = q.root) (h : p.reached = q.reached) : p = q := by
  obtain ⟨hfront, hfile⟩ := List.append_inj' h rfl
  have hdirectory : p.directory = q.directory := by
    have hlength := congrArg List.length hfront
    have hpos := List.length_pos_iff.2 hp.rooted
    rw [hroot] at hpos hfront hlength
    split at hfront
    · rename_i hdots
      split at hfront
      · rename_i hdots'
        rw [hdots, hdots']
      · rw [if_pos hdots, if_neg (by assumption), List.length_dropLast, List.length_append]
          at hlength
        omega
    · split at hfront
      · rw [if_neg (by assumption), if_pos (by assumption), List.length_dropLast,
          List.length_append] at hlength
        omega
      · exact List.append_cancel_left hfront
  obtain ⟨root, directory, file⟩ := p
  obtain ⟨root', directory', file'⟩ := q
  rw [Place.mk.injEq]
  exact ⟨hroot, hdirectory, (List.cons.inj hfile).1⟩

end Place

/-! ## 3.  Places of units -/

/-- The parts of a category that is read as a path: itself, unless it means nothing. -/
def directoryOf (category : Text) : List Text := (Path.ofText category).parts

/-- What the name of a test begins with. -/
def testStem (u : UiUnit) : Text :=
  if u.isPage then UnitName.lowerFirst u.name else Text.lower u.name

/-- Where the interactors of widgets go. -/
def widgetRoot : List Text := ["packages", "platform-test", "POM", "objects", "widgets"]

/-- Where the interactors of pages go. -/
def pageRoot : List Text := ["packages", "platform-test", "POM", "page"]

/-- Where tests go. -/
def testRoot : List Text := ["packages", "platform-test", "e2e", "pages"]

theorem named_widgetRoot : ∀ part ∈ widgetRoot, Path.IsPart part ∧ part ≠ "..".toList := by decide

theorem named_pageRoot : ∀ part ∈ pageRoot, Path.IsPart part ∧ part ≠ "..".toList := by decide

theorem named_testRoot : ∀ part ∈ testRoot, Path.IsPart part ∧ part ≠ "..".toList := by decide

/-- The place of the interactor of a unit. -/
def interactorPlace (u : UiUnit) : Place :=
  if u.isPage then ⟨pageRoot, directoryOf u.category, UnitName.interactorStem u.name ++ ".ts"⟩
  else ⟨widgetRoot, [u.name], UnitName.lowerFirst u.name ++ "Section.ts"⟩

/-- The place of the test of a unit. -/
def testPlace (u : UiUnit) : Place :=
  ⟨testRoot, directoryOf u.category, testStem u ++ ".spec.ts"⟩

/-- A unit with names that have no slashes, as those that are found have. -/
structure Named (u : UiUnit) : Prop where
  name : Path.IsPart u.name
  category : '/' ∉ u.category

/-- A text behind which something stands that no name ends with is no pair of dots. -/
theorem isPart_append {stem ending : Text} (hstem : '/' ∉ stem) (hending : '/' ∉ ending)
    (hts : ".ts".toList <:+ ending) :
    Path.IsPart (stem ++ ending) ∧ stem ++ ending ≠ "..".toList := by
  have hsuffix : ".ts".toList <:+ stem ++ ending := hts.trans (List.suffix_append _ _)
  refine ⟨⟨?_, fun hm => (List.mem_append.1 hm).elim hstem hending⟩, fun heq => ?_⟩
  · rw [Path.isName, Bool.and_eq_true, Bool.not_eq_true', decide_eq_true_eq, ← Bool.not_eq_true,
      List.isEmpty_iff]
    refine ⟨fun heq => ?_, fun heq => ?_⟩
    · rw [heq] at hsuffix
      exact absurd hsuffix (by decide)
    · rw [heq] at hsuffix
      exact absurd hsuffix (by decide)
  · rw [heq] at hsuffix
    exact absurd hsuffix (by decide)

theorem directoryOf_eq {category : Text} (h : '/' ∉ category) :
    directoryOf category = [category].filter Path.isName := by
  rw [directoryOf, Path.ofText_of_not_mem h]

theorem length_directoryOf_le {category : Text} (h : '/' ∉ category) :
    (directoryOf category).length ≤ 1 := by
  rw [directoryOf_eq h]
  exact List.length_filter_le _ _

theorem not_mem_testStem {u : UiUnit} (h : Named u) : '/' ∉ testStem u := by
  rw [testStem]
  split
  · exact UnitName.not_mem_lowerFirst h.name.2
  · exact Text.not_mem_lower (by decide) (by decide) h.name.2

theorem plain_interactorPlace {u : UiUnit} (h : Named u) : (interactorPlace u).Plain := by
  rw [interactorPlace]
  split
  · refine ⟨List.cons_ne_nil _ _, named_pageRoot, length_directoryOf_le h.category,
      (Path.clean_ofText u.category).parts,
      isPart_append (UnitName.not_mem_interactorStem h.name.2) (by decide) (by decide)⟩
  · refine ⟨List.cons_ne_nil _ _, named_widgetRoot, Nat.le_refl 1, fun part hm => ?_,
      isPart_append (UnitName.not_mem_lowerFirst h.name.2) (by decide) (by decide)⟩
    exact List.mem_singleton.1 hm ▸ h.name

theorem plain_testPlace {u : UiUnit} (h : Named u) : (testPlace u).Plain :=
  ⟨List.cons_ne_nil _ _, named_testRoot, length_directoryOf_le h.category,
    (Path.clean_ofText u.category).parts, isPart_append (not_mem_testStem h) (by decide) (by decide)⟩

/-- A file in a subdirectory of a root is at a place below the directory of the root. -/
theorem child_child_eq (base : Path) {root : List Text} {category file : Text}
    (hcategory : '/' ∉ category) (hfile : Path.IsPart file) :
    ((base.below root).child category).child file =
      base.below (Place.parts ⟨root, directoryOf category, file⟩) := by
  rw [Path.child_of_isPart _ hfile, Path.child, Path.ofText_of_not_mem hcategory, Place.parts,
    directoryOf_eq hcategory, Path.below, Path.below, List.append_assoc root, ← List.append_assoc,
    ← List.append_assoc]
  rfl

/-- **The paths of the generated files of a unit.** -/
theorem pathsOf_eq {s : Settings} (hs : s.HasDefaultRoots) {u : UiUnit} (h : Named u) :
    pathsOf s u = s.base.map fun base =>
      ⟨base.below (interactorPlace u).parts, base.below (testPlace u).parts⟩ := by
  have hinteractors : s.resolve s.interactorRoot = s.base.map fun base => base.below widgetRoot :=
    hs.interactors ▸ Settings.resolve_eq rfl
  have htests : s.resolve s.testRoot = s.base.map fun base => base.below testRoot :=
    hs.tests ▸ Settings.resolve_eq rfl
  have hpages : s.resolve s.pageInteractorRoot = s.base.map fun base => base.below pageRoot :=
    hs.pageInteractors ▸ Settings.resolve_eq rfl
  have hpageTests : s.resolve s.pageTestRoot = s.base.map fun base => base.below testRoot :=
    hs.pageTests ▸ Settings.resolve_eq rfl
  rw [pathsOf, hinteractors, htests, hpages, hpageTests]
  cases s.base with
  | error f =>
    split
    · rfl
    · rfl
  | ok base =>
    have hi := (plain_interactorPlace h).file.1
    have ht := (plain_testPlace h).file.1
    rw [testPlace] at ht
    dsimp only [Except.map] at ht ⊢
    rw [testPlace, ← child_child_eq base h.category ht]
    rw [testStem] at ht ⊢
    by_cases hpage : u.isPage = true
    · rw [interactorPlace, if_pos hpage] at hi ⊢
      rw [if_pos hpage, if_pos hpage, ← child_child_eq base h.category hi]
      rfl
    · have hname : directoryOf u.name = [u.name] := by
        rw [directoryOf, Path.ofText_of_isPart h.name]
      rw [interactorPlace, if_neg hpage, ← hname] at hi ⊢
      rw [if_neg hpage, if_neg hpage, ← child_child_eq base h.name.2 hi]
      rfl

/-! ## 4.  Shared places -/

/-- Units whose interactors have one place: widgets of one name, or pages of one category and one
stem. -/
def SameInteractor (u v : UiUnit) : Prop :=
  (u.isPage = false ∧ v.isPage = false ∧ u.name = v.name) ∨
    (u.isPage = true ∧ v.isPage = true ∧ directoryOf u.category = directoryOf v.category ∧
      UnitName.interactorStem u.name = UnitName.interactorStem v.name)

/-- Units whose tests have one place: units of one category and one stem, whatever their kinds. -/
def SameTest (u v : UiUnit) : Prop :=
  directoryOf u.category = directoryOf v.category ∧ testStem u = testStem v

/-- **Which units share the place of an interactor.** -/
theorem interactorPlace_eq_iff {u v : UiUnit} :
    interactorPlace u = interactorPlace v ↔ SameInteractor u v := by
  have hroots : pageRoot ≠ widgetRoot := by decide
  rw [interactorPlace, interactorPlace, SameInteractor]
  by_cases hu : u.isPage = true
  · by_cases hv : v.isPage = true
    · rw [if_pos hu, if_pos hv, Place.mk.injEq, List.append_cancel_right_eq]
      constructor
      · exact fun h => .inr ⟨hu, hv, h.2⟩
      · rintro (⟨h, -⟩ | ⟨-, -, h⟩)
        · exact absurd (h.symm.trans hu) Bool.false_ne_true
        · exact ⟨rfl, h⟩
    · rw [if_pos hu, if_neg hv, Place.mk.injEq]
      constructor
      · exact fun h => absurd h.1 hroots
      · rintro (⟨h, -⟩ | ⟨-, h, -⟩)
        · exact absurd (h.symm.trans hu) Bool.false_ne_true
        · exact absurd h hv
  · by_cases hv : v.isPage = true
    · rw [if_neg hu, if_pos hv, Place.mk.injEq]
      constructor
      · exact fun h => absurd h.1.symm hroots
      · rintro (⟨-, h, -⟩ | ⟨h, -⟩)
        · exact absurd (h.symm.trans hv) Bool.false_ne_true
        · exact absurd h hu
    · rw [if_neg hu, if_neg hv, Place.mk.injEq, List.append_cancel_right_eq]
      constructor
      · exact fun h => .inl ⟨Bool.not_eq_true _ ▸ hu, Bool.not_eq_true _ ▸ hv,
          (List.cons.inj h.2.1).1⟩
      · rintro (⟨-, -, h⟩ | ⟨h, -⟩)
        · exact ⟨rfl, by rw [h], by rw [h]⟩
        · exact absurd h hu

/-- **Which units share the place of a test.** -/
theorem testPlace_eq_iff {u v : UiUnit} : testPlace u = testPlace v ↔ SameTest u v := by
  rw [testPlace, testPlace, SameTest, Place.mk.injEq, List.append_cancel_right_eq,
    and_iff_right rfl]

/-- The first parts of a long root are reached. -/
theorem take_reached (p : Place) (h : 4 ≤ p.root.length) : p.reached.take 3 = p.root.take 3 := by
  rw [Place.reached]
  split
  · rw [List.take_append_of_le_length (by rw [List.length_dropLast]; omega), List.dropLast_eq_take,
      List.take_take, Nat.min_eq_left (by omega)]
  · rw [List.append_assoc, List.take_append_of_le_length (by omega)]

theorem take_interactorPlace (u : UiUnit) :
    (interactorPlace u).reached.take 3 = ["packages".toList, "platform-test".toList,
      "POM".toList] := by
  rw [interactorPlace]
  split
  · exact take_reached _ (show 4 ≤ pageRoot.length by decide)
  · exact take_reached _ (show 4 ≤ widgetRoot.length by decide)

/-- **Interactors and tests have no place in common.** -/
theorem interactorPlace_reached_ne (u v : UiUnit) :
    (interactorPlace u).reached ≠ (testPlace v).reached := by
  intro h
  have htest : (testPlace v).reached.take 3 = testRoot.take 3 :=
    take_reached _ (show 4 ≤ testRoot.length by decide)
  rw [← h, take_interactorPlace] at htest
  exact absurd htest (by decide)

/-- The interactors of pages and of widgets have no place in common. -/
theorem page_reached_ne (directory directory' : List Text) (stem file : Text) :
    (Place.mk pageRoot directory (stem ++ ".ts")).reached ≠
      (Place.mk widgetRoot directory' file).reached := by
  intro h
  have hwidget : (Place.mk widgetRoot directory' file).reached[3]? = some "objects".toList := by
    rw [Place.reached]
    split
    · rfl
    · rfl
  rw [← h, Place.reached] at hwidget
  split at hwidget
  · -- behind a pair of dots the file stands where the others have a directory
    have hfile : stem ++ ".ts".toList = "objects".toList := Option.some.inj hwidget
    exact absurd (hfile ▸ List.suffix_append stem ".ts".toList) (by decide)
  · exact absurd (Option.some.inj hwidget) (by decide)

/-- **Interactors that are reached at one location have one place.** -/
theorem interactorPlace_eq_of_reached {u v : UiUnit} (hu : Named u) (hv : Named v)
    (h : (interactorPlace u).reached = (interactorPlace v).reached) :
    interactorPlace u = interactorPlace v := by
  refine (plain_interactorPlace hu).eq_of_reached_eq (plain_interactorPlace hv) ?_ h
  rw [interactorPlace, interactorPlace] at h ⊢
  split
  · rename_i hu
    split
    · rfl
    · rename_i hv
      rw [if_pos hu, if_neg hv] at h
      exact absurd h (page_reached_ne _ _ _ _)
  · rename_i hu
    split
    · rename_i hv
      rw [if_neg hu, if_pos hv] at h
      exact absurd h.symm (page_reached_ne _ _ _ _)
    · rfl

/-- **Tests that are reached at one location have one place.** -/
theorem testPlace_eq_of_reached {u v : UiUnit} (hu : Named u) (hv : Named v)
    (h : (testPlace u).reached = (testPlace v).reached) : testPlace u = testPlace v :=
  (plain_testPlace hu).eq_of_reached_eq (plain_testPlace hv) rfl h

/-- The parts of the places of interactors are equal for units that share a place. -/
theorem interactorPlace_parts_iff {u v : UiUnit} (hu : Named u) (hv : Named v) :
    (interactorPlace u).parts = (interactorPlace v).parts ↔ SameInteractor u v := by
  rw [← interactorPlace_eq_iff]
  exact ⟨fun h => interactorPlace_eq_of_reached hu hv
    ((plain_interactorPlace hu).reached_congr (plain_interactorPlace hv) h), fun h => by rw [h]⟩

/-- The parts of the places of tests are equal for units that share a place. -/
theorem testPlace_parts_iff {u v : UiUnit} (hu : Named u) (hv : Named v) :
    (testPlace u).parts = (testPlace v).parts ↔ SameTest u v := by
  rw [← testPlace_eq_iff]
  exact ⟨fun h => testPlace_eq_of_reached hu hv
    ((plain_testPlace hu).reached_congr (plain_testPlace hv) h), fun h => by rw [h]⟩

theorem interactorPlace_parts_ne {u v : UiUnit} (hu : Named u) (hv : Named v) :
    (interactorPlace u).parts ≠ (testPlace v).parts := fun h =>
  interactorPlace_reached_ne u v ((plain_interactorPlace hu).reached_congr (plain_testPlace hv) h)

end Artifact

end UiHarness
