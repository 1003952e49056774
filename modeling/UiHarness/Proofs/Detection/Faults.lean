import UiHarness.Proofs.Detection.Places

/-!
# How looking for units fails

Whether a path leads to a file can be asked for every path but one: that with too long a name.  So
looking for units fails for too long a name, and if the settings are of the right kinds, for nothing
else: whatever is read has been found to be a file before, and a file that is no text is left out.

* `Except.FailsOnly`: a step that can fail in some ways only.
* `Disk.TooLongAmong`: one of some paths is too long.
* `Disk.exists_readText?`: a file can be read, or is left out.
* `Source.among_ofWidget`, `Source.among_ofPage`: reading the sources of a unit, and what it asks
  for.
* `Source.failsOnly_ofWidget`, `Source.failsOnly_ofPage`: the same of any paths.
* `Settings.Resolves`, `Settings.Fits`: settings of the right kinds.
* `Detection.failsOnly_widgets`, `Detection.failsOnly_pages`: looking for units.
-/

namespace UiHarness

namespace Except

variable {α β ε : Type} {P Q : ε → Prop}

/-! ## 1.  Ways to fail -/

/-- A result that is a fault of a kind, if it is one. -/
def FailsOnly (P : ε → Prop) (x : Except ε α) : Prop := ∀ e, x = .error e → P e

theorem failsOnly_ok (a : α) : FailsOnly P (.ok a) := fun _ h => (by cases h)

theorem failsOnly_of_exists {x : Except ε α} (h : ∃ a, x = .ok a) : FailsOnly P x := by
  obtain ⟨a, rfl⟩ := h
  exact failsOnly_ok a

theorem FailsOnly.mono {x : Except ε α} (h : FailsOnly P x) (hQ : ∀ e, P e → Q e) :
    FailsOnly Q x :=
  fun e he => hQ e (h e he)

theorem FailsOnly.bind {x : Except ε α} {f : α → Except ε β} (hx : FailsOnly P x)
    (hf : ∀ a, x = .ok a → FailsOnly P (f a)) : FailsOnly P (x >>= f) := by
  cases x with
  | error e => exact fun e' h => hx e' (by cases h; rfl)
  | ok a => exact hf a rfl

theorem failsOnly_foldlM {f : β → α → Except ε β} {l : List α}
    (h : ∀ a ∈ l, ∀ b, FailsOnly P (f b a)) (b : β) : FailsOnly P (l.foldlM f b) := by
  induction l generalizing b with
  | nil => exact failsOnly_ok b
  | cons a l ih =>
    rw [List.foldlM_cons]
    exact (h a (List.mem_cons_self ..) b).bind fun c _ =>
      ih (fun x hx => h x (List.mem_cons_of_mem _ hx)) c

theorem failsOnly_findM? {p : α → Except ε Bool} {l : List α} (h : ∀ a ∈ l, FailsOnly P (p a)) :
    FailsOnly P (l.findM? p) := by
  induction l with
  | nil => exact failsOnly_ok none
  | cons a l ih =>
    rw [List.forall_mem_cons] at h
    rw [List.findM?]
    refine h.1.bind fun found _ => ?_
    cases found with
    | false => exact ih h.2
    | true => exact failsOnly_ok (some a)

theorem failsOnly_findSomeM? {f : α → Except ε (Option β)} {l : List α}
    (h : ∀ a ∈ l, FailsOnly P (f a)) : FailsOnly P (l.findSomeM? f) := by
  induction l with
  | nil => exact failsOnly_ok none
  | cons a l ih =>
    rw [List.forall_mem_cons] at h
    rw [List.findSomeM?_cons]
    refine h.1.bind fun found _ => ?_
    cases found with
    | none => exact ih h.2
    | some b => exact failsOnly_ok (some b)

end Except

/-- A name is too long. -/
def Fault.IsTooLong (f : Fault) : Prop := ∃ path, f = .refused .nameTooLong path

/-! ## 2.  Files -/

namespace Disk

variable {d : Disk} {p : Path} {A : Path → Prop} {f : Fault}

/-- One of some paths is too long to be asked for, and this is the fault. -/
def TooLongAmong (d : Disk) (A : Path → Prop) (f : Fault) : Prop :=
  ∃ p, A p ∧ d.find p = .error .nameTooLong ∧ f = .refused .nameTooLong p.text

theorem TooLongAmong.isTooLong (h : d.TooLongAmong A f) : f.IsTooLong := by
  obtain ⟨p, -, -, hf⟩ := h
  exact ⟨p.text, hf⟩

theorem among_find? (h : A p) : Except.FailsOnly (d.TooLongAmong A) (d.find? p) := by
  rw [find?]
  split
  · exact Except.failsOnly_ok _
  · rename_i hfind
    exact fun f hf => ⟨p, h, hfind, (Except.error.inj hf).symm⟩
  · exact Except.failsOnly_ok _

theorem among_isFile (h : A p) : Except.FailsOnly (d.TooLongAmong A) (d.isFile p) := by
  refine (among_find? h).bind fun e _ => ?_
  split
  · exact Except.failsOnly_ok _
  · exact Except.failsOnly_ok _

theorem among_isDirectory (h : A p) : Except.FailsOnly (d.TooLongAmong A) (d.isDirectory p) := by
  refine (among_find? h).bind fun e _ => ?_
  split
  · exact Except.failsOnly_ok _
  · exact Except.failsOnly_ok _

/-- Any path may be the one that is too long. -/
theorem isTooLong_of_among {α : Type} {x : Except Fault α}
    (h : Except.FailsOnly (d.TooLongAmong fun _ => True) x) :
    Except.FailsOnly Fault.IsTooLong x :=
  h.mono fun _ => TooLongAmong.isTooLong

theorem failsOnly_contains (d : Disk) (p : Path) :
    Except.FailsOnly Fault.IsTooLong (d.contains p) :=
  (isTooLong_of_among (among_find? trivial)).bind fun _ _ => Except.failsOnly_ok _

theorem failsOnly_isFile (d : Disk) (p : Path) : Except.FailsOnly Fault.IsTooLong (d.isFile p) :=
  isTooLong_of_among (among_isFile trivial)

theorem failsOnly_isDirectory (d : Disk) (p : Path) :
    Except.FailsOnly Fault.IsTooLong (d.isDirectory p) :=
  isTooLong_of_among (among_isDirectory trivial)

/-- **A file can be read**, or is left out. -/
theorem exists_readText? (h : d.isFile p = .ok true) : ∃ t, d.readText? p = .ok t := by
  obtain ⟨bytes, hfind⟩ := isFile_eq_true.1 h
  have hbytes : d.readBytes p = .ok bytes := by rw [readBytes, hfind]
  have htext : d.readText p = (Text.ofFile bytes).mapError Fault.undecodable := by
    rw [readText, hbytes]
    dsimp only [bind, Except.bind]
    cases Text.ofFile bytes with
    | error u => rfl
    | ok t => rfl
  rw [readText?, htext]
  cases Text.ofFile bytes with
  | error u => exact ⟨none, rfl⟩
  | ok t => exact ⟨some t, rfl⟩

end Disk

/-! ## 3.  Sources -/

namespace Source

variable {d : Disk} {A : Path → Prop} {unit root : Path} {files : Files}

/-- A file that has been found is added, or is left out. -/
theorem exists_addRead {path : Path} (h : d.isFile path = .ok true) (files : Files) (key : Text) :
    ∃ files', addRead d files key path = .ok files' := by
  obtain ⟨t, ht⟩ := Disk.exists_readText? h
  rw [addRead, ht]
  cases t with
  | none => exact ⟨files, rfl⟩
  | some text => exact ⟨files.insert key ⟨text, path⟩, rfl⟩

theorem among_main (hA : ∀ name ∈ mainFiles, ∀ e ∈ extensions, A (unit.child (name ++ e))) :
    Except.FailsOnly (d.TooLongAmong A) (main d unit) := by
  refine Except.failsOnly_foldlM (fun name hname _ => ?_) _
  refine Except.FailsOnly.bind ?_ fun found _ => ?_
  · refine Except.failsOnly_findSomeM? fun e he => ?_
    refine (Disk.among_isFile (hA name hname e he)).bind fun isFile hfile => ?_
    cases isFile with
    | false => exact Except.failsOnly_ok none
    | true =>
      obtain ⟨t, ht⟩ := Disk.exists_readText? hfile
      exact (Except.failsOnly_of_exists ⟨t, ht⟩).bind fun _ _ => Except.failsOnly_ok _
  · cases found with
    | none => exact Except.failsOnly_ok _
    | some file => exact Except.failsOnly_ok _

/-- The places where a module nearby can be. -/
def nearbyPlaces (base : Path) (specifier : Text) : List Path :=
  let name := (Text.after? "./" specifier).getD specifier
  extensions.flatMap fun e => [base.child (name ++ e), (base.child name).child ("index" ++ e)]

theorem resolve?_eq (d : Disk) (base : Path) (specifier : Text) :
    resolve? d base specifier = (nearbyPlaces base specifier).findM? d.isFile := rfl

theorem among_addAllNearby (hA : ∀ body, files.get? "Body" = some body →
      ∀ s ∈ Scan.nearby body.text, ∀ p ∈ nearbyPlaces unit s, A p) :
    Except.FailsOnly (d.TooLongAmong A) (addAllNearby d unit files) := by
  rw [addAllNearby]
  split
  · exact Except.failsOnly_ok files
  · rename_i body hbody
    refine Except.failsOnly_foldlM (fun s hs files => ?_) files
    have hresolve : Except.FailsOnly (d.TooLongAmong A) (resolve? d unit s) :=
      Except.failsOnly_findM? fun p hp => Disk.among_isFile (hA body hbody s hs p hp)
    refine hresolve.bind fun path hpath => ?_
    cases path with
    | none => exact Except.failsOnly_ok files
    | some path =>
      dsimp only
      split
      · exact Except.failsOnly_ok files
      · exact Except.failsOnly_of_exists (exists_addRead (Except.of_findM? hpath).2 _ _)

theorem among_packageFiles (hA : ∀ f ∈ files.values, ∀ name ∈ Scan.packageNames f.text,
      ∀ p ∈ packagePlaces root name, A p) :
    Except.FailsOnly (d.TooLongAmong A) (packageFiles d root files) := by
  refine Except.failsOnly_foldlM (fun name hname found => ?_) _
  have htaken := (List.mem_filter.1 hname).1
  rw [Scan.distinct_eq, List.mem_eraseDups] at htaken
  obtain ⟨f, hf, hname⟩ := List.mem_flatMap.1 htaken
  have hfind : Except.FailsOnly (d.TooLongAmong A) (findComponent? d root name) :=
    Except.failsOnly_findM? fun p hp => Disk.among_isFile (hA f hf name hname p hp)
  refine hfind.bind fun path hpath => ?_
  cases path with
  | none => exact Except.failsOnly_ok found
  | some path => exact Except.failsOnly_of_exists (exists_addRead (Except.of_findM? hpath).2 _ _)

theorem among_addQueries (hunit : A unit) (hA : ∀ name ∈ d.names unit, A (unit.child name)) :
    Except.FailsOnly (d.TooLongAmong A) (addQueries d unit files) := by
  refine (Disk.among_isDirectory hunit).bind fun isDirectory _ => ?_
  cases isDirectory with
  | false => exact Except.failsOnly_ok files
  | true =>
    refine Except.failsOnly_foldlM (fun name hname files => ?_) files
    dsimp only
    split
    · refine (Disk.among_isFile (hA name hname)).bind fun isFile hfile => ?_
      cases isFile with
      | false => exact Except.failsOnly_ok files
      | true => exact Except.failsOnly_of_exists (exists_addRead hfile _ _)
    · exact Except.failsOnly_ok files

/-- What reading the sources of a widget asks for is among some paths: the places of main files, of
what the body imports and of the components of the shared package, the roots, and what is in the
directory. -/
structure AsksWithin (d : Disk) (unit : Path) (packageRoot : Option Path) (A : Path → Prop) :
    Prop where
  main : ∀ name ∈ mainFiles, ∀ e ∈ extensions, A (unit.child (name ++ e))
  nearby : ∀ first, Source.main d unit = .ok first → ∀ body, first.get? "Body" = some body →
    ∀ s ∈ Scan.nearby body.text, ∀ p ∈ nearbyPlaces unit s, A p
  root : ∀ root ∈ packageRoot, A root
  component : ∀ first own, Source.main d unit = .ok first → addAllNearby d unit first = .ok own →
    ∀ root ∈ packageRoot, ∀ f ∈ own.values, ∀ name ∈ Scan.packageNames f.text,
      ∀ p ∈ packagePlaces root name, A p
  directory : A unit
  query : ∀ name ∈ d.names unit, A (unit.child name)

theorem among_ofWidget {packageRoot : Option Path} (h : AsksWithin d unit packageRoot A) :
    Except.FailsOnly (d.TooLongAmong A) (ofWidget d unit packageRoot) := by
  refine (among_main h.main).bind fun first hfirst => ?_
  refine (among_addAllNearby (h.nearby first hfirst)).bind fun own hown => ?_
  cases packageRoot with
  | none => exact among_addQueries h.directory h.query
  | some root =>
    refine (Disk.among_isDirectory (h.root root rfl)).bind fun isDirectory _ => ?_
    cases isDirectory with
    | false => exact among_addQueries h.directory h.query
    | true =>
      refine (among_packageFiles (h.component first own hfirst hown root rfl)).bind fun _ _ => ?_
      exact among_addQueries h.directory h.query

/-- **Reading the sources of a widget** fails for too long a name only. -/
theorem failsOnly_ofWidget (d : Disk) (unit : Path) (packageRoot : Option Path) :
    Except.FailsOnly Fault.IsTooLong (ofWidget d unit packageRoot) :=
  Disk.isTooLong_of_among (among_ofWidget
    { main := fun _ _ _ _ => trivial, nearby := fun _ _ _ _ _ _ _ _ => trivial
      root := fun _ _ => trivial, component := fun _ _ _ _ _ _ _ _ _ _ _ _ => trivial
      directory := trivial, query := fun _ _ => trivial })

/-- What reading the sources of a page asks for is its directory and what is in it. -/
theorem among_ofPage {page : Path} (hpage : A page)
    (hA : ∀ name ∈ d.names page, A (page.child name)) :
    Except.FailsOnly (d.TooLongAmong A) (ofPage d page) := by
  refine (Disk.among_isDirectory hpage).bind fun isDirectory _ => ?_
  cases isDirectory with
  | false => exact Except.failsOnly_ok _
  | true =>
    refine Except.FailsOnly.bind ?_ fun own _ => among_addQueries hpage hA
    refine Except.failsOnly_foldlM (fun name hname files => ?_) _
    dsimp only
    split
    · refine (Disk.among_isFile (hA name hname)).bind fun isFile hfile => ?_
      split
      · rename_i hboth
        have htrue : isFile = true := (Bool.and_eq_true_iff.1 hboth).1
        exact Except.failsOnly_of_exists (exists_addRead (htrue ▸ hfile) _ _)
      · exact Except.failsOnly_ok files
    · exact Except.failsOnly_ok files

/-- **Reading the sources of a page** fails for too long a name only. -/
theorem failsOnly_ofPage (d : Disk) (page : Path) :
    Except.FailsOnly Fault.IsTooLong (ofPage d page) :=
  Disk.isTooLong_of_among (among_ofPage trivial fun _ _ => trivial)

end Source

/-! ## 4.  Settings of the right kinds -/

namespace Settings

/-- The settings that say where files are, apart from those for files that are added, are texts. -/
structure Resolves (s : Settings) : Prop where
  workspace : ∃ root, s.workspace? = .ok root
  package : ∃ t, s.packageRoot = .text t
  interactors : ∃ t, s.interactorRoot = .text t
  tests : ∃ t, s.testRoot = .text t
  pageInteractors : ∃ t, s.pageInteractorRoot = .text t
  pageTests : ∃ t, s.pageTestRoot = .text t

/-- All settings that detection uses are of the right kinds. -/
structure Fits (s : Settings) : Prop extends Resolves s where
  sections : ∃ t, s.sectionsRoot = .text t
  pages : ∃ t, s.pagesRoot = .text t
  entities : ∀ entity, ∃ known, holds s.entities entity = .ok known

theorem Resolves.exists_inWorkspace {s : Settings} (h : s.Resolves) (p : Path) :
    ∃ q, s.inWorkspace p = .ok q := by
  obtain ⟨root, hroot⟩ := h.workspace
  rw [inWorkspace]
  split
  · exact ⟨p, rfl⟩
  · rw [hroot]
    cases root with
    | none => exact ⟨p, rfl⟩
    | some root => exact ⟨root.join p, rfl⟩

theorem Resolves.exists_resolve {s : Settings} (h : s.Resolves) {v : Value}
    (hv : ∃ t, v = .text t) : ∃ q, s.resolve v = .ok q := by
  obtain ⟨t, rfl⟩ := hv
  exact h.exists_inWorkspace (.ofText t)

end Settings

namespace Detection

variable {d : Disk} {s : Settings}

/-! ## 5.  Looking for units -/

theorem exists_pathsOf (hs : s.Resolves) (u : UiUnit) :
    ∃ paths, Artifact.pathsOf s u = .ok paths := by
  obtain ⟨pi, hpi⟩ := hs.exists_resolve hs.pageInteractors
  obtain ⟨pt, hpt⟩ := hs.exists_resolve hs.pageTests
  obtain ⟨wi, hwi⟩ := hs.exists_resolve hs.interactors
  obtain ⟨wt, hwt⟩ := hs.exists_resolve hs.tests
  rw [Artifact.pathsOf, hpi, hpt, hwi, hwt]
  split
  · exact ⟨_, rfl⟩
  · exact ⟨_, rfl⟩

theorem failsOnly_exist (hs : s.Resolves) (d : Disk) (u : UiUnit) :
    Except.FailsOnly Fault.IsTooLong (Artifact.exist d s u) := by
  refine (Except.failsOnly_of_exists (exists_pathsOf hs u)).bind fun paths _ => ?_
  refine (Disk.failsOnly_contains d _).bind fun there _ => ?_
  cases there with
  | true => exact Except.failsOnly_ok true
  | false => exact Disk.failsOnly_contains d _

theorem failsOnly_entryFile? (d : Disk) (unit : Path) :
    Except.FailsOnly Fault.IsTooLong (entryFile? d unit) :=
  Except.failsOnly_findM? fun p _ => Disk.failsOnly_isFile d p

theorem failsOnly_entryFacts (d : Disk) (unit : Path) :
    Except.FailsOnly Fault.IsTooLong (entryFacts d unit) := by
  refine (failsOnly_entryFile? d unit).bind fun path hpath => ?_
  cases path with
  | none => exact Except.failsOnly_ok _
  | some path =>
    obtain ⟨t, ht⟩ := Disk.exists_readText? (Except.of_findM? hpath).2
    refine (Except.failsOnly_of_exists ⟨t, ht⟩).bind fun t _ => ?_
    cases t with
    | none => exact Except.failsOnly_ok _
    | some t => exact Except.failsOnly_ok _

theorem failsOnly_unserved (hs : s.Resolves) (d : Disk) (found : Option UiUnit) :
    Except.FailsOnly Fault.IsTooLong (unserved d s found) := by
  cases found with
  | none => exact Except.failsOnly_ok none
  | some u =>
    refine (failsOnly_exist hs d u).bind fun served _ => ?_
    cases served with
    | true => exact Except.failsOnly_ok _
    | false => exact Except.failsOnly_ok _

theorem failsOnly_new?_widgetSearch (hs : s.Resolves) (d : Disk) (p : Text × Text × Text) :
    Except.FailsOnly Fault.IsTooLong ((widgetSearch d s).new? d s p) := by
  refine Except.FailsOnly.bind ?_ fun found _ => failsOnly_unserved hs d found
  refine (Except.failsOnly_of_exists (hs.exists_inWorkspace _)).bind fun path _ => ?_
  refine (failsOnly_entryFile? d path).bind fun entry _ => ?_
  split
  · exact Except.failsOnly_ok none
  · refine (failsOnly_entryFacts d path).bind fun facts _ => ?_
    refine (Except.failsOnly_of_exists (hs.exists_resolve hs.package)).bind fun root _ => ?_
    exact (Source.failsOnly_ofWidget d path _).bind fun files _ => Except.failsOnly_ok _

theorem failsOnly_new?_pageSearch (hs : s.Resolves) (d : Disk) (p : Text × Text) :
    Except.FailsOnly Fault.IsTooLong ((pageSearch d s).new? d s p) := by
  refine Except.FailsOnly.bind ?_ fun found _ => failsOnly_unserved hs d found
  refine (Except.failsOnly_of_exists (hs.exists_inWorkspace _)).bind fun path _ => ?_
  refine (Disk.failsOnly_isDirectory d path).bind fun isDirectory _ => ?_
  split
  · refine (Source.failsOnly_ofPage d path).bind fun files _ => ?_
    split
    · exact Except.failsOnly_ok none
    · exact Except.failsOnly_ok _
  · exact Except.failsOnly_ok none

/-- A search fails as its steps do. -/
theorem Search.failsOnly_find {π : Type} {σ : Search π} {P : Fault → Prop} {files : List Text}
    (hplace : ∀ file ∈ files, Except.FailsOnly P (σ.place? file))
    (hnew : ∀ p, Except.FailsOnly P (σ.new? d s p)) (seen : List Text) :
    Except.FailsOnly P (σ.find d s seen files) := by
  induction files generalizing seen with
  | nil => exact Except.failsOnly_ok []
  | cons file files ih =>
    have ih := ih fun x hx => hplace x (List.mem_cons_of_mem _ hx)
    refine (hplace file (List.mem_cons_self ..)).bind fun place _ => ?_
    cases place with
    | none => exact ih seen
    | some p =>
      dsimp only
      split
      · exact ih seen
      · exact (hnew p).bind fun here _ => (ih _).bind fun rest _ => Except.failsOnly_ok _

theorem exists_partsBelow {v : Value} (hv : ∃ t, v = .text t) (file : Text) :
    ∃ parts, partsBelow file v = .ok parts := by
  obtain ⟨t, rfl⟩ := hv
  exact ⟨_, partsBelow_eq_ok.2 ⟨_, rfl, rfl⟩⟩

/-- With settings of the right kinds, each file is at a widget or at none. -/
theorem exists_widgetPlace? (hs : s.Fits) (file : Text) :
    ∃ place, widgetPlace? s file = .ok place := by
  obtain ⟨parts, hparts⟩ := exists_partsBelow hs.sections file
  obtain ⟨t, ht⟩ := hs.sections
  rw [widgetPlace?, hparts]
  dsimp only [bind, Except.bind]
  split
  · rename_i entity name more
    obtain ⟨known, hknown⟩ := hs.entities entity
    rw [hknown, ht]
    cases known with
    | false => exact ⟨none, rfl⟩
    | true => exact ⟨_, rfl⟩
  · exact ⟨none, rfl⟩

/-- If the root of pages is a text, each file is at a page or at none. -/
theorem exists_pagePlace? (hpages : ∃ t, s.pagesRoot = .text t) (file : Text) :
    ∃ place, pagePlace? s file = .ok place := by
  obtain ⟨parts, hparts⟩ := exists_partsBelow hpages file
  obtain ⟨t, ht⟩ := hpages
  rw [pagePlace?, hparts, ht]
  dsimp only [bind, Except.bind]
  split
  · exact ⟨_, rfl⟩
  · exact ⟨none, rfl⟩

/-- **Looking for widgets** fails for too long a name only. -/
theorem failsOnly_widgets (hs : s.Fits) (d : Disk) (files : List Text) :
    Except.FailsOnly Fault.IsTooLong (widgetsFrom d s [] files).outcome.2 := by
  rw [widgetsFrom_eq, (Search.ends_run _ d s [] files).outcome]
  exact Search.failsOnly_find
    (fun file _ => Except.failsOnly_of_exists (exists_widgetPlace? hs file))
    (failsOnly_new?_widgetSearch hs.toResolves d) []

/-- **Looking for pages** fails for too long a name only. -/
theorem failsOnly_pages (hs : s.Fits) (d : Disk) (files : List Text) :
    Except.FailsOnly Fault.IsTooLong (pagesFrom d s [] files).outcome.2 := by
  rw [pagesFrom_eq, (Search.ends_run _ d s [] files).outcome]
  exact Search.failsOnly_find
    (fun file _ => Except.failsOnly_of_exists (exists_pagePlace? hs.pages file))
    (failsOnly_new?_pageSearch hs.toResolves d) []

end Detection

end UiHarness
