import Mathlib.Data.Char
import Mathlib.Data.List.Lex
import Mathlib.Data.List.Sort
import UiHarness.Proofs.Detection.Exactness
import UiHarness.Proofs.Source.Widget

/-!
# Which files of a page are kept

The files of a page are looked through twice in the order of their names: first for sources, which
are kept under their stems, the first of each stem, and then for queries, which are kept under their
full names.  A stem may have dots in it, and so be the full name of a query.  The second pass does
not ask whether a key is taken.  Hence not every file is kept that is the first of its stem: the
source is lost if there is a query of that name, and only then.

For the same reason not every page with a source is found.  Keys that end as queries do are taken
for queries, so a page counts only if it has a source whose stem has another end.

* `Disk.pairwise_names`: the names in a directory are in order.
* `Source.FirstOfStem`, `Source.QueryFile`: the files that the two passes take.
* `Source.get?_ofPage`: what is kept under a key.
* `Source.PageOutcome`: what reading the sources of a page comes to.
* `Detection.page_kept`: which files of a page are kept, and which pages are found.
-/

namespace UiHarness

/-! ## 1.  Names in order -/

namespace Disk

theorem comesBefore_iff {s t : Text} : comesBefore s t = true ↔ s ≤ t := by
  rw [← not_lt]
  induction s generalizing t with
  | nil => exact ⟨fun _ => List.not_lt_nil t, fun _ => rfl⟩
  | cons a s ih =>
    cases t with
    | nil =>
      constructor
      · intro h
        cases h
      · exact fun h => absurd (List.nil_lt_cons a s) h
    | cons b t =>
      rw [comesBefore, List.cons_lt_cons_iff, Bool.or_eq_true, Bool.and_eq_true, decide_eq_true_eq,
        decide_eq_true_eq, ih, not_or, not_and]
      constructor
      · rintro (h | ⟨rfl, h⟩)
        · exact ⟨h.not_gt, fun heq => absurd heq h.ne'⟩
        · exact ⟨lt_irrefl a, fun _ => h⟩
      · rintro ⟨h, hrest⟩
        rcases lt_or_eq_of_le (not_lt.1 h) with h | rfl
        · exact .inl h
        · exact .inr ⟨rfl, hrest rfl⟩

theorem putInOrder_eq (name : Text) (ns : List Text) :
    putInOrder name ns = ns.orderedInsert (· ≤ ·) name := by
  induction ns with
  | nil => rfl
  | cons n ns ih => simp only [putInOrder, List.orderedInsert_cons, comesBefore_iff, ih]

/-- **The names in a directory** are in the order of their characters. -/
theorem pairwise_names (d : Disk) (p : Path) : (d.names p).Pairwise (· ≤ ·) := by
  rw [names]
  split
  · exact List.Pairwise.nil
  · rw [funext fun name => funext (putInOrder_eq name)]
    exact List.pairwise_insertionSort (· ≤ ·) _

end Disk

namespace Source

/-- In an ordered list, what is first is what has nothing before it. -/
theorem givesFirst_iff {α β : Type} [LinearOrder α] {p : α → β → Prop} {l : List α} {b : β}
    (hl : l.Pairwise (· ≤ ·)) :
    GivesFirst p l b ↔ ∃ a ∈ l, p a b ∧ ∀ a' ∈ l, a' < a → ∀ c, ¬ p a' c := by
  induction l with
  | nil =>
    constructor
    · intro h
      cases h
    · rintro ⟨a, ha, -⟩
      cases ha
  | cons x l ih =>
    obtain ⟨hx, hl⟩ := List.pairwise_cons.1 hl
    constructor
    · intro h
      cases h with
      | head hb =>
        refine ⟨x, List.mem_cons_self .., hb, fun a' ha' hlt => absurd hlt (not_lt.2 ?_)⟩
        rcases List.mem_cons.1 ha' with rfl | ha'
        · exact le_rfl
        · exact hx a' ha'
      | tail hnone hrest =>
        obtain ⟨a, ha, hb, hbefore⟩ := (ih hl).1 hrest
        refine ⟨a, List.mem_cons_of_mem _ ha, hb, fun a' ha' hlt => ?_⟩
        rcases List.mem_cons.1 ha' with rfl | ha'
        · exact hnone
        · exact hbefore a' ha' hlt
    · rintro ⟨a, ha, hb, hbefore⟩
      by_cases hgives : ∃ c, p x c
      · obtain ⟨c, hc⟩ := hgives
        have hle : a ≤ x := not_lt.1 fun hlt => hbefore x (List.mem_cons_self ..) hlt c hc
        have hge : x ≤ a := by
          rcases List.mem_cons.1 ha with rfl | ha
          · exact le_rfl
          · exact hx a ha
        obtain rfl := le_antisymm hle hge
        exact .head hb
      · have hnone := not_exists.1 hgives
        refine .tail hnone ((ih hl).2 ?_)
        rcases List.mem_cons.1 ha with rfl | ha
        · exact absurd hb (hnone b)
        · exact ⟨a, ha, hb, fun a' ha' => hbefore a' (List.mem_cons_of_mem _ ha')⟩

variable {d : Disk} {page : Path} {files files' : Files} {key name : Text} {f g : File}
  {l : List Text}

/-! ## 2.  The two passes -/

/-- A file that can be read is where a name in a directory leads, and its name has some end. -/
structure Named (d : Disk) (page : Path) (name : Text) (ends : List Text) (f : File) : Prop where
  suffix : (page.child name).suffix ∈ ends
  path : f.path = page.child name
  reads : Reads d f

theorem Named.unique {ends ends' : List Text} (hf : Named d page name ends f)
    (hg : Named d page name ends' g) : f = g := by
  obtain ⟨text, path⟩ := f
  obtain ⟨text', path'⟩ := g
  obtain rfl : path = path' := hf.path.trans hg.path.symm
  obtain rfl : text = text' := Option.some.inj (Except.ok.inj (hf.reads.symm.trans hg.reads))
  rfl

/-- A name that leads to a source of some stem. -/
def OfStem (d : Disk) (page : Path) (stem name : Text) (f : File) : Prop :=
  (page.child name).stem = stem ∧ Named d page name extensions f

/-- The source of a stem that no other one of that stem stands before, in the order of the names. -/
def FirstOfStem (d : Disk) (page : Path) (stem : Text) (f : File) : Prop :=
  ∃ name ∈ d.names page, OfStem d page stem name f ∧
    ∀ name' ∈ d.names page, name' < name → ∀ g, ¬ OfStem d page stem name' g

/-- A query. -/
def QueryFile (d : Disk) (page : Path) (name : Text) (f : File) : Prop :=
  name ∈ d.names page ∧ Named d page name [".gql"] f

theorem firstOfStem_iff : FirstOfStem d page key f ↔
    GivesFirst (OfStem d page key) (d.names page) f :=
  (givesFirst_iff (α := Text) (d.pairwise_names page)).symm

/-- A source in turn: it is added under its stem, unless that is taken. -/
def addSource (d : Disk) (page : Path) (files : Files) (name : Text) : Except Fault Files := do
  let path := page.child name
  if path.suffix ∈ extensions then
    if (← d.isFile path) && !files.contains path.stem then addRead d files path.stem path
    else return files
  else return files

/-- A query in turn: it is added under its name. -/
def addQuery (d : Disk) (page : Path) (files : Files) (name : Text) : Except Fault Files := do
  let path := page.child name
  if path.suffix = (".gql" : Text) then
    if ← d.isFile path then addRead d files name path else return files
  else return files

/-- The sources of a page are those of the two passes. -/
theorem of_ofPage (hdirectory : d.isDirectory page = .ok true) (h : ofPage d page = .ok files) :
    ∃ own, (d.names page).foldlM (addSource d page) Table.empty = .ok own ∧
      (d.names page).foldlM (addQuery d page) own = .ok files := by
  obtain ⟨isDirectory, hd, h⟩ := Except.bind_eq_ok.1 h
  obtain rfl := Except.ok.inj (hdirectory.symm.trans hd)
  rw [if_pos rfl] at h
  obtain ⟨own, hown, h⟩ := Except.bind_eq_ok.1 h
  obtain ⟨isDirectory, hd, h⟩ := Except.bind_eq_ok.1 h
  obtain rfl := Except.ok.inj (hdirectory.symm.trans hd)
  exact ⟨own, hown, h⟩

/-- A file is added under a key, or nothing is changed because there is none to be read. -/
theorem get?_of_addRead {path : Path} {k : Text} (h : addRead d files k path = .ok files') :
    (∃ f, f.path = path ∧ Reads d f ∧ files' = files.insert k f) ∨
      (∀ f, f.path = path → ¬ Reads d f) ∧ files' = files := by
  rcases of_addRead h with ⟨rfl, hnone⟩ | ⟨t, ht, rfl⟩
  · refine .inr ⟨fun f hpath hreads => ?_, rfl⟩
    rw [Reads, hpath, hnone] at hreads
    cases hreads
  · exact .inl ⟨⟨t, path⟩, rfl, ht, rfl⟩

theorem fills_addSource (d : Disk) (page : Path) :
    Fills (addSource d page) (OfStem d page) where
  kept {name files files' key f} h hget := by
    rw [addSource] at h
    split at h
    · obtain ⟨isFile, -, h⟩ := Except.bind_eq_ok.1 h
      split at h
      · rename_i hboth
        rcases get?_of_addRead h with ⟨g, -, -, rfl⟩ | ⟨-, rfl⟩
        · rw [Table.get?_insert, if_neg, hget]
          rintro rfl
          rw [Table.contains, hget, Option.isSome_some, Bool.not_true, Bool.and_false] at hboth
          cases hboth
        · exact hget
      · exact Except.ok.inj h ▸ hget
    · exact Except.ok.inj h ▸ hget
  free {name files files' key} h hget := by
    rw [addSource] at h
    split at h
    · rename_i hsuffix
      obtain ⟨isFile, hfile, h⟩ := Except.bind_eq_ok.1 h
      split at h
      · rcases get?_of_addRead h with ⟨g, hpath, hreads, rfl⟩ | ⟨hnone, rfl⟩
        · by_cases hkey : (page.child name).stem = key
          · exact .inl ⟨g, ⟨hkey, hsuffix, hpath, hreads⟩, by rw [Table.get?_insert, if_pos hkey]⟩
          · exact .inr ⟨fun f hf => hkey hf.1, by rw [Table.get?_insert, if_neg hkey, hget]⟩
        · exact .inr ⟨fun f hf => hnone f hf.2.path hf.2.reads, hget⟩
      · -- a file that is not added is none, or its stem is another key, which is taken
        rename_i hboth
        refine .inr ⟨fun f hf => hboth ?_, Except.ok.inj h ▸ hget⟩
        have hisFile := isFile_of_reads hf.2.reads
        rw [hf.2.path, hfile] at hisFile
        rw [Except.ok.inj hisFile, hf.1, Table.contains, hget]
        rfl
    · rename_i hsuffix
      exact .inr ⟨fun f hf => hsuffix hf.2.suffix, Except.ok.inj h ▸ hget⟩
  unique hf hg := hf.2.unique hg.2

/-- A query takes its name, whatever is there; other keys stay as they are. -/
theorem addQuery_cases (h : addQuery d page files name = .ok files') :
    (∃ f, Named d page name [".gql"] f ∧ files' = files.insert name f) ∨
      (∀ f, ¬ Named d page name [".gql"] f) ∧ files' = files := by
  rw [addQuery] at h
  split at h
  · rename_i hsuffix
    obtain ⟨isFile, hfile, h⟩ := Except.bind_eq_ok.1 h
    split at h
    · rcases get?_of_addRead h with ⟨f, hpath, hreads, rfl⟩ | ⟨hnone, rfl⟩
      · exact .inl ⟨f, ⟨List.mem_singleton.2 hsuffix, hpath, hreads⟩, rfl⟩
      · exact .inr ⟨fun f hf => hnone f hf.path hf.reads, rfl⟩
    · rename_i hno
      refine .inr ⟨fun f hf => hno ?_, (Except.ok.inj h).symm⟩
      have hisFile := isFile_of_reads hf.reads
      rw [hf.path, hfile] at hisFile
      exact Except.ok.inj hisFile
  · rename_i hsuffix
    exact .inr ⟨fun f hf => hsuffix (List.mem_singleton.1 hf.suffix), (Except.ok.inj h).symm⟩

/-- After the queries have been added, each has its name, and other keys are as before. -/
theorem get?_foldlM_addQuery (h : l.foldlM (addQuery d page) files = .ok files') :
    files'.get? key = some f ↔ (key ∈ l ∧ Named d page key [".gql"] f) ∨
      (∀ g, ¬ (key ∈ l ∧ Named d page key [".gql"] g)) ∧ files.get? key = some f := by
  induction l generalizing files with
  | nil =>
    obtain rfl := Except.ok.inj h
    simp
  | cons name l ih =>
    rw [List.foldlM_cons] at h
    obtain ⟨between, hname, h⟩ := Except.bind_eq_ok.1 h
    rw [ih h]
    rcases addQuery_cases hname with ⟨g, hg, rfl⟩ | ⟨hnone, rfl⟩
    · rw [Table.get?_insert]
      by_cases hkey : name = key
      · obtain rfl := hkey
        rw [if_pos rfl, Option.some.injEq]
        constructor
        · rintro (⟨-, hf⟩ | ⟨-, rfl⟩)
          · exact .inl ⟨List.mem_cons_self .., hf⟩
          · exact .inl ⟨List.mem_cons_self .., hg⟩
        · rintro (⟨-, hf⟩ | ⟨hno, -⟩)
          · obtain rfl := hf.unique hg
            by_cases hmem : name ∈ l
            · exact .inl ⟨hmem, hf⟩
            · exact .inr ⟨fun _ h => hmem h.1, rfl⟩
          · exact absurd ⟨List.mem_cons_self .., hg⟩ (hno g)
      · rw [if_neg hkey, List.mem_cons, or_iff_right (Ne.symm hkey)]
    · have hsame : ∀ g, (key ∈ name :: l ∧ Named d page key [".gql"] g) ↔
          key ∈ l ∧ Named d page key [".gql"] g := fun g => by
        rw [List.mem_cons]
        refine and_congr_left fun hg => or_iff_right ?_
        rintro rfl
        exact hnone g hg
      simp only [hsame]

/-- **What is kept under a key**: the query of that name, and if there is none, the first source of
that stem. -/
theorem get?_ofPage (hdirectory : d.isDirectory page = .ok true) (h : ofPage d page = .ok files) :
    files.get? key = some f ↔ QueryFile d page key f ∨
      (∀ g, ¬ QueryFile d page key g) ∧ FirstOfStem d page key f := by
  obtain ⟨own, hown, hfiles⟩ := of_ofPage hdirectory h
  rw [get?_foldlM_addQuery hfiles, (fills_addSource d page).get?_foldlM hown rfl, firstOfStem_iff]
  rfl

/-! ## 3.  What reading comes to -/

/-- A path that reading the sources of a page asks for: its directory, or what is in it. -/
inductive InPage (d : Disk) (page : Path) : Path → Prop
  | directory : InPage d page page
  | file {name : Text} : name ∈ d.names page → InPage d page (page.child name)

/-- A source and a query are different files. -/
theorem FirstOfStem.ne_query (hf : FirstOfStem d page key f) (hg : QueryFile d page key g) :
    f ≠ g := by
  rintro rfl
  obtain ⟨name, -, ⟨-, hname⟩, -⟩ := hf
  have hsuffix := hname.suffix
  rw [← hname.path, hg.2.path, List.mem_singleton.1 hg.2.suffix] at hsuffix
  exact absurd hsuffix (by decide)

/-- What reading the sources of a page comes to: the queries and the sources that they do not push
out, or a fault because a path is too long. -/
structure PageOutcome (d : Disk) (page : Path) (r : Except Fault Files) : Prop where
  tooLong : ∀ f, r = .error f → d.TooLongAmong (InPage d page) f
  kept : d.isDirectory page = .ok true → ∀ files, r = .ok files → ∀ key f,
    files.get? key = some f ↔ QueryFile d page key f ∨
      (∀ g, ¬ QueryFile d page key g) ∧ FirstOfStem d page key f
  /-- The first source of a stem is kept exactly if no query has that name. -/
  lost : d.isDirectory page = .ok true → ∀ files, r = .ok files → ∀ key f,
    FirstOfStem d page key f → (files.get? key = some f ↔ ∀ g, ¬ QueryFile d page key g)
  /-- Texts and paths are those of the files. -/
  stands : ∀ files, r = .ok files → ∀ key f, files.get? key = some f → StandsAt files key f
  nothing : d.isDirectory page = .ok false → r = .ok Table.empty

/-- **What reading the sources of a page comes to.** -/
theorem pageOutcome (d : Disk) (page : Path) : PageOutcome d page (ofPage d page) where
  tooLong := among_ofPage .directory fun _ => .file
  kept hdirectory files h key f := get?_ofPage hdirectory h
  lost hdirectory files h key f hf := by
    rw [get?_ofPage hdirectory h]
    constructor
    · rintro (hquery | ⟨hno, -⟩)
      · exact absurd rfl (hf.ne_query hquery)
      · exact hno
    · exact fun hno => .inr ⟨hno, hf⟩
  stands files _ key f := standsAt_of_get?
  nothing hdirectory := by
    rw [ofPage, hdirectory]
    rfl

/-- A page with a query and a source of that stem. -/
def rowsDirectory : Disk :=
  { entries := Table.ofList [("/P", .directory), ("/P/Rows.gql", .file (Text.encode "query Rows")),
      ("/P/Rows.gql.ts", .file (Text.encode "export {}"))] }

/-- The source is lost. -/
example : ((ofPage rowsDirectory (.ofText "/P")).toOption.map fun files =>
    files.entries.map fun e => (e.1, e.2.text)) =
      some [("Rows.gql".toList, "query Rows".toList)] := by decide +kernel

end Source

/-! ## 4.  Which pages are found -/

namespace Detection

variable {d : Disk} {s : Settings} {name root : Text} {path : Path}

/-- **Where there is a new page**: in a directory with a source whose stem does not end as a query,
if neither generated file exists. -/
theorem isNewPage_eq_true_iff (hpath : s.inWorkspace (.ofText root) = .ok path) {new : Bool}
    (h : isNewPage d s (name, root) = .ok new) : new = true ↔
      d.isDirectory path = .ok true ∧
      (∃ n, Source.IsCode d path n ∧ Bucket.isQuery (path.child n).stem = false) ∧
      Artifact.exist d s (bareUnit .page name (UnitName.entityType name)) = .ok false := by
  obtain ⟨path', hpath', h⟩ := Except.bind_eq_ok.1 h
  obtain rfl := Except.ok.inj (hpath.symm.trans hpath')
  obtain ⟨isDirectory, hdirectory, h⟩ := Except.bind_eq_ok.1 h
  rw [hdirectory]
  cases isDirectory with
  | false =>
    obtain rfl := Except.ok.inj h
    simp
  | true =>
    obtain ⟨files, hfiles, h⟩ := Except.bind_eq_ok.1 h
    have hsource : files.keys.all Bucket.isQuery = false ↔
        ∃ n, Source.IsCode d path n ∧ Bucket.isQuery (path.child n).stem = false := by
      rw [List.all_eq_false]
      constructor
      · rintro ⟨key, hkey, hquery⟩
        have hquery := Bool.eq_false_iff.2 hquery
        obtain ⟨n, hn, rfl⟩ := (Source.exists_key_iff hdirectory hfiles hquery).1 hkey
        exact ⟨n, hn, hquery⟩
      · rintro ⟨n, hn, hquery⟩
        exact ⟨_, (Source.exists_key_iff hdirectory hfiles hquery).2 ⟨n, hn, rfl⟩,
          Bool.eq_false_iff.1 hquery⟩
    rw [← hsource, and_iff_right rfl]
    split at h
    · rename_i hall
      obtain rfl := Except.ok.inj h
      simp [hall]
    · rename_i hall
      obtain ⟨served, hserved, h⟩ := Except.bind_eq_ok.1 h
      obtain rfl := Except.ok.inj h
      rw [hserved, and_iff_right (Bool.eq_false_iff.2 hall), Bool.not_eq_true', Except.ok.injEq]

/-- A new page has the sources that were read. -/
theorem sources_of_new? {u : UiUnit} (hpath : s.inWorkspace (.ofText root) = .ok path)
    (h : (pageSearch d s).new? d s (name, root) = .ok (some u)) :
    ∃ files, Source.ofPage d path = .ok files ∧ u.sources = Source.texts files ∧
      u.paths = Source.paths files := by
  obtain ⟨found, hfound, h⟩ := Except.bind_eq_ok.1 h
  obtain rfl := (unserved_eq_ok h).1 u rfl
  obtain ⟨path', hpath', hfound⟩ := Except.bind_eq_ok.1 hfound
  obtain rfl := Except.ok.inj (hpath.symm.trans hpath')
  obtain ⟨isDirectory, -, hfound⟩ := Except.bind_eq_ok.1 hfound
  cases isDirectory with
  | false => cases hfound
  | true =>
    obtain ⟨files, hfiles, hfound⟩ := Except.bind_eq_ok.1 hfound
    refine ⟨files, hfiles, ?_⟩
    split at hfound
    · cases hfound
    · obtain rfl := Option.some.inj (Except.ok.inj hfound)
      exact ⟨rfl, rfl⟩

/-- What is found of the page in a directory: a unit of the sources that were read, if one of the
sources has a stem that does not end as a query, and neither generated file exists. -/
structure PageFound (d : Disk) (s : Settings) (us : List UiUnit) (name : Text) (path : Path) :
    Prop where
  iff : (∃ u ∈ us, u.root = path.text) ↔ d.isDirectory path = .ok true ∧
    (∃ n, Source.IsCode d path n ∧ Bucket.isQuery (path.child n).stem = false) ∧
    Artifact.exist d s (bareUnit .page name (UnitName.entityType name)) = .ok false
  sources : ∀ u ∈ us, u.root = path.text → ∃ files, Source.ofPage d path = .ok files ∧
    u.sources = Source.texts files ∧ u.paths = Source.paths files

theorem pageFound {added : List Text} {us : List UiUnit} {file : Text}
    (h : (pagesFrom d s [] added).outcome.2 = .ok us) (hfile : file ∈ added)
    (hplace : pagePlace? s file = .ok (some (name, root)))
    (hpath : s.inWorkspace (.ofText root) = .ok path) : PageFound d s us name path := by
  rw [pagesFrom_eq, (Search.ends_run _ d s [] added).outcome] at h
  have hfound := fun u => Search.mem_iff (u := u) (faithful_pageSearch d s) h
  have hmem : (name, root) ∈ (pageSearch d s).places added :=
    (Search.mem_places _).2 ⟨file, hfile, hplace⟩
  -- a unit in the directory is the one at the place of the file
  have hunit : ∀ u ∈ us, u.root = path.text →
      (pageSearch d s).new? d s (name, root) = .ok (some u) := by
    intro u hu hroot
    obtain ⟨⟨name', root'⟩, hq, hu⟩ := (hfound u).1 hu
    obtain ⟨file', -, hplace'⟩ := (Search.mem_places _).1 hq
    have hdirectory : directory s root = .ok u.root := by
      rw [directory, hpath, hroot]
      rfl
    obtain ⟨_, hp⟩ := isRoot_of_pagePlace? hplace
    obtain ⟨_, hp'⟩ := isRoot_of_pagePlace? hplace'
    obtain ⟨hnames, rfl⟩ := eq_of_directory_eq hp hp' hdirectory ((of_new?_pageSearch hu).2 u rfl)
    cases hnames
    exact hu
  obtain ⟨new, hat⟩ := ((Search.find_eq_ok (faithful_pageSearch d s)).1 h).2.1 _ hmem
  obtain ⟨his, hroots⟩ := of_new?_pageSearch hat
  refine ⟨?_, fun u hu hroot => sources_of_new? hpath (hunit u hu hroot)⟩
  rw [← isNewPage_eq_true_iff hpath his, Option.isSome_iff_exists]
  constructor
  · rintro ⟨u, hu, hroot⟩
    exact ⟨u, Except.ok.inj (hat.symm.trans (hunit u hu hroot))⟩
  · rintro ⟨u, rfl⟩
    refine ⟨u, (hfound u).2 ⟨_, hmem, hat⟩, ?_⟩
    have hroot := hroots u rfl
    rw [directory, hpath] at hroot
    exact (Except.ok.inj hroot).symm

/-- Which files of pages are kept, and which pages are found. -/
structure PagesKept (d : Disk) (s : Settings) : Prop where
  read : ∀ page, Source.PageOutcome d page (Source.ofPage d page)
  found : ∀ added us, (pagesFrom d s [] added).outcome.2 = .ok us → ∀ file ∈ added,
    ∀ name root path, pagePlace? s file = .ok (some (name, root)) →
      s.inWorkspace (.ofText root) = .ok path → PageFound d s us name path
  tooLong : s.Fits → ∀ added f, (pagesFrom d s [] added).outcome.2 = .error f → f.IsTooLong

/-- **Which files of a page are kept, and which pages are found.** -/
theorem page_kept (d : Disk) (s : Settings) : PagesKept d s where
  read := Source.pageOutcome d
  found _ _ h _ hfile _ _ _ hplace hpath := pageFound h hfile hplace hpath
  tooLong hs added := failsOnly_pages hs d added

end Detection

end UiHarness
