import UiHarness.Proofs.Detection.Faults
import UiHarness.Proofs.Source.Page

/-!
# The sources of a widget

The sources of a widget come in four groups, one after the other, and each group has keys of its
own kind: the main files by their names, the components nearby by the last parts of what the body
imports, the components of the shared UI package behind a mark with a slash, and the queries by
their full names.  Only the first two kinds can meet.  A component nearby never takes the place of
a source that is there already, so a main file is safe from the imports of the body, and of several
imports with one last part the first counts that leads to a file that can be read.  A query has an
ending of its own, and no main file does.

All this holds of the sources if they can be read.  What cannot be read is left out, with one
exception: too long a path among those that are asked for makes reading fail, and a single import is
enough for that.

* `Source.GivesFirst`: the first of several things that gives something.
* `Source.Fills`: steps that give free keys something, one after the other.
* `Source.MainFile`, `Source.get?_main`: the main files.
* `Source.LeadsTo`, `Source.get?_addAllNearby`: the components nearby.
* `Source.of_mem_packageFiles`: the components of the shared package have other keys.
* `Source.Asked`: the paths that reading asks for.
* `Source.Consistent`, `Source.consistent_ofWidget`: the sources of a widget.
-/

namespace UiHarness.Source

/-! ## 1.  The first that gives something -/

section First

variable {α β ε : Type} {p : α → β → Prop} {l : List α} {b c : β}

/-- What the first of several things gives that gives anything. -/
inductive GivesFirst (p : α → β → Prop) : List α → β → Prop
  | head {a : α} {l : List α} {b : β} : p a b → GivesFirst p (a :: l) b
  | tail {a : α} {l : List α} {b : β} : (∀ c, ¬ p a c) → GivesFirst p l b → GivesFirst p (a :: l) b

theorem GivesFirst.exists_mem (h : GivesFirst p l b) : ∃ a ∈ l, p a b := by
  induction h with
  | head hp => exact ⟨_, List.mem_cons_self .., hp⟩
  | tail _ _ ih =>
    obtain ⟨a, ha, hp⟩ := ih
    exact ⟨a, List.mem_cons_of_mem _ ha, hp⟩

/-- Looking through a list finds what the first gives that gives anything. -/
theorem findSomeM?_iff {f : α → Except ε (Option β)}
    (hf : ∀ a r, f a = .ok r → ∀ b, r = some b ↔ p a b) {r : Option β}
    (h : l.findSomeM? f = .ok r) : r = some b ↔ GivesFirst p l b := by
  induction l with
  | nil =>
    obtain rfl := Except.ok.inj h
    exact ⟨fun h => (by cases h), fun h => (by cases h)⟩
  | cons a l ih =>
    rw [List.findSomeM?_cons] at h
    obtain ⟨found, hfound, h⟩ := Except.bind_eq_ok.1 h
    cases found with
    | some c =>
      obtain rfl := Except.ok.inj h
      refine ⟨fun heq => .head ((hf a _ hfound b).1 heq), fun hfirst => ?_⟩
      cases hfirst with
      | head hp => exact (hf a _ hfound b).2 hp
      | tail hnone _ => exact absurd ((hf a _ hfound c).1 rfl) (hnone c)
    | none =>
      have hnone : ∀ c, ¬ p a c := fun c hp => (by cases (hf a _ hfound c).2 hp)
      refine ⟨fun heq => .tail hnone ((ih h).1 heq), fun hfirst => ?_⟩
      cases hfirst with
      | head hp => exact absurd hp (hnone b)
      | tail _ hrest => exact (ih h).2 hrest

end First

/-! ## 2.  Keys that are filled -/

section Fills

variable {α : Type} {step : Files → α → Except Fault Files} {p : Text → α → File → Prop}
  {files files' : Files} {key : Text} {f : File} {l : List α}

/-- A step that gives a free key what belongs to it, and leaves what is there as it is. -/
structure Fills (step : Files → α → Except Fault Files) (p : Text → α → File → Prop) : Prop where
  kept : ∀ {a files files' key f}, step files a = .ok files' → files.get? key = some f →
    files'.get? key = some f
  free : ∀ {a files files' key}, step files a = .ok files' → files.get? key = none →
    (∃ f, p key a f ∧ files'.get? key = some f) ∨ (∀ f, ¬ p key a f) ∧ files'.get? key = none
  unique : ∀ {key a f g}, p key a f → p key a g → f = g

/-- What is there stays. -/
theorem Fills.get?_foldlM_of_some (hstep : Fills step p) (h : l.foldlM step files = .ok files')
    (hget : files.get? key = some f) : files'.get? key = some f :=
  Except.foldlM_induction (P := fun b : Files => b.get? key = some f)
    (fun _ _ _ _ hb h => hstep.kept h hb) hget h

/-- A free key is given what the first thing gives that gives anything. -/
theorem Fills.get?_foldlM (hstep : Fills step p) (h : l.foldlM step files = .ok files')
    (hget : files.get? key = none) : files'.get? key = some f ↔ GivesFirst (p key) l f := by
  induction l generalizing files with
  | nil =>
    obtain rfl := Except.ok.inj h
    rw [hget]
    exact ⟨fun h => (by cases h), fun h => (by cases h)⟩
  | cons a l ih =>
    rw [List.foldlM_cons] at h
    obtain ⟨between, ha, h⟩ := Except.bind_eq_ok.1 h
    rcases hstep.free ha hget with ⟨g, hg, hbetween⟩ | ⟨hnone, hbetween⟩
    · rw [hstep.get?_foldlM_of_some h hbetween, Option.some.injEq]
      refine ⟨fun heq => .head (heq ▸ hg), fun hfirst => ?_⟩
      cases hfirst with
      | head hf => exact hstep.unique hg hf
      | tail hno _ => exact absurd hg (hno g)
    · rw [ih h hbetween]
      refine ⟨fun hfirst => .tail hnone hfirst, fun hfirst => ?_⟩
      cases hfirst with
      | head hf => exact absurd hf (hnone f)
      | tail _ hrest => exact hrest

end Fills

variable {d : Disk} {unit root : Path} {files files' found : Files} {key name specifier : Text}
  {f g : File} {l : List Text}

/-! ## 3.  Main files -/

/-- The text of a source is that of the file at its path. -/
def Reads (d : Disk) (f : File) : Prop := d.readText? f.path = .ok (some f.text)

/-- A main file of a widget: the first of its name that can be read, of the endings in turn. -/
structure MainFile (d : Disk) (unit : Path) (name : Text) (f : File) : Prop where
  main : name ∈ mainFiles
  first : GivesFirst (fun e f => f.path = unit.child (name ++ e) ∧ Reads d f) extensions f

theorem isFile_of_reads {path : Path} {t : Text} (h : d.readText? path = .ok (some t)) :
    d.isFile path = .ok true := by
  obtain ⟨l, raw, hl, hat, -⟩ := Disk.of_readText? h
  exact Disk.isFile_eq_true.2 ⟨_, Disk.find_eq_ok.2 ⟨l, hl, hat⟩⟩

theorem withExtension?_iff {r : Option File} (h : withExtension? d unit name = .ok r) :
    r = some f ↔
      GivesFirst (fun e f => f.path = unit.child (name ++ e) ∧ Reads d f) extensions f := by
  refine findSomeM?_iff (fun e r hr f => ?_) h
  dsimp only at hr
  obtain ⟨isFile, hfile, hr⟩ := Except.bind_eq_ok.1 hr
  cases isFile with
  | false =>
    obtain rfl := Except.ok.inj hr
    refine ⟨fun h => (by cases h), ?_⟩
    rintro ⟨hpath, hreads⟩
    rw [Reads, hpath] at hreads
    rw [isFile_of_reads hreads] at hfile
    cases hfile
  | true =>
    rw [if_pos rfl] at hr
    obtain ⟨text, htext, hr⟩ := Except.bind_eq_ok.1 hr
    obtain rfl := Except.ok.inj hr
    constructor
    · intro h
      obtain ⟨t, rfl, rfl⟩ := Option.map_eq_some_iff.1 h
      exact ⟨rfl, htext⟩
    · rintro ⟨hpath, hreads⟩
      rw [Reads, hpath, htext] at hreads
      rw [Except.ok.inj hreads, Option.map_some, ← hpath]

/-- **The main files** are there under their names, and nothing else is. -/
theorem get?_main (h : main d unit = .ok files) :
    files.get? key = some f ↔ MainFile d unit key f := by
  constructor
  · intro hget
    refine Except.foldlM_induction (P := fun b : Files => ∀ key f, b.get? key = some f →
      MainFile d unit key f) (fun name hname b b' hb hstep => ?_) (fun _ _ h => by cases h) h key f
      hget
    obtain ⟨r, hr, hstep⟩ := Except.bind_eq_ok.1 hstep
    cases r with
    | none => exact Except.ok.inj hstep ▸ hb
    | some g =>
      obtain rfl := Except.ok.inj hstep
      intro key f hget
      rw [Table.get?_insert] at hget
      split at hget
      · rename_i hkey
        obtain rfl := hkey
        exact ⟨hname, (withExtension?_iff hr).1 hget⟩
      · exact hb key f hget
  · intro hmain
    refine Except.foldlM_forall (P := fun name (b : Files) => ∀ f, MainFile d unit name f →
      b.get? name = some f) (fun name _ b b' hstep f hf => ?_)
      (fun x name _ b b' hb hstep f hf => ?_) h key hmain.main f hmain
    · obtain ⟨r, hr, hstep⟩ := Except.bind_eq_ok.1 hstep
      obtain rfl := (withExtension?_iff hr).2 hf.first
      obtain rfl := Except.ok.inj hstep
      rw [Table.get?_insert, if_pos rfl]
    · obtain ⟨r, hr, hstep⟩ := Except.bind_eq_ok.1 hstep
      cases r with
      | none => exact Except.ok.inj hstep ▸ hb f hf
      | some g =>
        obtain rfl := Except.ok.inj hstep
        rw [Table.get?_insert]
        split
        · rename_i hname
          obtain rfl := hname
          exact (withExtension?_iff hr).2 hf.first
        · exact hb f hf

/-! ## 4.  Components nearby -/

/-- An import that has a key leads to a file that can be read. -/
structure LeadsTo (d : Disk) (unit : Path) (key specifier : Text) (f : File) : Prop where
  key : (Path.ofText specifier).name = key
  resolved : resolve? d unit specifier = .ok (some f.path)
  reads : Reads d f

theorem LeadsTo.unique (hf : LeadsTo d unit key specifier f) (hg : LeadsTo d unit key specifier g) :
    f = g := by
  obtain ⟨text, path⟩ := f
  obtain ⟨text', path'⟩ := g
  obtain rfl : path = path' := Option.some.inj (Except.ok.inj (hf.resolved.symm.trans hg.resolved))
  obtain rfl : text = text' := Option.some.inj (Except.ok.inj (hf.reads.symm.trans hg.reads))
  rfl

/-- An import fills its key with the file that it leads to. -/
theorem fills_addNearby (d : Disk) (unit : Path) : Fills (addNearby d unit) (LeadsTo d unit) where
  kept {specifier files files' key f} h hget := by
    obtain ⟨path, -, h⟩ := Except.bind_eq_ok.1 h
    cases path with
    | none => exact Except.ok.inj h ▸ hget
    | some path =>
      dsimp only at h
      split at h
      · exact Except.ok.inj h ▸ hget
      · rename_i hfree
        rcases of_addRead h with ⟨rfl, -⟩ | ⟨t, -, rfl⟩
        · exact hget
        · rw [Table.get?_insert, if_neg, hget]
          rintro rfl
          rw [Table.contains, hget] at hfree
          exact hfree rfl
  free {specifier files files' key} h hget := by
    obtain ⟨path, hpath, h⟩ := Except.bind_eq_ok.1 h
    cases path with
    | none =>
      refine .inr ⟨fun f hf => ?_, Except.ok.inj h ▸ hget⟩
      rw [hf.resolved] at hpath
      cases hpath
    | some path =>
      dsimp only at h
      split at h
      · rename_i htaken
        refine .inr ⟨fun f hf => ?_, Except.ok.inj h ▸ hget⟩
        rw [Table.contains, hf.key, hget] at htaken
        cases htaken
      · rcases of_addRead h with ⟨rfl, hnone⟩ | ⟨t, ht, rfl⟩
        · refine .inr ⟨fun f hf => ?_, hget⟩
          have hreads := hf.reads
          obtain rfl := Option.some.inj (Except.ok.inj (hf.resolved.symm.trans hpath))
          rw [Reads, hnone] at hreads
          cases hreads
        · by_cases hkey : (Path.ofText specifier).name = key
          · exact .inl ⟨⟨t, path⟩, ⟨hkey, hpath, ht⟩, by rw [Table.get?_insert, if_pos hkey]⟩
          · exact .inr ⟨fun f hf => hkey hf.key, by rw [Table.get?_insert, if_neg hkey, hget]⟩
  unique := LeadsTo.unique

/-- A component nearby: of the imports of the body that have its key, the first that leads to a
file that can be read leads to it. -/
def NearbyFile (d : Disk) (unit : Path) (key : Text) (f : File) : Prop :=
  ∃ body, MainFile d unit "Body" body ∧ GivesFirst (LeadsTo d unit key) (Scan.nearby body.text) f

/-- **The components nearby** are there under keys that no main file has. -/
theorem get?_addAllNearby (hmain : main d unit = .ok files)
    (h : addAllNearby d unit files = .ok files') : files'.get? key = some f ↔
      MainFile d unit key f ∨ (∀ g, ¬ MainFile d unit key g) ∧ NearbyFile d unit key f := by
  rw [addAllNearby] at h
  cases hget : files.get? key with
  | some g =>
    have hkept : files'.get? key = some g := by
      split at h
      · exact Except.ok.inj h ▸ hget
      · exact (fills_addNearby d unit).get?_foldlM_of_some h hget
    rw [hkept, ← hget, get?_main hmain]
    exact ⟨.inl, fun h => h.resolve_right fun hno => hno.1 g ((get?_main hmain).1 hget)⟩
  | none =>
    have hfree : ∀ g, ¬ MainFile d unit key g := fun g hg => by
      rw [(get?_main hmain).2 hg] at hget
      cases hget
    have hnearby : files'.get? key = some f ↔ NearbyFile d unit key f := by
      split at h
      · rename_i hbody
        obtain rfl := Except.ok.inj h
        rw [hget]
        refine ⟨fun h => (by cases h), ?_⟩
        rintro ⟨body, hmainFile, -⟩
        rw [(get?_main hmain).2 hmainFile] at hbody
        cases hbody
      · rename_i body hbody
        rw [(fills_addNearby d unit).get?_foldlM h hget]
        refine ⟨fun hfirst => ⟨body, (get?_main hmain).1 hbody, hfirst⟩, ?_⟩
        rintro ⟨body', hmainFile, hfirst⟩
        rw [(get?_main hmain).2 hmainFile] at hbody
        exact Option.some.inj hbody ▸ hfirst
    rw [hnearby]
    exact ⟨fun hf => .inr ⟨hfree, hf⟩, fun h => (h.resolve_left (hfree f)).2⟩

/-! ## 5.  The shared package -/

theorem not_mem_name (t : Text) : '/' ∉ (Path.ofText t).name := by
  rw [Path.name, List.getLastD_eq_getLast?]
  cases hlast : (Path.ofText t).parts.getLast? with
  | none => exact List.not_mem_nil
  | some part => exact ((Path.clean_ofText t).parts part (List.mem_of_getLast? hlast)).2

/-- The keys of the main files and of the components nearby are free of slashes. -/
theorem not_mem_of_own (hmain : main d unit = .ok files)
    (h : addAllNearby d unit files = .ok files') (hkey : key ∈ files'.keys) : '/' ∉ key := by
  rw [← Table.contains_iff, Table.contains] at hkey
  obtain ⟨f, hf⟩ := Option.isSome_iff_exists.1 hkey
  rcases (get?_addAllNearby hmain h).1 hf with hf | ⟨-, body, -, hfirst⟩
  · have hall : ∀ name ∈ mainFiles, '/' ∉ name := by decide
    exact hall key hf.main
  · obtain ⟨s, -, hs⟩ := hfirst.exists_mem
    exact hs.key ▸ not_mem_name s

/-- The components of the shared package stand behind its mark, and no plain one is among them. -/
theorem of_mem_packageFiles (h : packageFiles d root files = .ok found) (hkey : key ∈ found.keys) :
    ∃ name, key = packageMark ++ name ∧ name ∉ plainComponents.map String.toList := by
  refine Except.foldlM_induction (P := fun b : Files => ∀ key ∈ b.keys,
    ∃ name, key = packageMark ++ name ∧ name ∉ plainComponents.map String.toList)
    (fun name hname b b' hb hstep => ?_) (fun _ hk => absurd hk List.not_mem_nil) h key hkey
  obtain ⟨path, -, hstep⟩ := Except.bind_eq_ok.1 hstep
  cases path with
  | none => exact Except.ok.inj hstep ▸ hb
  | some path =>
    rcases of_addRead hstep with ⟨rfl, -⟩ | ⟨t, -, rfl⟩
    · exact hb
    · intro key hkey
      rcases Table.mem_keys_insert.1 hkey with rfl | hkey
      · exact ⟨name, rfl, of_decide_eq_true (List.mem_filter.1 hname).2⟩
      · exact hb key hkey

/-! ## 6.  Widgets -/

/-- The parts that the sources of a widget are made of. -/
structure MadeOf (d : Disk) (unit : Path) (files first own : Files)
    (shared : List (Text × File)) : Prop where
  main : main d unit = .ok first
  nearby : addAllNearby d unit first = .ok own
  marked : ∀ e ∈ shared, ∃ name, e.1 = packageMark ++ name ∧
    name ∉ plainComponents.map String.toList
  queries : addQueries d unit (own.insertAll shared) = .ok files

/-- Sources that have been read are made of such parts, without a package of no shared ones. -/
theorem exists_madeOf {packageRoot : Option Path} (h : ofWidget d unit packageRoot = .ok files) :
    ∃ first own shared, MadeOf d unit files first own shared := by
  obtain ⟨first, hfirst, h⟩ := Except.bind_eq_ok.1 h
  obtain ⟨own, hown, h⟩ := Except.bind_eq_ok.1 h
  have hnil : addQueries d unit own = .ok files → MadeOf d unit files first own [] :=
    fun h => ⟨hfirst, hown, fun _ he => absurd he List.not_mem_nil, h⟩
  cases packageRoot with
  | none => exact ⟨first, own, [], hnil h⟩
  | some root =>
    dsimp only at h
    obtain ⟨isDirectory, -, h⟩ := Except.bind_eq_ok.1 h
    cases isDirectory with
    | false => exact ⟨first, own, [], hnil h⟩
    | true =>
      rw [if_pos rfl] at h
      obtain ⟨found, hfound, h⟩ := Except.bind_eq_ok.1 h
      exact ⟨first, own, found.entries, hfirst, hown,
        fun e he => of_mem_packageFiles hfound (List.mem_map_of_mem he), h⟩

namespace MadeOf

variable {first own : Files} {shared : List (Text × File)}

/-- Keys without slashes that are none of queries are those of the widget's own files. -/
theorem get?_eq (h : MadeOf d unit files first own shared) (hslash : '/' ∉ key)
    (hquery : Bucket.isQuery key = false) : files.get? key = own.get? key := by
  have hmark : '/' ∈ packageMark := by decide
  have hnone : shared.reverse.find? (·.1 = key) = none := by
    refine List.find?_eq_none.2 fun e he hkey => hslash ?_
    obtain ⟨name, hname, -⟩ := h.marked e (List.mem_reverse.1 he)
    rw [← of_decide_eq_true hkey, hname]
    exact List.mem_append_left _ hmark
  rw [get?_addQueries h.queries hquery, Table.get?_insertAll, hnone]
  rfl

/-- No plain component is among the sources. -/
theorem get?_plain (h : MadeOf d unit files first own shared) {name : String}
    (hname : name ∈ plainComponents) : files.get? (packageMark ++ name.toList) = none := by
  have hquery : ∀ name ∈ plainComponents,
      Bucket.isQuery (packageMark ++ name.toList) = false := by decide
  have hmark : '/' ∈ packageMark := by decide
  rw [get?_addQueries h.queries (hquery name hname)]
  cases hget : (own.insertAll shared).get? (packageMark ++ name.toList) with
  | none => rfl
  | some f =>
    exfalso
    rcases Table.mem_of_get?_insertAll hget with hmem | hown
    · obtain ⟨other, hother, hplain⟩ := h.marked _ hmem
      exact hplain (List.append_cancel_left hother ▸ List.mem_map_of_mem hname)
    · have hkey : packageMark ++ name.toList ∈ own.keys :=
        List.mem_map_of_mem (Table.get?_eq_some.1 hown)
      exact not_mem_of_own h.main h.nearby hkey (List.mem_append_left _ hmark)

end MadeOf

/-- A source and its path stand under a key. -/
def StandsAt (files : Files) (key : Text) (f : File) : Prop :=
  (texts files).get? key = some f.text ∧ (paths files).get? key = some f.path.text

theorem standsAt_of_get? (h : files.get? key = some f) : StandsAt files key f := by
  rw [StandsAt, texts, paths, Table.get?_map, Table.get?_map, h]
  exact ⟨rfl, rfl⟩

/-- What is known of the sources of a widget: texts and paths have the same keys in the same order,
and each text is that of the file at its path; the main files are there, whatever the body imports;
no plain component is there; and the components nearby are, as far as their keys are none of main
files or of queries. -/
structure Consistent (d : Disk) (unit : Path) (files : Files) : Prop where
  keys : (texts files).keys = (paths files).keys
  reads : ∀ key t, (texts files).get? key = some t → ∃ path,
    (paths files).get? key = some path ∧ d.readText? (.ofText path) = .ok (some t)
  main : ∀ name f, MainFile d unit name f → StandsAt files name f
  plain : ∀ name ∈ plainComponents, packageMark ++ name.toList ∉ (texts files).keys
  nearby : ∀ key f, (∀ g, ¬ MainFile d unit key g) → Bucket.isQuery key = false →
    NearbyFile d unit key f → StandsAt files key f

theorem consistent_of_ok {packageRoot : Option Path} (hu : unit.Clean)
    (hr : ∀ root ∈ packageRoot, root.Clean) (h : ofWidget d unit packageRoot = .ok files) :
    Consistent d unit files := by
  obtain ⟨first, own, shared, hmade⟩ := exists_madeOf h
  have hsound : Sound d Path.Clean files := sound_ofWidget (fun p t hp => hp.child t) hu hr h
  refine ⟨?_, fun key t hget => ?_, fun name f hf => ?_, fun name hname hkey => ?_,
    fun key f hfree hquery hf => ?_⟩
  · rw [texts, paths, Table.keys_map, Table.keys_map]
  · rw [texts, Table.get?_map] at hget
    obtain ⟨f, hf, rfl⟩ := Option.map_eq_some_iff.1 hget
    have hread := hsound key f hf
    refine ⟨f.path.text, (standsAt_of_get? hf).2, ?_⟩
    rw [Path.ofText_text hread.property]
    exact hread.text
  · have hall : ∀ name ∈ mainFiles, '/' ∉ name ∧ Bucket.isQuery name = false := by decide
    obtain ⟨hslash, hquery⟩ := hall name hf.main
    refine standsAt_of_get? ?_
    rw [hmade.get?_eq hslash hquery]
    exact (get?_addAllNearby hmade.main hmade.nearby).2 (.inl hf)
  · rw [← Table.contains_iff, Table.contains, texts, Table.get?_map, hmade.get?_plain hname] at hkey
    cases hkey
  · obtain ⟨body, -, hfirst⟩ := id hf
    obtain ⟨s, -, hs⟩ := hfirst.exists_mem
    refine standsAt_of_get? ?_
    rw [hmade.get?_eq (hs.key ▸ not_mem_name s) hquery]
    exact (get?_addAllNearby hmade.main hmade.nearby).2 (.inr ⟨hfree, hf⟩)

/-- If the sources can be read, all imports of the body can be looked for. -/
theorem exists_resolve?_of_ok {packageRoot : Option Path} {body : File}
    (h : ofWidget d unit packageRoot = .ok files) (hbody : MainFile d unit "Body" body)
    (hs : specifier ∈ Scan.nearby body.text) : ∃ path, resolve? d unit specifier = .ok path := by
  obtain ⟨first, own, shared, hmade⟩ := exists_madeOf h
  have hnearby := hmade.nearby
  rw [addAllNearby, (get?_main hmade.main).2 hbody] at hnearby
  refine Except.foldlM_forall (P := fun s (_ : Files) => ∃ path, resolve? d unit s = .ok path)
    (fun s _ b b' hstep => ?_) (fun _ _ _ _ _ hx _ => hx) hnearby specifier hs
  obtain ⟨path, hpath, -⟩ := Except.bind_eq_ok.1 hstep
  exact ⟨path, hpath⟩

/-- A path that reading the sources of a widget asks for: a place of a main file, of what the body
imports, or of a component of the shared package that a source of the widget imports, one of the two
directories, or what is in that of the widget. -/
inductive Asked (d : Disk) (unit : Path) (packageRoot : Option Path) : Path → Prop
  | main {name e : Text} : name ∈ mainFiles → e ∈ extensions →
    Asked d unit packageRoot (unit.child (name ++ e))
  | nearby {body : File} {s : Text} {p : Path} : MainFile d unit "Body" body →
    s ∈ Scan.nearby body.text → p ∈ nearbyPlaces unit s → Asked d unit packageRoot p
  | root {root : Path} : root ∈ packageRoot → Asked d unit packageRoot root
  | component {root p : Path} {key name : Text} {f : File} : root ∈ packageRoot →
    MainFile d unit key f ∨ NearbyFile d unit key f → name ∈ Scan.packageNames f.text →
      p ∈ packagePlaces root name → Asked d unit packageRoot p
  | directory : Asked d unit packageRoot unit
  | query {name : Text} : name ∈ d.names unit → Asked d unit packageRoot (unit.child name)

theorem asksWithin_asked (d : Disk) (unit : Path) (packageRoot : Option Path) :
    AsksWithin d unit packageRoot (Asked d unit packageRoot) := by
  refine ⟨fun _ hname _ he => .main hname he, fun first hfirst body hbody s hs p hp => ?_,
    fun _ hroot => .root hroot, fun first own hfirst hown root hroot f hf name hname p hp => ?_,
    .directory, fun _ hname => .query hname⟩
  · exact .nearby ((get?_main hfirst).1 hbody) hs hp
  · obtain ⟨e, he, rfl⟩ := List.mem_map.1 hf
    have hfile := (get?_addAllNearby hfirst hown).1 (Table.get?_of_mem he)
    exact .component hroot (hfile.imp_right And.right) hname hp

/-- What reading the sources of a widget comes to: consistent sources, or a fault because a path
that is asked for is too long.  A single import of the body is enough for the fault. -/
structure Outcome (d : Disk) (unit : Path) (packageRoot : Option Path) (r : Except Fault Files) :
    Prop where
  consistent : ∀ files, r = .ok files → Consistent d unit files
  tooLong : ∀ f, r = .error f → d.TooLongAmong (Asked d unit packageRoot) f
  imports : ∀ body, MainFile d unit "Body" body → ∀ s ∈ Scan.nearby body.text,
    (∃ f, resolve? d unit s = .error f) → ∃ f, r = .error f

/-- **The sources of a widget** are consistent, unless a path that is asked for is too long. -/
theorem consistent_ofWidget (d : Disk) (unit : Text) (packageRoot : Option Text) :
    Outcome d (.ofText unit) (packageRoot.map .ofText)
      (ofWidget d (.ofText unit) (packageRoot.map .ofText)) := by
  have hroot : ∀ root ∈ packageRoot.map Path.ofText, root.Clean := by
    intro root hroot
    obtain ⟨t, -, rfl⟩ := Option.map_eq_some_iff.1 hroot
    exact Path.clean_ofText t
  refine ⟨fun files h => consistent_of_ok (Path.clean_ofText unit) hroot h,
    among_ofWidget (asksWithin_asked d _ _), fun body hbody s hs hfault => ?_⟩
  cases hr : ofWidget d (.ofText unit) (packageRoot.map .ofText) with
  | error f => exact ⟨f, rfl⟩
  | ok files =>
    obtain ⟨f, hf⟩ := hfault
    obtain ⟨path, hpath⟩ := exists_resolve?_of_ok hr hbody hs
    rw [hf] at hpath
    cases hpath

end UiHarness.Source
