import UiHarness.Proofs.Path
import UiHarness.Proofs.Steps
import UiHarness.Proofs.Table
import UiHarness.Source.Reader

/-!
# What the sources of a unit are

However a source is found, it is read at the path that is kept with it.  So are the paths made: by
adding names to the directory of the unit or to that of the shared UI package.

* `Source.Sound`: sources with the texts of the files at their paths.
* `Source.sound_ofWidget`, `Source.sound_ofPage`: the sources of a unit are sound.
-/

namespace UiHarness.Source

/-- What is known of a source: its path names a file and has a property, and its text is that of
the file. -/
structure IsRead (d : Disk) (P : Path → Prop) (f : File) : Prop where
  property : P f.path
  namesFile : f.path.NamesFile
  text : d.readText? f.path = .ok (some f.text)

/-- Sources whose texts are those of the files at their paths. -/
def Sound (d : Disk) (P : Path → Prop) (files : Files) : Prop :=
  ∀ key f, files.get? key = some f → IsRead d P f

variable {d : Disk} {P : Path → Prop}

/-! ## 1.  Adding sources -/

theorem sound_empty : Sound d P Table.empty := fun _ _ h => by cases h

theorem Sound.insert {files : Files} {key : Text} {f : File} (h : Sound d P files)
    (hf : IsRead d P f) : Sound d P (files.insert key f) := by
  intro k g hg
  rw [Table.get?_insert] at hg
  by_cases hk : key = k
  · rw [if_pos hk] at hg
    exact Option.some.inj hg ▸ hf
  · rw [if_neg hk] at hg
    exact h k g hg

theorem Sound.insertAll {files : Files} {l : List (Text × File)} (h : Sound d P files)
    (hl : ∀ e ∈ l, IsRead d P e.2) : Sound d P (files.insertAll l) := by
  rw [Table.insertAll]
  induction l generalizing files with
  | nil => exact h
  | cons e l ih =>
    exact ih (h.insert (hl e (List.mem_cons_self ..))) fun x hx => hl x (List.mem_cons_of_mem _ hx)

theorem Sound.of_mem {files : Files} (h : Sound d P files) {e : Text × File}
    (he : e ∈ files.entries) : IsRead d P e.2 :=
  h e.1 e.2 (Table.get?_of_mem he)

theorem Sound.addRead {files files' : Files} {key : Text} {path : Path} (h : Sound d P files)
    (hp : P path ∧ path.NamesFile) (hadd : Source.addRead d files key path = .ok files') :
    Sound d P files' := by
  rw [Source.addRead, Except.bind_eq_ok] at hadd
  obtain ⟨text, htext, hadd⟩ := hadd
  cases text with
  | none => exact Except.ok.inj hadd ▸ h
  | some t => exact Except.ok.inj hadd ▸ h.insert ⟨hp.1, hp.2, htext⟩

/-- The endings of source files do not end in a dot. -/
theorem namesFile_of_mem_extensions (base : Path) (t : Text) {e : Text} (he : e ∈ extensions) :
    (base.child (t ++ e)).NamesFile := by
  have hall : ∀ e ∈ extensions, '/' ∉ e ∧ e ≠ [] ∧ e.getLast? ≠ some '.' := by decide
  obtain ⟨hslash, hne, hdot⟩ := hall e he
  exact Path.namesFile_child base t hslash hne hdot

/-! ## 2.  The parts of a unit -/

variable (hchild : ∀ p t, P p → P (p.child t))

include hchild

theorem sound_main {unit : Path} {files : Files} (hu : P unit) (h : main d unit = .ok files) :
    Sound d P files := by
  refine Except.foldlM_induction (fun name _ b b' hb hstep => ?_) sound_empty h
  rw [Except.bind_eq_ok] at hstep
  obtain ⟨found, hfound, hstep⟩ := hstep
  cases found with
  | none => exact Except.ok.inj hstep ▸ hb
  | some file =>
    obtain ⟨e, hext, he⟩ := Except.of_findSomeM? hfound
    dsimp only at he
    rw [Except.bind_eq_ok] at he
    obtain ⟨isFile, -, he⟩ := he
    cases isFile with
    | false => cases he
    | true =>
      rw [if_pos rfl, Except.bind_eq_ok] at he
      obtain ⟨text, htext, he⟩ := he
      cases text with
      | none => cases he
      | some t =>
        obtain rfl := Option.some.inj (Except.ok.inj he)
        exact Except.ok.inj hstep ▸
          hb.insert ⟨hchild _ _ hu, namesFile_of_mem_extensions _ _ hext, htext⟩

theorem of_resolve? {base path : Path} {specifier : Text} (hb : P base)
    (h : resolve? d base specifier = .ok (some path)) : P path ∧ path.NamesFile := by
  obtain ⟨hm, -⟩ := Except.of_findM? h
  obtain ⟨e, hext, he⟩ := List.mem_flatMap.1 hm
  simp only [List.mem_cons, List.not_mem_nil, or_false] at he
  rcases he with rfl | rfl
  · exact ⟨hchild _ _ hb, namesFile_of_mem_extensions _ _ hext⟩
  · exact ⟨hchild _ _ (hchild _ _ hb), namesFile_of_mem_extensions _ _ hext⟩

theorem Sound.addNearby {unit : Path} {files files' : Files} {specifier : Text} (hu : P unit)
    (h : Sound d P files) (hadd : Source.addNearby d unit files specifier = .ok files') :
    Sound d P files' := by
  rw [Source.addNearby, Except.bind_eq_ok] at hadd
  obtain ⟨path, hpath, hadd⟩ := hadd
  cases path with
  | none => exact Except.ok.inj hadd ▸ h
  | some path =>
    dsimp only at hadd
    split at hadd
    · exact Except.ok.inj hadd ▸ h
    · exact h.addRead (of_resolve? hchild hu hpath) hadd

theorem Sound.addAllNearby {unit : Path} {files files' : Files} (hu : P unit) (h : Sound d P files)
    (hadd : Source.addAllNearby d unit files = .ok files') : Sound d P files' := by
  rw [Source.addAllNearby] at hadd
  split at hadd
  · exact Except.ok.inj hadd ▸ h
  · exact Except.foldlM_induction (fun _ _ b b' hb hstep => hb.addNearby hchild hu hstep) h hadd

theorem of_findComponent? {root path : Path} {name : Text} (hr : P root)
    (h : findComponent? d root name = .ok (some path)) : P path ∧ path.NamesFile := by
  obtain ⟨hm, -⟩ := Except.of_findM? h
  have hfile : ∀ p t e, P p → e ∈ extensions →
      P (p.child (t ++ e)) ∧ (p.child (t ++ e)).NamesFile :=
    fun p t e hp he => ⟨hchild _ _ hp, namesFile_of_mem_extensions _ _ he⟩
  have hts : (".ts".toList : Text) ∈ extensions := by decide
  have htsx : (".tsx".toList : Text) ∈ extensions := by decide
  have haround : ∀ directory : Path, P directory → ∀ path ∈
      [directory.child (name ++ ".tsx"), directory.child (name ++ ".ts"),
        (directory.child name).child "index.tsx", (directory.child name).child (name ++ ".tsx")],
      P path ∧ path.NamesFile := by
    intro directory hd path hpath
    simp only [List.mem_cons, List.not_mem_nil, or_false] at hpath
    rcases hpath with rfl | rfl | rfl | rfl
    · exact hfile _ _ _ hd htsx
    · exact hfile _ _ _ hd hts
    · exact hfile _ "index" _ (hchild _ _ hd) htsx
    · exact hfile _ _ _ (hchild _ _ hd) htsx
  have hc : ∀ t, P (root.child t) := fun t => hchild _ _ hr
  simp only [packagePlaces, List.mem_append] at hm
  rcases hm with ((hm | hm) | hm) | hm
  · exact haround _ (hc _) path hm
  · exact haround _ (hc _) path hm
  · simp only [List.mem_cons, List.not_mem_nil, or_false] at hm
    rcases hm with rfl | rfl
    · exact hfile _ _ _ (hc _) htsx
    · exact hfile _ _ _ (hc _) hts
  · split at hm
    · simp only [List.mem_cons, List.not_mem_nil, or_false] at hm
      rcases hm with rfl | rfl | rfl
      · exact hfile _ _ _ (hchild _ _ (hc _)) htsx
      · exact hfile _ _ _ (hchild _ _ (hc _)) hts
      · exact hfile _ _ _ (hchild _ _ (hc _)) htsx
    · cases hm

theorem sound_packageFiles {root : Path} {files found : Files} (hr : P root)
    (h : packageFiles d root files = .ok found) : Sound d P found := by
  refine Except.foldlM_induction (fun name _ b b' hb hstep => ?_) sound_empty h
  rw [Except.bind_eq_ok] at hstep
  obtain ⟨path, hpath, hstep⟩ := hstep
  cases path with
  | none => exact Except.ok.inj hstep ▸ hb
  | some path => exact hb.addRead (of_findComponent? hchild hr hpath) hstep

theorem Sound.addQueries {directory : Path} {files files' : Files} (hd : P directory)
    (h : Sound d P files) (hadd : Source.addQueries d directory files = .ok files') :
    Sound d P files' := by
  rw [Source.addQueries, Except.bind_eq_ok] at hadd
  obtain ⟨isDirectory, -, hadd⟩ := hadd
  cases isDirectory with
  | false => exact Except.ok.inj hadd ▸ h
  | true =>
    rw [if_pos rfl] at hadd
    refine Except.foldlM_induction (fun name _ b b' hb hstep => ?_) h hadd
    dsimp only at hstep
    split at hstep
    · rename_i hsuffix
      rw [Except.bind_eq_ok] at hstep
      obtain ⟨isFile, -, hstep⟩ := hstep
      cases isFile with
      | false => exact Except.ok.inj hstep ▸ hb
      | true =>
        have hnames := Path.namesFile_of_suffix (by
          rw [hsuffix]
          exact List.cons_ne_nil _ _)
        exact hb.addRead ⟨hchild _ _ hd, hnames⟩ hstep
    · exact Except.ok.inj hstep ▸ hb

/-! ## 3.  Units -/

/-- **The sources of a widget are sound.** -/
theorem sound_ofWidget {unit : Path} {packageRoot : Option Path} {files : Files} (hu : P unit)
    (hr : ∀ root ∈ packageRoot, P root) (h : ofWidget d unit packageRoot = .ok files) :
    Sound d P files := by
  rw [ofWidget, Except.bind_eq_ok] at h
  obtain ⟨first, hfirst, h⟩ := h
  rw [Except.bind_eq_ok] at h
  obtain ⟨own, hown, h⟩ := h
  have hown' := (sound_main hchild hu hfirst).addAllNearby hchild hu hown
  cases packageRoot with
  | none => exact hown'.addQueries hchild hu h
  | some root =>
    dsimp only at h
    rw [Except.bind_eq_ok] at h
    obtain ⟨isDirectory, -, h⟩ := h
    cases isDirectory with
    | false => exact hown'.addQueries hchild hu h
    | true =>
      rw [if_pos rfl, Except.bind_eq_ok] at h
      obtain ⟨shared, hshared, h⟩ := h
      have hshared' := sound_packageFiles hchild (hr root rfl) hshared
      exact (hown'.insertAll fun e he => hshared'.of_mem he).addQueries hchild hu h

/-- **The sources of a page are sound.** -/
theorem sound_ofPage {page : Path} {files : Files} (hp : P page) (h : ofPage d page = .ok files) :
    Sound d P files := by
  rw [ofPage, Except.bind_eq_ok] at h
  obtain ⟨isDirectory, -, h⟩ := h
  cases isDirectory with
  | false => exact Except.ok.inj h ▸ sound_empty
  | true =>
    rw [if_pos rfl, Except.bind_eq_ok] at h
    obtain ⟨own, hown, h⟩ := h
    refine Sound.addQueries hchild hp ?_ h
    refine Except.foldlM_induction (fun name _ b b' hb hstep => ?_) sound_empty hown
    dsimp only at hstep
    split at hstep
    · rename_i hsuffix
      have hall : ∀ e ∈ extensions, e ≠ [] := by decide
      rw [Except.bind_eq_ok] at hstep
      obtain ⟨isFile, -, hstep⟩ := hstep
      split at hstep
      · exact hb.addRead ⟨hchild _ _ hp, Path.namesFile_of_suffix (hall _ hsuffix)⟩ hstep
      · exact Except.ok.inj hstep ▸ hb
    · exact Except.ok.inj hstep ▸ hb

end UiHarness.Source
