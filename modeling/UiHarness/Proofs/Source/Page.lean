import UiHarness.Proofs.Disk
import UiHarness.Proofs.Source

/-!
# The sources of a page

The sources of a page that are not queries are those files in its directory that have the ending of
a source and can be read.  Of several files of one stem only one is taken, but the keys tell the
stems of all.

* `Disk.mem_names`: the names in a directory.
* `Source.IsCode`: a file in the directory of a page that can be one of its sources.
* `Source.get?_addQueries`: queries do not take the place of other sources.
* `Source.exists_key_iff`: the keys of the sources that are not queries are the stems of those
  files.
-/

namespace UiHarness

namespace Disk

variable {d : Disk} {p : Path} {name : Text}

/-! ## 1.  Names in a directory -/

theorem mem_putInOrder {x : Text} {ns : List Text} :
    x ∈ putInOrder name ns ↔ x = name ∨ x ∈ ns := by
  induction ns with
  | nil => exact List.mem_cons
  | cons n ns ih =>
    rw [putInOrder]
    split
    · exact List.mem_cons
    · rw [List.mem_cons, ih, List.mem_cons, or_left_comm]

theorem mem_foldr_putInOrder {x : Text} {ns : List Text} :
    x ∈ ns.foldr putInOrder [] ↔ x ∈ ns := by
  induction ns with
  | nil => exact Iff.rfl
  | cons n ns ih => rw [List.foldr_cons, mem_putInOrder, ih, List.mem_cons]

/-- **The names in a directory** are those of the locations right below it. -/
theorem mem_names {l : Location} (hl : d.locate p = .ok l) :
    name ∈ d.names p ↔ name ≠ [] ∧ '/' ∉ name ∧ d.at? (l ++ [name]) ≠ none := by
  have hat := at?_ne_none_iff (d := d) (l := l ++ [name])
    (List.append_ne_nil_of_right_ne_nil _ (List.cons_ne_nil _ _))
  rw [names, hl]
  dsimp only
  rw [mem_foldr_putInOrder, List.mem_filterMap, hat, Location.key_concat]
  constructor
  · rintro ⟨key, hkey, h⟩
    split at h
    · rename_i rest hrest
      split at h
      · cases h
      · rename_i hname
        obtain rfl := Option.some.inj h
        rw [Bool.or_eq_true, not_or, List.isEmpty_iff, decide_eq_true_eq] at hname
        exact ⟨hname.1, hname.2, Text.append_of_after? hrest ▸ hkey⟩
    · cases h
  · rintro ⟨hne, hslash, hkey⟩
    refine ⟨_, hkey, ?_⟩
    rw [Text.after?_append]
    dsimp only
    rw [if_neg]
    rw [Bool.or_eq_true, not_or, List.isEmpty_iff, decide_eq_true_eq]
    exact ⟨hne, hslash⟩

theorem of_mem_names (h : name ∈ d.names p) : name ≠ [] ∧ '/' ∉ name := by
  cases hl : d.locate p with
  | error why =>
    rw [names, hl] at h
    cases h
  | ok l =>
    obtain ⟨hne, hslash, -⟩ := (mem_names hl).1 h
    exact ⟨hne, hslash⟩

/-- A file in a directory has a name. -/
theorem isPart_of_isFile_child (hdirectory : d.isDirectory p = .ok true) (hslash : '/' ∉ name)
    (h : d.isFile (p.child name) = .ok true) : Path.IsPart name := by
  refine ⟨Classical.byContradiction fun hname => ?_, hslash⟩
  have hchild : p.child name = p := by
    rw [Path.child, Path.ofText_of_not_mem hslash, List.filter_cons_of_neg hname, List.filter_nil,
      Path.join, Path.isAbsolute, List.isEmpty_nil, Bool.not_true, if_neg Bool.false_ne_true,
      List.append_nil]
  obtain ⟨bytes, hfile⟩ := isFile_eq_true.1 h
  rw [hchild, isDirectory_eq_true.1 hdirectory] at hfile
  cases hfile

theorem readText?_of_fileAt? {l : Location} {raw : Text} (hl : d.locate p = .ok l)
    (h : d.fileAt? l = some (Text.encode raw)) :
    d.readText? p = .ok (some (Text.unifyLineEnds raw)) := by
  rw [readText?, readText_of_fileAt? hl h]

end Disk

namespace Source

variable {d : Disk} {page : Path} {files files' : Files} {key name : Text}

/-! ## 2.  Keys -/

/-- A file in the directory of a page that can be one of its sources. -/
structure IsCode (d : Disk) (page : Path) (name : Text) : Prop where
  listed : name ∈ d.names page
  suffix : (page.child name).suffix ∈ extensions
  isFile : d.isFile (page.child name) = .ok true
  read : ∃ t, d.readText? (page.child name) = .ok (some t)

/-- Adding a file adds its key, if it can be read. -/
theorem of_addRead {path : Path} (h : addRead d files key path = .ok files') :
    (files' = files ∧ d.readText? path = .ok none) ∨
      ∃ t, d.readText? path = .ok (some t) ∧ files' = files.insert key ⟨t, path⟩ := by
  obtain ⟨text, htext, h⟩ := Except.bind_eq_ok.1 h
  cases text with
  | none => exact .inl ⟨(Except.ok.inj h).symm, htext⟩
  | some t => exact .inr ⟨t, htext, (Except.ok.inj h).symm⟩

theorem subset_keys_addRead {path : Path} (h : addRead d files key path = .ok files') {k : Text}
    (hk : k ∈ files.keys) : k ∈ files'.keys := by
  rcases of_addRead h with ⟨rfl, -⟩ | ⟨t, -, rfl⟩
  · exact hk
  · exact Table.mem_keys_insert.2 (.inr hk)

/-- A query does not take the place of what is none. -/
theorem get?_addQueries (h : addQueries d page files = .ok files')
    (hquery : Bucket.isQuery key = false) : files'.get? key = files.get? key := by
  obtain ⟨isDirectory, hdirectory, h⟩ := Except.bind_eq_ok.1 h
  cases isDirectory with
  | false => rw [← Except.ok.inj h]
  | true =>
    rw [if_pos rfl] at h
    refine Except.foldlM_induction (P := fun b : Files => b.get? key = files.get? key)
      (fun name hname b b' hb hstep => ?_) rfl h
    dsimp only at hstep
    split at hstep
    · rename_i hsuffix
      obtain ⟨isFile, hfile, hstep⟩ := Except.bind_eq_ok.1 hstep
      cases isFile with
      | false => exact Except.ok.inj hstep ▸ hb
      | true =>
        rcases of_addRead hstep with ⟨rfl, -⟩ | ⟨t, -, rfl⟩
        · exact hb
        · have hpart := Disk.isPart_of_isFile_child hdirectory (Disk.of_mem_names hname).2 hfile
          have hend := (page.child name).suffix_isSuffix
          rw [hsuffix, Path.name_child hpart] at hend
          rw [Table.get?_insert, if_neg, hb]
          rintro rfl
          rw [Bucket.isQuery, Text.endsWith, List.isSuffixOf_iff_suffix.2 hend] at hquery
          cases hquery
    · exact Except.ok.inj hstep ▸ hb

theorem mem_keys_addQueries_iff (h : addQueries d page files = .ok files')
    (hquery : Bucket.isQuery key = false) : key ∈ files'.keys ↔ key ∈ files.keys := by
  rw [← Table.contains_iff, ← Table.contains_iff, Table.contains, Table.contains,
    get?_addQueries h hquery]

/-- **The keys of the sources of a page** that are not queries are the stems of the files in its
directory that can be sources. -/
theorem exists_key_iff (hdirectory : d.isDirectory page = .ok true)
    (h : ofPage d page = .ok files) (hquery : Bucket.isQuery key = false) :
    key ∈ files.keys ↔ ∃ name, IsCode d page name ∧ (page.child name).stem = key := by
  obtain ⟨isDirectory, hd, h⟩ := Except.bind_eq_ok.1 h
  obtain rfl := Except.ok.inj (hdirectory.symm.trans hd)
  rw [if_pos rfl] at h
  obtain ⟨own, hown, h⟩ := Except.bind_eq_ok.1 h
  constructor
  · intro hk
    have hmem : key ∈ own.keys := (mem_keys_addQueries_iff h hquery).1 hk
    refine Except.foldlM_induction (P := fun b : Files => ∀ key ∈ b.keys,
      ∃ name, IsCode d page name ∧ (page.child name).stem = key)
      (fun name hname b b' hb hstep => ?_) (fun _ hk => absurd hk List.not_mem_nil) hown key hmem
    dsimp only at hstep
    split at hstep
    · rename_i hsuffix
      obtain ⟨isFile, hfile, hstep⟩ := Except.bind_eq_ok.1 hstep
      split at hstep
      · rename_i hboth
        rw [Bool.and_eq_true] at hboth
        rcases of_addRead hstep with ⟨rfl, -⟩ | ⟨t, ht, rfl⟩
        · exact hb
        · intro k hk
          rcases Table.mem_keys_insert.1 hk with rfl | hk
          · exact ⟨name, ⟨hname, hsuffix, hboth.1 ▸ hfile, t, ht⟩, rfl⟩
          · exact hb k hk
      · exact Except.ok.inj hstep ▸ hb
    · exact Except.ok.inj hstep ▸ hb
  · rintro ⟨name, hcode, rfl⟩
    refine (mem_keys_addQueries_iff h hquery).2 ?_
    refine Except.foldlM_forall (P := fun name (b : Files) => IsCode d page name →
      (page.child name).stem ∈ b.keys) (fun name _ b b' hstep hcode => ?_)
      (fun x name _ b b' hb hstep hcode => ?_) hown name hcode.listed hcode
    · -- a file that can be a source is added, unless its key is taken
      dsimp only at hstep
      rw [if_pos hcode.suffix, hcode.isFile] at hstep
      change (if (true && !b.contains (page.child name).stem) = true then _ else _) = _ at hstep
      split at hstep
      · obtain ⟨t, ht⟩ := hcode.read
        rcases of_addRead hstep with ⟨-, hnone⟩ | ⟨t', -, rfl⟩
        · rw [ht] at hnone
          cases hnone
        · exact Table.mem_keys_insert.2 (.inl rfl)
      · rename_i htaken
        rw [Bool.true_and, Bool.not_eq_true', Bool.not_eq_false, Table.contains_iff] at htaken
        exact Except.ok.inj hstep ▸ htaken
    · have hkeep := hb hcode
      dsimp only at hstep
      split at hstep
      · obtain ⟨isFile, -, hstep⟩ := Except.bind_eq_ok.1 hstep
        split at hstep
        · exact subset_keys_addRead hstep hkeep
        · exact Except.ok.inj hstep ▸ hkeep
      · exact Except.ok.inj hstep ▸ hkeep

end Source

end UiHarness
