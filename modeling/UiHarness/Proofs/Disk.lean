import UiHarness.Disk
import UiHarness.Proofs.Path
import UiHarness.Proofs.Steps
import UiHarness.Proofs.Text.LineEnds

/-!
# Where paths lead

A path leads to a location through directories that must exist.  A disk that grows keeps its
directories and files, so every path that could be followed before is followed to the same location
afterwards.

* `Disk.fileAt?`: the bytes of the file at a location.
* `Disk.IsTree`: a disk on which whatever there is, is in a directory.
* `Disk.eq_normalized_of_walk`: where parts lead is what is left of them without pairs of dots.
* `Disk.Grown`: a disk on which directories are still directories, and files still files.
* `Disk.locate_of_grown`: paths lead where they led before.
-/

namespace UiHarness

/-- Locations at which the same thing is: the root is told apart from a name that is empty. -/
def Location.Same (l l' : Location) : Prop := l.key = l'.key ∧ (l = [] ↔ l' = [])

namespace Location

instance (l l' : Location) : Decidable (Same l l') := by unfold Same; infer_instance

theorem Same.refl (l : Location) : Same l l := ⟨rfl, Iff.rfl⟩

theorem Same.symm {l l' : Location} (h : Same l l') : Same l' l := ⟨h.1.symm, h.2.symm⟩

end Location

namespace Disk

/-! ## 1.  Entries and files -/

theorem at?_of_same {d : Disk} {l l' : Location} (h : l.Same l') : d.at? l = d.at? l' := by
  have hempty : l.isEmpty = l'.isEmpty := by
    rw [Bool.eq_iff_iff, List.isEmpty_iff, List.isEmpty_iff, h.2]
  rw [at?, at?, h.1, hempty]

/-- The root is always a directory. -/
@[simp] theorem at?_nil (d : Disk) : d.at? [] = some .directory := rfl

theorem at?_put {d : Disk} {l l' : Location} {e : Entry} (hl : l ≠ []) :
    (d.put l e).at? l' = if l.Same l' then some e else d.at? l' := by
  cases l' with
  | nil => rw [if_neg fun h => hl (h.2.2 rfl), at?_nil, at?_nil]
  | cons name l' =>
    have hsame : l.Same (name :: l') ↔ l.key = Location.key (name :: l') :=
      ⟨fun h => h.1, fun h => ⟨h, fun h => absurd h hl, fun h => absurd h (List.cons_ne_nil _ _)⟩⟩
    rw [at?, at?, List.isEmpty_cons, if_neg Bool.false_ne_true, if_neg Bool.false_ne_true, put,
      Table.get?_insert]
    by_cases hk : l.key = Location.key (name :: l')
    · rw [if_pos hk, if_pos (hsame.2 hk)]
    · rw [if_neg hk, if_neg fun h => hk (hsame.1 h)]

/-- The bytes of the file at a location. -/
def fileAt? (d : Disk) (l : Location) : Option ByteArray :=
  match d.at? l with
  | some (.file bytes) => some bytes
  | _ => none

theorem fileAt?_eq_some {d : Disk} {l : Location} {bytes : ByteArray} :
    d.fileAt? l = some bytes ↔ d.at? l = some (.file bytes) := by
  rw [fileAt?]
  split
  · rename_i b h
    rw [h, Option.some.injEq, Option.some.injEq, Entry.file.injEq]
  · rename_i h
    exact ⟨fun h' => (by cases h'), fun h' => absurd h' (h bytes)⟩

theorem fileAt?_of_at? {d d' : Disk} {l : Location} (h : d.at? l = d'.at? l) :
    d.fileAt? l = d'.fileAt? l := by
  rw [fileAt?, h, fileAt?]

theorem fileAt?_of_same {d : Disk} {l l' : Location} (h : l.Same l') :
    d.fileAt? l = d.fileAt? l' := by
  rw [fileAt?, at?_of_same h, fileAt?]

/-- What is known of a file whose text can be read: where it is, and what it holds. -/
theorem of_readText? {d : Disk} {p : Path} {t : Text} (h : d.readText? p = .ok (some t)) :
    ∃ l raw, d.locate p = .ok l ∧ d.at? l = some (.file (Text.encode raw)) ∧
      Text.unifyLineEnds raw = t := by
  rw [readText?] at h
  split at h
  · rename_i t' ht
    obtain rfl := Option.some.inj (Except.ok.inj h)
    rw [readText, Except.bind_eq_ok] at ht
    obtain ⟨bytes, hbytes, ht⟩ := ht
    split at ht
    · rename_i t'' hfile
      obtain rfl := Except.ok.inj ht
      obtain ⟨raw, rfl, hraw⟩ := Text.of_ofFile hfile
      rw [readBytes] at hbytes
      split at hbytes
      · rename_i b hfind
        obtain rfl := Except.ok.inj hbytes
        rw [find, Except.bind_eq_ok] at hfind
        obtain ⟨l, hl, hfind⟩ := hfind
        split at hfind
        · rename_i e he
          exact ⟨l, raw, hl, Except.ok.inj hfind ▸ he, hraw⟩
        · cases hfind
      · cases hbytes
      · cases hbytes
    · cases ht
  · cases h
  · cases h

/-- Whatever there is, is in a directory. -/
def IsTree (d : Disk) : Prop :=
  ∀ l name, d.at? (l ++ [name]) ≠ none → d.at? l = some .directory

/-- Whatever there is, all directories above it are there. -/
theorem IsTree.directory {d : Disk} (h : d.IsTree) {l names : Location} (hnames : names ≠ [])
    (hat : d.at? (l ++ names) ≠ none) : d.at? l = some .directory := by
  induction names generalizing l with
  | nil => exact absurd rfl hnames
  | cons name names ih =>
    by_cases hrest : names = []
    · exact h l name (hrest ▸ hat)
    · refine h l name ?_
      rw [ih hrest (by rwa [List.append_assoc, List.singleton_append])]
      exact Option.some_ne_none _

/-- Where something is, is told by the keys. -/
theorem at?_ne_none_iff {d : Disk} {l : Location} (hl : l ≠ []) :
    d.at? l ≠ none ↔ l.key ∈ d.entries.keys := by
  have hempty : l.isEmpty = false := by rwa [← Bool.not_eq_true, List.isEmpty_iff]
  rw [← Table.contains_iff, Table.contains, Option.isSome_iff_ne_none, at?, hempty,
    if_neg Bool.false_ne_true]

/-- Whether a directory is at the location of a key. -/
def hasDirectory (d : Disk) (key : Text) : Bool :=
  match d.entries.get? key with
  | some .directory => true
  | _ => false

theorem at?_of_hasDirectory {d : Disk} {l : Location} (hl : l ≠ []) (h : d.hasDirectory l.key = true) :
    d.at? l = some .directory := by
  have hempty : l.isEmpty = false := by rwa [← Bool.not_eq_true, List.isEmpty_iff]
  rw [at?, hempty, if_neg Bool.false_ne_true]
  rw [hasDirectory] at h
  split at h
  · assumption
  · cases h

/-- **Whether whatever there is, is in a directory**, is told by the keys: in front of each slash of a
key, but for the first one, the key of a directory stands. -/
theorem isTree_of_keys {d : Disk} (h : ∀ key ∈ d.entries.keys, ∀ i < key.length,
    0 < i → key[i]? = some '/' → d.hasDirectory (key.take i) = true) : d.IsTree := by
  intro l name hat
  cases l with
  | nil => rfl
  | cons a l =>
    have hkey := (at?_ne_none_iff (List.append_ne_nil_of_right_ne_nil _ (List.cons_ne_nil _ _))).1 hat
    rw [Location.key_concat, List.isEmpty_cons, if_neg Bool.false_ne_true, List.append_assoc,
      List.singleton_append] at hkey
    have hdirectory := h _ hkey (Location.key (a :: l)).length (by simp) (by simp [Location.key])
      (by simp)
    rw [List.take_left] at hdirectory
    exact at?_of_hasDirectory (List.cons_ne_nil _ _) hdirectory

/-! ## 2.  Following paths -/

/-- Names are followed one part after the other. -/
theorem walk_append (d : Disk) (start : Location) (front back : List Text) :
    d.walk start (front ++ back) =
      match d.walk start front with
      | .ok l => d.walk l back
      | .error why => .error why := by
  induction front generalizing start with
  | nil => rfl
  | cons part front ih =>
    rw [List.cons_append, walk, walk]
    cases d.at? start with
    | none => rfl
    | some e =>
      cases e with
      | file bytes => rfl
      | directory =>
        dsimp only
        split
        · exact ih _
        · split
          · rfl
          · exact ih _

/-- Where parts lead is what is left of them without pairs of dots. -/
theorem eq_normalized_of_walk {d : Disk} {start l : Location} {parts : List Text}
    (h : d.walk start parts = .ok l) : l = Path.normalized start parts := by
  induction parts generalizing start with
  | nil => exact (Except.ok.inj h).symm
  | cons part parts ih =>
    rw [walk] at h
    rw [Path.normalized]
    split at h
    · cases h
    · cases h
    · split at h
      · rename_i hdots
        rw [if_pos hdots]
        exact ih h
      · rename_i hdots
        rw [if_neg hdots]
        split at h
        · cases h
        · exact ih h

/-- What parts lead to on another disk, they lead to on one where it is. -/
theorem walk_of_isTree {d d' : Disk} (htree : d.IsTree) {start l : Location} {parts : List Text}
    (hdots : "..".toList ∉ parts) (h : d'.walk start parts = .ok l) (hl : d.at? l ≠ none) :
    d.walk start parts = .ok l := by
  induction parts generalizing start with
  | nil => exact h
  | cons part parts ih =>
    have hat : d.at? (start ++ part :: parts) ≠ none := by
      rwa [eq_normalized_of_walk h, Path.normalized_of_not_mem hdots] at hl
    rw [List.mem_cons, not_or] at hdots
    rw [walk] at h ⊢
    rw [htree.directory (List.cons_ne_nil _ _) hat]
    split at h
    · cases h
    · cases h
    · rw [if_neg fun hp => hdots.1 hp.symm] at h ⊢
      split at h
      · cases h
      · rename_i hlong
        rw [if_neg hlong]
        exact ih hdots.2 h

/-- The location that the parts of a path are followed from. -/
def startOf (d : Disk) (p : Path) : Location := if p.isAbsolute then [] else d.here

/-- What leads to a location is the parts of a path. -/
theorem walk_of_locate {d : Disk} {p : Path} {l : Location} (h : d.locate p = .ok l) :
    d.walk (d.startOf p) p.parts = .ok l := by
  rw [locate] at h
  split at h
  · cases h
  · split at h
    · cases h
    · exact h

/-- Where parts lead, the first ones of them lead. -/
theorem exists_walk_of_append {d : Disk} {start l : Location} {front back : List Text}
    (h : d.walk start (front ++ back) = .ok l) :
    ∃ l', d.walk start front = .ok l' ∧ d.walk l' back = .ok l := by
  rw [walk_append] at h
  split at h
  · exact ⟨_, by assumption, h⟩
  · cases h

/-- What a path is found to lead to. -/
theorem find_eq_ok {d : Disk} {p : Path} {e : Entry} :
    d.find p = .ok e ↔ ∃ l, d.locate p = .ok l ∧ d.at? l = some e := by
  rw [find, Except.bind_eq_ok]
  refine exists_congr fun l => and_congr_right fun _ => ?_
  cases d.at? l with
  | none => exact ⟨fun h => (by cases h), fun h => (by cases h)⟩
  | some e' => exact ⟨fun h => congrArg _ (Except.ok.inj h), fun h => congrArg _ (Option.some.inj h)⟩

theorem find?_eq_some {d : Disk} {p : Path} {e : Entry} : d.find? p = .ok (some e) ↔ d.find p = .ok e := by
  rw [find?]
  split
  · rename_i found hfound
    rw [hfound, Except.ok.injEq, Except.ok.injEq, Option.some.injEq]
  · rename_i herror
    rw [herror]
    exact ⟨fun h => (by cases h), fun h => (by cases h)⟩
  · rename_i herror
    rw [herror]
    exact ⟨fun h => (by cases h), fun h => (by cases h)⟩

/-- A path to a file. -/
theorem isFile_eq_true {d : Disk} {p : Path} :
    d.isFile p = .ok true ↔ ∃ bytes, d.find p = .ok (.file bytes) := by
  rw [isFile, Except.bind_eq_ok]
  constructor
  · rintro ⟨e, he, h⟩
    split at h
    · rename_i bytes
      exact ⟨bytes, find?_eq_some.1 he⟩
    · cases h
  · exact fun ⟨bytes, h⟩ => ⟨_, find?_eq_some.2 h, rfl⟩

/-- A path to a directory. -/
theorem isDirectory_eq_true {d : Disk} {p : Path} :
    d.isDirectory p = .ok true ↔ d.find p = .ok .directory := by
  rw [isDirectory, Except.bind_eq_ok]
  constructor
  · rintro ⟨e, he, h⟩
    split at h
    · exact find?_eq_some.1 he
    · cases h
  · exact fun h => ⟨_, find?_eq_some.2 h, rfl⟩

/-- A path to anything. -/
theorem contains_eq_true {d : Disk} {p : Path} :
    d.contains p = .ok true ↔ ∃ e, d.find p = .ok e := by
  rw [contains, Except.bind_eq_ok]
  constructor
  · rintro ⟨e, he, h⟩
    obtain ⟨e', rfl⟩ := Option.isSome_iff_exists.1 (Except.ok.inj h)
    exact ⟨e', find?_eq_some.1 he⟩
  · exact fun ⟨e, h⟩ => ⟨_, find?_eq_some.2 h, rfl⟩

/-- A path to something leads to it. -/
theorem contains_of_locate {d : Disk} {p : Path} {l : Location} {e : Entry}
    (hl : d.locate p = .ok l) (he : d.at? l = some e) : d.contains p = .ok true :=
  contains_eq_true.2 ⟨e, find_eq_ok.2 ⟨l, hl, he⟩⟩

/-- A file that holds a text can be read, with its line ends unified. -/
theorem readText_of_fileAt? {d : Disk} {p : Path} {l : Location} {raw : Text}
    (hl : d.locate p = .ok l) (h : d.fileAt? l = some (Text.encode raw)) :
    d.readText p = .ok (Text.unifyLineEnds raw) := by
  have hfind : d.find p = .ok (.file (Text.encode raw)) :=
    find_eq_ok.2 ⟨l, hl, fileAt?_eq_some.1 h⟩
  refine Except.bind_eq_ok.2 ⟨Text.encode raw, by rw [readBytes, hfind], ?_⟩
  rw [Text.ofFile, Text.decode_encode]

theorem exists_locate_of_isFile {d : Disk} {p : Path} (h : d.isFile p = .ok true) :
    ∃ l, d.locate p = .ok l := by
  obtain ⟨bytes, hfind⟩ := isFile_eq_true.1 h
  exact (find_eq_ok.1 hfind).imp fun _ hl => hl.1

theorem exists_locate_of_isDirectory {d : Disk} {p : Path} (h : d.isDirectory p = .ok true) :
    ∃ l, d.locate p = .ok l :=
  (find_eq_ok.1 (isDirectory_eq_true.1 h)).imp fun _ hl => hl.1

/-- A path that names a file leads to a location of the same last name. -/
theorem last_of_locate {d : Disk} {p : Path} {front : List Text} {last : Text} {l : Location}
    (hp : p.parts = front ++ [last]) (hdots : last ≠ ['.', '.']) (h : d.locate p = .ok l) :
    ∃ up, l = up ++ [last] := by
  rw [locate] at h
  split at h
  · cases h
  · split at h
    · cases h
    · rw [hp, walk_append] at h
      split at h
      · rename_i up _
        rw [walk] at h
        split at h
        · cases h
        · cases h
        · rw [show "..".toList = ['.', '.'] from rfl, if_neg hdots] at h
          split at h
          · cases h
          · exact ⟨up, (Except.ok.inj h).symm⟩
      · cases h

/-- **Paths that name the same file** have the same last name. -/
theorem last_eq_of_same {d d' : Disk} {p p' : Path} {l l' : Location} {front front' : List Text}
    {last last' : Text} (hp : p.Clean) (hparts : p.parts = front ++ [last])
    (hdots : last ≠ ['.', '.']) (hp' : p'.Clean) (hparts' : p'.parts = front' ++ [last'])
    (hdots' : last' ≠ ['.', '.']) (hl : d.locate p = .ok l) (hl' : d'.locate p' = .ok l')
    (hs : l.Same l') : last = last' := by
  obtain ⟨up, rfl⟩ := last_of_locate hparts hdots hl
  obtain ⟨up', rfl⟩ := last_of_locate hparts' hdots' hl'
  have hlast : '/' ∉ last := (hp.parts last (by rw [hparts]; simp)).2
  have hlast' : '/' ∉ last' := (hp'.parts last' (by rw [hparts']; simp)).2
  have hkey := hs.1
  rw [Location.key_eq_trail (by simp), Location.key_eq_trail (by simp), Location.trail_append,
    Location.trail_append, Location.trail_cons, Location.trail_cons, Location.trail_nil,
    List.append_nil, List.append_nil] at hkey
  exact (Location.eq_of_append_slash hlast hlast' hkey).2

/-- **Paths that name the same file** end in the same way. -/
theorem endsWith_text_of_same {d d' : Disk} {p p' : Path} {l l' : Location} {ending : Text}
    (hp : p.Clean ∧ p.NamesFile) (hp' : p'.Clean ∧ p'.NamesFile) (hl : d.locate p = .ok l)
    (hl' : d'.locate p' = .ok l') (hs : l.Same l') (hslash : '/' ∉ ending) :
    Text.endsWith p.text ending = Text.endsWith p'.text ending := by
  obtain ⟨hclean, front, last, hparts, hdots⟩ := hp
  obtain ⟨hclean', front', last', hparts', hdots'⟩ := hp'
  obtain rfl := last_eq_of_same hclean hparts hdots hclean' hparts' hdots' hl hl' hs
  rw [Path.endsWith_text hclean hparts hslash, Path.endsWith_text hclean' hparts' hslash]

/-- A path that can be followed on another disk leads where its parts lead. -/
theorem locate_of_walk {d d' : Disk} {p : Path} {l l' : Location} (h : d'.locate p = .ok l')
    (hw : d.walk (d.startOf p) p.parts = .ok l) : d.locate p = .ok l := by
  rw [locate] at h ⊢
  split
  · rename_i hz
    rw [if_pos hz] at h
    cases h
  · rename_i hz
    rw [if_neg hz] at h
    split
    · rename_i hlong
      rw [if_pos hlong] at h
      cases h
    · exact hw

/-! ## 3.  Growth -/

/-- A disk that came of another one without taking anything away. -/
structure Grown (d d' : Disk) : Prop where
  here : d'.here = d.here
  directory : ∀ l, d.at? l = some .directory → d'.at? l = some .directory
  file : ∀ l bytes, d.at? l = some (.file bytes) → ∃ bytes', d'.at? l = some (.file bytes')

theorem Grown.refl (d : Disk) : Grown d d := ⟨rfl, fun _ h => h, fun _ bytes h => ⟨bytes, h⟩⟩

theorem Grown.trans {d d' d'' : Disk} (h : Grown d d') (h' : Grown d' d'') : Grown d d'' := by
  refine ⟨h'.here.trans h.here, fun l hl => h'.directory l (h.directory l hl), fun l bytes hl => ?_⟩
  obtain ⟨bytes', hl'⟩ := h.file l bytes hl
  exact h'.file l bytes' hl'

/-- **Names are followed as before.** -/
theorem walk_of_grown {d d' : Disk} (h : Grown d d') {start l : Location} {parts : List Text}
    (hw : d.walk start parts = .ok l) : d'.walk start parts = .ok l := by
  induction parts generalizing start with
  | nil => exact hw
  | cons part parts ih =>
    rw [walk] at hw ⊢
    cases hs : d.at? start with
    | none =>
      rw [hs] at hw
      cases hw
    | some e =>
      cases e with
      | file bytes =>
        rw [hs] at hw
        cases hw
      | directory =>
        rw [hs] at hw
        rw [h.directory start hs]
        dsimp only at hw ⊢
        split
        · rename_i hp
          rw [if_pos hp] at hw
          exact ih hw
        · rename_i hp
          rw [if_neg hp] at hw
          split
          · rename_i hlong
            rw [if_pos hlong] at hw
            cases hw
          · rename_i hlong
            rw [if_neg hlong] at hw
            exact ih hw

/-- **Paths lead where they led before.** -/
theorem locate_of_grown {d d' : Disk} (h : Grown d d') {p : Path} {l : Location}
    (hl : d.locate p = .ok l) : d'.locate p = .ok l := by
  refine locate_of_walk hl ?_
  rw [startOf, h.here]
  exact walk_of_grown h (walk_of_locate hl)

/-- What is there stays there. -/
theorem contains_of_grown {d d' : Disk} (h : Grown d d') {p : Path} (hp : d.contains p = .ok true) :
    d'.contains p = .ok true := by
  obtain ⟨e, he⟩ := contains_eq_true.1 hp
  obtain ⟨l, hl, hat⟩ := find_eq_ok.1 he
  refine contains_eq_true.2 ?_
  cases e with
  | directory => exact ⟨_, find_eq_ok.2 ⟨l, locate_of_grown h hl, h.directory l hat⟩⟩
  | file bytes =>
    obtain ⟨bytes', hat'⟩ := h.file l bytes hat
    exact ⟨_, find_eq_ok.2 ⟨l, locate_of_grown h hl, hat'⟩⟩

/-- Where something was, there was a directory if there is one now. -/
theorem directory_of_grown {d d' : Disk} (h : Grown d d') {l : Location} (hold : d.at? l ≠ none)
    (hat : d'.at? l = some .directory) : d.at? l = some .directory := by
  cases he : d.at? l with
  | none => exact absurd he hold
  | some e =>
    cases e with
    | directory => rfl
    | file bytes =>
      obtain ⟨bytes', hat'⟩ := h.file l bytes he
      rw [hat] at hat'
      cases hat'

/-- Where something was, there was a file if there is one now. -/
theorem file_of_grown {d d' : Disk} (h : Grown d d') {l : Location} (hold : d.at? l ≠ none) {bytes : ByteArray}
    (hat : d'.at? l = some (.file bytes)) : ∃ old, d.at? l = some (.file old) := by
  cases he : d.at? l with
  | none => exact absurd he hold
  | some e =>
    cases e with
    | directory =>
      rw [h.directory l he] at hat
      cases hat
    | file old => exact ⟨old, rfl⟩

/-- A disk that came of another one by making directories. -/
structure Widened (d d' : Disk) : Prop extends Grown d d' where
  files : ∀ l, d'.fileAt? l = d.fileAt? l

theorem Widened.refl (d : Disk) : Widened d d := ⟨Grown.refl d, fun _ => rfl⟩

theorem Widened.trans {d d' d'' : Disk} (h : Widened d d') (h' : Widened d' d'') :
    Widened d d'' :=
  ⟨h.toGrown.trans h'.toGrown, fun l => (h'.files l).trans (h.files l)⟩

/-- Making a directory where nothing is. -/
theorem widened_put {d : Disk} {l : Location} (h : d.at? l = none) :
    Widened d (d.put l .directory) := by
  have hl : l ≠ [] := by
    rintro rfl
    cases h
  have hkept : ∀ l', d.at? l' ≠ none → (d.put l .directory).at? l' = d.at? l' := by
    intro l' hl'
    rw [at?_put hl, if_neg fun hs => hl' (at?_of_same hs ▸ h)]
  refine ⟨⟨rfl, fun l' h' => ?_, fun l' bytes h' => ⟨bytes, ?_⟩⟩, fun l' => ?_⟩
  · rw [hkept l' (by rw [h']; exact Option.some_ne_none _), h']
  · rw [hkept l' (by rw [h']; exact Option.some_ne_none _), h']
  · by_cases hs : l.Same l'
    · rw [fileAt?, fileAt?, at?_put hl, if_pos hs, ← at?_of_same hs, h]
    · exact fileAt?_of_at? (by rw [at?_put hl, if_neg hs])

/-- Making a file where no directory is. -/
theorem grown_put {d : Disk} {l : Location} (h : d.at? l ≠ some .directory) (bytes : ByteArray) :
    Grown d (d.put l (.file bytes)) := by
  have hl : l ≠ [] := by
    rintro rfl
    exact h rfl
  refine ⟨rfl, fun l' h' => ?_, fun l' old h' => ?_⟩
  · have hs : ¬ l.Same l' := fun hs => h ((at?_of_same hs).trans h')
    rw [at?_put hl, if_neg hs, h']
  · rw [at?_put hl]
    split
    · exact ⟨bytes, rfl⟩
    · exact ⟨old, h'⟩

theorem fileAt?_put {d : Disk} {l l' : Location} (hl : l ≠ []) (bytes : ByteArray) :
    (d.put l (.file bytes)).fileAt? l' = if l.Same l' then some bytes else d.fileAt? l' := by
  by_cases hs : l.Same l'
  · rw [if_pos hs, fileAt?_eq_some, at?_put hl, if_pos hs]
  · rw [if_neg hs]
    exact fileAt?_of_at? (by rw [at?_put hl, if_neg hs])

end Disk

end UiHarness
