import UiHarness.Proofs.Fence.Json
import UiHarness.Proofs.Imports.Occurrences
import UiHarness.Proofs.Path
import UiHarness.Session
import UiHarness.Text.Word

/-!
# Listings of changed files

The repository lists changed files one in a line.  What it prints is stripped as a whole, cut into
lines at every line end, and each line is cut at its first tab and then at all others.  None of
these cuts needs to respect a path: a path with a tab, with a line end or with blanks at its ends is
cut as well.  Paths without these are read back as they were printed.

* `Git.Listed`: such a path.
* `Git.Entry`: what stands in a line, with `Git.Entry.line` as it is printed.
* `Git.isOther_of_isWord`: any letters and digits may mark what happened to a file.
* `Git.parse_listing`: reading inverts printing.
* `Git.changes_of_listing`: the changed files in a repository that prints a listing.
-/

namespace UiHarness

namespace Text

/-! ## 1.  Blanks and lines -/

/-- A number in some ranges is in one of them. -/
theorem exists_of_inRanges {n : Nat} {rs : List (Nat × Nat)} (h : inRanges n rs = true) :
    ∃ r ∈ rs, r.1 ≤ n ∧ n ≤ r.2 := by
  induction rs with
  | nil => cases h
  | cons r rs ih =>
    rw [inRanges] at h
    split at h
    · cases h
    · rename_i hlow
      rw [Bool.or_eq_true, decide_eq_true_eq] at h
      rcases h with hhigh | h
      · exact ⟨r, List.mem_cons_self .., Nat.not_lt.1 hlow, hhigh⟩
      · obtain ⟨r', hr', hn⟩ := ih h
        exact ⟨r', List.mem_cons_of_mem _ hr', hn⟩

/-- Letters and digits are no blanks. -/
theorem isBlank_of_isWord {c : Char} (h : isWord c = true) : isBlank c = false := by
  have hall : ∀ r ∈ blankRanges, ∀ n ∈ List.range' r.1 (r.2 + 1 - r.1),
      inRanges n wordRanges = false := by decide +kernel
  refine Bool.eq_false_iff.2 fun hblank => ?_
  obtain ⟨r, hr, hlow, hhigh⟩ := exists_of_inRanges hblank
  have hnot := hall r hr c.toNat (List.mem_range'_1.2 ⟨hlow, by omega⟩)
  rw [isWord, hnot] at h
  cases h

/-- Where a line ends, there is a blank. -/
theorem isBlank_of_isLineEnd {c : Char} (h : isLineEnd c = true) : isBlank c = true := by
  have hall : (['\n', '\r', '\x0b', '\x0c', '\x1c', '\x1d', '\x1e', '\u0085', '\u2028',
      '\u2029'].all isBlank) = true := by decide
  exact List.all_eq_true.1 hall c (of_decide_eq_true h)

/-- A character that ends no line belongs to the line of what stands behind it. -/
theorem lines_cons {c : Char} (h : isLineEnd c = false) (t : Text) :
    lines (c :: t) = (c :: (lines t).headD []) :: (lines t).tail := by
  rw [lines]
  · rw [h, if_neg Bool.false_ne_true]
    cases lines t with
    | nil => rfl
    | cons line rest => rfl
  · rintro t' rfl
    exact absurd h (by decide)

/-- A text without line ends is one line, unless it is empty. -/
theorem lines_eq_singleton {t : Text} (hne : t ≠ []) (h : ∀ c ∈ t, isLineEnd c = false) :
    lines t = [t] := by
  induction t with
  | nil => exact absurd rfl hne
  | cons c t ih =>
    rw [lines_cons (h c (List.mem_cons_self ..))]
    cases t with
    | nil => rfl
    | cons d t =>
      rw [ih (List.cons_ne_nil _ _) fun c hc => h c (List.mem_cons_of_mem _ hc)]
      rfl

/-- A line feed ends the line in front of it. -/
theorem lines_append_newline {l : Text} (h : ∀ c ∈ l, isLineEnd c = false) (t : Text) :
    lines (l ++ '\n' :: t) = l :: lines t := by
  induction l with
  | nil => rfl
  | cons c l ih =>
    rw [List.cons_append, lines_cons (h c (List.mem_cons_self ..)),
      ih fun c hc => h c (List.mem_cons_of_mem _ hc)]
    rfl

/-- A text is cut at the first of some characters. -/
theorem cut?_singleton {c : Char} {a : Text} (h : c ∉ a) (b : Text) :
    cut? [c] (a ++ c :: b) = some (a, b) := by
  refine (cut?_eq_some_iff (List.cons_ne_nil _ _)).2 ⟨rfl, fun x y hxy => ?_⟩
  refine Nat.not_lt.1 fun hlt => h ?_
  have hget : (a ++ c :: b)[x.length]? = (x ++ c :: y)[x.length]? :=
    congrArg (fun l => l[x.length]?) hxy
  rw [List.getElem?_append_left hlt, List.getElem?_append_right (Nat.le_refl _),
    Nat.sub_self] at hget
  exact List.mem_of_getElem? hget

end Text

namespace Git

open Text

/-! ## 2.  What stands in a listing -/

/-- A text that is not cut inside a line. -/
def IsField (t : Text) : Prop := ∀ c ∈ t, c ≠ '\t' ∧ isLineEnd c = false

/-- The characters of the text are looked at, and no others. -/
instance (t : Text) : Decidable (IsField t) := List.decidableBAll _ t

/-- A path that is not empty, has no tab and no line end in it, and no blank at its ends. -/
structure Listed where
  text : Text
  field : IsField text
  ne_nil : text ≠ []
  front : ∀ c ∈ text.head?, isBlank c = false
  back : ∀ c ∈ text.getLast?, isBlank c = false

/-- Paths with a tab between them. -/
def joined (ps : List Listed) : Text := join ['\t'] (ps.map Listed.text)

/-- A mark that says none of the four things that are told apart. -/
structure IsOther (mark : Text) : Prop where
  field : IsField mark
  ne_nil : mark ≠ []
  front : ∀ c ∈ mark.head?, isBlank c = false
  unknown : mark ≠ ['A'] ∧ mark ≠ ['M'] ∧ mark ≠ ['D'] ∧ mark.head? ≠ some 'R'

/-- What stands in a line of a listing. -/
inductive Entry
  | added (path : Listed)
  | modified (path : Listed)
  | deleted (path : Listed)
  /-- A rename.  Behind its letter the mark says how much of the file has stayed the same. -/
  | renamed (score : Text) (field : IsField score) (old new : Listed)
  /-- Anything else that happened to a file, or to two of them. -/
  | other (mark : Text) (isOther : IsOther mark) (path : Listed) (second : Option Listed)

namespace Entry

/-- The mark of an entry. -/
def mark : Entry → Text
  | added _ => ['A']
  | modified _ => ['M']
  | deleted _ => ['D']
  | renamed score _ _ _ => 'R' :: score
  | other mark _ _ _ => mark

/-- The paths in an entry. -/
def paths : Entry → List Listed
  | added path | modified path | deleted path => [path]
  | renamed _ _ old new => [old, new]
  | other _ _ path second => path :: second.toList

/-- An entry as it is printed: the mark, a tab, and the paths with a tab between them. -/
def line (e : Entry) : Text := e.mark ++ '\t' :: joined e.paths

/-- The path that an entry adds to the files of a status: for a rename the new one. -/
def path? : Status → Entry → Option Text
  | .added, added path => some path.text
  | .modified, modified path => some path.text
  | .deleted, deleted path => some path.text
  | .renamed, renamed _ _ _ new => some new.text
  | _, _ => none

end Entry

/-- Entries as they are printed, one in a line. -/
def listing (entries : List Entry) : Text := entries.flatMap fun e => e.line ++ ['\n']

/-- Letters and digits that are no known mark are another one. -/
theorem isOther_of_isWord {mark : Text} (hne : mark ≠ []) (h : ∀ c ∈ mark, isWord c = true)
    (hunknown : mark ≠ ['A'] ∧ mark ≠ ['M'] ∧ mark ≠ ['D'] ∧ mark.head? ≠ some 'R') :
    IsOther mark where
  field c hc := by
    have hblank := isBlank_of_isWord (h c hc)
    refine ⟨fun htab => ?_, Bool.eq_false_iff.2 fun hend => ?_⟩
    · rw [htab] at hblank
      exact absurd hblank (by decide)
    · rw [isBlank_of_isLineEnd hend] at hblank
      cases hblank
  ne_nil := hne
  front c hc := isBlank_of_isWord (h c (List.mem_of_mem_head? hc))
  unknown := hunknown

/-! ## 3.  Printed entries -/

theorem joined_singleton (path : Listed) : joined [path] = path.text := join_singleton _ _

theorem joined_cons (path : Listed) {ps : List Listed} (h : ps ≠ []) :
    joined (path :: ps) = path.text ++ '\t' :: joined ps := by
  rw [joined, List.map_cons, join_cons _ _ fun hnil => h (List.map_eq_nil_iff.1 hnil),
    List.singleton_append, joined]

/-- Paths can be read off. -/
theorem splitAt_joined {ps : List Listed} (h : ps ≠ []) :
    splitAt '\t' (joined ps) = ps.map Listed.text := by
  refine splitAt_join (fun hnil => h (List.map_eq_nil_iff.1 hnil)) fun piece hpiece => ?_
  obtain ⟨path, -, rfl⟩ := List.mem_map.1 hpiece
  exact fun htab => (path.field _ htab).1 rfl

/-- Paths end with the last one, which does not end with a blank. -/
theorem exists_joined_eq_concat {ps : List Listed} (h : ps ≠ []) :
    ∃ w c, joined ps = w ++ [c] ∧ isBlank c = false := by
  induction ps with
  | nil => exact absurd rfl h
  | cons path ps ih =>
    by_cases hp : ps = []
    · rw [hp, joined_singleton]
      exact ⟨_, _, (List.dropLast_append_getLast path.ne_nil).symm,
        path.back _ (List.getLast?_eq_some_getLast path.ne_nil)⟩
    · obtain ⟨w, c, hw, hc⟩ := ih hp
      exact ⟨path.text ++ '\t' :: w, c, by rw [joined_cons path hp, hw]; simp, hc⟩

/-- Paths stand in one line. -/
theorem isLineEnd_of_mem_joined {ps : List Listed} {c : Char} (h : c ∈ joined ps) :
    isLineEnd c = false := by
  induction ps with
  | nil => exact absurd h List.not_mem_nil
  | cons path ps ih =>
    by_cases hp : ps = []
    · rw [hp, joined_singleton] at h
      exact (path.field c h).2
    · rw [joined_cons path hp, List.mem_append, List.mem_cons] at h
      rcases h with h | rfl | h
      · exact (path.field c h).2
      · decide
      · exact ih h

namespace Entry

variable (e : Entry)

theorem isField_mark : IsField e.mark := by
  cases e with
  | added | modified | deleted =>
    rw [mark]
    decide
  | renamed score field old new => exact List.forall_mem_cons.2 ⟨by decide, field⟩
  | other mark isOther path second => exact isOther.field

/-- A mark does not begin with a blank. -/
theorem exists_mark_eq_cons : ∃ c w, e.mark = c :: w ∧ isBlank c = false := by
  cases e with
  | added | modified | deleted => exact ⟨_, [], rfl, by decide⟩
  | renamed score field old new => exact ⟨'R', score, rfl, by decide⟩
  | other mark isOther path second =>
    obtain ⟨c, w, rfl⟩ := List.exists_cons_of_ne_nil isOther.ne_nil
    exact ⟨c, w, rfl, isOther.front c rfl⟩

theorem paths_ne_nil : e.paths ≠ [] := by
  cases e with
  | added | modified | deleted | renamed | other => exact List.cons_ne_nil _ _

/-- A printed entry begins with its mark. -/
theorem exists_line_eq_cons : ∃ c w, e.line = c :: w ∧ isBlank c = false := by
  obtain ⟨c, w, hw, hc⟩ := e.exists_mark_eq_cons
  exact ⟨c, w ++ '\t' :: joined e.paths, by rw [line, hw, List.cons_append], hc⟩

/-- A printed entry stands in one line. -/
theorem isLineEnd_of_mem_line : ∀ c ∈ e.line, isLineEnd c = false := by
  intro c hc
  rw [line, List.mem_append, List.mem_cons] at hc
  rcases hc with hc | rfl | hc
  · exact (e.isField_mark c hc).2
  · decide
  · exact isLineEnd_of_mem_joined hc

/-- **What is read in a printed entry.** -/
theorem change?_line (status : Status) (t : Text) :
    change? e.line = some (status, t) ↔ e.path? status = some t := by
  obtain ⟨c, w, hw, hc⟩ := e.exists_line_eq_cons
  have hblank : isAllBlank e.line = false := by
    rw [hw, isAllBlank, List.all_cons, hc, Bool.false_and]
  have hcut : cut? ['\t'] e.line = some (e.mark, joined e.paths) :=
    cut?_singleton (fun htab => (e.isField_mark _ htab).1 rfl) _
  have hrest : (joined e.paths).isEmpty = false := by
    obtain ⟨w, c, hw, -⟩ := exists_joined_eq_concat e.paths_ne_nil
    rw [hw]
    exact List.isEmpty_eq_false_iff.2 (List.append_ne_nil_of_right_ne_nil w (List.cons_ne_nil c []))
  rw [change?, hblank, hcut]
  simp only [Bool.false_eq_true, if_false, hrest, splitAt_joined e.paths_ne_nil]
  cases e with
  | added path => cases status <;> simp [mark, Status.of?, paths, path?]
  | modified path => cases status <;> simp [mark, Status.of?, paths, path?]
  | deleted path => cases status <;> simp [mark, Status.of?, paths, path?]
  | renamed score field old new =>
    cases status <;> simp [mark, Status.of?, paths, path?, startsWith]
  | other mark isOther path second =>
    have hnone : Status.of? mark = none := by
      obtain ⟨hadded, hmodified, hdeleted, hrenamed⟩ := isOther.unknown
      obtain ⟨c, w, rfl⟩ := List.exists_cons_of_ne_nil isOther.ne_nil
      have hr : startsWith (c :: w) ['R'] = false := by
        rw [startsWith, List.isPrefixOf_cons_cons, List.isPrefixOf_nil_left, Bool.and_true]
        exact beq_eq_false_iff_ne.2 fun h => hrenamed (congrArg some h.symm)
      rw [Status.of?, if_neg hadded, if_neg hmodified, if_neg hdeleted, hr,
        if_neg Bool.false_ne_true]
    rw [Entry.mark, hnone]
    cases status <;> simp [path?]

end Entry

/-! ## 4.  Listings -/

@[simp] theorem listing_nil : listing [] = [] := rfl

theorem listing_cons (e : Entry) (entries : List Entry) :
    listing (e :: entries) = e.line ++ '\n' :: listing entries := by
  rw [listing, List.flatMap_cons, List.append_assoc, List.singleton_append, listing]

/-- The output of a command that prints a listing, without the line end of its last line. -/
theorem answer_listing (front : List Entry) (e : Entry) :
    answer (some (0, listing (front ++ [e]))) = listing front ++ e.line := by
  have hconcat : listing (front ++ [e]) = listing front ++ e.line ++ ['\n'] := by
    rw [listing, List.flatMap_append, List.flatMap_singleton, List.append_assoc, listing]
  have hfront : ∃ c w, listing front ++ e.line = c :: w ∧ isBlank c = false := by
    cases front with
    | nil => exact e.exists_line_eq_cons
    | cons f front =>
      obtain ⟨c, w, hw, hc⟩ := f.exists_line_eq_cons
      exact ⟨c, _, by rw [listing_cons, hw, List.cons_append, List.cons_append], hc⟩
  have hback : ∃ w c, listing front ++ e.line = w ++ [c] ∧ isBlank c = false := by
    obtain ⟨w, c, hw, hc⟩ := exists_joined_eq_concat e.paths_ne_nil
    exact ⟨listing front ++ e.mark ++ '\t' :: w, c, by rw [Entry.line, hw]; simp, hc⟩
  obtain ⟨c, w, hw, hc⟩ := hfront
  obtain ⟨w', c', hw', hc'⟩ := hback
  rw [hconcat, answer, strip_concat (by decide), strip_eq_self hc hc' hw hw']

/-- The lines of an answer are the entries. -/
theorem lines_answer_listing (entries : List Entry) :
    lines (answer (some (0, listing entries))) = entries.map Entry.line := by
  have hlines : ∀ (front : List Entry) (e : Entry),
      lines (listing front ++ e.line) = (front ++ [e]).map Entry.line := by
    intro front e
    induction front with
    | nil =>
      refine lines_eq_singleton (fun h => ?_) e.isLineEnd_of_mem_line
      obtain ⟨c, w, hw, -⟩ := e.exists_line_eq_cons
      rw [listing_nil, List.nil_append, hw] at h
      cases h
    | cons f front ih =>
      rw [listing_cons, List.append_assoc, List.cons_append,
        lines_append_newline f.isLineEnd_of_mem_line, ih, List.cons_append, List.map_cons]
  rcases List.eq_nil_or_concat entries with rfl | ⟨front, e, rfl⟩
  · rfl
  · rw [List.concat_eq_append, answer_listing, hlines]

/-- The paths of a status among printed entries. -/
theorem pathsOf_lines (status : Status) (entries : List Entry) :
    pathsOf status ((entries.map Entry.line).filterMap change?) =
      entries.filterMap (Entry.path? status) := by
  induction entries with
  | nil => rfl
  | cons e entries ih =>
    rw [pathsOf] at ih
    rw [List.map_cons, pathsOf, List.filterMap_cons, List.filterMap_cons, ← ih]
    cases hchange : change? e.line with
    | none =>
      cases hpath : e.path? status with
      | none => rfl
      | some t =>
        rw [(e.change?_line status t).2 hpath] at hchange
        cases hchange
    | some change =>
      obtain ⟨status', t⟩ := change
      by_cases hs : status' = status
      · rw [(e.change?_line status t).1 (hs ▸ hchange)]
        simp [hs]
      · cases hpath : e.path? status with
        | none => simp [hs]
        | some t' =>
          rw [(e.change?_line status t').2 hpath, Option.some.injEq, Prod.mk.injEq] at hchange
          exact absurd hchange.1.symm hs

/-- **Reading inverts printing**: each entry that is told apart is in its place in the files of its
status, and nothing else is there. -/
theorem parse_listing (entries : List Entry) :
    Changes.parse (answer (some (0, listing entries))) = {
      added := entries.filterMap (Entry.path? .added)
      modified := entries.filterMap (Entry.path? .modified)
      deleted := entries.filterMap (Entry.path? .deleted)
      renamed := entries.filterMap (Entry.path? .renamed) } := by
  rw [Changes.parse, lines_answer_listing]
  simp only [pathsOf_lines]

/-- **The changed files in a repository** whose command succeeds and prints a listing.  Nothing but
the question is kept of asking. -/
theorem changes_of_listing {s : Session} {base : Text} {entries : List Entry}
    (h : s.repository (changesArguments base) = some (0, listing entries))
    (directory : Option Path) :
    (Job.changes base directory).outcome s =
      (.ok {
        added := entries.filterMap (Entry.path? .added)
        modified := entries.filterMap (Entry.path? .modified)
        deleted := entries.filterMap (Entry.path? .deleted)
        renamed := entries.filterMap (Entry.path? .renamed) },
      { s with
        questions := s.questions ++ [(changesArguments base, directory.map Path.text)] }) := by
  rw [← parse_listing, ← h]
  rfl

/-- The paths of the case that follows. -/
def rowsPath : Listed where
  text := "a/Rows.tsx"
  field := by decide
  ne_nil := by decide
  front c hc := Option.some.inj hc ▸ (by decide : isBlank 'a' = false)
  back c hc := Option.some.inj hc ▸ (by decide : isBlank 'x' = false)

/-- The new path in the case that follows. -/
def linesPath : Listed where
  text := "a/Lines.tsx"
  field := by decide
  ne_nil := by decide
  front c hc := Option.some.inj hc ▸ (by decide : isBlank 'a' = false)
  back c hc := Option.some.inj hc ▸ (by decide : isBlank 'x' = false)

/-- A file that was added, one that was renamed, and one that was copied. -/
def threeEntries : List Entry :=
  [.added rowsPath, .renamed "100" (by decide) rowsPath linesPath,
    .other "C75" (isOther_of_isWord (by decide) (List.all_eq_true.1 (by decide +kernel))
      (by decide)) rowsPath (some linesPath)]

/-- A repository that lists them. -/
def listedSession : Session where
  disk := {}
  repository _ := some (0,
    "A\ta/Rows.tsx\nR100\ta/Rows.tsx\ta/Lines.tsx\nC75\ta/Rows.tsx\ta/Lines.tsx\n".toList)

/-- The case of a listing with a copy, which has no place among the changed files. -/
theorem changes_of_threeEntries :
    listedSession.repository (changesArguments "main") = some (0, listing threeEntries) ∧
      ((Job.changes "main" none).outcome listedSession).1 = .ok {
        added := ["a/Rows.tsx"], modified := [], deleted := [], renamed := ["a/Lines.tsx"] } := by
  have h : listedSession.repository (changesArguments "main") = some (0, listing threeEntries) := by
    decide +kernel
  exact ⟨h, congrArg Prod.fst (changes_of_listing h none)⟩

end Git

end UiHarness
