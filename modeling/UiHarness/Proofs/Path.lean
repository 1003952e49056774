import UiHarness.Disk

/-!
# Paths and their texts

Paths are handed on as texts and read again, so what a path means must survive this.  It does for
the paths that occur, whose parts are names.

* `Text.splitAt_append`, `Text.splitAt_join`: splitting and joining.
* `Path.Clean`, `Path.ofText_text`: a path of names is read from its text.
* `Location.trail`: the key of a location, without the ambiguity of the root.
* `Location.eq_of_key_append`: below a location, keys of names tell locations apart.
-/

namespace UiHarness

namespace Text

/-! ## 1.  Splitting and joining -/

variable {c : Char}

theorem splitAt_cons_self (c : Char) (t : Text) : splitAt c (c :: t) = [] :: splitAt c t := by
  rw [splitAt, if_pos rfl]

theorem splitAt_ne_nil (c : Char) (t : Text) : splitAt c t ≠ [] := by
  cases t with
  | nil => exact List.cons_ne_nil _ _
  | cons a t =>
    rw [splitAt]
    split
    · exact List.cons_ne_nil _ _
    · split
      · exact List.cons_ne_nil _ _
      · exact List.cons_ne_nil _ _

/-- A text that does not begin with the separator adds to the first piece. -/
theorem splitAt_cons_of_ne {a : Char} {t piece : Text} {pieces : List Text} (ha : a ≠ c)
    (ht : splitAt c t = piece :: pieces) : splitAt c (a :: t) = (a :: piece) :: pieces := by
  rw [splitAt, if_neg ha, ht]

/-- **A separator separates.** -/
theorem splitAt_append (c : Char) (s t : Text) :
    splitAt c (s ++ c :: t) = splitAt c s ++ splitAt c t := by
  induction s with
  | nil => exact splitAt_cons_self c t
  | cons a s ih =>
    by_cases ha : a = c
    · rw [ha, List.cons_append, splitAt_cons_self, splitAt_cons_self, ih, List.cons_append]
    · cases hs : splitAt c s with
      | nil => exact absurd hs (splitAt_ne_nil c s)
      | cons piece pieces =>
        rw [hs, List.cons_append] at ih
        rw [List.cons_append, splitAt_cons_of_ne ha ih, splitAt_cons_of_ne ha hs, List.cons_append]

theorem splitAt_of_not_mem {t : Text} (h : c ∉ t) : splitAt c t = [t] := by
  induction t with
  | nil => rfl
  | cons a t ih =>
    rw [List.mem_cons, not_or] at h
    exact splitAt_cons_of_ne (fun ha => h.1 ha.symm) (ih h.2)

/-- The pieces are free of the separator. -/
theorem not_mem_of_mem_splitAt {t piece : Text} (h : piece ∈ splitAt c t) : c ∉ piece := by
  induction t generalizing piece with
  | nil =>
    rw [splitAt, List.mem_singleton] at h
    rw [h]
    exact List.not_mem_nil
  | cons a t ih =>
    by_cases ha : a = c
    · rw [ha, splitAt_cons_self, List.mem_cons] at h
      rcases h with rfl | h
      · exact List.not_mem_nil
      · exact ih h
    · cases ht : splitAt c t with
      | nil => exact absurd ht (splitAt_ne_nil c t)
      | cons first pieces =>
        rw [splitAt_cons_of_ne ha ht, List.mem_cons] at h
        rcases h with rfl | h
        · rw [List.mem_cons, not_or]
          exact ⟨fun hc => ha hc.symm, ih (ht ▸ List.mem_cons_self ..)⟩
        · exact ih (ht ▸ List.mem_cons_of_mem _ h)

theorem join_singleton (sep piece : Text) : join sep [piece] = piece := by
  rw [join, List.intercalate_singleton]

theorem join_cons (sep piece : Text) {pieces : List Text} (h : pieces ≠ []) :
    join sep (piece :: pieces) = piece ++ (sep ++ join sep pieces) := by
  rw [join, join, List.intercalate_cons_of_ne_nil h, List.append_assoc]

/-- Pieces that are free of the separator are found again. -/
theorem splitAt_join {pieces : List Text} (h : pieces ≠ []) (hc : ∀ piece ∈ pieces, c ∉ piece) :
    splitAt c (join [c] pieces) = pieces := by
  induction pieces with
  | nil => exact absurd rfl h
  | cons piece pieces ih =>
    have hpiece := splitAt_of_not_mem (hc piece (List.mem_cons_self ..))
    by_cases hp : pieces = []
    · rw [hp, join_singleton, hpiece]
    · rw [join_cons _ _ hp, List.singleton_append, splitAt_append, hpiece,
        ih hp fun p hp => hc p (List.mem_cons_of_mem _ hp), List.singleton_append]

end Text

namespace Path

/-! ## 2.  Paths of names -/

/-- A part of a path that means something and is kept when the path is read from a text. -/
def IsPart (part : Text) : Prop := isName part = true ∧ '/' ∉ part

instance (part : Text) : Decidable (IsPart part) :=
  inferInstanceAs (Decidable (isName part = true ∧ '/' ∉ part))

/-- A path whose parts are names, with a root that a text can have. -/
structure Clean (p : Path) : Prop where
  root : p.root = [] ∨ p.root = ['/'] ∨ p.root = ['/', '/']
  parts : ∀ part ∈ p.parts, IsPart part

theorem IsPart.ne_nil {part : Text} (h : IsPart part) : part ≠ [] := by
  rintro rfl
  exact Bool.false_ne_true h.1

theorem rootOf_of_ne {t : Text} (h : ∀ r, t ≠ '/' :: r) : rootOf t = [] := by
  unfold rootOf
  split
  · exact absurd rfl (h _)
  · exact absurd rfl (h _)
  · exact absurd rfl (h _)
  · rfl

theorem root_ofText (t : Text) :
    (ofText t).root = [] ∨ (ofText t).root = ['/'] ∨ (ofText t).root = ['/', '/'] := by
  rw [ofText]
  dsimp only
  unfold rootOf
  split
  · exact .inr (.inl rfl)
  · exact .inr (.inr rfl)
  · exact .inr (.inl rfl)
  · exact .inl rfl

theorem clean_ofText (t : Text) : (ofText t).Clean := by
  refine ⟨root_ofText t, fun part h => ?_⟩
  have h := List.mem_filter.1 h
  exact ⟨h.2, Text.not_mem_of_mem_splitAt h.1⟩

theorem Clean.join {p q : Path} (hp : p.Clean) (hq : q.Clean) : (p.join q).Clean := by
  rw [Path.join]
  split
  · exact hq
  · refine ⟨hp.root, fun part h => ?_⟩
    rcases List.mem_append.1 h with h | h
    · exact hp.parts part h
    · exact hq.parts part h

theorem Clean.child {p : Path} (hp : p.Clean) (t : Text) : (p.child t).Clean :=
  hp.join (clean_ofText t)

theorem Clean.parent {p : Path} (hp : p.Clean) : p.parent.Clean :=
  ⟨hp.root, fun part h => hp.parts part (List.dropLast_subset _ h)⟩

/-- Names that are joined are found again, also if there are none. -/
theorem filter_splitAt_join {parts : List Text} (h : ∀ part ∈ parts, IsPart part) :
    (Text.splitAt '/' (Text.join ['/'] parts)).filter isName = parts := by
  by_cases hp : parts = []
  · rw [hp]
    rfl
  · rw [Text.splitAt_join hp fun part hpart => (h part hpart).2]
    exact List.filter_eq_self.2 fun part hpart => (h part hpart).1

/-- Names that are joined do not begin with a slash. -/
theorem join_ne_slash {parts : List Text} (h : ∀ part ∈ parts, IsPart part) (r : Text) :
    Text.join ['/'] parts ≠ '/' :: r := by
  cases parts with
  | nil => exact (List.cons_ne_nil _ _).symm
  | cons part parts =>
    have hpart := h part (List.mem_cons_self ..)
    have hfront : ∃ s, Text.join ['/'] (part :: parts) = part ++ s := by
      by_cases hp : parts = []
      · exact ⟨[], by rw [hp, Text.join_singleton, List.append_nil]⟩
      · exact ⟨_, Text.join_cons _ _ hp⟩
    obtain ⟨s, hs⟩ := hfront
    rw [hs]
    cases part with
    | nil => exact absurd rfl hpart.ne_nil
    | cons a part =>
      rw [List.cons_append]
      intro heq
      obtain ⟨rfl, -⟩ := List.cons.inj heq
      exact hpart.2 (List.mem_cons_self ..)

/-- **A path of names is read from its text.** -/
theorem ofText_text {p : Path} (h : p.Clean) : ofText p.text = p := by
  obtain ⟨root, parts⟩ := p
  have hroot := h.root
  have hparts : ∀ part ∈ parts, IsPart part := h.parts
  have hfound := filter_splitAt_join hparts
  have hfirst := join_ne_slash hparts
  rw [text]
  rcases hroot with rfl | rfl | rfl
  · cases parts with
    | nil => rfl
    | cons part parts =>
      rw [if_neg (by simp), List.nil_append, ofText, rootOf_of_ne hfirst, hfound]
  · have hr : rootOf ('/' :: Text.join ['/'] parts) = ['/'] := by
      unfold rootOf
      split
      · rfl
      · rename_i r _ heq
        exact absurd (List.cons.inj heq).2 (hfirst r)
      · rfl
      · rename_i hn
        exact absurd rfl (hn _)
    rw [if_neg (by simp), List.singleton_append, ofText, hr, Text.splitAt_cons_self,
      List.filter_cons_of_neg (by decide), hfound]
  · have hr : rootOf ('/' :: '/' :: Text.join ['/'] parts) = ['/', '/'] := by
      unfold rootOf
      split
      · rename_i r heq
        exact absurd (List.cons.inj (List.cons.inj heq).2).2 (hfirst r)
      · rfl
      · rename_i hn heq
        exact absurd (List.cons.inj heq).2.symm (hn _)
      · rename_i hn _
        exact absurd rfl (hn _)
    rw [if_neg (by simp), List.cons_append, List.singleton_append, ofText, hr,
      Text.splitAt_cons_self, Text.splitAt_cons_self, List.filter_cons_of_neg (by decide),
      List.filter_cons_of_neg (by decide), hfound]

/-! ## 3.  The last part -/

/-- A path with a last part that is not a pair of dots, as that of a file has. -/
def NamesFile (p : Path) : Prop := ∃ front last, p.parts = front ++ [last] ∧ last ≠ ['.', '.']

/-- An ending without separators belongs to the last piece. -/
theorem splitAt_append_of_not_mem (c : Char) (t : Text) :
    ∃ front last, ∀ ending, c ∉ ending → Text.splitAt c (t ++ ending) = front ++ [last ++ ending] := by
  induction t with
  | nil => exact ⟨[], [], fun ending h => Text.splitAt_of_not_mem h⟩
  | cons a t ih =>
    obtain ⟨front, last, ht⟩ := ih
    by_cases ha : a = c
    · exact ⟨[] :: front, last, fun ending h => by
        rw [ha, List.cons_append, Text.splitAt_cons_self, ht ending h, List.cons_append]⟩
    · cases front with
      | nil => exact ⟨[], a :: last, fun ending h => Text.splitAt_cons_of_ne ha (ht ending h)⟩
      | cons piece front =>
        exact ⟨(a :: piece) :: front, last, fun ending h => Text.splitAt_cons_of_ne ha (ht ending h)⟩

/-- The last part of a path whose text does not end in a dot: what stands behind the last slash.
It names something else than a directory on the way. -/
theorem exists_last_child (t : Text) : ∃ last, ∀ (p : Path) (ending : Text), '/' ∉ ending →
    ending ≠ [] → ending.getLast? ≠ some '.' → last ++ ending ≠ ['.', '.'] ∧
      ∃ front, (p.child (t ++ ending)).parts = front ++ [last ++ ending] := by
  obtain ⟨front, last, hsplit⟩ := splitAt_append_of_not_mem '/' t
  refine ⟨last, fun p ending hslash hne hdot => ?_⟩
  have hlast : (last ++ ending).getLast? ≠ some '.' := by
    rw [List.getLast?_append, List.getLast?_eq_some_getLast hne, Option.some_or,
      ← List.getLast?_eq_some_getLast hne]
    exact hdot
  have hname : isName (last ++ ending) = true := by
    rw [isName, Bool.and_eq_true, Bool.not_eq_true', decide_eq_true_eq, ← Bool.not_eq_true,
      List.isEmpty_iff, List.append_eq_nil_iff]
    refine ⟨fun h => hne h.2, fun h => hlast ?_⟩
    rw [h]
    rfl
  have hparts : (ofText (t ++ ending)).parts = front.filter isName ++ [last ++ ending] := by
    rw [ofText, hsplit ending hslash, List.filter_append, List.filter_cons_of_pos hname,
      List.filter_nil]
  refine ⟨fun h => hlast (by rw [h]; rfl), ?_⟩
  rw [child, join]
  split
  · exact ⟨_, hparts⟩
  · exact ⟨p.parts ++ front.filter isName, by rw [hparts, List.append_assoc]⟩

/-- A text that does not end in a dot names something else than a directory on the way. -/
theorem namesFile_child (p : Path) (t : Text) {ending : Text} (hslash : '/' ∉ ending)
    (hne : ending ≠ []) (hdot : ending.getLast? ≠ some '.') : (p.child (t ++ ending)).NamesFile := by
  obtain ⟨last, hlast⟩ := exists_last_child t
  obtain ⟨hdots, front, hparts⟩ := hlast p ending hslash hne hdot
  exact ⟨front, last ++ ending, hparts, hdots⟩

/-- A path with an ending has a last part. -/
theorem namesFile_of_suffix {p : Path} (h : p.suffix ≠ []) : p.NamesFile := by
  by_cases hp : p.parts = []
  · rw [suffix, name, hp] at h
    exact absurd rfl h
  · refine ⟨_, _, (List.dropLast_concat_getLast hp).symm, fun hlast => h ?_⟩
    rw [suffix, name, List.getLastD_eq_getLast?, List.getLast?_eq_some_getLast hp, hlast]
    rfl

/-- Nothing, or a text that ends with a character. -/
def NilOrEnds (c : Char) (s : Text) : Prop := s = [] ∨ ∃ r, s = r ++ [c]

theorem NilOrEnds.append {c : Char} {s t : Text} (hs : NilOrEnds c s) (ht : NilOrEnds c t) :
    NilOrEnds c (s ++ t) := by
  rcases ht with rfl | ⟨r, rfl⟩
  · rwa [List.append_nil]
  · exact .inr ⟨s ++ r, by rw [List.append_assoc]⟩

/-- In front of the last of several pieces stands a separator, or nothing. -/
theorem exists_join_concat (c : Char) (front : List Text) (last : Text) :
    ∃ s, Text.join [c] (front ++ [last]) = s ++ last ∧ NilOrEnds c s := by
  induction front with
  | nil => exact ⟨[], Text.join_singleton _ _, .inl rfl⟩
  | cons piece front ih =>
    obtain ⟨s, hs, hends⟩ := ih
    have hne : front ++ [last] ≠ [] := List.append_ne_nil_of_right_ne_nil _ (List.cons_ne_nil _ _)
    refine ⟨piece ++ [c] ++ s, ?_, .append (.inr ⟨piece, rfl⟩) hends⟩
    rw [List.cons_append, Text.join_cons _ _ hne, hs, List.append_assoc, List.append_assoc]

/-- An ending without slashes does not reach over the slash in front of the last part. -/
theorem endsWith_append {s last ending : Text} (hs : NilOrEnds '/' s) (hslash : '/' ∉ ending) :
    Text.endsWith (s ++ last) ending = Text.endsWith last ending := by
  rw [Bool.eq_iff_iff, Text.endsWith, Text.endsWith, List.isSuffixOf_iff_suffix,
    List.isSuffixOf_iff_suffix]
  refine ⟨?_, fun h => h.trans (List.suffix_append _ _)⟩
  rintro ⟨r, hr⟩
  rcases List.append_eq_append_iff.1 hr with ⟨m, hm, rfl⟩ | ⟨m, rfl, hm⟩
  · have hm' : m = [] := by
      refine Classical.byContradiction fun hne => hslash (List.mem_append_left _ ?_)
      rcases hs with rfl | ⟨q, rfl⟩
      · exact absurd (List.append_eq_nil_iff.1 hm.symm).2 hne
      · have hlast := congrArg List.getLast? hm
        rw [List.getLast?_concat, List.getLast?_append, List.getLast?_eq_some_getLast hne,
          Option.some_or] at hlast
        exact Option.some.inj hlast ▸ List.getLast_mem hne
    exact ⟨[], by rw [hm', List.nil_append, List.nil_append]⟩
  · exact ⟨m, hm.symm⟩

/-- The text of a path ends as its last part does, as far as this is free of slashes. -/
theorem endsWith_text {p : Path} (h : p.Clean) {front : List Text} {last ending : Text}
    (hp : p.parts = front ++ [last]) (hslash : '/' ∉ ending) :
    Text.endsWith p.text ending = Text.endsWith last ending := by
  obtain ⟨s, hs, hends⟩ := exists_join_concat '/' front last
  have hroot : NilOrEnds '/' p.root := by
    rcases h.root with hr | hr | hr
    · exact .inl hr
    · exact .inr ⟨[], hr⟩
    · exact .inr ⟨['/'], hr⟩
  have hparts : p.parts.isEmpty = false := by
    rw [hp, ← Bool.not_eq_true, List.isEmpty_iff]
    exact List.append_ne_nil_of_right_ne_nil _ (List.cons_ne_nil _ _)
  rw [text, hparts, Bool.and_false, if_neg Bool.false_ne_true, hp, hs, ← List.append_assoc,
    endsWith_append (hroot.append hends) hslash]

/-- What a text without slashes is read as. -/
theorem ofText_of_not_mem {t : Text} (h : '/' ∉ t) : ofText t = ⟨[], [t].filter isName⟩ := by
  rw [ofText, Text.splitAt_of_not_mem h, rootOf_of_ne]
  rintro r rfl
  exact h (List.mem_cons_self ..)

/-- What a name is read as. -/
theorem ofText_of_isPart {t : Text} (h : IsPart t) : ofText t = ⟨[], [t]⟩ := by
  rw [ofText_of_not_mem h.2, List.filter_cons_of_pos h.1, List.filter_nil]

/-- A name is added to a path as its last part. -/
theorem child_of_isPart (p : Path) {t : Text} (h : IsPart t) :
    p.child t = ⟨p.root, p.parts ++ [t]⟩ := by
  rw [child, ofText_of_isPart h]
  rfl

/-- The ending of a path is the end of its last part. -/
theorem suffix_isSuffix (p : Path) : p.suffix <:+ p.name := by
  rw [suffix]
  split
  · exact List.drop_suffix _ _
  · exact List.nil_suffix

theorem name_child {p : Path} {name : Text} (h : IsPart name) : (p.child name).name = name := by
  rw [child_of_isPart p h, Path.name, List.getLastD_concat]

/-- A path with further parts. -/
def below (p : Path) (parts : List Text) : Path := ⟨p.root, p.parts ++ parts⟩

theorem below_inj {p : Path} {parts parts' : List Text} :
    p.below parts = p.below parts' ↔ parts = parts' := by
  rw [below, below, Path.mk.injEq, List.append_cancel_left_eq, and_iff_right rfl]

/-- A name behind a path with further parts. -/
theorem child_below {p : Path} {parts : List Text} {name : Text} (h : IsPart name) :
    (p.below parts).child name = p.below (parts ++ [name]) := by
  rw [child_of_isPart _ h, below, below, List.append_assoc]

theorem normalized_append (before parts parts' : List Text) :
    normalized before (parts ++ parts') = normalized (normalized before parts) parts' := by
  induction parts generalizing before with
  | nil => rfl
  | cons part parts ih =>
    rw [List.cons_append, normalized, normalized]
    split
    · exact ih _
    · exact ih _

/-- As long as there are parts to take back, what stands in front of them is left. -/
theorem normalized_append_left {front before parts : List Text}
    (h : parts.count "..".toList ≤ before.length) :
    normalized (front ++ before) parts = front ++ normalized before parts := by
  induction parts generalizing before with
  | nil => rfl
  | cons part parts ih =>
    rw [normalized, normalized]
    by_cases hp : part = "..".toList
    · rw [hp, List.count_cons_self] at h
      have hne : before ≠ [] := List.ne_nil_of_length_pos (by omega)
      rw [if_pos hp, if_pos hp, List.dropLast_append_of_ne_nil hne]
      exact ih (by rw [List.length_dropLast]; omega)
    · rw [List.count_cons_of_ne hp] at h
      rw [if_neg hp, if_neg hp, List.append_assoc]
      exact ih (by rw [List.length_append]; omega)

/-- Without pairs of dots there are no other parts than before. -/
theorem mem_of_mem_normalized {before parts : List Text} {part : Text}
    (h : part ∈ normalized before parts) : part ∈ before ∨ part ∈ parts := by
  induction parts generalizing before with
  | nil => exact .inl h
  | cons p parts ih =>
    rw [normalized] at h
    split at h
    · exact (ih h).imp (fun hm => List.dropLast_subset _ hm) (List.mem_cons_of_mem _)
    · rcases ih h with hm | hm
      · rcases List.mem_append.1 hm with hm | hm
        · exact .inl hm
        · exact .inr (List.mem_singleton.1 hm ▸ List.mem_cons_self ..)
      · exact .inr (List.mem_cons_of_mem _ hm)

/-- Parts without pairs of dots are kept. -/
theorem normalized_of_not_mem {before parts : List Text} (h : "..".toList ∉ parts) :
    normalized before parts = before ++ parts := by
  induction parts generalizing before with
  | nil => exact (List.append_nil _).symm
  | cons part parts ih =>
    rw [List.mem_cons, not_or] at h
    rw [normalized, if_neg fun hp => h.1 hp.symm, ih h.2, List.append_assoc, List.singleton_append]

/-- **The first of some parts** are names that are kept, or have all of these in front, whatever pairs
of dots stand behind, as long as these take back no more than the names in between. -/
theorem normalized_of_prefix {kept between rest front : List Text}
    (hdots : "..".toList ∉ kept ++ between) (hcount : rest.count "..".toList ≤ between.length)
    (hfront : front <+: kept ++ (between ++ rest)) :
    (front <+: kept ∧ ∀ start, normalized start front = start ++ front) ∨
      ∃ t, (∀ part ∈ t, part ∈ between ++ rest) ∧
        ∀ start, normalized start front = start ++ (kept ++ t) := by
  rw [List.mem_append, not_or] at hdots
  obtain ⟨back, hback⟩ := hfront
  rcases List.append_eq_append_iff.1 hback with ⟨more, hkept, -⟩ | ⟨more, rfl, hmore⟩
  · refine .inl ⟨⟨more, hkept.symm⟩, fun start => normalized_of_not_mem fun hm => hdots.1 ?_⟩
    exact hkept ▸ List.mem_append_left _ hm
  · refine .inr ?_
    rcases List.append_eq_append_iff.1 hmore with ⟨taken, rfl, hrest⟩ | ⟨left, rfl, -⟩
    · -- all names in between are there to be taken back
      rw [hrest, List.count_append] at hcount
      refine ⟨normalized between taken, fun part hm => ?_, fun start => ?_⟩
      · rw [hrest, ← List.append_assoc]
        exact List.mem_append_left _ (List.mem_append.2 (mem_of_mem_normalized hm))
      · rw [normalized_append, normalized_append, normalized_of_not_mem hdots.1,
          normalized_of_not_mem hdots.2, normalized_append_left (by omega), List.append_assoc]
    · rw [List.mem_append, not_or] at hdots
      refine ⟨more, fun part hm => List.mem_append_left _ (List.mem_append_left _ hm),
        fun start => ?_⟩
      rw [normalized_append, normalized_of_not_mem hdots.1, normalized_of_not_mem hdots.2.1,
        List.append_assoc]

end Path

namespace Location

/-! ## 4.  Keys -/

/-- The names of a location, each behind a slash. -/
def trail (l : Location) : Text := l.flatMap fun name => '/' :: name

@[simp] theorem trail_nil : trail [] = [] := rfl

@[simp] theorem trail_cons (name : Text) (l : Location) :
    trail (name :: l) = '/' :: (name ++ trail l) := by
  rw [trail, List.flatMap_cons, List.cons_append, trail]

@[simp] theorem trail_append (l l' : Location) : trail (l ++ l') = trail l ++ trail l' := by
  rw [trail, List.flatMap_append, trail, trail]

/-- The trail of a location is its key, unless it is the root. -/
theorem key_eq_trail {l : Location} (h : l ≠ []) : l.key = l.trail := by
  induction l with
  | nil => exact absurd rfl h
  | cons name l ih =>
    rw [key, trail_cons]
    by_cases hl : l = []
    · rw [hl, Text.join_singleton, trail_nil, List.append_nil]
    · rw [Text.join_cons _ _ hl, ← ih hl, key, List.singleton_append]

/-- The key of a location is that of the directory with the name behind it. -/
theorem key_concat (l : Location) (name : Text) :
    key (l ++ [name]) = (if l.isEmpty then ['/'] else l.key ++ ['/']) ++ name := by
  rw [key_eq_trail (List.append_ne_nil_of_right_ne_nil _ (List.cons_ne_nil _ _)),
    trail_append, trail_cons, trail_nil, List.append_nil]
  cases l with
  | nil => rfl
  | cons a l =>
    rw [List.isEmpty_cons, if_neg Bool.false_ne_true, key_eq_trail (List.cons_ne_nil _ _),
      List.append_assoc, List.singleton_append]

/-- A trail of names is cut at its last slash in one way only. -/
theorem eq_of_append_slash {s t a b : Text} (ha : '/' ∉ a) (hb : '/' ∉ b)
    (h : s ++ '/' :: a = t ++ '/' :: b) : s = t ∧ a = b := by
  rcases List.append_eq_append_iff.1 h with ⟨m, rfl, hm⟩ | ⟨m, rfl, hm⟩
  · cases m with
    | nil => exact ⟨(List.append_nil _).symm, (List.cons.inj hm).2⟩
    | cons x m =>
      rw [List.cons_append] at hm
      refine absurd ?_ ha
      rw [(List.cons.inj hm).2]
      exact List.mem_append_right _ (List.mem_cons_self ..)
  · cases m with
    | nil => exact ⟨List.append_nil _, (List.cons.inj hm).2.symm⟩
    | cons x m =>
      rw [List.cons_append] at hm
      refine absurd ?_ hb
      rw [(List.cons.inj hm).2]
      exact List.mem_append_right _ (List.mem_cons_self ..)

/-- **A trail that ends with the trail of names belongs to a location that ends with them.** -/
theorem exists_of_trail_eq {l names : Location} {t : Text} (hl : ∀ name ∈ l, '/' ∉ name)
    (hn : ∀ name ∈ names, '/' ∉ name) (h : trail l = t ++ trail names) :
    ∃ front, l = front ++ names ∧ trail front = t := by
  -- the names are taken off from the end, where the last slash decides
  induction hk : names.length generalizing l names with
  | zero =>
    rw [List.length_eq_zero_iff.1 hk, trail_nil, List.append_nil] at h
    rw [List.length_eq_zero_iff.1 hk]
    exact ⟨l, (List.append_nil l).symm, h⟩
  | succ k ih =>
    have hne : names ≠ [] := by
      rintro rfl
      cases hk
    obtain ⟨init, last, rfl⟩ : ∃ init last, names = init ++ [last] :=
      ⟨_, _, (List.dropLast_concat_getLast hne).symm⟩
    rw [List.length_append, List.length_singleton, Nat.add_right_cancel_iff] at hk
    rw [trail_append, trail_cons, trail_nil, List.append_nil, ← List.append_assoc] at h
    have hlne : l ≠ [] := by
      rintro rfl
      exact List.append_ne_nil_of_right_ne_nil _ (List.cons_ne_nil _ _) h.symm
    obtain ⟨linit, llast, rfl⟩ : ∃ linit llast, l = linit ++ [llast] :=
      ⟨_, _, (List.dropLast_concat_getLast hlne).symm⟩
    rw [trail_append, trail_cons, trail_nil, List.append_nil] at h
    obtain ⟨hinit, rfl⟩ := eq_of_append_slash (hl _ (by simp)) (hn _ (by simp)) h
    obtain ⟨front, rfl, hfront⟩ := ih (fun name hm => hl name (List.mem_append_left _ hm))
      (fun name hm => hn name (List.mem_append_left _ hm)) hinit hk
    exact ⟨front, by rw [List.append_assoc], hfront⟩

/-- Names have a trail of their own. -/
theorem eq_of_trail_eq {l l' : Location} (hl : ∀ name ∈ l, '/' ∉ name)
    (hl' : ∀ name ∈ l', '/' ∉ name) (h : trail l = trail l') : l = l' := by
  obtain ⟨front, rfl, hfront⟩ := exists_of_trail_eq hl hl' (t := []) h
  cases front with
  | nil => rfl
  | cons name front =>
    rw [trail_cons] at hfront
    cases hfront

/-- Only the root has the key of the root, as far as names go. -/
theorem key_ne_key_nil {ns : Location} (hns : ∀ name ∈ ns, Path.IsPart name) (h : ns ≠ []) :
    key ns ≠ key [] := by
  cases ns with
  | nil => exact absurd rfl h
  | cons name ns =>
    rw [key_eq_trail h, trail_cons]
    intro heq
    exact (hns name (List.mem_cons_self ..)).ne_nil
      (List.append_eq_nil_iff.1 (List.cons.inj heq).2).1

/-- **Below a location, keys of names tell locations apart.** -/
theorem eq_of_key_append {l ns ms : Location} (hns : ∀ name ∈ ns, Path.IsPart name)
    (hms : ∀ name ∈ ms, Path.IsPart name) (h : key (l ++ ns) = key (l ++ ms)) : ns = ms := by
  by_cases hn : l ++ ns = []
  · obtain ⟨rfl, rfl⟩ := List.append_eq_nil_iff.1 hn
    exact Classical.byContradiction fun hne => key_ne_key_nil hms (fun hm => hne hm.symm) h.symm
  · by_cases hm : l ++ ms = []
    · obtain ⟨rfl, rfl⟩ := List.append_eq_nil_iff.1 hm
      exact Classical.byContradiction fun hne => key_ne_key_nil hns hne h
    · rw [key_eq_trail hn, key_eq_trail hm, trail_append, trail_append,
        List.append_cancel_left_eq] at h
      exact eq_of_trail_eq (fun name hm => (hns name hm).2) (fun name hm => (hms name hm).2) h

end Location

end UiHarness
