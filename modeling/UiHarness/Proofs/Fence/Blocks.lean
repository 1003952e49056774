import Mathlib.Data.List.TakeWhile
import UiHarness.Proofs.Fence

/-!
# Which block is taken out of a reply

A block is looked for from left to right, and the text up to the next mark is its body, so the block
that is found is the first one whose opening mark has a mark behind it.  All this can be said of the
text alone: where a mark with a tag, blanks and the end of a line stands, and where the next mark
stands.

The openings that no mark follows do no harm.  An opening ends with a line, so one that comes later
ends later too, and the marks behind the later one are behind the earlier one as well.  Hence the
block that is found begins with the first opening of all.

* `Text.cut?_eq_none_iff`, `Text.cut?_first`: the first occurrence of a text.
* `Text.findFirst?_append`, `Text.findFirst?_eq_none_iff`: the first match of a recogniser.
* `Fence.Opens`, `Fence.HasBlock`: opening marks, and blocks with both marks.
* `Fence.FirstBlock`: the first opening and the text up to the next mark.
* `Fence.code_unfences`: the code of a reply is that of its block.
-/

namespace UiHarness

namespace Text

/-! ## 1.  First occurrences -/

variable {p t : Text}

theorem after?_eq_some_iff {r : Text} : after? p t = some r ↔ t = p ++ r :=
  ⟨fun h => (append_of_after? h).symm, fun h => h ▸ after?_append p r⟩

theorem after?_eq_none_iff : after? p t = none ↔ ¬ p <+: t := by
  rw [Option.eq_none_iff_forall_ne_some]
  exact ⟨fun h ⟨r, hr⟩ => h r (after?_eq_some_iff.2 hr.symm),
    fun h r hr => h ⟨r, append_of_after? hr⟩⟩

/-- A text that does not occur cannot be cut at, and only such a text. -/
theorem cut?_eq_none_iff (hp : p ≠ []) : cut? p t = none ↔ ¬ p <:+: t := by
  induction t with
  | nil =>
    rw [cut?, if_neg fun h => hp (List.isEmpty_iff.1 h), List.infix_nil]
    exact iff_of_true rfl hp
  | cons c t ih =>
    rw [cut?, List.infix_cons_iff, not_or, ← ih, ← after?_eq_none_iff]
    cases after? p (c :: t) with
    | none => exact ⟨fun h => ⟨rfl, Option.map_eq_none_iff.1 h⟩,
        fun h => Option.map_eq_none_iff.2 h.2⟩
    | some r => exact iff_of_false (Option.some_ne_none _) fun h => Option.some_ne_none _ h.1

/-- A text is cut at the first occurrence. -/
theorem cut?_first {a b x y : Text} (h : cut? p t = some (a, b)) (hxy : t = x ++ (p ++ y)) :
    a.length ≤ x.length := by
  induction t generalizing a x with
  | nil =>
    rw [cut?] at h
    split at h
    · rw [← (Prod.mk.inj (Option.some.inj h)).1]
      exact Nat.zero_le _
    · cases h
  | cons c t ih =>
    rw [cut?] at h
    split at h
    · rw [← (Prod.mk.inj (Option.some.inj h)).1]
      exact Nat.zero_le _
    · rename_i hnone
      obtain ⟨⟨a', b'⟩, hcut, heq⟩ := Option.map_eq_some_iff.1 h
      obtain ⟨rfl, rfl⟩ := Prod.mk.inj heq
      cases x with
      | nil => exact absurd ⟨y, hxy.symm⟩ (after?_eq_none_iff.1 hnone)
      | cons d x => exact Nat.succ_le_succ (ih hcut (List.cons.inj hxy).2)

/-- In front of the first occurrence there is none. -/
theorem not_infix_of_cut? {a b : Text} (hp : p ≠ []) (h : cut? p t = some (a, b)) :
    ¬ p <:+: a := by
  rintro ⟨x, y, rfl⟩
  have hlength := cut?_first h (x := x) (y := y ++ (p ++ b)) (by
    rw [← append_of_cut? h, List.append_assoc, List.append_assoc])
  have hpos : 0 < p.length := List.length_pos_iff.2 hp
  rw [List.length_append, List.length_append] at hlength
  omega

/-- What begins a text in front of a character that it has not, begins the part in front of it. -/
theorem prefix_of_prefix_append_cons {c : Char} {a r : Text} (hc : c ∉ p)
    (h : p <+: a ++ c :: r) : p <+: a := by
  rcases List.prefix_or_prefix_of_prefix h (List.prefix_append a (c :: r)) with hin | ⟨q, rfl⟩
  · exact hin
  · cases q with
    | nil => exact ⟨[], by rw [List.append_nil, List.append_nil]⟩
    | cons d q =>
      obtain rfl := (List.cons_prefix_cons.1 ((List.prefix_append_right_inj _).1 h)).1
      exact absurd (List.mem_append_right a (List.mem_cons_self ..)) hc

/-- A text in which the mark does not occur is cut off in front of the mark, if something stands
between that is not part of a mark. -/
theorem cut?_append {c : Char} {a : Text} (hc : c ∉ p) (ha : ¬ p <:+: a) (r : Text) :
    cut? p (a ++ c :: (p ++ r)) = some (a ++ [c], r) := by
  have hp : p ≠ [] := fun h => ha (h ▸ List.nil_infix)
  have hfront : cut? p (p ++ r) = some ([], r) := by
    cases p with
    | nil => exact absurd rfl hp
    | cons d p =>
      rw [List.cons_append, cut?, ← List.cons_append, after?_append]
  induction a with
  | nil =>
    have hnone : after? p (c :: (p ++ r)) = none :=
      after?_eq_none_iff.2 fun h =>
        hp (List.prefix_nil.1 (prefix_of_prefix_append_cons (a := []) hc h))
    rw [List.nil_append, cut?, hnone]
    dsimp only
    rw [hfront]
    rfl
  | cons d a ih =>
    rw [List.infix_cons_iff, not_or] at ha
    have hnone : after? p (d :: (a ++ c :: (p ++ r))) = none :=
      after?_eq_none_iff.2 fun h => ha.1 (prefix_of_prefix_append_cons (a := d :: a) hc h)
    rw [List.cons_append, cut?, hnone]
    dsimp only
    rw [ih ha.2]
    rfl

/-- Blanks at the end are stripped. -/
theorem strip_concat {c : Char} (hc : isBlank c = true) (t : Text) :
    strip (t ++ [c]) = strip t := by
  rw [strip, strip, trimWhile, trimWhile, List.dropWhile_append]
  split
  · rename_i hempty
    rw [List.isEmpty_iff.1 hempty, List.dropWhile_cons_of_pos hc]
    rfl
  · rw [dropEndWhile, List.reverse_append, List.reverse_singleton, List.singleton_append,
      List.dropWhile_cons_of_pos hc]
    rfl

section Search

variable {α : Type} {recognise : Text → Option (α × Text)}

/-- What has no match in front of it is searched from there on. -/
theorem findFirst?_append {before s : Text}
    (h : ∀ x, x ≠ [] → x <:+ before → recognise (x ++ s) = none) :
    findFirst? recognise (before ++ s) = findFirst? recognise s := by
  induction before with
  | nil => rfl
  | cons c before ih =>
    have hnone := h (c :: before) (List.cons_ne_nil _ _) (List.suffix_refl _)
    rw [List.cons_append] at hnone
    rw [List.cons_append, findFirst?, hnone]
    exact ih fun x hx hsuffix => h x hx (hsuffix.trans (List.suffix_cons _ _))

theorem findFirst?_of_match {s : Text} {found : α × Text} (h : recognise s = some found) :
    findFirst? recognise s = some found := by
  cases s with
  | nil => exact h
  | cons c s => rw [findFirst?, h]

/-- Nothing is found exactly if no end of the text begins with a match. -/
theorem findFirst?_eq_none_iff :
    findFirst? recognise t = none ↔ ∀ s, s <:+ t → recognise s = none := by
  induction t with
  | nil =>
    refine ⟨fun h s hs => ?_, fun h => h [] (List.suffix_refl _)⟩
    rw [List.suffix_nil.1 hs]
    exact h
  | cons c t ih =>
    rw [findFirst?]
    cases hc : recognise (c :: t) with
    | some found =>
      refine ⟨fun h => absurd h (Option.some_ne_none _), fun h => ?_⟩
      rw [h _ (List.suffix_refl _)] at hc
      cases hc
    | none =>
      rw [ih]
      refine ⟨fun h s hs => ?_, fun h s hs => h s (hs.trans (List.suffix_cons c t))⟩
      rcases List.suffix_cons_iff.1 hs with rfl | hs
      · exact hc
      · exact h s hs

/-- What is found is found at the first place where there is a match. -/
theorem exists_first_of_findFirst? {found : α × Text} (h : findFirst? recognise t = some found) :
    ∃ s, s <:+ t ∧ recognise s = some found ∧
      ∀ s', s' <:+ t → s.length < s'.length → recognise s' = none := by
  induction t with
  | nil =>
    refine ⟨[], List.suffix_refl _, h, fun s' hs' hlt => ?_⟩
    rw [List.suffix_nil.1 hs'] at hlt
    exact absurd hlt (Nat.lt_irrefl _)
  | cons c t ih =>
    rw [findFirst?] at h
    split at h
    · rename_i found' hfound
      refine ⟨c :: t, List.suffix_refl _, hfound.trans h, fun s' hs' hlt => ?_⟩
      exact absurd hs'.length_le (Nat.not_le.2 hlt)
    · rename_i hnone
      obtain ⟨s, hs, hfound, hfirst⟩ := ih h
      refine ⟨s, hs.trans (List.suffix_cons c t), hfound, fun s' hs' hlt => ?_⟩
      rcases List.suffix_cons_iff.1 hs' with rfl | hs'
      · exact hnone
      · exact hfirst s' hs' hlt

end Search

end Text

namespace Fence

open Text

/-! ## 2.  Opening marks -/

/-- The characters that may stand between a tag and the end of its line. -/
def IsGap (blanks : Text) : Prop := ∀ c ∈ blanks, c = ' ' ∨ c = '\t'

/-- A tag of word characters and hyphens. -/
def IsPlainTag (tag : Text) : Prop := ∀ c ∈ tag, isWord c = true ∨ c = '-'

/-- **An opening**: a text begins with a mark, a tag, blanks and the end of a line, and `r` is the
rest. -/
def Opens (IsTag : Text → Prop) (t r : Text) : Prop :=
  ∃ tag blanks, IsTag tag ∧ IsGap blanks ∧ t = mark ++ (tag ++ (blanks ++ '\n' :: r))

/-- A text has a block with both marks. -/
def HasBlock (IsTag : Text → Prop) (t : Text) : Prop :=
  ∃ s r, s <:+ t ∧ Opens IsTag s r ∧ mark <:+: r

/-- **The first block of a text** in its parts: what stands before it, the text from its opening on,
its body, and what stands behind it. -/
structure FirstBlock (IsTag : Text → Prop) (t before s body after : Text) : Prop where
  split : t = before ++ s
  opens : Opens IsTag s (body ++ (mark ++ after))
  /-- No opening begins earlier. -/
  first : ∀ before' s' r', t = before' ++ s' → Opens IsTag s' r' → before.length ≤ before'.length
  /-- No mark stands earlier behind it. -/
  next : ∀ body' after', body ++ (mark ++ after) = body' ++ (mark ++ after') →
    body.length ≤ body'.length

theorem mark_ne_nil : mark ≠ [] := List.cons_ne_nil _ _

/-- What is behind an opening. -/
def opening? (tag? : Text → Option Text) (t : Text) : Option Text :=
  ((after? mark t).bind tag?).bind lineEnd?

theorem block?_eq (tag? : Text → Option Text) (t : Text) :
    block? tag? t = (opening? tag? t).bind (cut? mark) := by
  rw [opening?, Option.bind_assoc, Option.bind_assoc]
  rfl

variable {t r : Text}

theorem lineEnd?_eq_some_iff :
    lineEnd? t = some r ↔ ∃ blanks, IsGap blanks ∧ t = blanks ++ '\n' :: r := by
  constructor
  · intro h
    unfold lineEnd? at h
    split at h
    · rename_i r' hr'
      obtain rfl := Option.some.inj h
      refine ⟨t.takeWhile fun c => c = ' ' || c = '\t', fun c hc => ?_, ?_⟩
      · have hblank := List.mem_takeWhile_imp hc
        rwa [Bool.or_eq_true, decide_eq_true_eq, decide_eq_true_eq] at hblank
      · rw [← hr', List.takeWhile_append_dropWhile]
    · cases h
  · rintro ⟨blanks, hblanks, rfl⟩
    have hdrop : (blanks ++ '\n' :: r).dropWhile (fun c => c = ' ' || c = '\t') = '\n' :: r := by
      rw [List.dropWhile_append_of_pos]
      · rfl
      · intro c hc
        rw [Bool.or_eq_true, decide_eq_true_eq, decide_eq_true_eq]
        exact hblanks c hc
    unfold lineEnd?
    rw [hdrop]
    rfl

/-- The openings of a language. -/
theorem opening?_language {language : Text} :
    opening? (after? language) t = some r ↔ Opens (· = language) t r := by
  simp only [opening?, Option.bind_eq_some_iff, after?_eq_some_iff, lineEnd?_eq_some_iff]
  constructor
  · rintro ⟨_, ⟨_, rfl, rfl⟩, blanks, hblanks, rfl⟩
    exact ⟨language, blanks, rfl, hblanks, rfl⟩
  · rintro ⟨_, blanks, rfl, hblanks, rfl⟩
    exact ⟨_, ⟨_, rfl, rfl⟩, blanks, hblanks, rfl⟩

/-- A plain tag is read as a whole, for it ends where the blanks or the end of the line begin. -/
theorem anyTag?_append {tag blanks : Text} (htag : IsPlainTag tag) (hblanks : IsGap blanks)
    (r : Text) : anyTag? (tag ++ (blanks ++ '\n' :: r)) = some (blanks ++ '\n' :: r) := by
  have hstop : (blanks ++ '\n' :: r).dropWhile (fun c => isWord c || c = '-') =
      blanks ++ '\n' :: r := by
    cases blanks with
    | nil => exact List.dropWhile_cons_of_neg (by decide)
    | cons c blanks =>
      rcases hblanks c (List.mem_cons_self ..) with rfl | rfl
      · exact List.dropWhile_cons_of_neg (by decide)
      · exact List.dropWhile_cons_of_neg (by decide)
  rw [anyTag?, List.dropWhile_append_of_pos, hstop]
  intro c hc
  rw [Bool.or_eq_true, decide_eq_true_eq]
  exact htag c hc

/-- The openings of any language. -/
theorem opening?_anyTag : opening? anyTag? t = some r ↔ Opens IsPlainTag t r := by
  simp only [opening?, Option.bind_eq_some_iff, after?_eq_some_iff]
  constructor
  · rintro ⟨s, ⟨u, rfl, hs⟩, hr⟩
    obtain ⟨blanks, hblanks, rfl⟩ := lineEnd?_eq_some_iff.1 hr
    refine ⟨u.takeWhile fun c => isWord c || c = '-', blanks, fun c hc => ?_, hblanks, ?_⟩
    · have hword := List.mem_takeWhile_imp hc
      rwa [Bool.or_eq_true, decide_eq_true_eq] at hword
    · rw [← Option.some.inj hs, List.takeWhile_append_dropWhile]
  · rintro ⟨tag, blanks, htag, hblanks, rfl⟩
    exact ⟨_, ⟨_, rfl, anyTag?_append htag hblanks r⟩,
      lineEnd?_eq_some_iff.2 ⟨blanks, hblanks, rfl⟩⟩

/-- An opening of a language that comes later ends later. -/
theorem Opens.suffix {language s s' r' : Text} (h : Opens (· = language) s r)
    (h' : Opens (· = language) s' r') (hs : s <:+ s') : r <:+ r' := by
  obtain ⟨tag, blanks, rfl, -, rfl⟩ := h
  obtain ⟨tag, blanks', rfl, hblanks', rfl⟩ := h'
  have hlength := hs.length_le
  simp only [List.length_append, List.length_cons] at hlength
  have hr : '\n' :: r <:+ mark ++ (tag ++ (blanks' ++ '\n' :: r')) :=
    ((List.suffix_append blanks _).trans ((List.suffix_append tag _).trans
      (List.suffix_append mark _))).trans hs
  have hr' : blanks' ++ '\n' :: r' <:+ mark ++ (tag ++ (blanks' ++ '\n' :: r')) :=
    (List.suffix_append tag _).trans (List.suffix_append mark _)
  obtain ⟨x, hx⟩ := List.suffix_of_suffix_length_le hr hr' (by
    rw [List.length_append, List.length_cons, List.length_cons]
    omega)
  rcases List.append_eq_append_iff.1 hx with ⟨rest, hrest, hline⟩ | ⟨rest, -, hline⟩
  · cases rest with
    | nil => exact (List.cons.inj hline).2 ▸ List.suffix_refl _
    | cons c rest =>
      -- otherwise the line end of the one opening would be a blank of the other one
      obtain ⟨rfl, -⟩ := List.cons.inj hline
      rcases hblanks' _ (hrest ▸ List.mem_append_right x (List.mem_cons_self ..)) with h | h
      · cases h
      · cases h
  · cases rest with
    | nil => exact (List.cons.inj hline).2 ▸ List.suffix_refl _
    | cons c rest =>
      refine ⟨rest ++ ['\n'], ?_⟩
      rw [List.append_assoc]
      exact (List.cons.inj hline).2.symm

/-! ## 3.  Blocks -/

section Block

variable {tag? : Text → Option Text} {IsTag : Text → Prop}
  (hopening : ∀ t r, opening? tag? t = some r ↔ Opens IsTag t r)

include hopening

theorem block?_eq_none_iff :
    block? tag? t = none ↔ ∀ r, Opens IsTag t r → ¬ mark <:+: r := by
  rw [block?_eq, Option.bind_eq_none_iff]
  simp only [hopening, cut?_eq_none_iff mark_ne_nil]

/-- **Nothing is taken out** of a reply exactly if it has no block. -/
theorem first?_eq_none_iff : first? tag? t = none ↔ ¬ HasBlock IsTag t := by
  rw [first?, Option.map_eq_none_iff, findFirst?_eq_none_iff]
  simp only [block?_eq_none_iff hopening]
  exact ⟨fun h ⟨s, r, hs, hopens, hmark⟩ => h s hs r hopens hmark,
    fun h s hs r hopens hmark => h ⟨s, r, hs, hopens, hmark⟩⟩

/-- What is taken out is the text between an opening and the next mark, without blanks at its
ends. -/
theorem exists_of_first? {found : Text} (h : first? tag? t = some found) :
    ∃ s r body after, s <:+ t ∧ Opens IsTag s r ∧ cut? mark r = some (body, after) ∧
      found = strip body ∧
      ∀ s' r', s' <:+ t → s.length < s'.length → Opens IsTag s' r' → ¬ mark <:+: r' := by
  obtain ⟨⟨body, after⟩, hfind, rfl⟩ := Option.map_eq_some_iff.1 h
  obtain ⟨s, hs, hblock, hfirst⟩ := exists_first_of_findFirst? hfind
  rw [block?_eq, Option.bind_eq_some_iff] at hblock
  obtain ⟨r, hr, hcut⟩ := hblock
  exact ⟨s, r, body, after, hs, (hopening s r).1 hr, hcut, rfl, fun s' r' hs' hlt =>
    (block?_eq_none_iff hopening).1 (hfirst s' hs' hlt) r'⟩

/-- What is taken out has no mark in it. -/
theorem not_infix_of_first? {found : Text} (h : first? tag? t = some found) :
    ¬ mark <:+: found := by
  obtain ⟨_, _, body, _, _, _, hcut, rfl, _⟩ := exists_of_first? hopening h
  exact fun hmark =>
    not_infix_of_cut? mark_ne_nil hcut (hmark.trans (infix_strip body))

end Block

/-- **The first block of a language** begins with the first opening of all. -/
theorem exists_firstBlock {language : Text} (h : HasBlock (· = language) t) :
    ∃ before s body after, FirstBlock (· = language) t before s body after ∧
      first? (after? language) t = some (strip body) := by
  cases hfirst : first? (after? language) t with
  | none => exact absurd h ((first?_eq_none_iff fun _ _ => opening?_language).1 hfirst)
  | some found =>
    obtain ⟨s, r, body, after, ⟨before, rfl⟩, hopens, hcut, rfl, hearlier⟩ :=
      exists_of_first? (fun _ _ => opening?_language) hfirst
    obtain rfl : body ++ (mark ++ after) = r := append_of_cut? hcut
    refine ⟨before, s, body, after, ⟨rfl, hopens, fun before' s' r' ht hopens' => ?_,
      fun body' after' => cut?_first hcut⟩, rfl⟩
    refine Nat.le_of_not_lt fun hlt => ?_
    have hs' : s' <:+ before ++ s := ⟨before', ht.symm⟩
    have hlength := congrArg List.length ht
    rw [List.length_append, List.length_append] at hlength
    have hlater : s <:+ s' := List.suffix_of_suffix_length_le ⟨before, rfl⟩ hs' (by omega)
    -- the mark behind the block is behind the earlier opening too
    exact hearlier s' r' hs' (by omega) hopens'
      ((List.infix_append' body mark after).trans (hopens.suffix hopens' hlater).isInfix)

/-- A text with an opening in it: what stands before it, its tag, and what stands behind. -/
def opened (before tag rest : Text) : Text := before ++ (mark ++ (tag ++ '\n' :: rest))

/-- **What an opening opens is taken out** up to the next mark, if no opening begins earlier. -/
theorem first?_opened {tag? : Text → Option Text} {IsTag : Text → Prop}
    (hopening : ∀ t r, opening? tag? t = some r ↔ Opens IsTag t r)
    {before tag rest body after : Text} (htag : IsTag tag)
    (hcut : cut? mark rest = some (body, after))
    (hbefore : ∀ x r, x ≠ [] → x <:+ before → ¬ Opens IsTag (opened x tag rest) r) :
    first? tag? (opened before tag rest) = some (strip body) := by
  have hopens : opening? tag? (opened [] tag rest) = some rest :=
    (hopening _ _).2 ⟨tag, [], htag, fun c hc => absurd hc List.not_mem_nil, rfl⟩
  have hblock : block? tag? (mark ++ (tag ++ '\n' :: rest)) = some (body, after) := by
    rw [block?_eq]
    exact Option.bind_eq_some_iff.2 ⟨rest, hopens, hcut⟩
  rw [first?, opened, findFirst?_append, findFirst?_of_match hblock, Option.map_some]
  exact fun x hne hx => (block?_eq_none_iff hopening).2 fun r h => absurd h (hbefore x r hne hx)

/-- A text with a block in it: what stands before it, its tag, its body, and what stands behind. -/
def withBlock (before tag body after : Text) : Text :=
  opened before tag (body ++ '\n' :: (mark ++ after))

/-- **The block of a text is taken out**, if no opening begins earlier and no mark stands in its
body. -/
theorem first?_withBlock {tag? : Text → Option Text} {IsTag : Text → Prop}
    (hopening : ∀ t r, opening? tag? t = some r ↔ Opens IsTag t r) {before tag body after : Text}
    (htag : IsTag tag) (hbody : ¬ mark <:+: body)
    (hbefore : ∀ x r, x ≠ [] → x <:+ before → ¬ Opens IsTag (withBlock x tag body after) r) :
    first? tag? (withBlock before tag body after) = some (strip body) := by
  rw [withBlock, first?_opened hopening htag (cut?_append (by decide) hbody after) hbefore,
    strip_concat (by decide)]

/-- Without backticks in front of it no opening begins there. -/
theorem not_opens_of_not_mem {IsTag : Text → Prop} {before x : Text} (h : '`' ∉ before)
    (hne : x ≠ []) (hx : x <:+ before) (t r : Text) : ¬ Opens IsTag (x ++ t) r := by
  rintro ⟨_, _, _, _, heq⟩
  obtain ⟨c, x, rfl⟩ := List.exists_cons_of_ne_nil hne
  obtain rfl := (List.cons.inj heq).1
  exact h (hx.subset (List.mem_cons_self ..))

/-- **How code is taken out of a reply**, for a language. -/
structure Unfences (language : Text) : Prop where
  /-- The block of the language gives its body, whatever stands behind it. -/
  own : ∀ before body after, '`' ∉ before → ¬ mark <:+: body →
    code language (withBlock before language body after) = strip body
  /-- So does a block of another tag, if the language opens no block. -/
  other : ∀ tag before body after, IsPlainTag tag → '`' ∉ before → ¬ mark <:+: body →
    (∀ s r, s <:+ withBlock before tag body after → ¬ Opens (· = language) s r) →
    code language (withBlock before tag body after) = strip body
  /-- In every text with a block of the language, whatever blocks come before it, the code is the
  text between the first opening of the language and the next mark. -/
  first : ∀ t s r, s <:+ t → Opens (· = language) s r → mark <:+: r →
    ∃ before s' body after, FirstBlock (· = language) t before s' body after ∧
      code language t = strip body

theorem code_of_first? {language found : Text} (h : first? (after? language) t = some found) :
    code language t = found := by
  rw [code, h]

/-- **Taking code out of a reply undoes fencing**, for every language. -/
theorem code_unfences (language : Text) : Unfences language where
  own before body after hbefore hbody := by
    refine code_of_first? (first?_withBlock (fun _ _ => opening?_language) rfl hbody ?_)
    exact fun x r hne hx => not_opens_of_not_mem hbefore hne hx _ r
  other tag before body after htag hbefore hbody hnone := by
    have hlanguage : first? (after? language) (withBlock before tag body after) = none := by
      rw [first?_eq_none_iff fun _ _ => opening?_language]
      exact fun ⟨s, r, hs, hopens, _⟩ => hnone s r hs hopens
    have hany : first? anyTag? (withBlock before tag body after) = some (strip body) :=
      first?_withBlock (fun _ _ => opening?_anyTag) htag hbody
        fun x r hne hx => not_opens_of_not_mem hbefore hne hx _ r
    rw [code, hlanguage]
    dsimp only
    rw [hany]
  first t s r hs hopens hmark := by
    obtain ⟨before, s', body, after, hblock, hfirst⟩ := exists_firstBlock ⟨s, r, hs, hopens, hmark⟩
    exact ⟨before, s', body, after, hblock, code_of_first? hfirst⟩

/-- A block of the language counts before an earlier one of another language. -/
example : code "ts" "```sh\nls\n```\n```ts \nlet x\n``` ```ts\ny```" = "let x" := by decide +kernel

end Fence

end UiHarness
