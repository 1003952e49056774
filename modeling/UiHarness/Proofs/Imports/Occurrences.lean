import Mathlib.Data.List.TakeDrop
import Mathlib.Data.List.TakeWhile
import UiHarness.Imports.Bucket
import UiHarness.Imports.Scan
import UiHarness.Proofs.Detection.Search
import UiHarness.Proofs.Fence.Blocks
import UiHarness.Proofs.Steps

/-!
# What the quick scan reports

The quick scan looks for what is written like an import.  It does not read the text as source, so it
cannot tell a statement from a comment or a string: what is reported need not be imported by
anything.  Nor does it know where a name ends.  A binding is cut at ` as ` with a blank on each
side, and a line end is another character, so a binding that goes on in the next line is reported
whole.

What can be said is said of the text alone.  Each pattern is a form in which an import may be
written, given by its parts; none of the parts can end in two ways, so a text begins with at most
one thing of a form.  The scan reports those that stand in the text from left to right, none of
which overlaps another one.

* `Scan.NearbyForm`, `Scan.PackageForm`: how imports are written, with `Scan.nearby?_eq_some` and
  `Scan.package?_eq_some`.
* `Scan.Occurrences`: what stands in a text from left to right.
* `Scan.Recognises.occurrences_iff`: this is what all matches of a recogniser are.
* `Scan.Exports`: the name that a binding imports.
* `Scan.exists_reports`: what the scan reports of a text.
* `Scan.not_onlyImported`: it reports what is no import.
-/

namespace UiHarness

namespace Text

/-! ## 1.  Where a text is cut -/

/-- A text is cut behind its longest beginning in a class. -/
theorem span_eq_iff {p : Char → Bool} {t a b : Text} :
    t.span p = (a, b) ↔ t = a ++ b ∧ (∀ c ∈ a, p c = true) ∧ ∀ c ∈ b.head?, p c = false := by
  rw [List.span_eq_takeWhile_dropWhile, Prod.mk.injEq]
  constructor
  · rintro ⟨rfl, rfl⟩
    refine ⟨List.takeWhile_append_dropWhile.symm, fun c hc => List.mem_takeWhile_imp hc,
      fun c hc => ?_⟩
    have hhead := List.head?_dropWhile_not p t
    rw [Option.mem_def.1 hc] at hhead
    simpa using hhead
  · rintro ⟨rfl, ha, hb⟩
    have hdrop : b.dropWhile p = b := by
      cases b with
      | nil => rfl
      | cons c b => exact List.dropWhile_cons_of_neg (by rw [hb c rfl]; exact Bool.false_ne_true)
    have htake : b.takeWhile p = [] := by
      cases b with
      | nil => rfl
      | cons c b => exact List.takeWhile_cons_of_neg (by rw [hb c rfl]; exact Bool.false_ne_true)
    rw [List.takeWhile_append_of_pos ha, List.dropWhile_append_of_pos ha, hdrop, htake,
      List.append_nil]
    exact ⟨rfl, rfl⟩

/-- A text is cut at the first occurrence of another one, and only there. -/
theorem cut?_eq_some_iff {p t a b : Text} (hp : p ≠ []) : cut? p t = some (a, b) ↔
    t = a ++ (p ++ b) ∧ ∀ x y, t = x ++ (p ++ y) → a.length ≤ x.length := by
  constructor
  · exact fun h => ⟨(append_of_cut? h).symm, fun x y hxy => cut?_first h hxy⟩
  · rintro ⟨ht, hfirst⟩
    cases hcut : cut? p t with
    | none =>
      refine absurd ?_ ((cut?_eq_none_iff hp).1 hcut)
      exact ⟨a, b, by rw [ht, List.append_assoc]⟩
    | some found =>
      obtain ⟨a', b'⟩ := found
      have ht' := append_of_cut? hcut
      have hlength := Nat.le_antisymm (cut?_first hcut ht) (hfirst a' b' ht'.symm)
      obtain ⟨rfl, hrest⟩ := List.append_inj (ht'.trans ht) hlength
      rw [List.append_cancel_left hrest]

end Text

namespace Scan

open Text

variable {t r w : Text}

/-! ## 2.  How imports are written -/

/-- At least one blank, and nothing else. -/
structure Blanks (t : Text) : Prop where
  ne_nil : t ≠ []
  blank : ∀ c ∈ t, isBlank c = true

theorem blanks?_eq_some :
    blanks? t = some r ↔ ∃ b, Blanks b ∧ t = b ++ r ∧ ∀ c ∈ r.head?, isBlank c = false := by
  rw [blanks?]
  constructor
  · intro h
    generalize hspan : t.span isBlank = s at h
    obtain ⟨b, r'⟩ := s
    cases b with
    | nil => cases h
    | cons c b =>
      obtain rfl := Option.some.inj h
      obtain ⟨ht, hb, hr⟩ := span_eq_iff.1 hspan
      exact ⟨c :: b, ⟨List.cons_ne_nil _ _, hb⟩, ht, hr⟩
  · rintro ⟨b, hb, rfl, hr⟩
    rw [span_eq_iff.2 ⟨rfl, hb.blank, hr⟩]
    cases b with
    | nil => exact absurd rfl hb.ne_nil
    | cons c b => rfl

/-- Blanks end at the first character that is none. -/
theorem blanks?_append {b : Text} {c : Char} (hb : Blanks b) (hc : isBlank c = false) (r : Text) :
    blanks? (b ++ c :: r) = some (c :: r) :=
  blanks?_eq_some.2 ⟨b, hb, rfl, fun d hd => by rw [← Option.some.inj hd, hc]⟩

theorem quote?_eq_some : quote? t = some r ↔ ∃ q, isQuote q = true ∧ t = q :: r := by
  cases t with
  | nil =>
    constructor
    · intro h
      cases h
    · rintro ⟨q, -, h⟩
      cases h
  | cons c t =>
    rw [quote?]
    constructor
    · intro h
      split at h
      · rename_i hc
        exact ⟨c, hc, by rw [Option.some.inj h]⟩
      · cases h
    · rintro ⟨q, hq, h⟩
      obtain ⟨rfl, rfl⟩ := List.cons.inj h
      rw [if_pos hq]

theorem isBlank_of_isQuote {c : Char} (h : isQuote c = true) : isBlank c = false := by
  rw [isQuote, Bool.or_eq_true, decide_eq_true_eq, decide_eq_true_eq] at h
  rcases h with rfl | rfl
  · decide
  · decide

/-- The word `from` with blanks around it, and a quote. -/
def FromQuote (t : Text) : Prop :=
  ∃ b b' q, Blanks b ∧ Blanks b' ∧ isQuote q = true ∧ t = b ++ ("from" ++ (b' ++ [q]))

theorem from?_eq_some : from? t = some r ↔ ∃ f, FromQuote f ∧ t = f ++ r := by
  constructor
  · intro h
    obtain ⟨r₁, hblanks, h⟩ := Option.bind_eq_some_iff.1 h
    obtain ⟨r₂, hfrom, h⟩ := Option.bind_eq_some_iff.1 h
    obtain ⟨r₃, hblanks', hquote⟩ := Option.bind_eq_some_iff.1 h
    obtain ⟨b, hb, rfl, -⟩ := blanks?_eq_some.1 hblanks
    obtain rfl := after?_eq_some_iff.1 hfrom
    obtain ⟨b', hb', rfl, -⟩ := blanks?_eq_some.1 hblanks'
    obtain ⟨q, hq, rfl⟩ := quote?_eq_some.1 hquote
    exact ⟨_, ⟨b, b', q, hb, hb', hq, rfl⟩, by simp⟩
  · rintro ⟨f, ⟨b, b', q, hb, hb', hq, rfl⟩, rfl⟩
    have h₁ : blanks? (b ++ ("from" ++ (b' ++ q :: r))) = some ("from" ++ (b' ++ q :: r)) :=
      blanks?_append hb (by decide : isBlank 'f' = false) _
    have h₃ := blanks?_append hb' (isBlank_of_isQuote hq) r
    rw [List.append_assoc, List.append_assoc, List.append_assoc, List.singleton_append, from?]
    simp only [Option.bind_eq_bind, h₁, Option.bind_some, after?_append, h₃]
    exact quote?_eq_some.2 ⟨q, hq, rfl⟩

/-- The head of a text that begins with `from` is a blank. -/
theorem FromQuote.head? (h : FromQuote w) (r : Text) : ∃ c, (w ++ r).head? = some c ∧
    isBlank c = true := by
  obtain ⟨b, b', q, hb, -, -, rfl⟩ := h
  cases b with
  | nil => exact absurd rfl hb.ne_nil
  | cons c b => exact ⟨c, rfl, hb.blank c (List.mem_cons_self ..)⟩

theorem braced?_eq_some {inside : Text} : braced? t = some (inside, r) ↔
    '\x7d' ∉ inside ∧ t = '\x7b' :: (inside ++ '\x7d' :: r) := by
  constructor
  · intro h
    unfold braced? at h
    split at h
    · rename_i t'
      generalize hspan : t'.span (· ≠ '\x7d') = s at h
      obtain ⟨a, b⟩ := s
      cases b with
      | nil => cases h
      | cons c b =>
        obtain ⟨rfl, rfl⟩ := Prod.mk.inj (Option.some.inj h)
        obtain ⟨rfl, ha, hb⟩ := span_eq_iff.1 hspan
        have hc : c = '\x7d' := by simpa using hb c rfl
        exact ⟨fun hmem => by simpa using ha _ hmem, by rw [hc]⟩
    · cases h
  · rintro ⟨hinside, rfl⟩
    have hspan : (inside ++ '\x7d' :: r).span (· ≠ '\x7d') = (inside, '\x7d' :: r) :=
      span_eq_iff.2 ⟨rfl, fun c hc => decide_eq_true fun h => hinside (h ▸ hc),
        fun c hc => by obtain rfl := Option.some.inj hc; decide⟩
    rw [braced?, hspan]

/-- What is imported: names in braces, or a word without braces and blanks. -/
inductive Subject : Text → Prop
  | names {inside : Text} (h : '\x7d' ∉ inside) : Subject ('\x7b' :: (inside ++ ['\x7d']))
  | word {t : Text} (hne : t ≠ [])
      (h : ∀ c ∈ t, c ≠ '\x7b' ∧ c ≠ '\x7d' ∧ isBlank c = false) : Subject t

/-- The part of an import statement between the first word and the specifier. -/
theorem subject?_from?_eq_some : (subject? t).bind from? = some r ↔
    ∃ s f, Subject s ∧ FromQuote f ∧ t = s ++ (f ++ r) := by
  have hclass : ∀ c : Char, (c ≠ '\x7b' && c ≠ '\x7d' && !isBlank c) = true ↔
      c ≠ '\x7b' ∧ c ≠ '\x7d' ∧ isBlank c = false := fun c => by
    simp [and_assoc]
  constructor
  · intro h
    obtain ⟨r', hsubject, hfrom⟩ := Option.bind_eq_some_iff.1 h
    obtain ⟨f, hf, rfl⟩ := from?_eq_some.1 hfrom
    unfold subject? at hsubject
    split at hsubject
    · obtain ⟨⟨inside, r''⟩, hbraced, rfl⟩ := Option.map_eq_some_iff.1 hsubject
      obtain ⟨hinside, ht⟩ := braced?_eq_some.1 hbraced
      exact ⟨_, f, .names hinside, hf, by rw [ht]; simp⟩
    · generalize hspan : t.span (fun c => c ≠ '\x7b' && c ≠ '\x7d' && !isBlank c) = s at hsubject
      obtain ⟨a, b⟩ := s
      cases a with
      | nil => cases hsubject
      | cons c a =>
        obtain rfl := Option.some.inj hsubject
        obtain ⟨ht, ha, -⟩ := span_eq_iff.1 hspan
        exact ⟨c :: a, f, .word (List.cons_ne_nil _ _) fun d hd => (hclass d).1 (ha d hd), hf, ht⟩
  · rintro ⟨s, f, hs, hf, rfl⟩
    refine Option.bind_eq_some_iff.2 ⟨f ++ r, ?_, from?_eq_some.2 ⟨f, hf, rfl⟩⟩
    cases hs with
    | @names inside hinside =>
      have hbraced : braced? ('\x7b' :: (inside ++ '\x7d' :: (f ++ r))) = some (inside, f ++ r) :=
        braced?_eq_some.2 ⟨hinside, rfl⟩
      rw [List.cons_append, List.append_assoc, List.singleton_append, subject?, hbraced]
      rfl
    | @word s hne h =>
      obtain ⟨d, hd, hblank⟩ := hf.head? r
      have hspan : (s ++ (f ++ r)).span (fun c => c ≠ '\x7b' && c ≠ '\x7d' && !isBlank c) =
          (s, f ++ r) := span_eq_iff.2 ⟨rfl, fun c hc => (hclass c).2 (h c hc), fun c hc => by
        rw [hd] at hc
        obtain rfl := Option.some.inj hc
        rw [hblank, Bool.not_true, Bool.and_false]⟩
      unfold subject?
      split
      · rename_i t' heq
        cases s with
        | nil => exact absurd rfl hne
        | cons c s =>
          obtain ⟨rfl, -⟩ := List.cons.inj heq
          exact absurd rfl (h _ (List.mem_cons_self ..)).1
      · rw [hspan]
        cases s with
        | nil => exact absurd rfl hne
        | cons c s => rfl

/-- An import from a module nearby, and its specifier: the word `import`, blanks, a subject, the
word `from` with blanks around it, and between quotes a specifier that begins with a dot.  The
quotes need not be alike. -/
inductive NearbyForm : Text → Text → Prop
  | intro {b s f p : Text} {c q : Char} (hb : Blanks b) (hs : Subject s) (hf : FromQuote f)
      (hp : ∀ d ∈ c :: p, isQuote d = false) (hq : isQuote q = true) :
    NearbyForm ("import" ++ (b ++ (s ++ (f ++ '.' :: c :: (p ++ [q]))))) ('.' :: c :: p)

/-- An import of names from the shared package, and the text in its braces. -/
inductive PackageForm : Text → Text → Prop
  | intro {b inside f : Text} {q : Char} (hb : Blanks b) (hinside : '\x7d' ∉ inside)
      (hne : inside ≠ []) (hf : FromQuote f) (hq : isQuote q = true) :
    PackageForm ("import" ++ (b ++ '\x7b' :: (inside ++ '\x7d' :: (f ++ ("ui" ++ [q]))))) inside

theorem Subject.head? (h : Subject w) (r : Text) : ∀ c ∈ (w ++ r).head?, isBlank c = false := by
  cases h with
  | names hinside =>
    intro c hc
    obtain rfl := Option.some.inj hc
    decide
  | word hne h =>
    cases w with
    | nil => exact absurd rfl hne
    | cons d w =>
      intro c hc
      obtain rfl := Option.some.inj hc
      exact (h _ (List.mem_cons_self ..)).2.2

/-- **The scan reads imports from modules nearby** as they are written. -/
theorem nearby?_eq_some {p : Text} :
    nearby? t = some (p, r) ↔ ∃ w, NearbyForm w p ∧ t = w ++ r := by
  constructor
  · intro h
    obtain ⟨r₁, himport, h⟩ := Option.bind_eq_some_iff.1 h
    obtain ⟨r₂, hblanks, h⟩ := Option.bind_eq_some_iff.1 h
    obtain ⟨r₃, hsubject, h⟩ := Option.bind_eq_some_iff.1 h
    obtain ⟨r₄, hfrom, hpath⟩ := Option.bind_eq_some_iff.1 h
    obtain rfl := after?_eq_some_iff.1 himport
    obtain ⟨b, hb, rfl, -⟩ := blanks?_eq_some.1 hblanks
    obtain ⟨s, f, hs, hf, rfl⟩ :=
      subject?_from?_eq_some.1 (Option.bind_eq_some_iff.2 ⟨r₃, hsubject, hfrom⟩)
    split at hpath
    · rename_i r₅
      split at hpath
      · rename_i c path q r₆ hspan
        obtain ⟨rfl, rfl⟩ := Prod.mk.inj (Option.some.inj hpath)
        obtain ⟨rfl, hp, hq⟩ := span_eq_iff.1 hspan
        refine ⟨_, .intro (q := q) hb hs hf (fun d hd => ?_) ?_, by simp⟩
        · simpa using hp d hd
        · simpa using hq q rfl
      · cases hpath
    · cases hpath
  · rintro ⟨w, ⟨hb, hs, hf, hp, hq⟩, rfl⟩
    rename_i b s f p c q
    have hspan : (c :: (p ++ q :: r)).span (!isQuote ·) = (c :: p, q :: r) :=
      span_eq_iff.2 ⟨rfl, fun d hd => by rw [hp d hd]; rfl, fun d hd => by
        obtain rfl := Option.some.inj hd
        rw [hq]
        rfl⟩
    have hblanks : blanks? (b ++ (s ++ (f ++ '.' :: c :: (p ++ q :: r)))) =
        some (s ++ (f ++ '.' :: c :: (p ++ q :: r))) :=
      blanks?_eq_some.2 ⟨b, hb, rfl, hs.head? _⟩
    obtain ⟨r', hsubject, hfrom⟩ := Option.bind_eq_some_iff.1
      (subject?_from?_eq_some.2 ⟨s, f, hs, hf, rfl⟩ :
        (subject? (s ++ (f ++ '.' :: c :: (p ++ q :: r)))).bind from? = _)
    have ht : "import".toList ++ (b ++ (s ++ (f ++ '.' :: c :: (p ++ [q])))) ++ r =
        "import".toList ++ (b ++ (s ++ (f ++ '.' :: c :: (p ++ q :: r)))) := by simp
    rw [ht, nearby?]
    simp only [Option.bind_eq_bind, after?_append, Option.bind_some, hblanks, hsubject, hfrom,
      hspan]

/-- **The scan reads imports from the shared package** as they are written. -/
theorem package?_eq_some {inside : Text} :
    package? t = some (inside, r) ↔ ∃ w, PackageForm w inside ∧ t = w ++ r := by
  constructor
  · intro h
    obtain ⟨r₁, himport, h⟩ := Option.bind_eq_some_iff.1 h
    obtain ⟨r₂, hblanks, h⟩ := Option.bind_eq_some_iff.1 h
    obtain ⟨⟨inside', r₃⟩, hbraced, h⟩ := Option.bind_eq_some_iff.1 h
    dsimp only at h
    split at h
    · cases h
    · rename_i hne
      obtain ⟨r₄, hfrom, h⟩ := Option.bind_eq_some_iff.1 h
      obtain ⟨r₅, hui, h⟩ := Option.bind_eq_some_iff.1 h
      obtain ⟨r₆, hquote, h⟩ := Option.bind_eq_some_iff.1 h
      obtain ⟨rfl, rfl⟩ := Prod.mk.inj (Option.some.inj h)
      obtain rfl := after?_eq_some_iff.1 himport
      obtain ⟨b, hb, rfl, -⟩ := blanks?_eq_some.1 hblanks
      obtain ⟨hinside, rfl⟩ := braced?_eq_some.1 hbraced
      obtain ⟨f, hf, rfl⟩ := from?_eq_some.1 hfrom
      obtain rfl := after?_eq_some_iff.1 hui
      obtain ⟨q, hq, rfl⟩ := quote?_eq_some.1 hquote
      exact ⟨_, .intro hb hinside (fun h => hne (List.isEmpty_iff.2 h)) hf hq, by simp⟩
  · rintro ⟨w, ⟨hb, hinside, hne, hf, hq⟩, rfl⟩
    rename_i b f q
    have hblanks : blanks? (b ++ '\x7b' :: (inside ++ '\x7d' :: (f ++ ("ui" ++ q :: r)))) =
        some ('\x7b' :: (inside ++ '\x7d' :: (f ++ ("ui" ++ q :: r)))) :=
      blanks?_append hb (by decide) _
    have hbraced : braced? ('\x7b' :: (inside ++ '\x7d' :: (f ++ ("ui" ++ q :: r)))) =
        some (inside, f ++ ("ui" ++ q :: r)) := braced?_eq_some.2 ⟨hinside, rfl⟩
    have hfrom : from? (f ++ ("ui" ++ q :: r)) = some ("ui" ++ q :: r) :=
      from?_eq_some.2 ⟨f, hf, rfl⟩
    have hquote : quote? (q :: r) = some r := quote?_eq_some.2 ⟨q, hq, rfl⟩
    have hempty : inside.isEmpty = false := Bool.eq_false_iff.2 fun h => hne (List.isEmpty_iff.1 h)
    have ht : "import".toList ++
          (b ++ '\x7b' :: (inside ++ '\x7d' :: (f ++ ("ui".toList ++ [q])))) ++ r =
        "import".toList ++
          (b ++ '\x7b' :: (inside ++ '\x7d' :: (f ++ ("ui".toList ++ q :: r)))) := by simp
    rw [ht, package?]
    simp only [Option.bind_eq_bind, after?_append, Option.bind_some, hblanks, hbraced, hempty,
      hfrom, hquote, Bool.false_eq_true, if_false]

/-! ## 3.  Occurrences from left to right -/

section Occurrences

variable {α : Type} {form : Text → α → Prop} {recognise : Text → Option (α × Text)} {as : List α}

/-- What is found of some form in a text: nothing, if nothing in it is written so; else what the
first occurrence gives, and what is found behind it. -/
inductive Occurrences (form : Text → α → Prop) : Text → List α → Prop
  | done {t : Text} (hnone : ∀ x w y a, t = x ++ (w ++ y) → ¬ form w a) : Occurrences form t []
  | next {x w y : Text} {a : α} {as : List α} (hform : form w a)
      (hfirst : ∀ x' w' y' a', x ++ (w ++ y) = x' ++ (w' ++ y') → form w' a' →
        x.length ≤ x'.length)
      (hrest : Occurrences form y as) : Occurrences form (x ++ (w ++ y)) (a :: as)

/-- A recogniser that reads what is written in some form. -/
structure Recognises (recognise : Text → Option (α × Text)) (form : Text → α → Prop) : Prop where
  iff : ∀ {t a r}, recognise t = some (a, r) ↔ ∃ w, form w a ∧ t = w ++ r
  ne_nil : ∀ {w a}, form w a → w ≠ []

namespace Recognises

variable (h : Recognises recognise form)
include h

theorem recognise_append {a : α} (hform : form w a) (r : Text) :
    recognise (w ++ r) = some (a, r) := h.iff.2 ⟨w, hform, rfl⟩

theorem findFirst?_eq_none_iff : findFirst? recognise t = none ↔
    ∀ x w y a, t = x ++ (w ++ y) → ¬ form w a := by
  rw [Text.findFirst?_eq_none_iff]
  constructor
  · intro hnone x w y a ht hform
    have hsome := h.recognise_append hform y
    rw [hnone (w ++ y) ⟨x, ht.symm⟩] at hsome
    cases hsome
  · rintro hnone s ⟨x, rfl⟩
    cases hs : recognise s with
    | none => rfl
    | some found =>
      obtain ⟨a, r⟩ := found
      obtain ⟨w, hform, rfl⟩ := h.iff.1 hs
      exact absurd hform (hnone x w r a rfl)

/-- The first match is the first occurrence. -/
theorem findFirst?_eq_some_iff {a : α} : findFirst? recognise t = some (a, r) ↔
    ∃ x w, form w a ∧ t = x ++ (w ++ r) ∧
      ∀ x' w' y' a', t = x' ++ (w' ++ y') → form w' a' → x.length ≤ x'.length := by
  constructor
  · intro hfound
    obtain ⟨s, ⟨x, rfl⟩, hs, hfirst⟩ := exists_first_of_findFirst? hfound
    obtain ⟨w, hform, rfl⟩ := h.iff.1 hs
    refine ⟨x, w, hform, rfl, fun x' w' y' a' ht hform' => Nat.not_lt.1 fun hlt => ?_⟩
    have hsome := h.recognise_append hform' y'
    rw [hfirst (w' ++ y') ⟨x', ht.symm⟩ ?_] at hsome
    · cases hsome
    · have hlength := congrArg List.length ht
      simp only [List.length_append] at hlength ⊢
      omega
  · rintro ⟨x, w, hform, rfl, hfirst⟩
    rw [findFirst?_append, findFirst?_of_match (h.recognise_append hform r)]
    rintro z hz ⟨x', rfl⟩
    cases hs : recognise (z ++ (w ++ r)) with
    | none => rfl
    | some found =>
      obtain ⟨a', y'⟩ := found
      obtain ⟨w', hform', hw⟩ := h.iff.1 hs
      have hle := hfirst x' w' y' a' (by rw [List.append_assoc, hw]) hform'
      rw [List.length_append] at hle
      have hpos := List.length_pos_iff.2 hz
      omega

theorem occurrences_iff_findWithin {n : Nat} (hn : t.length ≤ n) :
    Occurrences form t as ↔ findWithin recognise n t = as := by
  induction n generalizing t as with
  | zero =>
    obtain rfl := List.length_eq_zero_iff.1 (Nat.le_zero.1 hn)
    have hnone : ∀ x w y a, [] = x ++ (w ++ y) → ¬ form w a := fun x w y a ht hform =>
      h.ne_nil hform (List.append_eq_nil_iff.1 (List.append_eq_nil_iff.1 ht.symm).2).1
    rw [findWithin]
    constructor
    · intro hocc
      generalize ht : ([] : Text) = t at hocc
      cases hocc with
      | done => rfl
      | next hform => exact absurd hform (hnone _ _ _ _ ht)
    · rintro rfl
      exact .done hnone
  | succ n ih =>
    rw [findWithin]
    cases hfound : findFirst? recognise t with
    | none =>
      have hnone := h.findFirst?_eq_none_iff.1 hfound
      constructor
      · intro hocc
        cases hocc with
        | done => rfl
        | next hform => exact absurd hform (hnone _ _ _ _ rfl)
      · rintro rfl
        exact .done hnone
    | some found =>
      obtain ⟨a, r⟩ := found
      obtain ⟨x, w, hform, rfl, hfirst⟩ := h.findFirst?_eq_some_iff.1 hfound
      have hr : r.length ≤ n := by
        have hpos := List.length_pos_iff.2 (h.ne_nil hform)
        rw [List.length_append, List.length_append] at hn
        omega
      constructor
      · intro hocc
        generalize ht : x ++ (w ++ r) = t at hocc
        cases hocc with
        | done hnone => exact absurd hform (hnone _ _ _ _ ht.symm)
        | @next x' w' y' a' as' hform' hfirst' hrest =>
          have hfound' := h.findFirst?_eq_some_iff.2 ⟨x', w', hform', rfl, hfirst'⟩
          rw [← ht, hfound] at hfound'
          obtain ⟨rfl, rfl⟩ := Prod.mk.inj (Option.some.inj hfound')
          exact congrArg _ ((ih hr).1 hrest)
      · rintro rfl
        exact .next hform hfirst ((ih hr).2 rfl)

/-- **All matches are the occurrences from left to right.** -/
theorem occurrences_iff : Occurrences form t as ↔ findAll recognise t = as :=
  h.occurrences_iff_findWithin (Nat.le_refl _)

/-- What stands in front of a text does not matter, if no occurrence begins in it. -/
theorem findAll_append {front : Text}
    (hfront : ∀ x, x ≠ [] → x <:+ front → recognise (x ++ t) = none) :
    findAll recognise (front ++ t) = findAll recognise t := by
  have henough : ∀ {s : Text} {n : Nat}, s.length ≤ n →
      findWithin recognise n s = findAll recognise s := fun hn =>
    (h.occurrences_iff_findWithin hn).1 (h.occurrences_iff.2 rfl)
  have hlength : t.length ≤ (front ++ t).length + 1 := by
    rw [List.length_append]
    omega
  rw [← henough (Nat.le_succ (front ++ t).length), ← henough hlength, findWithin, findWithin,
    findFirst?_append hfront]

end Recognises

end Occurrences

/-! ## 4.  Names -/

/-- The name that a binding in braces imports: the binding is none of a type, and the name is what
stands in front of the first ` as `, or all of it. -/
def Exports (binding name : Text) : Prop :=
  strip binding ≠ [] ∧ ¬ "type ".toList <+: strip binding ∧
    ((¬ " as ".toList <:+: strip binding ∧ name = strip binding) ∨
      ∃ a b, strip binding = a ++ (" as " ++ b) ∧
        (∀ x y, strip binding = x ++ (" as " ++ y) → a.length ≤ x.length) ∧ name = strip a)

theorem exported?_eq_some {binding name : Text} :
    exported? binding = some name ↔ Exports binding name := by
  have has : " as ".toList ≠ [] := by decide
  rw [exported?, Exports, Ne, ← List.isEmpty_iff, Text.startsWith, ← List.isPrefixOf_iff_prefix]
  split
  · rename_i hno
    rw [Bool.or_eq_true] at hno
    constructor
    · intro h
      cases h
    · rintro ⟨hne, htype, -⟩
      exact absurd hno (not_or.2 ⟨hne, htype⟩)
  · rename_i hno
    rw [Bool.or_eq_true, not_or] at hno
    rw [and_iff_right hno.1, and_iff_right hno.2]
    cases hcut : cut? " as " (strip binding) with
    | none =>
      have hnot := (cut?_eq_none_iff has).1 hcut
      dsimp only
      rw [Option.some.injEq, and_iff_right hnot]
      constructor
      · exact fun h => .inl h.symm
      · rintro (h | ⟨a, b, hab, -, -⟩)
        · exact h.symm
        · exact absurd ⟨a, b, by rw [hab, List.append_assoc]⟩ hnot
    | some found =>
      obtain ⟨a, b⟩ := found
      obtain ⟨hab, hfirst⟩ := (cut?_eq_some_iff has).1 hcut
      dsimp only
      rw [Option.some.injEq]
      constructor
      · exact fun h => .inr ⟨a, b, hab, hfirst, h.symm⟩
      · rintro (⟨hnot, -⟩ | ⟨a', b', hab', hfirst', rfl⟩)
        · exact absurd ⟨a, b, by rw [hab, List.append_assoc]⟩ hnot
        · have hcut' := (cut?_eq_some_iff has).2 ⟨hab', hfirst'⟩
          rw [(Prod.mk.inj (Option.some.inj (hcut.symm.trans hcut'))).1]

/-! ## 5.  What the scan reports -/

theorem recognises_nearby? : Recognises nearby? NearbyForm where
  iff := nearby?_eq_some
  ne_nil h := by
    cases h
    simp

theorem recognises_package? : Recognises package? PackageForm where
  iff := package?_eq_some
  ne_nil h := by
    cases h
    simp

/-- Nothing that is imported begins in a text without the letter that the word begins with. -/
theorem after?_import_eq_none {x front : Text} (hfront : 'i' ∉ front) (hx : x ≠ [])
    (hsuffix : x <:+ front) (r : Text) : after? "import" (x ++ r) = none := by
  cases x with
  | nil => exact absurd rfl hx
  | cons c x =>
    have hc : 'i' ≠ c := fun h => hfront (h ▸ hsuffix.subset (List.mem_cons_self ..))
    exact if_neg hc

/-- What the scan reports of a text: the specifiers and the names of what is written in it like an
import, from left to right, and nothing else.  Only the writing counts: what stands in front of it,
such as the mark of a comment or of a string, does not matter. -/
structure Reports (code : Text) (specifiers insides : List Text) : Prop where
  written : ∀ l, Occurrences NearbyForm code l ↔ l = specifiers
  braced : ∀ l, Occurrences PackageForm code l ↔ l = insides
  nearby : Scan.nearby code = specifiers.filter isCandidate
  names : ∀ name, name ∈ packageNames code ↔
    ∃ inside ∈ insides, ∃ binding ∈ splitAt ',' inside, Exports binding name
  once : (packageNames code).Nodup
  blind : ∀ front, 'i' ∉ front →
    Scan.nearby (front ++ code) = Scan.nearby code ∧
      packageNames (front ++ code) = packageNames code

/-- **What the scan reports of a text.** -/
theorem exists_reports (code : Text) : ∃ specifiers insides, Reports code specifiers insides := by
  refine ⟨findAll nearby? code, findAll package? code, fun l => ?_, fun l => ?_, rfl,
    fun name => ?_, ?_, fun front hfront => ?_⟩
  · rw [recognises_nearby?.occurrences_iff, eq_comm]
  · rw [recognises_package?.occurrences_iff, eq_comm]
  · rw [packageNames, distinct_eq, List.mem_eraseDups, List.mem_flatMap]
    refine exists_congr fun inside => and_congr_right fun _ => ?_
    rw [List.mem_filterMap]
    exact exists_congr fun binding => and_congr_right fun _ => exported?_eq_some
  · rw [packageNames, distinct_eq]
    exact List.nodup_eraseDups _
  · have hnone := fun x hx hsuffix => after?_import_eq_none (x := x) hfront hx hsuffix code
    rw [Scan.nearby, Scan.nearby, packageNames, packageNames,
      recognises_nearby?.findAll_append fun x hx hsuffix => by
        rw [nearby?, hnone x hx hsuffix]
        rfl,
      recognises_package?.findAll_append fun x hx hsuffix => by
        rw [package?, hnone x hx hsuffix]
        rfl]
    exact ⟨rfl, rfl⟩

/-! ## 6.  What is no import -/

/-- The text of an import statement. -/
def statement? : Syntax.Node → Option Text
  | .importStatement text _ => some text
  | _ => none

/-- Every specifier that is reported stands in an import statement of the tree. -/
def OnlyImported : Prop :=
  ∀ path code nodes, Syntax.read path code = .ok nodes → ∀ specifier ∈ Scan.nearby code,
    ∃ text ∈ nodes.filterMap statement?, specifier <:+: text

/-- Every name that is reported is one under which the tree imports something from the package. -/
def OnlyExported : Prop :=
  ∀ path code nodes, Syntax.read path code = .ok nodes → ∀ name ∈ packageNames code,
    ∃ b ∈ Syntax.Node.bindingsOf nodes, b.source = "ui".toList ∧ b.exported = name

/-- An import in a comment. -/
def commented : Text := "// import X from \"./Foo\""

/-- An import of a name under another one, with the line broken behind `as`. -/
def broken : Text := "import \x7b Link as\n  L \x7d from \"ui\""

/-- **The scan reports what is no import**: a specifier in a comment, and a name with the rest of
its binding. -/
theorem not_onlyImported : ¬ OnlyImported ∧ ¬ OnlyExported := by
  have hcomment : ((Syntax.read "a.tsx" commented).toOption.any fun nodes =>
      (nodes.filterMap statement?).isEmpty) = true ∧
        "./Foo".toList ∈ Scan.nearby commented := by decide +kernel
  have hbroken : ((Syntax.read "a.tsx" broken).toOption.any fun nodes =>
      (Syntax.Node.bindingsOf nodes).map Binding.exported = ["Link".toList]) = true ∧
        "Link as\n  L".toList ∈ packageNames broken := by decide +kernel
  constructor
  · intro honly
    obtain ⟨hread, hmem⟩ := hcomment
    obtain ⟨nodes, hread, hnone⟩ := Except.exists_of_any hread
    obtain ⟨text, htext, -⟩ := honly _ _ nodes hread _ hmem
    rw [List.isEmpty_iff.1 hnone] at htext
    cases htext
  · intro honly
    obtain ⟨hread, hmem⟩ := hbroken
    obtain ⟨nodes, hread, hnames⟩ := Except.exists_of_any hread
    obtain ⟨b, hb, -, hname⟩ := honly _ _ nodes hread _ hmem
    have hin := List.mem_map_of_mem (f := Binding.exported) hb
    rw [of_decide_eq_true hnames, hname] at hin
    exact absurd hin (by decide)

end Scan

end UiHarness
