import UiHarness.Text

/-!
# Patterns of characters

A pattern stands for a set of texts.  It is matched one character at a time: behind a first
character there are a few patterns, of which one has to match the rest.  So a text can be matched
against many patterns at once, and the longest match be found without going back.

* `Pattern`: the patterns.
* `Pattern.Matches`: the texts that a pattern stands for.
* `Pattern.step`: what may follow a first character.
* `Pattern.acceptsEmpty`: whether a pattern may end here.
-/

namespace UiHarness.Syntax

/-- A set of texts. -/
inductive Pattern where
  /-- Exactly this text. -/
  | text (t : Text)
  /-- One character of a class. -/
  | oneOf (accepts : Char → Bool)
  /-- One pattern behind the other. -/
  | both (p q : Pattern)
  /-- One of two patterns. -/
  | either (p q : Pattern)
  /-- A pattern any number of times. -/
  | many (p : Pattern)

namespace Pattern

/-! ## 1.  Matching -/

/-- Whether a pattern matches the empty text. -/
def acceptsEmpty : Pattern → Bool
  | text t => t.isEmpty
  | oneOf _ => false
  | both p q => p.acceptsEmpty && q.acceptsEmpty
  | either p q => p.acceptsEmpty || q.acceptsEmpty
  | many _ => true

/-- The patterns of which one has to match what follows the character `c`. -/
def step (c : Char) : Pattern → List Pattern
  | text [] => []
  | text (d :: t) => if c = d then [text t] else []
  | oneOf accepts => if accepts c then [text []] else []
  | both p q =>
    (p.step c).map (fun r => both r q) ++ if p.acceptsEmpty then q.step c else []
  | either p q => p.step c ++ q.step c
  | many p => (p.step c).map fun r => both r (many p)

/-- The texts that a pattern stands for. -/
inductive Matches : Pattern → Text → Prop
  | text (t : Text) : Matches (text t) t
  | oneOf {accepts : Char → Bool} {c : Char} (h : accepts c = true) : Matches (oneOf accepts) [c]
  | both {p q : Pattern} {s t : Text} (hs : Matches p s) (ht : Matches q t) :
      Matches (both p q) (s ++ t)
  | left {p : Pattern} (q : Pattern) {t : Text} (h : Matches p t) : Matches (either p q) t
  | right (p : Pattern) {q : Pattern} {t : Text} (h : Matches q t) : Matches (either p q) t
  | none (p : Pattern) : Matches (many p) []
  | more {p : Pattern} {s t : Text} (hs : Matches p s) (ht : Matches (many p) t) :
      Matches (many p) (s ++ t)

/-- `acceptsEmpty` decides whether the empty text matches. -/
theorem matches_nil_iff {p : Pattern} : p.Matches [] ↔ p.acceptsEmpty = true := by
  constructor
  · intro h
    generalize eq : ([] : Text) = t at h
    induction h with
    | text t => simp [acceptsEmpty, ← eq]
    | oneOf h => cases eq
    | both _ _ hs ht =>
      have := List.append_eq_nil_iff.1 eq.symm
      simp [acceptsEmpty, hs this.1.symm, ht this.2.symm]
    | left q _ ih => simp [acceptsEmpty, ih eq]
    | right p _ ih => simp [acceptsEmpty, ih eq]
    | none p => rfl
    | more _ _ _ _ => rfl
  · intro h
    induction p with
    | text t =>
      have : t = [] := List.isEmpty_iff.1 h
      exact this ▸ .text []
    | oneOf _ => cases h
    | both p q hp hq =>
      have h := Bool.and_eq_true_iff.1 h
      exact .both (s := []) (t := []) (hp h.1) (hq h.2)
    | either p q hp hq =>
      rcases Bool.or_eq_true_iff.1 h with h | h
      · exact .left q (hp h)
      · exact .right p (hq h)
    | many p _ => exact .none p

/-- `step` says what may follow a character. -/
theorem matches_cons_iff {p : Pattern} {c : Char} {t : Text} :
    p.Matches (c :: t) ↔ ∃ r ∈ p.step c, r.Matches t := by
  constructor
  · intro h
    generalize eq : c :: t = u at h
    induction h generalizing t with
    | text u => exact ⟨.text t, by simp [step, ← eq], .text t⟩
    | oneOf h =>
      cases eq
      exact ⟨.text [], by simp [step, h], .text []⟩
    | @both p q s u hs ht ihs iht =>
      cases s with
      | nil =>
        obtain ⟨r, hr, hm⟩ := iht eq
        exact ⟨r, by simp [step, matches_nil_iff.1 hs, hr], hm⟩
      | cons d s =>
        cases eq
        obtain ⟨r, hr, hm⟩ := ihs rfl
        exact ⟨.both r q, by simp [step, hr], .both hm ht⟩
    | left q _ ih =>
      obtain ⟨r, hr, hm⟩ := ih eq
      exact ⟨r, by simp [step, hr], hm⟩
    | right p _ ih =>
      obtain ⟨r, hr, hm⟩ := ih eq
      exact ⟨r, by simp [step, hr], hm⟩
    | none p => cases eq
    | @more p s u hs ht ihs iht =>
      cases s with
      | nil => exact iht eq
      | cons d s =>
        cases eq
        obtain ⟨r, hr, hm⟩ := ihs rfl
        exact ⟨.both r (many p), by simp [step, hr], .both hm ht⟩
  · rintro ⟨r, hr, hm⟩
    induction p generalizing r t with
    | text u =>
      cases u with
      | nil => cases hr
      | cons d u =>
        simp only [step] at hr
        split at hr
        · next same =>
          obtain rfl := List.mem_singleton.1 hr
          cases hm
          exact same ▸ .text _
        · cases hr
    | oneOf accepts =>
      simp only [step] at hr
      split at hr
      · next h =>
        obtain rfl := List.mem_singleton.1 hr
        cases hm
        exact .oneOf h
      · cases hr
    | both p q hp hq =>
      rcases List.mem_append.1 hr with hr | hr
      · obtain ⟨s, hs, rfl⟩ := List.mem_map.1 hr
        cases hm with
        | both hs' ht' => exact .both (s := _ :: _) (hp s hs hs') ht'
      · split at hr
        · next empty => exact .both (s := []) (matches_nil_iff.2 empty) (hq r hr hm)
        · cases hr
    | either p q hp hq =>
      rcases List.mem_append.1 hr with hr | hr
      · exact .left q (hp r hr hm)
      · exact .right p (hq r hr hm)
    | many p hp =>
      obtain ⟨s, hs, rfl⟩ := List.mem_map.1 hr
      cases hm with
      | both hs' ht' => exact .more (s := _ :: _) (hp s hs hs') ht'

/-! ## 2.  Building patterns -/

/-- The empty text. -/
def nothing : Pattern := text []

/-- A pattern or nothing. -/
def maybe (p : Pattern) : Pattern := either p nothing

/-- A pattern at least once. -/
def some (p : Pattern) : Pattern := both p (many p)

/-- Patterns one behind the other. -/
def all : List Pattern → Pattern
  | [] => nothing
  | [p] => p
  | p :: ps => both p (all ps)

/-- One of several patterns. -/
def any : List Pattern → Pattern
  | [] => oneOf fun _ => false
  | [p] => p
  | p :: ps => either p (any ps)

/-- A pattern from one time up to `n + 1` times. -/
def upTo (p : Pattern) : Nat → Pattern
  | 0 => p
  | n + 1 => both p (maybe (upTo p n))

/-- A pattern `n` times. -/
def times (p : Pattern) (n : Nat) : Pattern := all (List.replicate n p)

end Pattern

end UiHarness.Syntax
