import Mathlib.Data.List.Forall2
import UiHarness.Hook.Kebab
import UiHarness.Proofs.Imports.Occurrences
import UiHarness.Proofs.Text.Splice

/-!
# Where the words of a name begin

A name is cut into words in two runs: rows of capitals first, each before its last capital, and then
whatever small letter or digit has a capital behind it.  The first run looks for the longest row
each time, and the second one sees the hyphens of the first.  In the end only the neighbours of a
capital matter, and each hyphen can be told from the name as it was.

Hyphens for dots are put in before lower case is, and this matters: a dot is passed over when lower
case looks for the end of a word, and a hyphen is not.

* `Hook.startsWord`: the places of a name at which a word begins.
* `Hook.separated`: the name with hyphens at these places, and nothing else.
* `Hook.separate_separate`: the two runs are one.
* `Hook.kebab_law`: the name in lower case is that of the separated name.
-/

namespace UiHarness.Hook

open Text

/-! ## 1.  The law -/

/-- Whether a word begins at a place of a name, other than the first: there is a capital, and in
front of it a small letter or a digit, or another capital if there is a small letter behind it. -/
def startsWord (name : Text) (i : Nat) : Bool :=
  1 ≤ i && name[i]?.any isUpperAscii &&
    (name[i - 1]?.any (fun a => isLowerAscii a || isDigitAscii a) ||
      name[i - 1]?.any isUpperAscii && name[i + 1]?.any isLowerAscii)

/-- What stands in front of a place of a separated name. -/
def separator (name : Text) (i : Nat) : Text := if startsWord name i then ['-'] else []

/-- A name with a hyphen in front of each word but the first. -/
def separated (name : Text) : Text := splice (separator name) 0 name

/-! ## 2.  Rules for neighbours -/

theorem isUpperAscii_iff {c : Char} : isUpperAscii c = true ↔ 'A' ≤ c ∧ c ≤ 'Z' := by
  rw [isUpperAscii, Bool.and_eq_true, decide_eq_true_eq, decide_eq_true_eq]

/-- A small letter is no capital. -/
theorem isUpperAscii_of_isLowerAscii {c : Char} (h : isLowerAscii c = true) :
    isUpperAscii c = false := by
  rw [isLowerAscii, Bool.and_eq_true, decide_eq_true_eq] at h
  refine Bool.eq_false_iff.2 fun hupper => ?_
  exact absurd (Char.le_trans h.1 (isUpperAscii_iff.1 hupper).2) (by decide)

/-- A capital is no small letter. -/
theorem isLowerAscii_of_isUpperAscii {c : Char} (h : isUpperAscii c = true) :
    isLowerAscii c = false := by
  refine Bool.eq_false_iff.2 fun hlower => ?_
  rw [isUpperAscii_of_isLowerAscii hlower] at h
  cases h

/-- A digit is no capital. -/
theorem isUpperAscii_of_isDigitAscii {c : Char} (h : isDigitAscii c = true) :
    isUpperAscii c = false := by
  rw [isDigitAscii, Bool.and_eq_true, decide_eq_true_eq, decide_eq_true_eq] at h
  refine Bool.eq_false_iff.2 fun hupper => ?_
  exact absurd (Char.le_trans (isUpperAscii_iff.1 hupper).1 h.2) (by decide)

/-- Whether a hyphen belongs in front of a character, by its neighbours. -/
abbrev Rule := Option Char → Char → Option Char → Bool

/-- The last capital of a row with a small letter behind it. -/
def endsRow : Rule := fun a b c => a.any isUpperAscii && isUpperAscii b && c.any isLowerAscii

/-- A capital behind a small letter or a digit. -/
def endsWord : Rule := fun a b _ => a.any (fun a => isLowerAscii a || isDigitAscii a) &&
  isUpperAscii b

/-- A text with hyphens where a rule asks for them, behind a given character. -/
def separate (rule : Rule) (before : Option Char) : Text → Text
  | [] => []
  | c :: t =>
    if rule before c t.head? then '-' :: c :: separate rule (some c) t
    else c :: separate rule (some c) t

variable {rule : Rule} {before : Option Char} {c : Char} {t : Text}

theorem separate_of_pos (h : rule before c t.head? = true) :
    separate rule before (c :: t) = '-' :: c :: separate rule (some c) t := by
  rw [separate, if_pos h]

theorem separate_of_neg (h : rule before c t.head? = false) :
    separate rule before (c :: t) = c :: separate rule (some c) t := by
  rw [separate, h, if_neg Bool.false_ne_true]

/-- Behind a capital no word ends. -/
theorem endsWord_of_isUpperAscii {a : Option Char} {b : Char} (h : isUpperAscii b = true) :
    endsWord (some b) c a = false := by
  refine Bool.eq_false_iff.2 fun hword => ?_
  rw [endsWord, Bool.and_eq_true, Option.any_some, Bool.or_eq_true] at hword
  rcases hword.1 with hb | hb
  · rw [isUpperAscii_of_isLowerAscii hb] at h
    cases h
  · rw [isUpperAscii_of_isDigitAscii hb] at h
    cases h

/-- **Two runs are one**: behind a hyphen of the first run the second one puts no other. -/
theorem separate_separate (before : Option Char) (t : Text) :
    separate endsWord before (separate endsRow before t) =
      separate (fun a b c => endsRow a b c || endsWord a b c) before t := by
  induction t generalizing before with
  | nil => rfl
  | cons c t ih =>
    cases hrow : endsRow before c t.head? with
    | true =>
      have hhyphen : endsWord before '-' (some c) = false := Bool.and_false _
      have hbehind : endsWord (some '-') c (separate endsRow (some c) t).head? = false := by
        rw [endsWord, Option.any_some, (by decide : isLowerAscii '-' = false),
          (by decide : isDigitAscii '-' = false), Bool.or_self, Bool.false_and]
      rw [separate_of_pos hrow, separate_of_neg hhyphen, separate_of_neg hbehind, ih,
        separate_of_pos (by rw [hrow, Bool.true_or])]
    | false =>
      -- what stands behind the character does not matter in the second run
      have hsame : endsWord before c (separate endsRow (some c) t).head? =
          endsWord before c t.head? := rfl
      rw [separate_of_neg hrow]
      cases hword : endsWord before c t.head? with
      | true =>
        rw [separate_of_pos (hsame.trans hword), ih,
          separate_of_pos (by rw [hword, Bool.or_true])]
      | false =>
        rw [separate_of_neg (hsame.trans hword), ih,
          separate_of_neg (by rw [hrow, hword, Bool.or_self])]

/-! ## 3.  The first run -/

/-- Capitals and a small letter behind them. -/
def IsRow (t : Text) : Prop :=
  ∃ front last c rest, t = front ++ last :: c :: rest ∧ (∀ a ∈ front, isUpperAscii a = true) ∧
    isUpperAscii last = true ∧ isLowerAscii c = true

theorem acronym?_eq_some {new rest : Text} : acronym? t = some (new, rest) ↔
    ∃ a front last c, t = a :: (front ++ last :: c :: rest) ∧
      (∀ b ∈ a :: front, isUpperAscii b = true) ∧ isUpperAscii last = true ∧
      isLowerAscii c = true ∧ new = a :: (front ++ ['-', last, c]) := by
  constructor
  · intro h
    unfold acronym? at h
    split at h
    · rename_i capitals c behind hspan
      obtain ⟨rfl, hcapitals, -⟩ := span_eq_iff.1 hspan
      split at h
      · rename_i a front last hfront hlast
        split at h
        · rename_i hc
          obtain ⟨rfl, rfl⟩ := Prod.mk.inj (Option.some.inj h)
          have happend : a :: front ++ [last] = capitals := by
            rw [← hfront]
            exact List.dropLast_append_getLast? last hlast
          refine ⟨a, front, last, c, ?_, fun b hb => hcapitals b ?_, hcapitals last ?_, hc, rfl⟩
          · rw [← happend]
            simp
          · rw [← happend]
            exact List.mem_append_left _ hb
          · rw [← happend]
            exact List.mem_append_right _ (List.mem_singleton_self _)
        · cases h
      · cases h
    · cases h
  · rintro ⟨a, front, last, c, rfl, hfront, hlast, hc, rfl⟩
    have hspan : (a :: (front ++ last :: c :: rest)).span isUpperAscii =
        (a :: front ++ [last], c :: rest) := by
      refine span_eq_iff.2 ⟨by simp, fun b hb => ?_, fun b hb => ?_⟩
      · rcases List.mem_append.1 hb with hb | hb
        · exact hfront b hb
        · rw [List.mem_singleton.1 hb, hlast]
      · rw [← Option.some.inj hb, isUpperAscii_of_isLowerAscii hc]
    have hdrop : (a :: front ++ [last]).dropLast = a :: front := List.dropLast_concat
    have hget : (a :: front ++ [last]).getLast? = some last := List.getLast?_concat
    rw [acronym?, hspan]
    dsimp only
    rw [hdrop, hget]
    exact if_pos hc

/-- A capital in front of a row makes a longer one. -/
theorem exists_acronym? (hc : isUpperAscii c = true) (h : IsRow t) :
    ∃ found, acronym? (c :: t) = some found := by
  obtain ⟨front, last, d, rest, rfl, hfront, hlast, hd⟩ := h
  exact ⟨_, acronym?_eq_some.2 ⟨c, front, last, d, rfl, List.forall_mem_cons.2 ⟨hc, hfront⟩, hlast,
    hd, rfl⟩⟩

/-- A row behind a capital is cut before its last capital. -/
theorem separate_row {a last : Char} {front rest : Text} (ha : isUpperAscii a = true)
    (hfront : ∀ b ∈ front, isUpperAscii b = true) (hlast : isUpperAscii last = true)
    (hc : isLowerAscii c = true) :
    separate endsRow (some a) (front ++ last :: c :: rest) =
      front ++ '-' :: last :: c :: separate endsRow (some c) rest := by
  induction front generalizing a with
  | nil =>
    have hpos : endsRow (some a) last (c :: rest).head? = true := by
      rw [endsRow, List.head?_cons, Option.any_some, Option.any_some, ha, hlast, hc]
      rfl
    have hneg : endsRow (some last) c rest.head? = false := by
      rw [endsRow, isUpperAscii_of_isLowerAscii hc, Bool.and_false, Bool.false_and]
    rw [List.nil_append, List.nil_append, separate_of_pos hpos, separate_of_neg hneg]
  | cons b front ih =>
    have hfront := List.forall_mem_cons.1 hfront
    have hnext : (front ++ last :: c :: rest).head?.any isLowerAscii = false := by
      cases front with
      | nil => exact isLowerAscii_of_isUpperAscii hlast
      | cons d front =>
        exact isLowerAscii_of_isUpperAscii (hfront.2 d (List.mem_cons_self ..))
    have hneg : endsRow (some a) b (front ++ last :: c :: rest).head? = false := by
      rw [endsRow, hnext, Bool.and_false]
    rw [List.cons_append, separate_of_neg hneg, ih hfront.1 hfront.2, List.cons_append]

/-- **The first run** puts a hyphen before the last capital of each row.  The search is never in the
middle of a row that it has not refused. -/
theorem substituteWithin_acronym? {n : Nat} (hn : t.length ≤ n)
    (hbefore : IsRow t → before.any isUpperAscii = false) :
    substituteWithin acronym? n t = separate endsRow before t := by
  induction n generalizing t before with
  | zero =>
    obtain rfl := List.length_eq_zero_iff.1 (Nat.le_zero.1 hn)
    rfl
  | succ n ih =>
    cases t with
    | nil => rfl
    | cons a t =>
      rw [List.length_cons] at hn
      rw [substituteWithin]
      cases hfound : acronym? (a :: t) with
      | some found =>
        obtain ⟨new, rest⟩ := found
        obtain ⟨a', front, last, c, ht, hfront, hlast, hc, rfl⟩ := acronym?_eq_some.1 hfound
        obtain ⟨rfl, rfl⟩ := List.cons.inj ht
        have hneg : endsRow before a (front ++ last :: c :: rest).head? = false := by
          rw [endsRow, hbefore ⟨a :: front, last, c, rest, rfl, hfront, hlast, hc⟩, Bool.false_and,
            Bool.false_and]
        have hrest : substituteWithin acronym? n rest = separate endsRow (some c) rest := by
          refine ih ?_ fun _ => isUpperAscii_of_isLowerAscii hc
          rw [List.length_append, List.length_cons, List.length_cons] at hn
          omega
        have hfront := List.forall_mem_cons.1 hfront
        dsimp only
        rw [hrest, separate_of_neg hneg, separate_row hfront.1 hfront.2 hlast hc]
        simp
      | none =>
        have hnot : isUpperAscii a = true → ¬ IsRow t := fun ha hrow => by
          obtain ⟨found, hsome⟩ := exists_acronym? ha hrow
          rw [hfound] at hsome
          cases hsome
        have hneg : endsRow before a t.head? = false := by
          refine Bool.eq_false_iff.2 fun hpos => ?_
          rw [endsRow, Bool.and_eq_true, Bool.and_eq_true] at hpos
          cases t with
          | nil => cases hpos.2
          | cons c t =>
            have hno := hbefore ⟨[], a, c, t, rfl, fun b hb => absurd hb List.not_mem_nil, hpos.1.2,
              hpos.2⟩
            rw [hpos.1.1] at hno
            cases hno
        dsimp only
        have hnext : IsRow t → (some a).any isUpperAscii = false := fun hrow =>
          Bool.eq_false_iff.2 fun ha => hnot ha hrow
        rw [separate_of_neg hneg, ih (by omega) hnext]

/-! ## 4.  The second run -/

theorem wordEnd?_cons_cons (a b : Char) (rest : Text) : wordEnd? (a :: b :: rest) =
    if endsWord (some a) b rest.head? then some ([a, '-', b], rest) else none := rfl

/-- **The second run** puts a hyphen behind each small letter or digit with a capital behind it. -/
theorem substituteWithin_wordEnd? {n : Nat} (hn : t.length ≤ n)
    (hbefore : ∀ c ∈ t.head?, endsWord before c none = false) :
    substituteWithin wordEnd? n t = separate endsWord before t := by
  induction n generalizing t before with
  | zero =>
    obtain rfl := List.length_eq_zero_iff.1 (Nat.le_zero.1 hn)
    rfl
  | succ n ih =>
    cases t with
    | nil => rfl
    | cons a t =>
      have hneg : endsWord before a t.head? = false := hbefore a rfl
      rw [List.length_cons] at hn
      rw [substituteWithin, separate_of_neg hneg]
      cases t with
      | nil =>
        cases n with
        | zero => rfl
        | succ n => rfl
      | cons b rest =>
        rw [wordEnd?_cons_cons]
        cases hword : endsWord (some a) b rest.head? with
        | true =>
          have hb : isUpperAscii b = true := (Bool.and_eq_true_iff.1 hword).2
          have hrest : substituteWithin wordEnd? n rest = separate endsWord (some b) rest := by
            rw [List.length_cons] at hn
            exact ih (by omega) fun c _ => endsWord_of_isUpperAscii hb
          rw [if_pos rfl, separate_of_pos hword]
          dsimp only
          rw [hrest]
          rfl
        | false =>
          rw [if_neg Bool.false_ne_true]
          dsimp only
          rw [ih (by omega) fun c hc => by rw [← Option.some.inj hc]; exact hword]

/-! ## 5.  The places of words -/

/-- The character in front of a place. -/
theorem getElem?_pred (front : Text) (t : Text) (h : front ≠ []) :
    (front ++ t)[front.length - 1]? = front.getLast? := by
  have hpos := List.length_pos_iff.2 h
  rw [List.getElem?_append_left (by omega), List.getLast?_eq_getElem?]

/-- Whether a word begins at a place is told by the neighbours. -/
theorem startsWord_append (front : Text) (c : Char) (t : Text) :
    startsWord (front ++ c :: t) front.length =
      (endsRow front.getLast? c t.head? || endsWord front.getLast? c t.head?) := by
  have hhere : (front ++ c :: t)[front.length]? = some c := by
    rw [List.getElem?_append_right (Nat.le_refl _), Nat.sub_self, List.getElem?_cons_zero]
  have hbehind : (front ++ c :: t)[front.length + 1]? = t.head? := by
    rw [List.getElem?_append_right (Nat.le_add_right _ _), Nat.add_sub_cancel_left,
      List.getElem?_cons_succ, List.head?_eq_getElem?]
  cases front with
  | nil => rfl
  | cons a front =>
    have hfront := getElem?_pred (a :: front) (c :: t) (List.cons_ne_nil _ _)
    rw [startsWord, hhere, hbehind, hfront, endsRow, endsWord, Option.any_some]
    cases isUpperAscii c with
    | false => simp
    | true => simp [Bool.or_comm]

/-- Behind the end of a name no word begins. -/
theorem separator_length (name : Text) : separator name name.length = [] := by
  rw [separator, startsWord, List.getElem?_eq_none (Nat.le_refl _), Option.any_none, Bool.and_false,
    Bool.false_and, if_neg Bool.false_ne_true]

/-- Hyphens at the places of words are those that the rules ask for. -/
theorem splice_separator (front t : Text) :
    splice (separator (front ++ t)) front.length t =
      separate (fun a b c => endsRow a b c || endsWord a b c) front.getLast? t := by
  induction t generalizing front with
  | nil => rw [List.append_nil, splice_nil, separator_length, separate]
  | cons c t ih =>
    have hrest := ih (front ++ [c])
    rw [List.append_assoc, List.singleton_append, List.length_append, List.length_singleton,
      List.getLast?_concat] at hrest
    rw [splice_cons, hrest, separate, separator, startsWord_append]
    split
    · rfl
    · rfl

/-- **The two runs together** put hyphens at the places of words. -/
theorem substituteAll_substituteAll (name : Text) :
    substituteAll wordEnd? (substituteAll acronym? name) = separated name := by
  have hrow : substituteAll acronym? name = separate endsRow none name :=
    substituteWithin_acronym? (Nat.le_refl _) fun _ => rfl
  have hword : ∀ t, substituteAll wordEnd? t = separate endsWord none t := fun t =>
    substituteWithin_wordEnd? (Nat.le_refl _) fun _ _ => rfl
  rw [hrow, hword, separate_separate]
  exact (splice_separator [] name).symm

/-! ## 6.  Names in lower case -/

/-- Each character of a text, in order, becomes at least one in lower case. -/
theorem exists_lowerFrom (before t : Text) : ∃ pieces,
    List.Forall₂ (fun c piece => piece ≠ [] ∧ ∃ a b, piece = lowerChar a c b) t pieces ∧
      lowerFrom before t = pieces.flatten := by
  induction t generalizing before with
  | nil => exact ⟨[], .nil, rfl⟩
  | cons c t ih =>
    obtain ⟨pieces, hpieces, hflatten⟩ := ih (c :: before)
    refine ⟨lowerChar before c t :: pieces, .cons ⟨?_, before, t, rfl⟩ hpieces, ?_⟩
    · rw [lowerChar]
      repeat' split
      all_goals exact List.cons_ne_nil _ _
    · rw [lowerFrom, hflatten, List.flatten_cons]

/-- The law of a name in lower case with hyphens. -/
structure KebabLaw (name : Text) : Prop where
  /-- It is the separated name, with hyphens for dots and underscores, in lower case. -/
  law : kebab name = lower ((separated name).map hyphenate)
  /-- The separated name is the name with nothing put in but a hyphen at each place of a word. -/
  inserted : Inserted ((List.range (name.length + 1)).map (separator name)) name (separated name)
  /-- Each of its characters is there in lower case, once and in its order. -/
  lowered : ∃ pieces, List.Forall₂ (fun c piece => piece ≠ [] ∧
      ∃ a b, piece = lowerChar a (hyphenate c) b) (separated name) pieces ∧
    kebab name = pieces.flatten

/-- **The law of names in lower case with hyphens.** -/
theorem kebab_law (name : Text) : KebabLaw name := by
  have hlaw : kebab name = lower ((separated name).map hyphenate) := by
    rw [kebab, substituteAll_substituteAll]
  refine ⟨hlaw, ?_, ?_⟩
  · rw [List.range_eq_range']
    exact inserted_splice (separator name) 0 name
  · obtain ⟨pieces, hpieces, hflatten⟩ := exists_lowerFrom [] ((separated name).map hyphenate)
    exact ⟨pieces, List.forall₂_map_left_iff.1 hpieces, hlaw.trans hflatten⟩

example : kebab "HTMLTable2Row.Cell_X" = "html-table2-row-cell-x".toList := by decide +kernel

/-- A sigma in front of a hyphen ends a word, and one in front of a dot does not. -/
example : lower ("A\u03a3.B".toList.map hyphenate) ≠ (lower "A\u03a3.B").map hyphenate := by
  decide +kernel

end UiHarness.Hook
