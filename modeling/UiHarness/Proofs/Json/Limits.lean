import Mathlib.Data.List.TakeDrop
import Mathlib.Data.List.TakeWhile
import UiHarness.Json.Parser

/-!
# The limits of reading JSON

Reading JSON fails at a defect, or because one of two limits is met: an integer has too many digits,
or too many members are inside each other.  Only a text that reaches a limit meets it.  An integer
that is too long stands in the text with all its digits, and each level of members has its own
opening bracket in the text.

The readers are gone through from the smallest to the whole.  Each leaves an end of the text that it
was given, so what stands in the rest stands in the text, and one invariant carries all of them.

* `Json.Within`: what is known of a reading, and `Json.Within.bind`, by which readings are chained.
* `Json.within_value`: it is known of the reading of values.
* `Json.hasLongRun_of_parse`, `Json.brackets_of_parse`: what stands in a text that meets a limit.
-/

namespace UiHarness.Json

/-! ## 1.  Readings -/

/-- The number of brackets and braces that are opened in a text. -/
def brackets (t : Text) : Nat := t.countP fun c => c = '[' || c = '\x7b'

/-- A run of more digits than an integer may have. -/
def HasLongRun (t : Text) : Prop :=
  ∃ ds, ds <:+: t ∧ (∀ c ∈ ds, Text.isDigitAscii c = true) ∧ digitLimit < ds.length

/-- What is known of a reading of a text in which members may be `depth` levels inside each other:
it leaves an end of the text, and it meets a limit only if the text reaches it. -/
def Within {α : Type} (depth : Nat) (t : Text) : Except Failure (α × Text) → Prop
  | .ok (_, r) => r <:+ t
  | .error (.defect _ _) => True
  | .error (.longInteger _) => HasLongRun t
  | .error .tooDeep => depth < brackets t

variable {α β : Type} {depth : Nat} {t r : Text}

theorem brackets_le_of_suffix (h : r <:+ t) : brackets r ≤ brackets t :=
  h.sublist.countP_le

theorem HasLongRun.of_suffix (h : HasLongRun r) (hr : r <:+ t) : HasLongRun t := by
  obtain ⟨ds, hds, hdigits, hlong⟩ := h
  exact ⟨ds, hds.trans hr.isInfix, hdigits, hlong⟩

/-- What is known of a reading of an end is known of the text. -/
theorem Within.of_suffix {x : Except Failure (α × Text)} (h : Within depth r x) (hr : r <:+ t) :
    Within depth t x := by
  match x, h with
  | .ok _, h => exact List.IsSuffix.trans h hr
  | .error (.defect _ _), _ => exact True.intro
  | .error (.longInteger _), h => exact HasLongRun.of_suffix h hr
  | .error .tooDeep, h => exact Nat.lt_of_lt_of_le h (brackets_le_of_suffix hr)

/-- **Readings are chained**: what comes after is known of the end that was left. -/
theorem Within.bind {x : Except Failure (α × Text)} {f : α × Text → Except Failure (β × Text)}
    (hx : Within depth t x) (hf : ∀ a r, r <:+ t → Within depth r (f (a, r))) :
    Within depth t (x >>= f) := by
  match x, hx with
  | .ok (a, r), hr => exact (hf a r hr).of_suffix hr
  | .error (.defect _ _), _ => exact True.intro
  | .error (.longInteger _), h => exact h
  | .error .tooDeep, h => exact h

/-! ## 2.  Blanks, strings and numbers -/

theorem skip_suffix (t : Text) : skip t <:+ t := List.dropWhile_suffix _

/-- What stands behind a sign that follows blanks. -/
theorem behind_suffix {c : Char} (h : skip t = c :: r) : r <:+ t :=
  (List.suffix_cons c r).trans (h ▸ skip_suffix t)

theorem suffix_of_fourHex? {n : Nat} (h : fourHex? t = some (n, r)) : r <:+ t := by
  unfold fourHex? at h
  split at h
  · rename_i a b c d rest
    split at h
    · obtain ⟨-, rfl⟩ := Prod.mk.inj (Option.some.inj h)
      exact ⟨[a, b, c, d], rfl⟩
    · cases h
  · cases h

theorem suffix_of_lowUnit? {n : Nat} (h : lowUnit? t = some (n, r)) : r <:+ t := by
  unfold lowUnit? at h
  split at h
  · rename_i rest
    split at h
    · rename_i n' r' hhex
      split at h
      · obtain ⟨-, rfl⟩ := Prod.mk.inj (Option.some.inj h)
        exact (suffix_of_fourHex? hhex).trans ⟨['\\', 'u'], rfl⟩
      · cases h
    · cases h
  · cases h

theorem within_unicodeEscape (t : Text) : Within depth t (unicodeEscape t) := by
  unfold unicodeEscape
  split
  · exact True.intro
  · rename_i n r hhex
    have hr : r <:+ t := (suffix_of_fourHex? hhex).trans (List.drop_suffix 1 t)
    split
    · exact True.intro
    · split
      · split
        · rename_i low r' hlow
          exact (suffix_of_lowUnit? hlow).trans hr
        · exact hr
      · split
        · exact hr
        · exact hr

/-- One character more in front of a string that is read. -/
theorem Within.more {x : Except Failure (Text × Text)} (h : Within depth t x) (c : Char) :
    Within depth t (x >>= fun y => .ok (c :: y.1, y.2)) :=
  h.bind fun _ r _ => List.suffix_refl r

theorem within_stringTail (start : Text) (n : Nat) (t : Text) :
    Within depth t (stringTail start n t) := by
  induction n generalizing t with
  | zero => exact True.intro
  | succ n ih =>
    unfold stringTail
    split
    · exact True.intro
    · exact List.suffix_cons _ _
    · exact True.intro
    · rename_i r
      exact (((within_unicodeEscape ('u' :: r)).bind fun c r' _ => (ih r').more c).of_suffix
        (List.suffix_cons _ _))
    · split
      · exact True.intro
      · exact ((ih _).more _).of_suffix ((List.suffix_cons _ _).trans (List.suffix_cons _ _))
    · split
      · exact True.intro
      · exact ((ih _).more _).of_suffix (List.suffix_cons _ _)

theorem within_string (t : Text) : Within depth t (string t) :=
  (within_stringTail t t.length (t.drop 1)).of_suffix (List.drop_suffix 1 t)

/-- Digits that are read stand in front of what is left. -/
theorem of_digits? {ds : Text} (h : digits? t = some (ds, r)) :
    ds ++ r = t ∧ ∀ c ∈ ds, Text.isDigitAscii c = true := by
  unfold digits? at h
  split at h
  · cases h
  · obtain hspan := Option.some.inj h
    refine ⟨Text.append_of_span hspan, fun c hc => ?_⟩
    rw [List.span_eq_takeWhile_dropWhile] at hspan
    rw [← (Prod.mk.inj hspan).1] at hc
    exact List.mem_takeWhile_imp hc

theorem of_whole? {ds : Text} (h : whole? t = some (ds, r)) :
    ds ++ r = t ∧ ∀ c ∈ ds, Text.isDigitAscii c = true := by
  unfold whole? at h
  split at h
  · obtain ⟨rfl, rfl⟩ := Prod.mk.inj (Option.some.inj h)
    exact ⟨rfl, fun c hc => List.mem_singleton.1 hc ▸ rfl⟩
  · exact of_digits? h

theorem suffix_of_digits? {ds : Text} (h : digits? t = some (ds, r)) : r <:+ t :=
  ⟨ds, (of_digits? h).1⟩

theorem fraction_suffix (t : Text) : (fraction t).2 <:+ t := by
  unfold fraction
  split
  · split
    · rename_i hds
      exact (suffix_of_digits? hds).trans (List.suffix_cons _ _)
    · exact List.suffix_refl _
  · exact List.suffix_refl _

theorem exponent_suffix (t : Text) : (exponent t).2 <:+ t := by
  unfold exponent
  split
  · rename_i e r
    split
    · dsimp only
      split
      · rename_i ds r' hds
        refine (suffix_of_digits? hds).trans (List.IsSuffix.trans ?_ (List.suffix_cons e r))
        split
        · exact List.suffix_cons _ _
        · exact List.suffix_cons _ _
        · exact List.suffix_refl _
      · exact List.suffix_refl _
    · exact List.suffix_refl _
  · exact List.suffix_refl _

theorem within_number (t : Text) : Within depth t (number t) := by
  unfold number
  split
  rename_i negative r hr
  have hsign : r <:+ t := by
    split at hr
    · obtain ⟨-, rfl⟩ := Prod.mk.inj hr
      exact List.suffix_cons _ _
    · obtain ⟨-, rfl⟩ := Prod.mk.inj hr
      exact List.suffix_refl _
  split
  · exact True.intro
  · rename_i ds r' hwhole
    obtain ⟨happend, hdigits⟩ := of_whole? hwhole
    have hr' : r' <:+ t := List.IsSuffix.trans ⟨ds, happend⟩ hsign
    have hleft : (exponent (fraction r').2).2 <:+ t :=
      ((exponent_suffix _).trans (fraction_suffix _)).trans hr'
    dsimp only
    split
    · split
      · rename_i hlong
        exact ⟨ds, List.IsInfix.trans ⟨[], r', happend⟩ hsign.isInfix, hdigits, hlong⟩
      · exact hleft
    · exact hleft

theorem suffix_of_word? {v : Value} (h : word? t = some (v, r)) : r <:+ t := by
  obtain ⟨⟨w, v'⟩, -, hw⟩ := List.exists_of_findSome?_eq_some h
  obtain ⟨rest, hrest, heq⟩ := Option.map_eq_some_iff.1 hw
  obtain ⟨-, rfl⟩ := Prod.mk.inj heq
  exact ⟨w, Text.append_of_after? hrest⟩

/-! ## 3.  Values -/

/-- An opened bracket is one more than those behind it, so one level more may be opened. -/
theorem Within.opened {x : Except Failure (α × Text)} {c : Char}
    (hc : (c = '[' || c = '\x7b') = true) (h : Within depth r x) :
    Within (depth + 1) (c :: r) x := by
  match x, h with
  | .ok _, h => exact List.IsSuffix.trans h (List.suffix_cons c r)
  | .error (.defect _ _), _ => exact True.intro
  | .error (.longInteger _), h => exact HasLongRun.of_suffix h (List.suffix_cons c r)
  | .error .tooDeep, h =>
    have hcount : brackets (c :: r) = brackets r + 1 := List.countP_cons_of_pos hc
    change depth + 1 < brackets (c :: r)
    rw [hcount]
    exact Nat.succ_lt_succ h

/-- Where no level is left, an opened bracket is one too many. -/
theorem opened_pos {c : Char} (hc : (c = '[' || c = '\x7b') = true) : 0 < brackets (c :: r) := by
  have hcount : brackets (c :: r) = brackets r + 1 := List.countP_cons_of_pos hc
  rw [hcount]
  exact Nat.succ_pos _

/-- The step for a value. -/
theorem within_value_succ {n : Nat} (hmembers : ∀ depth t, Within depth t (members depth n t))
    (hentries : ∀ depth t, Within depth t (entries depth n t)) (depth : Nat) (t : Text) :
    Within depth t (value depth (n + 1) t) := by
  unfold value
  split
  · exact (within_string _).bind fun s r _ => List.suffix_refl r
  · rename_i r
    split
    · exact opened_pos rfl
    · refine Within.opened rfl ?_
      split
      · rename_i hr
        exact behind_suffix hr
      · refine Within.of_suffix ((hmembers _ _).bind fun vs r _ => ?_) (skip_suffix r)
        exact List.suffix_refl r
  · rename_i r
    split
    · exact opened_pos rfl
    · refine Within.opened rfl ?_
      split
      · rename_i hr
        exact behind_suffix hr
      · refine Within.of_suffix ((hentries _ _).bind fun es r _ => ?_) (skip_suffix r)
        exact List.suffix_refl r
  · split
    · rename_i found hfound
      exact suffix_of_word? hfound
    · exact within_number t

/-- The step for members: one of them, and then the others. -/
theorem within_members_succ {n : Nat} (hvalue : ∀ depth t, Within depth t (value depth n t))
    (hmembers : ∀ depth t, Within depth t (members depth n t)) (depth : Nat) (t : Text) :
    Within depth t (members depth (n + 1) t) := by
  unfold members
  refine (hvalue depth t).bind fun v r _ => ?_
  dsimp only
  split
  · rename_i hr
    exact behind_suffix hr
  · rename_i r' hr
    refine Within.of_suffix ((hmembers depth (skip r')).bind fun vs r _ => ?_)
      ((skip_suffix r').trans (behind_suffix hr))
    exact List.suffix_refl r
  · exact True.intro

/-- The step for entries: the key and the value of one of them, and then the others. -/
theorem within_entries_succ {n : Nat} (hvalue : ∀ depth t, Within depth t (value depth n t))
    (hentries : ∀ depth t, Within depth t (entries depth n t)) (depth : Nat) (t : Text) :
    Within depth t (entries depth (n + 1) t) := by
  unfold entries
  split
  · refine (within_string _).bind fun key r _ => ?_
    dsimp only
    split
    · rename_i r' hr
      refine Within.of_suffix ((hvalue depth (skip r')).bind fun v r _ => ?_)
        ((skip_suffix r').trans (behind_suffix hr))
      dsimp only
      split
      · rename_i hr
        exact behind_suffix hr
      · rename_i r' hr
        refine Within.of_suffix ((hentries depth (skip r')).bind fun es r _ => ?_)
          ((skip_suffix r').trans (behind_suffix hr))
        exact List.suffix_refl r
      · exact True.intro
    · exact True.intro
  · exact True.intro

/-- **Values, members and entries** are read within the limits. -/
theorem within_value (n depth : Nat) (t : Text) : Within depth t (value depth n t) ∧
    Within depth t (members depth n t) ∧ Within depth t (entries depth n t) := by
  induction n generalizing depth t with
  | zero =>
    unfold value members entries
    exact ⟨True.intro, True.intro, True.intro⟩
  | succ n ih =>
    have hvalue := fun depth t => (ih depth t).1
    have hmembers := fun depth t => (ih depth t).2.1
    have hentries := fun depth t => (ih depth t).2.2
    exact ⟨within_value_succ hmembers hentries depth t, within_members_succ hvalue hmembers depth t,
      within_entries_succ hvalue hentries depth t⟩

/-! ## 4.  Texts -/

/-- What is known of the reading of a whole text. -/
theorem within_parse (t : Text) :
    Within depthLimit t (parse t >>= fun v => .ok (v, [])) := by
  unfold parse
  split
  · exact True.intro
  · rw [bind_assoc]
    refine ((within_value _ depthLimit (skip t)).1.bind fun v r _ => ?_).of_suffix (skip_suffix t)
    dsimp only
    split
    · exact List.nil_suffix
    · exact True.intro

/-- **An integer that is too long** stands in the text. -/
theorem hasLongRun_of_parse {n : Nat} (h : parse t = .error (.longInteger n)) : HasLongRun t := by
  have hwithin := within_parse t
  rwa [h] at hwithin

/-- **Members that are too deep** inside each other have brackets in the text. -/
theorem brackets_of_parse (h : parse t = .error .tooDeep) : depthLimit < brackets t := by
  have hwithin := within_parse t
  rwa [h] at hwithin

end UiHarness.Json
