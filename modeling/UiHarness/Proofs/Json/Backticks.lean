import Mathlib.Data.List.Basic
import UiHarness.Proofs.Json.RoundTrip

/-!
# Where backticks come from

Writing a value adds brackets, commas, colons, quotes, backslashes and blanks, but no backticks, and
a backtick in a text of the value is written as it is.  What the writing adds also stands between
any two of these texts.  So backticks in a row are written exactly if they stand in a row in one of
the texts.

* `Value.Has`: a text stands in a value.
* `Json.infix_pretty_iff`: when some backticks in a row are written.
-/

namespace UiHarness

/-! ## 1.  The texts of a value -/

/-- A text is part of a text in a value: of the value itself, of a key, or of one in a member. -/
inductive Value.Shows (m : Text) : Value → Prop
  | text {t : Text} : m <:+: t → Shows m (.text t)
  | member {vs : List Value} {v : Value} : v ∈ vs → Shows m v → Shows m (.list vs)
  | key {es : List (Text × Value)} {e : Text × Value} : e ∈ es → m <:+: e.1 → Shows m (.table es)
  | entry {es : List (Text × Value)} {e : Text × Value} :
    e ∈ es → Shows m e.2 → Shows m (.table es)

namespace Value

variable {m t : Text}

@[simp] theorem not_shows_null : ¬ Shows m .null := nofun

@[simp] theorem not_shows_bool {b : Bool} : ¬ Shows m (.bool b) := nofun

@[simp] theorem shows_text : Shows m (.text t) ↔ m <:+: t :=
  ⟨fun (.text h) => h, .text⟩

@[simp] theorem shows_list {vs : List Value} : Shows m (.list vs) ↔ ∃ v ∈ vs, Shows m v :=
  ⟨fun (.member hv h) => ⟨_, hv, h⟩, fun ⟨_, hv, h⟩ => .member hv h⟩

@[simp] theorem shows_table {es : List (Text × Value)} :
    Shows m (.table es) ↔ ∃ e ∈ es, m <:+: e.1 ∨ Shows m e.2 := by
  constructor
  · rintro (_ | _ | ⟨he, h⟩ | ⟨he, h⟩)
    · exact ⟨_, he, .inl h⟩
    · exact ⟨_, he, .inr h⟩
  · rintro ⟨e, he, h | h⟩
    · exact .key he h
    · exact .entry he h

end Value

/-! ## 2.  What stands between -/

namespace Text

variable {m a x t : Text}

/-- A text does not begin with a character of `m`. -/
def Apart (m t : Text) : Prop := ∀ c ∈ t.head?, c ∉ m

theorem apart_cons {c : Char} (hc : c ∉ m) (t : Text) : Apart m (c :: t) := by
  rintro d ⟨⟩
  exact hc

/-- A text does not stand across the beginning of one that is apart from it. -/
theorem infix_append_iff_of_apart (h : Apart m t) : m <:+: a ++ t ↔ m <:+: a ∨ m <:+: t := by
  rw [List.infix_append_iff_ne_nil]
  refine or_congr_right (or_iff_left ?_)
  rintro ⟨p, q, -, hq, rfl, -, hqt⟩
  obtain ⟨c, q, rfl⟩ := List.exists_cons_of_ne_nil hq
  obtain ⟨r, rfl⟩ := hqt
  exact h c rfl (List.mem_append_right p (List.mem_cons_self ..))

/-- What has none of the characters of a text does not matter in front of it. -/
theorem infix_append_iff_of_not_mem (hm : m ≠ []) (hx : ∀ c ∈ x, c ∉ m) :
    m <:+: x ++ t ↔ m <:+: t := by
  induction x with
  | nil => rfl
  | cons c x ih =>
    rw [List.forall_mem_cons] at hx
    rw [List.cons_append, List.infix_cons_iff, ih hx.2]
    refine or_iff_right fun hprefix => ?_
    obtain ⟨d, m, rfl⟩ := List.exists_cons_of_ne_nil hm
    obtain rfl := (List.cons_prefix_cons.1 hprefix).1
    exact hx.1 (List.mem_cons_self ..)

end Text

namespace Json

open Text

/-- Backticks in a row, at least one. -/
structure IsTicks (m : Text) : Prop where
  ne_nil : m ≠ []
  eq_tick : ∀ c ∈ m, c = '`'

variable {m t : Text} {depth level : Nat} {v : Value}

theorem IsTicks.not_mem (hm : IsTicks m) {c : Char} (hc : c ≠ '`') : c ∉ m :=
  fun h => hc (hm.eq_tick c h)

theorem IsTicks.forall_not_mem (hm : IsTicks m) (h : '`' ∉ t) : ∀ c ∈ t, c ∉ m :=
  fun c hc hmem => h (hm.eq_tick c hmem ▸ hc)

theorem IsTicks.not_infix (hm : IsTicks m) (h : '`' ∉ t) : ¬ m <:+: t := fun hmt => by
  obtain ⟨c, m, rfl⟩ := List.exists_cons_of_ne_nil hm.ne_nil
  have hc := List.mem_cons_self (a := c) (l := m)
  exact hm.forall_not_mem h c (hmt.subset hc) hc

/-- A character is a backtick and is written as such, or it is written without backticks. -/
theorem escaped_tick_cases (c : Char) :
    c = '`' ∨ c ≠ '`' ∧ escaped c ≠ [] ∧ '`' ∉ escaped c := by
  have hunit : ∀ n, '`' ∉ unitEscape n := by
    intro n h
    rcases List.mem_append.1 h with h | h
    · exact absurd h (by decide)
    · exact absurd (Text.isHexDigit_of_mem_hexPadded h) (by decide)
  by_cases hc : c = '`'
  · exact .inl hc
  · refine .inr ⟨hc, ?_⟩
    rcases escaped_cases c with ⟨e, he, hshort⟩ | ⟨he, -⟩ | ⟨he, -⟩ | ⟨he, -⟩
    · rw [he]
      refine ⟨List.cons_ne_nil _ _, ?_⟩
      rintro (_ | ⟨_, _ | ⟨_, h⟩⟩)
      · cases hshort
      · cases h
    · rw [he]
      exact ⟨List.cons_ne_nil _ _, fun h => hc (List.mem_singleton.1 h).symm⟩
    · rw [he]
      exact ⟨List.cons_ne_nil _ _, hunit _⟩
    · rw [he]
      exact ⟨List.cons_ne_nil _ _, fun h => (List.mem_append.1 h).elim (hunit _) (hunit _)⟩

/-- Backticks begin what is written for a text exactly if they begin the text. -/
theorem prefix_flatMap_escaped_iff (hm : ∀ c ∈ m, c = '`') :
    m <+: t.flatMap escaped ↔ m <+: t := by
  induction t generalizing m with
  | nil => rfl
  | cons c t ih =>
    cases m with
    | nil => exact iff_of_true List.nil_prefix List.nil_prefix
    | cons d m =>
      rw [List.forall_mem_cons] at hm
      obtain ⟨rfl, hm⟩ := hm
      rw [List.flatMap_cons]
      rcases escaped_tick_cases c with rfl | ⟨hc, hne, hfree⟩
      · exact List.cons_prefix_cons.trans
          ((and_congr_right fun _ => ih hm).trans List.cons_prefix_cons.symm)
      · obtain ⟨e, u, hu⟩ := List.exists_cons_of_ne_nil hne
        rw [hu] at hfree ⊢
        rw [List.cons_append, List.cons_prefix_cons, List.cons_prefix_cons]
        exact iff_of_false (fun h => hfree (h.1 ▸ List.mem_cons_self ..)) fun h => hc h.1.symm

/-- Backticks stand in what is written for a text exactly if they stand in the text. -/
theorem infix_flatMap_escaped_iff (hm : IsTicks m) : m <:+: t.flatMap escaped ↔ m <:+: t := by
  induction t with
  | nil => rfl
  | cons c t ih =>
    rw [List.flatMap_cons]
    rcases escaped_tick_cases c with rfl | ⟨hc, -, hfree⟩
    · have hhead := prefix_flatMap_escaped_iff (t := '`' :: t) hm.eq_tick
      rw [List.flatMap_cons] at hhead
      have hescaped : escaped '`' ++ t.flatMap escaped = '`' :: t.flatMap escaped := rfl
      rw [hescaped] at hhead ⊢
      rw [List.infix_cons_iff, List.infix_cons_iff, hhead, ih]
    · have hsingle : '`' ∉ [c] := fun h => hc (List.mem_singleton.1 h).symm
      rw [infix_append_iff_of_not_mem hm.ne_nil (hm.forall_not_mem hfree), ih]
      exact (infix_append_iff_of_not_mem hm.ne_nil (hm.forall_not_mem hsingle)).symm

theorem infix_quote_iff (hm : IsTicks m) : m <:+: quote t ↔ m <:+: t := by
  rw [quote, infix_append_iff_of_apart (apart_cons (hm.not_mem (by decide)) []),
    or_iff_left (hm.not_infix (by decide)), ← List.singleton_append,
    infix_append_iff_of_not_mem hm.ne_nil (hm.forall_not_mem (by decide)),
    infix_flatMap_escaped_iff hm]

theorem tick_not_mem_newline (level : Nat) : '`' ∉ newline level := by
  rintro (_ | ⟨_, h⟩)
  cases (List.mem_replicate.1 h).2

/-- A new line with a closing sign behind it. -/
theorem infix_append_close_iff (hm : IsTicks m) {c : Char} (hc : c ≠ '`') :
    m <:+: t ++ (newline level ++ [c]) ↔ m <:+: t := by
  have hclose : '`' ∉ newline level ++ [c] := fun h =>
    (List.mem_append.1 h).elim (tick_not_mem_newline level)
      fun h => hc (List.mem_singleton.1 h).symm
  rw [newline, List.cons_append] at hclose ⊢
  rw [infix_append_iff_of_apart (apart_cons (hm.not_mem (by decide)) _),
    or_iff_left (hm.not_infix hclose)]

/-- A new line with something in front of it and something behind it. -/
theorem infix_cons_newline_iff (hm : IsTicks m) {c : Char} (hc : c ≠ '`') :
    m <:+: c :: (newline level ++ t) ↔ m <:+: t := by
  have hfront : '`' ∉ c :: newline level := fun h =>
    (List.mem_cons.1 h).elim (fun h => hc h.symm) (tick_not_mem_newline level)
  rw [← List.cons_append, infix_append_iff_of_not_mem hm.ne_nil (hm.forall_not_mem hfront)]

/-- Backticks in the members of a list. -/
theorem infix_members_iff (hm : IsTicks m) (v : Value) (vs : List Value) {below : Nat} :
    m <:+: indented level v ++ (indentedMembers level vs ++ (newline below ++ [']'])) ↔
      ∃ w ∈ v :: vs, m <:+: indented level w := by
  rw [List.exists_mem_cons_iff]
  induction vs generalizing v with
  | nil =>
    rw [indentedMembers, List.nil_append, infix_append_close_iff hm (by decide)]
    exact (or_iff_left (by simp)).symm
  | cons w vs ih =>
    rw [indentedMembers_cons_append,
      infix_append_iff_of_apart (apart_cons (hm.not_mem (by decide)) _),
      infix_cons_newline_iff hm (by decide), ih, List.exists_mem_cons_iff]

/-- Backticks in a key and in what is behind it. -/
theorem infix_key_iff (hm : IsTicks m) {key : Text} :
    m <:+: quote key ++ ':' :: ' ' :: t ↔ m <:+: key ∨ m <:+: t := by
  rw [infix_append_iff_of_apart (apart_cons (hm.not_mem (by decide)) _), infix_quote_iff hm]
  exact or_congr_right (infix_append_iff_of_not_mem (x := [':', ' ']) hm.ne_nil
    (hm.forall_not_mem (by decide)))

/-- Backticks in the entries of a table. -/
theorem infix_entries_iff (hm : IsTicks m) (e : Text × Value) (es : List (Text × Value))
    {below : Nat} :
    m <:+: quote e.1 ++ ':' :: ' ' :: (indented level e.2 ++
      (indentedEntries level es ++ (newline below ++ ['\x7d']))) ↔
        ∃ f ∈ e :: es, m <:+: f.1 ∨ m <:+: indented level f.2 := by
  rw [List.exists_mem_cons_iff, infix_key_iff hm, or_assoc]
  refine or_congr_right ?_
  induction es generalizing e with
  | nil =>
    rw [indentedEntries, List.nil_append, infix_append_close_iff hm (by decide)]
    exact (or_iff_left (by simp)).symm
  | cons f es ih =>
    rw [indentedEntries_cons_append,
      infix_append_iff_of_apart (apart_cons (hm.not_mem (by decide)) _),
      infix_cons_newline_iff hm (by decide), infix_key_iff hm, ih, List.exists_mem_cons_iff,
      or_assoc]

/-- Backticks are not part of keys that have none. -/
theorem shows_table_iff_of_keys (hm : IsTicks m) {es : List (Text × Value)}
    (hkeys : ∀ key ∈ es.map Prod.fst, '`' ∉ key) :
    (Value.table es).Shows m ↔ ∃ e ∈ es, e.2.Shows m := by
  rw [Value.shows_table]
  exact exists_congr fun e => and_congr_right fun he =>
    or_iff_right (hm.not_infix (hkeys e.1 (List.mem_map_of_mem he)))

/-- **Backticks in a row are written** exactly if they are part of a text in the value. -/
theorem infix_indented_iff (hm : IsTicks m) (h : Plain depth v) (level : Nat) :
    m <:+: indented level v ↔ v.Shows m := by
  induction h generalizing level with
  | null => exact iff_of_false (hm.not_infix (t := "null") (by decide)) Value.not_shows_null
  | bool b =>
    refine iff_of_false ?_ Value.not_shows_bool
    cases b with
    | true => exact hm.not_infix (t := "true") (by decide)
    | false => exact hm.not_infix (t := "false") (by decide)
  | text t => exact (infix_quote_iff hm).trans Value.shows_text.symm
  | @list depth vs hmembers ih =>
    rw [Value.shows_list]
    cases vs with
    | nil =>
      exact iff_of_false (hm.not_infix (t := "[]") (by decide)) (by simp)
    | cons v vs =>
      have htext := indented_list_append level v vs []
      rw [List.append_nil] at htext
      rw [htext, infix_cons_newline_iff hm (by decide), infix_members_iff hm]
      exact exists_congr fun w => and_congr_right fun hw => ih w hw _
  | @table depth es hkeys hvalues ih =>
    rw [Value.shows_table]
    cases es with
    | nil =>
      exact iff_of_false (hm.not_infix (t := "\x7b\x7d") (by decide)) (by simp)
    | cons e es =>
      have htext := indented_table_append level e es []
      rw [List.append_nil] at htext
      rw [htext, infix_cons_newline_iff hm (by decide), infix_entries_iff hm]
      exact exists_congr fun f => and_congr_right fun hf => or_congr_right (ih f hf _)

theorem infix_pretty_iff (hm : IsTicks m) (h : Plain depth v) : m <:+: pretty v ↔ v.Shows m :=
  infix_indented_iff hm h 0

end Json

end UiHarness
